import LineScript.Proofs.Arith.Rules
import LineScript.Proofs.Expression.Concatenation
import LineScript.Proofs.Expression.Origin

/-!
# How long strings get

No expression makes a string that is longer than a string may be, than its own text and than every string
that the variables hold (`strings_bounded`). A string that stands in the text is a piece of it, one that a
path leads to is inside an object, and every string that is made fits.
-/

namespace LineScript

theorem Text.bytes_le_of_sublist {t u : Text} (h : t.Sublist u) :
    (String.ofList t).utf8ByteSize ≤ (String.ofList u).utf8ByteSize := by
  induction h with
  | slnil => exact Nat.le_refl _
  | cons c _ ih =>
    rw [String.ofList_cons, String.utf8ByteSize_append]
    omega
  | cons_cons c _ ih =>
    rw [String.ofList_cons, String.ofList_cons, String.utf8ByteSize_append, String.utf8ByteSize_append]
    omega

theorem Text.trim_sublist (t : Text) : (trim t).Sublist t := by
  have hend := trimEnd_prefix (trimStart t)
  exact hend.sublist.trans (List.dropWhile_sublist _)

/-! ## The strings of values -/

namespace Value

mutual

/-- The bytes of the longest string in a value, at any depth. -/
def longest : Value → Nat
  | string s => s.utf8ByteSize
  | object fields => longestOfFields fields
  | _ => 0
termination_by structural v => v

def longestOfFields : List (String × Value) → Nat
  | [] => 0
  | (_, v) :: rest => max v.longest (longestOfFields rest)
termination_by structural fields => fields

end

theorem longest_le_of_get? {fields : Entries Value} {key : String} {v : Value}
    (h : fields.get? key = some v) : v.longest ≤ longestOfFields fields := by
  induction fields with
  | nil => cases h
  | cons e rest ih =>
    rw [longestOfFields]
    rw [Entries.get?] at h
    split at h
    · cases h
      exact Nat.le_max_left _ _
    · exact Nat.le_trans (ih h) (Nat.le_max_right _ _)

theorem longest_field_le (v : Value) (key : String) : (v.field key).longest ≤ v.longest := by
  cases v with
  | object fields =>
    show ((Entries.get? key fields).getD null).longest ≤ longestOfFields fields
    cases hget : Entries.get? key fields with
    | none => exact Nat.zero_le _
    | some w => exact longest_le_of_get? hget
  | _ => exact Nat.zero_le _

theorem longest_follow_le (v : Value) (path : List String) : (v.follow path).longest ≤ v.longest := by
  induction path generalizing v with
  | nil => exact Nat.le_refl _
  | cons key path ih => exact Nat.le_trans (ih (v.field key)) (longest_field_le v key)

end Value

/-! ## The strings of tokens -/

namespace Arith

theorem sublist_of_string? {quote : Char} {t rest : Text} {token : Token}
    (h : string? quote t = some (token, rest)) :
    rest <:+ t ∧ ∀ s, token = .string s → s.toList.Sublist t := by
  obtain ⟨⟨body, after⟩, hcut, hsome⟩ := Option.map_eq_some_iff.mp h
  cases hsome
  obtain ⟨rfl, -⟩ := Condition.splitFirst_eq_some hcut
  refine ⟨⟨body ++ [quote], by simp⟩, fun s hs => ?_⟩
  cases hs
  rw [String.toList_ofList]
  exact List.sublist_append_left body _

theorem sublist_of_first? {t rest : Text} {token : Token} (h : Token.first? t = some (token, rest)) :
    rest <:+ t ∧ ∀ s, token = .string s → s.toList.Sublist t := by
  unfold Token.first? at h
  split at h
  · obtain ⟨piece, rfl, -⟩ := Condition.exists_piece_number h
    refine ⟨List.suffix_append piece rest, ?_⟩
    rcases Condition.token_of_number? h with ⟨n, rfl⟩ | ⟨x, rfl⟩ <;> exact fun _ hs => nomatch hs
  · split at h
    -- strings in quotes of both kinds
    case h_1 | h_2 =>
      obtain ⟨hrest, hstring⟩ := sublist_of_string? h
      exact ⟨hrest.trans (List.suffix_cons _ _),
        fun s hs => (hstring s hs).trans (List.sublist_cons_self _ _)⟩
    -- marks
    case h_3 | h_4 | h_5 | h_6 =>
      cases h
      exact ⟨List.suffix_cons _ rest, fun _ hs => nomatch hs⟩
    -- words and signs
    case h_7 =>
      split at h
      · cases h
        exact ⟨(List.dropWhile_suffix _).trans (List.suffix_cons _ _), fun _ hs => nomatch hs⟩
      · obtain ⟨⟨sign, after⟩, hsign, hsome⟩ := Option.map_eq_some_iff.mp h
        cases hsome
        exact ⟨(Sign.suffix_of_take? hsign).trans (List.suffix_cons _ _), fun _ hs => nomatch hs⟩
    case h_8 => cases h

theorem sublist_of_ofText? {t : Text} {ts : List Token} (h : Token.ofText? t = some ts) {s : String}
    (hs : .string s ∈ ts) : s.toList.Sublist t := by
  induction t using tokensFrom.induct generalizing ts with
  | case1 =>
    rw [ofText?_nil] at h
    cases h
    cases hs
  | case2 c t hblank ih =>
    rw [ofText?_cons, if_pos hblank] at h
    exact (ih h hs).trans (List.sublist_cons_self c t)
  | case3 c t hblank hfirst =>
    rw [ofText?_cons, if_neg hblank, hfirst] at h
    cases h
  | case4 c t hblank token after hfirst _ ih =>
    rw [ofText?_cons, if_neg hblank, hfirst] at h
    obtain ⟨us, hus, rfl⟩ := Option.map_eq_some_iff.mp h
    obtain ⟨hafter, hstring⟩ := sublist_of_first? hfirst
    rcases List.mem_cons.mp hs with hs | hs
    · exact hstring s hs.symm
    · exact (ih hus hs).trans hafter.sublist

end Arith

namespace Expression

/-- The most bytes that a string of an expression may have, over variables: as many as a string that is
made, as the text, and as the longest string that the variables hold. -/
def stringBound (t : Text) (vars : Table Value) : Nat :=
  max maxStringBytes (max (String.ofList t).utf8ByteSize (Value.longestOfFields vars.entries))

variable {t : Text} {vars : Table Value} {s : String}

theorem le_stringBound_of_fits (h : s.utf8ByteSize ≤ maxStringBytes) :
    s.utf8ByteSize ≤ stringBound t vars := Nat.le_trans h (Nat.le_max_left _ _)

theorem le_stringBound_of_sublist (h : s.toList.Sublist t) : s.utf8ByteSize ≤ stringBound t vars := by
  have hbytes := Text.bytes_le_of_sublist h
  rw [String.ofList_toList] at hbytes
  unfold stringBound
  omega

theorem le_stringBound_of_get? {name : String} {v : Value} (h : vars.get? name = some v) :
    v.longest ≤ stringBound t vars := by
  have hlongest := Value.longest_le_of_get? h
  unfold stringBound
  omega

/-- The strings that a computation yields have no more bytes than the bound, whatever it draws. -/
def StringsWithin {ε : Type} (bound : Nat) (m : Drawn ε Value) : Prop :=
  ∀ draws s draws', m draws = .ok (.string s, draws') → s.utf8ByteSize ≤ bound

theorem within_of_simple? (h : simple? vars (Text.trim t) = some (.string s)) :
    s.utf8ByteSize ≤ stringBound t vars := by
  rcases source_of_simple? h with hquoted | hnumber | hget | hdotted
  · obtain ⟨body, ht, -, hs⟩ := string_of_quoted? hquoted
    cases hs
    refine le_stringBound_of_sublist ?_
    have hbody : body.Sublist ('"' :: (body ++ ['"'])) :=
      (List.sublist_append_left body _).trans (List.sublist_cons_self _ _)
    rw [String.toList_ofList]
    exact (ht ▸ hbody).trans (Text.trim_sublist t)
  · rcases number_of_number? hnumber with ⟨n, hs⟩ | ⟨x, hs⟩ <;> cases hs
  · exact le_stringBound_of_get? hget
  · obtain ⟨name, fields, path, hget, hs⟩ := object_of_dotted? hdotted
    have hlongest := Value.longest_follow_le (.object fields) path
    rw [← hs] at hlongest
    exact Nat.le_trans hlongest (le_stringBound_of_get? hget)

/-- A string has no more bytes than the bound. -/
def Fits (t : Text) (vars : Table Value) (s : String) : Prop := s.utf8ByteSize ≤ stringBound t vars

theorem ofShort_fits : Arith.OfShort (Fits t vars) := fun _ => le_stringBound_of_fits

theorem fits_of_get? {name : String} (h : vars.get? name = some (.string s)) : Fits t vars s :=
  le_stringBound_of_get? h

theorem fits_of_token {ts : List Arith.Token} (hts : Arith.Token.ofText? t = some ts)
    (hs : .string s ∈ ts) : Fits t vars s :=
  le_stringBound_of_sublist (Arith.sublist_of_ofText? hts hs)

theorem within_of_writtenIn {ts : List Arith.Token} (hts : Arith.Token.ofText? t = some ts)
    {e : Arith.Expr} (he : e.WrittenIn ts) : StringsWithin (stringBound t vars) (e.eval vars) := by
  intro draws s draws' h
  have hgives : Arith.Gives (Value.ScalarWith (Fits t vars)) (e.eval vars) :=
    Arith.gives_eval ofShort_fits (fun _ _ => fits_of_get?) e fun s hs => fits_of_token hts (he s hs)
  exact hgives draws (.string s) draws' h

/-- At every place of a text a rule yields strings within the bound of the text, and so does a row of
operators as far as it has been evaluated. -/
theorem within_of_mem_rules {ts us : List Arith.Token} (hts : Arith.Token.ofText? t = some ts)
    (hus : us <:+ ts) {depth : Nat} {rule : Arith.Reader Value} (hrule : rule ∈ Arith.rules vars depth) :
    Arith.Gives (fun result => result.1.ScalarWith (Fits t vars)) (rule us) ∧
      ∀ operator? count left, left.ScalarWith (Fits t vars) →
        Arith.Gives (fun result => result.1.ScalarWith (Fits t vars))
          (Arith.Reader.leftTail operator? rule count left us) := by
  have hmakes : Arith.Makes (Fits t vars) rule :=
    Arith.makes_of_mem_rules ofShort_fits (fun _ _ => fits_of_get?) hrule
  have hwritten : ∀ s, .string s ∈ us → Fits t vars s := fun s hs => fits_of_token hts (hus.subset hs)
  refine ⟨fun draws result last h => (hmakes us hwritten draws result last h).1,
    fun operator? count left hleft draws result last h => ?_⟩
  exact (hmakes.leftTail ofShort_fits operator? count hleft us hwritten draws result last h).1

theorem stringBound_trim_le (t : Text) (vars : Table Value) :
    stringBound (Text.trim t) vars ≤ stringBound t vars := by
  have hbytes := Text.bytes_le_of_sublist (Text.trim_sublist t)
  unfold stringBound
  omega

theorem within_of_arithmetic (t : Text) (vars : Table Value) :
    StringsWithin (stringBound t vars) (Arith.evaluate vars t) := by
  intro draws s draws' h
  obtain ⟨ts, e, hts, he, hvalue⟩ := Arith.evaluate_eq_ok_iff.mp h
  exact within_of_writtenIn hts (Arith.writtenIn_of_ofTokens? he) draws s draws' hvalue

theorem within_of_evaluate (t : Text) (vars : Table Value) :
    StringsWithin (stringBound t vars) (evaluate t vars) := by
  intro draws s draws' h
  rcases source_of_evaluate h with hsimple | hvalue | ⟨texts, joined, hjoined, hs⟩
  · exact within_of_simple? hsimple
  · exact Nat.le_trans (within_of_arithmetic (Text.trim t) vars draws s draws' hvalue)
      (stringBound_trim_le t vars)
  · cases hs
    rw [joinAfter_eq (Nat.zero_le _)] at hjoined
    split at hjoined
    · next hfits =>
      cases hjoined
      refine le_stringBound_of_fits ?_
      rwa [String.utf8ByteSize_append, bytes_join]
    · cases hjoined

/-- No expression yields a string that is longer than a string may be, than its text and than the strings
of the variables, and neither does any part of an arithmetic expression that is made of the tokens of a
text, be it the tree of the text or what was read before a fault, nor any rule at any place of the text, nor
a row of operators as far as it has been evaluated. Arithmetic makes every string that fits:
a sum of strings, and the copies of a string, in either order and for every count, where the product of
the lengths is less than 2 ^ 64 whenever there is a result. -/
theorem strings_bounded (vars : Table Value) :
    (∀ t, StringsWithin (stringBound t vars) (evaluate t vars)) ∧
      (∀ t ts, Arith.Token.ofText? t = some ts →
        (∀ e, Arith.Expr.ofTokens? ts = some e → e.WrittenIn ts) ∧
        (∀ e a : Arith.Expr, e.WrittenIn ts → a.Part e →
          StringsWithin (stringBound t vars) (a.eval vars)) ∧
        ∀ us, us <:+ ts → ∀ depth, ∀ rule ∈ Arith.rules vars depth,
          Arith.Gives (fun result => result.1.ScalarWith (Fits t vars)) (rule us) ∧
            ∀ operator? count left, left.ScalarWith (Fits t vars) →
              Arith.Gives (fun result => result.1.ScalarWith (Fits t vars))
                (Arith.Reader.leftTail operator? rule count left us)) ∧
      (∀ s u v, Arith.add (.string s) (.string u) = .ok v ↔
        s.utf8ByteSize + u.utf8ByteSize ≤ maxStringBytes ∧ v = .string (s ++ u)) ∧
      ∀ (s : String) (n : Int64),
        (∀ v, Arith.multiply (.string s) (.integer n) = .ok v ↔
          s.utf8ByteSize * n.toInt.toNat ≤ maxStringBytes ∧ v = .string (Arith.copies s n.toInt.toNat)) ∧
        Arith.multiply (.integer n) (.string s) = Arith.multiply (.string s) (.integer n) ∧
        (s.utf8ByteSize * n.toInt.toNat ≤ maxStringBytes →
          s.utf8ByteSize * n.toInt.toNat < UInt64.size) ∧
        (Arith.copies s n.toInt.toNat).utf8ByteSize = s.utf8ByteSize * n.toInt.toNat ∧
        (n.toInt ≤ 0 → Arith.multiply (.string s) (.integer n) = .ok (.string "")) := by
  refine ⟨fun t => within_of_evaluate t vars, fun t ts hts => ⟨fun e => Arith.writtenIn_of_ofTokens?,
    fun e a he ha => within_of_writtenIn hts (he.part ha),
    fun us hus depth rule hrule => within_of_mem_rules hts hus hrule⟩, fun s u v => Arith.add_strings_iff,
    fun s n => ⟨fun v => Arith.repeated_iff, rfl, fun hfits => ?_, Arith.bytes_copies s _,
      Arith.repeated_of_nonpos s⟩⟩
  exact Nat.lt_of_le_of_lt hfits (by decide)

/-- Two bytes fit eight million times and no more often, and a product that would come to nothing at 64
bits is refused. -/
theorem strings_bounded_limit :
    Arith.multiply (.string "ab") (.integer 8388608) = .ok (.string (Arith.copies "ab" 8388608)) ∧
      (∀ v, Arith.multiply (.integer 8388609) (.string "ab") ≠ .ok v) ∧
      4 * (4611686018427387904 : UInt64) = 0 ∧
      ∀ v, Arith.multiply (.string "abcd") (.integer 4611686018427387904) ≠ .ok v := by
  obtain ⟨-, -, -, hmultiply⟩ := strings_bounded ∅
  refine ⟨((hmultiply "ab" 8388608).1 _).mpr ⟨by decide, rfl⟩, fun v hv => ?_, by decide, fun v hv => ?_⟩
  · rw [(hmultiply "ab" 8388609).2.1] at hv
    exact absurd (((hmultiply "ab" 8388609).1 v).mp hv).1 (by decide)
  · exact absurd (((hmultiply "abcd" 4611686018427387904).1 v).mp hv).1 (by decide)

end Expression

end LineScript
