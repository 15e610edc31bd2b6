import LineScript.Proofs.Json.Restored

/-!
# The keys that stand in a text

The keys of the objects of a JSON text, as they stand in it: a string that a colon follows is a key of
the innermost object that has not ended (`keysFrom`).  In the text of a value they are the keys of the
objects in that value, object by object (`keysFrom_spelled`).
-/

namespace LineScript

namespace Json

def isInert (c : Char) : Bool := c != '"' && c != '\x7b' && c != '\x7d'

theorem length_stringFrom {seen : List Char} {t rest : Text} {s : String}
    (h : stringFrom seen t = .ok (s, rest)) : rest.length < t.length := by
  fun_induction stringFrom seen t with
  | case1 => cases h
  | case2 => cases h; exact Nat.lt_succ_self _
  | case3 => cases h
  | case4 seen t c after hescaped hlength ih =>
    have hafter := ih h
    simp only [List.length_cons]
    omega
  | case5 => cases h
  | case6 seen c after _ _ _ ih => exact Nat.lt_succ_of_lt (ih h)

/-- The keys in a text, object by object: the objects come in the order in which they end, and the keys of
each as they stand in the text.  In `begun` are the keys so far of the objects that have not ended, the
innermost first. -/
def keysFrom (begun : List (List String)) : Text → List (List String)
  | [] => []
  | '\x7b' :: t => keysFrom ([] :: begun) t
  | '\x7d' :: t => begun.take 1 ++ keysFrom (begun.drop 1) t
  | '"' :: t =>
    match h : stringFrom [] t with
    | .error _ => []
    | .ok (s, rest) =>
      have := length_stringFrom h
      if ':' ∈ (skipSpace rest).head? then keysFrom (begun.modifyHead (· ++ [s])) rest
      else keysFrom begun rest
  | _ :: t => keysFrom begun t
termination_by t => t.length
decreasing_by all_goals (simp only [List.length_cons]; omega)

section KeysFrom

variable {rest : Text} (begun : List (List String))

theorem keysFrom_begin (t : Text) : keysFrom begun ('\x7b' :: t) = keysFrom ([] :: begun) t := by
  rw [keysFrom]

theorem keysFrom_end (keys : List String) (t : Text) :
    keysFrom (keys :: begun) ('\x7d' :: t) = keys :: keysFrom begun t := by
  rw [keysFrom]
  rfl

theorem keysFrom_inert {t : Text} (h : ∀ c ∈ t, isInert c = true) (rest : Text) :
    keysFrom begun (t ++ rest) = keysFrom begun rest := by
  induction t with
  | nil => rfl
  | cons c t ih =>
    have hc := h c List.mem_cons_self
    simp only [isInert, Bool.and_eq_true, bne_iff_ne, ne_eq] at hc
    obtain ⟨⟨hquote, hopen⟩, hclose⟩ := hc
    rw [List.cons_append, keysFrom.eq_5 begun c (t ++ rest) hopen hclose hquote,
      ih fun d hd => h d (List.mem_cons_of_mem c hd)]

theorem keysFrom_string (s : String) (rest : Text) :
    keysFrom begun ('"' :: (s.toList.flatMap escape ++ '"' :: rest)) =
      if ':' ∈ (skipSpace rest).head? then keysFrom (begun.modifyHead (· ++ [s])) rest
      else keysFrom begun rest := by
  rw [keysFrom]
  split
  · next hread =>
    rw [stringFrom_quoted] at hread
    cases hread
  · next hread =>
    rw [stringFrom_quoted] at hread
    cases hread
    rfl

theorem isInert_of_isSpace {c : Char} (h : isSpace c = true) : isInert c = true := by
  simp only [isSpace, Bool.or_eq_true, beq_iff_eq] at h
  rcases h with ((rfl | rfl) | rfl) | rfl <;> decide

theorem keysFrom_member (sp : Spacing) (keys : List String) (key : String) (text : Text) :
    keysFrom (keys :: begun) (sp.member key text) = keysFrom ((keys ++ [key]) :: begun) text := by
  have hcolon : ':' ∈ (skipSpace (':' :: (sp.colon ++ text))).head? := by
    rw [skipSpace_of_head (by decide)]
    exact rfl
  have hinert : ∀ c ∈ ':' :: sp.colon, isInert c = true :=
    List.forall_mem_cons.mpr ⟨rfl, fun c hc => isInert_of_isSpace (sp.isSpace_colon c hc)⟩
  rw [Spacing.member, keysFrom_string, if_pos hcolon, List.modifyHead_cons]
  exact keysFrom_inert _ hinert text

/-! ## Scalars -/

theorem isInert_of_isDigit {c : Char} (h : c.isDigit = true) : isInert c = true :=
  Arith.of_isDigit (by decide) h

theorem isInert_intText (n : Int) : ∀ c ∈ (toString n).toList, isInert c = true := by
  have hdigits : ∀ n : Nat, ∀ c ∈ Nat.toDigits 10 n, isInert c = true :=
    fun n c hc => isInert_of_isDigit (Integer.isDigit_of_mem_toDigits hc)
  cases n with
  | ofNat n =>
    show ∀ c ∈ (toString n).toList, _
    rw [Layout.toList_natText]
    exact hdigits n
  | negSucc n =>
    rw [Layout.toList_negSucc]
    exact List.forall_mem_cons.mpr ⟨rfl, hdigits (n + 1)⟩

theorem isInert_floatText {x : Float} (hx : x.isFinite = true) :
    ∀ c ∈ (Layout.interchange.text x).toList, isInert c = true := by
  obtain ⟨s, n, htext, hspells, -⟩ := Layout.exists_signed (show Layout.interchange.Near by decide) hx
  rw [htext, String.toList_ofList]
  exact hspells.of_mem (by decide) rfl fun _ => rfl

end KeysFrom

end Json

/-! ## Values -/

namespace Value

mutual

def objectKeys : Value → List (List String)
  | object fields => fieldKeys fields ++ [fields.map (·.1)]
  | _ => []
termination_by structural v => v

def fieldKeys : List (String × Value) → List (List String)
  | [] => []
  | (_, v) :: rest => v.objectKeys ++ fieldKeys rest
termination_by structural fields => fields

end

end Value

namespace Json

theorem keysFrom_scalar (begun : List (List String)) {j : Json} (hj : ∀ s, j ≠ .string s) (rest : Text) :
    keysFrom begun (scalar j ++ rest) = keysFrom begun rest := by
  refine keysFrom_inert begun ?_ rest
  cases j with
  | boolean b => cases b <;> exact List.all_eq_true.mp rfl
  | integer n => exact isInert_intText n
  | float x =>
    rw [scalar]
    split
    · next hx => exact isInert_floatText hx
    · exact List.all_eq_true.mp rfl
  | string s => exact absurd rfl (hj s)
  | _ =>
    show ∀ c ∈ "null".toList, isInert c = true
    exact List.all_eq_true.mp rfl

section Spelled

variable {sp : Spacing}

mutual

/-- The text of a value, in any layout, has the keys of the objects in the value, whatever follows it that
is no colon. -/
theorem keysFrom_spelled : ∀ (v : Value) (begun : List (List String)) (level : Nat) (rest : Text),
    ':' ∉ (skipSpace rest).head? →
    keysFrom begun (v.spelled sp level rest) = v.objectKeys ++ keysFrom begun rest
  | .null, begun, _, rest, _ | .boolean _, begun, _, rest, _ | .integer _, begun, _, rest, _ =>
    keysFrom_scalar begun (fun _ => Json.noConfusion) rest
  | .float x, begun, level, rest, _ => by
    refine keysFrom_scalar begun (fun s hs => ?_) rest
    unfold Value.toJson at hs
    split at hs <;> cases hs
  | .string s, begun, level, rest, hrest => by
    have htext : (Value.string s).spelled sp level rest =
        '"' :: (s.toList.flatMap escape ++ '"' :: rest) := by
      show '"' :: s.toList.flatMap escape ++ ['"'] ++ rest = _
      simp
    -- no colon follows, so the string is no key
    rw [htext, keysFrom_string, if_neg hrest]
    rfl
  | .object [], begun, level, rest, _ => by
    show keysFrom begun ('\x7b' :: '\x7d' :: rest) = _
    rw [keysFrom_begin, keysFrom_end]
    rfl
  | .object (e :: fields), begun, level, rest, _ => by
    have hbefore : ∀ c ∈ sp.before level, isInert c = true :=
      fun c hc => isInert_of_isSpace (sp.isSpace_before level c hc)
    rw [Value.spelled, keysFrom_begin, keysFrom_inert _ hbefore,
      keysFrom_spelledFields (e :: fields) begun [] level rest, Value.objectKeys, List.append_assoc]
    rfl
termination_by structural v => v

theorem keysFrom_spelledFields : ∀ (fields : List (String × Value)) (begun : List (List String))
    (keys : List String) (level : Nat) (rest : Text),
    keysFrom (keys :: begun) (Value.spelledFields sp level fields rest) =
      Value.fieldKeys fields ++ (keys ++ fields.map (·.1)) :: keysFrom begun rest
  | [], begun, keys, level, rest => by
    have hclosing : ∀ c ∈ sp.closing level, isInert c = true :=
      fun c hc => isInert_of_isSpace (sp.isSpace_closing level c hc)
    rw [Value.spelledFields, keysFrom_inert _ hclosing, keysFrom_end, List.map_nil, List.append_nil]
    rfl
  | [(k, v)], begun, keys, level, rest => by
    have hclosing : ∀ c ∈ sp.closing level, isInert c = true :=
      fun c hc => isInert_of_isSpace (sp.isSpace_closing level c hc)
    -- behind a value stands a comma or a brace, so that a string there is no key
    have hnone : ':' ∉ (skipSpace (sp.closing level ++ '\x7d' :: rest)).head? := by
      rw [skipSpace_append (sp.isSpace_closing level), skipSpace_of_head (by decide)]
      simp
    rw [Value.spelledFields, keysFrom_member, keysFrom_spelled v _ _ _ hnone,
      keysFrom_inert _ hclosing, keysFrom_end]
    simp [Value.fieldKeys]
  | (k, v) :: e :: fields, begun, keys, level, rest => by
    have hbefore : ∀ c ∈ ',' :: sp.before level, isInert c = true :=
      List.forall_mem_cons.mpr ⟨rfl, fun c hc => isInert_of_isSpace (sp.isSpace_before level c hc)⟩
    have hnone : ∀ t, ':' ∉ (skipSpace (',' :: t)).head? := by
      intro t
      rw [skipSpace_of_head (by decide)]
      simp
    have hrest := keysFrom_spelledFields (e :: fields) begun (keys ++ [k]) level rest
    rw [Value.spelledFields, keysFrom_member, keysFrom_spelled v _ _ _ (hnone _),
      ← List.cons_append, keysFrom_inert _ hbefore, hrest]
    simp [Value.fieldKeys]
termination_by structural fields => fields

end

theorem keysFrom_pretty (v : Value) : keysFrom [] v.toJson.pretty.toList = v.objectKeys := by
  rw [Value.toList_pretty, keysFrom_spelled v [] 0 [] (by decide), keysFrom, List.append_nil]

end Spelled

end Json

namespace Value

mutual

theorem rising_objectKeys : ∀ v : Value, v.Each InOrder → ∀ keys ∈ v.objectKeys, keys.Pairwise (· < ·)
  | null, _, _, hkeys | boolean _, _, _, hkeys | integer _, _, _, hkeys | float _, _, _, hkeys
  | string _, _, _, hkeys => nomatch hkeys
  | object fields, ⟨hordered, hfields⟩, keys, hkeys => by
    rcases List.mem_append.mp hkeys with hinner | hown
    · exact rising_fieldKeys fields hfields keys hinner
    · rw [List.mem_singleton.mp hown]
      exact List.pairwise_map.mpr hordered
termination_by structural v => v

theorem rising_fieldKeys : ∀ fields : List (String × Value), EachField InOrder fields →
    ∀ keys ∈ fieldKeys fields, keys.Pairwise (· < ·)
  | [], _, _, hkeys => nomatch hkeys
  | (_, v) :: rest, ⟨hv, hrest⟩, keys, hkeys => by
    rcases List.mem_append.mp hkeys with hinner | hlater
    · exact rising_objectKeys v hv keys hinner
    · exact rising_fieldKeys rest hrest keys hlater
termination_by structural fields => fields

end

end Value

end LineScript
