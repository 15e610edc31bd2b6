import LineScript.Proofs.Except
import LineScript.Proofs.Json.Order
import LineScript.Proofs.Json.Scalar
import LineScript.Proofs.Json.Spelled

/-!
# Values read back from their text

What the text of a value is read as, in any layout, in any place and at any level of nesting
(`value_spelled`): the value itself, if it nests no deeper than the reader goes and if every
floating-point number in it is read back from its own text (`map_reread?_eq_some_iff`).
-/

namespace LineScript

namespace Value

/-- A value that is no floating-point number, or a finite one. -/
def Finite : Value → Prop
  | float x => x.isFinite = true
  | _ => True

/-- A value that is no floating-point number, or one that is read back from its text. -/
def ReadBack : Value → Prop
  | float x => read (Layout.interchange.text x) = .ok (.float x)
  | _ => True

mutual

/-- How deep objects nest in a value. -/
def depth : Value → Nat
  | object fields => depthOfFields fields + 1
  | _ => 0
termination_by structural v => v

def depthOfFields : List (String × Value) → Nat
  | [] => 0
  | (_, v) :: rest => max v.depth (depthOfFields rest)
termination_by structural fields => fields

end

mutual

/-- What the text of a value is read as by a reader that goes so many levels of nesting deep. -/
def reread? : (levels : Nat) → Value → Option Json
  | _, null => some .null
  | _, boolean b => some (.boolean b)
  | _, integer n => some (.integer n.toInt)
  | _, float x =>
    if x.isFinite then (Json.read (Layout.interchange.text x)).toOption else some .null
  | _, string s => some (.string s)
  | 0, object _ => none
  | levels + 1, object fields => (rereadFields? levels fields).map .object
termination_by structural _ v => v

def rereadFields? (levels : Nat) : List (String × Value) → Option (List (String × Json))
  | [] => some []
  | (k, v) :: rest => do return (k, ← v.reread? levels) :: (← rereadFields? levels rest)
termination_by structural fields => fields

end

theorem rereadFields?_cons (k : String) (v : Value) (fields : List (String × Value)) (levels : Nat) :
    rereadFields? levels ((k, v) :: fields) =
      (v.reread? levels).bind fun j => (rereadFields? levels fields).map ((k, j) :: ·) := by
  rw [rereadFields?]
  cases v.reread? levels with
  | none => rfl
  | some j => cases rereadFields? levels fields <;> rfl

end Value

namespace Json

variable {count levels level : Nat} {rest t : Text}

theorem skipSpace_of_head {c : Char} (hc : isSpace c = false) (t : Text) :
    skipSpace (c :: t) = c :: t := List.dropWhile_cons_of_neg (by rw [hc]; exact Bool.false_ne_true)

theorem skipSpace_append {blanks : Text} (h : ∀ c ∈ blanks, isSpace c = true) (t : Text) :
    skipSpace (blanks ++ t) = skipSpace t := List.dropWhile_append_of_pos h

theorem value_eq (count levels : Nat) : ∃ inner, value count levels = valueWith count inner := by
  cases levels with
  | zero => exact ⟨none, rfl⟩
  | succ levels => exact ⟨some (value count levels), rfl⟩

theorem value_append {blanks : Text} (h : ∀ c ∈ blanks, isSpace c = true) (count levels : Nat)
    (t : Text) : value count levels (blanks ++ t) = value count levels t := by
  obtain ⟨inner, hinner⟩ := value_eq count levels
  rw [hinner]
  simp only [valueWith, skipSpace_append h]

theorem ended_append {blanks : Text} (h : ∀ c ∈ blanks, isSpace c = true) (ht : Ended t) :
    Ended (blanks ++ t) := by
  -- a blank ends a number, and if there is none, then what stands behind does
  cases blanks with
  | nil => exact ht
  | cons d blanks =>
    intro c hc
    cases hc
    have hd := h d List.mem_cons_self
    simp only [isSpace, Bool.or_eq_true, beq_iff_eq] at hd
    rcases hd with ((rfl | rfl) | rfl) | rfl <;> decide

/-! ## Reading members -/

section Members

variable {sp : Spacing} {item : Reader Json} {key key' : String} {j : Json} {text text' : Text}
  {seen : Entries Json} {n : Nat}

theorem member_eq (hitem : ∀ t, item (sp.colon ++ t) = item t) :
    member item (sp.member key text) = (item text).map fun (v, rest) => ((key, v), rest) := by
  unfold Spacing.member member
  simp only [stringFrom_quoted, skipSpace_of_head (c := ':') (by decide), hitem]
  cases item text <;> rfl

theorem skipSpace_member (sp : Spacing) (key : String) (text : Text) :
    skipSpace (sp.member key text) = sp.member key text := skipSpace_of_head (by decide) _

theorem members_error {stop : Stop} (hitem : ∀ t, item (sp.colon ++ t) = item t)
    (hv : item text = .error stop) :
    members item seen (n + 1) (sp.member key text) = .error stop := by
  rw [members, member_eq hitem, hv]
  rfl

theorem members_last (hitem : ∀ t, item (sp.colon ++ t) = item t)
    (hv : item text = .ok (j, sp.closing level ++ '\x7d' :: rest)) :
    members item seen (n + 1) (sp.member key text) = .ok (.object (seen.insert key j), rest) := by
  -- behind the last member stands the closing brace
  have hskip : skipSpace (sp.closing level ++ '\x7d' :: rest) = '\x7d' :: rest := by
    rw [skipSpace_append (sp.isSpace_closing level), skipSpace_of_head (by decide)]
  rw [members, member_eq hitem, hv]
  simp only [Except.map, hskip]

theorem members_more (hitem : ∀ t, item (sp.colon ++ t) = item t)
    (hv : item text = .ok (j, ',' :: (sp.before level ++ sp.member key' text'))) :
    members item seen (n + 1) (sp.member key text) =
      members item (seen.insert key j) n (sp.member key' text') := by
  -- behind any other member stand a comma and the next one
  have hcomma : ∀ t, skipSpace (',' :: t) = ',' :: t := skipSpace_of_head (by decide)
  have hskip : skipSpace (sp.before level ++ sp.member key' text') = sp.member key' text' := by
    rw [skipSpace_append (sp.isSpace_before level), skipSpace_member]
  rw [members, member_eq hitem, hv]
  simp only [Except.map, hcomma, hskip]
  rfl

theorem value_object (count levels : Nat) :
    value count (levels + 1) ('\x7b' :: (sp.before level ++ sp.member key text)) =
      members (value count levels) [] count (sp.member key text) := by
  show objectFrom count (value count levels) _ = _
  unfold objectFrom
  rw [skipSpace_append (sp.isSpace_before level), skipSpace_member]
  rfl

end Members

theorem value_of_valueWith {r : Option Json}
    (h : ∀ inner, (valueWith count inner t).toOption = r.map (·, rest)) (levels : Nat) :
    (value count levels t).toOption = r.map (·, rest) := by
  obtain ⟨inner, hinner⟩ := value_eq count levels
  rw [hinner]
  exact h inner

/-! ## Reading values -/

section Spelled

variable {sp : Spacing}

theorem ended_closing (sp : Spacing) (level : Nat) (rest : Text) :
    Ended (sp.closing level ++ '\x7d' :: rest) := by
  apply ended_append (sp.isSpace_closing level)
  intro c hc
  cases hc
  decide

theorem ended_comma (t : Text) : Ended (',' :: t) := by
  intro c hc
  cases hc
  decide

theorem exists_member (sp : Spacing) (level : Nat) (e : String × Value)
    (fields : List (String × Value)) (rest : Text) :
    ∃ text, Value.spelledFields sp level (e :: fields) rest = sp.member e.1 text := by
  cases fields with
  | nil => exact ⟨_, rfl⟩
  | cons e' fields => exact ⟨_, rfl⟩

mutual

/-- The text of a value, in any layout, is read as what is read back of the value, whatever follows
it. -/
theorem value_spelled : ∀ (v : Value) (levels level : Nat) (rest : Text), v.Each Value.InOrder →
    (v.spelled sp level rest).length ≤ count → Ended rest →
    (value count levels (v.spelled sp level rest)).toOption = (v.reread? levels).map (·, rest)
  | .null, levels, level, rest, _, _, _ => by
    refine value_of_valueWith (r := some .null) (fun inner => ?_) levels
    cases inner <;> rfl
  | .boolean b, levels, level, rest, _, _, _ => by
    refine value_of_valueWith (r := some (.boolean b)) (fun inner => ?_) levels
    cases b <;> cases inner <;> rfl
  | .integer n, levels, level, rest, _, _, hrest => by
    refine value_of_valueWith (r := some (.integer n.toInt)) (fun inner => ?_) levels
    show (valueWith count inner ((toString n.toInt).toList ++ rest)).toOption = _
    rw [valueWith_integer count inner n hrest]
    rfl
  | .float x, levels, level, rest, _, _, hrest => by
    by_cases hx : x.isFinite = true
    · have htext : (Value.float x).spelled sp level rest =
          (Layout.interchange.text x).toList ++ rest := by
        simp only [Value.spelled, Value.toJson, hx, if_true]
        exact congrArg (· ++ rest) (if_pos hx)
      rw [htext, Value.reread?, if_pos hx]
      exact value_of_valueWith (fun inner => valueWith_float count inner hx hrest) levels
    · have hnull : (Value.float x).spelled sp level rest = scalar .null ++ rest := by
        simp only [Value.spelled, Value.toJson, if_neg hx]
      rw [hnull, Value.reread?, if_neg hx]
      refine value_of_valueWith (r := some .null) (fun inner => ?_) levels
      cases inner <;> rfl
  | .string s, levels, level, rest, _, _, _ => by
    refine value_of_valueWith (r := some (.string s)) (fun inner => ?_) levels
    have htext : (Value.string s).spelled sp level rest =
        '"' :: (s.toList.flatMap escape ++ '"' :: rest) := by
      show '"' :: s.toList.flatMap escape ++ ['"'] ++ rest = _
      simp
    have hstring : valueWith count inner ('"' :: (s.toList.flatMap escape ++ '"' :: rest)) =
        (stringFrom [] (s.toList.flatMap escape ++ '"' :: rest)).map
          fun (s, rest) => (.string s, rest) := by
      cases inner <;> rfl
    rw [htext, hstring, stringFrom_quoted]
    rfl
  | .object [], levels, level, rest, _, _, _ => by
    cases levels <;> rfl
  | .object (e :: fields), levels, level, rest, heach, hcount, _ => by
    obtain ⟨hordered, hfields⟩ := heach
    obtain ⟨text, htext⟩ := exists_member sp level e fields rest
    cases levels with
    | zero =>
      -- an object is refused before its members are read
      rfl
    | succ levels =>
      -- the count bounds the length of the text, and so the number of members
      have hlength : (Value.spelledFields sp level (e :: fields) rest).length ≤ count := by
        simp only [Value.spelled, List.length_cons, List.length_append] at hcount
        omega
      have hfit := Value.length_le_spelledFields sp (e :: fields) level rest
      have hmembers := members_spelled (e :: fields) levels level count rest []
        (List.cons_ne_nil _ _) hfields hordered (fun a ha => absurd ha List.not_mem_nil) hlength
        (by omega)
      rw [Value.spelled, Value.reread?]
      rw [htext] at hmembers ⊢
      rw [value_object, hmembers, Option.map_map]
      rfl
termination_by structural v => v

theorem members_spelled : ∀ (fields : List (String × Value)) (levels level n : Nat) (rest : Text)
    (seen : Entries Json), fields ≠ [] → Value.EachField Value.InOrder fields →
    Entries.Ordered fields → (∀ a ∈ seen, ∀ b ∈ fields, a.1 < b.1) →
    (Value.spelledFields sp level fields rest).length ≤ count → fields.length ≤ n →
    (members (value count levels) seen n (Value.spelledFields sp level fields rest)).toOption =
      (Value.rereadFields? levels fields).map fun js => (.object (seen ++ js), rest)
  | [], _, _, _, _, _, hne, _, _, _, _, _ => absurd rfl hne
  | [(k, v)], levels, level, n + 1, rest, seen, _, heach, _, hseen, hcount, _ => by
    have hitem := value_append sp.isSpace_colon count levels
    rw [Value.spelledFields] at hcount ⊢
    have hlength := Value.length_member sp k
      (v.spelled sp (level + 1) (sp.closing level ++ '\x7d' :: rest))
    have hvalue := value_spelled v levels (level + 1) (sp.closing level ++ '\x7d' :: rest) heach.1
      (by omega) (ended_closing sp level rest)
    cases hreread : v.reread? levels with
    | none =>
      rw [hreread] at hvalue
      obtain ⟨stop, hread⟩ := error_of_toOption hvalue
      rw [members_error hitem hread, Value.rereadFields?_cons k v, hreread]
      rfl
    | some j =>
      rw [hreread] at hvalue
      -- keys come in order, so the member is put behind those seen before
      have hlast := Entries.insert_last (fun a ha => hseen a ha (k, v) List.mem_cons_self) j
      rw [members_last hitem (ok_of_toOption hvalue), hlast, Value.rereadFields?_cons k v, hreread]
      rfl
  | (k, v) :: e :: fields, levels, level, n + 1, rest, seen, _, heach, hordered, hseen, hcount,
      hn => by
    have hitem := value_append sp.isSpace_colon count levels
    obtain ⟨hkeys, hordered⟩ := List.pairwise_cons.mp hordered
    obtain ⟨text, htext⟩ := exists_member sp level e fields rest
    rw [Value.spelledFields] at hcount ⊢
    have hlength := Value.length_member sp k (v.spelled sp (level + 1)
      (',' :: (sp.before level ++ Value.spelledFields sp level (e :: fields) rest)))
    have hvalue := value_spelled v levels (level + 1)
      (',' :: (sp.before level ++ Value.spelledFields sp level (e :: fields) rest)) heach.1
      (by omega) (ended_comma _)
    cases hreread : v.reread? levels with
    | none =>
      rw [hreread] at hvalue
      obtain ⟨stop, hread⟩ := error_of_toOption hvalue
      rw [members_error hitem hread, Value.rereadFields?_cons k v, hreread]
      rfl
    | some j =>
      rw [hreread] at hvalue
      -- so it is here, and the keys to come are behind it in turn
      have hlast := Entries.insert_last (fun a ha => hseen a ha (k, v) List.mem_cons_self) j
      have hnext : ∀ a ∈ seen ++ [(k, j)], ∀ b ∈ e :: fields, a.1 < b.1 := by
        intro a ha b hb
        rcases List.mem_append.mp ha with ha | ha
        · exact hseen a ha b (List.mem_cons_of_mem _ hb)
        · rw [List.mem_singleton.mp ha]
          exact hkeys b hb
      have hbehind := Value.length_le_spelled sp v (level + 1)
        (',' :: (sp.before level ++ Value.spelledFields sp level (e :: fields) rest))
      simp only [List.length_cons, List.length_append] at hbehind
      have hrest := members_spelled (e :: fields) levels level n rest (seen ++ [(k, j)])
        (List.cons_ne_nil _ _) heach.2 hordered hnext (by omega) (Nat.le_of_succ_le_succ hn)
      have hread := ok_of_toOption hvalue
      rw [htext] at hrest hread ⊢
      rw [members_more hitem hread, hlast, hrest, Value.rereadFields?_cons k v, hreread]
      cases Value.rereadFields? levels (e :: fields) with
      | none => rfl
      | some js =>
        rw [Option.map_some, List.append_assoc]
        rfl
termination_by structural fields => fields

end

theorem read_spelled {v : Value} (hv : v.Each Value.InOrder) {s : String}
    (hs : s.toList = v.spelled sp 0 []) : (Json.read s).toOption = v.reread? maxDepth := by
  have hvalue := @value_spelled _ sp v maxDepth 0 [] hv (Nat.le_refl _) Ended.nil
  unfold Json.read
  simp only [hs]
  cases hreread : v.reread? maxDepth with
  | none =>
    rw [hreread] at hvalue
    obtain ⟨stop, hstop⟩ := error_of_toOption hvalue
    rw [hstop]
    rfl
  | some j =>
    rw [hreread] at hvalue
    rw [ok_of_toOption hvalue]
    rfl

end Spelled

theorem read_pretty {fields : List (String × Value)} (hordered : Entries.Ordered fields)
    (hfields : Value.EachField Value.InOrder fields) :
    (Json.read (Json.object (Value.toMembers fields)).pretty).toOption =
      (Value.rereadFields? 126 fields).map .object := by
  have heach : (Value.object fields).Each Value.InOrder := ⟨hordered, hfields⟩
  have hreread : (Value.object fields).reread? maxDepth =
      (Value.rereadFields? 126 fields).map .object := rfl
  rw [← hreread]
  exact read_spelled heach (Value.toList_pretty (.object fields))

end Json

namespace Value

theorem not_readBack_of_infinite {x : Float} (hx : ¬ x.isFinite = true) : ¬ (float x).ReadBack := by
  intro hread
  have hunpack : ¬ x.toModel.unpack.isFinite = true := hx
  have hread : read (Layout.interchange.text x) = .ok (.float x) := hread
  unfold Layout.text at hread
  cases hparts : x.toModel.unpack with
  | notANumber =>
    rw [hparts] at hread
    cases hread
  | infinity s =>
    rw [hparts] at hread
    -- what is written for an infinity is no JSON
    cases s with
    | positive => cases hread
    | negative => cases hread
  | zero s => rw [hparts] at hunpack; exact hunpack rfl
  | finite s m q _ => rw [hparts] at hunpack; exact hunpack rfl

mutual

/-- A value is read back exactly if no more objects nest in it than the reader has levels, and if the
floating-point numbers in it are. -/
theorem map_reread?_eq_some_iff : ∀ (v : Value) (levels : Nat),
    (v.reread? levels).map ofJson = some v ↔ v.depth ≤ levels ∧ v.Each ReadBack
  | null, levels => by simp [reread?, ofJson, depth, Each, ReadBack]
  | boolean b, levels => by simp [reread?, ofJson, depth, Each, ReadBack]
  | integer n, levels => by
    simp [reread?, ofJson, depth, Each, ReadBack, Integer.ofInt?_toInt]
  | float x, levels => by
    by_cases hx : x.isFinite = true
    · rw [reread?, if_pos hx]
      simp only [depth, Each, ReadBack, Nat.zero_le, true_and, read]
      cases Json.read (Layout.interchange.text x) with
      | error e => simp [Except.toOption, Except.map]
      | ok j => simp [Except.toOption, Except.map]
    · rw [reread?, if_neg hx]
      simp only [Option.map_some, ofJson, Each, not_readBack_of_infinite hx, and_false, iff_false]
      intro h
      cases h
  | string s, levels => by simp [reread?, ofJson, depth, Each, ReadBack]
  | object fields, levels => by
    have hfields := map_rereadFields?_eq_some_iff fields
    cases levels with
    | zero => simp [reread?, depth]
    | succ levels =>
      rw [reread?, depth, Each, Nat.add_le_add_iff_right]
      -- one level is used up by the object itself, and its fields are read with the others
      have hobject : ((rereadFields? levels fields).map Json.object).map ofJson =
          some (object fields) ↔ (rereadFields? levels fields).map ofMembers = some fields := by
        cases rereadFields? levels fields with
        | none => simp
        | some js => simp [ofJson]
      rw [hobject, hfields levels]
      simp [ReadBack]
termination_by structural v => v

theorem map_rereadFields?_eq_some_iff : ∀ (fields : List (String × Value)) (levels : Nat),
    (rereadFields? levels fields).map ofMembers = some fields ↔
      depthOfFields fields ≤ levels ∧ EachField ReadBack fields
  | [], levels => by simp [rereadFields?, ofMembers, depthOfFields, EachField]
  | (k, v) :: rest, levels => by
    have hv := map_reread?_eq_some_iff v levels
    have hrest := map_rereadFields?_eq_some_iff rest levels
    -- both sides of the claim split into the first value and the rest
    rw [depthOfFields, EachField, Nat.max_le, and_and_and_comm, ← hv, ← hrest, rereadFields?]
    cases v.reread? levels with
    | none => simp
    | some j =>
      cases rereadFields? levels rest with
      | none => simp
      | some js => simp [ofMembers]
termination_by structural fields => fields

end

mutual

theorem depth_le_of_reread : ∀ (v : Value) (levels : Nat) {j : Json},
    v.reread? levels = some j → v.depth ≤ levels
  | null, levels, _, _ | boolean _, levels, _, _ | integer _, levels, _, _ => Nat.zero_le levels
  | float _, levels, _, _ | string _, levels, _, _ => Nat.zero_le levels
  | object fields, levels, j, h => by
    cases levels with
    | zero => cases h
    | succ levels =>
      obtain ⟨members, hmembers, -⟩ := Option.map_eq_some_iff.mp h
      exact Nat.succ_le_succ (depthOfFields_le_of_reread fields levels hmembers)
termination_by structural v => v

theorem depthOfFields_le_of_reread : ∀ (fields : List (String × Value)) (levels : Nat)
    {members : List (String × Json)},
    rereadFields? levels fields = some members → depthOfFields fields ≤ levels
  | [], levels, _, _ => Nat.zero_le levels
  | (k, v) :: rest, levels, members, h => by
    rw [rereadFields?] at h
    cases hv : v.reread? levels with
    | none => rw [hv] at h; cases h
    | some j =>
      rw [hv] at h
      cases hrest : rereadFields? levels rest with
      | none => rw [hrest] at h; cases h
      | some js =>
        exact Nat.max_le.mpr ⟨depth_le_of_reread v levels hv,
          depthOfFields_le_of_reread rest levels hrest⟩
termination_by structural fields => fields

end

theorem depthOfFields_le_iff {fields : List (String × Value)} {levels : Nat} :
    depthOfFields fields ≤ levels ↔ ∀ e ∈ fields, e.2.depth ≤ levels := by
  induction fields with
  | nil => simp [depthOfFields]
  | cons e fields ih => rw [depthOfFields, Nat.max_le, ih, List.forall_mem_cons]

theorem rereadFields?_eq_self_iff {fields : List (String × Value)} {levels : Nat} :
    (rereadFields? levels fields).map ofMembers = some fields ↔
      ∀ e ∈ fields, e.2.depth ≤ levels ∧ e.2.Each ReadBack := by
  rw [map_rereadFields?_eq_some_iff, depthOfFields_le_iff, eachField_iff]
  exact ⟨fun h e he => ⟨h.1 e he, h.2 e he⟩, fun h => ⟨fun e he => (h e he).1, fun e he => (h e he).2⟩⟩

end Value

end LineScript
