import LineScript.Proofs.Condition.Tokens
import LineScript.Proofs.Json.Items

/-!
# Paths into data

A name and keys with dots between them lead to the value at the end of the keys in the object that the name
stands for (`simple?_pathText`). With what arrays become, every item of every array in JSON data has its path
(`items_reached`).
-/

namespace LineScript

theorem Text.pieces_eq_splitOnP (cut : Char → Bool) (t : Text) : pieces cut t = t.splitOnP cut := by
  induction t with
  | nil => rfl
  | cons c t ih =>
    rw [pieces, ih, List.splitOnP_cons_eq_if_modifyHead]
    cases hrest : t.splitOnP cut with
    | nil => exact absurd hrest (List.splitOnP_ne_nil _ _)
    | cons p ps => rfl

theorem Text.pieces_intercalate {c : Char} {parts : List Text} (hne : parts ≠ [])
    (hfree : ∀ p ∈ parts, c ∉ p) : pieces (· == c) (List.intercalate [c] parts) = parts := by
  rw [pieces_eq_splitOnP]
  exact List.splitOn_intercalate c hfree hne

namespace Value

/-- A value is an object with something under a key. -/
def Has (v : Value) (key : String) : Prop := ∃ fields w, v = object fields ∧ Entries.get? key fields = some w

theorem field_of_not_has {v : Value} {key : String} (h : ¬ v.Has key) : v.field key = null := by
  cases v with
  | object fields =>
    cases hget : Entries.get? key fields with
    | none => rw [field, hget, Option.getD_none]
    | some w => exact absurd ⟨fields, w, rfl, hget⟩ h
  | _ => rfl

theorem follow_of_not_has {v : Value} {p : List String} {key : String} (h : ¬ (v.follow p).Has key)
    (q : List String) : v.follow (p ++ key :: q) = null := by
  rw [follow_append, follow, List.foldl_cons, field_of_not_has h]
  exact follow_null q

end Value

namespace Expression

variable {vars : Table Value} {name : Text} {segments : List Text} {fields : Entries Value}

def pathText (name : Text) (segments : List Text) : Text := name ++ '.' :: List.intercalate ['.'] segments

theorem dot_mem_pathText (name : Text) (segments : List Text) : '.' ∈ pathText name segments :=
  List.mem_append_right name List.mem_cons_self

theorem quoted?_pathText (hname : Text.isIdentifier name = true) (segments : List Text) :
    quoted? (pathText name segments) = none := by
  cases name with
  | nil => cases hname
  | cons c name =>
    have hc : Text.isWordChar c = true :=
      List.all_eq_true.mp (Bool.and_eq_true_iff.mp hname).2 c List.mem_cons_self
    unfold quoted?
    split
    · next h => exact absurd (List.cons.inj h).1 (Condition.isWordChar_ne hc (by decide))
    · rfl

theorem number?_pathText (h : Decimal.read? (pathText name segments) = none) :
    number? (pathText name segments) = none := by
  rw [number?, if_pos (List.contains_iff_mem.mpr (dot_mem_pathText name segments)), h, Option.map_none]

theorem dotted?_pathText (hname : Text.isIdentifier name = true)
    (hobject : vars.get? (String.ofList name) = some (.object fields)) (hne : segments ≠ [])
    (hfree : ∀ s ∈ segments, '.' ∉ s) : dotted? vars (pathText name segments) =
      some ((Value.object fields).follow (segments.map String.ofList)) := by
  have hdot : '.' ∉ name := fun hmem =>
    Condition.isWordChar_ne (List.all_eq_true.mp (Bool.and_eq_true_iff.mp hname).2 _ hmem)
      (d := '.') (by decide) rfl
  have hpieces : Text.pieces (· == '.') (List.intercalate ['.'] segments) = segments :=
    Text.pieces_intercalate hne hfree
  rw [dotted?, pathText, Arith.splitFirst_stretch hdot]
  simp only [hname, if_true, hobject, hpieces]

/-- A name that stands for an object, and keys behind it, stand for what the keys lead to. -/
theorem simple?_pathText (hname : Text.isIdentifier name = true)
    (hobject : vars.get? (String.ofList name) = some (.object fields)) (hne : segments ≠ [])
    (hfree : ∀ s ∈ segments, '.' ∉ s) (hnumber : Decimal.read? (pathText name segments) = none)
    (hvariable : vars.get? (String.ofList (pathText name segments)) = none) :
    simple? vars (pathText name segments) =
      some ((Value.object fields).follow (segments.map String.ofList)) := by
  rw [simple?, quoted?_pathText hname, number?_pathText hnumber, hvariable,
    dotted?_pathText hname hobject hne hfree]
  rfl

/-- Whatever a path of positions and keys leads to in JSON data, it leads to the value of that in the value
of the data, and an array of any length has one entry for each item there, under the decimal text of its
position. Paths can be followed in parts, and end at null once they have left the data. The text of a path
behind the name of an object has the value at the end of the path, unless it is a number or a variable. -/
theorem items_reached (vars : Table Value) :
    (∀ path j k, Json.At path j k → (Value.ofJson j).follow path = Value.ofJson k) ∧
      (∀ items, ∃ fields, Value.ofJson (.array items) = .object fields ∧ Value.ItemsOf items fields) ∧
      (∀ (v : Value) p q, v.follow (p ++ q) = (v.follow p).follow q) ∧
      (∀ (v : Value) p key q, ¬ (v.follow p).Has key → v.follow (p ++ key :: q) = .null) ∧
      ∀ name segments fields, Text.isIdentifier name = true →
        vars.get? (String.ofList name) = some (.object fields) → segments ≠ [] →
        (∀ s ∈ segments, '.' ∉ s) → Decimal.read? (pathText name segments) = none →
        vars.get? (String.ofList (pathText name segments)) = none →
        simple? vars (pathText name segments) =
          some ((Value.object fields).follow (segments.map String.ofList)) :=
  ⟨fun _ _ _ => Json.At.follow, Value.exists_itemsOf, Value.follow_append,
    fun _ _ _ q h => Value.follow_of_not_has h q, fun _ _ _ => simple?_pathText⟩

/-- Eleven items, the last of which holds an array under the empty key. -/
def someItems : List Json :=
  List.replicate 10 .null ++ [.object [("", .array [.integer 7, .string "x"])]]

/-- A path with an empty segment, through the eleventh item to the second item of the array in it. -/
theorem items_reached_eleventh :
    Json.At ["10", "", "1"] (.array someItems) (.string "x") ∧
      simple? ((∅ : Table Value).insert "data" (Value.ofJson (.array someItems))) "data.10..1".toList =
        some (.string "x") := by
  have hat : Json.At ["10", "", "1"] (.array someItems) (.string "x") :=
    .item (i := 10) (by decide) (.member rfl (.item (i := 1) (by decide) (.here _)))
  obtain ⟨hfollow, hitems, -, -, hsimple⟩ :=
    items_reached ((∅ : Table Value).insert "data" (Value.ofJson (.array someItems)))
  obtain ⟨fields, hfields, -⟩ := hitems someItems
  have hvalue := hsimple "data".toList ["10".toList, [], "1".toList] fields (by decide)
    (by rw [← hfields]; exact Table.get?_insert_self _ _ _) (by decide) (by decide) (by decide)
    (Table.get?_insert_of_ne (by decide) _ _)
  refine ⟨hat, hvalue.trans ?_⟩
  rw [← hfields]
  exact congrArg some (hfollow _ _ _ hat)

end Expression

end LineScript
