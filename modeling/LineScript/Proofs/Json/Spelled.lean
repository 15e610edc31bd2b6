import LineScript.Value.Data

/-!
# The text of a value in any layout

The compact and the pretty text of a value differ in their blanks alone.  Both are one text here
(`Value.spelled`), which is given the blanks that stand between the parts of an object (`Spacing`); so
what is proved of this text holds of either of them.
-/

namespace LineScript

open Json (isSpace lineBreak escape scalar quoted prettyChars prettyMembers compactChars
  compactMembers)

/-- The blanks that stand between the parts of an object, level by level. -/
structure Spacing where
  /-- What stands in front of a member. -/
  before : (level : Nat) → Text
  /-- What stands in front of the closing brace. -/
  closing : (level : Nat) → Text
  colon : Text
  isSpace_before : ∀ level, ∀ c ∈ before level, isSpace c = true
  isSpace_closing : ∀ level, ∀ c ∈ closing level, isSpace c = true
  isSpace_colon : ∀ c ∈ colon, isSpace c = true

namespace Spacing

theorem isSpace_lineBreak (level : Nat) : ∀ c ∈ lineBreak level, isSpace c = true := by
  intro c hc
  rcases List.mem_cons.mp hc with rfl | hc
  · decide
  · rw [List.eq_of_mem_replicate hc]
    decide

def compact : Spacing where
  before _ := []
  closing _ := []
  colon := []
  isSpace_before _ _ hc := absurd hc List.not_mem_nil
  isSpace_closing _ _ hc := absurd hc List.not_mem_nil
  isSpace_colon _ hc := absurd hc List.not_mem_nil

def pretty : Spacing where
  before level := lineBreak (level + 1)
  closing := lineBreak
  colon := [' ']
  isSpace_before level := isSpace_lineBreak (level + 1)
  isSpace_closing := isSpace_lineBreak
  isSpace_colon := List.forall_mem_singleton.mpr rfl

def member (sp : Spacing) (key : String) (text : Text) : Text :=
  '"' :: (key.toList.flatMap escape ++ '"' :: ':' :: (sp.colon ++ text))

theorem quoted_append (sp : Spacing) (key : String) (text : Text) :
    quoted key ++ ':' :: (sp.colon ++ text) = sp.member key text := by
  show ('"' :: key.toList.flatMap escape ++ ['"']) ++ ':' :: (sp.colon ++ text) = _
  rw [List.append_assoc]
  rfl

end Spacing

namespace Value

mutual

/-- The text of a value at a level of nesting, in front of the rest of a text. -/
def spelled (sp : Spacing) (level : Nat) : Value → (rest : Text) → Text
  | object [], rest => '\x7b' :: '\x7d' :: rest
  | object (e :: fields), rest =>
    '\x7b' :: (sp.before level ++ spelledFields sp level (e :: fields) rest)
  | v, rest => scalar v.toJson ++ rest
termination_by structural v => v

def spelledFields (sp : Spacing) (level : Nat) : List (String × Value) → (rest : Text) → Text
  | [], rest => sp.closing level ++ '\x7d' :: rest
  | [(k, v)], rest => sp.member k (v.spelled sp (level + 1) (sp.closing level ++ '\x7d' :: rest))
  | (k, v) :: e :: fields, rest =>
    sp.member k (v.spelled sp (level + 1)
      (',' :: (sp.before level ++ spelledFields sp level (e :: fields) rest)))
termination_by structural fields => fields

end

mutual

theorem prettyChars_toJson : ∀ (v : Value) (level : Nat) (rest : Text),
    prettyChars level v.toJson ++ rest = v.spelled .pretty level rest
  | null, _, _ | boolean _, _, _ | integer _, _, _ | string _, _, _ | object [], _, _ => rfl
  | float x, level, rest => by
    simp only [toJson, spelled]
    split <;> rfl
  | object (e :: fields), level, rest => by
    have hfields := prettyMembers_toMembers (e :: fields) level rest (List.cons_ne_nil _ _)
    show ('\x7b' :: prettyMembers level (toMembers (e :: fields)) ++ lineBreak level ++ ['\x7d']) ++
      rest = '\x7b' :: (lineBreak (level + 1) ++ spelledFields .pretty level (e :: fields) rest)
    rw [← hfields]
    simp
termination_by structural v => v

theorem prettyMembers_toMembers : ∀ (fields : List (String × Value)) (level : Nat) (rest : Text),
    fields ≠ [] →
    prettyMembers level (toMembers fields) ++ (lineBreak level ++ '\x7d' :: rest) =
      lineBreak (level + 1) ++ spelledFields .pretty level fields rest
  | [], _, _, hne => absurd rfl hne
  | [(k, v)], level, rest, _ => by
    have hv := prettyChars_toJson v (level + 1) (lineBreak level ++ '\x7d' :: rest)
    show (lineBreak (level + 1) ++ quoted k ++ ':' :: ' ' :: prettyChars (level + 1) v.toJson) ++ _ =
      lineBreak (level + 1) ++ Spacing.member .pretty k _
    rw [← Spacing.quoted_append]
    show _ = lineBreak (level + 1) ++
      (quoted k ++ ':' :: ' ' :: v.spelled .pretty (level + 1) (lineBreak level ++ '\x7d' :: rest))
    rw [← hv]
    simp
  | (k, v) :: e :: fields, level, rest, _ => by
    have hfields := prettyMembers_toMembers (e :: fields) level rest (List.cons_ne_nil _ _)
    have hv := prettyChars_toJson v (level + 1)
      (',' :: (lineBreak (level + 1) ++ spelledFields .pretty level (e :: fields) rest))
    show (lineBreak (level + 1) ++ quoted k ++ ':' :: ' ' :: prettyChars (level + 1) v.toJson ++
        ',' :: prettyMembers level (toMembers (e :: fields))) ++ _ =
      lineBreak (level + 1) ++ Spacing.member .pretty k _
    rw [← Spacing.quoted_append]
    show _ = lineBreak (level + 1) ++ (quoted k ++ ':' :: ' ' :: v.spelled .pretty (level + 1)
      (',' :: (lineBreak (level + 1) ++ spelledFields .pretty level (e :: fields) rest)))
    rw [← hv, ← hfields]
    simp
termination_by structural fields => fields

end

mutual

theorem compactChars_toJson : ∀ (v : Value) (level : Nat) (rest : Text),
    compactChars v.toJson ++ rest = v.spelled .compact level rest
  | null, _, _ | boolean _, _, _ | integer _, _, _ | string _, _, _ | object [], _, _ => rfl
  | float x, level, rest => by
    simp only [toJson, spelled]
    split <;> rfl
  | object (e :: fields), level, rest => by
    have hfields := compactMembers_toMembers (e :: fields) level rest (List.cons_ne_nil _ _)
    show ('\x7b' :: compactMembers (toMembers (e :: fields)) ++ ['\x7d']) ++ rest =
      '\x7b' :: spelledFields .compact level (e :: fields) rest
    rw [← hfields]
    simp
termination_by structural v => v

theorem compactMembers_toMembers : ∀ (fields : List (String × Value)) (level : Nat) (rest : Text),
    fields ≠ [] →
    compactMembers (toMembers fields) ++ '\x7d' :: rest = spelledFields .compact level fields rest
  | [], _, _, hne => absurd rfl hne
  | [(k, v)], level, rest, _ => by
    have hv := compactChars_toJson v (level + 1) ('\x7d' :: rest)
    show (quoted k ++ ':' :: compactChars v.toJson) ++ _ = Spacing.member .compact k _
    rw [← Spacing.quoted_append]
    show _ = quoted k ++ ':' :: v.spelled .compact (level + 1) ('\x7d' :: rest)
    rw [← hv]
    simp
  | (k, v) :: e :: fields, level, rest, _ => by
    have hfields := compactMembers_toMembers (e :: fields) level rest (List.cons_ne_nil _ _)
    have hv := compactChars_toJson v (level + 1)
      (',' :: spelledFields .compact level (e :: fields) rest)
    show (quoted k ++ ':' :: compactChars v.toJson ++
      ',' :: compactMembers (toMembers (e :: fields))) ++ _ = Spacing.member .compact k _
    rw [← Spacing.quoted_append]
    show _ = quoted k ++ ':' :: v.spelled .compact (level + 1)
      (',' :: spelledFields .compact level (e :: fields) rest)
    rw [← hv, ← hfields]
    simp
termination_by structural fields => fields

end

theorem toList_pretty (v : Value) : v.toJson.pretty.toList = v.spelled .pretty 0 [] := by
  rw [← prettyChars_toJson, List.append_nil]
  exact String.toList_ofList

theorem toList_compact (v : Value) : v.toJson.compact.toList = v.spelled .compact 0 [] := by
  rw [← compactChars_toJson, List.append_nil]
  exact String.toList_ofList

/-! ## Its length -/

variable (sp : Spacing)

theorem length_member (key : String) (text : Text) : text.length < (sp.member key text).length := by
  simp only [Spacing.member, List.length_cons, List.length_append]
  omega

mutual

theorem length_le_spelled : ∀ (v : Value) (level : Nat) (rest : Text),
    rest.length ≤ (v.spelled sp level rest).length
  | null, _, rest | boolean _, _, rest | integer _, _, rest | float _, _, rest | string _, _, rest =>
    (List.suffix_append _ rest).length_le
  | object [], _, rest => Nat.le_add_right rest.length 2
  -- a text is at least as long as what stands behind the value, and each field takes up some of it
  | object (e :: fields), level, rest => by
    have hfields := length_le_spelledFields (e :: fields) level rest
    simp only [spelled, List.length_cons, List.length_append] at hfields ⊢
    omega
termination_by structural v => v

theorem length_le_spelledFields : ∀ (fields : List (String × Value)) (level : Nat) (rest : Text),
    fields.length + rest.length ≤ (spelledFields sp level fields rest).length
  | [], level, rest => by
    simp only [spelledFields, List.length_append, List.length_cons, List.length_nil]
    omega
  | [(k, v)], level, rest => by
    have hv := length_le_spelled v (level + 1) (sp.closing level ++ '\x7d' :: rest)
    have hmember := length_member sp k
      (v.spelled sp (level + 1) (sp.closing level ++ '\x7d' :: rest))
    simp only [spelledFields, List.length_append, List.length_cons, List.length_nil] at hv ⊢
    omega
  | (k, v) :: e :: fields, level, rest => by
    have hfields := length_le_spelledFields (e :: fields) level rest
    have hv := length_le_spelled v (level + 1)
      (',' :: (sp.before level ++ spelledFields sp level (e :: fields) rest))
    have hmember := length_member sp k (v.spelled sp (level + 1)
      (',' :: (sp.before level ++ spelledFields sp level (e :: fields) rest)))
    simp only [spelledFields, List.length_append, List.length_cons] at hfields hv ⊢
    omega
termination_by structural fields => fields

end

end Value

end LineScript
