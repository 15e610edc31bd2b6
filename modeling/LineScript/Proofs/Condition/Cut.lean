import LineScript.Condition
import Mathlib.Tactic.Common

/-!
# Where a condition is cut

A condition is cut at the first of its comparisons that has something in front and something behind it
and stands outside double quotes (`split_eq_some_iff`); where there is none, it is not cut
(`split_eq_none_iff`).
-/

namespace LineScript.Condition

/-- Whether a place is inside double quotes, given whether the text in front of it started there. -/
def inside (inQuotes : Bool) : Text → Bool
  | [] => inQuotes
  | c :: t => inside (inQuotes != (c == '"')) t

/-- The characters of a text outside double quotes, and the quotes that open. -/
def unquoted (inQuotes : Bool) : Text → Text
  | [] => []
  | c :: t => (if inQuotes then [] else [c]) ++ unquoted (inQuotes != (c == '"')) t

theorem inside_append (q : Bool) (s t : Text) : inside q (s ++ t) = inside (inside q s) t := by
  induction s generalizing q with
  | nil => rfl
  | cons c s ih => exact ih _

theorem unquoted_append (q : Bool) (s t : Text) :
    unquoted q (s ++ t) = unquoted q s ++ unquoted (inside q s) t := by
  induction s generalizing q with
  | nil => rfl
  | cons c s ih =>
    rw [List.cons_append, unquoted, unquoted, ih, List.append_assoc]
    rfl

theorem inside_of_no_quote {q : Bool} {t : Text} (h : '"' ∉ t) : inside q t = q := by
  induction t generalizing q with
  | nil => rfl
  | cons c t ih =>
    rw [List.mem_cons, not_or] at h
    have hc : (c == '"') = false := beq_false_of_ne (Ne.symm h.1)
    rw [inside, hc, Bool.bne_false, ih h.2]

theorem unquoted_of_no_quote {t : Text} (h : '"' ∉ t) : unquoted false t = t := by
  induction t with
  | nil => rfl
  | cons c t ih =>
    rw [List.mem_cons, not_or] at h
    have hc : (c == '"') = false := beq_false_of_ne (Ne.symm h.1)
    rw [unquoted, hc, Bool.bne_false, ih h.2]
    rfl

/-- A comparison between two parts of a text, outside double quotes and with something behind it;
`skip` says that there has to be something in front as well. -/
structure Cuts (inQuotes skip : Bool) (t left : Text) (op : Comparison) (right : Text) : Prop where
  reads : ∃ rest, t = left ++ rest ∧ Comparison.take? rest = some (op, right)
  begun : skip = true → left ≠ []
  outside : inside inQuotes left = false
  something : Text.trim right ≠ []

/-- The first of the comparisons that may cut a condition. -/
def FirstCut (t left : Text) (op : Comparison) (right : Text) : Prop :=
  Cuts false true t left op right ∧
    ∀ left' op' right', Cuts false true t left' op' right' → left.length ≤ left'.length

section Split

variable {q skip : Bool} {t left right : Text} {op : Comparison}

theorem comparison?_eq_some : comparison? t = some (op, right) ↔
    Comparison.take? t = some (op, right) ∧ Text.trim right ≠ [] := by
  unfold comparison?
  rw [Option.filter_eq_some_iff]
  simp

theorem cuts_cons {c : Char} : Cuts q skip (c :: t) left op right ↔
    (left = [] ∧ q = false ∧ skip = false ∧ comparison? (c :: t) = some (op, right)) ∨
    ∃ left', left = c :: left' ∧ Cuts (q != (c == '"')) false t left' op right := by
  rw [comparison?_eq_some]
  constructor
  · rintro ⟨⟨rest, ht, htake⟩, hbegun, houtside, hsomething⟩
    cases left with
    | nil =>
      have hskip : skip = false := by
        cases skip with
        | false => rfl
        | true => exact absurd rfl (hbegun rfl)
      exact .inl ⟨rfl, houtside, hskip, (show c :: t = rest from ht) ▸ ⟨htake, hsomething⟩⟩
    | cons d left =>
      obtain ⟨rfl, rfl⟩ := List.cons.inj ht
      exact .inr ⟨left, rfl, ⟨rest, rfl, htake⟩, fun h => (nomatch h), houtside, hsomething⟩
  · rintro (⟨rfl, rfl, rfl, htake, hsomething⟩ | ⟨left', rfl, ⟨⟨rest, rfl, htake⟩, -, houtside, hs⟩⟩)
    · exact ⟨⟨c :: t, rfl, htake⟩, fun h => (nomatch h), rfl, hsomething⟩
    · exact ⟨⟨rest, rfl, htake⟩, fun _ h => (nomatch h), houtside, hs⟩

/-- What cutting finds is a comparison, and the first one. -/
theorem split_spec (q skip : Bool) (t : Text) :
    match split q skip t with
    | none => ∀ left op right, ¬ Cuts q skip t left op right
    | some (left, op, right) => Cuts q skip t left op right ∧
      ∀ left' op' right', Cuts q skip t left' op' right' → left.length ≤ left'.length := by
  induction t generalizing q skip with
  | nil =>
    rintro left op right ⟨⟨rest, ht, htake⟩, -, -, -⟩
    obtain ⟨-, rfl⟩ := List.append_eq_nil_iff.mp ht.symm
    cases htake
  | cons c t ih =>
    have hquote : comparison? ('"' :: t) = none := rfl
    rw [split]
    simp only
    cases hfound : (if c == '"' || q || skip then none else comparison? (c :: t)) with
    | some found =>
      obtain ⟨op, right⟩ := found
      obtain ⟨hplace, htake⟩ := Option.ite_none_left_eq_some.mp hfound
      simp only [Bool.or_eq_true, not_or, Bool.not_eq_true] at hplace
      exact ⟨cuts_cons.mpr (.inl ⟨rfl, hplace.1.2, hplace.2, htake⟩), fun _ _ _ _ => Nat.zero_le _⟩
    | none =>
      -- the text does not start with a comparison at which it may be cut
      have hstart : ∀ op right, ¬ (q = false ∧ skip = false ∧ comparison? (c :: t) = some (op, right)) := by
        rintro op right ⟨rfl, rfl, htake⟩
        by_cases hc : c = '"'
        · subst hc
          rw [hquote] at htake
          cases htake
        · rw [beq_false_of_ne hc] at hfound
          exact absurd (hfound.symm.trans htake) (by simp)
      have hrest := ih (q != (c == '"')) false
      simp only
      cases hsplit : split (q != (c == '"')) false t with
      | none =>
        rw [hsplit] at hrest
        intro left op right hcuts
        rcases cuts_cons.mp hcuts with ⟨-, hcut⟩ | ⟨left', -, hcut⟩
        · exact hstart op right hcut
        · exact hrest left' op right hcut
      | some cut =>
        obtain ⟨left, op, right⟩ := cut
        rw [hsplit] at hrest
        refine ⟨cuts_cons.mpr (.inr ⟨left, rfl, hrest.1⟩), fun left' op' right' hcuts => ?_⟩
        rcases cuts_cons.mp hcuts with ⟨-, hcut⟩ | ⟨left'', rfl, hcut⟩
        · exact absurd hcut (hstart op' right')
        · exact Nat.succ_le_succ (hrest.2 left'' op' right' hcut)

theorem split_eq_some_iff : split false true t = some (left, op, right) ↔
    FirstCut t left op right := by
  have hspec := split_spec false true t
  constructor
  · intro h
    rw [h] at hspec
    exact hspec
  · intro h
    cases hsplit : split false true t with
    | none =>
      rw [hsplit] at hspec
      exact absurd h.1 (hspec left op right)
    | some cut =>
      obtain ⟨left', op', right'⟩ := cut
      rw [hsplit] at hspec
      have hlength := Nat.le_antisymm (hspec.2 left op right h.1) (h.2 left' op' right' hspec.1)
      obtain ⟨rest, ht, htake⟩ := h.1.reads
      obtain ⟨rest', ht', htake'⟩ := hspec.1.reads
      obtain ⟨rfl, rfl⟩ := List.append_inj (ht'.symm.trans ht) hlength
      rw [htake] at htake'
      cases htake'
      rfl

theorem split_eq_none_iff : split false true t = none ↔
    ∀ left op right, ¬ Cuts false true t left op right := by
  have hspec := split_spec false true t
  constructor
  · intro h
    rw [h] at hspec
    exact hspec
  · intro h
    cases hsplit : split false true t with
    | none => rfl
    | some cut =>
      rw [hsplit] at hspec
      exact absurd hspec.1 (h _ _ _)

end Split

end LineScript.Condition
