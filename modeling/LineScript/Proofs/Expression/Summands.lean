import LineScript.Proofs.Condition.Cut
import Mathlib.Algebra.Group.Nat.Even

/-!
# The summands of a text

A text is cut at its plus signs outside double quotes.  What comes of it is the one way to write the
text as pieces with plus signs between them, so that no piece has a plus sign outside double quotes and
each piece but the last one closes its quotes (`parts_summands`, `Parts.eq_summands`).
-/

namespace LineScript

theorem Condition.mem_of_mem_unquoted {q : Bool} {t : Text} {c : Char} (h : c ∈ unquoted q t) :
    c ∈ t := by
  induction t generalizing q with
  | nil => cases h
  | cons d t ih =>
    rw [unquoted, List.mem_append] at h
    rcases h with h | h
    · cases q with
      | true => cases h
      | false => exact List.mem_singleton.mp h ▸ List.mem_cons_self
    · exact List.mem_cons_of_mem d (ih h)

namespace Expression

open Condition (inside unquoted)

/-- The pieces of a text between its plus signs outside double quotes. -/
structure Parts (t : Text) (pieces : List Text) : Prop where
  joined : List.intercalate ['+'] pieces = t
  closed : ∀ p ∈ pieces.dropLast, Even (p.count '"')
  whole : ∀ p ∈ pieces, '+' ∉ unquoted false p

variable {q : Bool} {t p rest : Text}

theorem inside_eq (q : Bool) (t : Text) : inside q t = (q == decide (Even (t.count '"'))) := by
  induction t generalizing q with
  | nil => simp [inside]
  | cons c t ih =>
    rw [inside, ih]
    by_cases hc : c = '"'
    · subst hc
      simp only [List.count_cons_self, Nat.even_add_one, decide_not]
      cases q <;> simp
    · rw [List.count_cons_of_ne hc, beq_false_of_ne hc, Bool.bne_false]

theorem inside_eq_false_iff : inside false t = false ↔ Even (t.count '"') := by
  rw [inside_eq]
  simp

theorem summands_append (h : '+' ∉ unquoted q p) (rest : Text) :
    ∃ x xs, summands (inside q p) rest = x :: xs ∧ summands q (p ++ rest) = (p ++ x) :: xs := by
  induction p generalizing q with
  | nil =>
    cases hx : summands q rest with
    | nil => exact absurd hx (summands_ne_nil q rest)
    | cons x xs => exact ⟨x, xs, hx, hx⟩
  | cons c p ih =>
    rw [unquoted, List.mem_append, not_or] at h
    have hplus : ¬ (c == '+' && !q) = true := by
      intro hplus
      simp only [Bool.and_eq_true, beq_iff_eq, Bool.not_eq_true'] at hplus
      obtain ⟨rfl, rfl⟩ := hplus
      exact h.1 List.mem_cons_self
    obtain ⟨x, xs, hx, hcut⟩ := ih h.2
    refine ⟨x, xs, hx, ?_⟩
    rw [List.cons_append, summands, if_neg hplus, hcut]
    rfl

theorem summands_of_no_plus (h : '+' ∉ unquoted q t) : summands q t = [t] := by
  obtain ⟨x, xs, hx, hcut⟩ := summands_append h []
  cases hx
  rwa [List.append_nil] at hcut

theorem summands_plus (h : '+' ∉ unquoted q p) (hclosed : inside q p = false) (rest : Text) :
    summands q (p ++ '+' :: rest) = p :: summands false rest := by
  obtain ⟨x, xs, hx, hcut⟩ := summands_append h ('+' :: rest)
  rw [hclosed] at hx
  cases hx
  rwa [List.append_nil] at hcut

/-- There are as many cuts as plus signs outside double quotes. -/
theorem length_summands (q : Bool) (t : Text) :
    (summands q t).length = (unquoted q t).count '+' + 1 := by
  induction t generalizing q with
  | nil => rfl
  | cons c t ih =>
    rw [summands, unquoted, List.count_append]
    split
    · next hplus =>
      simp only [Bool.and_eq_true, beq_iff_eq, Bool.not_eq_true'] at hplus
      obtain ⟨rfl, rfl⟩ := hplus
      have hrest := ih false
      simp [hrest, Nat.add_comm]
    · next hplus =>
      have hnone : (if q then [] else [c]).count '+' = 0 := by
        cases q <;> simp_all
      have hrest := ih (q != (c == '"'))
      rw [hnone, Nat.zero_add, ← hrest]
      split
      · next hnil => exact absurd hnil (summands_ne_nil _ _)
      · next hcut => rw [hcut]; rfl

theorem exists_first_plus (h : '+' ∈ unquoted q t) :
    ∃ p rest, t = p ++ '+' :: rest ∧ '+' ∉ unquoted q p ∧ inside q p = false := by
  induction t generalizing q with
  | nil => cases h
  | cons c t ih =>
    by_cases hplus : c = '+' ∧ q = false
    · obtain ⟨rfl, rfl⟩ := hplus
      exact ⟨[], t, rfl, List.not_mem_nil, rfl⟩
    · have hhere : '+' ∉ if q then [] else [c] := by
        cases q with
        | true => exact List.not_mem_nil
        | false => exact fun hmem => hplus ⟨(List.mem_singleton.mp hmem).symm, rfl⟩
      rw [unquoted, List.mem_append] at h
      obtain ⟨p, rest, rfl, hp, hclosed⟩ := ih (h.resolve_left hhere)
      refine ⟨c :: p, rest, rfl, ?_, hclosed⟩
      rw [unquoted, List.mem_append, not_or]
      exact ⟨hhere, hp⟩

theorem parts_summands (t : Text) : Parts t (summands false t) := by
  -- on the length: behind the first cut the text is shorter
  induction hlength : t.length using Nat.strong_induction_on generalizing t with
  | _ n ih =>
    by_cases hplus : '+' ∈ unquoted false t
    · obtain ⟨p, rest, rfl, hp, hclosed⟩ := exists_first_plus hplus
      have hshorter : rest.length < n := by
        rw [← hlength, List.length_append, List.length_cons]
        omega
      obtain ⟨hjoined, hrest, hwhole⟩ := ih rest.length hshorter rest rfl
      rw [summands_plus hp hclosed]
      have hne := summands_ne_nil false rest
      refine ⟨?_, ?_, List.forall_mem_cons.mpr ⟨hp, hwhole⟩⟩
      · obtain ⟨x, xs, hx⟩ := List.exists_cons_of_ne_nil hne
        rw [hx, List.intercalate_cons_cons, ← hx, hjoined, List.append_assoc, List.singleton_append]
      · rw [List.dropLast_cons_of_ne_nil hne]
        exact List.forall_mem_cons.mpr ⟨inside_eq_false_iff.mp hclosed, hrest⟩
    · rw [summands_of_no_plus hplus]
      exact ⟨List.intercalate_singleton, fun p hp => (nomatch hp), List.forall_mem_singleton.mpr hplus⟩

/-- There are no other pieces than those that cutting gives. -/
theorem Parts.eq_summands {pieces : List Text} (h : Parts t pieces) (hne : pieces ≠ []) :
    summands false t = pieces := by
  obtain ⟨rfl, hclosed, hwhole⟩ := h
  induction pieces with
  | nil => exact absurd rfl hne
  | cons p ps ih =>
    obtain ⟨hp, hwhole⟩ := List.forall_mem_cons.mp hwhole
    cases ps with
    | nil =>
      rw [List.intercalate_singleton]
      exact summands_of_no_plus hp
    | cons p' ps =>
      have hparts := List.forall_mem_cons.mp hclosed
      rw [List.intercalate_cons_cons, List.append_assoc, List.singleton_append,
        summands_plus hp (inside_eq_false_iff.mpr hparts.1),
        ih (List.cons_ne_nil p' ps) hparts.2 hwhole]

end Expression

end LineScript
