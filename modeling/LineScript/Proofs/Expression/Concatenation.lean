import LineScript.Proofs.Condition.Loosened
import LineScript.Proofs.Expression.Summands
import Mathlib.Algebra.GroupWithZero.Nat

/-!
# Concatenation

An expression that is not simple and has a plus sign outside double quotes is the concatenation of its
pieces, whatever arithmetic would make of it (`evaluate_concatenation`).  The check at each piece comes
to one bound on the bytes of all of them (`joinAfter_eq`).
-/

namespace LineScript

namespace Text

variable {gap t : Text}

theorem trim_behind (hgap : ∀ c ∈ gap, isBlank c = true) (t : Text) : trim (gap ++ t) = trim t := by
  unfold trim trimStart
  rw [List.dropWhile_append_of_pos hgap]

theorem trim_before (hgap : ∀ c ∈ gap, isBlank c = true) (t : Text) : trim (t ++ gap) = trim t := by
  have hend : trimEnd gap = [] := trimEnd_eq_nil.mpr hgap
  unfold trim trimStart
  rw [List.dropWhile_append]
  split
  · next hnil =>
    have hblank : gap.dropWhile isBlank = [] := by simpa using hgap
    rw [List.isEmpty_iff.mp hnil, hblank]
  · rw [trimEnd_append, if_pos hend]

end Text

namespace Expression

open Condition (unquoted inside_of_no_quote)

variable {vars : Table Value} {q : Bool} {gap t : Text}

/-! ## Outer blanks -/

theorem not_mem_of_blank (hgap : ∀ c ∈ gap, Text.isBlank c = true) :
    '"' ∉ gap ∧ '+' ∉ unquoted q gap :=
  ⟨fun h => Condition.isBlank_ne (hgap _ h) (by decide) rfl,
    fun h => Condition.isBlank_ne (hgap _ (Condition.mem_of_mem_unquoted h)) (by decide) rfl⟩

theorem summands_blank (hgap : ∀ c ∈ gap, Text.isBlank c = true) (q : Bool) (t : Text) :
    ∃ xs x, summands q t = xs ++ [x] ∧ summands q (t ++ gap) = xs ++ [x ++ gap] := by
  induction t generalizing q with
  | nil => exact ⟨[], [], rfl, summands_of_no_plus (not_mem_of_blank hgap).2⟩
  | cons c t ih =>
    by_cases hplus : (c == '+' && !q) = true
    · obtain ⟨xs, x, hx, hgapped⟩ := ih q
      refine ⟨[] :: xs, x, ?_, ?_⟩
      · rw [summands, if_pos hplus, hx]
        rfl
      · rw [List.cons_append, summands, if_pos hplus, hgapped]
        rfl
    · obtain ⟨xs, x, hx, hgapped⟩ := ih (q != (c == '"'))
      rw [List.cons_append, summands, summands, if_neg hplus, if_neg hplus, hx, hgapped]
      cases xs with
      | nil => exact ⟨[], c :: x, rfl, rfl⟩
      | cons y ys => exact ⟨(c :: y) :: ys, x, rfl, rfl⟩

theorem trim_summands (t : Text) :
    (summands false (Text.trim t)).map Text.trim = (summands false t).map Text.trim := by
  obtain ⟨before, behind, hbefore, hbehind, hstart, ht⟩ := Text.exists_gaps t
  obtain ⟨hquote, hplus⟩ := not_mem_of_blank (q := false) hbefore
  obtain ⟨x, xs, hx, hfront⟩ := summands_append hplus (Text.trimStart t)
  obtain ⟨ys, y, hy, hback⟩ := summands_blank hbehind false (Text.trim t)
  rw [inside_of_no_quote hquote] at hx
  rw [← hstart, hx] at hback
  rw [← ht] at hfront
  calc (summands false (Text.trim t)).map Text.trim
      = (x :: xs).map Text.trim := by
        rw [hy, hback, List.map_append, List.map_append, List.map_singleton, List.map_singleton,
          Text.trim_before hbehind]
    _ = (summands false t).map Text.trim := by
        rw [hfront, List.map_cons, List.map_cons, Text.trim_behind hbefore]

theorem pieceTexts_trim (vars : Table Value) (pieces : List Text) :
    (pieces.map Text.trim).filterMap (pieceText? vars) = pieces.filterMap (pieceText? vars) := by
  rw [List.filterMap_map]
  refine congrArg (List.filterMap · pieces) (funext fun p => ?_)
  show pieceText? vars (Text.trim p) = pieceText? vars p
  unfold pieceText?
  rw [Text.trim_trim]

/-! ## The bound -/

/-- How many bytes texts have together. -/
def totalBytes (texts : List String) : Nat := (texts.map String.utf8ByteSize).sum

/-- The bound is passed at some text if and only if all texts together pass it. -/
theorem joinAfter_eq {joined : String} (h : joined.utf8ByteSize ≤ maxStringBytes)
    (texts : List String) :
    joinAfter joined texts =
      if joined.utf8ByteSize + totalBytes texts ≤ maxStringBytes then .ok (joined ++ String.join texts)
      else .error .tooLong := by
  induction texts generalizing joined with
  | nil =>
    rw [joinAfter, totalBytes, List.map_nil, List.sum_nil, Nat.add_zero, if_pos h]
    simp
  | cons s rest ih =>
    have htotal : totalBytes (s :: rest) = s.utf8ByteSize + totalBytes rest := by
      simp [totalBytes]
    rw [joinAfter, htotal, ← Nat.add_assoc]
    by_cases hlong : maxStringBytes < joined.utf8ByteSize + s.utf8ByteSize
    · rw [if_pos hlong, if_neg (by omega)]
    · rw [if_neg hlong, ih (by rw [String.utf8ByteSize_append]; omega), String.utf8ByteSize_append]
      simp [String.append_assoc]

/-! ## Concatenations -/

/-- The value of an expression, with something else in the place of arithmetic. -/
def evaluateBy (arith : Table Value → Text → Drawing Value) (t : Text) (vars : Table Value) :
    Drawing Value :=
  let t := Text.trim t
  match simple? vars t, summands false t with
  | some v, _ => pure v
  | none, [] | none, [_] => arith vars t
  | none, pieces => do return .string (← joinAfter "" (pieces.filterMap (pieceText? vars)))

theorem evaluate_eq_by : evaluate = evaluateBy arithmetic := rfl

theorem evaluateBy_of_pieces {pieces : List Text} (hsimple : simple? vars (Text.trim t) = none)
    (hpieces : summands false (Text.trim t) = pieces) (hmany : 2 ≤ pieces.length)
    (arith : Table Value → Text → Drawing Value) :
    evaluateBy arith t vars =
      (do return .string (← joinAfter "" (pieces.filterMap (pieceText? vars)))) := by
  subst hpieces
  unfold evaluateBy
  simp only [hsimple]
  split
  · next h => cases h
  · next h => simp [h] at hmany
  · next h => simp [h] at hmany
  · rfl

/-- An expression that is not simple and has plus signs outside double quotes is the string that its
pieces make: the texts of those that have a simple value other than null, one after the other.  There is
one way only to cut it, it fails exactly where the string would be too long, and it does not matter what
arithmetic would make of it. -/
theorem evaluate_concatenation (hsimple : simple? vars (Text.trim t) = none)
    (hplus : 1 ≤ (unquoted false t).count '+') :
    ∃ pieces, Parts t pieces ∧ (∀ others, Parts t others → others = pieces) ∧
      pieces.length = (unquoted false t).count '+' + 1 ∧
      (∀ draws, evaluate t vars draws =
        if totalBytes (pieces.filterMap (pieceText? vars)) ≤ maxStringBytes then
          .ok (.string (String.join (pieces.filterMap (pieceText? vars))), draws)
        else .error (.tooLong, draws)) ∧
      (∀ arith, evaluateBy arith t vars = evaluate t vars) ∧
      Error.tooLong.kind = .valueError ∧ Error.tooLong.detail = "concatenated string is too long" := by
  have hlength := length_summands false t
  have htrim := trim_summands t
  have hmany : 2 ≤ (summands false (Text.trim t)).length := by
    have hsame := congrArg List.length htrim
    rw [List.length_map, List.length_map] at hsame
    omega
  have hby := evaluateBy_of_pieces hsimple rfl hmany
  -- blanks around the text make no difference to its pieces when these are trimmed
  refine ⟨summands false t, parts_summands t, fun others h => (h.eq_summands ?_).symm, hlength,
    fun draws => ?_, fun arith => (hby arith).trans (hby arithmetic).symm, rfl, rfl⟩
  · rintro rfl
    rw [← h.joined] at hplus
    exact absurd hplus (by decide)
  · have htexts : (summands false (Text.trim t)).filterMap (pieceText? vars) =
        (summands false t).filterMap (pieceText? vars) := by
      rw [← pieceTexts_trim vars, htrim, pieceTexts_trim]
    rw [evaluate_eq_by, hby arithmetic, htexts, joinAfter_eq (Nat.zero_le _), String.utf8ByteSize_empty,
      Nat.zero_add, String.empty_append]
    split <;> rfl

/-- A text whose first piece has a plus sign in quotes and whose last one does not close its quotes. -/
def unclosed : Text := "\"p+q\" + x + nobody + n + \"é+z".toList

/-- A string and null. -/
def someVars : Table Value := ((∅ : Table Value).insert "x" (.string "a")).insert "n" .null

/-- Of the five pieces the unknown name, null and the open string add nothing. -/
theorem evaluate_concatenation_unclosed :
    simple? someVars (Text.trim unclosed) = none ∧ 1 ≤ (unquoted false unclosed).count '+' ∧
      ∃ pieces, Parts unclosed pieces ∧ pieces.length = 5 ∧
        ∀ draws, evaluate unclosed someVars draws = .ok (.string "p+qa", draws) := by
  have hsimple : simple? someVars (Text.trim unclosed) = none := by
    rw [← Option.isNone_iff_eq_none]
    decide +kernel
  have hplus : 1 ≤ (unquoted false unclosed).count '+' := by decide
  obtain ⟨pieces, hparts, honly, hlength, hvalue, -⟩ := evaluate_concatenation hsimple hplus
  refine ⟨hsimple, hplus, pieces, hparts, hlength, fun draws => ?_⟩
  obtain rfl := honly _ (parts_summands unclosed)
  have htexts : (summands false unclosed).filterMap (pieceText? someVars) = ["p+q", "a"] := by
    decide +kernel
  rw [hvalue, htexts]
  rfl

end Expression

end LineScript
