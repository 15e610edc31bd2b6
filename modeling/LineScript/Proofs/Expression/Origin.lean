import LineScript.Proofs.Arith.Reading
import LineScript.Proofs.Condition.Tokens
import Mathlib.Data.Option.Basic

/-!
# Where the value of an expression comes from

A simple text has its value by one of four readings (`source_of_simple?`), and an expression has the value
of a simple text, that of arithmetic, or a string that was joined (`source_of_evaluate`).
-/

namespace LineScript.Expression

variable {vars : Table Value} {t : Text} {v : Value} {draws draws' : Draws}

theorem string_of_quoted? (h : quoted? t = some v) :
    ∃ body, t = '"' :: (body ++ ['"']) ∧ '"' ∉ body ∧ v = .string (String.ofList body) := by
  unfold quoted? at h
  split at h
  · split at h
    · next inner hcut =>
      cases h
      obtain ⟨rfl, hfree⟩ := Condition.splitFirst_eq_some hcut
      exact ⟨inner, rfl, hfree, rfl⟩
    · cases h
  · cases h

theorem number_of_number? (h : number? t = some v) : (∃ n, v = .integer n) ∨ ∃ x, v = .float x := by
  unfold number? at h
  split at h
  · obtain ⟨x, -, rfl⟩ := Option.map_eq_some_iff.mp h
    exact .inr ⟨x, rfl⟩
  · obtain ⟨n, -, rfl⟩ := Option.map_eq_some_iff.mp h
    exact .inl ⟨n, rfl⟩

theorem object_of_dotted? (h : dotted? vars t = some v) :
    ∃ name fields path, vars.get? name = some (.object fields) ∧ v = (Value.object fields).follow path := by
  unfold dotted? at h
  split at h
  · cases h
  · split at h
    · split at h
      · next hget =>
        cases h
        exact ⟨_, _, _, hget, rfl⟩
      · cases h
    · cases h

theorem source_of_simple? (h : simple? vars t = some v) :
    quoted? t = some v ∨ number? t = some v ∨ vars.get? (String.ofList t) = some v ∨
      dotted? vars t = some v := by
  unfold simple? at h
  rcases (Option.orElse_eq_some _ _ v).mp h with hquoted | ⟨-, h⟩
  · exact .inl hquoted
  rcases (Option.orElse_eq_some _ _ v).mp h with hnumber | ⟨-, h⟩
  · exact .inr (.inl hnumber)
  rcases (Option.orElse_eq_some _ _ v).mp h with hget | ⟨-, hdotted⟩
  · exact .inr (.inr (.inl hget))
  · exact .inr (.inr (.inr hdotted))

theorem arithmetic_eq_ok_iff :
    arithmetic vars t draws = .ok (v, draws') ↔ Arith.evaluate vars t draws = .ok (v, draws') := by
  unfold arithmetic
  cases Arith.evaluate vars t draws with
  | ok result => simp only [Except.ok.injEq]
  | error fault => exact iff_of_false (fun h => nomatch h) fun h => nomatch h

theorem toOption_arithmetic (vars : Table Value) (t : Text) (draws : Draws) :
    (arithmetic vars t draws).toOption =
      ((Arith.Token.ofText? t).bind Arith.Expr.ofTokens?).bind fun e =>
        (e.eval vars draws).toOption := by
  rw [← Arith.toOption_evaluate]
  unfold arithmetic
  cases Arith.evaluate vars t draws <;> rfl

/-- A value comes from a simple text, from arithmetic or from joining the texts of pieces. -/
theorem source_of_evaluate (h : evaluate t vars draws = .ok (v, draws')) :
    simple? vars (Text.trim t) = some v ∨ Arith.evaluate vars (Text.trim t) draws = .ok (v, draws') ∨
      ∃ texts joined, joinAfter "" texts = .ok joined ∧ v = .string joined := by
  unfold evaluate at h
  cases hsimple : simple? vars (Text.trim t) with
  | some w =>
    rw [hsimple] at h
    cases h
    exact .inl rfl
  | none =>
    rw [hsimple] at h
    match hpieces : summands false (Text.trim t) with
    | [] => rw [hpieces] at h; exact .inr (.inl (arithmetic_eq_ok_iff.mp h))
    | [piece] => rw [hpieces] at h; exact .inr (.inl (arithmetic_eq_ok_iff.mp h))
    | piece :: next :: more =>
      rw [hpieces] at h
      -- pieces that are joined make a string
      cases hjoined : joinAfter "" ((piece :: next :: more).filterMap (pieceText? vars)) with
      | error e => simp only [hjoined] at h; cases h
      | ok joined =>
        simp only [hjoined] at h
        cases h
        exact .inr (.inr ⟨_, joined, hjoined, rfl⟩)

end LineScript.Expression
