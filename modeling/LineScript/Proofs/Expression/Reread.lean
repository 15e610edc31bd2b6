import LineScript.Proofs.Condition.Agreement
import LineScript.Proofs.Expression.Summands
import LineScript.Proofs.Number.Whole
import LineScript.Proofs.Text.OneLine

/-!
# The text of a floating-point number as an expression

The text of a finite number is a numeral with a point or an exponent, and a sign. With a point it is a
simple text, a number as it stands; without one it is arithmetic, where the exponent makes its numeral a
floating-point number and a minus is an operator. Either way its value is the number
(`Expression.float_reread`), unless a variable is called like the text.
-/

namespace LineScript

open Arith (Numeral Tree)
open Binary64 (signed)
open Float.Model.UnpackedFloat (Sign)
open Layout (sign)

variable {layout : Layout} {s : Sign} {n : Numeral} {t : Text}

/-! ## Simple texts and arithmetic -/

theorem Integer.read?_eq_none {c : Char} (hc : c ∈ t) (hdigit : c.isDigit = false)
    (hsign : c ≠ '+' ∧ c ≠ '-') : Integer.read? t = none := by
  have hbehind : c ∈ (Integer.splitSign t).2 := by
    unfold Integer.splitSign
    split
    · exact List.mem_of_ne_of_mem hsign.2 hc
    · exact List.mem_of_ne_of_mem hsign.1 hc
    · exact hc
  have hall : (Integer.splitSign t).2.all Char.isDigit = false := by
    rw [List.all_eq_false]
    exact ⟨c, hbehind, by rw [hdigit]; decide⟩
  rw [Integer.read?_eq, Integer.natural?, hall, Bool.and_false]
  rfl

namespace Expression

variable {vars : Table Value} {draws : Draws}

theorem number?_signed (hpoint : '.' ∈ sign s ++ n.text) :
    number? (sign s ++ n.text) = some (.float (signed s n.float)) := by
  have hread : Decimal.read? (sign s ++ n.text) = some (signed s n.float) := by
    cases s with
    | positive => exact n.read_eq
    | negative =>
      have hstarts := n.startsNumber_text []
      rw [List.append_nil] at hstarts
      have hmagnitude : (Decimal.special? n.text <|> Decimal.magnitude? n.text) = some n.float := by
        rw [Arith.special?_of_startsNumber hstarts, n.magnitude_eq]
        rfl
      rw [Arith.read?_decimal]
      exact congrArg (Option.map _) hmagnitude
  rw [number?, if_pos (List.contains_iff_mem.mpr hpoint), hread]
  rfl

theorem arithmetic_signed (hparted : n.isWhole = false) :
    arithmetic vars (sign s ++ n.text) draws = .ok (.float (signed s n.float), draws) := by
  have hvalue : n.value? = some (.float n.float) := by
    unfold Numeral.value?
    rw [if_neg (by rw [hparted]; decide)]
  have htokens : Arith.Token.ofText? n.text = some (Arith.tokens (Tree.numeral n).lexemes) := by
    have hone := Condition.ofText?_one (.numeral n)
    rwa [if_pos (show (Arith.Lexeme.numeral n).fits = true from Option.isSome_of_eq_some hvalue)] at hone
  refine ok_of_toOption ?_
  cases s with
  | positive =>
    rw [show sign .positive ++ n.text = n.text from rfl, Condition.toOption_arithmetic htokens]
    exact Condition.eval_of_tokens (.numeral n) rfl hvalue draws
  | negative =>
    -- a minus in front is an operator, and the number is read without it
    have hminus : Arith.Token.ofText? ('-' :: n.text) =
        some (Arith.tokens (Tree.unary .minus (.numeral n)).lexemes) := by
      rw [Arith.ofText?_minus, htokens]
      rfl
    have hnegated : (Tree.unary .minus (.numeral n)).value? vars = some (.float (-n.float)) := by
      show n.value?.bind _ = _
      rw [hvalue]
      rfl
    rw [show sign .negative ++ n.text = '-' :: n.text from rfl, Condition.toOption_arithmetic hminus]
    exact Condition.eval_of_tokens _ rfl hnegated draws

/-- A number that a format without plus signs writes is an expression with its value. -/
theorem evaluate_signed (h : layout.Spells n) (hplus : layout.exponentPlus = false)
    (hfree : vars.get? (String.ofList (sign s ++ n.text)) = none) :
    evaluate (sign s ++ n.text) vars draws = .ok (.float (signed s n.float), draws) := by
  have hchars : ∀ c ∈ sign s ++ n.text, (!Text.isBlank c && (c != '"' && c != '+')) = true :=
    h.of_mem (by decide) (by decide) fun hsome => absurd (hplus.symm.trans hsome) Bool.false_ne_true
  simp only [Bool.and_eq_true, Bool.not_eq_true', bne_iff_ne] at hchars
  have htrim : Text.trim (sign s ++ n.text) = sign s ++ n.text :=
    Text.trim_eq_self (fun c hc => (hchars c (List.mem_of_mem_head? hc)).1)
      fun c hc => (hchars c (List.mem_of_mem_getLast? hc)).1
  have hquoted : quoted? (sign s ++ n.text) = none := by
    unfold quoted?
    split
    · next rest ht => exact absurd rfl (hchars '"' (by rw [ht]; exact List.mem_cons_self)).2.1
    · rfl
  unfold evaluate
  rw [htrim]
  -- with a point it is read as a number, and without one it is left to arithmetic
  by_cases hpoint : '.' ∈ sign s ++ n.text
  · have hsimple : simple? vars (sign s ++ n.text) = some (.float (signed s n.float)) := by
      rw [simple?, hquoted, number?_signed hpoint]
      rfl
    simp only [hsimple]
    rfl
  · have hmark : 'e' ∈ sign s ++ n.text :=
      List.mem_append_right _ (h.point_or_mark.resolve_left fun hc => hpoint (List.mem_append_right _ hc))
    have hnumber : number? (sign s ++ n.text) = none := by
      rw [number?, if_neg (by rwa [List.contains_iff_mem]),
        Integer.read?_eq_none hmark (by decide) (by decide)]
      rfl
    have hdotted : dotted? vars (sign s ++ n.text) = none := by
      unfold dotted?
      split
      · rfl
      · next name path hcut =>
        refine absurd ?_ hpoint
        rw [(Condition.splitFirst_eq_some hcut).1]
        exact List.mem_append_right _ List.mem_cons_self
    have hsimple : simple? vars (sign s ++ n.text) = none := by
      rw [simple?, hquoted, hnumber, hfree, hdotted]
      rfl
    have hone : summands false (sign s ++ n.text) = [sign s ++ n.text] :=
      summands_of_no_plus fun hmem => (hchars '+' (Condition.mem_of_mem_unquoted hmem)).2.2 rfl
    simp only [hsimple, hone]
    exact arithmetic_signed h.parted

/-- The text of a finite floating-point number is read back as that very number, and never as an integer;
an integral number below `10 ^ 16` is written with one digit behind the point. -/
theorem float_reread {x : Float} (hx : x.isFinite) (hfree : vars.get? (Value.float x).text = none)
    (draws : Draws) :
    evaluate (Value.float x).text.toList vars draws = .ok (.float x, draws) ∧
      ('.' ∈ (Value.float x).text.toList ∨ 'e' ∈ (Value.float x).text.toList) ∧
      Integer.read? (Value.float x).text.toList = none ∧
      ∀ i : Int, Binary64.exact x = i → i.natAbs < 10 ^ 16 →
        (Value.float x).text = toString i ++ ".0" ∨ i = 0 ∧ (Value.float x).text = "-0.0" := by
  obtain ⟨s, n, htext, hspells, hsigned⟩ := Layout.exists_signed (show Layout.display.Near by decide) hx
  have hlist : (Value.float x).text.toList = sign s ++ n.text := by
    rw [show (Value.float x).text = Layout.display.text x from rfl, htext, String.toList_ofList]
  have hmarks : '.' ∈ sign s ++ n.text ∨ 'e' ∈ sign s ++ n.text :=
    hspells.point_or_mark.imp (List.mem_append_right _) (List.mem_append_right _)
  refine ⟨?_, hlist ▸ hmarks, ?_, fun i hi hsmall => Layout.text_of_integral hx hi hsmall⟩
  · rw [hlist, evaluate_signed hspells rfl (htext ▸ hfree), hsigned]
  · rw [hlist]
    exact hmarks.elim (Integer.read?_eq_none · (by decide) (by decide))
      (Integer.read?_eq_none · (by decide) (by decide))

/-- The text of a subnormal number has an exponent and no point, and its minus is an operator. -/
theorem float_reread_subnormal :
    (-5e-324 : Float).isFinite = true ∧ (Value.float (-5e-324)).text = "-5e-324" ∧
      evaluate "-5e-324".toList ∅ (.ofSeed 0) = .ok (.float (-5e-324), .ofSeed 0) := by
  have hfinite : (-5e-324 : Float).isFinite = true := by decide +kernel
  have htext : (Value.float (-5e-324)).text = "-5e-324" := by decide +kernel
  have hfree : (∅ : Table Value).get? (Value.float (-5e-324)).text = none := rfl
  obtain ⟨hvalue, -⟩ := float_reread hfinite hfree (.ofSeed 0)
  rw [htext] at hvalue
  exact ⟨hfinite, htext, hvalue⟩

end Expression

end LineScript
