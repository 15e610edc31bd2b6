import LineScript.Proofs.Arith.Lexeme
import LineScript.Proofs.Number.Digits
import Mathlib.Algebra.Order.Field.Power
import Mathlib.Algebra.Order.Ring.Rat
import Mathlib.Tactic.Ring
import Mathlib.Tactic.NormNum
import Mathlib.Tactic.FieldSimp

/-!
# How a number is written

A positive decimal is laid out positionally, or with an exponent. Either way it is a numeral with a point or
an exponent that stands for the decimal (`Layout.exists_numeral`): the zeros that its digits end with are
made up for by the place of the point, by zeros in front of it or by the exponent.
-/

namespace LineScript

open Arith (Numeral Exponent)
open Float.Model.UnpackedFloat (Sign)

namespace Arith.Numeral

def digits (n : Numeral) : Text := n.whole ++ n.fraction.getD []

theorem isDigit_of_mem_digits (n : Numeral) : ∀ c ∈ n.digits, c.isDigit = true := fun c hc =>
  (List.mem_append.mp hc).elim (n.wholeDigits c) (n.fractionDigits c)

def scale (n : Numeral) : Int := n.exponent.elim 0 Exponent.value - (n.fraction.getD []).length

def rational (n : Numeral) : ℚ := Integer.natOfDigits n.digits * 10 ^ n.scale

end Arith.Numeral

namespace Layout

variable {digits : List Char} {lead : Int}

theorem isDigit_of_mem_zeros {n : Nat} {c : Char} (h : c ∈ List.replicate n '0') :
    c.isDigit = true := by
  rw [List.eq_of_mem_replicate h]
  rfl

/-- The numerals that a layout writes: a digit stands in front, there is a point or an exponent, and an
exponent has a small mark, and a plus sign only if the layout puts one. -/
structure Spells (layout : Layout) (m : Numeral) : Prop where
  whole : m.whole ≠ []
  parted : m.isWhole = false
  mark : ∀ x ∈ m.exponent, x.capital = false
  plus : ∀ x ∈ m.exponent, x.sign = some false → layout.exponentPlus = true

theorem Spells.of_mem {layout : Layout} {n : Numeral} (h : layout.Spells n) {p : Char → Bool}
    (hdigits : ∀ n ∈ List.range 10, p (Char.ofNat (n + 48)) = true)
    (hmarks : ['.', 'e', '-'].all p = true) (hplus : layout.exponentPlus = true → p '+' = true) {s : Sign} :
    ∀ c ∈ sign s ++ n.text, p c = true := by
  have hmarks := List.all_eq_true.mp hmarks
  intro c hc
  rcases List.mem_append.mp hc with hsign | hc
  · cases s with
    | positive => cases hsign
    | negative =>
      rw [List.mem_singleton.mp hsign]
      exact hmarks '-' (by decide)
  · -- a digit, the point, the mark of the exponent or its sign
    rcases Numeral.mem_text hc with hdigit | rfl | ⟨x, hx, rfl | hsign⟩
    · exact Arith.of_isDigit hdigits hdigit
    · exact hmarks '.' (by decide)
    · rw [h.mark x hx]
      exact hmarks 'e' (by decide)
    · unfold Exponent.signText at hsign
      split at hsign
      · cases hsign
      · rw [List.mem_singleton.mp hsign]
        exact hmarks '-' (by decide)
      · next hsome =>
        rw [List.mem_singleton.mp hsign]
        exact hplus (h.plus x hx hsome)

theorem Spells.point_or_mark {layout : Layout} {n : Numeral} (h : layout.Spells n) :
    '.' ∈ n.text ∨ 'e' ∈ n.text := by
  have hparted := h.parted
  rw [Numeral.isWhole, Bool.and_eq_false_iff, Option.isNone_eq_false_iff, Option.isNone_eq_false_iff]
    at hparted
  unfold Numeral.text Numeral.fractionText Numeral.exponentText
  rcases hparted with hfraction | hexponent
  · obtain ⟨digits, hdigits⟩ := Option.isSome_iff_exists.mp hfraction
    simp [hdigits]
  · obtain ⟨x, hx⟩ := Option.isSome_iff_exists.mp hexponent
    simp [hx, Exponent.text, h.mark x hx]

theorem positional_of_length_le (hlead : 0 ≤ lead) (h : digits.length ≤ lead + 1) :
    positional digits lead =
      digits ++ List.replicate (lead.toNat + 1 - digits.length) '0' ++ ['.', '0'] := by
  have hshort : digits.length ≤ lead.toNat + 1 := by omega
  unfold positional
  rw [if_neg (Int.not_lt.mpr hlead)]
  simp [List.take_of_length_le hshort, List.drop_of_length_le hshort]

/-- A text is that of a numeral which a layout writes.  It stands for given digits, the first of them at a
given power of ten, and has at most so many digits more. -/
def Stands (layout : Layout) (text digits : List Char) (lead : Int) (more : Nat) : Prop :=
  ∃ m : Numeral, text = m.text ∧ layout.Spells m ∧
    m.rational = Integer.natOfDigits digits * 10 ^ (lead + 1 - digits.length) ∧
    m.digits.length ≤ digits.length + more

theorem stands_of_neg (layout : Layout) (hdigits : ∀ c ∈ digits, c.isDigit = true) (hneg : lead < 0) :
    layout.Stands (positional digits lead) digits lead lead.natAbs := by
  obtain ⟨a, ha⟩ : ∃ a, (-lead - 1).toNat = a := ⟨_, rfl⟩
  have hfraction : ∀ c ∈ List.replicate a '0' ++ digits, c.isDigit = true := fun c hc =>
    (List.mem_append.mp hc).elim isDigit_of_mem_zeros (hdigits c)
  refine ⟨⟨['0'], some (List.replicate a '0' ++ digits), none, List.forall_mem_singleton.mpr rfl,
    hfraction, by simp⟩, ?_, ⟨by simp, rfl, by simp, by simp⟩, ?_, ?_⟩
  · unfold positional
    rw [if_pos hneg]
    simp [Numeral.text, Numeral.fractionText, Numeral.exponentText, ha]
  · have hvalue : Integer.natOfDigits ('0' :: (List.replicate a '0' ++ digits)) =
        Integer.natOfDigits digits := Integer.natOfDigits_zeros_append digits (a + 1)
    simp only [Numeral.rational, Numeral.digits, Numeral.scale, Option.getD_some, List.singleton_append,
      hvalue, Option.elim_none, List.length_append, List.length_replicate]
    congr 2
    omega
  · simp only [Numeral.digits, Option.getD_some, List.length_append, List.length_replicate,
      List.length_singleton]
    omega

theorem stands_of_lt_length (layout : Layout) (hdigits : ∀ c ∈ digits, c.isDigit = true)
    (hnonneg : 0 ≤ lead) (hlong : lead + 1 < digits.length) :
    layout.Stands (positional digits lead) digits lead 0 := by
  obtain ⟨w, hw⟩ : ∃ w, lead.toNat + 1 = w := ⟨_, rfl⟩
  have hnone : w - digits.length = 0 := by omega
  have hdrop : (digits.drop w).isEmpty = false := by
    rw [List.isEmpty_eq_false_iff, ne_eq, List.drop_eq_nil_iff]
    omega
  have htake : digits.take w ≠ [] := by
    rw [ne_eq, List.take_eq_nil_iff]
    rintro (hzero | rfl)
    · omega
    · rw [List.length_nil] at hlong
      omega
  refine ⟨⟨digits.take w, some (digits.drop w), none, fun c hc => hdigits c (List.mem_of_mem_take hc),
    fun c hc => hdigits c (List.mem_of_mem_drop hc),
    fun hnil => htake (List.append_eq_nil_iff.mp hnil).1⟩, ?_, ⟨htake, rfl, by simp, by simp⟩, ?_, ?_⟩
  · unfold positional
    rw [if_neg (Int.not_lt.mpr hnonneg)]
    simp [Numeral.text, Numeral.fractionText, Numeral.exponentText, hw, hnone, hdrop]
  · simp only [Numeral.rational, Numeral.digits, Numeral.scale, Option.getD_some,
      List.take_append_drop, Option.elim_none, List.length_drop]
    congr 2
    omega
  · simp only [Numeral.digits, Option.getD_some, List.take_append_drop]
    omega

theorem stands_of_length_le (layout : Layout) (hdigits : ∀ c ∈ digits, c.isDigit = true)
    (hnonneg : 0 ≤ lead) (hshort : digits.length ≤ lead + 1) :
    layout.Stands (positional digits lead) digits lead (lead.natAbs + 2) := by
  obtain ⟨w, hw⟩ : ∃ w, lead.toNat + 1 = w := ⟨_, rfl⟩
  have hwhole : ∀ c ∈ digits ++ List.replicate (w - digits.length) '0', c.isDigit = true :=
    fun c hc => (List.mem_append.mp hc).elim (hdigits c) isDigit_of_mem_zeros
  have hne : digits ++ List.replicate (w - digits.length) '0' ≠ [] := by
    intro hnil
    have hlength := congrArg List.length hnil
    simp only [List.length_append, List.length_replicate, List.length_nil] at hlength
    omega
  refine ⟨⟨digits ++ List.replicate (w - digits.length) '0', some ['0'], none, hwhole,
    List.forall_mem_singleton.mpr rfl, fun hnil => hne (List.append_eq_nil_iff.mp hnil).1⟩, ?_,
    ⟨hne, rfl, by simp, by simp⟩, ?_, ?_⟩
  · rw [positional_of_length_le hnonneg hshort, hw]
    simp [Numeral.text, Numeral.fractionText, Numeral.exponentText]
  · -- the zeros up to the point and the one behind it scale the digits
    have hvalue : Integer.natOfDigits (digits ++ List.replicate (w - digits.length) '0' ++ ['0']) =
        Integer.natOfDigits digits * 10 ^ (w - digits.length + 1) := by
      rw [List.append_assoc, ← List.replicate_succ', Integer.natOfDigits_append_zeros]
    have hplaces : lead + 1 - digits.length = ((w - digits.length : ℕ) : ℤ) := by omega
    simp only [Numeral.rational, Numeral.digits, Numeral.scale, Option.getD_some, hvalue,
      Option.elim_none, List.length_singleton, hplaces, zpow_natCast]
    push_cast
    rw [pow_succ, zpow_neg_one]
    field_simp
  · simp only [Numeral.digits, Option.getD_some, List.length_append, List.length_replicate,
      List.length_singleton]
    omega

theorem Stands.mono {layout : Layout} {text : List Char} {more more' : Nat}
    (h : layout.Stands text digits lead more) (hle : more ≤ more') :
    layout.Stands text digits lead more' := by
  obtain ⟨m, htext, hspells, hm, hfew⟩ := h
  exact ⟨m, htext, hspells, hm, by omega⟩

theorem stands_positional (layout : Layout) (hdigits : ∀ c ∈ digits, c.isDigit = true) (lead : Int) :
    layout.Stands (positional digits lead) digits lead (lead.natAbs + 2) := by
  rcases Int.lt_or_le lead 0 with hneg | hnonneg
  · exact (stands_of_neg layout hdigits hneg).mono (by omega)
  · rcases Int.lt_or_le (lead + 1) digits.length with hlong | hshort
    · exact (stands_of_lt_length layout hdigits hnonneg hlong).mono (by omega)
    · exact stands_of_length_le layout hdigits hnonneg hshort

def leadExponent (plus : Bool) (lead : Int) : Exponent where
  capital := false
  sign := if lead < 0 then some true else if plus then some false else none
  digits := Nat.toDigits 10 lead.natAbs
  nonempty := Nat.toDigits_ne_nil
  areDigits _ hc := Nat.isDigit_of_mem_toDigits (by decide) (by decide) hc

theorem sign_leadExponent (plus : Bool) (lead : Int) : (leadExponent plus lead).sign =
    if lead < 0 then some true else if plus then some false else none := rfl

theorem text_leadExponent (plus : Bool) (lead : Int) :
    (leadExponent plus lead).text =
      'e' :: (if plus && decide (0 ≤ lead) then ['+'] else []) ++ (toString lead).toList := by
  have htext : (leadExponent plus lead).text =
      'e' :: ((leadExponent plus lead).signText ++ Nat.toDigits 10 lead.natAbs) := rfl
  rw [htext, Exponent.signText, sign_leadExponent]
  cases lead with
  | ofNat n =>
    have hdigits : (toString (Int.ofNat n)).toList = Nat.toDigits 10 n := Nat.toList_repr
    rw [hdigits, if_neg (by simp)]
    cases plus <;> simp
  | negSucc n =>
    rw [toList_negSucc, if_pos (Int.negSucc_lt_zero n)]
    simp

theorem value_leadExponent (plus : Bool) (hlead : lead.natAbs < Decimal.exponentLimit) :
    (leadExponent plus lead).value = lead := by
  have hvalue : Integer.appendDigits 0 (leadExponent plus lead).digits = lead.natAbs :=
    Nat.ofDigitChars_ten_toDigits
  have hdigits : Decimal.exponentFrom 0 (leadExponent plus lead).digits = lead.natAbs :=
    (Decimal.exponentFrom_eq (by rwa [hvalue])).trans hvalue
  have hcases : (leadExponent plus lead).value =
      if (leadExponent plus lead).sign = some true then -(lead.natAbs : Int) else lead.natAbs := by
    rw [← hdigits]
    rfl
  rw [hcases, sign_leadExponent]
  by_cases hneg : lead < 0
  · rw [if_pos hneg, if_pos rfl]
    omega
  · rw [if_neg hneg, if_neg (by cases plus <;> decide)]
    omega

theorem plus_of_leadExponent {plus : Bool} (h : (leadExponent plus lead).sign = some false) :
    plus = true := by
  rw [sign_leadExponent] at h
  split at h
  · cases h
  · split at h
    · next hplus => exact hplus
    · cases h

theorem stands_scientific (layout : Layout) (hdigits : ∀ c ∈ digits, c.isDigit = true)
    (hne : digits ≠ []) (hlead : lead.natAbs < Decimal.exponentLimit) :
    layout.Stands (layout.scientific digits lead) digits lead 0 := by
  cases digits with
  | nil => exact absurd rfl hne
  | cons c cs =>
    obtain ⟨hc, hcs⟩ := List.forall_mem_cons.mp hdigits
    have hfraction : (if cs.isEmpty then none else some cs).getD [] = cs := by
      cases cs <;> rfl
    refine ⟨⟨[c], if cs.isEmpty then none else some cs, some (leadExponent layout.exponentPlus lead),
      List.forall_mem_singleton.mpr hc, by rwa [hfraction], by simp⟩, ?_, ⟨by simp, ?_, ?_, ?_⟩, ?_, ?_⟩
    · unfold scientific
      simp only [Numeral.text, Numeral.exponentText, text_leadExponent]
      cases cs <;> simp [Numeral.fractionText]
    · simp [Numeral.isWhole]
    · rintro x ⟨⟩
      rfl
    · rintro x ⟨⟩ hsign
      exact plus_of_leadExponent hsign
    · simp only [Numeral.rational, Numeral.digits, Numeral.scale, hfraction, List.singleton_append,
        Option.elim_some, value_leadExponent _ hlead, List.length_cons]
      congr 2
      push_cast
      ring
    · simp only [Numeral.digits, hfraction, List.singleton_append]
      exact Nat.le_refl _

def Near (layout : Layout) : Prop := -17 ≤ layout.plainFrom ∧ layout.plainBelow ≤ 18

instance (layout : Layout) : Decidable layout.Near :=
  inferInstanceAs (Decidable (-17 ≤ layout.plainFrom ∧ layout.plainBelow ≤ 18))

/-- A decimal is written as a numeral that stands for it. -/
theorem exists_numeral {layout : Layout} (hnear : layout.Near) {d : Shortest.Decimal} (hd : 0 < d.digits)
    (hlead : (d.exponent + (toString d.digits).length - 1).natAbs < Decimal.exponentLimit) :
    ∃ m : Numeral, layout.decimal d = m.text ∧ layout.Spells m ∧
      m.rational = d.digits * 10 ^ d.exponent ∧
      m.digits.length ≤ (toString d.digits).length + 20 := by
  obtain ⟨z, hlength, hvalue⟩ := natOfDigits_significant d.digits
  have hdigits : ∀ c ∈ significant d.digits, c.isDigit = true :=
    fun c hc => isDigit_of_mem_significant hc
  obtain ⟨lead, hfirst⟩ : ∃ lead, d.exponent + (toString d.digits).length - 1 = lead := ⟨_, rfl⟩
  -- the digits without the zeros at their end, at the place of the first of them
  have hrational : (Integer.natOfDigits (significant d.digits) : ℚ) *
      10 ^ (lead + 1 - (significant d.digits).length) = d.digits * 10 ^ d.exponent := by
    have hcast : (d.digits : ℚ) = Integer.natOfDigits (significant d.digits) * 10 ^ z := by
      exact_mod_cast hvalue
    have hexponent : lead + 1 - (significant d.digits).length = z + d.exponent := by omega
    rw [hcast, hexponent, zpow_add₀ (by norm_num), zpow_natCast, mul_assoc]
  unfold decimal
  simp only [hfirst] at hlead ⊢
  split
  · next hplain =>
    obtain ⟨m, htext, hspells, hm, hfew⟩ := stands_positional layout hdigits lead
    refine ⟨m, htext, hspells, hm.trans hrational, ?_⟩
    obtain ⟨hfrom, hbelow⟩ := hnear
    omega
  · have hne : significant d.digits ≠ [] := by
      intro hnil
      rw [hnil] at hvalue
      have hzero : d.digits = 0 := hvalue.trans (Nat.zero_mul _)
      exact hd.ne' hzero
    obtain ⟨m, htext, hspells, hm, hfew⟩ := stands_scientific layout hdigits hne hlead
    refine ⟨m, htext, hspells, hm.trans hrational, ?_⟩
    omega

end Layout

end LineScript
