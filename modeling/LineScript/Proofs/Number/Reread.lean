import LineScript.Proofs.Number.Grid
import LineScript.Proofs.Number.Reading
import LineScript.Proofs.Number.Written

/-!
# The text of a number is read as the number

The shortest digits of a floating-point number stand for a number around it, and what is around it is
rounded to it (`Shortest.Around.ofDecimal_eq`). Its first digit is in a place where no reader takes the
number for infinite or for zero (`Decimal.place_of_around`), and its digits are too few for any of them to
be left out (`Layout.exists_numeral_ofBinary`).
-/

namespace LineScript

open Arith (Numeral)
open Float.Model (UnpackedFloat)
open Binary64 (Canonical)

variable {m : Nat} {q e : Int}

/-- What is around a number is read as it. -/
theorem Shortest.Around.ofDecimal_eq (hm : Canonical m q) {n : Nat}
    (h : Around m q (n * 10 ^ e / 2 ^ q)) (hlow : -2048 ≤ e) (hhigh : e ≤ 2048) :
    Binary64.ofDecimal n e = .ofModel (.pack (.finite .positive m q hm.pos)) := by
  have hn : 0 < n := by
    have hpos := h.pos hm.pos
    by_contra hzero
    obtain rfl : n = 0 := by omega
    simp at hpos
  obtain ⟨u, ⟨R, t, hties, rfl⟩, hread⟩ := Binary64.ofDecimal_spec hn hlow hhigh
  rw [hread, h.settled_eq hm hties]

/-- What is around a number is not below half the least one. -/
theorem Shortest.Around.least_le (hm : Canonical m q) {v : ℚ} (h : Around m q (v / 2 ^ q)) :
    (2 : ℚ) ^ (-1075 : ℤ) ≤ v := by
  have hplaces : (0 : ℚ) < 2 ^ q := by positivity
  have hhalf : (1 / 2 : ℚ) ≤ v / 2 ^ q := by
    have hone : (1 : ℚ) ≤ m := by exact_mod_cast hm.pos
    linarith [h.low]
  have hhalved : (2 : ℚ) ^ (-1075 : ℤ) = 2 ^ (-1074 : ℤ) * 2⁻¹ :=
    zpow_sub_one₀ (by norm_num) (-1074)
  calc (2 : ℚ) ^ (-1075 : ℤ) = 1 / 2 * 2 ^ (-1074 : ℤ) := by rw [hhalved]; ring
    _ ≤ 1 / 2 * 2 ^ q := by
      gcongr
      · norm_num
      · exact hm.least
    _ ≤ v := (le_div_iff₀ hplaces).mp hhalf

theorem Shortest.Around.lt_greatest (hm : Canonical m q) {v : ℚ} (h : Around m q (v / 2 ^ q)) :
    v < (2 : ℚ) ^ (1024 : ℤ) := by
  have hplaces : (0 : ℚ) < 2 ^ q := by positivity
  have hbelow : v / 2 ^ q < (2 : ℚ) ^ 53 := by
    have hone : ((m + 1 : ℕ) : ℚ) ≤ ((2 ^ 53 : ℕ) : ℚ) := by exact_mod_cast hm.lt
    push_cast at hone
    linarith [h.high]
  calc v < 2 ^ 53 * 2 ^ q := (div_lt_iff₀ hplaces).mp hbelow
    _ ≤ 2 ^ 53 * 2 ^ (971 : ℤ) := by
      gcongr
      · norm_num
      · exact hm.greatest
    _ = 2 ^ (1024 : ℤ) := by
      rw [← zpow_natCast, ← zpow_add₀ (by norm_num)]
      rfl

namespace Decimal

theorem place_of_around (hm : Canonical m q) {n len : Nat} (hlow : 10 ^ len ≤ n)
    (hhigh : n < 10 ^ (len + 1)) (h : Shortest.Around m q (n * 10 ^ e / 2 ^ q)) :
    -324 ≤ len + e ∧ len + e ≤ 308 := by
  have hten : (0 : ℚ) < 10 ^ e := by positivity
  have hbits : ∀ {i j : ℕ}, 28 * i < 93 * j → (2 : ℚ) ^ (i : ℤ) < 10 ^ (j : ℤ) := by
    intro i j hij
    rw [zpow_natCast, zpow_natCast]
    exact_mod_cast Shortest.lt_ten_pow hij
  constructor
  · have hn : (n : ℚ) < 10 ^ (len + 1) := by exact_mod_cast hhigh
    have hlt : (10 : ℚ) ^ (-324 : ℤ) < 10 ^ ((len + 1 : ℕ) + e) := by
      calc (10 : ℚ) ^ (-324 : ℤ) < 2 ^ (-1075 : ℤ) := by
            rw [zpow_neg, zpow_neg]
            exact inv_strictAnti₀ (by positivity) (hbits (i := 1075) (j := 324) (by decide))
        _ ≤ n * 10 ^ e := h.least_le hm
        _ < 10 ^ (len + 1) * 10 ^ e := by gcongr
        _ = 10 ^ ((len + 1 : ℕ) + e) := by rw [zpow_add₀ (by norm_num), zpow_natCast]
    have hexponent := (zpow_lt_zpow_iff_right₀ (by norm_num)).mp hlt
    omega
  · have hn : (10 : ℚ) ^ len ≤ n := by exact_mod_cast hlow
    have hlt : (10 : ℚ) ^ (len + e) < 10 ^ (309 : ℤ) := by
      calc (10 : ℚ) ^ (len + e) = 10 ^ len * 10 ^ e := by rw [zpow_add₀ (by norm_num), zpow_natCast]
        _ ≤ n * 10 ^ e := by gcongr
        _ < 2 ^ (1024 : ℤ) := h.lt_greatest hm
        _ < 10 ^ (309 : ℤ) := hbits (i := 1024) (j := 309) (by decide)
    have hexponent := (zpow_lt_zpow_iff_right₀ (by norm_num)).mp hlt
    omega

/-- Digits that are around a number are read as it. -/
theorem ofDigits_eq (hm : Canonical m q) {digits : Text} (hdigits : ∀ c ∈ digits, c.isDigit = true)
    (hlength : digits.length ≤ decisiveDigits)
    (h : Shortest.Around m q (Integer.natOfDigits digits * 10 ^ e / 2 ^ q)) :
    ofDigits digits e = .ofModel (.pack (.finite .positive m q hm.pos)) := by
  rw [← Integer.natOfDigits_significant] at h
  have hkept : ∀ c ∈ Integer.significant digits, c.isDigit = true :=
    fun c hc => hdigits c ((List.dropWhile_sublist _).subset hc)
  have hfew : (Integer.significant digits).length ≤ decisiveDigits :=
    (List.dropWhile_sublist _).length_le.trans hlength
  have hstarts : ∀ c ∈ (Integer.significant digits).head?, c ≠ '0' := by
    intro c hc
    have hnot := List.head?_dropWhile_not (· == '0') digits
    rw [show (digits.dropWhile (· == '0')).head? = some c from hc] at hnot
    simpa using hnot
  unfold ofDigits
  generalize Integer.significant digits = kept at *
  -- zeros in front do not count, and without any other digit the number would be zero
  cases kept with
  | nil =>
    have hpos := h.pos hm.pos
    simp [Integer.natOfDigits, Integer.appendDigits] at hpos
  | cons c rest =>
    have hlow : 10 ^ rest.length ≤ Integer.natOfDigits (c :: rest) :=
      Integer.pow_le_natOfDigits (hkept c List.mem_cons_self) (hstarts c rfl)
    have hhigh := Integer.natOfDigits_lt hkept
    rw [List.length_cons] at hhigh hfew
    obtain ⟨hplace, hplace'⟩ := place_of_around hm hlow hhigh h
    have hread := h.ofDecimal_eq hm (by rw [decisiveDigits] at hfew; omega) (by omega)
    simp only [List.length_cons, List.isEmpty_cons, Bool.false_or, decide_eq_true_eq]
    rw [if_neg (by push_cast; omega), if_neg (by push_cast; omega), nearest, List.length_cons,
      if_pos hfew, hread]

end Decimal

def Binary64.signed : Float.Model.UnpackedFloat.Sign → Float → Float
  | .positive, x => x
  | .negative, x => -x

namespace Layout

variable {layout : Layout}

theorem exists_numeral_ofBinary (hnear : layout.Near) (hm : Canonical m q) :
    ∃ n : Numeral, layout.decimal (Shortest.ofBinary layout.tie m q) = n.text ∧ layout.Spells n ∧
      n.float = .ofModel (.pack (.finite .positive m q hm.pos)) := by
  obtain ⟨-, hexponent⟩ := Shortest.bounds_ofBinary layout.tie hm.lt hm.least hm.greatest
  have haround := Shortest.around_ofBinary layout.tie hm
  generalize Shortest.ofBinary layout.tie m q = d at hexponent haround
  have hd : d.digits ≠ 0 := by
    intro hzero
    have hpos := haround.pos hm.pos
    rw [hzero] at hpos
    simp at hpos
  obtain ⟨len, hlen, hlow, hhigh⟩ := Integer.exists_length_toDigits hd
  have htext : (toString d.digits).length = len + 1 := by
    rw [← String.length_toList, toList_natText, hlen]
  -- the place of the first digit keeps the exponent within what a reader counts
  obtain ⟨hfirst, hlast⟩ := Decimal.place_of_around hm hlow hhigh haround
  obtain ⟨n, hn, hspells, hvalue, hfew⟩ := exists_numeral hnear (Nat.pos_of_ne_zero hd)
    (by rw [htext, Decimal.exponentLimit]; omega)
  have hlength : n.digits.length ≤ Decimal.decisiveDigits := by
    rw [Decimal.decisiveDigits]
    omega
  rw [← hvalue] at haround
  exact ⟨n, hn, hspells, Decimal.ofDigits_eq hm n.isDigit_of_mem_digits hlength haround⟩

def zero : Numeral where
  whole := ['0']
  fraction := some ['0']
  exponent := none
  wholeDigits := List.forall_mem_singleton.mpr rfl
  fractionDigits := List.forall_mem_singleton.mpr rfl
  starts := List.cons_ne_nil _ _

theorem float_zero : zero.float = .ofModel (.pack (.zero .positive)) := by
  decide +kernel

/-- A finite number is written as a numeral with a sign, and is what the numeral is read as, with that
sign. -/
theorem exists_signed (hnear : layout.Near) {x : Float} (hx : x.isFinite) :
    ∃ s, ∃ n : Numeral, layout.text x = String.ofList (sign s ++ n.text) ∧ layout.Spells n ∧
      Binary64.signed s n.float = x := by
  have hnumber := Binary64.isNumber_of_isFinite hx
  have hpacked := Binary64.ofModel_pack_unpack x
  -- the sign is the only thing that is turned
  have hneg : ∀ {u : UnpackedFloat}, Binary64.IsNumber u →
      -Float.ofModel (.pack u) = .ofModel (.pack u.neg) :=
    fun hu => congrArg (fun v => Float.ofModel (.pack (UnpackedFloat.neg v))) (Binary64.unpack_pack hu)
  unfold text
  generalize x.toModel.unpack = u at hnumber hpacked
  subst hpacked
  cases hnumber with
  | zero s =>
    refine ⟨s, zero, rfl, ⟨List.cons_ne_nil _ _, rfl, by simp [zero], by simp [zero]⟩, ?_⟩
    rw [float_zero]
    cases s with
    | positive => rfl
    | negative => exact hneg (.zero .positive)
  | @finite s m q hm =>
    obtain ⟨n, hn, hspells, hfloat⟩ := exists_numeral_ofBinary hnear hm
    refine ⟨s, n, congrArg (fun t => String.ofList (sign s ++ t)) hn, hspells, ?_⟩
    rw [hfloat]
    cases s with
    | positive => rfl
    | negative => exact hneg (.finite .positive hm)

end Layout

end LineScript
