import LineScript.Proofs.Number.Nearest

/-!
# How a decimal is read

A decimal of few digits with a small exponent is read as a product or a quotient of two floating-point
numbers that are exact; every other one is read from its digits, as a product or a quotient of integers.
Products and quotients of either kind are rounded once (`roundedTo_mul`, `roundedTo_div`), and so is the
decimal (`ofDecimal_spec`).
-/

namespace LineScript.Binary64

open Float.Model (UnpackedFloat Format totalExponent)
open Float.Model.UnpackedFloat (Sign Accuracy ExtendedMantissa roundWithAccuracy divCore accuracyOfFraction)

variable {m n : Nat} {q r : Int} {a : Accuracy} {x v : ℚ} {u : UnpackedFloat}

/-- A form that a positive number is rounded to: the nearest significand for its exponent, of two the even
one. -/
def RoundedTo (v : ℚ) (u : UnpackedFloat) : Prop :=
  ∃ R t, TiesEven (v / 2 ^ t) R t ∧ u = settled .positive R t

theorem roundedTo_of_standsFor (hm : 0 < m ∨ target m q = -1074)
    (hx : StandsFor (.ofMantissaAndAccuracy m a) x) (hq : q ≤ target m q) :
    RoundedTo (x * 2 ^ q) (roundWithAccuracy .binary64 .positive m q a) := by
  obtain ⟨R, hties, hround⟩ := roundWithAccuracy_eq .positive hm hx hq
  refine ⟨R, target m q, ?_, hround⟩
  have hscale : x * 2 ^ q / 2 ^ target m q = x / 2 ^ (target m q - q) := by
    rw [zpow_sub₀ (by norm_num), div_div_eq_mul_div]
  rw [hscale]
  exact hties

theorem roundedTo_mul (hm : 0 < m) (hn : 0 < n) (h : 2 ^ 52 ≤ m * n) :
    RoundedTo (m * 2 ^ q * (n * 2 ^ r))
      (UnpackedFloat.mul .binary64 (.finite .positive m q hm) (.finite .positive n r hn)) := by
  have hpos : 0 < m * n := Nat.mul_pos hm hn
  have hlog : 52 ≤ (m * n).log2 := (Nat.le_log2 (Nat.ne_of_gt hpos)).mpr h
  have hround := roundedTo_of_standsFor (.inl hpos) (standsFor_exact (m * n)) (q := q + r)
    (by rw [target]; omega)
  have hvalue : (m : ℚ) * 2 ^ q * (n * 2 ^ r) = ((m * n : ℕ) : ℚ) * 2 ^ (q + r) := by
    rw [zpow_add₀ (by norm_num), Nat.cast_mul]
    ring
  rw [hvalue]
  exact hround

theorem compares_half {e : Nat} {f : ℚ} (hn : (0 : ℚ) < n) (hf : (e : ℚ) = f * n) :
    (compare (2 * e) n).Compares f (1 / 2) := by
  rcases lt_trichotomy (2 * e) n with hlt | heq | hgt
  · have hcast : 2 * (e : ℚ) < n := by exact_mod_cast hlt
    rw [compare_lt_iff_lt.mpr hlt]
    exact lt_of_mul_lt_mul_right (by linarith : f * n < 1 / 2 * n) hn.le
  · have hcast : 2 * (e : ℚ) = n := by exact_mod_cast heq
    rw [compare_eq_iff_eq.mpr heq]
    exact mul_right_cancel₀ hn.ne' (by linarith : f * n = 1 / 2 * n)
  · have hcast : (n : ℚ) < 2 * e := by exact_mod_cast hgt
    rw [compare_gt_iff_gt.mpr hgt]
    exact lt_of_mul_lt_mul_right (by linarith : 1 / 2 * (n : ℚ) < f * n) hn.le

/-- A fraction behind a whole number is told from zero, from one half and from what lies between. -/
theorem standsFor_fraction (d : Nat) {e : Nat} {f : ℚ} (hlow : 0 ≤ f) (hhigh : f < 1)
    (hzero : e = 0 ↔ f = 0) (hcompare : (compare (2 * e) n).Compares f (1 / 2)) :
    StandsFor (.ofMantissaAndAccuracy d (accuracyOfFraction e n)) (d + f) := by
  unfold accuracyOfFraction
  split
  · next hexact =>
    obtain rfl := hzero.mp hexact
    rw [add_zero]
    exact standsFor_exact d
  · next hinexact =>
    have hne : f ≠ 0 := fun h => hinexact (hzero.mpr h)
    -- below, at and above the middle
    cases horder : compare (2 * e) n with
    | lt =>
      rw [horder] at hcompare
      have hbelow : f < 1 / 2 := hcompare
      constructor <;> simp only [ExtendedMantissa.ofMantissaAndAccuracy]
      · linarith
      · linarith
      · exact iff_of_false (by decide) (by linarith)
      · exact iff_of_true trivial ⟨by simpa using hne, by linarith⟩
    | eq =>
      rw [horder] at hcompare
      obtain rfl : f = 1 / 2 := hcompare
      constructor <;> simp only [ExtendedMantissa.ofMantissaAndAccuracy]
      · linarith
      · linarith
      · exact iff_of_true trivial le_rfl
      · exact iff_of_false (by decide) (fun h => h.2 rfl)
    | gt =>
      rw [horder] at hcompare
      have habove : 1 / 2 < f := hcompare
      constructor <;> simp only [ExtendedMantissa.ofMantissaAndAccuracy]
      · linarith
      · linarith
      · exact iff_of_true trivial (by linarith)
      · exact iff_of_true trivial ⟨by simpa using hne, fun h => by linarith⟩

theorem standsFor_div (m : Nat) (hn : 0 < n) :
    StandsFor (.ofMantissaAndAccuracy (m / n) (accuracyOfFraction (m % n) n)) ((m : ℚ) / n) := by
  obtain ⟨d, hd⟩ : ∃ d, m / n = d := ⟨_, rfl⟩
  obtain ⟨e, he⟩ : ∃ e, m % n = e := ⟨_, rfl⟩
  have hnq : (0 : ℚ) < n := by exact_mod_cast hn
  obtain ⟨f, hf⟩ : ∃ f : ℚ, (e : ℚ) = f * n := ⟨e / n, by rw [div_mul_cancel₀ _ hnq.ne']⟩
  have hvalue : (m : ℚ) / n = d + f := by
    have hsplit : ((n * d + e : ℕ) : ℚ) = m := by rw [← hd, ← he, Nat.div_add_mod]
    rw [div_eq_iff hnq.ne', ← hsplit, Nat.cast_add, Nat.cast_mul, hf]
    ring
  have hlow : 0 ≤ f := nonneg_of_mul_nonneg_left (hf ▸ Nat.cast_nonneg e) hnq
  have hhigh : f < 1 := by
    have heq : (e : ℚ) < n := by exact_mod_cast he ▸ Nat.mod_lt m hn
    exact lt_of_mul_lt_mul_right (by rwa [one_mul, ← hf]) hnq.le
  have hzero : e = 0 ↔ f = 0 := by
    rw [← Nat.cast_eq_zero (R := ℚ), hf, mul_eq_zero, or_iff_left hnq.ne']
  rw [hvalue, hd, he]
  exact standsFor_fraction d hlow hhigh hzero (compares_half hnq hf)

theorem roundedTo_div (hm : 0 < m) (hn : 0 < n) :
    RoundedTo (m * 2 ^ q / (n * 2 ^ r))
      (UnpackedFloat.div .binary64 (.finite .positive m q hm) (.finite .positive n r hn)) := by
  obtain ⟨t, ht⟩ : ∃ t, min (q - r)
      (Format.binary64.targetExponent (totalExponent m q - totalExponent n r)) = t := ⟨_, rfl⟩
  have hle : t ≤ q - r := ht ▸ min_le_left _ _
  obtain ⟨k, hk⟩ : ∃ k : Nat, q - r - t = k := ⟨(q - r - t).toNat, by omega⟩
  have hdiv : UnpackedFloat.div .binary64 (.finite .positive m q hm) (.finite .positive n r hn) =
      roundWithAccuracy .binary64 .positive (m <<< k / n) t (accuracyOfFraction (m <<< k % n) n) := by
    have hsteps : (q - r - t).toNat = k := by omega
    simp only [UnpackedFloat.div, divCore, ht, hsteps]
    rfl
  have htarget : t = min (q - r) (max ((m.log2 : Int) + q - (n.log2 + r) - 53) (-1074)) := by
    rw [← ht, Format.targetExponent, totalExponent, totalExponent]
    have hbits : Format.binary64.mantissaBits = 53 := rfl
    have hleast : Format.binary64.minExponent = -1074 := rfl
    rw [hbits, hleast]
    omega
  have hvalue : (m : ℚ) * 2 ^ q / (n * 2 ^ r) = ((m <<< k : ℕ) : ℚ) / n * 2 ^ t := by
    have hq : q = k + (r + t) := by omega
    have hnq : (n : ℚ) ≠ 0 := by exact_mod_cast hn.ne'
    rw [hq, zpow_add₀ (by norm_num), zpow_add₀ (by norm_num), zpow_natCast, Nat.shiftLeft_eq,
      Nat.cast_mul, Nat.cast_pow, Nat.cast_ofNat]
    field_simp
  rw [hdiv, hvalue]
  rcases le_or_gt t (-1074) with hleast | hgt
  · -- the quotient may have few bits, or none
    refine roundedTo_of_standsFor ?_ (standsFor_div _ hn) (hleast.trans (le_max_right _ _))
    rcases Nat.eq_zero_or_pos (m <<< k / n) with hzero | hpos
    · refine .inr (max_eq_right ?_)
      rw [hzero, Nat.log2_zero]
      omega
    · exact .inl hpos
  · -- the quotient has 53 bits or more
    have hfull : 2 ^ 52 ≤ m <<< k / n := by
      rw [Nat.le_div_iff_mul_le hn, Nat.shiftLeft_eq]
      calc 2 ^ 52 * n
          ≤ 2 ^ 52 * 2 ^ (n.log2 + 1) := Nat.mul_le_mul_left _ Nat.lt_log2_self.le
        _ = 2 ^ (52 + (n.log2 + 1)) := (Nat.pow_add ..).symm
        _ ≤ 2 ^ (m.log2 + k) := Nat.pow_le_pow_right Nat.two_pos (by omega)
        _ = 2 ^ m.log2 * 2 ^ k := Nat.pow_add ..
        _ ≤ m * 2 ^ k := Nat.mul_le_mul_right _ (Nat.log2_self_le hm.ne')
    have hpos : 0 < m <<< k / n := Nat.lt_of_lt_of_le (Nat.two_pow_pos 52) hfull
    have hlog : 52 ≤ (m <<< k / n).log2 := (Nat.le_log2 hpos.ne').mpr hfull
    exact roundedTo_of_standsFor (.inl hpos) (standsFor_div _ hn) (by rw [target]; omega)

/-! ## Decimals -/

/-- Unless the exponent is far from all numbers, a decimal is rounded. -/
theorem roundedTo_ofScientific (hm : 0 < m) {e : Int} (hlow : -2048 ≤ e) (hhigh : e ≤ 2048) :
    RoundedTo (m * 10 ^ e) (UnpackedFloat.ofScientific .binary64 m e) := by
  have hbits : Format.binary64.exponentBits = 11 := rfl
  have hmantissa : Format.binary64.mantissaBits = 53 := rfl
  unfold UnpackedFloat.ofScientific
  rw [dif_neg hm.ne', if_neg (by rw [hbits]; omega), if_neg (by rw [hbits]; omega)]
  split
  · next hpos =>
    obtain ⟨k, rfl⟩ : ∃ k : Nat, e = k := ⟨e.toNat, by omega⟩
    -- the product is made wide enough not to lose the bits that decide
    have hfull : 2 ^ 52 ≤ m <<< 53 * 10 ^ k := by
      rw [Nat.shiftLeft_eq]
      calc 2 ^ 52 ≤ 1 * 2 ^ 53 * 1 := by decide
        _ ≤ m * 2 ^ 53 * 10 ^ k :=
          Nat.mul_le_mul (Nat.mul_le_mul_right _ hm) (Nat.one_le_pow k 10 (by decide))
    have hvalue : (m : ℚ) * (10 : ℚ) ^ (k : ℤ) =
        ((m <<< 53 : ℕ) : ℚ) * 2 ^ (-53 : ℤ) * (((10 ^ k : ℕ) : ℚ) * 2 ^ (0 : ℤ)) := by
      rw [Nat.shiftLeft_eq, zpow_natCast]
      push_cast
      ring
    rw [hvalue]
    exact roundedTo_mul _ _ hfull
  · next hneg =>
    obtain ⟨k, rfl⟩ : ∃ k : Nat, e = -k := ⟨(-e).toNat, by omega⟩
    have hvalue : (m : ℚ) * (10 : ℚ) ^ (-(k : ℤ)) =
        (m : ℚ) * 2 ^ (0 : ℤ) / (((10 ^ k : ℕ) : ℚ) * 2 ^ (0 : ℤ)) := by
      rw [zpow_neg, zpow_natCast, zpow_zero, mul_one, mul_one, Nat.cast_pow, div_eq_mul_inv]
      rfl
    have hsteps : (- -(k : Int)).toNat = k := by omega
    simp only [hsteps]
    rw [hvalue]
    exact roundedTo_div _ _

theorem unpack_ofBinary (hm : 0 < m) (hsmall : target m q < 971) (h : Representable (m * 2 ^ q)) :
    ∃ n r, ∃ hc : Canonical n r, (n : ℚ) * 2 ^ r = m * 2 ^ q ∧
      (ofBinary .positive m q).toModel.unpack = .finite .positive n r hc.pos := by
  obtain ⟨hfinite, hnearest⟩ := ofBinary_spec .positive m q hsmall
  have hexact : exact (ofBinary .positive m q) = m * 2 ^ q := by
    have hzero := hnearest _ h
    rw [Sign.apply, Int.cast_natCast, sub_self, abs_zero] at hzero
    exact sub_eq_zero.mp (abs_nonpos_iff.mp hzero)
  have hpos : (0 : ℚ) < m * 2 ^ q := by
    have hmq : (0 : ℚ) < m := by exact_mod_cast hm
    positivity
  have hnumber := isNumber_of_isFinite hfinite
  unfold exact at hexact
  generalize (ofBinary .positive m q).toModel.unpack = u at hnumber hexact
  cases hnumber with
  | zero s => exact absurd hexact hpos.ne
  | @finite s n r hc =>
    have hn : (0 : ℚ) < n := by exact_mod_cast hc.pos
    have hmagnitude : (0 : ℚ) < n * 2 ^ r := by positivity
    cases s with
    | positive => exact ⟨n, r, hc, (rational_positive hc.pos).symm.trans hexact, rfl⟩
    | negative =>
      rw [rational_negative] at hexact
      linarith

theorem Canonical.full_of_one_le (h : Canonical m q) (hone : (1 : ℚ) ≤ m * 2 ^ q) : 2 ^ 52 ≤ m := by
  refine h.full.resolve_right fun hq => ?_
  have hlt : (m : ℚ) < 2 ^ 53 := by exact_mod_cast h.lt
  have hsmall : (m : ℚ) * 2 ^ q < 1 := by
    calc (m : ℚ) * 2 ^ q < 2 ^ 53 * 2 ^ q := by gcongr
      _ = 2 ^ (53 + q) := by rw [zpow_add₀ (by norm_num)]; norm_num
      _ < 2 ^ (0 : ℤ) := by
        gcongr
        · norm_num
        · omega
      _ = 1 := zpow_zero 2
  linarith

theorem toFloat_eq (hm : 0 < m) (h : m < 2 ^ 53) : m.toUInt64.toFloat = ofBinary .positive m 0 := by
  have hword : m.toUInt64.toNat = m := UInt64.toNat_ofNat_of_lt' (h.trans (by decide))
  have horder : compare (m : Int) 0 = .gt := compare_gt_iff_gt.mpr (by omega)
  show Float.ofModel (.pack (UnpackedFloat.normalize .binary64 m.toUInt64.toNat 0 .positive)) = _
  rw [hword, ofBinary, if_neg hm.ne', UnpackedFloat.normalize, horder, Int.toNat_natCast]

theorem powerOfTen_eq {k : Nat} (hk : k ≤ 22) :
    Float.exactlyRepresentablePowersOfTen[k]? = some (ofBinary .positive (5 ^ k) k) := by
  have hall : ∀ k : Fin 23,
      Float.exactlyRepresentablePowersOfTen[k.val]? = some (ofBinary .positive (5 ^ k.val) k.val) := by
    decide +kernel
  exact hall ⟨k, by omega⟩

theorem unpack_powerOfTen {k : Nat} (hk : k ≤ 22) {x : Float}
    (hx : Float.exactlyRepresentablePowersOfTen[k]? = some x) :
    ∃ n r, ∃ hc : Canonical n r, (n : ℚ) * 2 ^ r = 10 ^ k ∧
      x.toModel.unpack = .finite .positive n r hc.pos := by
  rw [powerOfTen_eq hk, Option.some_inj] at hx
  have hlt : 5 ^ k < 2 ^ 53 :=
    Nat.lt_of_le_of_lt (Nat.pow_le_pow_right (by decide) hk) (by decide)
  have hrepresentable : Representable ((5 ^ k : ℕ) * 2 ^ (k : ℤ)) := by
    refine ⟨(5 ^ k : ℕ), k, ?_, by omega, by rw [Int.cast_natCast]⟩
    rw [Nat.abs_cast]
    exact_mod_cast hlt
  have hsmall : target (5 ^ k) k < 971 := by
    have hlog : (5 ^ k).log2 < 53 := (Nat.log2_lt (by positivity)).mpr hlt
    rw [target]
    omega
  obtain ⟨n, r, hc, hvalue, hunpack⟩ :=
    unpack_ofBinary (Nat.pow_pos (by decide)) hsmall hrepresentable
  refine ⟨n, r, hc, ?_, hx ▸ hunpack⟩
  rw [hvalue, zpow_natCast, Nat.cast_pow, ← mul_pow]
  norm_num

theorem unpack_toFloat (hm : 0 < m) (h : m < 2 ^ 53) :
    ∃ n r, ∃ hc : Canonical n r, (n : ℚ) * 2 ^ r = m ∧
      m.toUInt64.toFloat.toModel.unpack = .finite .positive n r hc.pos := by
  have hrepresentable : Representable ((m : ℕ) * 2 ^ (0 : ℤ)) :=
    ⟨m, 0, by rw [Nat.abs_cast]; exact_mod_cast h, by decide, by rw [Int.cast_natCast]⟩
  have hsmall : target m 0 < 971 := by
    have hlog : m.log2 < 53 := (Nat.log2_lt hm.ne').mpr h
    rw [target]
    omega
  obtain ⟨n, r, hc, hvalue, hunpack⟩ := unpack_ofBinary hm hsmall hrepresentable
  rw [← toFloat_eq hm h] at hunpack
  exact ⟨n, r, hc, by rw [hvalue, zpow_zero, mul_one], hunpack⟩

/-- A decimal is rounded, whether it is read from exact numbers or from its digits. -/
theorem ofDecimal_spec (hm : 0 < m) {e : Int} (hlow : -2048 ≤ e) (hhigh : e ≤ 2048) :
    ∃ u, RoundedTo (m * 10 ^ e) u ∧ ofDecimal m e = .ofModel (.pack u) := by
  unfold ofDecimal Float.ofScientific
  split
  · next hfast =>
    -- both numbers are exact as they are, and are divided or multiplied once
    obtain ⟨hlt, hk⟩ := hfast
    obtain ⟨m', q, hc, hvalue, hunpack⟩ := unpack_toFloat hm hlt
    obtain ⟨n', r, hd, hpower, hunpack'⟩ :=
      unpack_powerOfTen hk (Array.getElem?_eq_getElem (Nat.lt_succ_of_le hk))
    simp only [decide_eq_true_eq]
    split
    · next hneg =>
      refine ⟨_, ?_, congrArg Float.ofModel (congrArg₂ (fun u v => Float.Model.pack
        (UnpackedFloat.div .binary64 u v)) hunpack hunpack')⟩
      have he : (m : ℚ) * 10 ^ e = m' * 2 ^ q / (n' * 2 ^ r) := by
        rw [hvalue, hpower, div_eq_mul_inv, ← zpow_natCast, ← zpow_neg]
        congr
        omega
      rw [he]
      exact roundedTo_div _ _
    · next hpos =>
      refine ⟨_, ?_, congrArg Float.ofModel (congrArg₂ (fun u v => Float.Model.pack
        (UnpackedFloat.mul .binary64 u v)) hunpack hunpack')⟩
      have he : (m : ℚ) * 10 ^ e = m' * 2 ^ q * (n' * 2 ^ r) := by
        rw [hvalue, hpower, ← zpow_natCast]
        congr
        omega
      have hfull : 2 ^ 52 ≤ m' * n' := by
        have hone : (1 : ℚ) ≤ m' * 2 ^ q := by rw [hvalue]; exact_mod_cast hm
        exact (hc.full_of_one_le hone).trans (Nat.le_mul_of_pos_right m' hd.pos)
      rw [he]
      exact roundedTo_mul _ _ hfull
  · refine ⟨_, roundedTo_ofScientific hm hlow hhigh, ?_⟩
    have hexponent : (if decide (e < 0) = true then Int.negOfNat e.natAbs else Int.ofNat e.natAbs) = e := by
      simp only [decide_eq_true_eq]
      split
      · rw [Int.negOfNat_eq, Int.ofNat_eq_natCast]
        omega
      · rw [Int.ofNat_eq_natCast]
        omega
    simp only [hexponent]
    rfl

end LineScript.Binary64
