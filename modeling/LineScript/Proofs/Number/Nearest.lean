import LineScript.Proofs.Number.Rational

/-!
# Rounding to the nearest number

A number is rounded by shifting its significand to the right. Two more bits are kept: half of the last place,
and whether anything is left after it. They always say where the number lies between its two neighbours
(`StandsFor`), and so the significand that is taken from them is the nearest (`StandsFor.near`). No other
floating-point number is nearer, not even one with a smaller exponent (`Rounded.nearest`). So a number in
binary becomes the nearest floating-point number (`ofBinary_spec`), and an integer that is a floating-point
number becomes itself (`exact_ofInt`).
-/

namespace LineScript.Binary64

open Float.Model (UnpackedFloat Format)
open Float.Model.UnpackedFloat (Sign Accuracy ExtendedMantissa shiftToExponent shiftToTargetExponent
  roundWithAccuracy decreaseExponent)

variable {em : ExtendedMantissa} {a : Accuracy} {x y : ℚ} {m R : Nat} {q t : Int}

/-! ## A significand with two more bits -/

/-- A number between a significand and the next: one bit tells whether it has reached the middle, the other
whether it is neither the significand nor the middle. -/
structure StandsFor (em : ExtendedMantissa) (x : ℚ) : Prop where
  low : em.mantissa ≤ x
  high : x < em.mantissa + 1
  half : em.roundBit = true ↔ (em.mantissa : ℚ) + 1 / 2 ≤ x
  rest : em.stickyBit = true ↔ x ≠ em.mantissa ∧ x ≠ em.mantissa + 1 / 2

theorem standsFor_exact (m : Nat) : StandsFor (.ofMantissaAndAccuracy m .exact) m where
  low := le_rfl
  high := lt_add_one (m : ℚ)
  half := by simp [ExtendedMantissa.ofMantissaAndAccuracy]
  rest := by simp [ExtendedMantissa.ofMantissaAndAccuracy]

theorem StandsFor.inexact_iff (h : StandsFor em x) :
    (em.roundBit || em.stickyBit) = true ↔ x ≠ em.mantissa := by
  rw [Bool.or_eq_true, h.half, h.rest]
  constructor
  · rintro (hhalf | ⟨hne, -⟩)
    · intro heq
      linarith
    · exact hne
  · intro hne
    by_cases hhalf : x = em.mantissa + 1 / 2
    · exact .inl hhalf.ge
    · exact .inr ⟨hne, hhalf⟩

/-- The last bit of the significand becomes the first one after the point. -/
theorem StandsFor.shiftRightOne (h : StandsFor em x) : StandsFor em.shiftRightOne (x / 2) := by
  obtain ⟨m, hm⟩ : ∃ m, em.mantissa = m := ⟨_, rfl⟩
  have hlow := h.low
  have hhigh := h.high
  have hinexact := h.inexact_iff
  rw [hm] at hlow hhigh hinexact
  -- the halved number lies below the middle after an even significand, and not below it after an odd one
  rcases Nat.even_or_odd' m with ⟨k, rfl | rfl⟩
  · have hhalf : 2 * k / 2 = k := by omega
    have hbit : (2 * k % 2 != 0) = false := by simp
    push_cast at hlow hhigh hinexact
    constructor <;> simp only [ExtendedMantissa.shiftRightOne, hm, hhalf, hbit]
    · linarith
    · linarith
    · refine iff_of_false (by decide) ?_
      linarith
    · rw [hinexact]
      constructor
      · exact fun hne => ⟨fun heq => hne (by linarith), by linarith⟩
      · exact fun hne heq => hne.1 (by linarith)
  · have hhalf : (2 * k + 1) / 2 = k := by omega
    have hbit : ((2 * k + 1) % 2 != 0) = true := by simp
    push_cast at hlow hhigh hinexact
    constructor <;> simp only [ExtendedMantissa.shiftRightOne, hm, hhalf, hbit]
    · linarith
    · linarith
    · refine iff_of_true trivial ?_
      linarith
    · rw [hinexact]
      constructor
      · exact fun hne => ⟨by linarith, fun heq => hne (by linarith)⟩
      · exact fun hne heq => hne.2 (by linarith)

theorem StandsFor.shiftRight (h : StandsFor em x) (k : Nat) : StandsFor (em >>> k) (x / 2 ^ k) := by
  induction k with
  | zero =>
    rw [pow_zero, div_one]
    exact h
  | succ k ih =>
    rw [pow_succ, ← div_div]
    exact ih.shiftRightOne

theorem StandsFor.near (h : StandsFor em x) : |(em.roundedMantissa : ℚ) - x| ≤ 1 / 2 := by
  obtain ⟨m, b, c⟩ := em
  obtain ⟨hlow, hhigh, hhalf, hrest⟩ := h
  simp only at hlow hhigh hhalf hrest
  rw [abs_le]
  cases b with
  | false =>
    have hbelow : x < m + 1 / 2 := not_le.mp fun hle => absurd (hhalf.mpr hle) (by decide)
    have hround : (ExtendedMantissa.mk m false c).roundedMantissa = m := by cases c <;> rfl
    rw [hround]
    constructor <;> linarith
  | true =>
    have habove := hhalf.mp rfl
    cases c with
    | true =>
      have hround : (ExtendedMantissa.mk m true true).roundedMantissa = m + 1 := rfl
      rw [hround, Nat.cast_succ]
      constructor <;> linarith
    | false =>
      -- in the middle either neighbour is near enough
      have hmiddle : x = m + 1 / 2 := by
        by_contra hne
        exact absurd (hrest.mpr ⟨by linarith, hne⟩) (by decide)
      have hround : (ExtendedMantissa.mk m true false).roundedMantissa = m + m % 2 := rfl
      have hbit : ((m % 2 : ℕ) : ℚ) ≤ 1 := by
        exact_mod_cast Nat.le_of_lt_succ (Nat.mod_lt m Nat.two_pos)
      have hnonneg : (0 : ℚ) ≤ ((m % 2 : ℕ) : ℚ) := Nat.cast_nonneg _
      rw [hround, hmiddle, Nat.cast_add]
      constructor <;> linarith

theorem StandsFor.even (h : StandsFor em x) (hmiddle : |(em.roundedMantissa : ℚ) - x| = 1 / 2) :
    Even em.roundedMantissa := by
  obtain ⟨m, b, c⟩ := em
  obtain ⟨hlow, hhigh, hhalf, hrest⟩ := h
  simp only at hlow hhigh hhalf hrest
  -- in the middle both bits are settled: it has been reached, and nothing lies beyond it
  cases b with
  | false =>
    have hbelow : x < m + 1 / 2 := not_le.mp fun hle => absurd (hhalf.mpr hle) (by decide)
    have hround : (ExtendedMantissa.mk m false c).roundedMantissa = m := by cases c <;> rfl
    rw [hround, abs_of_nonpos (by linarith)] at hmiddle
    linarith
  | true =>
    have habove := hhalf.mp rfl
    cases c with
    | true =>
      have hround : (ExtendedMantissa.mk m true true).roundedMantissa = m + 1 := rfl
      rw [hround, Nat.cast_succ, abs_of_nonneg (by linarith)] at hmiddle
      exact absurd (by linarith) (hrest.mp rfl).2
    | false =>
      have hround : (ExtendedMantissa.mk m true false).roundedMantissa = m + m % 2 := rfl
      rw [hround, Nat.even_iff]
      omega

/-! ## A rounded number -/

def target (m : Nat) (q : Int) : Int := max (m.log2 + q - 52) (-1074)

theorem targetExponent_eq (m : Nat) (q : Int) :
    Format.binary64.targetExponent (Float.Model.totalExponent m q) = target m q := by
  have hbits : Format.binary64.mantissaBits = 53 := rfl
  have hleast : Format.binary64.minExponent = -1074 := rfl
  rw [Format.targetExponent, hbits, hleast, Float.Model.totalExponent, target]
  omega

/-- `R` is a significand for the exponent `t` that is nearest to `x`, where `x` counts the places of the
exponent `t`. -/
structure Rounded (x : ℚ) (R : Nat) (t : Int) : Prop where
  near : |(R : ℚ) - x| ≤ 1 / 2
  high : x < 2 ^ 53
  full : 2 ^ 52 ≤ x ∨ t = -1074
  least : -1074 ≤ t

structure TiesEven (x : ℚ) (R : Nat) (t : Int) : Prop extends Rounded x R t where
  even : |(R : ℚ) - x| = 1 / 2 → Even R

theorem Rounded.le (h : Rounded x R t) : R ≤ 2 ^ 53 := by
  have hnear := (abs_le.mp h.near).2
  have hhigh := h.high
  by_contra hlt
  have hge : ((2 ^ 53 + 1 : ℕ) : ℚ) ≤ R := by exact_mod_cast Nat.lt_of_not_le hlt
  push_cast at hge
  linarith

theorem Rounded.full_significand (h : Rounded x R t) : 2 ^ 52 ≤ R ∨ t = -1074 := by
  refine h.full.imp_left fun hfull => ?_
  have hnear := (abs_le.mp h.near).1
  by_contra hlt
  have hle : ((R + 1 : ℕ) : ℚ) ≤ ((2 ^ 52 : ℕ) : ℚ) := by exact_mod_cast Nat.lt_of_not_le hlt
  push_cast at hle
  linarith

/-- Among all representable numbers the rounded one is nearest. -/
theorem Rounded.nearest (h : Rounded x R t) (hy : Representable y) :
    |R * 2 ^ t - x * 2 ^ t| ≤ |y - x * 2 ^ t| := by
  obtain ⟨k, e, hk, he, rfl⟩ := hy
  -- among the significands for the exponent itself
  have hwhole : ∀ j : ℤ, |(R : ℚ) - x| ≤ |(j : ℚ) - x| := by
    intro j
    by_cases heq : j = R
    · rw [heq, Int.cast_natCast]
    · have hapart : 1 ≤ |(j : ℚ) - R| := by
        have hone : 1 ≤ |j - R| := Int.one_le_abs (sub_ne_zero.mpr heq)
        exact_mod_cast hone
      have htriangle := abs_sub_le (j : ℚ) x R
      rw [abs_sub_comm x (R : ℚ)] at htriangle
      linarith [h.near]
  have hpos : (0 : ℚ) < 2 ^ t := by positivity
  suffices hplaces : |(R : ℚ) - x| ≤ |k * 2 ^ (e - t) - x| by
    have hy : (k : ℚ) * 2 ^ e = k * 2 ^ (e - t) * 2 ^ t := by
      rw [mul_assoc, ← zpow_add₀ (by norm_num), sub_add_cancel]
    rw [hy, ← sub_mul, ← sub_mul, abs_mul, abs_mul]
    gcongr
  rcases le_or_gt t e with hle | hgt
  · obtain ⟨d, hd⟩ : ∃ d : Nat, e - t = d := ⟨(e - t).toNat, by omega⟩
    have hj := hwhole (k * 2 ^ d)
    push_cast at hj
    rwa [hd, zpow_natCast]
  · -- a number with a smaller exponent is below all significands of 53 bits
    have hfull : 2 ^ 52 ≤ x := h.full.resolve_right (by omega)
    have hsmall : (k : ℚ) * 2 ^ (e - t) ≤ 2 ^ 52 := by
      have hkq : (k : ℚ) ≤ 2 ^ 53 := by exact_mod_cast (le_abs_self k).trans hk.le
      calc (k : ℚ) * 2 ^ (e - t)
          ≤ 2 ^ 53 * 2 ^ (-1 : ℤ) := by
            gcongr
            · norm_num
            · omega
        _ = 2 ^ 52 := by norm_num
    have hj := hwhole (2 ^ 52)
    rw [Int.cast_pow, Int.cast_ofNat, abs_of_nonpos (a := (2 : ℚ) ^ 52 - x) (by linarith)] at hj
    rw [abs_of_nonpos (a := (k : ℚ) * 2 ^ (e - t) - x) (by linarith)]
    linarith

def settled (s : Sign) (R : Nat) (t : Int) : UnpackedFloat :=
  if h : R = 0 then .zero s
  else if R < 2 ^ 53 then .finite s R t (Nat.pos_of_ne_zero h)
  else .finite s (2 ^ 52) (t + 1) (Nat.two_pow_pos 52)

theorem Rounded.isNumber_settled (h : Rounded x R t) (s : Sign) (ht : t < 971) :
    IsNumber (settled s R t) := by
  have hleast := h.least
  unfold settled
  split
  · exact .zero s
  · next hne =>
    split
    · next hlt =>
      exact .finite s ⟨Nat.pos_of_ne_zero hne, hlt, hleast, ht.le, h.full_significand⟩
    · exact .finite s ⟨Nat.two_pow_pos 52, by decide, by omega, by omega, .inl le_rfl⟩

theorem Rounded.rational_settled (h : Rounded x R t) (s : Sign) :
    rational (settled s R t) = s.apply R * 2 ^ t := by
  unfold settled
  split
  · next hzero => cases s <;> simp [hzero, rational, Sign.apply]
  · split
    · rfl
    · next hge =>
      obtain rfl : R = 2 ^ 53 := Nat.le_antisymm h.le (Nat.le_of_not_lt hge)
      have hcarry : ((2 ^ 52 : ℕ) : ℚ) * 2 ^ (t + 1) = ((2 ^ 53 : ℕ) : ℚ) * 2 ^ t := by
        rw [zpow_add_one₀ (by norm_num)]
        push_cast
        ring
      cases s with
      | positive => rw [rational_positive, hcarry, Sign.apply, Int.cast_natCast]
      | negative => rw [rational_negative, hcarry, Sign.apply, Int.cast_neg, Int.cast_natCast, neg_mul]

/-! ## The algorithm -/

theorem shift_eq (a : Accuracy) {k : Nat} (h : (target m q - q).toNat = k) :
    shiftToTargetExponent .binary64 m q a =
      (ExtendedMantissa.ofMantissaAndAccuracy m a >>> k, q + k) := by
  rw [shiftToTargetExponent, shiftToExponent, targetExponent_eq, h]

theorem roundWithAccuracy_of_shift (s : Sign) (h : shiftToTargetExponent .binary64 m q a = (em, t))
    (hle : em.roundedMantissa ≤ 2 ^ 53) (ht : -1074 ≤ t) :
    roundWithAccuracy .binary64 s m q a = settled s em.roundedMantissa t := by
  obtain ⟨R, hR⟩ : ∃ R, em.roundedMantissa = R := ⟨_, rfl⟩
  have hagain : ∀ {em' : ExtendedMantissa} {t' : Int},
      shiftToTargetExponent .binary64 R t .exact = (em', t') →
      roundWithAccuracy .binary64 s m q a =
        if h : em'.mantissa = 0 then .zero s else .finite s em'.mantissa t' (Nat.pos_of_ne_zero h) := by
    intro em' t' hshift
    simp only [roundWithAccuracy, h, hR, hshift]
  rw [hR] at hle ⊢
  -- the second shift goes no place, or one
  rcases Nat.lt_or_ge R (2 ^ 53) with hlt | hge
  · have hstay : (target R t - t).toNat = 0 := by
      have hlog : R.log2 ≤ 52 := by
        rcases Nat.eq_zero_or_pos R with rfl | hpos
        · decide
        · exact Nat.le_of_lt_succ ((Nat.log2_lt (Nat.ne_of_gt hpos)).mpr hlt)
      rw [target]
      omega
    rw [hagain (shift_eq .exact hstay)]
    simp only [settled, if_pos hlt, Nat.cast_zero, add_zero]
    rfl
  · obtain rfl : R = 2 ^ 53 := Nat.le_antisymm hle hge
    have hgrown : (target (2 ^ 53) t - t).toNat = 1 := by
      rw [target, Nat.log2_two_pow]
      omega
    rw [hagain (shift_eq .exact hgrown)]
    rfl

theorem roundWithAccuracy_eq (s : Sign) (hm : 0 < m ∨ target m q = -1074)
    (hx : StandsFor (.ofMantissaAndAccuracy m a) x) (hq : q ≤ target m q) :
    ∃ R, TiesEven (x / 2 ^ (target m q - q)) R (target m q) ∧
      roundWithAccuracy .binary64 s m q a = settled s R (target m q) := by
  obtain ⟨k, hk⟩ : ∃ k : Nat, target m q - q = k := ⟨(target m q - q).toNat, by omega⟩
  have hshift : shiftToTargetExponent .binary64 m q a =
      (ExtendedMantissa.ofMantissaAndAccuracy m a >>> k, target m q) := by
    have hsteps : (target m q - q).toNat = k := by omega
    rw [shift_eq a hsteps, ← hk, add_sub_cancel]
  have hmantissa : (ExtendedMantissa.ofMantissaAndAccuracy m a).mantissa = m := by
    rcases a with _ | (_ | _ | _) <;> rfl
  have hlow := hx.low
  have hhigh := hx.high
  rw [hmantissa] at hlow hhigh
  have htarget : target m q = max (m.log2 + q - 52) (-1074) := rfl
  have hpow : (0 : ℚ) < 2 ^ k := by positivity
  rw [hk, zpow_natCast]
  have hshifted := hx.shiftRight k
  suffices hrounded : Rounded (x / 2 ^ k) (ExtendedMantissa.ofMantissaAndAccuracy m a >>> k).roundedMantissa
      (target m q) from
    ⟨_, ⟨hrounded, hshifted.even⟩, roundWithAccuracy_of_shift s hshift hrounded.le hrounded.least⟩
  -- the shift leaves 53 bits, or fewer where it ends at the least exponent
  refine ⟨hshifted.near, ?_, ?_, by omega⟩
  · rw [div_lt_iff₀ hpow, ← pow_add]
    have hle : ((m + 1 : ℕ) : ℚ) ≤ ((2 ^ (53 + k) : ℕ) : ℚ) := by
      exact_mod_cast Nat.lt_of_lt_of_le Nat.lt_log2_self (Nat.pow_le_pow_right Nat.two_pos (by omega))
    push_cast at hle
    linarith
  · refine or_iff_not_imp_right.mpr fun hne => ?_
    have hpos := hm.resolve_right hne
    have hlog : m.log2 = 52 + k := by omega
    rw [le_div_iff₀ hpow, ← pow_add]
    have hle : ((2 ^ (52 + k) : ℕ) : ℚ) ≤ m := by
      exact_mod_cast hlog ▸ Nat.log2_self_le (Nat.ne_of_gt hpos)
    push_cast at hle
    linarith

theorem log2_shiftLeft (hm : 0 < m) (k : Nat) : (m <<< k).log2 = m.log2 + k := by
  induction k with
  | zero => rfl
  | succ k ih =>
    have hpos : m <<< k ≠ 0 := by
      rw [Nat.shiftLeft_eq]
      exact Nat.ne_of_gt (Nat.mul_pos hm (Nat.two_pow_pos k))
    rw [Nat.shiftLeft_succ, Nat.log2_two_mul hpos, ih, Nat.add_assoc]

theorem round_eq (s : Sign) (q : Int) (hm : 0 < m) :
    ∃ R, TiesEven (m * 2 ^ q / 2 ^ target m q) R (target m q) ∧
      UnpackedFloat.round .binary64 s m q = settled s R (target m q) := by
  have hscale : ∀ (n : Nat) (r : Int),
      (n : ℚ) * 2 ^ r / 2 ^ target m q = n / 2 ^ (target m q - r) := by
    intro n r
    rw [zpow_sub₀ (by norm_num), div_div_eq_mul_div]
  unfold UnpackedFloat.round
  simp only [decreaseExponent, targetExponent_eq]
  -- a significand is shifted to the left first if its exponent is too great
  rcases le_or_gt q (target m q) with hle | hgt
  · have hnone : (q - target m q).toNat = 0 := by omega
    rw [hnone, Nat.shiftLeft_zero, Nat.cast_zero, sub_zero, hscale]
    exact roundWithAccuracy_eq s (.inl hm) (standsFor_exact m) hle
  · obtain ⟨k, hk⟩ : ∃ k : Nat, (q - target m q).toNat = k := ⟨_, rfl⟩
    have hsame : target (m <<< k) (q - k) = target m q := by
      rw [target, log2_shiftLeft hm, target]
      omega
    have hpos : 0 < m <<< k := by
      rw [Nat.shiftLeft_eq]
      exact Nat.mul_pos hm (Nat.two_pow_pos k)
    have hvalue : (m : ℚ) * 2 ^ q = ((m <<< k : ℕ) : ℚ) * 2 ^ (q - k) := by
      rw [Nat.shiftLeft_eq, Nat.cast_mul, Nat.cast_pow, mul_assoc, Nat.cast_ofNat, ← zpow_natCast,
        ← zpow_add₀ (by norm_num), add_sub_cancel]
    have hround := roundWithAccuracy_eq s (.inl hpos) (standsFor_exact (m <<< k)) (q := q - k)
      (by omega)
    rw [hsame] at hround
    rwa [hk, hvalue, hscale]

/-- Unless it is too great, `± m * 2 ^ q` becomes a finite number, and no representable number is nearer. -/
theorem ofBinary_spec (s : Sign) (m : Nat) (q : Int) (hsmall : target m q < 971) :
    (ofBinary s m q).isFinite ∧ ∀ y, Representable y →
      |exact (ofBinary s m q) - s.apply m * 2 ^ q| ≤ |y - s.apply m * 2 ^ q| := by
  obtain ⟨t, ht⟩ : ∃ t, target m q = t := ⟨_, rfl⟩
  unfold ofBinary
  split
  · next hzero =>
    have hvalue : (s.apply m : ℚ) * 2 ^ q = 0 := by
      cases s <;> rw [hzero, Sign.apply, Nat.cast_zero] <;> simp
    refine ⟨isFinite_of_isNumber (.zero s), fun y _ => ?_⟩
    rw [exact_pack (.zero s), rational_zero, hvalue, sub_self, abs_zero]
    exact abs_nonneg _
  · next hne =>
    obtain ⟨R, ⟨hrounded, -⟩, hround⟩ := round_eq s q (Nat.pos_of_ne_zero hne)
    rw [ht] at hrounded hround hsmall
    have hnumber := hrounded.isNumber_settled s hsmall
    rw [hround]
    refine ⟨isFinite_of_isNumber hnumber, fun y hy => ?_⟩
    rw [exact_pack hnumber, hrounded.rational_settled]
    have hmagnitude : ∀ z, Representable z → |R * 2 ^ t - (m * 2 ^ q : ℚ)| ≤ |z - m * 2 ^ q| := by
      intro z hz
      have hnearest := hrounded.nearest hz
      rwa [div_mul_cancel₀ _ (by positivity)] at hnearest
    cases s with
    | positive =>
      rw [Sign.apply, Sign.apply, Int.cast_natCast, Int.cast_natCast]
      exact hmagnitude y hy
    | negative =>
      -- a negative number is rounded as its magnitude is
      have hnearest := hmagnitude (-y) hy.neg
      rw [← abs_neg, ← abs_neg (-y - _)] at hnearest
      rw [Sign.apply, Sign.apply, Int.cast_neg, Int.cast_neg, Int.cast_natCast, Int.cast_natCast]
      convert hnearest using 2 <;> ring

/-! ## Integers -/

theorem ofInt_spec {n : Int} (hn : n.natAbs ≤ 2 ^ 63) :
    (ofInt n).isFinite ∧ ∀ y, Representable y → |exact (ofInt n) - n| ≤ |y - n| := by
  have hsmall : target n.natAbs 0 < 971 := by
    have hlog : n.natAbs.log2 < 64 := by
      rcases Nat.eq_zero_or_pos n.natAbs with hzero | hpos
      · rw [hzero]
        decide
      · exact (Nat.log2_lt (Nat.ne_of_gt hpos)).mpr (by omega)
    rw [target]
    omega
  have hvalue : ∀ s, (if n < 0 then Sign.negative else Sign.positive) = s → s.apply n.natAbs = n := by
    rintro s rfl
    split <;> rw [Sign.apply] <;> omega
  obtain ⟨hfinite, hnearest⟩ :=
    ofBinary_spec (if n < 0 then .negative else .positive) n.natAbs 0 hsmall
  refine ⟨hfinite, fun y hy => ?_⟩
  have h := hnearest y hy
  rwa [hvalue _ rfl, zpow_zero, mul_one] at h

theorem exact_ofInt {n : Int} (hn : n.natAbs ≤ 2 ^ 63) (h : Representable n) : exact (ofInt n) = n := by
  have hnearest := (ofInt_spec hn).2 n h
  rw [sub_self, abs_zero] at hnearest
  exact sub_eq_zero.mp (abs_nonpos_iff.mp hnearest)

theorem representable_int {n : Int} (hn : n.natAbs ≤ 2 ^ 53) : Representable n := by
  rcases Nat.lt_or_eq_of_le hn with hlt | heq
  · exact ⟨n, 0, by rw [Int.abs_eq_natAbs]; exact_mod_cast hlt, by decide, by rw [zpow_zero, mul_one]⟩
  · have hpow : ((2 ^ 53 : ℤ) : ℚ) = 2 ^ (53 : ℤ) := by norm_num
    rcases Int.natAbs_eq n with hpos | hneg
    · refine ⟨1, 53, by decide, by decide, ?_⟩
      rw [hpos, heq, Int.cast_one, one_mul, ← hpow]
      norm_cast
    · refine ⟨-1, 53, by decide, by decide, ?_⟩
      rw [hneg, heq, Int.cast_neg, Int.cast_neg, Int.cast_one, neg_mul, one_mul, ← hpow]
      norm_cast

end LineScript.Binary64
