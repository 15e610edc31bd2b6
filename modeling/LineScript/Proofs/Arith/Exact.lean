import LineScript.Proofs.Arith.Meaning
import Mathlib

/-!
# Integer arithmetic is exact

Over integers and booleans, an expression of signs, sums, products, rounded quotients, remainders and
powers comes to its value over the unbounded integers or to no integer at all, and it has a value
whenever everything on the way fits in 64 bits (`evaluate_whole`).

A machine of 64 bits truncates quotients and corrects them, and multiplies repeatedly for a power.
`checkedQuotient`, `checkedRemainder` and `checkedPower` write these steps out, each of them refused
where it overflows.  None overflows on the way to a result that fits.
-/

namespace LineScript.Arith

def InRange (n : Int) : Prop := Int64.minValue.toInt ≤ n ∧ n ≤ Int64.maxValue.toInt

instance (n : Int) : Decidable (InRange n) := inferInstanceAs (Decidable (_ ∧ _))

theorem inRange_iff {n : Int} :
    InRange n ↔ -9223372036854775808 ≤ n ∧ n ≤ 9223372036854775807 := Iff.rfl

theorem inRange_toInt (n : Int64) : InRange n.toInt :=
  ⟨Int64.minValue_le_toInt n, Int64.toInt_le n⟩

theorem ofInt?_of_inRange {n : Int} (h : InRange n) : Integer.ofInt? n = some (Int64.ofInt n) :=
  if_pos h

theorem ofInt?_of_not_inRange {n : Int} (h : ¬ InRange n) : Integer.ofInt? n = none := if_neg h

theorem toOption_exactly (n : Int) : (exactly n).toOption = (Integer.ofInt? n).map .integer := by
  unfold exactly
  cases Integer.ofInt? n <;> rfl

def whole? (v : Value) : Option Int := v.int?.map Int64.toInt

theorem whole?_of_exactly {n : Int} {v : Value} (h : exactly n = .ok v) : whole? v = some n := by
  have hsome : (exactly n).toOption = some v := congrArg Except.toOption h
  rw [toOption_exactly] at hsome
  obtain ⟨m, hm, rfl⟩ := Option.map_eq_some_iff.mp hsome
  exact congrArg some (Integer.toInt_of_ofInt? hm)

theorem exactly_of_inRange {n : Int} (h : InRange n) :
    ∃ v, exactly n = .ok v ∧ whole? v = some n := by
  have hok : exactly n = .ok (.integer (Int64.ofInt n)) := by
    unfold exactly
    rw [ofInt?_of_inRange h]
    rfl
  exact ⟨_, hok, whole?_of_exactly hok⟩

/-! ## Quotients rounded down -/

/-- `q` is `a / b` rounded down, and `r` is what is left of `a`: it has the sign of `b`. -/
structure Floored (a b q r : Int) : Prop where
  split : a = q * b + r
  above : 0 < b → 0 ≤ r ∧ r < b
  below : b < 0 → b < r ∧ r ≤ 0

namespace Floored

variable {a b q r : Int}

theorem eq (h : Floored a b q r) (hb : b ≠ 0) : a.fdiv b = q ∧ a.fmod b = r := by
  have hsplit : r + b * q = a := by rw [h.split]; ring
  rcases Int.lt_or_gt_of_ne hb with hneg | hpos
  · exact (Int.fdiv_fmod_unique' hneg).mpr ⟨hsplit, h.below hneg⟩
  · exact (Int.fdiv_fmod_unique hpos).mpr ⟨hsplit, h.above hpos⟩

theorem fdiv_fmod (a : Int) {b : Int} (hb : b ≠ 0) : Floored a b (a.fdiv b) (a.fmod b) := by
  rcases Int.lt_or_gt_of_ne hb with hneg | hpos
  · have hbounds := ((Int.fdiv_fmod_unique' hneg).mp ⟨Eq.refl (a.fdiv b), rfl⟩).2
    exact ⟨(Int.fdiv_mul_add_fmod a b).symm, fun h => by omega, fun _ => hbounds⟩
  · have hbounds := ((Int.fdiv_fmod_unique hpos).mp ⟨Eq.refl (a.fdiv b), rfl⟩).2
    exact ⟨(Int.fdiv_mul_add_fmod a b).symm, fun _ => hbounds, fun h => by omega⟩

end Floored

theorem tmod_bounds (a : Int) {b : Int} (hb : b ≠ 0) :
    (a.tmod b).natAbs < b.natAbs ∧ (0 ≤ a → 0 ≤ a.tmod b) ∧ (a < 0 → a.tmod b ≤ 0) := by
  refine ⟨?_, fun ha => Int.tmod_nonneg b ha, fun ha => ?_⟩
  · rw [Int.natAbs_tmod]
    exact Nat.mod_lt _ (Int.natAbs_pos.mpr hb)
  · have hneg := Int.tmod_nonneg b (Int.neg_nonneg_of_nonpos (Int.le_of_lt ha))
    rw [Int.neg_tmod] at hneg
    omega

theorem floored_kept {a b : Int} (hb : b ≠ 0) (h : a.tmod b = 0 ∨ (a.tmod b < 0 ↔ b < 0)) :
    Floored a b (a.tdiv b) (a.tmod b) := by
  obtain ⟨hsize, -⟩ := tmod_bounds a hb
  refine ⟨?_, fun hpos => by omega, fun hneg => by omega⟩
  rw [mul_comm]
  exact (Int.mul_tdiv_add_tmod a b).symm

theorem floored_corrected {a b : Int} (hb : b ≠ 0) (hr : a.tmod b ≠ 0)
    (h : ¬ (a.tmod b < 0 ↔ b < 0)) : Floored a b (a.tdiv b - 1) (a.tmod b + b) := by
  obtain ⟨hsize, -⟩ := tmod_bounds a hb
  refine ⟨?_, fun hpos => by omega, fun hneg => by omega⟩
  rw [sub_mul, mul_comm (a.tdiv b)]
  have := Int.mul_tdiv_add_tmod a b
  omega

theorem tmod_neg_iff {a b : Int} (hb : b ≠ 0) (hr : a.tmod b ≠ 0) : a.tmod b < 0 ↔ a < 0 := by
  obtain ⟨-, hpos, hneg⟩ := tmod_bounds a hb
  omega

theorem natAbs_tdiv_le {a b : Int} (hr : a.tmod b ≠ 0) : (a.tdiv b).natAbs ≤ a.natAbs / 2 := by
  by_cases hb : b = 0
  · rw [hb, Int.tdiv_zero]
    exact Nat.zero_le _
  · have hsize := (tmod_bounds a hb).1
    rw [Int.natAbs_tdiv]
    exact Nat.div_le_div_left (by omega) (by decide)

/-- Whether the machine has no quotient: the divisor is zero, or the quotient is one more than the
largest integer. -/
def NoQuotient (a b : Int64) : Prop := b = 0 ∨ (a = Int64.minValue ∧ b = -1)

instance (a b : Int64) : Decidable (NoQuotient a b) := inferInstanceAs (Decidable (_ ∨ _))

/-- The truncated quotient, less one where a remainder is left between operands of different
signs. -/
def checkedQuotient (a b : Int64) : Option Int64 :=
  if NoQuotient a b then none
  else if a % b ≠ 0 ∧ ¬ (a < 0 ↔ b < 0) then Integer.ofInt? ((a / b).toInt - 1)
  else some (a / b)

/-- The truncated remainder, with the divisor added where their signs differ. -/
def checkedRemainder (a b : Int64) : Option Int64 :=
  if NoQuotient a b then none
  else if a % b ≠ 0 ∧ ¬ (a % b < 0 ↔ b < 0) then Integer.ofInt? ((a % b).toInt + b.toInt)
  else some (a % b)

section Machine

variable {a b : Int64}

theorem toInt_ne_zero : b.toInt ≠ 0 ↔ b ≠ 0 := not_congr (Int64.toInt_inj (y := 0))

theorem toInt_lt_zero : b.toInt < 0 ↔ b < 0 := (Int64.lt_iff_toInt_lt (y := 0)).symm

theorem noQuotient_iff : NoQuotient a b ↔
    b.toInt = 0 ∨ (a.toInt = -9223372036854775808 ∧ b.toInt = -1) := by
  unfold NoQuotient
  rw [← Int64.toInt_inj (x := b), ← Int64.toInt_inj (x := a), ← Int64.toInt_inj (x := b) (y := -1)]
  rfl

theorem inRange_tdiv (h : ¬ NoQuotient a b) : InRange (a.toInt.tdiv b.toInt) := by
  have ha := inRange_iff.mp (inRange_toInt a)
  rw [noQuotient_iff] at h
  rw [inRange_iff]
  have hsize := Int.natAbs_tdiv_le_natAbs a.toInt b.toInt
  -- the size alone leaves out only the quotient of the least integer by -1
  by_cases hmin : a.toInt = -9223372036854775808
  · by_cases hone : b.toInt = 1
    · rw [hone, Int.tdiv_one]
      omega
    · have hhalf : (a.toInt.tdiv b.toInt).natAbs ≤ a.toInt.natAbs / 2 := by
        rw [Int.natAbs_tdiv]
        exact Nat.div_le_div_left (by omega) (by decide)
      omega
  · omega

theorem toInt_div_of_quotient (h : ¬ NoQuotient a b) : (a / b).toInt = a.toInt.tdiv b.toInt := by
  obtain ⟨hlow, hhigh⟩ := inRange_iff.mp (inRange_tdiv h)
  rw [Int64.toInt_div]
  exact Int.bmod_eq_of_le (by omega) (by omega)

theorem floored_steps (h : ¬ NoQuotient a b) :
    ∃ q r, checkedQuotient a b = some q ∧ checkedRemainder a b = some r ∧
      Floored a.toInt b.toInt q.toInt r.toInt := by
  have hb : b.toInt ≠ 0 := fun hzero => h (noQuotient_iff.mpr (.inl hzero))
  have hq := toInt_div_of_quotient h
  have hr : (a % b).toInt = a.toInt.tmod b.toInt := Int64.toInt_mod a b
  unfold checkedQuotient checkedRemainder
  rw [if_neg h, if_neg h]
  -- the quotient goes by the sign of the dividend, the remainder by its own, which is the same
  by_cases hzero : a % b = 0
  · rw [if_neg fun hc => hc.1 hzero, if_neg fun hc => hc.1 hzero]
    refine ⟨a / b, a % b, rfl, rfl, ?_⟩
    rw [hq, hr]
    exact floored_kept hb (.inl (by rw [← hr, hzero]; rfl))
  · have hleft : a.toInt.tmod b.toInt ≠ 0 := by rw [← hr]; exact toInt_ne_zero.mpr hzero
    have hdividend : a % b < 0 ↔ a < 0 := by
      rw [← toInt_lt_zero, hr, tmod_neg_iff hb hleft, toInt_lt_zero]
    have hsame : (a.toInt.tmod b.toInt < 0 ↔ b.toInt < 0) ↔ (a % b < 0 ↔ b < 0) := by
      rw [← hr, toInt_lt_zero, toInt_lt_zero]
    by_cases hsigns : a % b < 0 ↔ b < 0
    · rw [if_neg fun hc => hc.2 (hdividend.symm.trans hsigns), if_neg fun hc => hc.2 hsigns]
      refine ⟨a / b, a % b, rfl, rfl, ?_⟩
      rw [hq, hr]
      exact floored_kept hb (.inr (hsame.mpr hsigns))
    · rw [if_pos ⟨hzero, fun hc => hsigns (hdividend.trans hc)⟩, if_pos ⟨hzero, hsigns⟩, hq, hr]
      have hfloored := floored_corrected hb hleft (hsame.not.mpr hsigns)
      -- the quotient is far from the least integer, and the remainder lies within the divisor
      have hfits : InRange (a.toInt.tdiv b.toInt - 1) := by
        have := natAbs_tdiv_le hleft
        have := inRange_iff.mp (inRange_toInt a)
        rw [inRange_iff]
        omega
      have hfits' : InRange (a.toInt.tmod b.toInt + b.toInt) := by
        have := hfloored.above
        have := hfloored.below
        have := inRange_iff.mp (inRange_toInt b)
        rw [inRange_iff]
        omega
      rw [ofInt?_of_inRange hfits, ofInt?_of_inRange hfits']
      refine ⟨_, _, rfl, rfl, ?_⟩
      rw [Integer.toInt_of_ofInt? (ofInt?_of_inRange hfits),
        Integer.toInt_of_ofInt? (ofInt?_of_inRange hfits')]
      exact hfloored

theorem checkedQuotient_eq_none : checkedQuotient a b = none ↔ NoQuotient a b := by
  refine ⟨fun h => by_contra fun hquotient => ?_, fun h => if_pos h⟩
  obtain ⟨q, r, hq, -, -⟩ := floored_steps hquotient
  rw [h] at hq
  cases hq

theorem checkedRemainder_eq_none : checkedRemainder a b = none ↔ NoQuotient a b := by
  refine ⟨fun h => by_contra fun hquotient => ?_, fun h => if_pos h⟩
  obtain ⟨q, r, -, hr, -⟩ := floored_steps hquotient
  rw [h] at hr
  cases hr

theorem toOption_floorDivideInts (a b : Int64) :
    (floorDivideInts a b).toOption = (checkedQuotient a b).map .integer := by
  unfold floorDivideInts
  by_cases h : NoQuotient a b
  · have hnone : checkedQuotient a b = none := if_pos h
    rw [hnone]
    by_cases hb : b = 0
    · rw [if_pos hb]
      rfl
    · obtain ⟨rfl, rfl⟩ := h.resolve_left hb
      rfl
  · obtain ⟨q, r, hq, -, hfloored⟩ := floored_steps h
    have hb : b ≠ 0 := fun hzero => h (.inl hzero)
    rw [if_neg hb, hq, toOption_exactly, (hfloored.eq (toInt_ne_zero.mpr hb)).1,
      Integer.ofInt?_toInt]

theorem toOption_moduloInts (a b : Int64) :
    (moduloInts a b).toOption = (checkedRemainder a b).map .integer := by
  have hquotient := toOption_floorDivideInts a b
  unfold moduloInts
  by_cases h : NoQuotient a b
  · have hnone : checkedRemainder a b = none := if_pos h
    rw [hnone]
    by_cases hb : b = 0
    · rw [if_pos hb]
      rfl
    · obtain ⟨rfl, rfl⟩ := h.resolve_left hb
      rfl
  · obtain ⟨q, r, hq, hr, hfloored⟩ := floored_steps h
    have hb : b ≠ 0 := fun hzero => h (.inl hzero)
    rw [if_neg hb]
    rw [hq] at hquotient
    cases hresult : floorDivideInts a b with
    | error f =>
      rw [hresult] at hquotient
      cases hquotient
    | ok v =>
      show (exactly _).toOption = _
      rw [hr, toOption_exactly, (hfloored.eq (toInt_ne_zero.mpr hb)).2, Integer.ofInt?_toInt]

end Machine

/-! ## Powers -/

def checkedProduct (a b : Int64) : Option Int64 := Integer.ofInt? (a.toInt * b.toInt)

/-- A power of `base` multiplied to `acc`: the base is squared as often as the exponent can be halved,
and multiplied to `acc` where the exponent is odd. -/
def squaring (acc base : Int64) (n : Nat) : Option Int64 :=
  if n ≤ 1 then checkedProduct acc base
  else
    (if n % 2 = 1 then checkedProduct acc base else some acc).bind fun acc =>
      (checkedProduct base base).bind fun base => squaring acc base (n / 2)
termination_by n
decreasing_by omega

def checkedPower (a : Int64) (n : Nat) : Option Int64 := if n = 0 then some 1 else squaring 1 a n

theorem inRange_of_mul {x k : Int} (hk : 1 ≤ k) (h : InRange (x * k)) : InRange x := by
  rw [inRange_iff] at h ⊢
  rcases Int.le_total 0 x with hx | hx
  · have : x ≤ x * k := le_mul_of_one_le_right hx hk
    omega
  · have : x * k ≤ x := by nlinarith
    omega

theorem inRange_square {x y : Int} {n : Nat} (hn : 2 ≤ n) (hx : y = 0 ∨ x ≠ 0)
    (h : InRange (x * y ^ n)) : InRange (y * y) := by
  by_cases hy : y = 0
  · rw [hy]
    exact inRange_iff.mpr (by omega)
  have hx := hx.resolve_left hy
  have hsize : y.natAbs * y.natAbs ≤ (x * y ^ n).natAbs := by
    calc y.natAbs * y.natAbs = y.natAbs ^ 2 := (pow_two _).symm
      _ ≤ y.natAbs ^ n := Nat.pow_le_pow_right (Int.natAbs_pos.mpr hy) hn
      _ ≤ x.natAbs * y.natAbs ^ n := Nat.le_mul_of_pos_left _ (Int.natAbs_pos.mpr hx)
      _ = (x * y ^ n).natAbs := by rw [Int.natAbs_mul, Int.natAbs_pow]
  have hroot : y.natAbs ≤ 3037000499 := by
    have := inRange_iff.mp h
    by_contra hlarge
    have : 3037000500 * 3037000500 ≤ y.natAbs * y.natAbs :=
      Nat.mul_le_mul (by omega) (by omega)
    omega
  have hsquare : y * y = (y.natAbs * y.natAbs : Nat) := (Int.natAbs_mul_self (a := y)).symm
  have : y.natAbs * y.natAbs ≤ 3037000499 * 3037000499 := Nat.mul_le_mul hroot hroot
  rw [inRange_iff, hsquare]
  omega

theorem mul_pow_halved (x y : Int) (n : Nat) :
    x * y ^ n = (if n % 2 = 1 then x * y else x) * (y * y) ^ (n / 2) := by
  rw [← pow_two, ← pow_mul]
  split
  · rw [mul_assoc, ← pow_succ', show 2 * (n / 2) + 1 = n by omega]
  · rw [show 2 * (n / 2) = n by omega]

theorem inRange_halved {x y : Int} {n : Nat} (hx : InRange x) (h : InRange (x * y ^ n)) :
    InRange (if n % 2 = 1 then x * y else x) := by
  -- what is multiplied to it later is a square
  by_cases hodd : n % 2 = 1
  · by_cases hy : y = 0
    · rw [if_pos hodd, hy, mul_zero]
      exact inRange_iff.mpr (by omega)
    · rw [mul_pow_halved] at h
      have hsquare : 0 < y * y := mul_self_pos.mpr hy
      exact inRange_of_mul (Int.add_one_le_of_lt (pow_pos hsquare _)) h
  · rw [if_neg hodd]
    exact hx

/-- No multiplication overflows on the way to a power that fits. -/
theorem squaring_eq {acc base : Int64} {n : Nat} (hn : 1 ≤ n)
    (h : base.toInt = 0 ∨ acc.toInt ≠ 0) :
    squaring acc base n = Integer.ofInt? (acc.toInt * base.toInt ^ n) := by
  induction n using Nat.strong_induction_on generalizing acc base with
  | _ n ih =>
    rw [squaring]
    by_cases hone : n ≤ 1
    · rw [if_pos hone, show n = 1 by omega, pow_one]
      rfl
    have hacc : (if n % 2 = 1 then checkedProduct acc base else some acc) =
        Integer.ofInt? (if n % 2 = 1 then acc.toInt * base.toInt else acc.toInt) := by
      split
      · rfl
      · exact (Integer.ofInt?_toInt acc).symm
    have hnonzero : base.toInt * base.toInt = 0 ∨
        (if n % 2 = 1 then acc.toInt * base.toInt else acc.toInt) ≠ 0 := by
      rcases h with hbase | hbase
      · exact .inl (by rw [hbase, mul_zero])
      · by_cases hzero : base.toInt = 0
        · exact .inl (by rw [hzero, mul_zero])
        · right
          split
          · exact mul_ne_zero hbase hzero
          · exact hbase
    rw [if_neg hone, hacc]
    cases hnext : Integer.ofInt? (if n % 2 = 1 then acc.toInt * base.toInt else acc.toInt) with
    | none =>
      -- the product is too large, and so is the power
      refine (ofInt?_of_not_inRange fun hfits => ?_).symm
      rw [ofInt?_of_inRange (inRange_halved (inRange_toInt acc) hfits)] at hnext
      cases hnext
    | some acc' =>
      show (Integer.ofInt? (base.toInt * base.toInt)).bind _ = _
      cases hsquare : Integer.ofInt? (base.toInt * base.toInt) with
      | none =>
        -- at least one square is left to multiply, so that the power is too large as well
        refine (ofInt?_of_not_inRange fun hfits => ?_).symm
        rw [ofInt?_of_inRange (inRange_square (by omega) h hfits)] at hsquare
        cases hsquare
      | some base' =>
        have hacc' := Integer.toInt_of_ofInt? hnext
        have hbase' := Integer.toInt_of_ofInt? hsquare
        rw [mul_pow_halved, ← hacc', ← hbase']
        refine ih (n / 2) (by omega) (by omega) ?_
        rw [hacc', hbase']
        exact hnonzero

theorem checkedPower_eq (a : Int64) (n : Nat) :
    checkedPower a n = Integer.ofInt? (a.toInt ^ n) := by
  unfold checkedPower
  split
  · next hn =>
    rw [hn, pow_zero]
    rfl
  · next hn =>
    rw [squaring_eq (by omega) (.inr (by decide))]
    show Integer.ofInt? (1 * _) = _
    rw [one_mul]

theorem not_inRange_pow {a : Int} {n : Nat} (ha : 1 < a.natAbs) (hn : 63 < n) :
    ¬ InRange (a ^ n) := by
  have hlarge : 2 ^ 64 ≤ (a ^ n).natAbs := by
    calc 2 ^ 64 ≤ 2 ^ n := Nat.pow_le_pow_right (by decide) hn
      _ ≤ a.natAbs ^ n := Nat.pow_le_pow_left ha n
      _ = (a ^ n).natAbs := (Int.natAbs_pow a n).symm
  rw [inRange_iff]
  omega

theorem pow_of_parity {a : Int} {n : Nat} (ha : a.natAbs ≤ 1) (hn : 63 < n) :
    a ^ (62 + n % 2) = a ^ n := by
  have hcases : a = 0 ∨ a = 1 ∨ a = -1 := by omega
  rcases hcases with rfl | rfl | rfl
  · rw [zero_pow (by omega), zero_pow (by omega)]
  · rw [one_pow, one_pow]
  · rw [neg_one_pow_eq_pow_mod_two, neg_one_pow_eq_pow_mod_two (n := n)]
    congr 1
    omega

theorem powerInts_eq {n : Nat} (hn : n ≤ maxExponent) (a : Int64) :
    (powerInts a n).toOption = (Integer.ofInt? (a.toInt ^ n)).map .integer := by
  unfold powerInts
  rw [if_neg (by omega)]
  by_cases hsmall : n ≤ 63
  · rw [if_pos hsmall, toOption_exactly]
    rfl
  rw [if_neg hsmall]
  -- beyond 63 only the powers of -1, 0 and 1 fit
  by_cases ha : a.toInt.natAbs ≤ 1
  · rw [if_pos ha, toOption_exactly, ← pow_of_parity ha (by omega)]
    rfl
  · rw [if_neg ha, ofInt?_of_not_inRange (not_inRange_pow (by omega) (by omega))]
    rfl

/-! ## Operators -/

/-- An operator over the unbounded integers; there is no quotient by zero and no power with a negative
exponent. -/
def Binary.exactInt? : Binary → Int → Int → Option Int
  | add, a, b => some (a + b)
  | subtract, a, b => some (a - b)
  | multiply, a, b => some (a * b)
  | floorDivide, a, b => if b = 0 then none else some (a.fdiv b)
  | modulo, a, b => if b = 0 then none else some (a.fmod b)
  | power, a, b => if 0 ≤ b then some (a ^ b.toNat) else none
  | _, _, _ => none

def Unary.exactInt? : Unary → Int → Option Int
  | minus, a => some (-a)
  | plus, a => some a
  | not, _ => none

def Binary.isWhole : Binary → Bool
  | or | and | divide => false
  | add | subtract | multiply | floorDivide | modulo | power => true

/-- Where an operator is not refused from the start, whatever its result. -/
def Binary.Allows : Binary → Int → Int → Prop
  | modulo, a, b => ¬ (a = Int64.minValue.toInt ∧ b = -1)
  | power, _, b => b ≤ maxExponent
  | _, _, _ => True

section Operators

variable {left right v : Value} {a b : Int64} {n : Int}

theorem whole?_eq_some {v : Value} {n : Int} :
    whole? v = some n ↔ ∃ m, v.int? = some m ∧ m.toInt = n := Option.map_eq_some_iff

theorem numeric_of_ints {op : Binary} {ints : Int64 → Int64 → Result Value}
    {floats : Float → Float → Result Value} (hleft : left.int? = some a)
    (hright : right.int? = some b) : numeric op ints floats left right = ints a b := by
  unfold numeric
  rw [hleft, hright]

theorem ints_of_numeric {op : Binary} {ints : Int64 → Int64 → Result Value}
    {floats : Float → Float → Result Value} (hfloats : ∀ x y w, floats x y = .ok w → whole? w = none)
    (h : numeric op ints floats left right = .ok v) (hv : whole? v = some n) :
    ∃ a b, left.int? = some a ∧ right.int? = some b ∧ ints a b = .ok v := by
  unfold numeric at h
  split at h
  · next a b hleft hright => exact ⟨a, b, hleft, hright, h⟩
  · split at h
    · have := hfloats _ _ _ h
      rw [hv] at this
      cases this
    · cases h

theorem whole?_real {f : Float → Float → Float} (x y : Float) (w : Value)
    (h : real f x y = .ok w) : whole? w = none := by
  cases h
  rfl

theorem whole?_guarded {op : Binary} {f : Float → Float → Float} (x y : Float) (w : Value)
    (h : (if y == 0.0 then .error (.zeroDivisor op false) else .ok (.float (f x y)) : Result Value) = .ok w) :
    whole? w = none := by
  split at h
  · cases h
  · cases h
    rfl

theorem apply_of_ints_add (hleft : left.int? = some a) (hright : right.int? = some b) :
    add left right = exactly (a.toInt + b.toInt) := by
  unfold add
  split
  · cases hleft
  · exact numeric_of_ints hleft hright

theorem ints_of_add (h : add left right = .ok v) (hv : whole? v = some n) :
    ∃ a b, left.int? = some a ∧ right.int? = some b ∧ exactly (a.toInt + b.toInt) = .ok v := by
  unfold add at h
  split at h
  · split at h
    · cases h
      cases hv
    · cases h
  · exact ints_of_numeric whole?_real h hv

theorem apply_of_ints_multiply (hleft : left.int? = some a) (hright : right.int? = some b) :
    multiply left right = exactly (a.toInt * b.toInt) := by
  unfold multiply
  split
  · cases hleft
  · cases hright
  · exact numeric_of_ints hleft hright

theorem ints_of_multiply (h : multiply left right = .ok v) (hv : whole? v = some n) :
    ∃ a b, left.int? = some a ∧ right.int? = some b ∧ exactly (a.toInt * b.toInt) = .ok v := by
  have hstring : ∀ s m, repeated s m = .ok v → False := by
    intro s m hs
    unfold repeated at hs
    split at hs
    · cases hs
      cases hv
    · cases hs
  unfold multiply at h
  split at h
  · exact (hstring _ _ h).elim
  · exact (hstring _ _ h).elim
  · exact ints_of_numeric whole?_real h hv

theorem power_of_ints (hleft : left.int? = some a) (hright : right.int? = some b)
    (hb : 0 ≤ b.toInt) : power left right = powerInts a b.toInt.toNat := by
  unfold power
  rw [hleft, hright]
  exact if_pos hb

theorem ints_of_power (h : power left right = .ok v) (hv : whole? v = some n) :
    ∃ a b, left.int? = some a ∧ right.int? = some b ∧ 0 ≤ b.toInt ∧
      powerInts a b.toInt.toNat = .ok v := by
  unfold power at h
  extract_lets floats at h
  have hfloats : floats ≠ .ok v := by
    intro hf
    simp only [floats] at hf
    split at hf
    · cases hf
      cases hv
    · cases hf
  split at h
  · next a b hleft hright =>
    split at h
    · next hb => exact ⟨a, b, hleft, hright, hb, h⟩
    · exact (hfloats h).elim
  · exact (hfloats h).elim

theorem powerInts_ok {m : Nat} (h : powerInts a m = .ok v) : whole? v = some (a.toInt ^ m) := by
  by_cases hm : m ≤ maxExponent
  · have hsome := powerInts_eq hm a
    rw [h, ← toOption_exactly] at hsome
    exact whole?_of_exactly (ok_of_toOption hsome.symm)
  · unfold powerInts at h
    rw [if_pos (by omega)] at h
    cases h

theorem floorDivideInts_ok (h : floorDivideInts a b = .ok v) :
    b.toInt ≠ 0 ∧ whole? v = some (a.toInt.fdiv b.toInt) := by
  unfold floorDivideInts at h
  split at h
  · cases h
  · next hb => exact ⟨toInt_ne_zero.mpr hb, whole?_of_exactly h⟩

theorem moduloInts_ok (h : moduloInts a b = .ok v) :
    b.toInt ≠ 0 ∧ whole? v = some (a.toInt.fmod b.toInt) := by
  unfold moduloInts at h
  split at h
  · cases h
  split at h
  · cases h
  · next hquotient => exact ⟨(floorDivideInts_ok hquotient).1, whole?_of_exactly h⟩

/-- An integer result of an operator is exact, and comes from two integers. -/
theorem exact_of_apply {op : Binary} (hop : op.isWhole = true) (h : op.apply left right = .ok v)
    (hv : whole? v = some n) :
    ∃ a b, whole? left = some a ∧ whole? right = some b ∧ op.exactInt? a b = some n := by
  have hints : ∀ {x y : Int64} {m : Int}, left.int? = some x → right.int? = some y →
      whole? v = some m → op.exactInt? x.toInt y.toInt = some m →
      ∃ a b, whole? left = some a ∧ whole? right = some b ∧ op.exactInt? a b = some n := by
    intro x y m hx hy hm hexact
    have hn : m = n := Option.some.inj (hm.symm.trans hv)
    exact ⟨x.toInt, y.toInt, congrArg (Option.map Int64.toInt) hx,
      congrArg (Option.map Int64.toInt) hy, hn ▸ hexact⟩
  -- strings and floating-point numbers yield no integer under any of the operators
  cases op with
  | add =>
    obtain ⟨x, y, hx, hy, hxy⟩ := ints_of_add h hv
    exact hints hx hy (whole?_of_exactly hxy) rfl
  | subtract =>
    obtain ⟨x, y, hx, hy, hxy⟩ := ints_of_numeric whole?_real h hv
    exact hints hx hy (whole?_of_exactly hxy) rfl
  | multiply =>
    obtain ⟨x, y, hx, hy, hxy⟩ := ints_of_multiply h hv
    exact hints hx hy (whole?_of_exactly hxy) rfl
  | floorDivide =>
    obtain ⟨x, y, hx, hy, hxy⟩ := ints_of_numeric whole?_guarded h hv
    obtain ⟨hzero, hm⟩ := floorDivideInts_ok hxy
    exact hints hx hy hm (if_neg hzero)
  | modulo =>
    obtain ⟨x, y, hx, hy, hxy⟩ := ints_of_numeric whole?_guarded h hv
    obtain ⟨hzero, hm⟩ := moduloInts_ok hxy
    exact hints hx hy hm (if_neg hzero)
  | power =>
    obtain ⟨x, y, hx, hy, hsign, hxy⟩ := ints_of_power h hv
    exact hints hx hy (powerInts_ok hxy) (if_pos hsign)
  | _ => cases hop

theorem apply_exact {op : Binary} (hleft : left.int? = some a) (hright : right.int? = some b)
    (hallows : op.Allows a.toInt b.toInt) (hexact : op.exactInt? a.toInt b.toInt = some n)
    (hfits : InRange n) : ∃ v, op.apply left right = .ok v ∧ whole? v = some n := by
  cases op with
  | add =>
    cases hexact
    show ∃ v, add left right = _ ∧ _
    rw [apply_of_ints_add hleft hright]
    exact exactly_of_inRange hfits
  | subtract =>
    cases hexact
    show ∃ v, numeric _ _ _ left right = _ ∧ _
    rw [numeric_of_ints hleft hright]
    exact exactly_of_inRange hfits
  | multiply =>
    cases hexact
    show ∃ v, multiply left right = _ ∧ _
    rw [apply_of_ints_multiply hleft hright]
    exact exactly_of_inRange hfits
  | floorDivide =>
    obtain ⟨hzero, hn⟩ := Option.ite_none_left_eq_some.mp hexact
    cases hn
    show ∃ v, numeric _ _ _ left right = _ ∧ _
    rw [numeric_of_ints hleft hright, floorDivideInts, if_neg (toInt_ne_zero.mp hzero)]
    exact exactly_of_inRange hfits
  | modulo =>
    obtain ⟨hzero, hn⟩ := Option.ite_none_left_eq_some.mp hexact
    cases hn
    -- the remainder comes by way of the quotient, which has to fit, too
    have hquotient : ¬ NoQuotient a b := by
      rw [noQuotient_iff]
      exact not_or.mpr ⟨hzero, hallows⟩
    obtain ⟨q, r, -, hr, hfloored⟩ := floored_steps hquotient
    have hok := toOption_moduloInts a b
    rw [hr] at hok
    show ∃ v, numeric _ _ _ left right = _ ∧ _
    rw [numeric_of_ints hleft hright, ok_of_toOption hok]
    exact ⟨_, rfl, congrArg some (hfloored.eq hzero).2.symm⟩
  | power =>
    obtain ⟨hsign, hn⟩ := Option.ite_none_right_eq_some.mp hexact
    cases hn
    have hmost : b.toInt.toNat ≤ maxExponent := by
      have hallows : b.toInt ≤ maxExponent := hallows
      omega
    have hok := powerInts_eq hmost a
    rw [← toOption_exactly] at hok
    obtain ⟨v, hv, hwhole⟩ := exactly_of_inRange hfits
    rw [hv] at hok
    show ∃ v, power left right = _ ∧ _
    rw [power_of_ints hleft hright hsign, ok_of_toOption hok]
    exact ⟨v, rfl, hwhole⟩
  | _ => cases hexact

theorem whole?_int {v : Value} {m : Int64} (h : v.int? = some m) : whole? v = some m.toInt :=
  congrArg (Option.map Int64.toInt) h

theorem apply_minus (h : v.int? = some a) : Unary.minus.apply v = exactly (-a.toInt) := by
  cases v with
  | integer n => cases h; rfl
  | boolean b => cases h; rfl
  | _ => cases h

theorem apply_plus (h : v.int? = some a) : Unary.plus.apply v = .ok (.integer a) := by
  cases v with
  | integer n => cases h; rfl
  | boolean b => cases h; rfl
  | _ => cases h

theorem exact_of_sign {op : Unary} {w : Value} (hop : op ≠ .not) (h : op.apply w = .ok v)
    (hv : whole? v = some n) : ∃ a, whole? w = some a ∧ op.exactInt? a = some n := by
  cases hint : w.int? with
  | some a =>
    refine ⟨a.toInt, whole?_int hint, ?_⟩
    cases op with
    | not => exact absurd rfl hop
    | minus =>
      rw [apply_minus hint] at h
      exact (whole?_of_exactly h).symm.trans hv
    | plus =>
      rw [apply_plus hint] at h
      cases h
      exact hv
  | none =>
    -- a floating-point number stays one under a sign, and nothing else has a sign
    cases w with
    | integer m => cases hint
    | boolean b => cases hint
    | float x =>
      cases op with
      | not => exact absurd rfl hop
      | minus => cases h; cases hv
      | plus => cases h; cases hv
    | _ =>
      cases op with
      | not => exact absurd rfl hop
      | minus => cases h
      | plus => cases h

theorem sign_exact {op : Unary} {w : Value} {a : Int} (hw : whole? w = some a)
    (hexact : op.exactInt? a = some n) (hfits : InRange n) :
    ∃ v, op.apply w = .ok v ∧ whole? v = some n := by
  obtain ⟨m, hm, rfl⟩ := whole?_eq_some.mp hw
  cases op with
  | not => cases hexact
  | minus =>
    cases hexact
    rw [apply_minus hm]
    exact exactly_of_inRange hfits
  | plus =>
    cases hexact
    rw [apply_plus hm]
    exact ⟨_, rfl, rfl⟩

end Operators

/-! ## Trees -/

inductive Expr.IsWhole : Expr → Prop
  | literal (l : Literal) : IsWhole (.literal l)
  | name (n : String) : IsWhole (.name n)
  | unary {op : Unary} {e : Expr} : op ≠ .not → IsWhole e → IsWhole (.unary op e)
  | binary {op : Binary} {l r : Expr} :
    op.isWhole = true → IsWhole l → IsWhole r → IsWhole (.binary op l r)

/-- The value of a tree over the unbounded integers, a boolean counting as 0 or 1. -/
def Expr.exactInt? (vars : Table Value) : Expr → Option Int
  | .literal l => whole? l.value
  | .name n => (lookup vars n).toOption.bind whole?
  | .unary op e => (e.exactInt? vars).bind op.exactInt?
  | .binary op l r => (l.exactInt? vars).bind fun a => (r.exactInt? vars).bind (op.exactInt? a)
  | _ => none

/-- Whether every result on the way to the value of a tree fits in 64 bits, and no operator is
refused. -/
def Expr.Stays (vars : Table Value) : Expr → Prop
  | .unary op e => e.Stays vars ∧ ∀ n, (Expr.unary op e).exactInt? vars = some n → InRange n
  | .binary op l r => l.Stays vars ∧ r.Stays vars ∧
    (∀ a b, l.exactInt? vars = some a → r.exactInt? vars = some b → op.Allows a b) ∧
    ∀ n, (Expr.binary op l r).exactInt? vars = some n → InRange n
  | _ => True

section Trees

variable {vars : Table Value} {draws draws' : Draws} {v : Value} {n : Int}

theorem exact_of_eval {e : Expr} (he : e.IsWhole)
    (h : e.eval vars draws = .ok (v, draws')) (hv : whole? v = some n) :
    e.exactInt? vars = some n := by
  -- an operator yields an integer only from integers, for which the induction hypotheses hold
  induction he generalizing v n draws draws' with
  | literal l =>
    cases h
    exact hv
  | name x =>
    obtain ⟨hlookup, rfl⟩ := Drawn.lift_eq_ok.mp h
    exact Option.bind_eq_some_iff.mpr ⟨v, toOption_eq_some_iff.mpr hlookup, hv⟩
  | @unary op e hop _ ih =>
    obtain ⟨w, hw, happly⟩ := eval_unary_eq_ok.mp h
    obtain ⟨a, ha, hexact⟩ := exact_of_sign hop happly hv
    exact Option.bind_eq_some_iff.mpr ⟨a, ih hw ha, hexact⟩
  | @binary op l r hop _ _ ihl ihr =>
    obtain ⟨left, mid, hleft, right, hright, happly⟩ := eval_binary_eq_ok.mp h
    obtain ⟨a, b, ha, hb, hexact⟩ := exact_of_apply hop happly hv
    exact Option.bind_eq_some_iff.mpr ⟨a, ihl hleft ha,
      Option.bind_eq_some_iff.mpr ⟨b, ihr hright hb, hexact⟩⟩

theorem eval_of_stays {e : Expr} (he : e.IsWhole) (hstays : e.Stays vars)
    (hexact : e.exactInt? vars = some n) :
    ∃ v, e.eval vars draws = .ok (v, draws) ∧ whole? v = some n := by
  induction he generalizing n with
  | literal l => exact ⟨l.value, rfl, hexact⟩
  | name x =>
    obtain ⟨w, hw, hwhole⟩ := Option.bind_eq_some_iff.mp hexact
    exact ⟨w, Drawn.lift_eq_ok.mpr ⟨ok_of_toOption hw, rfl⟩, hwhole⟩
  | @unary op e hop _ ih =>
    obtain ⟨a, ha, hsign⟩ := Option.bind_eq_some_iff.mp hexact
    obtain ⟨w, hw, hwhole⟩ := ih hstays.1 ha
    obtain ⟨v, hv, hresult⟩ := sign_exact hwhole hsign (hstays.2 n hexact)
    exact ⟨v, eval_unary_eq_ok.mpr ⟨w, hw, hv⟩, hresult⟩
  | @binary op l r hop _ _ ihl ihr =>
    obtain ⟨a, ha, hrest⟩ := Option.bind_eq_some_iff.mp hexact
    obtain ⟨b, hb, hop'⟩ := Option.bind_eq_some_iff.mp hrest
    obtain ⟨hl, hr, hallows, hfits⟩ := hstays
    obtain ⟨left, hleft, hwhole⟩ := ihl hl ha
    obtain ⟨right, hright, hwhole'⟩ := ihr hr hb
    obtain ⟨x, hx, rfl⟩ := whole?_eq_some.mp hwhole
    obtain ⟨y, hy, rfl⟩ := whole?_eq_some.mp hwhole'
    obtain ⟨v, hv, hresult⟩ := apply_exact hx hy (hallows _ _ ha hb) hop' (hfits n hexact)
    exact ⟨v, eval_binary_eq_ok.mpr ⟨left, draws, hleft, right, hright, hv⟩, hresult⟩

end Trees

/-! ## Texts -/

/-- A text that reads as a tree of signs and of operators on integers: an integer it comes to is the
exact value of the tree, and it comes to the exact value if every result on the way fits.  `//` rounds
down and `%` leaves the rest; on two integers they fail at a zero divisor and for the least integer by
-1, and elsewhere they are what the machine computes, correction and all.  A power up to the greatest
exponent is what repeated multiplication gives, which overflows only where the power does. -/
theorem evaluate_whole {t : Text} {e : Expr}
    (hread : (Token.ofText? t).bind Expr.ofTokens? = some e) (he : e.IsWhole) (vars : Table Value)
    (draws : Draws) :
    (∀ n draws', evaluate vars t draws = .ok (.integer n, draws') → e.exactInt? vars = some n.toInt) ∧
    (∀ n, e.exactInt? vars = some n → e.Stays vars →
      ∃ v, evaluate vars t draws = .ok (v, draws) ∧ whole? v = some n) ∧
    (∀ a b : Int, b ≠ 0 → Floored a b (a.fdiv b) (a.fmod b)) ∧
    (∀ (left right : Value) (a b : Int64), left.int? = some a → right.int? = some b →
      (floorDivide left right).toOption = (checkedQuotient a b).map .integer ∧
      (modulo left right).toOption = (checkedRemainder a b).map .integer ∧
      (checkedQuotient a b = none ↔ NoQuotient a b) ∧
      (checkedRemainder a b = none ↔ NoQuotient a b) ∧
      (0 ≤ b.toInt → b.toInt ≤ maxExponent →
        (power left right).toOption = (checkedPower a b.toInt.toNat).map .integer ∧
        checkedPower a b.toInt.toNat = Integer.ofInt? (a.toInt ^ b.toInt.toNat))) := by
  have heval : ∀ v draws', evaluate vars t draws = .ok (v, draws') ↔
      e.eval vars draws = .ok (v, draws') := fun v draws' => evaluate_eq_ok_iff_of_read hread
  simp only [heval]
  refine ⟨fun n draws' h => ?_, fun n hexact hstays => eval_of_stays he hstays hexact,
    fun a b hb => Floored.fdiv_fmod a hb, fun left right a b hleft hright => ?_⟩
  · exact exact_of_eval he h rfl
  · -- on two integers the operators are the machine's own quotient and remainder
    have hdivide : floorDivide left right = floorDivideInts a b := numeric_of_ints hleft hright
    have hmodulo : modulo left right = moduloInts a b := numeric_of_ints hleft hright
    rw [hdivide, hmodulo]
    refine ⟨toOption_floorDivideInts a b, toOption_moduloInts a b, checkedQuotient_eq_none,
      checkedRemainder_eq_none, fun hsign hmost => ⟨?_, checkedPower_eq a _⟩⟩
    rw [power_of_ints hleft hright hsign, checkedPower_eq]
    exact powerInts_eq (by omega) a

/-- The least integer is a power of -2, although the power of 2 would be too large. -/
theorem evaluate_least_power :
    ∃ v, evaluate ∅ "(-2) ** 63".toList (.ofSeed 0) = .ok (v, .ofSeed 0) ∧
      whole? v = some Int64.minValue.toInt := by
  have hread : (Token.ofText? "(-2) ** 63".toList).bind Expr.ofTokens? =
      some (.binary .power (.unary .minus (.literal (.integer 2))) (.literal (.integer 63))) := by
    cbv
  refine (evaluate_whole hread ?_ ∅ (.ofSeed 0)).2.1 _ rfl ?_
  · exact .binary rfl (.unary (by decide) (.literal _)) (.literal _)
  · refine ⟨⟨trivial, fun n hn => ?_⟩, trivial, fun a b _ hb => ?_, fun n hn => ?_⟩
    · obtain rfl : -2 = n := Option.some.inj hn
      decide
    · obtain rfl : 63 = b := Option.some.inj hb
      show (63 : Int) ≤ maxExponent
      decide
    · obtain rfl : Int64.minValue.toInt = n := Option.some.inj hn
      decide

end LineScript.Arith
