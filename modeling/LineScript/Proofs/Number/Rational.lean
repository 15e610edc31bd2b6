import LineScript.Number.Binary64
import Mathlib

/-!
# The number that a floating-point number is

A finite floating-point number is a zero or `± m * 2 ^ q`, and only one pair `m`, `q` of those with the same
product is kept in its bits (`Canonical`): packing and unpacking are inverse on these forms
(`unpack_pack`, `ofModel_pack_unpack`). So a finite number is a rational number (`exact`), and two of them
compare as these do (`compares_exact`), although their significands and exponents are all that is compared.
-/

namespace LineScript.Binary64

open Float.Model (UnpackedFloat)
open Float.Model.UnpackedFloat (Sign packComponents)

variable {m n : Nat} {q r : Int} {s : Sign} {u v : UnpackedFloat}

/-! ## The form of a number -/

/-- The significands and exponents of the finite numbers: a significand has 53 bits, the first of which is
set unless the exponent is the least one. -/
structure Canonical (m : Nat) (q : Int) : Prop where
  pos : 0 < m
  lt : m < 2 ^ 53
  least : -1074 ≤ q
  greatest : q ≤ 971
  full : 2 ^ 52 ≤ m ∨ q = -1074

inductive IsNumber : UnpackedFloat → Prop where
  | zero (s : Sign) : IsNumber (.zero s)
  | finite (s : Sign) {m : Nat} {q : Int} (h : Canonical m q) : IsNumber (.finite s m q h.pos)

theorem toNat_normal (f : BitVec 52) : (1#1 ++ f).toNat = 2 ^ 52 + f.toNat := by
  rw [BitVec.toNat_append, Nat.shiftLeft_eq, Nat.mul_comm, ← Nat.two_pow_add_eq_or_of_lt f.isLt]
  rfl

theorem canonical_normal {e : Nat} (f : BitVec 52) (hbottom : e ≠ 0) (htop : e < 2047) :
    Canonical (1#1 ++ f).toNat (e - 1075) := by
  have hf := f.isLt
  rw [toNat_normal]
  exact ⟨by omega, by omega, by omega, by omega, .inl (by omega)⟩

theorem canonical_subnormal {f : BitVec 52} (hf : 0 < f.toNat) : Canonical f.toNat (-1074) :=
  ⟨hf, f.isLt.trans (by decide), le_rfl, by decide, .inr rfl⟩

theorem canonical_of_unpack {x : Float} {hm : 0 < m} (h : x.toModel.unpack = .finite s m q hm) :
    Canonical m q := by
  let e : BitVec 11 := @UnpackedFloat.unpackExponent .binary64 x.toModel.toBits.toBitVec
  let f : BitVec 52 := @UnpackedFloat.unpackMantissa .binary64 x.toModel.toBits.toBitVec
  -- the least exponent field is that of zeros and subnormal numbers, the greatest that of no numbers
  change (if e = -1#11 then (if f = 0#52 then _ else _) else if e = 0#11 then
    (if hzero : f = 0#52 then _
      else UnpackedFloat.finite _ f.toNat ((e.toNat : Int) - 1075 + 1) _)
    else UnpackedFloat.finite _ (1#1 ++ f).toNat ((e.toNat : Int) - 1075) _) = _ at h
  by_cases htop : e = -1#11
  · rw [if_pos htop] at h
    by_cases hzero : f = 0#52
    · rw [if_pos hzero] at h
      cases h
    · rw [if_neg hzero] at h
      cases h
  · rw [if_neg htop] at h
    by_cases hbottom : e = 0#11
    · rw [if_pos hbottom] at h
      by_cases hzero : f = 0#52
      · rw [dif_pos hzero] at h
        cases h
      · rw [dif_neg hzero, hbottom] at h
        cases h
        exact canonical_subnormal hm
    · rw [if_neg hbottom] at h
      have hlt := e.isLt
      have htop : e.toNat ≠ 2047 := fun heq => htop (BitVec.eq_of_toNat_eq heq)
      cases h
      exact canonical_normal f (fun heq => hbottom (BitVec.eq_of_toNat_eq heq)) (by omega)

theorem isNumber_of_isFinite {x : Float} (hx : x.isFinite) : IsNumber x.toModel.unpack := by
  change x.toModel.unpack.isFinite = true at hx
  cases hunpack : x.toModel.unpack with
  | infinity s => rw [hunpack] at hx; cases hx
  | notANumber => rw [hunpack] at hx; cases hx
  | zero s => exact .zero s
  | finite s m q hm => exact .finite s (canonical_of_unpack hunpack)

/-! ## Packed and unpacked -/

theorem unpack_packComponents (s : Sign) (e : BitVec 11) (f : BitVec 52) :
    UnpackedFloat.unpack .binary64 (packComponents .binary64 s e f) =
      if e = -1#11 then if f = 0#52 then .infinity s else .notANumber
      else if e = 0#11 then
        if h : f = 0#52 then .zero s
        else .finite s f.toNat ((e.toNat : Int) - 1075 + 1)
          (Nat.pos_of_ne_zero fun hzero => h (BitVec.eq_of_toNat_eq hzero))
      else .finite s (1#1 ++ f).toNat ((e.toNat : Int) - 1075) (by rw [toNat_normal]; omega) := by
  have hexponent : UnpackedFloat.unpackExponent (packComponents .binary64 s e f) = e :=
    UnpackedFloat.unpackExponent_packComponents
  have hmantissa : UnpackedFloat.unpackMantissa (packComponents .binary64 s e f) = f :=
    UnpackedFloat.unpackMantissa_packComponents
  have hsign : Sign.ofBitVec (UnpackedFloat.unpackSign (packComponents .binary64 s e f)) = s := by
    rw [UnpackedFloat.unpackSign_packComponents, Sign.ofBitVec_toBitVec]
  simp only [UnpackedFloat.unpack, hexponent, hmantissa, hsign]
  rfl

theorem pack_finite (s : Sign) (h : Canonical m q) :
    UnpackedFloat.pack .binary64 (.finite s m q h.pos) =
      if 2 ^ 52 ≤ m then
        packComponents .binary64 s (BitVec.ofNat 11 (q + 1075).toNat) (BitVec.ofNat 52 m)
      else packComponents .binary64 s 0#11 (BitVec.ofNat 52 m) := by
  obtain ⟨hpos, hlt, hleast, hgreatest, -⟩ := h
  have hpack : UnpackedFloat.pack .binary64 (.finite s m q hpos) =
      if 2 ^ 11 ≤ (q + 1023 + 52).toNat + 1 then UnpackedFloat.packedInfinity .binary64 s
      else if m.log2 + 1 = 53 then
        packComponents .binary64 s (BitVec.ofNat 11 (q + 1023 + 52).toNat) (BitVec.ofNat 52 m)
      else packComponents .binary64 s 0#11 (BitVec.ofNat 52 m) := rfl
  have hbias : q + 1023 + 52 = q + 1075 := by omega
  rw [hpack, hbias, if_neg (by omega)]
  by_cases hfull : 2 ^ 52 ≤ m
  · have hlog : m.log2 = 52 := (Nat.log2_eq_iff (by omega)).mpr ⟨hfull, hlt⟩
    rw [if_pos hfull, if_pos (by omega)]
  · have hlog : m.log2 < 52 := (Nat.log2_lt (by omega)).mpr (by omega)
    rw [if_neg hfull, if_neg (by omega)]

theorem unpack_pack_finite (s : Sign) (h : Canonical m q) :
    (Float.Model.pack (.finite s m q h.pos)).unpack = .finite s m q h.pos := by
  obtain ⟨b, hb⟩ : ∃ b, (q + 1075).toNat = b := ⟨_, rfl⟩
  show UnpackedFloat.unpack .binary64 (UnpackedFloat.pack .binary64 (.finite s m q h.pos)) = _
  rw [pack_finite s h, hb]
  obtain ⟨hpos, hlt, hleast, hgreatest, hfull⟩ := h
  by_cases hnormal : 2 ^ 52 ≤ m
  · have he : (BitVec.ofNat 11 b).toNat = b := Nat.mod_eq_of_lt (by omega)
    have hne : ∀ {c : BitVec 11}, b ≠ c.toNat → BitVec.ofNat 11 b ≠ c := by
      rintro c hbc rfl
      exact hbc he.symm
    -- the field is neither that of infinities nor that of zeros
    have htop : b ≠ (-1#11).toNat := by
      have hnat : (-1#11).toNat = 2047 := rfl
      omega
    have hbottom : b ≠ (0#11).toNat := by
      have hnat : (0#11).toNat = 0 := rfl
      omega
    have hf : (1#1 ++ BitVec.ofNat 52 m).toNat = m := by
      rw [toNat_normal, BitVec.toNat_ofNat]
      omega
    rw [if_pos hnormal, unpack_packComponents, if_neg (hne htop), if_neg (hne hbottom)]
    congr
    omega
  · have hf : (BitVec.ofNat 52 m).toNat = m := Nat.mod_eq_of_lt (by omega)
    have hne : BitVec.ofNat 52 m ≠ 0#52 := fun heq => by
      have hnat := congrArg BitVec.toNat heq
      rw [hf] at hnat
      exact Nat.ne_of_gt hpos hnat
    rw [if_neg hnormal, unpack_packComponents, if_neg (by decide), if_pos rfl, dif_neg hne]
    congr
    exact (hfull.resolve_left hnormal).symm

theorem unpack_pack (h : IsNumber u) : (Float.Model.pack u).unpack = u := by
  cases h with
  | zero s => cases s <;> rfl
  | finite s h => exact unpack_pack_finite s h

theorem ofModel_pack_unpack (x : Float) : .ofModel (.pack x.toModel.unpack) = x := Float.ofBits_toBits x

theorem isFinite_of_isNumber (h : IsNumber u) : (Float.ofModel (.pack u)).isFinite := by
  show (Float.Model.pack u).unpack.isFinite = true
  rw [unpack_pack h]
  cases h <;> rfl

/-! ## The rational number -/

def rational : UnpackedFloat → ℚ
  | .finite s m q _ => s.apply m * 2 ^ q
  | _ => 0

/-- The number that a finite floating-point number is. -/
def exact (x : Float) : ℚ := rational x.toModel.unpack

theorem rational_positive (hm : 0 < m) : rational (.finite .positive m q hm) = m * 2 ^ q := by
  rw [rational, Sign.apply, Int.cast_natCast]

theorem rational_negative (hm : 0 < m) : rational (.finite .negative m q hm) = -(m * 2 ^ q) := by
  rw [rational, Sign.apply, Int.cast_neg, Int.cast_natCast, neg_mul]

theorem rational_zero (s : Sign) : rational (.zero s) = 0 := rfl

theorem exact_pack (h : IsNumber u) : exact (.ofModel (.pack u)) = rational u :=
  congrArg rational (unpack_pack h)

/-- The rational numbers with a significand of 53 bits and no exponent below the least one. -/
def Representable (y : ℚ) : Prop :=
  ∃ (k : Int) (e : Int), |k| < 2 ^ 53 ∧ -1074 ≤ e ∧ y = k * 2 ^ e

theorem Representable.neg {y : ℚ} (h : Representable y) : Representable (-y) := by
  obtain ⟨k, e, hk, he, rfl⟩ := h
  exact ⟨-k, e, by rwa [abs_neg], he, by rw [Int.cast_neg, neg_mul]⟩

theorem representable_rational (h : IsNumber u) : Representable (rational u) := by
  cases h with
  | zero s => exact ⟨0, 0, by decide, by decide, by rw [rational_zero, Int.cast_zero, zero_mul]⟩
  | @finite s m q h =>
    have hnat : Representable (m * 2 ^ q) :=
      ⟨m, q, by rw [Nat.abs_cast]; exact_mod_cast h.lt, h.least, by rw [Int.cast_natCast]⟩
    cases s with
    | positive => rwa [rational_positive]
    | negative =>
      rw [rational_negative]
      exact hnat.neg

theorem representable_exact {x : Float} (hx : x.isFinite) : Representable (exact x) :=
  representable_rational (isNumber_of_isFinite hx)

/-! ## The order -/

theorem Canonical.lt_of_exponent_lt (hm : Canonical m q) (hn : Canonical n r) (h : q < r) :
    (m : ℚ) * 2 ^ q < n * 2 ^ r := by
  have hfull : 2 ^ 52 ≤ n := by
    refine hn.full.resolve_right ?_
    have hleast := hm.least
    omega
  have hlt : (m : ℚ) < 2 ^ 53 := by exact_mod_cast hm.lt
  have hle : (2 : ℚ) ^ 52 ≤ n := by exact_mod_cast hfull
  calc (m : ℚ) * 2 ^ q
      < 2 ^ 53 * 2 ^ q := by gcongr
    _ = 2 ^ 52 * 2 ^ (q + 1) := by rw [zpow_add_one₀ (by norm_num)]; ring
    _ ≤ n * 2 ^ r := by
        gcongr
        · norm_num
        · omega

theorem Canonical.compares (hm : Canonical m q) (hn : Canonical n r) :
    ((compare q r).then (compare m n)).Compares ((m : ℚ) * 2 ^ q) (n * 2 ^ r) := by
  rcases lt_trichotomy q r with hlt | rfl | hgt
  · rw [compare_lt_iff_lt.mpr hlt]
    exact hm.lt_of_exponent_lt hn hlt
  · have hscale : StrictMono fun k : ℕ => (k : ℚ) * 2 ^ q := by
      intro j k hjk
      have hlt : (j : ℚ) < k := by exact_mod_cast hjk
      beta_reduce
      gcongr
    rw [compare_eq_iff_eq.mpr rfl, Ordering.eq_then, ← cmp_eq_compare]
    exact hscale.compares.mpr (cmp_compares m n)
  · rw [compare_gt_iff_gt.mpr hgt]
    exact hn.lt_of_exponent_lt hm hgt

/-- Two numbers have an order, and it is that of the rational numbers. -/
theorem compares_rational (hu : IsNumber u) (hv : IsNumber v) :
    ∃ o, u.compare v = some o ∧ o.Compares (rational u) (rational v) := by
  have hpos : ∀ {m : Nat} {q : Int}, Canonical m q → (0 : ℚ) < m * 2 ^ q := by
    intro m q h
    have hm : (0 : ℚ) < m := by exact_mod_cast h.pos
    positivity
  cases hu with
  | zero s =>
    cases hv with
    | zero t => exact ⟨.eq, rfl, rfl⟩
    | finite t hn =>
      cases t with
      | positive => exact ⟨.lt, rfl, by rw [rational_positive]; exact hpos hn⟩
      | negative => exact ⟨.gt, rfl, by rw [rational_negative]; exact neg_neg_of_pos (hpos hn)⟩
  | finite s hm =>
    cases hv with
    | zero t =>
      cases s with
      | positive => exact ⟨.gt, rfl, by rw [rational_positive]; exact hpos hm⟩
      | negative => exact ⟨.lt, rfl, by rw [rational_negative]; exact neg_neg_of_pos (hpos hm)⟩
    | finite t hn =>
      -- with one sign the magnitudes decide, otherwise the signs do
      cases s with
      | positive =>
        cases t with
        | positive =>
          refine ⟨_, rfl, ?_⟩
          rw [rational_positive, rational_positive]
          exact hm.compares hn
        | negative =>
          refine ⟨.gt, rfl, ?_⟩
          rw [rational_positive, rational_negative]
          exact (neg_neg_of_pos (hpos hn)).trans (hpos hm)
      | negative =>
        cases t with
        | positive =>
          refine ⟨.lt, rfl, ?_⟩
          rw [rational_positive, rational_negative]
          exact (neg_neg_of_pos (hpos hm)).trans (hpos hn)
        | negative =>
          refine ⟨_, rfl, ?_⟩
          rw [rational_negative, rational_negative, Ordering.compares_swap]
          exact StrictAnti.compares (fun _ _ => neg_lt_neg) |>.mpr (hm.compares hn)

theorem compare_exact {x y : Float} (hx : x.isFinite) (hy : y.isFinite) :
    x.toModel.compare y.toModel = some (compare (exact x) (exact y)) := by
  obtain ⟨o, hcompare, ho⟩ := compares_rational (isNumber_of_isFinite hx) (isNumber_of_isFinite hy)
  rw [Float.Model.compare, hcompare, ← cmp_eq_compare]
  exact congrArg some ho.cmp_eq.symm

end LineScript.Binary64
