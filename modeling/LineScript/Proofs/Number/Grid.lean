import LineScript.Proofs.Number.Brief
import LineScript.Proofs.Number.Nearest

/-!
# The points of a grid around a number

The shortest digits of a floating-point number are those of a point of a decimal grid that lies around it
(`around_ofBinary`): the last of the grids that are searched has a step of less than a quarter of the last
place of the number. What lies around the number is rounded to it, and to no other (`Around.settled_eq`).
-/

namespace LineScript

open Float.Model (UnpackedFloat)
open Float.Model.UnpackedFloat (Sign)
open Binary64 (Canonical TiesEven settled)

variable {m n R : Nat} {q k t : Int} {x v : ℚ}

namespace Shortest

/-- The numbers that are rounded to `m * 2 ^ q`, counted in its places: they are half a place away or less,
and a quarter below it where the places there are half as wide. The middles belong to even significands. -/
structure Around (m : Nat) (q : Int) (x : ℚ) : Prop where
  low : m - 1 / 2 ≤ x
  high : x ≤ m + 1 / 2
  narrow : narrowBelow m q = true → m - 1 / 4 ≤ x
  odd : ¬ Even m → m - 1 / 2 < x ∧ x < m + 1 / 2

theorem Around.eq_of_ties (h : Around m q x) (hties : TiesEven x R t) : R = m := by
  obtain ⟨hbelow, habove⟩ := abs_le.mp hties.near
  have hlow := h.low
  have hhigh := h.high
  by_contra hne
  -- another significand is as near only from the middle, which belongs to one of two that are both even
  rcases Nat.lt_or_gt_of_ne hne with hlt | hgt
  · have hle : ((R + 1 : ℕ) : ℚ) ≤ m := by exact_mod_cast hlt
    push_cast at hle
    have hmiddle : x = m - 1 / 2 := by linarith
    have heven : Even m := by
      by_contra hodd
      exact absurd hmiddle (h.odd hodd).1.ne'
    have hR : Even R := hties.even (by rw [abs_of_nonpos] <;> linarith)
    obtain rfl : m = R + 1 := by
      have hge : (m : ℚ) ≤ ((R + 1 : ℕ) : ℚ) := by push_cast; linarith
      exact Nat.le_antisymm (by exact_mod_cast hge) hlt
    exact Nat.even_add_one.mp heven hR
  · have hle : ((m + 1 : ℕ) : ℚ) ≤ R := by exact_mod_cast hgt
    push_cast at hle
    have hmiddle : x = m + 1 / 2 := by linarith
    have heven : Even m := by
      by_contra hodd
      exact absurd hmiddle (h.odd hodd).2.ne
    have hR : Even R := hties.even (by rw [abs_of_nonneg] <;> linarith)
    obtain rfl : R = m + 1 := by
      have hge : (R : ℚ) ≤ ((m + 1 : ℕ) : ℚ) := by push_cast; linarith
      exact Nat.le_antisymm (by exact_mod_cast hge) hgt
    exact Nat.even_add_one.mp hR heven

theorem div_smaller (v : ℚ) (t : Int) (d : Nat) :
    v / 2 ^ t = 2 ^ d * (2 * (v / 2 ^ (t + (d + 1)))) := by
  have hpos : (2 : ℚ) ^ t ≠ 0 := by positivity
  rw [zpow_add₀ (by norm_num), zpow_add_one₀ (by norm_num), zpow_natCast]
  field_simp

/-- A number with smaller places only comes up to the least of the full significands, with which the places
grow. -/
theorem Around.carry_of_ties (hm : Canonical m q) (h : Around m q (v / 2 ^ q))
    (hties : TiesEven (v / 2 ^ t) R t) (ht : t < q) : m = 2 ^ 52 ∧ q = t + 1 ∧ R = 2 ^ 53 := by
  have hleast := hties.least
  have hfull : 2 ^ 52 ≤ m := hm.full.resolve_right (by omega)
  obtain ⟨d, hd⟩ : ∃ d : Nat, q = t + (d + 1) := ⟨(q - t - 1).toNat, by omega⟩
  obtain ⟨x, hx⟩ : ∃ x, v / 2 ^ q = x := ⟨_, rfl⟩
  obtain ⟨y, hy⟩ : ∃ y, v / 2 ^ t = y := ⟨_, rfl⟩
  have hscale : y = 2 ^ d * (2 * x) := by rw [← hx, ← hy, hd, div_smaller]
  rw [hx] at h
  rw [hy] at hties
  have hhigh := hties.high
  have hone : (1 : ℚ) ≤ 2 ^ d := one_le_pow₀ (by norm_num)
  have hxpos : 0 ≤ x := by
    have hlow := h.low
    have hmq : (2 ^ 52 : ℚ) ≤ m := by exact_mod_cast hfull
    linarith
  have hdouble : 2 * x ≤ y := by
    rw [hscale]
    nlinarith
  -- any greater significand is too far above for smaller places
  have hm52 : m = 2 ^ 52 := by
    by_contra hne
    have hmq : ((2 ^ 52 + 1 : ℕ) : ℚ) ≤ m := by exact_mod_cast Nat.lt_of_le_of_ne hfull (Ne.symm hne)
    have hlow := h.low
    push_cast at hmq
    linarith
  subst hm52
  have hnarrow : narrowBelow (2 ^ 52) q = true := by
    refine Bool.and_eq_true_iff.mpr ⟨by decide, decide_eq_true ?_⟩
    show (-1074 : Int) < q
    omega
  have hlow := h.narrow hnarrow
  push_cast at hlow
  -- places half as wide reach there, but no smaller ones
  have hd0 : d = 0 := by
    by_contra hne
    have htwo : (2 : ℚ) ^ 1 ≤ 2 ^ d := pow_le_pow_right₀ (by norm_num) (by omega)
    rw [hscale] at hhigh
    nlinarith
  subst hd0
  refine ⟨rfl, by omega, ?_⟩
  rw [pow_zero, one_mul] at hscale
  obtain ⟨hbelow, habove⟩ := abs_le.mp hties.near
  have hle := hties.le
  by_contra hne
  have hR : ((R + 1 : ℕ) : ℚ) ≤ ((2 ^ 53 : ℕ) : ℚ) := by exact_mod_cast Nat.lt_of_le_of_ne hle hne
  push_cast at hR
  -- the last significand before the carry is odd, so that the middle goes up
  have heven : Even R := hties.even (by rw [abs_of_nonpos] <;> linarith)
  have hR53 : R = 2 ^ 53 - 1 := by
    have hge : ((2 ^ 53 : ℕ) : ℚ) ≤ ((R + 1 : ℕ) : ℚ) := by push_cast; linarith
    have hnat : 2 ^ 53 ≤ R + 1 := by exact_mod_cast hge
    omega
  rw [hR53] at heven
  exact absurd heven (by decide)

theorem Around.le_of_ties (hm : Canonical m q) (h : Around m q (v / 2 ^ q))
    (hties : TiesEven (v / 2 ^ t) R t) : t ≤ q := by
  by_contra hgt
  have hleast := hm.least
  have hfull := hties.full.resolve_right (by omega)
  have hhigh := h.high
  obtain ⟨d, hd⟩ : ∃ d : Nat, t = q + (d + 1) := ⟨(t - q - 1).toNat, by omega⟩
  have hone : (1 : ℚ) ≤ 2 ^ d := one_le_pow₀ (by norm_num)
  have hscale : v / 2 ^ q = 2 ^ d * (2 * (v / 2 ^ t)) := by rw [hd, div_smaller]
  have hlt : ((m + 1 : ℕ) : ℚ) ≤ ((2 ^ 53 : ℕ) : ℚ) := by exact_mod_cast hm.lt
  push_cast at hlt
  rw [hscale] at hhigh
  nlinarith

theorem Around.settled_eq (hm : Canonical m q) (h : Around m q (v / 2 ^ q))
    (hties : TiesEven (v / 2 ^ t) R t) (s : Sign) : settled s R t = .finite s m q hm.pos := by
  rcases (h.le_of_ties hm hties).lt_or_eq with hlt | rfl
  · obtain ⟨rfl, rfl, rfl⟩ := h.carry_of_ties hm hties hlt
    rfl
  · obtain rfl := h.eq_of_ties hties
    rw [settled, dif_neg hm.pos.ne', if_pos hm.lt]

/-! ## Grids -/

theorem zpow_eq_toNat {b : ℚ} (hb : b ≠ 0) (e : Int) : b ^ e * b ^ (-e).toNat = b ^ e.toNat := by
  rcases Int.le_total 0 e with hnonneg | hneg
  · have hzero : (-e).toNat = 0 := by omega
    obtain ⟨n, hn⟩ := Int.eq_ofNat_of_zero_le hnonneg
    rw [hzero, pow_zero, mul_one, hn, Int.toNat_natCast, zpow_natCast]
  · have hzero : e.toNat = 0 := by omega
    have hcast : (((-e).toNat : ℕ) : ℤ) = -e := by omega
    rw [hzero, pow_zero, ← zpow_natCast, hcast, ← zpow_add₀ hb, add_neg_cancel, zpow_zero]

theorem point_eq (n : Nat) (q k : Int) :
    (n : ℚ) * 10 ^ k / 2 ^ q * (4 * ((2 ^ (q - 2).toNat * 10 ^ (-k).toNat : ℕ) : ℚ)) =
      n * ((10 ^ k.toNat * 2 ^ (2 - q).toNat : ℕ) : ℚ) := by
  have hten := zpow_eq_toNat (b := 10) (by norm_num) k
  have htwo := zpow_eq_toNat (b := 2) (by norm_num) (q - 2)
  have hneg : -(q - 2) = 2 - q := by omega
  have hquarter : (2 : ℚ) ^ q = 4 * 2 ^ (q - 2) := by
    rw [zpow_sub₀ (by norm_num)]
    norm_num
    ring
  have hpos : (2 : ℚ) ^ (q - 2) ≠ 0 := by positivity
  rw [hneg] at htwo
  push_cast
  rw [← hten, ← htwo, hquarter]
  field_simp

/-- The interval that a grid is searched for is around the number. -/
theorem around_of_inside (hm : 0 < m)
    (h : inside (m % 2 == 0)
      ((if narrowBelow m q then 4 * m - 1 else 4 * m - 2) * (2 ^ (q - 2).toNat * 10 ^ (-k).toNat))
      ((4 * m + 2) * (2 ^ (q - 2).toNat * 10 ^ (-k).toNat))
      (10 ^ k.toNat * 2 ^ (2 - q).toNat) n = true) :
    Around m q (n * 10 ^ k / 2 ^ q) := by
  have hpoint := point_eq n q k
  obtain ⟨x, hx⟩ : ∃ x, (n : ℚ) * 10 ^ k / 2 ^ q = x := ⟨_, rfl⟩
  have hQ : 0 < 2 ^ (q - 2).toNat * 10 ^ (-k).toNat := by positivity
  rw [hx] at hpoint ⊢
  generalize 2 ^ (q - 2).toNat * 10 ^ (-k).toNat = Q at h hpoint hQ
  generalize 10 ^ k.toNat * 2 ^ (2 - q).toNat = U at h hpoint
  have hQ : (0 : ℚ) < Q := by exact_mod_cast hQ
  have hscale : (n : ℚ) * U = 4 * x * Q := by rw [← hpoint]; ring
  -- a bound in quarters is one in places
  have hbelow : ∀ c : ℕ, c * Q ≤ n * U ↔ (c : ℚ) ≤ 4 * x := by
    intro c
    rw [← Nat.cast_le (α := ℚ), Nat.cast_mul, Nat.cast_mul, hscale, mul_le_mul_iff_left₀ hQ]
  have habove : ∀ c : ℕ, n * U ≤ c * Q ↔ 4 * x ≤ (c : ℚ) := by
    intro c
    rw [← Nat.cast_le (α := ℚ), Nat.cast_mul, Nat.cast_mul, hscale, mul_le_mul_iff_left₀ hQ]
  have htwo : ((4 * m - 2 : ℕ) : ℚ) = 4 * m - 2 := by
    rw [Nat.cast_sub (by omega)]
    push_cast
    ring
  have hone : ((4 * m - 1 : ℕ) : ℚ) = 4 * m - 1 := by
    rw [Nat.cast_sub (by omega)]
    push_cast
    ring
  unfold inside at h
  by_cases heven : Even m
  · have hclosed : (m % 2 == 0) = true := beq_iff_eq.mpr (Nat.even_iff.mp heven)
    rw [hclosed, if_pos rfl, Bool.and_eq_true_iff, decide_eq_true_eq, decide_eq_true_eq, hbelow,
      habove] at h
    obtain ⟨hlow, hhigh⟩ := h
    push_cast at hhigh
    refine ⟨?_, by linarith, fun hnarrow => ?_, fun hodd => absurd heven hodd⟩
    · split at hlow
      · linarith
      · linarith
    · rw [if_pos hnarrow, hone] at hlow
      linarith
  · have hopen : (m % 2 == 0) = false := beq_eq_false_iff_ne.mpr fun h => heven (Nat.even_iff.mpr h)
    have hwide : narrowBelow m q = false := by
      refine Bool.and_eq_false_iff.mpr (.inl (beq_eq_false_iff_ne.mpr ?_))
      rintro rfl
      exact heven (by decide)
    rw [hopen, hwide, if_neg Bool.false_ne_true, if_neg Bool.false_ne_true, Bool.and_eq_true_iff,
      decide_eq_true_eq, decide_eq_true_eq, ← not_le, ← not_le, habove, hbelow, htwo, not_le,
      not_le] at h
    obtain ⟨hlow, hhigh⟩ := h
    push_cast at hhigh
    refine ⟨by linarith, by linarith, fun hnarrow => absurd hnarrow (by rw [hwide]; decide),
      fun _ => ⟨by linarith, by linarith⟩⟩

theorem around_of_onGrid {tie : Tie} (hm : 0 < m) (h : onGrid tie m q k = some n) :
    Around m q (n * 10 ^ k / 2 ^ q) := by
  refine around_of_inside hm ?_
  unfold onGrid at h
  extract_lets quarter unit value low high closed base at h
  split at h
  · next hfirst _ =>
    rw [← Option.some.inj h]
    exact hfirst
  · next hsecond =>
    rw [← Option.some.inj h]
    exact hsecond
  · cases h
  · next hfirst hsecond =>
    -- both points are inside, whichever of them is nearer
    split at h <;> rw [← Option.some.inj h]
    · exact hfirst
    · exact hsecond
    · exact hsecond
    · rcases Nat.mod_two_eq_zero_or_one base with hbit | hbit
      · rw [hbit]
        exact hfirst
      · rw [hbit]
        exact hsecond

theorem Around.pos (h : Around m q x) (hm : 0 < m) : 0 < x := by
  have hone : (1 : ℚ) ≤ m := by exact_mod_cast hm
  have hlow := h.low
  linarith

theorem inside_of_lt {closed : Bool} {low high unit : Nat} (hlow : low < n * unit)
    (hhigh : n * unit < high) : inside closed low high unit n = true := by
  unfold inside
  split
  · exact Bool.and_eq_true_iff.mpr ⟨decide_eq_true hlow.le, decide_eq_true hhigh.le⟩
  · exact Bool.and_eq_true_iff.mpr ⟨decide_eq_true hlow, decide_eq_true hhigh⟩

/-- A grid whose step is less than a quarter of a place has a point inside. -/
theorem exists_onGrid {tie : Tie} (hm : 0 < m)
    (hstep : 10 ^ k.toNat * 2 ^ (2 - q).toNat < 2 ^ (q - 2).toNat * 10 ^ (-k).toNat) :
    ∃ n, onGrid tie m q k = some n := by
  unfold onGrid
  extract_lets quarter unit value low high closed base
  have hstep : unit < quarter := hstep
  have hvalue : value = 4 * m * quarter := rfl
  have hbase : base * unit ≤ value := Nat.div_mul_le_self value unit
  have hunit : 0 < unit := Nat.mul_pos (Nat.pow_pos (by decide)) (Nat.pow_pos (by decide))
  have hnext : value < base * unit + unit := Nat.lt_div_mul_add hunit
  have hinside : inside closed low high unit base = true := by
    -- the lower end is a quarter below the number or more
    have hlow : low < base * unit := by
      have hend : low ≤ (4 * m - 1) * quarter := Nat.mul_le_mul_right _ (by split <;> omega)
      rw [Nat.sub_one_mul, ← hvalue] at hend
      have hquarter : quarter ≤ value := Nat.le_mul_of_pos_left _ (by omega)
      omega
    have hhigh : base * unit < high := by
      have hend : high = value + 2 * quarter := Nat.add_mul (4 * m) 2 quarter
      omega
    exact inside_of_lt hlow hhigh
  rw [hinside]
  cases inside closed low high unit (base + 1) with
  | false => exact ⟨base, rfl⟩
  | true =>
    simp only
    split <;> exact ⟨_, rfl⟩

/-! ## The search -/

theorem exists_search (tie : Tie) {steps j : Nat} (hj : j < steps)
    (h : ∃ n, onGrid tie m q (k - j) = some n) :
    ∃ d, search tie m q steps k = some d ∧ k - j ≤ d.exponent := by
  induction steps generalizing k j with
  | zero => exact absurd hj (Nat.not_lt_zero j)
  | succ steps ih =>
    unfold search
    cases hgrid : onGrid tie m q k with
    | some n => exact ⟨⟨n, k⟩, rfl, Int.sub_le_self k (Int.natCast_nonneg j)⟩
    | none =>
      cases j with
      | zero =>
        obtain ⟨n, hn⟩ := h
        rw [Nat.cast_zero, sub_zero, hgrid] at hn
        cases hn
      | succ j =>
        have hnext : k - 1 - j = k - (j + 1 : ℕ) := by omega
        rw [← hnext] at h ⊢
        exact ih (Nat.lt_of_succ_lt_succ hj) h

/-- A power of ten has less than `196 / 59` bits for each of its zeros, and more than `93 / 28`. -/
theorem ten_pow_lt {j e : Nat} (h : 196 * j < 59 * e) : 10 ^ j < 2 ^ e := by
  refine lt_of_pow_lt_pow_left₀ 59 (Nat.zero_le _) ?_
  calc (10 ^ j) ^ 59 = (10 ^ 59) ^ j := pow_right_comm ..
    _ ≤ (2 ^ 196) ^ j := Nat.pow_le_pow_left (by decide) j
    _ = 2 ^ (196 * j) := (pow_mul ..).symm
    _ < 2 ^ (59 * e) := Nat.pow_lt_pow_right (by decide) h
    _ = (2 ^ e) ^ 59 := by rw [Nat.mul_comm, pow_mul]

theorem lt_ten_pow {j e : Nat} (h : 28 * e < 93 * j) : 2 ^ e < 10 ^ j := by
  refine lt_of_pow_lt_pow_left₀ 28 (Nat.zero_le _) ?_
  calc (2 ^ e) ^ 28 = 2 ^ (28 * e) := by rw [Nat.mul_comm, pow_mul]
    _ < 2 ^ (93 * j) := Nat.pow_lt_pow_right (by decide) h
    _ = (2 ^ 93) ^ j := pow_mul ..
    _ ≤ (10 ^ 28) ^ j := Nat.pow_le_pow_left (by decide) j
    _ = (10 ^ j) ^ 28 := pow_right_comm ..

theorem step_lt (hm : Canonical m q) :
    10 ^ (topExponent m q - 19).toNat * 2 ^ (2 - q).toNat <
      2 ^ (q - 2).toNat * 10 ^ (-(topExponent m q - 19)).toNat := by
  have hlog : m.log2 < 53 := (Nat.log2_lt hm.pos.ne').mpr hm.lt
  have hleast := hm.least
  have hgreatest := hm.greatest
  obtain ⟨k, hk⟩ : ∃ k, topExponent m q - 19 = k := ⟨_, rfl⟩
  rw [hk]
  rw [topExponent] at hk
  rcases Int.lt_or_le k 0 with hneg | hnonneg
  · have hzero : k.toNat = 0 := by omega
    have hlt := lt_ten_pow (e := (2 - q).toNat) (j := (-k).toNat) (by omega)
    rw [hzero, pow_zero, Nat.one_mul]
    exact hlt.trans_le (Nat.le_mul_of_pos_left _ (Nat.two_pow_pos _))
  · have hlt := ten_pow_lt (j := k.toNat) (e := (q - 2).toNat) (by omega)
    have hzero : (2 - q).toNat = 0 := by omega
    rw [hzero, pow_zero, Nat.mul_one]
    exact hlt.trans_le (Nat.le_mul_of_pos_right _ (Nat.pow_pos (by decide)))

/-- The shortest digits are those of a point around the number. -/
theorem around_ofBinary (tie : Tie) (hm : Canonical m q) :
    Around m q ((ofBinary tie m q).digits * 10 ^ (ofBinary tie m q).exponent / 2 ^ q) := by
  obtain ⟨d, hd, -⟩ := exists_search tie (k := topExponent m q) (by decide : 19 < 20)
    (exists_onGrid hm.pos (step_lt hm))
  obtain ⟨-, -, hgrid⟩ := exists_onGrid_of_search hd
  rw [ofBinary, hd, Option.getD_some]
  exact around_of_onGrid hm.pos hgrid

end Shortest

end LineScript
