import LineScript.Proofs.Number.Reread

/-!
# The text of an integral number

The shortest digits of a great number need not be its own. Below `10 ^ 16` the places of a number are so
small that no other integer is a point of a grid around it (`Shortest.onGrid_integral`), so that the text of
an integral number has all its digits and a single zero behind the point (`Layout.text_of_integral`).
-/

namespace LineScript

open Binary64 (Canonical exact isNumber_of_isFinite rational_positive rational_negative)

variable {m n c : Nat} {q k : Int}

namespace Shortest

variable {tie : Tie}

theorem onGrid_zero (hm : 0 < m) (h : (m : ℚ) * 2 ^ q = n) : onGrid tie m q 0 = some n := by
  have hpoint := point_eq n q 0
  have hplaces : (2 : ℚ) ^ q ≠ 0 := by positivity
  rw [zpow_zero, mul_one, ← h, mul_div_cancel_right₀ _ hplaces, h] at hpoint
  unfold onGrid
  extract_lets quarter unit value low high closed base
  have hunit : 0 < unit := Nat.mul_pos (Nat.pow_pos (by decide)) (Nat.pow_pos (by decide))
  have hquarter : 0 < quarter := Nat.mul_pos (Nat.pow_pos (by decide)) (Nat.pow_pos (by decide))
  have hvalue : value = n * unit := by
    have hcast : (m : ℚ) * (4 * (quarter : ℕ)) = n * (unit : ℕ) := hpoint
    show 4 * m * quarter = n * unit
    have hnat : m * (4 * quarter) = n * unit := by exact_mod_cast hcast
    rw [← hnat]
    ring
  have hbase : base = n := by
    show value / unit = n
    rw [hvalue, Nat.mul_div_cancel n hunit]
  have hinside : inside closed low high unit base = true := by
    have hlow : low < n * unit := by
      have hend : low ≤ (4 * m - 1) * quarter := Nat.mul_le_mul_right _ (by split <;> omega)
      have hnear : (4 * m - 1) * quarter < 4 * m * quarter :=
        Nat.mul_lt_mul_of_pos_right (by omega) hquarter
      exact hvalue ▸ hend.trans_lt hnear
    have hhigh : n * unit < high :=
      hvalue ▸ Nat.mul_lt_mul_of_pos_right (Nat.lt_add_of_pos_right (by decide)) hquarter
    rw [hbase]
    exact inside_of_lt hlow hhigh
  rw [hinside]
  cases inside closed low high unit (base + 1) with
  | false => exact congrArg some hbase
  | true =>
    -- nothing is left of the number, so that the point below it is the nearer one
    have hrest : compare (2 * (value % unit)) unit = .lt := by
      rw [hvalue, Nat.mul_mod_left]
      exact compare_lt_iff_lt.mpr hunit
    simp only [hrest]
    exact congrArg some hbase

/-- On a coarser grid too no other integer is around an integral number of sixteen digits. -/
theorem onGrid_integral (hm : Canonical m q) (h : (m : ℚ) * 2 ^ q = n) (hn : n < 10 ^ 16) {e : Nat}
    (hgrid : onGrid tie m q e = some c) : c * 10 ^ e = n := by
  cases e with
  | zero =>
    rw [Nat.cast_zero, onGrid_zero hm.pos h] at hgrid
    rw [pow_zero, Nat.mul_one, Option.some.inj hgrid]
  | succ e =>
    obtain ⟨hlow, hhigh, -, -⟩ := around_of_onGrid hm.pos hgrid
    have hplaces : (0 : ℚ) < 2 ^ q := by positivity
    obtain ⟨p, hp⟩ : ∃ p, c * 10 ^ (e + 1) = p := ⟨_, rfl⟩
    have hpoint : (c : ℚ) * 10 ^ ((e + 1 : ℕ) : ℤ) = p := by
      rw [← hp, zpow_natCast]
      push_cast
      rfl
    rw [hpoint, le_div_iff₀ hplaces, sub_mul, h] at hlow
    rw [hpoint, div_le_iff₀ hplaces, add_mul, h] at hhigh
    rw [hp]
    -- sixteen digits take 54 bits at most, so that the places are no wider than two
    have hq : q ≤ 1 := by
      by_contra hgt
      have hfull : (2 : ℚ) ^ 52 ≤ m := by exact_mod_cast hm.full.resolve_right (by omega)
      have hn : (n : ℚ) < 10 ^ 16 := by exact_mod_cast hn
      have hfour : (2 : ℚ) ^ (2 : ℤ) ≤ 2 ^ q := zpow_le_zpow_right₀ (by norm_num) (by omega)
      norm_num at hfour
      nlinarith
    rcases hq.lt_or_eq with hlt | rfl
    · -- the places are those of halves and smaller
      have hone : (2 : ℚ) ^ q ≤ 2 ^ (0 : ℤ) := zpow_le_zpow_right₀ (by norm_num) (by omega)
      rw [zpow_zero] at hone
      have hle : (p : ℚ) < (n + 1 : ℕ) := by push_cast; linarith
      have hge : (n : ℚ) < (p + 1 : ℕ) := by push_cast; linarith
      have hle : p < n + 1 := by exact_mod_cast hle
      have hge : n < p + 1 := by exact_mod_cast hge
      omega
    · -- both are even, and they differ by one at most
      rw [zpow_one] at h hlow hhigh
      have hle : (p : ℚ) ≤ (n + 1 : ℕ) := by push_cast; linarith
      have hge : (n : ℚ) ≤ (p + 1 : ℕ) := by push_cast; linarith
      have hle : p ≤ n + 1 := by exact_mod_cast hle
      have hge : n ≤ p + 1 := by exact_mod_cast hge
      have hdouble : m * 2 = n := by exact_mod_cast h
      have htens : c * 10 ^ e * 10 = p := by rw [← hp, pow_succ, Nat.mul_assoc]
      omega

/-- The shortest digits of an integral number of sixteen digits are its own. -/
theorem ofBinary_integral (tie : Tie) (hm : Canonical m q) (h : (m : ℚ) * 2 ^ q = n) (hn : n < 10 ^ 16) :
    ∃ e : Nat, (ofBinary tie m q).exponent = e ∧ (ofBinary tie m q).digits * 10 ^ e = n := by
  -- the search starts on a grid of whole numbers, and comes to the units in time
  have hlow : 0 < (m.log2 : ℤ) + 1 + q := by
    have hone : (1 : ℚ) ≤ n := by
      have hpos : (0 : ℚ) < m * 2 ^ q := by
        have hmq : (0 : ℚ) < m := by exact_mod_cast hm.pos
        positivity
      rw [h] at hpos
      exact_mod_cast hpos
    have hlt : (m : ℚ) < 2 ^ (m.log2 + 1) := by exact_mod_cast Nat.lt_log2_self
    have hpower : (2 : ℚ) ^ (0 : ℤ) < 2 ^ ((m.log2 : ℤ) + 1 + q) := by
      calc (2 : ℚ) ^ (0 : ℤ) ≤ m * 2 ^ q := by rw [zpow_zero, h]; exact hone
        _ < 2 ^ (m.log2 + 1) * 2 ^ q := by gcongr
        _ = 2 ^ ((m.log2 : ℤ) + 1 + q) := by
          rw [zpow_add₀ (by norm_num), ← zpow_natCast, Nat.cast_add, Nat.cast_one]
    exact (zpow_lt_zpow_iff_right₀ (by norm_num)).mp hpower
  have hhigh : (m.log2 : ℤ) + q < 54 := by
    have hle : (2 : ℚ) ^ m.log2 ≤ m := by exact_mod_cast Nat.log2_self_le hm.pos.ne'
    have hpower : (2 : ℚ) ^ ((m.log2 : ℤ) + q) < 2 ^ (54 : ℤ) := by
      calc (2 : ℚ) ^ ((m.log2 : ℤ) + q) = 2 ^ m.log2 * 2 ^ q := by
            rw [zpow_add₀ (by norm_num), zpow_natCast]
        _ ≤ m * 2 ^ q := by gcongr
        _ < 10 ^ 16 := by rw [h]; exact_mod_cast hn
        _ < 2 ^ (54 : ℤ) := by norm_num
    exact (zpow_lt_zpow_iff_right₀ (by norm_num)).mp hpower
  obtain ⟨j, hj⟩ : ∃ j : Nat, topExponent m q = j := by
    refine ⟨(topExponent m q).toNat, ?_⟩
    rw [topExponent]
    omega
  have hsteps : j < 20 := by
    rw [topExponent] at hj
    omega
  obtain ⟨d, hd, hexponent⟩ := exists_search tie (m := m) (q := q) (k := topExponent m q) hsteps
    ⟨n, by rw [hj, sub_self]; exact onGrid_zero hm.pos h⟩
  obtain ⟨-, -, hgrid⟩ := exists_onGrid_of_search hd
  rw [hj, sub_self] at hexponent
  obtain ⟨e, he⟩ := Int.eq_ofNat_of_zero_le hexponent
  rw [he] at hgrid
  rw [ofBinary, hd, Option.getD_some]
  exact ⟨e, he, onGrid_integral hm h hn hgrid⟩

end Shortest

namespace Layout

theorem decimal_integral {layout : Layout} (hfrom : layout.plainFrom ≤ 0) (hbelow : 16 ≤ layout.plainBelow)
    {d : Shortest.Decimal} {e : Nat} (he : d.exponent = e) (hd : 0 < d.digits)
    (hn : d.digits * 10 ^ e < 10 ^ 16) :
    layout.decimal d = Nat.toDigits 10 (d.digits * 10 ^ e) ++ ['.', '0'] := by
  obtain ⟨z, hcut, hlength⟩ := exists_significant d.digits
  have hwhole := Integer.toDigits_mul_pow hd e
  have hfew : (significant d.digits).length + z + e ≤ 16 := by
    have hdigits := Nat.toDigits_length 10 _ 16 (by decide) hn
    rw [hwhole, hcut] at hdigits
    simpa [Nat.add_assoc] using hdigits
  have hsome : 0 < (toString d.digits).length := by
    rw [← String.length_toList, toList_natText]
    exact List.length_pos_iff.mpr Nat.toDigits_ne_nil
  obtain ⟨lead, hlead⟩ : ∃ lead, d.exponent + (toString d.digits).length - 1 = lead := ⟨_, rfl⟩
  have hzeros : lead.toNat + 1 - (significant d.digits).length = z + e := by omega
  unfold decimal
  simp only [hlead]
  rw [if_pos ⟨by omega, by omega⟩, positional_of_length_le (by omega) (by omega), hzeros, hwhole, hcut,
    List.replicate_add, List.append_assoc (significant d.digits) _ (List.replicate e '0')]

/-- An integral number below `10 ^ 16` is written with its digits and one zero behind the point; the zero of
negative sign has its sign. -/
theorem text_of_integral {x : Float} (hx : x.isFinite) {i : Int} (hi : exact x = i)
    (hsmall : i.natAbs < 10 ^ 16) :
    display.text x = toString i ++ ".0" ∨ i = 0 ∧ display.text x = "-0.0" := by
  have hnumber := isNumber_of_isFinite hx
  have hlaid : ∀ {m : Nat} {q : Int} {n : Nat}, Canonical m q → (m : ℚ) * 2 ^ q = n → n < 10 ^ 16 →
      display.decimal (Shortest.ofBinary display.tie m q) = Nat.toDigits 10 n ++ ['.', '0'] := by
    intro m q n hm h hn
    obtain ⟨e, he, hvalue⟩ := Shortest.ofBinary_integral display.tie hm h hn
    have hpos : 0 < (Shortest.ofBinary display.tie m q).digits := by
      have hmq : (0 : ℚ) < m := by exact_mod_cast hm.pos
      have hnq : (0 : ℚ) < n := by rw [← h]; positivity
      have hn : 0 < n := by exact_mod_cast hnq
      exact Nat.pos_of_mul_pos_right (hvalue ▸ hn)
    rw [decimal_integral (by decide) (by decide) he hpos (by rw [hvalue]; exact hn), hvalue]
  unfold exact at hi
  unfold text
  -- by the form of the number, and its sign
  generalize x.toModel.unpack = u at hnumber hi
  cases hnumber with
  | zero s =>
    obtain rfl : i = 0 := Int.cast_eq_zero.mp hi.symm
    cases s with
    | positive => exact .inl (by decide)
    | negative => exact .inr ⟨rfl, by decide⟩
  | @finite s m q hm =>
    left
    apply String.toList_injective
    rw [String.toList_append, String.toList_ofList]
    cases s with
    | positive =>
      rw [rational_positive] at hi
      have hpos : (0 : ℚ) ≤ i := by rw [← hi]; positivity
      obtain ⟨n, rfl⟩ := Int.eq_ofNat_of_zero_le (by exact_mod_cast hpos : 0 ≤ i)
      rw [hlaid hm (hi.trans (Int.cast_natCast n)) hsmall]
      show _ = (toString n).toList ++ _
      rw [toList_natText]
      rfl
    | negative =>
      rw [rational_negative] at hi
      have hneg : (i : ℚ) < 0 := by
        have hmq : (0 : ℚ) < m := by exact_mod_cast hm.pos
        rw [← hi]
        exact neg_neg_of_pos (by positivity)
      cases i with
      | ofNat n => exact absurd hneg (not_lt.mpr (Int.cast_nonneg (Int.natCast_nonneg n)))
      | negSucc n =>
        have hn : (m : ℚ) * 2 ^ q = (n + 1 : ℕ) := by
          rw [Int.cast_negSucc] at hi
          exact neg_injective hi
        rw [hlaid hm hn hsmall, toList_negSucc]
        rfl

end Layout

end LineScript
