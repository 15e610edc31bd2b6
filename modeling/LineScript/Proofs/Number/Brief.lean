import LineScript.Proofs.Number.Digits
import LineScript.Proofs.Number.Rational
import LineScript.Value.Data

/-!
# The length of number text

The text of a number is short: an integer has 64 bits, and the shortest digits of a floating-point number
are those of a point of a grid that is not much finer than the number (`Shortest.bounds_ofBinary`). So the
text of a value that is neither a string nor an object fits a string (`Value.bytes_text_le`).
-/

namespace LineScript

theorem Text.bytes_ofList_le (t : Text) : (String.ofList t).utf8ByteSize ≤ 4 * t.length := by
  induction t with
  | nil => simp
  | cons c t ih =>
    have hc : (String.singleton c).utf8ByteSize ≤ 4 := by
      rw [String.utf8ByteSize_singleton]
      exact c.utf8Size_le_four
    rw [String.ofList_cons, String.utf8ByteSize_append, List.length_cons]
    omega

theorem Text.bytes_le (s : String) : s.utf8ByteSize ≤ 4 * s.toList.length := by
  conv_lhs => rw [← String.ofList_toList (s := s)]
  exact bytes_ofList_le s.toList

/-! ## Digits -/

theorem length_natText_le {n k : Nat} (hk : 0 < k) (h : n < 10 ^ k) :
    (toString n).toList.length ≤ k := by
  rw [Nat.toString_eq_repr, Nat.toList_repr]
  exact Nat.toDigits_length 10 n k hk h

theorem length_intText_le {n : Int} {k : Nat} (hk : 0 < k) (h : n.natAbs < 10 ^ k) :
    (toString n).toList.length ≤ k + 1 := by
  cases n with
  | ofNat n => exact Nat.le_succ_of_le (length_natText_le hk h)
  | negSucc n =>
    rw [Layout.toList_negSucc, List.length_cons, ← Layout.toList_natText]
    exact Nat.succ_le_succ (length_natText_le hk h)

theorem bytes_integer_le (n : Int64) : (Integer.text n).utf8ByteSize ≤ 80 := by
  have hlow := Int64.le_toInt n
  have hhigh := Int64.toInt_lt n
  have hlength := length_intText_le (n := n.toInt) (k := 19) (by decide) (by omega)
  have hbytes := Text.bytes_le (Integer.text n)
  unfold Integer.text at hbytes ⊢
  omega

/-! ## The shortest digits -/

namespace Shortest

theorem le_of_onGrid {tie : Tie} {m n : Nat} {q k : Int} (h : onGrid tie m q k = some n) :
    n ≤ 4 * m * (Nat.pow 2 (q - 2).toNat * Nat.pow 10 (-k).toNat) + 1 := by
  unfold onGrid at h
  extract_lets quarter unit value low high closed base at h
  have hbase : base ≤ 4 * m * quarter := Nat.div_le_self value unit
  suffices hnear : n ≤ base + 1 from Nat.le_trans hnear (Nat.succ_le_succ hbase)
  split at h
  · have hn := Option.some.inj h
    omega
  · have hn := Option.some.inj h
    omega
  · cases h
  · split at h <;> have hn := Option.some.inj h <;> omega

theorem exists_onGrid_of_search {tie : Tie} {m : Nat} {q : Int} {steps : Nat} {k : Int} {d : Decimal}
    (h : search tie m q steps k = some d) :
    k - steps < d.exponent ∧ d.exponent ≤ k ∧ onGrid tie m q d.exponent = some d.digits := by
  induction steps generalizing k with
  | zero => cases h
  | succ steps ih =>
    rw [search] at h
    split at h
    · next n hn =>
      cases h
      exact ⟨by show k - (steps + 1 : Nat) < k; omega, Int.le_refl k, hn⟩
    · obtain ⟨hlow, hhigh, hgrid⟩ := ih h
      exact ⟨by omega, by omega, hgrid⟩

def mostDigits : Nat := 1400

theorem bounds_ofBinary (tie : Tie) {m : Nat} {q : Int} (hm : m < 2 ^ 53) (hlow : leastExponent ≤ q)
    (hhigh : q ≤ 971) :
    (ofBinary tie m q).digits < 10 ^ mostDigits ∧ (ofBinary tie m q).exponent.natAbs < 400 := by
  unfold ofBinary
  cases hsearch : search tie m q 20 (topExponent m q) with
  | none => exact ⟨Nat.pow_pos (by decide), by decide⟩
  | some d =>
    obtain ⟨hbelow, habove, hgrid⟩ := exists_onGrid_of_search hsearch
    have hlog : m.log2 < 53 := by
      rcases Nat.eq_zero_or_pos m with rfl | hpos
      · decide
      · exact (Nat.log2_lt (Nat.ne_of_gt hpos)).mpr hm
    rw [leastExponent] at hlow
    rw [topExponent] at hbelow habove
    have hexponent : d.exponent.natAbs < 400 := by omega
    refine ⟨?_, hexponent⟩
    -- every factor of the number in quarters is at most a power of ten
    obtain ⟨a, ha⟩ : ∃ a, a = (q - 2).toNat := ⟨_, rfl⟩
    obtain ⟨b, hb⟩ : ∃ b, b = (-d.exponent).toNat := ⟨_, rfl⟩
    have hn := le_of_onGrid hgrid
    rw [← ha, ← hb] at hn
    have hpos : 0 < Nat.pow 2 a * Nat.pow 10 b :=
      Nat.mul_pos (Nat.pow_pos (by decide)) (Nat.pow_pos (by decide))
    calc d.digits
        ≤ 4 * m * (Nat.pow 2 a * Nat.pow 10 b) + 1 := hn
      _ ≤ (4 * m + 1) * (Nat.pow 2 a * Nat.pow 10 b) := by
        rw [Nat.add_mul, Nat.one_mul]
        exact Nat.add_le_add_left hpos _
      _ ≤ 10 ^ 17 * (10 ^ a * 10 ^ b) :=
        Nat.mul_le_mul (by omega) (Nat.mul_le_mul (Nat.pow_le_pow_left (by decide) a) (Nat.le_refl _))
      _ = 10 ^ (17 + (a + b)) := by rw [Nat.pow_add, Nat.pow_add]
      _ < 10 ^ mostDigits := Nat.pow_lt_pow_right (by decide) (by rw [mostDigits]; omega)

end Shortest

/-! ## Laid out -/

namespace Layout

theorem length_significant_le (n : Nat) : (significant n).length ≤ (toString n).toList.length := by
  have hdropped := (List.dropWhile_sublist (· == '0') (l := (toString n).toList.reverse)).length_le
  rw [List.length_reverse] at hdropped
  rwa [significant, List.length_reverse]

theorem length_positional_le (digits : List Char) {lead : Int} (hlow : -16 ≤ lead) (hhigh : lead ≤ 16) :
    (positional digits lead).length ≤ digits.length + 20 := by
  unfold positional
  split
  · rw [List.length_append, List.length_cons, List.length_cons, List.length_replicate]
    omega
  · have hfraction : ∀ fraction : List Char,
        (if fraction.isEmpty then ['0'] else fraction).length ≤ fraction.length + 1 := by
      intro fraction
      split <;> simp
    have hrest := hfraction (digits.drop (lead.toNat + 1))
    rw [List.length_drop] at hrest
    rw [List.length_append, List.length_append, List.length_take, List.length_replicate,
      List.length_cons]
    omega

theorem length_scientific_le (layout : Layout) (digits : List Char) (lead : Int) :
    (layout.scientific digits lead).length ≤ digits.length + (toString lead).toList.length + 4 := by
  unfold scientific
  have hpoint : ∀ fraction : List Char,
      (if fraction.isEmpty then [] else '.' :: fraction).length ≤ fraction.length + 1 := by
    intro fraction
    split <;> simp
  have hplus : (if layout.exponentPlus && 0 ≤ lead then ['+'] else []).length ≤ 1 := by
    split <;> simp
  have hrest := hpoint (digits.drop 1)
  rw [List.length_drop] at hrest
  rw [List.length_append, List.length_append, List.length_append, List.length_cons, List.length_take]
  omega

theorem length_decimal_le {d : Shortest.Decimal} (hdigits : d.digits < 10 ^ Shortest.mostDigits)
    (hexponent : d.exponent.natAbs < 400) :
    (display.decimal d).length ≤ Shortest.mostDigits + 20 := by
  have hlength := length_natText_le (by decide) hdigits
  unfold decimal
  extract_lets digits lead
  have hfew : digits.length ≤ Shortest.mostDigits :=
    Nat.le_trans (length_significant_le d.digits) hlength
  split
  · next hplain =>
    have hpositional : (positional digits lead).length ≤ digits.length + 20 :=
      length_positional_le digits (Int.le_trans (by decide) hplain.1) (Int.le_of_lt hplain.2)
    omega
  · have hlead : lead.natAbs < 10 ^ 4 := by
      rw [String.length_toList, Shortest.mostDigits] at hlength
      omega
    have htext := length_intText_le (by decide) hlead
    have hscientific := length_scientific_le display digits lead
    omega

theorem length_sign_le (s : Float.Model.UnpackedFloat.Sign) : (sign s).length ≤ 1 := by
  cases s <;> decide

/-- The text of a floating-point number is short. -/
theorem bytes_float_le (x : Float) : (display.text x).utf8ByteSize ≤ 4 * (Shortest.mostDigits + 21) := by
  have hshort : ∀ (s : Float.Model.UnpackedFloat.Sign) (t : Text), t.length ≤ Shortest.mostDigits + 20 →
      (String.ofList (sign s ++ t)).utf8ByteSize ≤ 4 * (Shortest.mostDigits + 21) := by
    intro s t ht
    have hbytes := Text.bytes_ofList_le (sign s ++ t)
    have hsign := length_sign_le s
    rw [List.length_append] at hbytes
    omega
  unfold text
  split
  · decide
  · exact hshort _ _ (by decide)
  · exact hshort _ _ (by decide)
  · next s m q _ hunpack =>
    have hcanonical := Binary64.canonical_of_unpack hunpack
    obtain ⟨hdigits, hexponent⟩ :=
      Shortest.bounds_ofBinary display.tie hcanonical.lt hcanonical.least hcanonical.greatest
    exact hshort s _ (length_decimal_le hdigits hexponent)

end Layout

namespace Value

/-- The text of a value that is neither a string nor an object fits a string. -/
theorem bytes_text_le {v : Value} (hstring : v.kind ≠ .string) (hobject : v.kind ≠ .object) :
    v.text.utf8ByteSize ≤ maxStringBytes := by
  cases v with
  | null => decide
  | boolean b => cases b <;> decide
  | integer n => exact Nat.le_trans (bytes_integer_le n) (by decide)
  | float x => exact Nat.le_trans (Layout.bytes_float_le x) (by decide)
  | string s => exact absurd rfl hstring
  | object fields => exact absurd rfl hobject

end Value

end LineScript
