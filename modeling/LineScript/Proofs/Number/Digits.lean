import LineScript.Number.Layout
import LineScript.Number.Reader
import Mathlib.Data.List.TakeWhile
import Mathlib.Tactic.Ring

/-!
# Rows of digits

The number that a row of digits stands for, when digits are put in front of it or behind it, and the digits
that a number is written with.
-/

namespace LineScript

namespace Integer

theorem appendDigits_eq (n : Nat) (digits : Text) :
    appendDigits n digits = n * 10 ^ digits.length + natOfDigits digits := by
  induction digits generalizing n with
  | nil => exact (Nat.mul_one n).symm
  | cons c rest ih =>
    have hfirst : natOfDigits (c :: rest) = appendDigits (10 * 0 + (c.toNat - '0'.toNat)) rest := rfl
    have hmore : appendDigits n (c :: rest) = appendDigits (10 * n + (c.toNat - '0'.toNat)) rest := rfl
    rw [hmore, hfirst, ih, ih (10 * 0 + _), List.length_cons, pow_succ]
    ring

theorem natOfDigits_append (digits more : Text) :
    natOfDigits (digits ++ more) = natOfDigits digits * 10 ^ more.length + natOfDigits more := by
  rw [← appendDigits_eq]
  exact List.foldl_append

theorem natOfDigits_cons (c : Char) (rest : Text) :
    natOfDigits (c :: rest) = (c.toNat - '0'.toNat) * 10 ^ rest.length + natOfDigits rest := by
  rw [← appendDigits_eq]
  show appendDigits (10 * 0 + (c.toNat - '0'.toNat)) rest = _
  rw [Nat.mul_zero, Nat.zero_add]

theorem natOfDigits_zeros (n : Nat) : natOfDigits (List.replicate n '0') = 0 := by
  induction n with
  | zero => rfl
  | succ n ih =>
    rw [List.replicate_succ, natOfDigits_cons, ih]
    simp

theorem natOfDigits_append_zeros (digits : Text) (n : Nat) :
    natOfDigits (digits ++ List.replicate n '0') = natOfDigits digits * 10 ^ n := by
  rw [natOfDigits_append, natOfDigits_zeros, List.length_replicate, Nat.add_zero]

theorem natOfDigits_zeros_append (digits : Text) (n : Nat) :
    natOfDigits (List.replicate n '0' ++ digits) = natOfDigits digits := by
  rw [natOfDigits_append, natOfDigits_zeros, Nat.zero_mul, Nat.zero_add]

theorem natOfDigits_lt {digits : Text} (h : ∀ c ∈ digits, c.isDigit = true) :
    natOfDigits digits < 10 ^ digits.length := by
  induction digits with
  | nil => exact Nat.one_pos
  | cons c rest ih =>
    have hdigit : c.toNat - '0'.toNat ≤ 9 := by
      have hc := h c List.mem_cons_self
      simp only [Char.isDigit, Bool.and_eq_true, decide_eq_true_eq] at hc
      have hhigh : c.toNat ≤ 57 := UInt32.le_iff_toNat_le.mp hc.2
      have hzero : '0'.toNat = 48 := rfl
      omega
    have hrest := ih fun d hd => h d (List.mem_cons_of_mem c hd)
    rw [natOfDigits_cons, List.length_cons, pow_succ]
    calc (c.toNat - '0'.toNat) * 10 ^ rest.length + natOfDigits rest
        < 9 * 10 ^ rest.length + 10 ^ rest.length :=
          Nat.add_lt_add_of_le_of_lt (Nat.mul_le_mul_right _ hdigit) hrest
      _ = 10 ^ rest.length * 10 := by ring

theorem pow_le_natOfDigits {c : Char} {rest : Text} (hc : c.isDigit = true) (hzero : c ≠ '0') :
    10 ^ rest.length ≤ natOfDigits (c :: rest) := by
  have hpositive : 1 ≤ c.toNat - '0'.toNat := by
    simp only [Char.isDigit, Bool.and_eq_true, decide_eq_true_eq] at hc
    have hlow : '0'.toNat ≤ c.toNat := UInt32.le_iff_toNat_le.mp hc.1
    have hne : c.toNat ≠ '0'.toNat := fun heq => hzero (Char.toNat_inj.mp heq)
    omega
  rw [natOfDigits_cons]
  exact Nat.le_add_right_of_le (Nat.le_mul_of_pos_left _ hpositive)

theorem natOfDigits_toDigits (n : Nat) : natOfDigits (Nat.toDigits 10 n) = n :=
  Nat.ofDigitChars_ten_toDigits

theorem head?_toDigits {n : Nat} (h : n ≠ 0) : (Nat.toDigits 10 n).head? ≠ some '0' := by
  induction n using Nat.strongRecOn with
  | ind n ih =>
    by_cases hsmall : n < 10
    · rw [Nat.toDigits_of_lt_base hsmall, List.head?_cons]
      have hdigits : ∀ k ∈ List.range 10, k ≠ 0 → some k.digitChar ≠ some '0' := by decide
      exact hdigits n (List.mem_range.mpr hsmall) h
    · rw [Nat.toDigits_of_base_le (by decide) (by omega), List.head?_append,
        List.head?_eq_some_head Nat.toDigits_ne_nil, Option.some_or,
        ← List.head?_eq_some_head Nat.toDigits_ne_nil]
      exact ih (n / 10) (by omega) (by omega)

theorem isDigit_of_mem_toDigits {n : Nat} {c : Char} (h : c ∈ Nat.toDigits 10 n) : c.isDigit = true :=
  Nat.isDigit_of_mem_toDigits (by decide) (by decide) h

theorem exists_length_toDigits {n : Nat} (h : n ≠ 0) :
    ∃ len, (Nat.toDigits 10 n).length = len + 1 ∧ 10 ^ len ≤ n ∧ n < 10 ^ (len + 1) := by
  have hvalue := natOfDigits_toDigits n
  have hdigits : ∀ c ∈ Nat.toDigits 10 n, c.isDigit = true := fun c hc => isDigit_of_mem_toDigits hc
  have hhead := head?_toDigits h
  have hne : Nat.toDigits 10 n ≠ [] := Nat.toDigits_ne_nil
  generalize Nat.toDigits 10 n = digits at *
  cases digits with
  | nil => exact absurd rfl hne
  | cons c rest =>
    have hlow : 10 ^ rest.length ≤ natOfDigits (c :: rest) :=
      pow_le_natOfDigits (hdigits c List.mem_cons_self) fun hc => hhead (congrArg some hc)
    have hhigh := natOfDigits_lt hdigits
    rw [hvalue] at hlow hhigh
    exact ⟨rest.length, List.length_cons, hlow, hhigh⟩

theorem toDigits_mul_pow {n : Nat} (hn : 0 < n) (e : Nat) :
    Nat.toDigits 10 (n * 10 ^ e) = Nat.toDigits 10 n ++ List.replicate e '0' := by
  induction e with
  | zero => rw [pow_zero, Nat.mul_one, List.replicate_zero, List.append_nil]
  | succ e ih =>
    have hpos : 0 < n * 10 ^ e := Nat.mul_pos hn (Nat.pow_pos (by decide))
    rw [pow_succ, ← Nat.mul_assoc, Nat.toDigits_of_base_le (by decide) (by omega),
      Nat.mul_div_cancel _ (by decide), Nat.mul_mod_left, ih, List.replicate_succ', List.append_assoc]
    rfl

end Integer

namespace Layout

theorem toList_natText (n : Nat) : (toString n).toList = Nat.toDigits 10 n := Nat.toList_repr

theorem toList_negSucc (n : Nat) :
    (toString (Int.negSucc n)).toList = '-' :: Nat.toDigits 10 (n + 1) := by
  show ("-" ++ Nat.repr (n + 1)).toList = _
  rw [String.toList_append, Nat.toList_repr]
  rfl

/-- The digits of a number with the zeros that it ends with. -/
theorem exists_significant (n : Nat) : ∃ z, Nat.toDigits 10 n = significant n ++ List.replicate z '0' ∧
    (toString n).length = (significant n).length + z := by
  have hzeros : ∀ c ∈ (toString n).toList.reverse.takeWhile (· == '0'), c = '0' := by
    intro c hc
    simpa using List.mem_takeWhile_imp hc
  obtain ⟨z, hz⟩ : ∃ z, (toString n).toList.reverse.takeWhile (· == '0') = List.replicate z '0' :=
    ⟨_, List.eq_replicate_of_mem hzeros⟩
  have hreverse := List.takeWhile_append_dropWhile (p := (· == '0')) (l := (toString n).toList.reverse)
  have hcut : Nat.toDigits 10 n = significant n ++ List.replicate z '0' := by
    rw [significant, ← List.reverse_replicate, ← List.reverse_append, ← hz, hreverse, List.reverse_reverse,
      toList_natText]
  refine ⟨z, hcut, ?_⟩
  rw [← String.length_toList, toList_natText, hcut, List.length_append, List.length_replicate]

theorem natOfDigits_significant (n : Nat) : ∃ z, (toString n).length = (significant n).length + z ∧
    n = Integer.natOfDigits (significant n) * 10 ^ z := by
  obtain ⟨z, hcut, hlength⟩ := exists_significant n
  refine ⟨z, hlength, ?_⟩
  rw [← Integer.natOfDigits_append_zeros, ← hcut, Integer.natOfDigits_toDigits]

theorem isDigit_of_mem_significant {n : Nat} {c : Char} (h : c ∈ significant n) : c.isDigit = true := by
  have hmem : c ∈ (toString n).toList :=
    List.mem_reverse.mp ((List.dropWhile_sublist _).subset (List.mem_reverse.mp h))
  rw [toList_natText] at hmem
  exact Integer.isDigit_of_mem_toDigits hmem

end Layout

end LineScript
