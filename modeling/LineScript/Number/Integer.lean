import LineScript.Text.Blank

/-!
Integers of the language: 64 bits wide, computed on as mathematical integers and refused when the
exact result does not fit.
-/

namespace LineScript

namespace Integer

def ofInt? (n : Int) : Option Int64 :=
  if Int64.minValue.toInt ≤ n ∧ n ≤ Int64.maxValue.toInt then some (Int64.ofInt n) else none

def text (n : Int64) : String := toString n.toInt

/-- A number with more digits after it. -/
def appendDigits (n : Nat) (digits : Text) : Nat :=
  digits.foldl (fun n c => 10 * n + (c.toNat - '0'.toNat)) n

def natOfDigits (digits : Text) : Nat := appendDigits 0 digits

def natural? (t : Text) : Option Nat :=
  if !t.isEmpty && t.all Char.isDigit then some (natOfDigits t) else none

def splitSign : Text → Bool × Text
  | '-' :: rest => (true, rest)
  | '+' :: rest => (false, rest)
  | rest => (false, rest)

def significant (digits : Text) : Text := digits.dropWhile (· == '0')

def mostDigits : Nat := 19

/-- Reads an optional sign and ASCII digits that stand for a 64-bit integer. -/
def read? (t : Text) : Option Int64 := do
  let (negative, digits) := splitSign t
  if mostDigits < (significant digits).length then none
  else
    let n ← natural? digits
    ofInt? (if negative then -(n : Int) else n)

theorem ofInt?_toInt (n : Int64) : ofInt? n.toInt = some n := by
  have low := Int64.minValue_le_toInt n
  have high := Int64.toInt_le n
  simp only [ofInt?]
  rw [if_pos ⟨by simpa using low, by simpa using high⟩, Int64.ofInt_toInt]

theorem toInt_of_ofInt? {n : Int} {m : Int64} (h : ofInt? n = some m) : m.toInt = n := by
  simp only [ofInt?] at h
  split at h
  · next bounds =>
    simp only [Option.some.injEq] at h
    rw [← h]
    exact Int64.toInt_ofInt_of_le (by simpa using bounds.1) (by
      have := bounds.2
      have e : Int64.maxValue.toInt = 2 ^ 63 - 1 := by decide
      omega)
  · simp at h

theorem mul_pow_le_appendDigits (n : Nat) (digits : Text) :
    n * Nat.pow 10 digits.length ≤ appendDigits n digits := by
  induction digits generalizing n with
  | nil => simp [appendDigits]
  | cons c rest ih =>
    have place : Nat.pow 10 (c :: rest).length = 10 * Nat.pow 10 rest.length := Nat.mul_comm ..
    have step := ih (10 * n + (c.toNat - '0'.toNat))
    rw [place, ← Nat.mul_assoc, Nat.mul_comm n 10]
    exact Nat.le_trans (Nat.mul_le_mul_right _ (Nat.le_add_right ..)) step

theorem natOfDigits_significant (digits : Text) :
    natOfDigits (significant digits) = natOfDigits digits := by
  induction digits with
  | nil => rfl
  | cons c rest ih =>
    by_cases hc : c = '0'
    · subst hc
      exact ih
    · simp [significant, hc]

theorem lt_natOfDigits {digits : Text} (h : digits.all Char.isDigit)
    (long : mostDigits < (significant digits).length) :
    Int64.maxValue.toInt + 1 < natOfDigits digits := by
  rw [← natOfDigits_significant]
  cases hs : significant digits with
  | nil => simp [hs] at long
  | cons c rest =>
    have hzero : c ≠ '0' := by
      have := List.head?_dropWhile_not (· == '0') digits
      rw [show digits.dropWhile (· == '0') = c :: rest from hs] at this
      simpa using this
    have hdigit : c.isDigit = true := by
      refine List.all_eq_true.mp h c ((List.dropWhile_sublist (· == '0')).subset ?_)
      exact (show digits.dropWhile (· == '0') = c :: rest from hs) ▸ List.mem_cons_self
    have positive : 1 ≤ c.toNat - '0'.toNat := by
      simp only [Char.isDigit, ge_iff_le, Bool.and_eq_true, decide_eq_true_eq] at hdigit
      have low : '0'.toNat ≤ c.toNat := hdigit.1
      have hne : c.toNat ≠ '0'.toNat := fun he => hzero (Char.toNat_inj.mp he)
      omega
    have many : mostDigits ≤ rest.length := by
      simp only [hs, List.length_cons] at long
      omega
    have step : natOfDigits (c :: rest) = appendDigits (c.toNat - '0'.toNat) rest := by
      simp [natOfDigits, appendDigits]
    have large := mul_pow_le_appendDigits (c.toNat - '0'.toNat) rest
    have power : Nat.pow 10 mostDigits ≤ Nat.pow 10 rest.length :=
      Nat.pow_le_pow_right (by decide) many
    have least := Nat.mul_le_mul_right (Nat.pow 10 rest.length) positive
    have bound : Int64.maxValue.toInt + 1 < (Nat.pow 10 mostDigits : Nat) := by decide
    rw [step]
    omega

/-- Reading is exact: the bound on the digits refuses nothing that fits. -/
theorem read?_eq (t : Text) :
    read? t = (natural? (splitSign t).2).bind fun n =>
      ofInt? (if (splitSign t).1 then -(n : Int) else n) := by
  unfold read?
  generalize splitSign t = parts
  obtain ⟨negative, digits⟩ := parts
  simp only
  split
  · next long =>
    by_cases h : digits.all Char.isDigit = true
    · have large := lt_natOfDigits h long
      have top : Int64.maxValue.toInt = 0x7FFFFFFFFFFFFFFF := by decide
      have bottom : Int64.minValue.toInt = -0x8000000000000000 := by decide
      rw [top] at large
      unfold natural?
      split
      · rw [Option.bind_some, ofInt?, if_neg]
        rw [top, bottom]
        split <;> omega
      · rfl
    · simp [natural?, h]
  · rfl

end Integer

end LineScript
