import LineScript.Text.Blank

/-!
Hexadecimal digits and numbers.
-/

namespace LineScript.Hexadecimal

def value? (c : Char) : Option Nat :=
  if c.isDigit then some (c.toNat - 0x30)
  else if 'a' ≤ c && c ≤ 'f' then some (c.toNat - 0x57)
  else if 'A' ≤ c && c ≤ 'F' then some (c.toNat - 0x37)
  else none

def small (n : Nat) : Char := Char.ofNat (if n < 10 then 0x30 + n else 0x57 + n)

def capital (n : Nat) : Char := Char.ofNat (if n < 10 then 0x30 + n else 0x37 + n)

def natural? (t : Text) : Option Nat :=
  if t.isEmpty then none else t.foldlM (fun n c => (value? c).map (16 * n + ·)) 0

theorem value?_small {n : Nat} (h : n < 16) : value? (small n) = some n := by
  have all : ∀ k ∈ List.range 16, value? (small k) = some k := by decide
  exact all n (List.mem_range.mpr h)

end LineScript.Hexadecimal
