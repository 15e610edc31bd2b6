import LineScript.Number.Hexadecimal
import LineScript.Number.Integer
import LineScript.Text.Words

/-!
Addresses of four bytes.

A reader takes one number to four, in decimal, octal or hexadecimal digits; the last one stands for
all bytes that are left. They are written as four decimal numbers with points between them.
-/

namespace LineScript

structure Ipv4 where
  value : UInt32
deriving DecidableEq

namespace Ipv4

def octal? (t : Text) : Option Nat :=
  if t.all fun c => '0' ≤ c && c ≤ '7' then some (t.foldl (fun n c => 8 * n + (c.toNat - 0x30)) 0)
  else none

/-- Reads a number: hexadecimal after `0x`, octal after another zero. The mark alone is zero. -/
def number? : Text → Option Nat
  | ['0', 'x'] => some 0
  | '0' :: 'x' :: rest => Hexadecimal.natural? rest
  | '0' :: rest => octal? rest
  | t => Integer.natural? t

/-- The parts of a domain between its points; one point at the end does not count. -/
def parts (t : Text) : List Text :=
  let ps := Text.pieces (· == '.') t
  if ps.getLast? = some [] then ps.dropLast else ps

/-- Whether a domain is to be read as an address: its last part is a number, or has only digits. -/
def isAddress (domain : Text) : Bool :=
  (parts domain).getLast?.any fun p =>
    (number? p).isSome || (!p.isEmpty && p.all Char.isDigit)

/-- The value of numbers of which the last one fills the bytes that are left, and every other one a
byte. -/
def value? (bytesLeft : Nat) : List Nat → Option Nat
  | [] => none
  | [n] => if n < Nat.pow 256 bytesLeft then some n else none
  | n :: rest =>
    match bytesLeft with
    | 0 => none
    | left + 1 =>
      if n < 256 then (value? left rest).map (n * Nat.pow 256 left + ·) else none

def read? (domain : Text) : Option Ipv4 := do
  let numbers ← (parts domain).mapM number?
  if 4 < numbers.length then none
  else
    let n ← value? 4 numbers
    return ⟨UInt32.ofNat n⟩

def bytes (a : Ipv4) : List Nat :=
  let n := a.value.toNat
  [n / 0x1000000, n / 0x10000 % 0x100, n / 0x100 % 0x100, n % 0x100]

def text (a : Ipv4) : Text := List.intercalate ['.'] (a.bytes.map (Nat.toDigits 10))

example : (read? "127.1".toList).map text = some "127.0.0.1".toList := by decide +kernel

example : (read? "0x7f.0.010.".toList).map text = some "127.0.0.8".toList := by decide +kernel

end Ipv4

end LineScript
