import LineScript.Number.Binary64
import LineScript.Number.Integer
import LineScript.Text.Words

/-!
Reading decimals: the text of a number, correctly rounded to a floating-point number.
-/

namespace LineScript.Decimal

/-- Where an exponent stops growing: the digits after it has come so far do not count. -/
def exponentLimit : Nat := 0x10000

def exponentFrom (e : Nat) (digits : Text) : Nat :=
  digits.foldl (fun e c => if e < exponentLimit then 10 * e + (c.toNat - '0'.toNat) else e) e

def exponent? (t : Text) : Option Int := do
  let (negative, digits) := Integer.splitSign t
  if digits.isEmpty || !digits.all Char.isDigit then none
  else
    let n := exponentFrom 0 digits
    return if negative then -(n : Int) else n

def exponentPart? : Text → Option Int
  | [] => some 0
  | c :: rest => if c == 'e' || c == 'E' then exponent? rest else none

/-- How many digits decide how a number is rounded. No number halfway between two floating-point
numbers has as many, so of the digits after them it only matters whether they are zeros. -/
def decisiveDigits : Nat := 800

def nearest (digits : Text) (e : Int) : Float :=
  if digits.length ≤ decisiveDigits then Binary64.ofDecimal (Integer.natOfDigits digits) e
  else
    let n := 10 * Integer.natOfDigits (digits.take decisiveDigits)
    let rest := digits.drop decisiveDigits
    Binary64.ofDecimal (if rest.all (· == '0') then n else n + 1) (e + rest.length - 1)

/-- The number nearest to `digits` times `10 ^ e`. From `10 ^ 309` on it is infinite, and below
`10 ^ (-324)` it is zero; both are told by the place of the first digit that is no zero. -/
def ofDigits (digits : Text) (e : Int) : Float :=
  let digits := Integer.significant digits
  let place := digits.length + e
  if digits.isEmpty || place < -323 then 0.0
  else if 309 < place then 1.0 / 0.0
  else nearest digits e

def magnitude? (t : Text) : Option Float := do
  let whole := t.takeWhile Char.isDigit
  let afterWhole := t.dropWhile Char.isDigit
  let (fraction, rest) := match afterWhole with
    | '.' :: r => (r.takeWhile Char.isDigit, r.dropWhile Char.isDigit)
    | r => ([], r)
  let digits := whole ++ fraction
  if digits.isEmpty then none
  else
    let e ← exponentPart? rest
    return ofDigits digits (e - fraction.length)

def special? (t : Text) : Option Float :=
  let t := Text.lower t
  if t == "inf".toList || t == "infinity".toList then some (1.0 / 0.0)
  else if t == "nan".toList then some (0.0 / 0.0)
  else none

/-- Reads a floating-point number: an optional sign, and a magnitude or a special word. Too large a
number is infinite and too small a one is zero. -/
def read? (t : Text) : Option Float := do
  let (negative, rest) := Integer.splitSign t
  let x ← special? rest <|> magnitude? rest
  return if negative then -x else x

theorem le_appendDigits (n : Nat) (digits : Text) : n ≤ Integer.appendDigits n digits := by
  induction digits generalizing n with
  | nil => exact Nat.le_refl n
  | cons c rest ih =>
    have := ih (10 * n + (c.toNat - '0'.toNat))
    exact Nat.le_trans (by omega) this

/-- All digits of an exponent below the limit count. -/
theorem exponentFrom_eq {e : Nat} {digits : Text}
    (h : Integer.appendDigits e digits < exponentLimit) :
    exponentFrom e digits = Integer.appendDigits e digits := by
  induction digits generalizing e with
  | nil => rfl
  | cons c rest ih =>
    have below : e < exponentLimit := Nat.lt_of_le_of_lt (le_appendDigits e (c :: rest)) h
    have step : exponentFrom e (c :: rest) = exponentFrom (10 * e + (c.toNat - '0'.toNat)) rest := by
      simp only [exponentFrom, List.foldl_cons, below, if_true]
    rw [step]
    exact ih h

example : exponent? "-1000000".toList = some (-100000) := by decide +kernel

end LineScript.Decimal
