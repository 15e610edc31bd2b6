import LineScript.Json.Basic
import LineScript.Json.Fault
import LineScript.Number.Binary64
import LineScript.Number.Integer

/-!
Numbers in JSON text.

The digits are gathered in a 64-bit integer until the next one would not fit. An integer that fits
is exact. Any other number is that integer as a floating-point number, multiplied or divided once by
a power of ten; so its last digit may be off by one. A number too large is a fault.
-/

namespace LineScript.Json

/-- Gathers digits as long as the number stays within `limit`: the number, and how many digits are
left over. -/
def gather (limit : Nat) (n : Nat) : Text → Nat × Nat
  | [] => (n, 0)
  | c :: rest =>
    let next := 10 * n + (c.toNat - '0'.toNat)
    if next ≤ limit then gather limit next rest else (n, (c :: rest).length)

def significandLimit : Nat := 0xFFFFFFFFFFFFFFFF

def exponentLimit : Nat := 0x7FFFFFFF

/-- Divides by `10 ^ 308` until the rest of the exponent is within reach of a single division. -/
def divideBy (x : Float) (e : Nat) : Float :=
  if e ≤ 308 then x / Binary64.ofDecimal 1 e
  else if x == 0.0 then x
  else divideBy (x / Binary64.ofDecimal 1 308) (e - 308)
termination_by e
decreasing_by omega

/-- The number `n * 10 ^ e` before `rest`, multiplied or divided once. -/
def scaled (negative : Bool) (n : Nat) (e : Int) (rest : Text) : Except Stop (Json × Text) :=
  let x := Binary64.ofDecimal n 0
  let y :=
    if e < 0 then some (divideBy x e.natAbs)
    else if e ≤ 308 then
      let y := x * Binary64.ofDecimal 1 e
      if y.isInf then none else some y
    else if n = 0 then some x
    else none
  match y with
  | some y => .ok (.float (if negative then -y else y), rest)
  | none => .error (.before .numberOutOfRange rest)

def exponent (negative : Bool) (n : Nat) (e : Int) (t : Text) : Except Stop (Json × Text) :=
  let (down, t) := Integer.splitSign t
  let digits := t.takeWhile Char.isDigit
  let rest := t.dropWhile Char.isDigit
  match t with
  | [] => .error (.before .endInValue [])
  | _ =>
    if digits.isEmpty then .error (.on .invalidNumber t)
    else
      let (power, leftOver) := gather exponentLimit 0 digits
      if leftOver = 0 then scaled negative n (if down then e - power else e + power) rest
      else if n ≠ 0 && !down then
        .error ⟨.numberOutOfRange, Text.byteCount rest + leftOver - 1⟩
      else .ok (.float (if negative then -0.0 else 0.0), rest)

def afterDigits (negative : Bool) (n : Nat) (e : Int) (t : Text) : Except Stop (Json × Text) :=
  match t with
  | 'e' :: rest | 'E' :: rest => exponent negative n e rest
  | rest => scaled negative n e rest

def fraction (negative : Bool) (n : Nat) (e : Int) (t : Text) : Except Stop (Json × Text) :=
  let digits := t.takeWhile Char.isDigit
  let rest := t.dropWhile Char.isDigit
  if digits.isEmpty then
    .error (if rest.isEmpty then .before .endInValue [] else .on .invalidNumber rest)
  else
    let (n, leftOver) := gather significandLimit n digits
    afterDigits negative n (e - (digits.length - leftOver : Nat)) rest

/-- An integer as a value: 64 bits wide with a sign or without, and else a floating-point number. -/
def ofInteger (negative : Bool) (n : Nat) : Json :=
  if !negative then .integer n
  else if n = 0 then .float (-0.0)
  else if n ≤ 0x8000000000000000 then .integer (-(n : Int))
  else .float (-(Binary64.ofDecimal n 0))

def number (negative : Bool) (t : Text) : Except Stop (Json × Text) :=
  let digits := t.takeWhile Char.isDigit
  let rest := t.dropWhile Char.isDigit
  match t, digits with
  | [], _ => .error (.before .endInValue [])
  | t, [] => .error (.on .invalidNumber t)
  | _ :: t, '0' :: _ :: _ => .error (.on .invalidNumber t)
  | _, digits =>
    let (n, leftOver) := gather significandLimit 0 digits
    match rest with
    | '.' :: rest => fraction negative n leftOver rest
    | 'e' :: rest | 'E' :: rest => exponent negative n leftOver rest
    | rest =>
      if leftOver = 0 then .ok (ofInteger negative n, rest)
      else scaled negative n leftOver rest

end LineScript.Json
