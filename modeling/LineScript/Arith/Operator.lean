import LineScript.Arith.Fault
import LineScript.Value.Data

/-!
The operators of arithmetic.

Two integers, where a boolean is 0 or 1, give the exact integer or fail if it does not fit in 64
bits. If one of two numbers is not an integer, both count as floating-point numbers. Strings can be
joined to strings and repeated.
-/

namespace LineScript.Arith

def exactly (n : Int) : Result Value := (orFault .overflow (Integer.ofInt? n)).map .integer

def numeric (op : Binary) (ints : Int64 → Int64 → Result Value)
    (floats : Float → Float → Result Value) (left right : Value) : Result Value :=
  match left.int?, right.int? with
  | some a, some b => ints a b
  | _, _ =>
    match left.number?, right.number? with
    | some x, some y => floats x y
    | _, _ => .error (.operands op left.kind right.kind)

def real (f : Float → Float → Float) (x y : Float) : Result Value := .ok (.float (f x y))

def fitsString (bytes : Nat) : Bool := bytes ≤ maxStringBytes

def add : Value → Value → Result Value
  | .string s, .string t =>
    if fitsString (s.utf8ByteSize + t.utf8ByteSize) then .ok (.string (s ++ t))
    else .error (.tooLong .add)
  | left, right => numeric .add (fun a b => exactly (a.toInt + b.toInt)) (real (· + ·)) left right

def subtract (left right : Value) : Result Value :=
  numeric .subtract (fun a b => exactly (a.toInt - b.toInt)) (real (· - ·)) left right

def copiesAfter (acc s : String) : Nat → String
  | 0 => acc
  | n + 1 => copiesAfter (acc ++ s) s n

def repeated (s : String) (n : Int64) : Result Value :=
  if fitsString (s.utf8ByteSize * n.toInt.toNat) then
    .ok (.string (if s.isEmpty then "" else copiesAfter "" s n.toInt.toNat))
  else .error (.tooLong .multiply)

def multiply : Value → Value → Result Value
  | .string s, .integer n => repeated s n
  | .integer n, .string s => repeated s n
  | left, right =>
    numeric .multiply (fun a b => exactly (a.toInt * b.toInt)) (real (· * ·)) left right

def divide (left right : Value) : Result Value :=
  match left.number?, right.number? with
  | some x, some y => if y == 0.0 then .error (.zeroDivisor .divide false) else .ok (.float (x / y))
  | _, _ => .error (.operands .divide left.kind right.kind)

def floorDivideInts (a b : Int64) : Result Value :=
  if b = 0 then .error (.zeroDivisor .floorDivide true) else exactly (a.toInt.fdiv b.toInt)

def floorDivide (left right : Value) : Result Value :=
  numeric .floorDivide floorDivideInts
    (fun x y =>
      if y == 0.0 then .error (.zeroDivisor .floorDivide false)
      else .ok (.float (Binary64.floor (x / y))))
    left right

/-- The remainder of two integers, with the sign of the divisor; there is one only where there is a
quotient. -/
def moduloInts (a b : Int64) : Result Value :=
  if b = 0 then .error (.zeroDivisor .modulo true)
  else
    match floorDivideInts a b with
    | .error f => .error f
    | .ok _ => exactly (a.toInt.fmod b.toInt)

/-- The remainder of two floating-point numbers, with the sign of the divisor unless it is zero. -/
def moduloFloats (x y : Float) : Float :=
  let r := Binary64.remainder x y
  if r != 0.0 && (r < 0.0) != (y < 0.0) then r + y else r

def modulo (left right : Value) : Result Value :=
  numeric .modulo moduloInts
    (fun x y =>
      if y == 0.0 then .error (.zeroDivisor .modulo false) else .ok (.float (moduloFloats x y)))
    left right

def maxExponent : Nat := 0xFFFFFFFF

/-- The exact power of an integer. Beyond the exponent 63 only powers of -1, 0 and 1 fit in 64 bits,
and these depend on no more of the exponent than whether it is even. -/
def powerInts (a : Int64) (n : Nat) : Result Value :=
  if maxExponent < n then .error .exponent
  else if n ≤ 63 then exactly (Int.pow a.toInt n)
  else if a.toInt.natAbs ≤ 1 then exactly (Int.pow a.toInt (62 + n % 2))
  else .error .overflow

def power (left right : Value) : Result Value :=
  let floats : Result Value :=
    match left.number?, right.number? with
    | some x, some y => .ok (.float (x.pow y))
    | _, _ => .error (.operands .power left.kind right.kind)
  match left.int?, right.int? with
  | some a, some b => if 0 ≤ b.toInt then powerInts a b.toInt.toNat else floats
  | _, _ => floats

/-- The value of an operator with two operands at two values. Both operands of `or` and `and` have
been evaluated; one of them is the result. -/
def Binary.apply : Binary → Value → Value → Result Value
  | or, left, right => .ok (if left.truth then left else right)
  | and, left, right => .ok (if left.truth then right else left)
  | add, left, right => Arith.add left right
  | subtract, left, right => Arith.subtract left right
  | multiply, left, right => Arith.multiply left right
  | divide, left, right => Arith.divide left right
  | floorDivide, left, right => Arith.floorDivide left right
  | modulo, left, right => Arith.modulo left right
  | power, left, right => Arith.power left right

def Unary.apply : Unary → Value → Result Value
  | not, v => .ok (.boolean (!v.truth))
  | minus, .float x => .ok (.float (-x))
  | plus, .float x => .ok (.float x)
  | minus, v => do exactly (-(← orFault (.operand minus v.kind) v.int?).toInt)
  | plus, v => do return .integer (← orFault (.operand plus v.kind) v.int?)

def comparison (left : Value) (op : Comparison) (right : Value) : Result Bool :=
  orFault (.noOrder op left.kind right.kind) (left.compare? op right)

end LineScript.Arith
