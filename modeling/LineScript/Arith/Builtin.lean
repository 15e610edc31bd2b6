import LineScript.Arith.Operator
import LineScript.Number.Reader
import LineScript.World.Draws

/-!
The functions of arithmetic.
-/

namespace LineScript.Arith

abbrev Drawing (α : Type) := Drawn Fault α

section Arguments

variable (f : Builtin)

def numberOf (v : Value) : Result Float := orFault (.notNumber f v.kind) v.number?

def integerOf (v : Value) : Result Int64 := orFault (.notInteger f v.kind) v.int?

def truncated (x : Float) : Result Value :=
  (orFault (.noInteger x) ((Binary64.truncate? x).bind Integer.ofInt?)).map .integer

def ofNumber (map : Float → Float) (v : Value) : Result Value := do
  return .float (map (← numberOf f v))

def ofPositive (map : Float → Float) (v : Value) : Result Value := do
  let x ← numberOf f v
  if x <= 0.0 then throw .domain else return .float (map x)

def integral (map : Float → Float) : Value → Result Value
  | .integer n => .ok (.integer n)
  | v => do truncated (map (← numberOf f v))

end Arguments

def toInteger : Value → Result Value
  | .integer n => .ok (.integer n)
  | .boolean b => .ok (.integer (if b then 1 else 0))
  | .float x => truncated x
  | .string s => (orFault (.noIntegerText s) (Integer.read? (Text.trim s.toList))).map .integer
  | v => .error (.inconvertible v.kind)

def toFloat : Value → Result Value
  | .string s => (orFault (.noFloatText s) (Decimal.read? (Text.trim s.toList))).map .float
  | v => (numberOf .float v).map .float

def absolute : Value → Result Value
  | .integer n => exactly n.toInt.natAbs
  | v => ofNumber .abs Float.abs v

/-- A number rounded to so many decimal places, a half to the even neighbour. -/
def roundPlaces (x : Float) (places : Int) : Float :=
  let factor := Binary64.powerOfTen (Max.max (-308) (Min.min 308 places))
  Binary64.roundTiesEven (x * factor) / factor

/-- The first of the arguments that none of the later ones exceeds in the sense of `op`. -/
def best (op : Comparison) (first : Value) : List Value → Result Value
  | [] => .ok first
  | v :: rest => do
    if ← comparison v op first then best op v rest else best op first rest

def Builtin.value (f : Builtin) (arguments : List Value) : Result Value :=
  match f, arguments with
  | len, [.string s] => .ok (.integer (Int64.ofNat s.length))
  | len, [.object fields] => .ok (.integer (Int64.ofNat fields.length))
  | len, [v] => .error (.noLength v.kind)
  | str, [v] => .ok (.string v.text)
  | int, [v] => toInteger v
  | float, [v] => toFloat v
  | bool, [v] => .ok (.boolean v.truth)
  | abs, [v] => absolute v
  | round, [v] => integral round Binary64.roundTiesEven v
  | round, [v, places] => do
    let x ← numberOf round v
    return .float (roundPlaces x (← integerOf round places).toInt)
  | min, v :: rest => best .lt v rest
  | max, v :: rest => best .gt v rest
  | sqrt, [v] => do
    let x ← numberOf sqrt v
    if x < 0.0 then throw .domain else return .float x.sqrt
  | pow, [v, w] => do
    let x ← numberOf pow v
    return .float (x.pow (← numberOf pow w))
  | floor, [v] => integral floor Binary64.floor v
  | ceil, [v] => integral ceil Binary64.ceil v
  | fabs, [v] => ofNumber fabs Float.abs v
  | exp, [v] => ofNumber exp Float.exp v
  | log, [v] => ofPositive log Float.log v
  | log, [v, base] => do
    let x ← numberOf log v
    if x <= 0.0 then throw .domain
    return .float (x.log / (← numberOf log base).log)
  | log10, [v] => ofPositive log10 Float.log10 v
  | log2, [v] => ofPositive log2 Float.log2 v
  | sin, [v] => ofNumber sin Float.sin v
  | cos, [v] => ofNumber cos Float.cos v
  | tan, [v] => ofNumber tan Float.tan v
  | _, _ => .error (.arity f arguments.length)

def Builtin.apply (f : Builtin) (arguments : List Value) : Drawing Value :=
  match f, arguments with
  | random, [] => do return .float (← modifyGet Draws.unit)
  | randint, [v, w] => do
    let low ← integerOf randint v
    let high ← integerOf randint w
    if high.toInt < low.toInt then Drawn.fail (.emptyRange low high)
    else return .integer (Int64.ofInt (← modifyGet (Draws.between low.toInt high.toInt)))
  | uniform, [v, w] => do
    let low ← numberOf uniform v
    let high ← numberOf uniform w
    let t ← modifyGet Draws.unit
    return .float (low + (high - low) * t)
  | f, arguments => f.value arguments

end LineScript.Arith
