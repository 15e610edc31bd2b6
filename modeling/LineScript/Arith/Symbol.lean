import LineScript.Comparison

/-!
The symbols of arithmetic: its operators, its functions and constants, and the values that are written out.
-/

namespace LineScript.Arith

inductive Unary where
  | not
  | minus
  | plus
deriving DecidableEq

def Unary.symbol : Unary → String
  | not => "not"
  | minus => "-"
  | plus => "+"

inductive Binary where
  | or
  | and
  | add
  | subtract
  | multiply
  | divide
  | floorDivide
  | modulo
  | power
deriving DecidableEq

def Binary.symbol : Binary → String
  | or => "or"
  | and => "and"
  | add => "+"
  | subtract => "-"
  | multiply => "*"
  | divide => "/"
  | floorDivide => "//"
  | modulo => "%"
  | power => "**"

inductive Literal where
  | null
  | boolean (b : Bool)
  | integer (n : Int64)
  | float (x : Float)
  | string (s : String)
deriving DecidableEq

def Literal.value : Literal → Value
  | null => .null
  | boolean b => .boolean b
  | integer n => .integer n
  | float x => .float x
  | string s => .string s

inductive Builtin where
  | len
  | str
  | int
  | float
  | bool
  | abs
  | round
  | min
  | max
  | sqrt
  | pow
  | floor
  | ceil
  | fabs
  | exp
  | log
  | log10
  | log2
  | sin
  | cos
  | tan
  | random
  | randint
  | uniform
deriving DecidableEq

def builtins : List (String × Builtin) :=
  [("len", .len), ("str", .str), ("int", .int), ("float", .float), ("bool", .bool),
   ("abs", .abs), ("round", .round), ("min", .min), ("max", .max),
   ("math.sqrt", .sqrt), ("math.pow", .pow), ("math.floor", .floor), ("math.ceil", .ceil),
   ("math.fabs", .fabs), ("math.exp", .exp), ("math.log", .log), ("math.log10", .log10),
   ("math.log2", .log2), ("math.sin", .sin), ("math.cos", .cos), ("math.tan", .tan),
   ("random.random", .random), ("random.randint", .randint), ("random.uniform", .uniform)]

def Builtin.name (f : Builtin) : String := ((builtins.find? (·.2 = f)).map (·.1)).getD ""

/-- The least and the greatest number of arguments of a function; `min` and `max` take any number from one
on. -/
def Builtin.arity : Builtin → Nat × Option Nat
  | random => (0, some 0)
  | round | log => (1, some 2)
  | pow | randint | uniform => (2, some 2)
  | min | max => (1, none)
  | _ => (1, some 1)

/-- The constants under their names, as the floating-point numbers nearest to them. -/
def constant? (name : String) : Option Float :=
  [("math.pi", 3.141592653589793), ("math.e", 2.718281828459045),
   ("math.tau", 6.283185307179586), ("math.inf", 1.0 / 0.0)].lookup name

end LineScript.Arith
