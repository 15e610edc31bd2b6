import LineScript.Arith.Builtin
import LineScript.Arith.Tokens

/-!
The value of arithmetic text.

The text is read by one rule for each kind of construct, and each rule gives the value of what it has
read: a fault ends the reading where it arises, whatever stands behind. From the loosest to the
tightest there are `or`, `and`, `not`, comparisons, sums, products, signs, powers, and what stands
alone. Each rule is made from the next. A power takes a signed operand on its right, and parentheses
and arguments take any expression, so these rules are built to a given depth; a row of tokens nests
no deeper than it is long.

Operands are evaluated from left to right, all of them: neither `or` nor `and` nor a row of
comparisons leaves one out. A variable that holds an object has no value here.
-/

namespace LineScript.Arith

/-- The value of a name: a constant, or a variable that does not hold an object. -/
def lookup (vars : Table Value) (name : String) : Result Value :=
  match constant? name, vars.get? name with
  | some x, _ => .ok (.float x)
  | none, some (.object _) => .error (.undefined name)
  | none, some v => .ok v
  | none, none => .error (.undefined name)

def call (name : String) (arguments : List Value) : Drawing Value :=
  match builtins.lookup name with
  | some f => f.apply arguments
  | none => Drawn.fail (.undefined name)

/-! ## Operators and literals in a row of tokens -/

def orOperator? : Token → Option Binary
  | .word w => if w = "or" then some .or else none
  | _ => none

def andOperator? : Token → Option Binary
  | .word w => if w = "and" then some .and else none
  | _ => none

def sumOperator? : Token → Option Binary
  | .sign .plus => some .add
  | .sign .minus => some .subtract
  | _ => none

def productOperator? : Token → Option Binary
  | .sign .times => some .multiply
  | .sign .floorDivide => some .floorDivide
  | .sign .divide => some .divide
  | .sign .percent => some .modulo
  | _ => none

def wordLiteral? (w : String) : Option Literal :=
  if w = "true" ∨ w = "True" then some (.boolean true)
  else if w = "false" ∨ w = "False" then some (.boolean false)
  else if w = "null" ∨ w = "None" then some .null
  else none

def isQualifier (w : String) : Bool := w == "math" || w == "random"

/-! ## The rules -/

/-- Takes something off the front of a row of tokens, and gives its value and the tokens behind it. -/
abbrev Reader (α : Type) := List Token → Drawing (α × List Token)

namespace Reader

/-- Goes on after a left operand: operators and right operands, at most `count` of them, grouped to
the left. -/
def leftTail (operator? : Token → Option Binary) (operand : Reader Value) :
    (count : Nat) → Value → Reader Value
  | count + 1, left, t :: ts =>
    match operator? t with
    | none => pure (left, t :: ts)
    | some op => do
      let (right, rest) ← operand ts
      leftTail operator? operand count (← op.apply left right) rest
  | _, left, ts => pure (left, ts)

def leftGrouped (operator? : Token → Option Binary) (operand : Reader Value) : Reader Value :=
  fun ts => do
    let (left, rest) ← operand ts
    leftTail operator? operand rest.length left rest

def negated (operand : Reader Value) : Reader Value
  | .word w :: ts =>
    if w = "not" then do
      let (v, rest) ← negated operand ts
      return (← Unary.not.apply v, rest)
    else operand (.word w :: ts)
  | ts => operand ts

/-- Goes on after the left operand of a comparison: operators and operands, at most `count` of them.
Each operand is compared as soon as it is read; `held` tells whether all before have held. -/
def chainTail (operand : Reader Value) : (count : Nat) → Value → (held : Bool) → Reader Bool
  | count + 1, left, held, .sign (.compare op) :: ts => do
    let (right, rest) ← operand ts
    let holds ← comparison left op right
    chainTail operand count right (held && holds) rest
  | _, _, held, ts => pure (held, ts)

def chained (operand : Reader Value) : Reader Value := fun ts => do
  match ← operand ts with
  | (left, .sign (.compare op) :: rest) => do
    let (holds, rest) ← chainTail operand (rest.length + 1) left true (.sign (.compare op) :: rest)
    return (.boolean holds, rest)
  | (left, rest) => return (left, rest)

def signed (operand : Reader Value) : Reader Value
  | .sign .minus :: ts => do
    let (v, rest) ← signed operand ts
    return (← Unary.minus.apply v, rest)
  | .sign .plus :: ts => do
    let (v, rest) ← signed operand ts
    return (← Unary.plus.apply v, rest)
  | ts => operand ts

def powered (base exponent : Reader Value) : Reader Value := fun ts => do
  match ← base ts with
  | (left, .sign .power :: rest) => do
    let (right, rest) ← exponent rest
    return (← power left right, rest)
  | (left, rest) => return (left, rest)

def argumentsFrom (inner : Reader Value) : (count : Nat) → Reader (List Value)
  | 0, ts => Drawn.fail (.unexpected ts.head?)
  | count + 1, ts => do
    match ← inner ts with
    | (v, .comma :: rest) => do
      let (vs, rest) ← argumentsFrom inner count rest
      return (v :: vs, rest)
    | (v, .rightParen :: rest) => return ([v], rest)
    | (_, rest) => Drawn.fail (.unseparated rest.head?)

def arguments (inner : Reader Value) : Reader (List Value)
  | .rightParen :: rest => pure ([], rest)
  | ts => argumentsFrom inner ts.length ts

variable (vars : Table Value)

def named (inner : Reader Value) (name : String) : Reader Value
  | .leftParen :: ts => do
    let (values, rest) ← arguments inner ts
    return (← call name values, rest)
  | ts => do return (← lookup vars name, ts)

def worded (inner : Reader Value) (w : String) : Reader Value := fun ts =>
  match wordLiteral? w, ts with
  | some l, ts => pure (l.value, ts)
  | none, .dot :: rest =>
    if isQualifier w then
      match rest with
      | .word member :: rest => named vars inner (w ++ "." ++ member) rest
      | rest => Drawn.fail (.nameless rest.head?)
    else named vars inner w (.dot :: rest)
  | none, ts => named vars inner w ts

def atom (inner : Reader Value) : Reader Value
  | .integer n :: ts => pure (.integer n, ts)
  | .float x :: ts => pure (.float x, ts)
  | .string s :: ts => pure (.string s, ts)
  | .word w :: ts => worded vars inner w ts
  | .leftParen :: ts => do
    match ← inner ts with
    | (v, .rightParen :: rest) => return (v, rest)
    | (_, rest) => Drawn.fail (.expected .rightParen rest.head?)
  | ts => Drawn.fail (.unexpected ts.head?)

def product (operand : Reader Value) : Reader Value := leftGrouped productOperator? operand

def sum (operand : Reader Value) : Reader Value := leftGrouped sumOperator? (product operand)

def comparison (operand : Reader Value) : Reader Value := chained (sum operand)

def negation (operand : Reader Value) : Reader Value := negated (comparison operand)

def conjunction (operand : Reader Value) : Reader Value :=
  leftGrouped andOperator? (negation operand)

def expression (operand : Reader Value) : Reader Value :=
  leftGrouped orOperator? (conjunction operand)

def factor (operand : Reader Value) : Reader Value :=
  powered (atom vars (expression operand)) operand

/-- A signed operand in which powers and parentheses nest less than `depth` deep. -/
def operand : (depth : Nat) → Reader Value
  | 0 => fun ts => Drawn.fail (.unexpected ts.head?)
  | depth + 1 => signed (factor vars (operand depth))

end Reader

def evaluate (vars : Table Value) (t : Text) : Drawing Value := do
  let ts ← Token.ofText t
  match ← Reader.expression (Reader.operand vars ts.length) ts with
  | (v, []) => return v
  | (_, found :: _) => Drawn.fail (.leftOver found (String.ofList t))

end LineScript.Arith
