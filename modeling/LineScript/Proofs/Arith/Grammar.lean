import LineScript.Arith.Evaluate

/-!
# Expression trees

The tree that a row of tokens is read as, and its value by plain recursion. The readers here stand
beside the rules that evaluate while they read, one for each.
-/

namespace LineScript.Arith

inductive Expr where
  | literal (l : Literal)
  | name (n : String)
  | unary (op : Unary) (operand : Expr)
  | binary (op : Binary) (left right : Expr)
  /-- A comparison, or several in a row: each operand is compared with the next. -/
  | chain (first : Expr) (more : List (Comparison × Expr))
  | call (function : String) (arguments : List Expr)
deriving Inhabited

/-! ## Reading -/

abbrev Parser := List Token → Option (Expr × List Token)

/-- Goes on after a left operand: operators and right operands, at most `count` of them, grouped to
the left. -/
def leftTail (operator? : Token → Option Binary) (operand : Parser) : (count : Nat) → Expr → Parser
  | count + 1, left, t :: ts =>
    match operator? t with
    | none => some (left, t :: ts)
    | some op =>
      match operand ts with
      | none => none
      | some (right, rest) => leftTail operator? operand count (.binary op left right) rest
  | _, left, ts => some (left, ts)

def leftGrouped (operator? : Token → Option Binary) (operand : Parser) : Parser := fun ts =>
  match operand ts with
  | none => none
  | some (left, rest) => leftTail operator? operand rest.length left rest

def negated (operand : Parser) : Parser
  | .word w :: ts =>
    if w = "not" then (negated operand ts).map fun (e, rest) => (.unary .not e, rest)
    else operand (.word w :: ts)
  | ts => operand ts

def chainTail (operand : Parser) : (count : Nat) → List Token →
    Option (List (Comparison × Expr) × List Token)
  | count + 1, .sign (.compare op) :: ts =>
    match operand ts with
    | none => none
    | some (right, rest) =>
      (chainTail operand count rest).map fun (more, rest) => ((op, right) :: more, rest)
  | _, ts => some ([], ts)

def chained (operand : Parser) : Parser := fun ts =>
  match operand ts with
  | none => none
  | some (first, rest) =>
    match chainTail operand rest.length rest with
    | none => none
    | some ([], rest) => some (first, rest)
    | some (more, rest) => some (.chain first more, rest)

def signed (operand : Parser) : Parser
  | .sign .minus :: ts => (signed operand ts).map fun (e, rest) => (.unary .minus e, rest)
  | .sign .plus :: ts => (signed operand ts).map fun (e, rest) => (.unary .plus e, rest)
  | ts => operand ts

def powered (base exponent : Parser) : Parser := fun ts =>
  match base ts with
  | some (b, .sign .power :: rest) =>
    (exponent rest).map fun (e, rest) => (.binary .power b e, rest)
  | result => result

def argumentsFrom (inner : Parser) : (count : Nat) → List Token → Option (List Expr × List Token)
  | 0, _ => none
  | count + 1, ts =>
    match inner ts with
    | some (e, .comma :: rest) =>
      (argumentsFrom inner count rest).map fun (es, rest) => (e :: es, rest)
    | some (e, .rightParen :: rest) => some ([e], rest)
    | _ => none

def arguments (inner : Parser) : List Token → Option (List Expr × List Token)
  | .rightParen :: rest => some ([], rest)
  | ts => argumentsFrom inner ts.length ts

def named (inner : Parser) (name : String) : Parser
  | .leftParen :: ts => (arguments inner ts).map fun (es, rest) => (.call name es, rest)
  | ts => some (.name name, ts)

def worded (inner : Parser) (w : String) : Parser := fun ts =>
  match wordLiteral? w, ts with
  | some l, ts => some (.literal l, ts)
  | none, .dot :: rest =>
    if isQualifier w then
      match rest with
      | .word member :: rest => named inner (w ++ "." ++ member) rest
      | _ => none
    else some (.name w, .dot :: rest)
  | none, ts => named inner w ts

def atom (inner : Parser) : Parser
  | .integer n :: ts => some (.literal (.integer n), ts)
  | .float x :: ts => some (.literal (.float x), ts)
  | .string s :: ts => some (.literal (.string s), ts)
  | .word w :: ts => worded inner w ts
  | .leftParen :: ts =>
    match inner ts with
    | some (e, .rightParen :: rest) => some (e, rest)
    | _ => none
  | _ => none

def expression (operand : Parser) : Parser :=
  leftGrouped orOperator? <| leftGrouped andOperator? <| negated <| chained <|
    leftGrouped sumOperator? <| leftGrouped productOperator? operand

/-- A signed operand in which powers and parentheses nest less than `depth` deep. -/
def operand : (depth : Nat) → Parser
  | 0 => fun _ => none
  | depth + 1 => signed (powered (atom (expression (operand depth))) (operand depth))

def Expr.ofTokens? (ts : List Token) : Option Expr :=
  match expression (operand ts.length) ts with
  | some (e, []) => some e
  | _ => none

/-! ## Values -/

mutual

def Expr.eval (vars : Table Value) : Expr → Drawing Value
  | .literal l => pure l.value
  | .name n => lookup vars n
  | .unary op e => do op.apply (← e.eval vars)
  | .binary op l r => do
    let left ← l.eval vars
    let right ← r.eval vars
    op.apply left right
  | .chain first more => do
    let left ← first.eval vars
    return .boolean (← evalChain vars left more)
  | .call f arguments => do call f (← evalAll vars arguments)
termination_by structural e => e

def evalChain (vars : Table Value) (left : Value) :
    List (Comparison × Expr) → Drawing Bool
  | [] => pure true
  | (op, e) :: more => do
    let right ← e.eval vars
    let holds ← comparison left op right
    let others ← evalChain vars right more
    return holds && others
termination_by structural more => more

def evalAll (vars : Table Value) : List Expr → Drawing (List Value)
  | [] => pure []
  | e :: es => do
    let v ← e.eval vars
    let vs ← evalAll vars es
    return v :: vs
termination_by structural es => es

end

end LineScript.Arith
