import LineScript.Arith.Evaluate
import LineScript.Error

/-!
Expressions: the texts that statements take their values from.

An expression is, in this order: a simple text (a string in quotes, a number, a variable, a path
into an object), simple texts joined with plus signs, or arithmetic. So a plus sign outside double
quotes always joins, and never adds.
-/

namespace LineScript.Expression

abbrev Drawing (α : Type) := Drawn Error α

/-- The string between double quotes, if there are no others inside. -/
def quoted? : Text → Option Value
  | '"' :: rest =>
    match Text.splitFirst '"' rest with
    | some (inner, []) => some (.string (String.ofList inner))
    | _ => none
  | _ => none

def number? (t : Text) : Option Value :=
  if t.contains '.' then (Decimal.read? t).map .float else (Integer.read? t).map .integer

/-- The value at a path with dots into a variable that holds an object. -/
def dotted? (vars : Table Value) (t : Text) : Option Value :=
  match Text.splitFirst '.' t with
  | none => none
  | some (name, path) =>
    if Text.isIdentifier name then
      match vars.get? (String.ofList name) with
      | some (.object fields) =>
        some ((Value.object fields).follow ((Text.pieces (· == '.') path).map String.ofList))
      | _ => none
    else none

def simple? (vars : Table Value) (t : Text) : Option Value :=
  quoted? t <|> number? t <|> vars.get? (String.ofList t) <|> dotted? vars t

def summands (inQuotes : Bool) : Text → List Text
  | [] => [[]]
  | c :: rest =>
    if c == '+' && !inQuotes then [] :: summands inQuotes rest
    else
      match summands (inQuotes != (c == '"')) rest with
      | [] => [[c]]
      | p :: ps => (c :: p) :: ps

/-- What a piece adds to a concatenation: nothing if it has no simple value or is null. -/
def pieceText? (vars : Table Value) (piece : Text) : Option String :=
  match simple? vars (Text.trim piece) with
  | none | some .null => none
  | some v => some v.text

def joinAfter (joined : String) : List String → Except Error String
  | [] => .ok joined
  | s :: rest =>
    if maxStringBytes < joined.utf8ByteSize + s.utf8ByteSize then .error .tooLong
    else joinAfter (joined ++ s) rest

/-- The value of arithmetic text; every fault is told as the whole text having no value. -/
def arithmetic (vars : Table Value) (t : Text) : Drawing Value := fun draws =>
  match Arith.evaluate vars t draws with
  | .ok result => .ok result
  | .error (_, draws) => .error (.noValue (String.ofList t), draws)

def evaluate (t : Text) (vars : Table Value) : Drawing Value :=
  let t := Text.trim t
  match simple? vars t, summands false t with
  | some v, _ => pure v
  | none, [] | none, [_] => arithmetic vars t
  | none, pieces => do return .string (← joinAfter "" (pieces.filterMap (pieceText? vars)))

theorem summands_ne_nil (inQuotes : Bool) (t : Text) : summands inQuotes t ≠ [] := by
  unfold summands
  split
  · simp
  · split
    · simp
    · split <;> simp

end LineScript.Expression
