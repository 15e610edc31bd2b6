import LineScript.Expression

/-!
Conditions: the texts that branches are decided by.

The words `and` and `or` get a blank on either side first, outside double quotes. Then the text is
cut at its first comparison outside double quotes that is not its first character and has something
on its right; without one, the text is an expression and its truth decides.
-/

namespace LineScript.Condition

def endsWord (t : Text) : Bool := !t.head?.any Text.isWordChar

/-- The text with blanks around the words `and` and `or` outside double quotes. `afterWord` tells
whether the character before is part of a word. -/
def padded (inQuotes afterWord : Bool) : Text → Text
  | 'a' :: 'n' :: 'd' :: rest =>
    if !inQuotes && !afterWord && endsWord rest then
      ' ' :: 'a' :: 'n' :: 'd' :: ' ' :: padded inQuotes false rest
    else 'a' :: padded inQuotes true ('n' :: 'd' :: rest)
  | 'o' :: 'r' :: rest =>
    if !inQuotes && !afterWord && endsWord rest then
      ' ' :: 'o' :: 'r' :: ' ' :: padded inQuotes false rest
    else 'o' :: padded inQuotes true ('r' :: rest)
  | c :: rest => c :: padded (inQuotes != (c == '"')) (Text.isWordChar c) rest
  | [] => []

/-- The comparison that a text starts with, if something is on its right. -/
def comparison? (t : Text) : Option (Comparison × Text) :=
  (Comparison.take? t).filter fun (_, right) => !(Text.trim right).isEmpty

/-- The text cut at its first comparison; `skip` says that none is looked for at the next
character. -/
def split (inQuotes skip : Bool) : Text → Option (Text × Comparison × Text)
  | [] => none
  | c :: rest =>
    let isQuote := c == '"'
    let found := if isQuote || inQuotes || skip then none else comparison? (c :: rest)
    match found with
    | some (op, right) => some ([], op, right)
    | none => (split (inQuotes != isQuote) false rest).map fun (left, cut) => (c :: left, cut)

def compare (left : Value) (op : Comparison) (right : Value) : Except Error Bool :=
  match left.compare? op right with
  | some b => .ok b
  | none => .error (.noOrder op left.kind right.kind)

def evaluate (t : Text) (vars : Table Value) : Expression.Drawing Bool :=
  let t := padded false false t
  match split false true t with
  | some (left, op, right) => do
    let l ← Expression.evaluate left vars
    let r ← Expression.evaluate right vars
    compare l op r
  | none => do return (← Expression.evaluate t vars).truth

end LineScript.Condition
