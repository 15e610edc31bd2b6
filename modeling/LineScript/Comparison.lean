import LineScript.Value.Basic
import LineScript.Text.Words

/-!
Comparisons: the six operators, and when they hold between two values.

Numbers compare as numbers, strings by code points, and false comes before true. Values of other
kinds, or of two kinds, have no order; they can only be equal or not.
-/

namespace LineScript

inductive Comparison where
  | eq
  | ne
  | lt
  | gt
  | le
  | ge
deriving DecidableEq

namespace Comparison

def symbol : Comparison → String
  | eq => "=="
  | ne => "!="
  | lt => "<"
  | gt => ">"
  | le => "<="
  | ge => ">="

def take? : Text → Option (Comparison × Text)
  | '=' :: '=' :: rest => some (eq, rest)
  | '!' :: '=' :: rest => some (ne, rest)
  | '>' :: '=' :: rest => some (ge, rest)
  | '<' :: '=' :: rest => some (le, rest)
  | '>' :: rest => some (gt, rest)
  | '<' :: rest => some (lt, rest)
  | _ => none

def holds : Comparison → Ordering → Bool
  | eq, o => o == .eq
  | ne, o => o != .eq
  | lt, o => o == .lt
  | gt, o => o == .gt
  | le, o => o != .gt
  | ge, o => o != .lt

end Comparison

inductive Relation where
  | ordered (o : Ordering)
  /-- They are numbers, and one of them is not a number. -/
  | unordered
  | unrelated
deriving DecidableEq

namespace Value

def relateFloats (x y : Float) : Relation :=
  if x < y then .ordered .lt
  else if x == y then .ordered .eq
  else if y < x then .ordered .gt
  else .unordered

def relate : Value → Value → Relation
  | integer a, integer b => .ordered (compare a.toInt b.toInt)
  | integer a, float y => relateFloats (Binary64.ofInt a.toInt) y
  | float x, integer b => relateFloats x (Binary64.ofInt b.toInt)
  | float x, float y => relateFloats x y
  | string a, string b => .ordered (if a < b then .lt else if a = b then .eq else .gt)
  | boolean a, boolean b => .ordered (compare a.toNat b.toNat)
  | null, null => .ordered .eq
  | _, _ => .unrelated

/-- Whether a comparison holds; none if it asks for an order where there is none. -/
def compare? (left : Value) (op : Comparison) (right : Value) : Option Bool :=
  match left.relate right, op with
  | .ordered o, op => some (op.holds o)
  | .unordered, op => some (op == .ne)
  | .unrelated, .eq => some (left.same right)
  | .unrelated, .ne => some (!left.same right)
  | .unrelated, _ => none

end Value

end LineScript
