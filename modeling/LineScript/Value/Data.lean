import LineScript.Json.Reader
import LineScript.Json.Writer
import LineScript.Value.Basic

/-!
Values as JSON data, and the text of a value.
-/

namespace LineScript

def maxStringBytes : Nat := 16 * 1024 * 1024

namespace Value

mutual

/-- The value that JSON data stands for. An array becomes an object whose keys are the decimal
positions, and an integer beyond 64 bits with a sign becomes a floating-point number. -/
def ofJson : Json → Value
  | .null => null
  | .boolean b => boolean b
  | .integer n =>
    match Integer.ofInt? n with
    | some n => integer n
    | none => float (Binary64.ofInt n)
  | .float x => float x
  | .string s => string s
  | .array items => object (Entries.ofList (ofItems 0 items))
  | .object members => object (ofMembers members)
termination_by structural j => j

def ofItems (i : Nat) : List Json → List (String × Value)
  | [] => []
  | j :: rest => (toString i, ofJson j) :: ofItems (i + 1) rest
termination_by structural js => js

def ofMembers : List (String × Json) → List (String × Value)
  | [] => []
  | (k, j) :: rest => (k, ofJson j) :: ofMembers rest
termination_by structural js => js

end

mutual

/-- A value as JSON data. A number that is not finite becomes null. -/
def toJson : Value → Json
  | null => .null
  | boolean b => .boolean b
  | integer n => .integer n.toInt
  | float x => if x.isFinite then .float x else .null
  | string s => .string s
  | object fields => .object (toMembers fields)
termination_by structural v => v

def toMembers : List (String × Value) → List (String × Json)
  | [] => []
  | (k, v) :: rest => (k, toJson v) :: toMembers rest
termination_by structural fields => fields

end

/-- The text of a value: a string is its own text, and an object is its JSON text on one line. -/
def text : Value → String
  | null => "null"
  | boolean b => if b then "true" else "false"
  | integer n => Integer.text n
  | float x => Layout.display.text x
  | string s => s
  | object fields => (toJson (object fields)).compact

def read (s : String) : Except Json.Error Value := (Json.read s).map ofJson

end Value

end LineScript
