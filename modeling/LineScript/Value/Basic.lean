import LineScript.Number.Binary64
import LineScript.Table

/-!
Values of the language, and the values inside an object.

An object holds its fields in the order of their keys. The type cannot carry this itself: its values
are nested in the list of fields, and a constructor says nothing about what is nested in it. It is
the property `Value.InOrder` of all values that are read, and of all that a session comes to hold.

A list of data is an object whose keys are the decimal positions.
-/

namespace LineScript

inductive Value where
  | null
  | boolean (b : Bool)
  | integer (n : Int64)
  | float (x : Float)
  | string (s : String)
  | object (fields : List (String × Value))
deriving Inhabited

inductive Value.Kind where
  | null
  | boolean
  | integer
  | float
  | string
  | object
deriving DecidableEq

namespace Value

def Kind.name : Kind → String
  | null => "null"
  | boolean => "boolean"
  | integer => "integer"
  | float => "float"
  | string => "string"
  | object => "object"

def kind : Value → Kind
  | null => .null
  | boolean _ => .boolean
  | integer _ => .integer
  | float _ => .float
  | string _ => .string
  | object _ => .object

/-- Whether a value counts as true: all but null, false, zero and the empty string. -/
def truth : Value → Bool
  | null => false
  | boolean b => b
  | integer n => n != 0
  | float x => x != 0.0
  | string s => !s.isEmpty
  | object _ => true

/-- A number as a floating-point number, where a boolean counts as 0 or 1. -/
def number? : Value → Option Float
  | integer n => some (Binary64.ofInt n.toInt)
  | float x => some x
  | boolean b => some (if b then 1.0 else 0.0)
  | _ => none

def int? : Value → Option Int64
  | integer n => some n
  | boolean b => some (if b then 1 else 0)
  | _ => none

def field (v : Value) (key : String) : Value :=
  match v with
  | object fields => (Entries.get? key fields).getD null
  | _ => null

/-- The value at the end of a path of keys; null as soon as the path leaves the data. -/
def follow (v : Value) (path : List String) : Value := path.foldl field v

theorem follow_append (v : Value) (p q : List String) :
    v.follow (p ++ q) = (v.follow p).follow q := List.foldl_append

@[simp] theorem follow_null (path : List String) : null.follow path = null := by
  induction path with
  | nil => rfl
  | cons key rest ih => exact ih

mutual

/-- Whether two values are equal part by part. Numbers of the two kinds differ, and numbers of one
kind are compared as numbers. -/
def same : Value → Value → Bool
  | null, null => true
  | boolean a, boolean b => a == b
  | integer a, integer b => a == b
  | float a, float b => a == b
  | string a, string b => a == b
  | object a, object b => sameFields a b
  | _, _ => false
termination_by structural v => v

def sameFields : List (String × Value) → List (String × Value) → Bool
  | [], [] => true
  | (k, v) :: rest, (k', v') :: rest' => k == k' && v.same v' && sameFields rest rest'
  | _, _ => false
termination_by structural fields => fields

end

end Value

end LineScript
