/-!
JSON data: the tree that a text stands for.

An object keeps its members in the order of their keys, each key once; `Entries.insert` keeps it so.
-/

namespace LineScript

/-- A JSON value. A number is an integer of at most 64 bits or a finite floating-point number. -/
inductive Json where
  | null
  | boolean (b : Bool)
  | integer (n : Int)
  | float (x : Float)
  | string (s : String)
  | array (items : List Json)
  | object (members : List (String × Json))
deriving Inhabited

end LineScript
