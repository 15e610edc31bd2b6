import LineScript.Json.Basic
import LineScript.Number.Hexadecimal
import LineScript.Number.Layout

/-!
JSON text: a compact form on one line, and a pretty form with one member or item a line.

Strings keep every character but the quote, the backslash and the controls below U+0020.
-/

namespace LineScript.Json

def escape (c : Char) : List Char :=
  match c with
  | '"' => ['\\', '"']
  | '\\' => ['\\', '\\']
  | '\x08' => ['\\', 'b']
  | '\x0c' => ['\\', 'f']
  | '\n' => ['\\', 'n']
  | '\r' => ['\\', 'r']
  | '\t' => ['\\', 't']
  | c =>
    if c.toNat < 0x20 then
      ['\\', 'u', '0', '0', Hexadecimal.small (c.toNat / 16), Hexadecimal.small (c.toNat % 16)]
    else [c]

def quoted (s : String) : List Char := '"' :: s.toList.flatMap escape ++ ['"']

/-- A value without members or items: a number that is not finite has no text and is null. -/
def scalar : Json → List Char
  | .boolean b => (if b then "true" else "false").toList
  | .integer n => (toString n).toList
  | .float x => if x.isFinite then (Layout.interchange.text x).toList else "null".toList
  | .string s => quoted s
  | _ => "null".toList

mutual

def compactChars : Json → List Char
  | .array items => '[' :: compactItems items ++ [']']
  | .object members => '\x7b' :: compactMembers members ++ ['\x7d']
  | v => scalar v
termination_by structural v => v

def compactItems : List Json → List Char
  | [] => []
  | [v] => compactChars v
  | v :: w :: rest => compactChars v ++ ',' :: compactItems (w :: rest)
termination_by structural vs => vs

def compactMembers : List (String × Json) → List Char
  | [] => []
  | [(k, v)] => quoted k ++ ':' :: compactChars v
  | (k, v) :: m :: rest => quoted k ++ ':' :: compactChars v ++ ',' :: compactMembers (m :: rest)
termination_by structural ms => ms

end

/-- A line end, and two blanks for every level of nesting. -/
def lineBreak (level : Nat) : List Char := '\n' :: List.replicate (2 * level) ' '

mutual

def prettyChars (level : Nat) : Json → List Char
  | .array [] => ['[', ']']
  | .array (v :: rest) => '[' :: prettyItems level (v :: rest) ++ lineBreak level ++ [']']
  | .object [] => ['\x7b', '\x7d']
  | .object (m :: rest) =>
    '\x7b' :: prettyMembers level (m :: rest) ++ lineBreak level ++ ['\x7d']
  | v => scalar v
termination_by structural v => v

def prettyItems (level : Nat) : List Json → List Char
  | [] => []
  | [v] => lineBreak (level + 1) ++ prettyChars (level + 1) v
  | v :: w :: rest =>
    lineBreak (level + 1) ++ prettyChars (level + 1) v ++ ',' :: prettyItems level (w :: rest)
termination_by structural vs => vs

def prettyMembers (level : Nat) : List (String × Json) → List Char
  | [] => []
  | [(k, v)] => lineBreak (level + 1) ++ quoted k ++ ':' :: ' ' :: prettyChars (level + 1) v
  | (k, v) :: m :: rest =>
    lineBreak (level + 1) ++ quoted k ++ ':' :: ' ' :: prettyChars (level + 1) v ++
      ',' :: prettyMembers level (m :: rest)
termination_by structural ms => ms

end

def compact (v : Json) : String := String.ofList (compactChars v)

def pretty (v : Json) : String := String.ofList (prettyChars 0 v)

example : compact (.object [("a", .array [.integer 1, .null]), ("b", .string "x\ty")]) =
    "\x7b\"a\":[1,null],\"b\":\"x\\ty\"\x7d" := by decide +kernel

end LineScript.Json
