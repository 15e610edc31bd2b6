import LineScript.Number.Hexadecimal
import LineScript.Text.Words

/-!
Spans: the rows of a table of characters.

A table is written as text, a row after the other with blanks between them: the first and the last
character of a span in capital hexadecimal digits, a sign for its kind, and the numbers that go with
it, with points between them. A span of one character has no last one.
-/

namespace LineScript.Unicode

structure Span where
  first : Nat
  last : Nat
  sign : Option Char
  values : List Nat
deriving DecidableEq

namespace Span

/-- The digits of a row: capital ones, since small letters are signs. -/
def isRowDigit (c : Char) : Bool := c.isDigit || ('A' ≤ c && c ≤ 'F')

def number? (t : Text) : Option (Nat × Text) :=
  (Hexadecimal.natural? (t.takeWhile isRowDigit)).map fun n => (n, t.dropWhile isRowDigit)

/-- Reads what follows the first character of a span: the last one, if there is another. -/
def last? (first : Nat) : Text → Option (Nat × Text)
  | '-' :: rest => number? rest
  | rest => some (first, rest)

def read? (row : Text) : Option Span := do
  let (first, rest) ← number? row
  let (last, rest) ← last? first rest
  match rest with
  | [] => return ⟨first, last, none, []⟩
  | [sign] => return ⟨first, last, some sign, []⟩
  | sign :: rest =>
    return ⟨first, last, some sign, ← (Text.pieces (· == '.') rest).mapM Hexadecimal.natural?⟩

def table (lines : List String) : List Span :=
  lines.flatMap fun line => (Text.words line.toList).filterMap read?

def holds (s : Span) (c : Char) : Bool := s.first ≤ c.toNat && c.toNat ≤ s.last

example : read? "41-5A>61".toList = some ⟨0x41, 0x5A, some '>', [0x61]⟩ := by decide +kernel

end Span

def spanOf? (table : List Span) (c : Char) : Option Span := table.find? (·.holds c)

end LineScript.Unicode
