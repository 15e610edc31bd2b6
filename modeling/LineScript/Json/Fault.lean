import LineScript.Text.Blank

/-!
What can be wrong with JSON text, and where.

A reader stops with a fault and the number of bytes it has not read. From that and the text follow
the line, and the number of bytes of the line up to the one it stopped at.
-/

namespace LineScript

namespace Text

def byteCount (t : Text) : Nat := t.foldl (fun n c => n + c.utf8Size) 0

end Text

namespace Json

inductive Fault where
  | endInList
  | endInObject
  | endInString
  | endInValue
  | expectedColon
  | expectedCommaOrBracket
  | expectedCommaOrBrace
  | expectedIdent
  | expectedValue
  | invalidEscape
  | invalidNumber
  | numberOutOfRange
  | controlCharacter
  | keyNotString
  | loneSurrogate
  | endOfHexEscape
  | trailingComma
  | trailingCharacters
  | tooDeep
deriving DecidableEq

def Fault.text : Fault → String
  | endInList => "EOF while parsing a list"
  | endInObject => "EOF while parsing an object"
  | endInString => "EOF while parsing a string"
  | endInValue => "EOF while parsing a value"
  | expectedColon => "expected `:`"
  | expectedCommaOrBracket => "expected `,` or `]`"
  | expectedCommaOrBrace => "expected `,` or `\x7d`"
  | expectedIdent => "expected ident"
  | expectedValue => "expected value"
  | invalidEscape => "invalid escape"
  | invalidNumber => "invalid number"
  | numberOutOfRange => "number out of range"
  | controlCharacter => "control character (\\u0000-\\u001F) found while parsing a string"
  | keyNotString => "key must be a string"
  | loneSurrogate => "lone leading surrogate in hex escape"
  | endOfHexEscape => "unexpected end of hex escape"
  | trailingComma => "trailing comma"
  | trailingCharacters => "trailing characters"
  | tooDeep => "recursion limit exceeded"

/-- Where and why reading stopped: the fault, and how many bytes were left unread. -/
structure Stop where
  fault : Fault
  unread : Nat
deriving DecidableEq

def Stop.before (fault : Fault) (rest : Text) : Stop := ⟨fault, Text.byteCount rest⟩

/-- A stop at the first byte of `rest`, or at the end if there is none. -/
def Stop.on (fault : Fault) (rest : Text) : Stop := ⟨fault, Text.byteCount rest - 1⟩

/-- The line and column that `bytes` more bytes lead to. -/
def advance (line column : Nat) : (bytes : Nat) → Text → Nat × Nat
  | _, [] => (line, column)
  | bytes, c :: rest =>
    if bytes = 0 then (line, column)
    else if bytes < c.utf8Size then (line, column + bytes)
    else if c = '\n' then advance (line + 1) 0 (bytes - 1) rest
    else advance line (column + c.utf8Size) (bytes - c.utf8Size) rest

structure Error where
  fault : Fault
  line : Nat
  column : Nat
deriving DecidableEq

def Stop.error (t : Text) (stop : Stop) : Error :=
  let (line, column) := advance 1 0 (Text.byteCount t - stop.unread) t
  ⟨stop.fault, line, column⟩

def Error.message (e : Error) : String :=
  s!"{e.fault.text} at line {e.line} column {e.column}"

end Json

end LineScript
