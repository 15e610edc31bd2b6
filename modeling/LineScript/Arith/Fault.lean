import LineScript.Arith.Symbol
import LineScript.Arith.Token
import LineScript.Error
import LineScript.Number.Hexadecimal
import LineScript.Number.Layout

/-!
Faults: why arithmetic text has no value, and in what words.

A fault is a cause with all that its message quotes. A message may quote tokens, in the form that a
system shows its data in; which characters above ASCII stand for themselves there depends on the
Unicode tables of the system, so messages are given for any choice of them.
-/

namespace LineScript.Arith

/-- Why arithmetic text has no value. -/
inductive Fault where
  | unclosed (text : String)
  | stray (c : Char)
  | badNumber (literal : String)
  | outOfRange (literal : String)
  | unexpected (found : Option Token)
  | leftOver (found : Token) (text : String)
  | expected (wanted : Token) (found : Option Token)
  | nameless (found : Option Token)
  | unseparated (found : Option Token)
  | undefined (name : String)
  | overflow
  /-- An exponent of integers does not fit in 32 bits. -/
  | exponent
  /-- A divisor is zero, of two integers or of other numbers. -/
  | zeroDivisor (op : Binary) (ints : Bool)
  | tooLong (op : Binary)
  | operand (op : Unary) (kind : Value.Kind)
  | operands (op : Binary) (left right : Value.Kind)
  | noOrder (op : Comparison) (left right : Value.Kind)
  | arity (f : Builtin) (given : Nat)
  | notNumber (f : Builtin) (kind : Value.Kind)
  | notInteger (f : Builtin) (kind : Value.Kind)
  | noLength (kind : Value.Kind)
  | inconvertible (kind : Value.Kind)
  | noInteger (x : Float)
  | noIntegerText (text : String)
  | noFloatText (text : String)
  | domain
  | emptyRange (low high : Int64)
deriving DecidableEq

abbrev Result (α : Type) := Except Fault α

def orFault {α : Type} (f : Fault) : Option α → Result α
  | some a => .ok a
  | none => .error f

/-! ## How tokens are shown -/

section Shown

variable (plain : Char → Bool)

/-- Whether a character stands for itself where data are shown: in ASCII all but the controls. -/
def standsForItself (c : Char) : Bool :=
  if c.toNat < 0x80 then 0x20 ≤ c.toNat && c.toNat < 0x7F else plain c

def shownChar : Char → String
  | '\x00' => "\\0"
  | '\t' => "\\t"
  | '\n' => "\\n"
  | '\r' => "\\r"
  | '"' => "\\\""
  | '\\' => "\\\\"
  | c =>
    if standsForItself plain c then c.toString
    else "\\u\x7b" ++ String.ofList (Nat.toDigits 16 c.toNat) ++ "\x7d"

def shownString (s : String) : String := "\"" ++ String.join (s.toList.map (shownChar plain)) ++ "\""

def Token.shown : Token → String
  | integer n => s!"Int({Integer.text n})"
  | float x => s!"Float({Layout.display.text x})"
  | string s => s!"Str({shownString plain s})"
  | word name => s!"Ident({shownString plain name})"
  | sign s => s!"Op({shownString plain s.symbol})"
  | leftParen => "LParen"
  | rightParen => "RParen"
  | comma => "Comma"
  | dot => "Dot"

def shownFound : Option Token → String
  | none => "None"
  | some token => s!"Some({token.shown plain})"

end Shown

/-! ## The wording of faults -/

def Builtin.expected (f : Builtin) : String :=
  match f.arity with
  | (least, some most) => if least = most then toString least else s!"{least} to {most}"
  | (least, none) => toString least

/-- A number in full, without an exponent, and without a point if it is integral. -/
def fullText (x : Float) : String :=
  let t := (Layout.text ⟨-400, 400, false, .up⟩ x).toList
  String.ofList (if ['.', '0'].isSuffixOf t then t.dropLast.dropLast else t)

namespace Fault

def kind : Fault → ErrorKind
  | undefined _ => .nameError
  | operand .. | operands .. | noOrder .. | arity .. | notNumber .. | notInteger .. | noLength _
  | inconvertible _ => .typeError
  | noInteger _ | noIntegerText _ | noFloatText _ | domain | emptyRange .. => .valueError
  | _ => .expression

def zeroText (ints : Bool) : Binary → String
  | .divide => "division by zero"
  | .modulo => if ints then "integer modulo by zero" else "float modulo by zero"
  | _ => if ints then "integer division by zero" else "float floor division by zero"

def message (plain : Char → Bool) : Fault → String
  | unclosed text => s!"unterminated string in '{text}'"
  | stray c => s!"unexpected character '{c}'"
  | badNumber literal => s!"invalid number '{literal}'"
  | outOfRange literal => s!"integer '{literal}' out of range"
  | unexpected found => s!"unexpected {shownFound plain found}"
  | leftOver found text => s!"unexpected {found.shown plain} in '{text}'"
  | expected wanted found => s!"expected {wanted.shown plain}, found {shownFound plain found}"
  | nameless found => s!"expected a name after '.', found {shownFound plain found}"
  | unseparated found => s!"expected ',' or ')', found {shownFound plain found}"
  | undefined name => s!"name '{name}' is not defined"
  | overflow => "integer overflow"
  | exponent => "exponent too large"
  | zeroDivisor op ints => zeroText ints op
  | tooLong op =>
    if op = .add then "concatenated string is too long" else "repeated string is too long"
  | operand op kind => s!"bad operand type for unary {op.symbol}: {kind.name}"
  | operands op left right =>
    s!"unsupported operand types for {op.symbol}: {left.name} and {right.name}"
  | noOrder op left right => s!"'{op.symbol}' not supported between {left.name} and {right.name}"
  | arity f given =>
    if f.arity.2.isNone then s!"{f.name}() expects at least {f.expected} argument"
    else s!"{f.name}() takes {f.expected} argument(s), {given} given"
  | notNumber f kind => s!"{f.name}() expects a number, got {kind.name}"
  | notInteger f kind => s!"{f.name}() expects an integer, got {kind.name}"
  | noLength kind => s!"object of type {kind.name} has no len()"
  | inconvertible kind => s!"int() argument must be a string or a number, not {kind.name}"
  | noInteger x => s!"cannot convert {fullText x} to integer"
  | noIntegerText text => s!"invalid literal for int(): '{text}'"
  | noFloatText text => s!"could not convert string to float: '{text}'"
  | domain => "math domain error"
  | emptyRange low high => s!"empty range for randint({Integer.text low}, {Integer.text high})"

def error (plain : Char → Bool) (f : Fault) : Error := .stated f.kind (f.message plain)

end Fault

end LineScript.Arith
