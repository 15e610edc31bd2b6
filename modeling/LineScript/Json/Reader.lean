import LineScript.Json.Number
import LineScript.Number.Hexadecimal
import LineScript.Table

/-!
Reading JSON text.

A reader takes a text to a value and the text after it, or stops. Nesting is bounded: a value
reader is made from the reader for the values one level further in.
-/

namespace LineScript.Json

abbrev Reader (α : Type) := Text → Except Stop (α × Text)

def isSpace (c : Char) : Bool := c == ' ' || c == '\t' || c == '\n' || c == '\r'

def skipSpace (t : Text) : Text := t.dropWhile isSpace

/-- The stop at a text that does not start with four hexadecimal digits: four bytes are taken
whatever they are, if there are four. -/
def notHex (t : Text) : Stop :=
  if Text.byteCount t < 4 then .before .endInString [] else ⟨.invalidEscape, Text.byteCount t - 4⟩

def hexFour (t : Text) : Except Stop (Nat × Text) :=
  match t with
  | a :: b :: c :: d :: rest =>
    match Hexadecimal.value? a, Hexadecimal.value? b, Hexadecimal.value? c, Hexadecimal.value? d with
    | some a, some b, some c, some d => .ok (((a * 16 + b) * 16 + c) * 16 + d, rest)
    | _, _, _, _ => .error (notHex t)
  | t => .error (notHex t)

def lowSurrogate (high : Nat) : Text → Except Stop (Char × Text)
  | [] => .error (.before .endInString [])
  | '\\' :: [] => .error (.before .endInString [])
  | '\\' :: 'u' :: t =>
    match hexFour t with
    | .error stop => .error stop
    | .ok (low, rest) =>
      if 0xDC00 ≤ low && low ≤ 0xDFFF then
        .ok (Char.ofNat ((high - 0xD800) * 0x400 + (low - 0xDC00) + 0x10000), rest)
      else .error (.before .loneSurrogate rest)
  | '\\' :: t => .error (.on .endOfHexEscape t)
  | t => .error (.on .endOfHexEscape t)

def codePoint (t : Text) : Except Stop (Char × Text) :=
  match hexFour t with
  | .error stop => .error stop
  | .ok (n, rest) =>
    if 0xDC00 ≤ n && n ≤ 0xDFFF then .error (.before .loneSurrogate rest)
    else if 0xD800 ≤ n && n ≤ 0xDBFF then lowSurrogate n rest
    else .ok (Char.ofNat n, rest)

def escaped : Text → Except Stop (Char × Text)
  | [] => .error (.before .endInString [])
  | '"' :: rest => .ok ('"', rest)
  | '\\' :: rest => .ok ('\\', rest)
  | '/' :: rest => .ok ('/', rest)
  | 'b' :: rest => .ok ('\x08', rest)
  | 'f' :: rest => .ok ('\x0c', rest)
  | 'n' :: rest => .ok ('\n', rest)
  | 'r' :: rest => .ok ('\r', rest)
  | 't' :: rest => .ok ('\t', rest)
  | 'u' :: rest => codePoint rest
  | t => .error (.on .invalidEscape t)

theorem length_hexFour {t rest : Text} {n : Nat} (h : hexFour t = .ok (n, rest)) :
    rest.length < t.length := by
  unfold hexFour at h
  split at h
  · split at h
    · simp only [Except.ok.injEq, Prod.mk.injEq] at h
      rw [← h.2]
      simp only [List.length_cons]
      omega
    · cases h
  · cases h

theorem length_lowSurrogate {high : Nat} {t rest : Text} {c : Char}
    (h : lowSurrogate high t = .ok (c, rest)) : rest.length < t.length := by
  unfold lowSurrogate at h
  split at h <;> try simp at h
  · split at h
    · simp at h
    · next h' =>
      have := length_hexFour h'
      split at h
      · simp only [Except.ok.injEq, Prod.mk.injEq] at h
        rw [← h.2]
        simp only [List.length_cons]
        omega
      · simp at h

theorem length_codePoint {t rest : Text} {c : Char} (h : codePoint t = .ok (c, rest)) :
    rest.length < t.length := by
  unfold codePoint at h
  split at h
  · simp at h
  · next h' =>
    have := length_hexFour h'
    split at h
    · simp at h
    · split at h
      · have := length_lowSurrogate h
        omega
      · simp only [Except.ok.injEq, Prod.mk.injEq] at h
        rw [← h.2]
        omega

theorem length_escaped {t rest : Text} {c : Char} (h : escaped t = .ok (c, rest)) :
    rest.length < t.length := by
  unfold escaped at h
  split at h
  case h_1 => cases h
  case h_10 => exact Nat.lt_succ_of_lt (length_codePoint h)
  case h_11 => cases h
  all_goals
    simp only [Except.ok.injEq, Prod.mk.injEq] at h
    rw [← h.2]
    simp

def stringFrom (seen : List Char) : Reader String
  | [] => .error (.before .endInString [])
  | '"' :: rest => .ok (String.ofList seen.reverse, rest)
  | '\\' :: t =>
    match h : escaped t with
    | .error stop => .error stop
    | .ok (c, rest) =>
      have := length_escaped h
      stringFrom (c :: seen) rest
  | c :: rest =>
    if c.toNat < 0x20 then .error (.on .controlCharacter (c :: rest))
    else stringFrom (c :: seen) rest
termination_by t => t.length
decreasing_by all_goals (simp only [List.length_cons]; omega)

def wordRest (value : Json) : (expected : List Char) → Reader Json
  | [], rest => .ok (value, rest)
  | _ :: _, [] => .error (.before .endInValue [])
  | e :: expected, c :: rest =>
    if c = e then wordRest value expected rest else .error (.on .expectedIdent (c :: rest))

def items (item : Reader Json) (seen : List Json) : (count : Nat) → Reader Json
  | 0, t => .error (.on .endInList t)
  | count + 1, t =>
    match item t with
    | .error stop => .error stop
    | .ok (v, rest) =>
      match skipSpace rest with
      | [] => .error (.before .endInList [])
      | ']' :: rest => .ok (.array (v :: seen).reverse, rest)
      | ',' :: rest =>
        match skipSpace rest with
        | [] => .error (.before .endInValue [])
        | ']' :: rest => .error (.on .trailingComma (']' :: rest))
        | t => items item (v :: seen) count t
      | t => .error (.on .expectedCommaOrBracket t)

def arrayFrom (count : Nat) (item : Reader Json) : Reader Json := fun t =>
  match skipSpace t with
  | [] => .error (.before .endInList [])
  | ']' :: rest => .ok (.array [], rest)
  | t => items item [] count t

def member (item : Reader Json) : Reader (String × Json)
  | '"' :: t =>
    match stringFrom [] t with
    | .error stop => .error stop
    | .ok (key, rest) =>
      match skipSpace rest with
      | [] => .error (.before .endInObject [])
      | ':' :: rest =>
        match item rest with
        | .error stop => .error stop
        | .ok (v, rest) => .ok ((key, v), rest)
      | t => .error (.on .expectedColon t)
  | t => .error (.on .keyNotString t)

/-- Reads members up to the closing brace, at most `count` of them; of two under one key the later
stays. -/
def members (item : Reader Json) (seen : Entries Json) : (count : Nat) → Reader Json
  | 0, t => .error (.on .endInObject t)
  | count + 1, t =>
    match member item t with
    | .error stop => .error stop
    | .ok ((key, v), rest) =>
      let seen := seen.insert key v
      match skipSpace rest with
      | [] => .error (.before .endInObject [])
      | '\x7d' :: rest => .ok (.object seen, rest)
      | ',' :: rest =>
        match skipSpace rest with
        | [] => .error (.before .endInValue [])
        | '\x7d' :: rest => .error (.on .trailingComma ('\x7d' :: rest))
        | t => members item seen count t
      | t => .error (.on .expectedCommaOrBrace t)

def objectFrom (count : Nat) (item : Reader Json) : Reader Json := fun t =>
  match skipSpace t with
  | [] => .error (.before .endInObject [])
  | '\x7d' :: rest => .ok (.object [], rest)
  | t => members item [] count t

/-- Reads a value with at most `count` items or members, given the reader for the values inside it,
if it may have any. -/
def valueWith (count : Nat) (inner : Option (Reader Json)) : Reader Json := fun t =>
  match skipSpace t, inner with
  | [], _ => .error (.before .endInValue [])
  | 'n' :: rest, _ => wordRest .null ['u', 'l', 'l'] rest
  | 't' :: rest, _ => wordRest (.boolean true) ['r', 'u', 'e'] rest
  | 'f' :: rest, _ => wordRest (.boolean false) ['a', 'l', 's', 'e'] rest
  | '-' :: rest, _ => number true rest
  | '"' :: rest, _ => (stringFrom [] rest).map fun (s, rest) => (.string s, rest)
  | '[' :: rest, some item => arrayFrom count item rest
  | '\x7b' :: rest, some item => objectFrom count item rest
  | '[' :: rest, none => .error (.on .tooDeep ('[' :: rest))
  | '\x7b' :: rest, none => .error (.on .tooDeep ('\x7b' :: rest))
  | c :: rest, _ =>
    if c.isDigit then number false (c :: rest) else .error (.on .expectedValue (c :: rest))

/-- Reads a value in which arrays and objects nest at most `depth` deep and have at most `count` items
or members each. -/
def value (count : Nat) : (depth : Nat) → Reader Json
  | 0 => valueWith count none
  | depth + 1 => valueWith count (some (value count depth))

def maxDepth : Nat := 127

/-- Reads a text that is one JSON value and nothing else. Items and members take up text, so the length
of the text bounds their number. -/
def read (s : String) : Except Error Json :=
  let t := s.toList
  match value t.length maxDepth t with
  | .error stop => .error (stop.error t)
  | .ok (v, rest) =>
    match skipSpace rest with
    | [] => .ok v
    | rest => .error ((Stop.on .trailingCharacters rest).error t)

end LineScript.Json
