import LineScript.Number.Hexadecimal

/-!
Percent signs: characters written as their bytes in UTF-8, each a percent sign and two digits.

A sign reads back as its byte, and a character that needs no sign stays.
-/

namespace LineScript.Percent

def sign (b : UInt8) : Text :=
  ['%', Hexadecimal.capital (b.toNat / 16), Hexadecimal.capital (b.toNat % 16)]

/-- Whether a character is a control or above ASCII, and so never stands for itself. -/
def needsSign (c : Char) : Bool := c.toNat < 0x20 || 0x7E < c.toNat

def encodeChar (reserved : List Char) (c : Char) : Text :=
  if needsSign c || reserved.contains c then (String.utf8EncodeChar c).flatMap sign else [c]

def encode (reserved : List Char) (t : Text) : Text := t.flatMap (encodeChar reserved)

/-- The bytes of a text. A percent sign without two digits after it stands for itself. -/
def bytes : Text → List UInt8
  | [] => []
  | '%' :: a :: b :: rest =>
    match Hexadecimal.value? a, Hexadecimal.value? b with
    | some m, some n => UInt8.ofNat (16 * m + n) :: bytes rest
    | _, _ => 0x25 :: bytes (a :: b :: rest)
  | c :: rest => String.utf8EncodeChar c ++ bytes rest

def decode? (t : Text) : Option Text := (String.fromUTF8? ⟨(bytes t).toArray⟩).map String.toList

example : encode [' '] "a \u00e9".toList = "a%20%C3%A9".toList := by decide +kernel

example : decode? "%41%c3%A9%".toList = some "A\u00e9%".toList := by decide +kernel

end LineScript.Percent
