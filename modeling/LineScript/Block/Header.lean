import LineScript.Error
import LineScript.Number.Integer

/-!
Headers: what follows the word that opens a block.
-/

namespace LineScript.Block

def isBegin (t : Text) : Bool := Text.sameWord t "begin".toList

def funcName (header : Text) : Except Error String :=
  match Text.words header with
  | [name, last] =>
    if Text.isIdentifier name && isBegin last then .ok (String.ofList name)
    else .error (.usage .func)
  | _ => .error (.usage .func)

def condition (header : Text) : Except Error Text :=
  match Text.splitLast Text.isBlank header with
  | some (condition, last) =>
    if isBegin last && !(Text.trim condition).isEmpty then .ok (Text.trim condition)
    else .error (.usage .branch)
  | none => .error (.usage .branch)

def maxCount : Nat := 0xFFFFFFFFFFFFFFFF

def count (header : Text) : Except Error Nat :=
  match Text.words header with
  | [digits, last] =>
    if isBegin last && digits.all Char.isDigit then
      let n := Integer.natOfDigits digits
      if n ≤ maxCount then .ok n else .error (.loopCount (String.ofList digits))
    else .error (.usage .loop)
  | _ => .error (.usage .loop)

end LineScript.Block
