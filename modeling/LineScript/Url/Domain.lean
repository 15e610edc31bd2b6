import LineScript.Unicode.Composition
import LineScript.Unicode.Direction
import LineScript.Unicode.DomainTable
import LineScript.Unicode.Joining
import LineScript.Url.Punycode

/-!
Domains: labels with points between them, written in ASCII.

A label in other scripts is written as its form in Punycode after a mark. Whoever reads a domain is
to see one text for it, so its characters are replaced and composed first, and a label that is
written in Punycode already has to be the form that its characters lead to.
-/

namespace LineScript.Domain

open Unicode

def punycodeMark : Text := "xn--".toList

def denied : List Char := " %#/:<>?@[\\]^|\x7f".toList

def isDenied (c : Char) : Bool := c.toNat < 0x20 || denied.contains c

def maxLabel : Nat := 1000

def maxPunycode : Nat := 2000

/-- A label: as it is written, and as it is shown. -/
structure Label where
  written : Text
  shown : Text
deriving DecidableEq

def isValid (t : Text) : Bool :=
  t.all (!isDenied ·) && !t.head?.any isMark && joinersStand [] t

def isSettled (t : Text) : Bool := t.all (fun c => domainForm? c == some [c]) && composed t == t

def ofPunycode? (form : Text) : Option Label := do
  if maxPunycode < form.length then none
  else
    let shown ← Punycode.decode? form
    if !shown.all Punycode.isAscii && isSettled shown && isValid shown then
      some ⟨punycodeMark ++ form, shown⟩
    else none

def label? (t : Text) : Option Label :=
  if punycodeMark.isPrefixOf t then
    if t.all Punycode.isAscii then ofPunycode? (t.drop punycodeMark.length) else none
  else if !isValid t then none
  else if t.all Punycode.isAscii then some ⟨t, t⟩
  else if maxLabel < t.length then none
  else some ⟨punycodeMark ++ Punycode.encode t, t⟩

/-- Whether all labels can be read in one way. Only a character that turns the direction makes one
doubtful. -/
def areClear (labels : List Label) : Bool :=
  let directions := labels.map (·.shown.map direction)
  !directions.any (·.any Direction.turns) || directions.all Direction.isClear

def labels? (t : Text) : Option (List Label) := do
  let forms ← t.mapM domainForm?
  let labels ← (Text.pieces (· == '.') (composed forms.flatten)).mapM label?
  if areClear labels then some labels else none

def ascii? (t : Text) : Option Text :=
  (labels? t).map fun labels => List.intercalate ['.'] (labels.map Label.written)

end LineScript.Domain
