import LineScript.Text.Words

/-!
Kinds of block, and the lines that open, divide and close them.

A block runs from an opener line to a closer line. A line opens a block if its first word is the
kind's word. It closes or divides one if it starts with the keyword as a whole word, whatever follows.
-/

namespace LineScript.Block

inductive Kind where
  | func
  | branch
  | loop
deriving DecidableEq

def Kind.opener : Kind → String
  | func => "func"
  | branch => "if"
  | loop => "loop"

def Kind.closer : Kind → String
  | func => "end func"
  | branch => "end if"
  | loop => "end loop"

def divider : String := "else"

/-- How blocks find their closers. -/
inductive Scan where
  /-- Each opener of a kind asks for a closer of its own. -/
  | nested
  /-- The first closer of a kind closes. -/
  | flat
deriving DecidableEq

/-- Whether a line starts with a keyword, in any case, and then ends or goes on with a blank. -/
def isKeywordLine (keyword line : Text) : Bool :=
  Text.sameWord (line.take keyword.length) keyword &&
    (line.drop keyword.length).head?.all Text.isBlank

def Kind.opens (kind : Kind) (line : Text) : Bool :=
  isKeywordLine kind.opener.toList (Text.trim line)

def Kind.closes (kind : Kind) (line : Text) : Bool :=
  isKeywordLine kind.closer.toList (Text.trim line)

def divides (line : Text) : Bool := isKeywordLine divider.toList (Text.trim line)

/-- The kind of block that a line opens by its first word, with the rest of the line. -/
def header? (line : Text) : Option (Kind × Text) :=
  let (word, rest) := Text.splitWord line
  let word := Text.lower word
  if word == Kind.func.opener.toList then some (.func, rest)
  else if word == Kind.branch.opener.toList then some (.branch, rest)
  else if word == Kind.loop.opener.toList then some (.loop, rest)
  else none

end LineScript.Block
