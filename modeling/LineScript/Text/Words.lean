import LineScript.Text.Letter

/-!
Words: text cut at its blanks, at one character or at its line ends, and words compared without
regard to ASCII case.
-/

namespace LineScript.Text

def lower (t : Text) : Text := t.map Char.toLower

def sameWord (t u : Text) : Bool := lower t == lower u

/-- The pieces of a text between the characters that satisfy `cut`; there is always one more piece
than there are cuts. -/
def pieces (cut : Char → Bool) : Text → List Text
  | [] => [[]]
  | c :: cs =>
    match pieces cut cs with
    | [] => [[c]]
    | p :: ps => if cut c then [] :: p :: ps else (c :: p) :: ps

def words (t : Text) : List Text := (pieces isBlank t).filter (!·.isEmpty)

def splitWord (t : Text) : Text × Text :=
  let t := trim t
  (t.takeWhile (!isBlank ·), trim (t.dropWhile (!isBlank ·)))

def splitFirst (c : Char) : Text → Option (Text × Text)
  | [] => none
  | d :: ds =>
    if d = c then some ([], ds) else (splitFirst c ds).map fun (before, after) => (d :: before, after)

def splitLast (cut : Char → Bool) : Text → Option (Text × Text)
  | [] => none
  | c :: cs =>
    match splitLast cut cs with
    | some (before, after) => some (c :: before, after)
    | none => if cut c then some ([], cs) else none

def dropReturn (t : Text) : Text :=
  match t.getLast? with
  | some '\r' => t.dropLast
  | _ => t

/-- The lines of a text. A line ends with a line feed, or a carriage return and a line feed; text
after the last line feed is a line if there is any. -/
def lines (t : Text) : List Text :=
  let ps := pieces (· == '\n') t
  match ps.getLast? with
  | some [] | none => ps.dropLast.map dropReturn
  | some last => ps.dropLast.map dropReturn ++ [last]

theorem pieces_ne_nil (cut : Char → Bool) (t : Text) : pieces cut t ≠ [] := by
  induction t with
  | nil => simp [pieces]
  | cons c cs ih =>
    rw [pieces]
    split
    · simp
    · split <;> simp

end LineScript.Text
