import LineScript.Text.Words
import LineScript.Url.Family
import LineScript.Url.Percent

/-!
Paths: steps with slashes in front of them.

A step of dots leads to no place of its own: one dot stays and two go back.
-/

namespace LineScript.UrlPath

def reserved : List Char := [' ', '"', '#', '<', '>', '?', Char.ofNat 0x60, '\x7b', '\x7d']

def stays (step : Text) : Bool := [".".toList, "%2e".toList].contains (Text.lower step)

def goesBack (step : Text) : Bool :=
  ["..".toList, ".%2e".toList, "%2e.".toList, "%2e%2e".toList].contains (Text.lower step)

def isDots (step : Text) : Bool := stays step || goesBack step

def isDrive : Text → Bool
  | [a, b] => a.isAlpha && (b == ':' || b == '|')
  | _ => false

/-- Whether a step leads to a drive, which no dots leave. -/
def leadsToDrive (step : Text) : Bool := isDrive (step.takeWhile (· != '\\'))

def back : List Text → List Text
  | [] => []
  | step :: rest => if leadsToDrive step then step :: rest else rest

def follow (seen : List Text) (step : Text) : List Text :=
  if goesBack step then back seen else if stays step then seen else step :: seen

/-- The normal form of a path. After dots at its end it ends with a slash. -/
def resolve (steps : List Text) : List Text :=
  (steps.foldl follow []).reverse ++ if steps.getLast?.any isDots then [[]] else []

def steps (family : UrlFamily) (t : Text) : List Text :=
  let t := if t.head?.any family.isSlash then t.drop 1 else t
  (Text.pieces family.isSlash t).map (Percent.encode reserved)

def dropEmpty (steps : List Text) : List Text :=
  match steps.dropWhile List.isEmpty with
  | [] => [[]]
  | rest => rest

def text (steps : List Text) : Text := steps.flatMap fun step => '/' :: step

end LineScript.UrlPath
