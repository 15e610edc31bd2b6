import LineScript.Text.Blank

/-!
Families of URLs: what the scheme says about the rest.
-/

namespace LineScript

/-- The families: pages of a host with a usual port, files, and all else. -/
inductive UrlFamily where
  | hosted (usualPort : Nat)
  | file
  | other
deriving DecidableEq

namespace UrlFamily

def schemes : List (String × UrlFamily) :=
  [("http", hosted 80), ("https", hosted 443), ("ws", hosted 80), ("wss", hosted 443),
    ("ftp", hosted 21), ("file", file)]

def ofScheme (scheme : String) : UrlFamily := (schemes.lookup scheme).getD other

def isSlash (f : UrlFamily) (c : Char) : Bool := c == '/' || (c == '\\' && f != other)

def isEnd (f : UrlFamily) (c : Char) : Bool := f.isSlash c || c == '?' || c == '#'

def afterSlashes? (f : UrlFamily) (t : Text) : Option Text :=
  match f, t with
  | hosted _, t => some (t.dropWhile f.isSlash)
  | _, a :: b :: rest => if f.isSlash a && f.isSlash b then some rest else none
  | _, _ => none

end UrlFamily

end LineScript
