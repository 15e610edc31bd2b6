import LineScript.Url.Basic

/-!
Reading URLs.

Each part is cut off the front of what is left: the scheme, the name and password, the host, the
port, the path, the query and the fragment.
-/

namespace LineScript.Url

def cleaned (t : Text) : Text :=
  let isOuter := fun (c : Char) => c.toNat ≤ 0x20
  let inner := ((t.dropWhile isOuter).reverse.dropWhile isOuter).reverse
  inner.filter fun c => c != '\t' && c != '\n' && c != '\r'

def isSchemeChar (c : Char) : Bool := c.isAlphanum || c == '+' || c == '-' || c == '.'

def splitScheme? (t : Text) : Option (String × Text) :=
  let scheme := t.takeWhile isSchemeChar
  match t.dropWhile isSchemeChar with
  | ':' :: rest =>
    if scheme.head?.any Char.isAlpha then some (String.ofList (Text.lower scheme), rest) else none
  | _ => none

def reservedInUser : List Char := UrlPath.reserved ++ "/:;=@[\\]^|".toList

def splitUser (family : UrlFamily) (t : Text) : Text × Text × Text :=
  let encode := Percent.encode reservedInUser
  match Text.splitLast (· == '@') (t.takeWhile (!family.isEnd ·)) with
  | none => ([], [], t)
  | some (info, host) =>
    let rest := host ++ t.dropWhile (!family.isEnd ·)
    match Text.splitFirst ':' info with
    | none => (encode info, [], rest)
    | some (user, password) => (encode user, encode password, rest)

/-- The host, and what follows it. A colon between brackets belongs to the host. -/
def splitHost (family : UrlFamily) (inside : Bool) : Text → Text × Text
  | [] => ([], [])
  | c :: rest =>
    if family.isEnd c || (c == ':' && !inside) then ([], c :: rest)
    else
      let (host, rest) := splitHost family (c == '[' || (inside && c != ']')) rest
      (c :: host, rest)

def endsPort (c : Char) : Bool := c == '/' || c == '\\' || c == '?' || c == '#'

/-- Reads a port if there is one, and what follows it. The usual port of a family is left out. -/
def readPort (family : UrlFamily) : Text → Except UrlError (Option Nat × Text)
  | ':' :: t =>
    let digits := t.takeWhile Char.isDigit
    let rest := t.dropWhile Char.isDigit
    let n := Integer.natOfDigits digits
    if 65535 < n || !rest.head?.all endsPort then .error .invalidPort
    else .ok (if digits.isEmpty || family == .hosted n then none else some n, rest)
  | t => .ok (none, t)

def splitMark (mark : Char) (t : Text) : Text × Option Text :=
  match Text.splitFirst mark t with
  | none => (t, none)
  | some (before, after) => (before, some after)

def reservedInQuery (family : UrlFamily) : List Char :=
  [' ', '"', '#', '<', '>'] ++ if family = .other then [] else ['\x27']

def reservedInFragment : List Char := [' ', '"', '<', '>', Char.ofNat 0x60]

/-- Reads what stands before the path, and what follows it. A file may have a host and nothing else
there, but the letter of a drive and the name of this machine are no hosts. -/
def readAuthority (family : UrlFamily) (t : Text) : Except UrlError (Authority × Text) :=
  if family = .file then
    let host := t.takeWhile (!family.isEnd ·)
    if host.isEmpty || UrlPath.isDrive host then .error .emptyHost
    else do
      let host ← Host.read family host
      if host = .name "localhost".toList then throw .emptyHost
      return (⟨[], [], host, none⟩, t.dropWhile (!family.isEnd ·))
  else do
    let (user, password, t) := splitUser family t
    let (host, t) := splitHost family false t
    let host ← Host.read family host
    let (port, t) ← readPort family t
    return (⟨user, password, host, port⟩, t)

/-- Reads a path. The path of a file does not start with an empty step, and if its first step is a
drive there is no host. Later steps may look like drives. -/
def readPath (family : UrlFamily) (t : Text) : Except UrlError (List Text) :=
  let steps := UrlPath.steps family t
  match family with
  | .hosted _ => .ok (UrlPath.resolve steps)
  | .file =>
    let path := UrlPath.resolve steps
    if path.head?.any UrlPath.isDrive then .error .emptyHost else .ok (UrlPath.dropEmpty path)
  | .other => .ok (if t.isEmpty then [] else UrlPath.resolve steps)

def read (s : String) : Except UrlError Url :=
  match splitScheme? (cleaned s.toList) with
  | none => .error .relative
  | some (scheme, t) =>
    let family := UrlFamily.ofScheme scheme
    match family.afterSlashes? t with
    | none => .error .emptyHost
    | some t => do
      let (authority, t) ← readAuthority family t
      let (t, fragment) := splitMark '#' t
      let (t, query) := splitMark '?' t
      let path ← readPath family t
      return {
        scheme, authority, path
        query := query.map (Percent.encode (reservedInQuery family))
        fragment := fragment.map (Percent.encode reservedInFragment) }

example : (read "FTP://User:@[::1]:21/a/./b/..?q#f").toOption.map text =
    some "ftp://User@[::1]/a/?q#f" := by decide +kernel

example : (read "file://[::1]/a/c:/x").toOption.map text = some "file://[::1]/a/c:/x" := by
  decide +kernel

example : (read "file://[::1]/a/../c|/x").toOption = none := by decide +kernel

end LineScript.Url
