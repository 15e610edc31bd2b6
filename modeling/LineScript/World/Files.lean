import LineScript.Text.Words

/-!
The files a program can reach: a value that holds every file and directory under its path from the
root, together with the directory that relative names start from.
-/

namespace LineScript

inductive FileError where
  | notFound
  | denied
  | notDirectory
  | isDirectory
  | nameTooLong
  | nulInName
  | notText
deriving DecidableEq

def FileError.message : FileError → String
  | notFound => "No such file or directory (os error 2)"
  | denied => "Permission denied (os error 13)"
  | notDirectory => "Not a directory (os error 20)"
  | isDirectory => "Is a directory (os error 21)"
  | nameTooLong => "File name too long (os error 36)"
  | nulInName => "file name contained an unexpected NUL byte"
  | notText => "stream did not contain valid UTF-8"

abbrev Path := List String

inductive Node where
  | file (content : ByteArray)
  | directory
  | locked

structure Files where
  here : Path
  nodes : List (Path × Node)

namespace Files

def maxStepBytes : Nat := 255

def maxNameBytes : Nat := 4095

def node? (fs : Files) (path : Path) : Option Node :=
  if path.isEmpty then some .directory else fs.nodes.lookup path

def put (fs : Files) (path : Path) (node : Node) : Files :=
  { fs with nodes := (path, node) :: fs.nodes.filter (·.1 != path) }

def putDeep (fs : Files) (path : Path) (node : Node) : Files :=
  let ways := (List.range path.length).map path.take
  let fs := ways.foldl (fun fs p => if (fs.node? p).isSome then fs else fs.put p .directory) fs
  fs.put path node

def spelled (name : String) : List String :=
  (Text.pieces (· == '/') name.toList).map String.ofList

def stays (step : String) : Bool := step.isEmpty || step == "."

def steps (name : String) : List String := (spelled name).filter (!stays ·)

/-- Follows steps from a directory. All but the last must lead to directories; the last may lead to
nothing. -/
def walk (fs : Files) (path : Path) : List String → Except FileError Path
  | [] => .ok path
  | ".." :: rest => walk fs path.dropLast rest
  | step :: rest =>
    if stays step then walk fs path rest
    else if maxStepBytes < step.utf8ByteSize then .error .nameTooLong
    else
      let path := path ++ [step]
      match rest, fs.node? path with
      | [], _ => .ok path
      | _, some .directory => walk fs path rest
      | _, some _ => .error .notDirectory
      | _, none => .error .notFound

def locate (fs : Files) (name : String) : Except FileError Path :=
  if name.contains '\x00' then .error .nulInName
  else if maxNameBytes < name.utf8ByteSize then .error .nameTooLong
  else if name.isEmpty then .error .notFound
  else fs.walk (if name.startsWith "/" then [] else fs.here) (spelled name)

def has (fs : Files) (name : String) : Bool :=
  match fs.locate name with
  | .ok path => (fs.node? path).isSome
  | .error _ => false

def read (fs : Files) (name : String) : Except FileError ByteArray := do
  match fs.node? (← fs.locate name) with
  | some (.file content) => return content
  | some .directory => throw .isDirectory
  | some .locked => throw .denied
  | none => throw .notFound

def readText (fs : Files) (name : String) : Except FileError String := do
  match String.fromUTF8? (← fs.read name) with
  | some s => return s
  | none => throw .notText

def writeText (fs : Files) (name text : String) : Except FileError Files := do
  let path ← fs.locate name
  match fs.node? path with
  | some .directory => throw .isDirectory
  | some .locked => throw .denied
  | _ => return fs.put path (.file text.toUTF8)

end Files

end LineScript
