import LineScript.Block.Kind

/-!
How a program is run.
-/

namespace LineScript

structure Options where
  directory : Option String
  seconds : Nat
  /-- What an input yields when no input is left. -/
  placeholder : String
  scan : Block.Scan
  maxCalls : Nat
deriving DecidableEq

namespace Options

def standard : Options := ⟨none, 10, "User input", .nested, 100⟩

instance : Inhabited Options := ⟨standard⟩

/-- The name of a file under a directory: an absolute name replaces the directory, and otherwise one
slash stands between, unless the directory is empty or ends with one. -/
def join (directory name : String) : String :=
  if name.startsWith "/" then name
  else if directory.isEmpty || directory.endsWith "/" then directory ++ name
  else directory ++ "/" ++ name

def resolve (options : Options) (name : String) : String :=
  match options.directory with
  | some directory => join directory name
  | none => name

end Options

end LineScript
