import LineScript.Program

/-!
The command line: what the arguments ask for, and the answer to them.

An answer is a value: the text put out, the complaints, and the exit status. It is 0 if the program
succeeds, 1 if it fails, and 2 if the arguments or the program cannot be read.
-/

namespace LineScript.CommandLine

inductive Command where
  | version
  | help
  | run (file : String) (input : List String) (options : Options)

structure Settings where
  file : Option String
  input : List String
  directory : Option String
  seconds : Option Nat
  flat : Bool
  maxCalls : Option Nat

def Settings.none : Settings := ⟨.none, [], .none, .none, false, .none⟩

inductive Setting where
  | input
  | directory
  | seconds
  | maxCalls

def number? (value : String) : Option Nat := do
  let digits := match value.toList with
    | '+' :: rest => rest
    | t => t
  let n ← Integer.natural? digits
  if n ≤ 0xFFFFFFFFFFFFFFFF then some n else .none

def once {α : Type} (old : Option α) (new : Option α) : Option (Option α) :=
  match old, new with
  | .none, some a => some (some a)
  | _, _ => .none

def path? (value : String) : Option String := if value.isEmpty then .none else some value

/-- Sets an option to a value; none if the value is wrong, or set already where it may not be. -/
def Settings.set (s : Settings) (setting : Setting) (value : String) : Option Settings :=
  match setting with
  | .input => some { s with input := s.input ++ [value] }
  | .directory => (once s.directory (path? value)).map fun d => { s with directory := d }
  | .seconds => (once s.seconds (number? value)).map fun n => { s with seconds := n }
  | .maxCalls => (once s.maxCalls (number? value)).map fun n => { s with maxCalls := n }

def Settings.setFile (s : Settings) (value : String) : Option Settings :=
  (once s.file (path? value)).map fun f => { s with file := f }

def Settings.command (s : Settings) : Option Command :=
  s.file.map fun file => .run file s.input
    { directory := s.directory
      seconds := s.seconds.getD Options.standard.seconds
      placeholder := Options.standard.placeholder
      scan := if s.flat then .flat else .nested
      maxCalls := s.maxCalls.getD Options.standard.maxCalls }

inductive Argument where
  /-- All arguments after it are files. -/
  | endOfOptions
  | file (name : String)
  | version
  | help
  | flat
  | setting (setting : Setting) (value : Option String)
  | unknown
deriving Inhabited

def long (name : String) (value : Option String) : Argument :=
  match name, value with
  | "version", .none => .version
  | "help", .none => .help
  | "flat-blocks", .none => .flat
  | "input", v => .setting .input v
  | "working-dir", v => .setting .directory v
  | "timeout", v => .setting .seconds v
  | "max-call-depth", v => .setting .maxCalls v
  | _, _ => .unknown

def attached : Text → Option String
  | [] => .none
  | '=' :: rest => some (String.ofList rest)
  | t => some (String.ofList t)

def Argument.read (argument : String) : Argument :=
  match argument.toList with
  | ['-', '-'] => endOfOptions
  | '-' :: '-' :: rest =>
    match Text.splitFirst '=' rest with
    | some (name, value) => long (String.ofList name) (some (String.ofList value))
    | .none => long (String.ofList rest) .none
  | '-' :: 'i' :: rest => setting .input (attached rest)
  | '-' :: 'C' :: rest => setting .directory (attached rest)
  | '-' :: 'V' :: _ => version
  | '-' :: 'h' :: _ => help
  | '-' :: _ :: _ => unknown
  | _ => file argument

def isValue (argument : String) : Bool := argument == "-" || !argument.startsWith "-"

def readFiles (s : Settings) : List String → Option Command
  | [] => s.command
  | name :: rest => (s.setFile name).bind fun s => readFiles s rest

def readFrom (s : Settings) : List String → Option Command
  | [] => s.command
  | argument :: rest =>
    match Argument.read argument with
    | .endOfOptions => readFiles s rest
    | .file name => (s.setFile name).bind fun s => readFrom s rest
    | .version => some .version
    | .help => some .help
    | .flat => if s.flat then .none else readFrom { s with flat := true } rest
    | .setting setting (some value) => (s.set setting value).bind fun s => readFrom s rest
    | .setting setting .none =>
      match rest with
      | value :: rest =>
        if isValue value then (s.set setting value).bind fun s => readFrom s rest else .none
      | [] => .none
    | .unknown => .none

def Command.read (arguments : List String) : Option Command := readFrom .none arguments

structure Answer where
  status : Nat
  out : String
  complaints : List String
deriving DecidableEq

def usage : String := "Usage: linex [OPTIONS] <FILE>"

def readSource (file : String) (stdin : ByteArray) (world : World) : Except String String :=
  if file = "-" then
    match String.fromUTF8? stdin with
    | some s => .ok s
    | .none => .error s!"linex: failed to read program from stdin: {FileError.notText.message}"
  else
    (world.files.readText file).mapError fun e => s!"linex: failed to read {file}: {e.message}"

def unlines (lines : List String) : String := lines.foldl (fun s l => s ++ l ++ "\n") ""

def answerRun (file : String) (input : List String) (options : Options) (stdin : ByteArray)
    (world : World) : Answer × World :=
  match readSource file stdin world with
  | .error complaint => (⟨2, "", [complaint]⟩, world)
  | .ok source =>
    let (result, s) := Program.execute options input world source
    let shown := Program.shown result
    let status := if shown.getLast? = some Program.endMark then 0 else 1
    (⟨status, unlines shown, []⟩, s.world)

def answer (arguments : List String) (stdin : ByteArray) (world : World) : Answer × World :=
  match Command.read arguments with
  | .none => (⟨2, "", [usage]⟩, world)
  | some .version => (⟨0, "linex 0.1.0\n", []⟩, world)
  | some .help => (⟨0, usage ++ "\n", []⟩, world)
  | some (.run file input options) => answerRun file input options stdin world

def fileNames (options : Options) (source : String) : List String :=
  (Program.lines source).filterMap fun line =>
    match Statement.read (Text.trim line) with
    | .ok (.save name) | .ok (.load name) => some (options.resolve (Statement.fileName name))
    | _ => .none

end LineScript.CommandLine
