import LineScript.CommandLine

/-!
The program: gathers what the pure answer needs from the system, and puts out what it yields.

The file names in a program are written out in it, so the files it may touch can be read before the
run, and what the run has written can be stored after it.
-/

open LineScript

def nodeOf (name : String) : IO (Option Node) := do
  if ← ((← IO.currentDir) / name).isDir then return some .directory
  try
    return some (.file (← IO.FS.readBinFile name))
  catch
    | .permissionDenied .. => return some .locked
    | _ => return none

/-- Adds what a file name leads to, and the directories on the way. -/
def gather (files : Files) (name : String) : IO Files := do
  let path := (if name.startsWith "/" then [] else files.here) ++ Files.steps name
  let ways := (List.range (path.length + 1)).map path.take
  ways.foldlM (fun files way => do
    match files.node? way, ← nodeOf ("/" ++ "/".intercalate way) with
    | none, some node => return files.put way node
    | _, _ => return files) files

def store (before after : Files) : IO Unit :=
  for (path, node) in after.nodes do
    match node, before.node? path with
    | .file content, some (.file old) =>
      if content != old then IO.FS.writeBinFile ("/" ++ "/".intercalate path) content
    | .file content, _ => IO.FS.writeBinFile ("/" ++ "/".intercalate path) content
    | _, _ => pure ()

partial def readAll (stream : IO.FS.Stream) (seen : ByteArray) : IO ByteArray := do
  let chunk ← stream.read 65536
  if chunk.isEmpty then return seen else readAll stream (seen ++ chunk)

def main (arguments : List String) : IO UInt32 := do
  let here := Files.steps (← IO.currentDir).toString
  let seed := UInt64.ofNat (← IO.rand 0 0x7FFFFFFFFFFFFFFF)
  let mut files := Files.putDeep ⟨here, []⟩ here .directory
  let mut stdin := ByteArray.empty
  if let some (.run file _ options) := CommandLine.Command.read arguments then
    if file == "-" then stdin ← readAll (← IO.getStdin) .empty else files ← gather files file
    let world : World := ⟨files, .silent, .ofSeed seed⟩
    if let .ok source := CommandLine.readSource file stdin world then
      for name in CommandLine.fileNames options source do
        files ← gather files name
  let (answer, world) := CommandLine.answer arguments stdin ⟨files, .silent, .ofSeed seed⟩
  store files world.files
  IO.print answer.out
  for complaint in answer.complaints do
    IO.eprintln complaint
  return answer.status.toUInt32
