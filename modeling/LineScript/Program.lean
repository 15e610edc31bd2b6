import LineScript.Block.Run

/-!
Programs: a directive and the lines after it.

A run of a program yields the lines it puts out, between a line that marks the start and one that
marks the end. If it fails, all that it put out is dropped, and one line reports the failure.
-/

namespace LineScript.Program

def directive : String := "linex init project"

def startMark : String := "✅ Project started successfully!"

def endMark : String := "**--- End of Execution ---**"

def lines (source : String) : List Text :=
  (Text.lines source.toList).filter (!Block.isSilent ·)

def body (source : String) : Except Error (List Text) :=
  match lines source with
  | [] => .error .missingDirective
  | first :: rest =>
    if Text.sameWord (Text.trim first) directive.toList then .ok rest
    else .error .missingDirective

/-- Runs a source in a session. The directive is line 0. -/
def run (source : String) : Run Unit := do
  let lines ← Run.ofExcept (body source)
  Run.emit startMark
  Run.lines lines 1
  Run.emit endMark

/-- Runs a source from the start: the lines put out or the failure, and the session at the end. -/
def execute (options : Options) (input : List String) (world : World) (source : String) :
    Except Failure (List String) × Session :=
  let (result, s) := run source (Session.start options input world)
  (result.map fun _ => s.output.toList, s)

/-- The lines that a run shows: those put out, or the report of the failure. -/
def shown : Except Failure (List String) → List String
  | .ok output => output
  | .error f => [f.report]

end LineScript.Program
