import LineScript.Block.Basic
import LineScript.Block.Header
import LineScript.Statement.Run

/-!
Running blocks and calls.

A block runs line by line; a failure passes the line it happened on and the header of every block
around it. A call runs the stored lines of a function one level deeper, up to the greatest number of
active calls.

Lines are numbered by natural numbers, which are counted and shown and nothing else.
-/

namespace LineScript

namespace Block

/-- Whether a line says nothing: it is blank or a comment. -/
def isSilent (line : Text) : Bool :=
  match Text.trim line with
  | [] => true
  | c :: _ => c == '#'

def headerOf (opener : Text) : Text := (Text.splitWord opener).2

def runLine (call : String → Run Unit) (line : Text) : Run Unit :=
  if isSilent line then pure () else Statement.runLine call line

def define (opener : Text) (body : List Text) (firstLine : Nat) : Run Unit := do
  let name ← Run.ofExcept (funcName (headerOf opener))
  modify fun s => (s.define name ⟨body, firstLine⟩).emit s!"📦 Function '{name}' defined."

def choose (opener : Text) (yes no : Run Unit) : Run Unit := do
  let condition ← Run.ofExcept (condition (headerOf opener))
  if ← Run.evaluate (Condition.evaluate condition) then
    Run.emit "✅ Condition true. Running 'if' block..."
    yes
  else
    Run.emit "❌ Condition false. Skipping to 'else' block..."
    no

def iterate (opener : Text) (body : Run Unit) : Run Unit := do
  let count ← Run.ofExcept (count (headerOf opener))
  Run.emit s!"🔄 Starting loop for {count} iterations..."
  Run.times count body
  Run.emit "✅ Loop finished."

/-- Runs a block whose first line has the number `n`, given what a call does. -/
def run (call : String → Run Unit) (n : Nat) : Block → Run Unit
  | done => pure ()
  | line text rest => do
    Run.atLine n (runLine call text)
    rest.run call (n + 1)
  | func opener body _ rest => do
    Run.atLine n (define opener body.lines (n + 1))
    rest.run call (n + body.size + 2)
  | branch opener yes _ rest => do
    Run.atLine n (choose opener (yes.run call (n + 1)) (pure ()))
    rest.run call (n + yes.size + 2)
  | divided opener yes _ no _ rest => do
    Run.atLine n (choose opener (yes.run call (n + 1)) (no.run call (n + yes.size + 2)))
    rest.run call (n + yes.size + no.size + 3)
  | loop opener body _ rest => do
    Run.atLine n (iterate opener (body.run call (n + 1)))
    rest.run call (n + body.size + 2)
  | unclosed kind _ _ => Run.atLine n (Run.fail (.unclosedBlock kind))

def runLines (call : String → Run Unit) (lines : List Text) (n : Nat) : Run Unit := do
  (ofLines (← get).options.scan lines).run call n

end Block

namespace Run

/-- Calls a function when `room` more calls may become active. -/
def call : (room : Nat) → (name : String) → Run Unit
  | 0, name => do
    let _ ← ofExcept ((← get).function name)
    fail .tooManyCalls
  | room + 1, name => do
    let f ← ofExcept ((← get).function name)
    modify fun s => s.enterCall.emit s!"➡️ Calling function '{name}'..."
    closing (Block.runLines (call room) f.body f.firstLine) Session.leaveCall
    emit s!"⬅️ Finished function '{name}'."

def lines (lines : List Text) (n : Nat) : Run Unit := do
  Block.runLines (call (← get).room) lines n

def statement (line : Text) : Run Unit := do
  Statement.runLine (call (← get).room) line

end Run

end LineScript
