import LineScript.Error
import LineScript.Options
import LineScript.Value.Data
import LineScript.World

/-!
Sessions: the state of a run, and the steps that change it.

A step leaves a session whether it succeeds or fails, so a failed step can be seen to have changed
only what it should.
-/

namespace LineScript

structure Function where
  body : List Text
  firstLine : Nat
deriving DecidableEq, Inhabited

structure Session where
  options : Options
  vars : Table Value
  functions : Table Function
  /-- The values handed to the program, also those it has taken. -/
  input : List String
  taken : Nat
  output : Array String
  calls : Nat
  world : World

/-- A step: it succeeds with a result or fails, and leaves a session either way. -/
abbrev Run (α : Type) := ExceptT Failure (StateM Session) α

namespace Session

def start (options : Options) (input : List String) (world : World) : Session :=
  ⟨options, ∅, ∅, input, 0, #[], 0, world⟩

def set (s : Session) (name : String) (v : Value) : Session :=
  { s with vars := s.vars.insert name v }

def define (s : Session) (name : String) (f : Function) : Session :=
  { s with functions := s.functions.insert name f }

def emit (s : Session) (line : String) : Session := { s with output := s.output.push line }

/-- The next input, and the session that has taken it; the placeholder when none is left. -/
def nextInput (s : Session) : String × Session :=
  match s.input[s.taken]? with
  | some v => (v, { s with taken := s.taken + 1 })
  | none => (s.options.placeholder, s)

def room (s : Session) : Nat := s.options.maxCalls - s.calls

def enterCall (s : Session) : Session := { s with calls := s.calls + 1 }

def leaveCall (s : Session) : Session := { s with calls := s.calls - 1 }

def withDraws (s : Session) (draws : Draws) : Session :=
  { s with world := { s.world with draws } }

def withNetwork (s : Session) (network : Network) : Session :=
  { s with world := { s.world with network } }

end Session

namespace Run

def fail {α : Type} (e : Error) : Run α := throw (Failure.of e)

def ofExcept {α : Type} : Except Error α → Run α
  | .ok a => pure a
  | .error e => fail e

def atLine {α : Type} (n : Nat) (step : Run α) : Run α := fun s =>
  match step s with
  | (.ok a, s) => (.ok a, s)
  | (.error f, s) => (.error (f.atLine n), s)

/-- A step after which the session is changed, whether the step succeeds or fails. -/
def closing {α : Type} (step : Run α) (last : Session → Session) : Run α := fun s =>
  let (result, s) := step s
  (result, last s)

def times : Nat → Run Unit → Run Unit
  | 0, _ => pure ()
  | n + 1, step => do
    step
    times n step

def emit (line : String) : Run Unit := modify (·.emit line)

/-- The value of a computation that looks at the variables and may take random draws. The draws it has
taken are gone also if it fails. -/
def evaluate {α : Type} (f : Table Value → Drawn Error α) : Run α := fun s =>
  match f s.vars s.world.draws with
  | .ok (a, draws) => (.ok a, s.withDraws draws)
  | .error (e, draws) => (.error (.of e), s.withDraws draws)

end Run

end LineScript
