import LineScript.Condition
import LineScript.Session
import LineScript.Statement.Basic

/-!
What statements do.

Each statement but a call puts out exactly one line, and only after all that can fail has been done;
a fetch that fails also sets its target to null.
-/

namespace LineScript

namespace Session

def save (s : Session) (name : String) : Except Error Session :=
  let file := Statement.fileName name
  let text := (Json.object (Value.toMembers s.vars.entries)).pretty
  match s.world.files.writeText (s.options.resolve file) text with
  | .ok files => .ok ({ s with world := { s.world with files } }.emit s!"💾 Variables saved to {file}")
  | .error cause => .error (.file cause)

def savedMembers (s : Session) (file : String) : Except Error (List (String × Json)) :=
  let path := s.options.resolve file
  if !s.world.files.has path then .error (.missingFile file)
  else
    match s.world.files.readText path with
    | .error cause => .error (.file cause)
    | .ok text =>
      match Json.read text with
      | .error cause => .error (.invalidFile file cause)
      | .ok (.object members) => .ok members
      | .ok _ => .error (.notObject file)

def load (s : Session) (name : String) : Except Error Session :=
  let file := Statement.fileName name
  (s.savedMembers file).map fun members =>
    { s with vars := s.vars.insertAll (Value.ofMembers members) }.emit
      s!"📂 Variables loaded from {file}"

def jsonValue (s : Session) (source : String) : Except Error Value :=
  match s.vars.get? source with
  | none => .error (.undefinedSource source)
  | some (.string text) => (Value.read text).mapError fun _ => .invalidContent source
  | some v => .error (.notText source v.kind)

def readJson (s : Session) (source target : String) : Except Error Session :=
  (s.jsonValue source).map fun v =>
    (s.set target v).emit s!"📄 Content of '{source}' loaded as JSON into '{target}'."

/-- Sets a variable to the page at an address, or to null if there is none. -/
def fetch (s : Session) (url target : String) : Except Failure Unit × Session :=
  let (result, network) := s.world.network.fetch s.options.seconds url
  let s := s.withNetwork network
  match result with
  | .ok page =>
    (.ok (), (s.set target (.string page)).emit
      s!"🌐 GET request to `{url}` succeeded. Content saved in `{target}`.")
  | .error cause => (.error (.of (.request url cause)), s.set target .null)

def takeInput (s : Session) (name : String) : Session :=
  let (v, s) := s.nextInput
  (s.emit s!"⌨️ Variable '{name}' received input '{v}'").set name (.string v)

def function (s : Session) (name : String) : Except Error Function :=
  match s.functions.get? name with
  | some f => .ok f
  | none => .error (.undefinedFunction name)

end Session

namespace Run

/-- Changes the session, or fails and leaves it. -/
def change (f : Session → Except Error Session) : Run Unit := do set (← ofExcept (f (← get)))

end Run

def Statement.run (call : String → Run Unit) : Statement → Run Unit
  | print e => do
    let v ← Run.evaluate (Expression.evaluate e)
    Run.emit s!"📢 {v.text}"
  | assign name e => do
    let v ← Run.evaluate (Expression.evaluate e)
    modify fun s => (s.set name v).emit s!"✅ Variable '{name}' created/updated."
  | input name => modify (·.takeInput name)
  | calculate e => do
    let v ← Run.evaluate (Expression.evaluate e)
    Run.emit s!"🧮 Result: {v.text}"
  | save file => Run.change (·.save file)
  | load file => Run.change (·.load file)
  | readJson source target => Run.change (·.readJson source target)
  | fetch url target => fun s => s.fetch url target
  | Statement.call f => call f

def Statement.runLine (call : String → Run Unit) (line : Text) : Run Unit := do
  (← Run.ofExcept (Statement.read line)).run call

end LineScript
