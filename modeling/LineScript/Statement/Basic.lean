import LineScript.Error

/-!
Statements: the lines that do one thing, and how they are read.

Reading depends on the line alone; a line that cannot be read changes nothing.
-/

namespace LineScript

inductive Statement where
  | print (expression : Text)
  | assign (name : String) (expression : Text)
  | input (name : String)
  | calculate (expression : Text)
  | save (file : String)
  | load (file : String)
  | readJson (source target : String)
  | fetch (url target : String)
  | call (function : String)
deriving DecidableEq

namespace Statement

abbrev Reading (α : Type) := Except Error α

def misuse {α : Type} (form : Form) : Reading α := .error (.usage form)

/-- What stands between a quote at the start and the last quote. -/
def quoted? : Text → Option String
  | '"' :: rest => (Text.splitLast (· == '"') rest).map fun (inner, _) => String.ofList inner
  | _ => none

def readPrint (arguments : Text) : Reading Statement :=
  let (word, expression) := Text.splitWord arguments
  if !Text.sameWord word "print".toList then .error (.unknownSubcommand (String.ofList word))
  else if expression.isEmpty then misuse .print
  else .ok (.print expression)

def assigned (expression : Text) : Reading Text :=
  let (word, rest) := Text.splitWord expression
  if !Text.sameWord word "calc".toList then .ok expression
  else if rest.isEmpty then misuse .assignCalc
  else .ok rest

def readAssign (arguments : Text) : Reading Statement :=
  let name := arguments.takeWhile Text.isWordChar
  match name, Text.trimStart (arguments.dropWhile Text.isWordChar) with
  | _ :: _, '=' :: expression => (assigned expression).map (.assign (String.ofList name))
  | _, _ => misuse .assign

def readWhole (form : Form) (statement : Text → Statement) (arguments : Text) : Reading Statement :=
  if arguments.isEmpty then misuse form else .ok (statement arguments)

def readFile (form : Form) (statement : String → Statement) (arguments : Text) :
    Reading Statement :=
  match quoted? arguments with
  | some name => .ok (statement name)
  | none => misuse form

def readJsonLoad (arguments : Text) : Reading Statement :=
  match Text.words arguments with
  | [word, source, link, target] =>
    if Text.sameWord word "load".toList && Text.sameWord link "to".toList &&
        Text.isIdentifier source && Text.isIdentifier target then
      .ok (.readJson (String.ofList source) (String.ofList target))
    else misuse .jsonLoad
  | _ => misuse .jsonLoad

def target? (t : Text) : Option String :=
  let (link, target) := Text.splitWord t
  if Text.sameWord link "to".toList && Text.isIdentifier target then some (String.ofList target)
  else none

def readFetch (arguments : Text) : Reading Statement :=
  let (method, rest) := Text.splitWord arguments
  let parts : Option (String × String) :=
    match rest with
    | '"' :: rest => do
      let (url, rest) ← Text.splitFirst '"' rest
      return (String.ofList url, ← target? rest)
    | _ => none
  match Text.sameWord method "get".toList, parts with
  | true, some (url, target) => .ok (.fetch url target)
  | _, _ => misuse .httpGet

def verbs : List (String × (Text → Reading Statement)) :=
  [("linex", readPrint),
   ("var", readAssign),
   ("input", readWhole .input fun t => .input (String.ofList t)),
   ("calc", readWhole .calculate .calculate),
   ("save", readFile .save .save),
   ("load", readFile .load .load),
   ("json", readJsonLoad),
   ("http", readFetch),
   ("call", readWhole .call fun t => .call (String.ofList t))]

def read (line : Text) : Reading Statement :=
  let (verb, arguments) := Text.splitWord line
  match verbs.lookup (String.ofList (Text.lower verb)) with
  | some reader => reader arguments
  | none => .error (.unknownCommand (String.ofList verb))

def fileName (name : String) : String := name ++ ".json"

end Statement

end LineScript
