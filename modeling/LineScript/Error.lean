import LineScript.Block.Kind
import LineScript.Comparison
import LineScript.Json.Fault
import LineScript.World.Files
import LineScript.World.Network

/-!
Errors: why a program fails, on which lines, and in what words.

An `Error` is a cause. A `Failure` is a cause with the lines it passed on its way out, the innermost
first: the line that failed, and the lines of the blocks and calls around it.
-/

namespace LineScript

inductive ErrorKind where
  | directive
  | syntaxError
  | nameError
  | valueError
  | typeError
  | fileNotFound
  | runtimeError
  | expression
  | fileError
deriving DecidableEq

def ErrorKind.describe (kind : ErrorKind) (detail : String) : String :=
  match kind with
  | directive => "the program must start with 'linex init project'"
  | syntaxError => s!"syntax error: {detail}"
  | nameError => s!"name error: {detail}"
  | valueError => s!"value error: {detail}"
  | typeError => s!"type error: {detail}"
  | fileNotFound => s!"file '{detail}' not found"
  | runtimeError => s!"runtime error: {detail}"
  | expression => s!"invalid expression or undefined variable: '{detail}'"
  | fileError => s!"I/O error: {detail}"

inductive Form where
  | print
  | assign
  | assignCalc
  | input
  | calculate
  | save
  | load
  | jsonLoad
  | httpGet
  | call
  | func
  | branch
  | loop
deriving DecidableEq

def Form.text : Form → String
  | print => "linex print <expression>"
  | assign => "var <name> = <expression>"
  | assignCalc => "var <name> = calc <expression>"
  | input => "input <variable>"
  | calculate => "calc <expression>"
  | save => "save \"<file>\""
  | load => "load \"<file>\""
  | jsonLoad => "json load <source> to <target>"
  | httpGet => "http get \"<url>\" to <variable>"
  | call => "call <function>"
  | func => "func <name> begin"
  | branch => "if <condition> begin"
  | loop => "loop <count> begin"

inductive Error where
  | missingDirective
  | unclosedBlock (kind : Block.Kind)
  | unknownCommand (verb : String)
  | unknownSubcommand (word : String)
  | usage (form : Form)
  | loopCount (count : String)
  | undefinedFunction (name : String)
  | undefinedSource (name : String)
  | notText (name : String) (kind : Value.Kind)
  | invalidContent (name : String)
  | invalidFile (file : String) (cause : Json.Error)
  | notObject (file : String)
  | tooLong
  | noOrder (op : Comparison) (left right : Value.Kind)
  | noValue (expression : String)
  | missingFile (file : String)
  | file (cause : FileError)
  | tooManyCalls
  | request (url : String) (cause : FetchError)
  /-- An error that a host of the interpreter words itself. -/
  | stated (kind : ErrorKind) (detail : String)
deriving DecidableEq

namespace Error

def kind : Error → ErrorKind
  | missingDirective => .directive
  | unclosedBlock _ | unknownCommand _ | unknownSubcommand _ | usage _ => .syntaxError
  | undefinedFunction _ | undefinedSource _ => .nameError
  | loopCount _ | notText .. | invalidContent _ | invalidFile .. | notObject _ | tooLong =>
    .valueError
  | noOrder .. => .typeError
  | noValue _ => .expression
  | missingFile _ => .fileNotFound
  | file _ => .fileError
  | tooManyCalls | request .. => .runtimeError
  | stated kind _ => kind

def detail : Error → String
  | missingDirective => ""
  | unclosedBlock kind => s!"'{kind.opener}' block is not closed with '{kind.closer}'"
  | unknownCommand verb => s!"unknown command '{verb}'"
  | unknownSubcommand word => s!"unknown 'linex' sub-command '{word}'"
  | usage form => s!"usage: {form.text}"
  | loopCount count => s!"loop count '{count}' is out of range"
  | undefinedFunction name => s!"function '{name}' is not defined"
  | undefinedSource name => s!"source variable '{name}' is not defined"
  | notText name kind => s!"variable '{name}' holds a {kind.name}, not JSON text"
  | invalidContent name => s!"content of variable '{name}' is not valid JSON"
  | invalidFile path cause => s!"'{path}' is not valid JSON: {cause.message}"
  | notObject path => s!"'{path}' does not hold a JSON object"
  | tooLong => "concatenated string is too long"
  | noOrder op left right => s!"'{op.symbol}' not supported between {left.name} and {right.name}"
  | noValue expression => expression
  | missingFile path => path
  | file cause => cause.message
  | tooManyCalls => "maximum recursion depth exceeded"
  | request url cause => s!"request to `{url}` failed: {cause.message}"
  | stated _ detail => detail

def message (e : Error) : String := e.kind.describe e.detail

end Error

/-- An error with the numbers of the lines it passed, the innermost first. -/
structure Failure where
  error : Error
  lines : List Nat
deriving DecidableEq

namespace Failure

def of (error : Error) : Failure := ⟨error, []⟩

def atLine (f : Failure) (n : Nat) : Failure := { f with lines := f.lines ++ [n] }

/-- The wording of a failure: that of its error, and the lines in order. -/
def message (f : Failure) : String :=
  f.lines.foldl (fun s n => s ++ s!" (line {n})") f.error.message

def report (f : Failure) : String := s!"❌ Execution error: {f.message}"

end Failure

end LineScript
