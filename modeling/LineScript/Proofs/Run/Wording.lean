import LineScript.Error
import Mathlib.Data.List.Basic

/-!
# The wording of errors

What an error says is one line, if what it quotes is (`Error.OneLine.message`); and so is the report
of a failure (`Failure.oneLine_report`).  Only what the network tells of a page that could not be
fetched is left open.
-/

namespace LineScript

def OneLine (s : String) : Prop := '\n' ∉ s.toList

instance (s : String) : Decidable (OneLine s) := inferInstanceAs (Decidable ('\n' ∉ s.toList))

theorem OneLine.append {a b : String} (ha : OneLine a) (hb : OneLine b) : OneLine (a ++ b) := by
  intro h
  rw [String.toList_append, List.mem_append] at h
  rcases h with h | h
  · exact ha h
  · exact hb h

theorem OneLine.between {first middle last : String} (h : OneLine middle) (hfirst : OneLine first)
    (hlast : OneLine last) : OneLine (first ++ middle ++ last) :=
  (hfirst.append h).append hlast

theorem oneLine_ofList {t : Text} (h : '\n' ∉ t) : OneLine (String.ofList t) := by
  unfold OneLine
  rw [String.toList_ofList]
  exact h

theorem oneLine_number (n : Nat) : OneLine (toString n) := by
  intro h
  have hmem : '\n' ∈ Nat.toDigits 10 n := by simpa using h
  have hdigit := Nat.isDigit_of_mem_toDigits (by decide) (by decide) hmem
  exact absurd hdigit (by decide +kernel)

/-! ## The wording of errors -/

/-- What an error quotes, but for what is told of a page that could not be fetched. -/
def Error.quotes : Error → List String
  | unknownCommand text | unknownSubcommand text | loopCount text | undefinedFunction text
  | undefinedSource text | notText text _ | invalidContent text | invalidFile text _
  | notObject text | noValue text | missingFile text | request text _ | stated _ text => [text]
  | missingDirective | unclosedBlock _ | usage _ | tooLong | noOrder .. | file _
  | tooManyCalls => []

/-- What an error quotes is one line. -/
def Error.OneLine (e : Error) : Prop := ∀ quote ∈ e.quotes, LineScript.OneLine quote

def Error.CauseOneLine (e : Error) : Prop :=
  ∀ url cause, e = .request url cause → LineScript.OneLine cause.message

theorem oneLine_jsonError (e : Json.Error) : OneLine e.message := by
  have hfault : OneLine e.fault.text := by
    cases e.fault <;> decide +kernel
  have hline : OneLine (e.fault.text ++ " at line " ++ toString e.line) :=
    (hfault.append (by decide +kernel)).append (oneLine_number e.line)
  exact (hline.append (by decide +kernel)).append (oneLine_number e.column)

theorem Value.Kind.oneLine_name (kind : Value.Kind) : OneLine kind.name := by
  cases kind <;> decide +kernel

theorem Comparison.oneLine_symbol (op : Comparison) : OneLine op.symbol := by
  cases op <;> decide +kernel

theorem ErrorKind.oneLine_describe (kind : ErrorKind) {detail : String} (h : OneLine detail) :
    OneLine (kind.describe detail) := by
  cases kind with
  | directive =>
    show OneLine "the program must start with 'linex init project'"
    decide +kernel
  | fileNotFound => exact h.between (by decide +kernel) (by decide +kernel)
  | expression => exact h.between (by decide +kernel) (by decide +kernel)
  | _ => exact OneLine.append (by decide +kernel) h

theorem Error.OneLine.detail {e : Error} (h : e.OneLine) (hcause : e.CauseOneLine) :
    LineScript.OneLine e.detail := by
  -- what is quoted is one line, and so is the wording around it
  cases e with
  | missingDirective => decide +kernel
  | unclosedBlock kind => cases kind <;> decide +kernel
  | unknownCommand text | unknownSubcommand text | loopCount text | undefinedFunction text
  | undefinedSource text | invalidContent text | notObject text =>
    exact (h text List.mem_cons_self).between (by decide +kernel) (by decide +kernel)
  | usage form => cases form <;> decide +kernel
  | notText text kind =>
    have htext : LineScript.OneLine ("variable '" ++ text ++ "' holds a ") :=
      (h text List.mem_cons_self).between (by decide +kernel) (by decide +kernel)
    exact (htext.append kind.oneLine_name).append (by decide +kernel)
  | invalidFile text cause =>
    have htext : LineScript.OneLine ("'" ++ text ++ "' is not valid JSON: ") :=
      (h text List.mem_cons_self).between (by decide +kernel) (by decide +kernel)
    exact htext.append (oneLine_jsonError cause)
  | tooLong => decide +kernel
  | noOrder op left right =>
    have hsymbol : LineScript.OneLine ("'" ++ op.symbol ++ "' not supported between ") :=
      op.oneLine_symbol.between (by decide +kernel) (by decide +kernel)
    have hand : LineScript.OneLine " and " := by decide +kernel
    have hleft := (hsymbol.append left.oneLine_name).append hand
    exact hleft.append right.oneLine_name
  | noValue text => exact h text List.mem_cons_self
  | missingFile text => exact h text List.mem_cons_self
  | file cause => cases cause <;> decide +kernel
  | tooManyCalls => decide +kernel
  | request url cause =>
    have hurl : LineScript.OneLine ("request to `" ++ url ++ "` failed: ") :=
      (h url List.mem_cons_self).between (by decide +kernel) (by decide +kernel)
    exact hurl.append (hcause url cause rfl)
  | stated kind text => exact h text List.mem_cons_self

theorem Error.OneLine.message {e : Error} (h : e.OneLine) (hcause : e.CauseOneLine) :
    LineScript.OneLine e.message :=
  e.kind.oneLine_describe (h.detail hcause)

/-! ## Reports -/

theorem Failure.oneLine_message {f : Failure} (h : f.error.OneLine)
    (hcause : f.error.CauseOneLine) : OneLine f.message := by
  -- on the numbers of lines, which stand at the end
  have hlines : ∀ (ns : List Nat) {s : String}, OneLine s →
      OneLine (ns.foldl (fun s n => s ++ s!" (line {n})") s) := by
    intro ns
    induction ns with
    | nil => exact fun hs => hs
    | cons n ns ih =>
      intro s hs
      exact ih (hs.append ((oneLine_number n).between (by decide +kernel) (by decide +kernel)))
  exact hlines f.lines (h.message hcause)

theorem Failure.oneLine_report {f : Failure} (h : f.error.OneLine)
    (hcause : f.error.CauseOneLine) : OneLine f.report :=
  OneLine.append (by decide +kernel) (f.oneLine_message h hcause)

end LineScript
