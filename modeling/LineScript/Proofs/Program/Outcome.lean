import LineScript.CommandLine
import LineScript.Proofs.Program.Annotations
import LineScript.Proofs.Run.Log
import LineScript.Proofs.Run.Quotes
import LineScript.Proofs.Run.Trace

/-!
# What a run shows

A run shows a log if it succeeds, and one line if it fails, and the one cannot be taken for the
other: nothing that a program puts out is the mark of the end, and nothing that an error quotes
breaks its report in two.  So the exit status, which is read off the last line shown, tells how the
run has gone (`outcome_shown`).
-/

namespace LineScript.Program

variable {options : Options} {input : List String} {world : World} {source : String} {p : Point}

/-- The log of a run that succeeds: the mark of the start, what the program has put out, and the
mark of the end, which is nowhere else. -/
def IsLog (lines : List String) : Prop :=
  ∃ middle, lines = startMark :: (middle ++ [endMark]) ∧ endMark ∉ startMark :: middle

/-- The report of a failure. -/
def IsReport (lines : List String) : Prop := ∃ text, lines = ["❌ Execution error: " ++ text]

theorem not_isReport_of_isLog {lines : List String} (h : IsLog lines) : ¬ IsReport lines := by
  obtain ⟨middle, rfl, -⟩ := h
  rintro ⟨text, htext⟩
  have hlength := congrArg List.length htext
  simp at hlength

theorem getLast?_of_isLog {lines : List String} (h : IsLog lines) :
    lines.getLast? = some endMark := by
  obtain ⟨middle, rfl, -⟩ := h
  rw [← List.cons_append, List.getLast?_concat]

theorem getLast?_of_isReport {lines : List String} (h : IsReport lines) :
    lines.getLast? ≠ some endMark := by
  obtain ⟨text, rfl⟩ := h
  -- whatever the error says, the heading in front of it is apart from the mark
  have hapart : Marker.Apart endMark "❌ Execution error: " := by decide +kernel
  have hne := hapart.ne text ""
  rw [String.append_empty] at hne
  intro hlast
  exact hne (Option.some.inj hlast)

/-! ## Logs -/

theorem Passes.output (h : Passes options input world source p) :
    ∃ middle, p.session.output.toList = startMark :: middle ∧ endMark ∉ startMark :: middle := by
  obtain ⟨rest, -, hreach⟩ := h
  obtain ⟨middle, houtput, hheadings⟩ := hreach.logs
  refine ⟨middle, houtput, fun hmem => ?_⟩
  have hapart : ∀ heading ∈ statementHeadings ++ blockHeadings, Marker.Apart endMark heading := by
    decide +kernel
  rcases List.mem_cons.mp hmem with hstart | hmiddle
  · exact absurd hstart (by decide +kernel)
  · obtain ⟨heading, hheading, more, hline⟩ := hheadings _ hmiddle
    have hne := (hapart heading hheading).ne more ""
    rw [String.append_empty] at hne
    exact hne hline.symm

theorem isLog_of_ok {output : List String}
    (h : (execute options input world source).1 = .ok output) : IsLog output := by
  have hended := ended_execute options input world source
  rw [h] at hended
  generalize (execute options input world source).2 = s at hended
  cases hended with
  | done hpasses hstep =>
    obtain ⟨middle, houtput, hmiddle⟩ := hpasses.output
    refine ⟨middle, ?_, hmiddle⟩
    show (Array.push _ endMark).toList = _
    rw [Array.toList_push, houtput]
    rfl

theorem succeeds_iff_isLog (options : Options) (input : List String) (world : World)
    (source : String) : (∃ output, (execute options input world source).1 = .ok output) ↔
      IsLog (shown (execute options input world source).1) := by
  constructor
  · rintro ⟨output, h⟩
    have hlog := isLog_of_ok h
    rw [h]
    exact hlog
  · intro hlog
    cases h : (execute options input world source).1 with
    | ok output => exact ⟨output, rfl⟩
    | error failure =>
      rw [h] at hlog
      exact absurd ⟨failure.message, rfl⟩ (not_isReport_of_isLog hlog)

/-! ## Reports -/

theorem not_mem_of_getElem? {text : Text} {n : Nat} (h : (lines source)[n]? = some text) :
    '\n' ∉ text :=
  Text.not_mem_of_mem_lines (List.mem_of_mem_filter (List.mem_of_getElem? h))

theorem isReport_of_error {failure : Failure}
    (h : (execute options input world source).1 = .error failure) :
    IsReport (shown (execute options input world source).1) := by
  rw [h]
  exact ⟨failure.message, rfl⟩

theorem fails_iff_isReport (options : Options) (input : List String) (world : World)
    (source : String) : (∃ failure, (execute options input world source).1 = .error failure) ↔
      IsReport (shown (execute options input world source).1) := by
  constructor
  · rintro ⟨failure, h⟩
    exact isReport_of_error h
  · intro hreport
    cases h : (execute options input world source).1 with
    | ok output =>
      have hlog := isLog_of_ok h
      rw [h] at hreport
      exact absurd hreport (not_isReport_of_isLog hlog)
    | error failure => exact ⟨failure, rfl⟩

theorem oneLine_of_error {failure : Failure}
    (h : (execute options input world source).1 = .error failure) : failure.error.OneLine := by
  have hended := ended_execute options input world source
  rw [h] at hended
  generalize (execute options input world source).2 = s at hended
  cases hended with
  | undirected hbody =>
    obtain rfl := body_error hbody
    exact oneLine_of_no_quote rfl
  | failed hpasses hstep =>
    obtain ⟨-, text, hhead, hline⟩ := hpasses.sound.line_of_fails hstep
    refine Point.oneLine_of_fails (fun text' htext => ?_) hstep
    obtain rfl : text = text' := Option.some.inj (hhead.symm.trans htext)
    exact not_mem_of_getElem? hline

/-! ## The command line -/

section Answers

variable {arguments : List String} {file : String} {stdin : ByteArray}
  (hcommand : CommandLine.Command.read arguments = some (.run file input options))
  (hsource : CommandLine.readSource file stdin world = .ok source)

include hcommand hsource

theorem answer_of_read :
    (CommandLine.answer arguments stdin world).1 =
      ⟨if (shown (execute options input world source).1).getLast? = some endMark then 0 else 1,
        CommandLine.unlines (shown (execute options input world source).1), []⟩ := by
  unfold CommandLine.answer CommandLine.answerRun
  rw [hcommand]
  simp only [hsource]

theorem answer_of_ok {output : List String}
    (h : (execute options input world source).1 = .ok output) :
    (CommandLine.answer arguments stdin world).1 = ⟨0, CommandLine.unlines output, []⟩ := by
  rw [answer_of_read hcommand hsource, h]
  have hend : (shown (.ok output)).getLast? = some endMark := getLast?_of_isLog (isLog_of_ok h)
  rw [if_pos hend]
  rfl

theorem answer_of_error {failure : Failure}
    (h : (execute options input world source).1 = .error failure) :
    (CommandLine.answer arguments stdin world).1 = ⟨1, failure.report ++ "\n", []⟩ := by
  have hend := getLast?_of_isReport (isReport_of_error h)
  have hout : CommandLine.unlines [failure.report] = failure.report ++ "\n" := by
    show "" ++ failure.report ++ "\n" = failure.report ++ "\n"
    rw [String.empty_append]
  rw [answer_of_read hcommand hsource, if_neg hend, h, ← hout]
  rfl

end Answers

/-- A run shows a log just if it succeeds, and a report just if it fails; the report is one line,
unless it tells of a page that could not be fetched and this is told in more lines.  The exit status
is 0 just if the run succeeds and 1 just if it fails, and then nothing but the report is put out. -/
theorem outcome_shown (options : Options) (input : List String) (world : World) (source : String) :
    ((∃ output, (execute options input world source).1 = .ok output) ↔
      IsLog (shown (execute options input world source).1)) ∧
    ((∃ failure, (execute options input world source).1 = .error failure) ↔
      IsReport (shown (execute options input world source).1)) ∧
    (∀ output, (execute options input world source).1 = .ok output →
      shown (execute options input world source).1 = output) ∧
    (∀ failure, (execute options input world source).1 = .error failure →
      shown (execute options input world source).1 = ["❌ Execution error: " ++ failure.message] ∧
      (failure.error.CauseOneLine → OneLine failure.message)) ∧
    ∀ arguments file stdin,
      CommandLine.Command.read arguments = some (.run file input options) →
      CommandLine.readSource file stdin world = .ok source →
      ((CommandLine.answer arguments stdin world).1.status = 0 ↔
        ∃ output, (execute options input world source).1 = .ok output) ∧
      ((CommandLine.answer arguments stdin world).1.status = 1 ↔
        ∃ failure, (execute options input world source).1 = .error failure) ∧
      ∀ failure, (execute options input world source).1 = .error failure →
        (CommandLine.answer arguments stdin world).1.out = failure.report ++ "\n" ∧
        (failure.error.CauseOneLine → OneLine failure.report) := by
  refine ⟨succeeds_iff_isLog options input world source,
    fails_iff_isReport options input world source, fun output h => by rw [h]; rfl,
    fun failure h => ⟨by rw [h]; rfl, Failure.oneLine_message (oneLine_of_error h)⟩, ?_⟩
  intro arguments file stdin hcommand hsource
  -- the status goes with the result, and each excludes the other
  cases h : (execute options input world source).1 with
  | ok output =>
    rw [answer_of_ok hcommand hsource h]
    refine ⟨⟨fun _ => ⟨output, rfl⟩, fun _ => rfl⟩, ⟨fun hone => (by cases hone), ?_⟩, ?_⟩
    · rintro ⟨failure, hfailure⟩
      cases hfailure
    · intro failure hfailure
      cases hfailure
  | error failure =>
    rw [answer_of_error hcommand hsource h]
    refine ⟨⟨fun hzero => (by cases hzero), ?_⟩, ⟨fun _ => ⟨failure, rfl⟩, fun _ => rfl⟩, ?_⟩
    · rintro ⟨output, houtput⟩
      cases houtput
    · intro failure' hfailure
      cases hfailure
      exact ⟨rfl, Failure.oneLine_report (oneLine_of_error h)⟩

end LineScript.Program
