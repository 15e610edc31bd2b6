import LineScript.Proofs.Run.Marker
import LineScript.Proofs.Run.Report

/-!
# The log of a run

Each line that a run puts out starts with one of a few headings: that of the statement which the
step obeys (`Point.logs_of_obey`), or one of those that blocks and calls put out on their own
(`Session.Manages.logs`).  What follows a heading may be any text; what does not start as one of
them is never put out.
-/

namespace LineScript

open Block

def statementHeadings : List String :=
  ["📢 ", "✅ Variable '", "⌨️ Variable '", "🧮 Result: ", "💾 Variables saved to ",
    "📂 Variables loaded from ", "📄 Content of '", "🌐 GET request to `", "➡️ Calling function '"]

def blockHeadings : List String :=
  ["📦 Function '", "✅ Condition true.", "❌ Condition false.", "🔄 Starting loop for ",
    "✅ Loop finished.", "⬅️ Finished function '"]

theorem Statement.heading_mem (st : Statement) : st.heading ∈ statementHeadings := by
  cases st <;> simp [heading, statementHeadings]

namespace Session

def Logs (headings : List String) (s t : Session) : Prop :=
  ∃ lines, t.output.toList = s.output.toList ++ lines ∧
    ∀ line ∈ lines, ∃ heading ∈ headings, ∃ more, line = heading ++ more

variable {s t u : Session} {headings headings' : List String} {heading : String}

theorem logs_of_eq (h : t.output = s.output) : s.Logs headings t :=
  ⟨[], by rw [h, List.append_nil], fun _ hline => by cases hline⟩

theorem logs_push {more : String} (h : t.output = s.output.push (heading ++ more))
    (hheading : heading ∈ headings) : s.Logs headings t := by
  refine ⟨[heading ++ more], by rw [h, Array.toList_push], fun line hline => ?_⟩
  obtain rfl := List.mem_singleton.mp hline
  exact ⟨heading, hheading, more, rfl⟩

theorem Logs.trans (h : s.Logs headings t) (h' : t.Logs headings u) : s.Logs headings u := by
  obtain ⟨lines, ht, hlines⟩ := h
  obtain ⟨lines', hu, hlines'⟩ := h'
  refine ⟨lines ++ lines', by rw [hu, ht, List.append_assoc], fun line hline => ?_⟩
  rcases List.mem_append.mp hline with hline | hline
  · exact hlines line hline
  · exact hlines' line hline

theorem Logs.mono (h : s.Logs headings t) (hsubset : headings ⊆ headings') :
    s.Logs headings' t := by
  obtain ⟨lines, ht, hlines⟩ := h
  refine ⟨lines, ht, fun line hline => ?_⟩
  obtain ⟨heading, hheading, hmore⟩ := hlines line hline
  exact ⟨heading, hsubset hheading, hmore⟩

/-- What the session becomes in a step that obeys no statement. -/
inductive Manages (s : Session) : Session → Prop
  | silent : Manages s s
  | stored (name : String) (f : Function) : Manages s (s.stored name f)
  | decided {opener : Text} {holds : Bool} {t : Session}
      (hdecision : s.decision opener = .ok (holds, t)) : Manages s (t.chosen holds)
  | looping (turns : Nat) : Manages s (s.looping turns)
  | looped : Manages s s.looped
  | idle : Manages s (s.looping 0).looped
  | finished (name : String) : Manages s (s.finished name)

theorem logs_looping (s : Session) (turns : Nat) : s.Logs blockHeadings (s.looping turns) := by
  have houtput : (s.looping turns).output =
      s.output.push ("🔄 Starting loop for " ++ (toString turns ++ " iterations...")) := by
    rw [← String.append_assoc]
    rfl
  exact logs_push houtput (by decide)

theorem logs_looped (s : Session) : s.Logs blockHeadings s.looped := by
  have houtput : s.looped.output = s.output.push ("✅ Loop finished." ++ "") := rfl
  exact logs_push houtput (by decide)

theorem Manages.logs (h : s.Manages t) : s.Logs blockHeadings t := by
  -- each piece of work puts out one line, whose first part is among the headings
  cases h with
  | silent => exact logs_of_eq rfl
  | stored name f =>
    have houtput : (s.stored name f).output =
        s.output.push ("📦 Function '" ++ (name ++ "' defined.")) := by
      rw [← String.append_assoc]
      rfl
    exact logs_push houtput (by decide)
  | @decided opener holds u hdecision =>
    obtain ⟨draws, rfl⟩ := exists_of_decision hdecision
    cases holds with
    | true =>
      have houtput : ((s.withDraws draws).chosen true).output =
          s.output.push ("✅ Condition true." ++ " Running 'if' block...") := rfl
      exact logs_push houtput (by decide)
    | false =>
      have houtput : ((s.withDraws draws).chosen false).output =
          s.output.push ("❌ Condition false." ++ " Skipping to 'else' block...") := rfl
      exact logs_push houtput (by decide)
  | looping turns => exact logs_looping s turns
  | looped => exact logs_looped s
  | idle => exact (logs_looping s 0).trans (logs_looped _)
  | finished name =>
    have houtput : (s.finished name).output =
        s.output.push ("⬅️ Finished function '" ++ (name ++ "'.")) := by
      rw [← String.append_assoc]
      rfl
    exact logs_push houtput (by decide)

end Session

namespace Point

variable {p q : Point} {rest : Block} {st : Statement}

def statement? (p : Point) : Option Statement :=
  match p.block with
  | .line text _ => if isSilent text then none else (Statement.read text).toOption
  | _ => none

theorem step_of_statement? (h : p.statement? = some st) : ∃ rest, p.step = p.obey rest st := by
  obtain ⟨block, number, waiting, session⟩ := p
  unfold statement? at h
  split at h
  · next text rest hblock =>
    obtain rfl : block = .line text rest := hblock
    refine ⟨rest, ?_⟩
    split at h
    · cases h
    · next hsilent =>
      cases hread : Statement.read text with
      | error e =>
        rw [hread] at h
        cases h
      | ok st' =>
        rw [hread] at h
        cases h
        simp only [step, if_neg hsilent, hread]
  · cases h

/-- A step that obeys no statement does the work of a block, of a line that is silent, or of the end
of a block. -/
theorem manages_of_step (hnone : p.statement? = none) (hstep : p.step = .goes q) :
    p.session.Manages q.session := by
  cases goes_of_step hstep with
  | resumed =>
    unfold resume
    split
    · exact .silent
    · exact .silent
    · exact .looped
    · exact .finished _
  | silent => exact .silent
  | obeyed hsilent hread =>
    simp only [statement?, hsilent, hread] at hnone
    cases hnone
  | stored => exact .stored _ _
  | chosen hdecision => exact .decided hdecision
  | passed hdecision => exact .decided hdecision
  | chosen_yes hdecision => exact .decided hdecision
  | chosen_no hdecision => exact .decided hdecision
  | idle => exact .idle
  | turning => exact .looping _

theorem logs_of_obey (h : p.obey rest st = .goes q) :
    p.session.Logs [st.heading] q.session := by
  rcases goes_of_obey h with ⟨name, f, rfl, -, -, rfl⟩ | ⟨t, hno, hrun, rfl⟩
  · have houtput : (p.session.started name).output =
        p.session.output.push ("➡️ Calling function '" ++ (name ++ "'...")) := by
      rw [← String.append_assoc]
      rfl
    exact Session.logs_push houtput List.mem_cons_self
  · have hreports := Statement.reports hno (fun _ => pure ()) p.session
    rw [hrun] at hreports
    obtain ⟨more, houtput⟩ := hreports
    exact Session.logs_push houtput List.mem_cons_self

theorem logs_of_step (hstep : p.step = .goes q) :
    p.session.Logs (statementHeadings ++ blockHeadings) q.session := by
  cases hst : p.statement? with
  | none => exact (manages_of_step hst hstep).logs.mono (List.subset_append_right _ _)
  | some st =>
    obtain ⟨rest, hobey⟩ := step_of_statement? hst
    rw [hobey] at hstep
    apply (logs_of_obey hstep).mono
    intro heading hheading
    obtain rfl := List.mem_singleton.mp hheading
    exact List.mem_append_left _ st.heading_mem

theorem Reaches.logs (h : p.Reaches q) :
    p.session.Logs (statementHeadings ++ blockHeadings) q.session := by
  induction h with
  | here => exact Session.logs_of_eq rfl
  | next _ hstep ih => exact ih.trans (logs_of_step hstep)

end Point

end LineScript
