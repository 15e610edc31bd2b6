import LineScript.Proofs.Run.Marker
import LineScript.Proofs.Run.Moves
import LineScript.Proofs.Run.Report

/-!
# The trace of a run

At every point of a run the markers that it has put out leave open just the calls and the loops whose
bodies are running (`Point.Marked`): the lines that wait are the stack of the brackets.  So the markers
of a run that succeeds are well nested, those of a run that fails are the start of a well-nested row,
and no more calls are open at once than may become active (`Session.markers_of_run`).
-/

namespace LineScript

open Marker (among opened Opens WellNested Apart openings)

/-! ## What is put out -/

namespace Session

def Puts (s t : Session) (ms : List Marker) : Prop :=
  ∃ lines, t.output.toList = s.output.toList ++ lines ∧ among lines = ms

variable {s t u : Session} {ms ms' : List Marker}

theorem puts_of_eq (h : t.output = s.output) : s.Puts t [] :=
  ⟨[], by rw [h, List.append_nil], rfl⟩

theorem Puts.trans (h : s.Puts t ms) (h' : t.Puts u ms') : s.Puts u (ms ++ ms') := by
  obtain ⟨lines, ht, rfl⟩ := h
  obtain ⟨lines', hu, rfl⟩ := h'
  exact ⟨lines ++ lines', by rw [hu, ht, List.append_assoc], List.filterMap_append⟩

theorem puts_push {line : String} {m : Option Marker} (ht : t.output = s.output.push line)
    (hread : Marker.read? line = m) : s.Puts t m.toList := by
  refine ⟨[line], by rw [ht, Array.toList_push], ?_⟩
  show List.filterMap Marker.read? [line] = m.toList
  rw [List.filterMap_cons, hread]
  cases m <;> rfl

theorem puts_looping (s : Session) (turns : Nat) : s.Puts (s.looping turns) [.start .loop] :=
  puts_push rfl (Marker.read?_start_loop _)

theorem puts_looped (s : Session) : s.Puts s.looped [.finish .loop] :=
  puts_push rfl Marker.read?_finish_loop

theorem puts_started (s : Session) (name : String) :
    s.Puts (s.started name) [.start (.call name)] :=
  puts_push rfl (Marker.read?_start_call name)

theorem puts_finished (s : Session) (name : String) :
    s.Puts (s.finished name) [.finish (.call name)] :=
  puts_push rfl (Marker.read?_finish_call name)

theorem puts_chosen {opener : Text} {holds : Bool} (h : s.decision opener = .ok (holds, t)) :
    s.Puts (t.chosen holds) [] := by
  obtain ⟨draws, rfl⟩ := exists_of_decision h
  cases holds with
  | true =>
    have hread : Marker.read? "✅ Condition true. Running 'if' block..." = none := by decide +kernel
    exact puts_push rfl hread
  | false =>
    have hread : Marker.read? "❌ Condition false. Skipping to 'else' block..." = none := by
      decide +kernel
    exact puts_push rfl hread

theorem puts_stored (s : Session) (name : String) (f : Function) : s.Puts (s.stored name f) [] := by
  have hapart : ∀ first ∈ openings, Apart first "📦 Function '" := by decide +kernel
  have hread := Marker.read?_eq_none hapart (name ++ "' defined.")
  rw [← String.append_assoc] at hread
  exact puts_push rfl hread

end Session

theorem Statement.apart_heading {st : Statement} (hno : ∀ name, st ≠ .call name) :
    ∀ first ∈ openings, Apart first st.heading := by
  cases st with
  | call name => exact absurd rfl (hno name)
  | _ =>
    simp only [heading]
    decide +kernel

/-! ## The spans that are open at a point -/

/-- The span that a line opens which waits for a reason. -/
def Reason.span? : Reason → Option Span
  | branch => none
  | loop _ _ => some .loop
  | call name => some (.call name)

/-- The calls and the loops whose bodies are running at a point, the innermost first. -/
def Point.spans (p : Point) : List Span := p.waiting.filterMap (·.reason.span?)

namespace Session

variable {s t : Session} {reason : Reason}

theorem Works.puts (h : s.Works t) : s.Puts t [] ∨ s.Puts t [.start .loop, .finish .loop] := by
  cases h with
  | silent => exact .inl (puts_of_eq rfl)
  | statement hno hrun =>
    have hreports := Statement.reports hno (fun _ => pure ()) s
    rw [hrun] at hreports
    obtain ⟨more, ht⟩ := hreports
    exact .inl (puts_push ht (Marker.read?_eq_none (Statement.apart_heading hno) more))
  | stored name f => exact .inl (puts_stored s name f)
  | decided hdecision => exact .inl (puts_chosen hdecision)
  | looped => exact .inr ((puts_looping s 0).trans (puts_looped _))

theorem Works.sameDepth (h : s.Works t) : s.SameDepth t := by
  cases h with
  | silent => exact ⟨rfl, rfl⟩
  | statement hno hrun => exact sameDepth_frame.of_run hno hrun
  | stored name f => exact ⟨rfl, rfl⟩
  | decided hdecision => exact sameDepth_frame.of_chosen hdecision
  | looped => exact ⟨rfl, rfl⟩

theorem Enters.puts (h : s.Enters reason t) : s.Puts t (reason.span?.toList.map .start) := by
  cases h with
  | branch hdecision => exact puts_chosen hdecision
  | loop body turns => exact puts_looping s (turns + 1)
  | call hf hroom => exact puts_started s _

end Session

namespace Point

variable {s : Session} {p q : Point} {t : Session}

/-- A run that started in the session `s` has come to a point: the markers put out since then leave open
the spans of the point, and its calls are active besides those that were active before. -/
structure Marked (s : Session) (p : Point) : Prop where
  options : p.session.options = s.options
  calls : p.session.calls = s.calls + p.spans.countP Span.isCall
  trace : ∃ ms, s.Puts p.session ms ∧ Opens s.room ms p.spans

theorem marked_first (s : Session) (lines : List Text) (n : Nat) : (s.first lines n).Marked s where
  options := rfl
  calls := rfl
  trace := ⟨[], Session.puts_of_eq rfl, Marker.opens_nil _⟩

variable {ms : List Marker}

theorem Marked.goes (h : p.Marked s) (hoptions : q.session.options = p.session.options)
    (hcalls : q.session.calls = s.calls + q.spans.countP Span.isCall)
    (hputs : p.session.Puts q.session ms)
    (hopens : ∀ before, Opens s.room before p.spans → Opens s.room (before ++ ms) q.spans) :
    q.Marked s := by
  obtain ⟨before, hbefore, hspans⟩ := h.trace
  exact ⟨hoptions.trans h.options, hcalls, before ++ ms, hbefore.trans hputs, hopens before hspans⟩

theorem Marked.passes (h : p.Marked s) (hspans : q.spans = p.spans)
    (hsame : p.session.SameDepth q.session) (hputs : p.session.Puts q.session []) :
    q.Marked s := by
  apply h.goes hsame.1 _ hputs
  · intro before hopens
    rwa [List.append_nil, hspans]
  · rw [hsame.2, hspans]
    exact h.calls

theorem Marked.countP_le (h : p.Marked s) : p.spans.countP Span.isCall ≤ s.room := by
  obtain ⟨ms, -, hopens⟩ := h.trace
  exact hopens.countP_le

theorem Marked.skip (h : p.Marked s) (hworks : p.session.Works t) (rest : Block) (lines : Nat) :
    (p.skip rest lines t).Marked s := by
  have hsame := hworks.sameDepth
  rcases hworks.puts with hputs | hputs
  · exact h.passes rfl hsame hputs
  -- a loop without turns starts and finishes at once
  · apply h.goes hsame.1 (hsame.2.trans h.calls) hputs
    intro before hopens
    have hlimit : (Span.loop :: p.spans).countP Span.isCall ≤ s.room := h.countP_le
    have hloop := (hopens.start hlimit).finish
    rwa [List.append_assoc] at hloop

theorem Marked.enter {reason : Reason} (h : p.Marked s) (henters : p.session.Enters reason t)
    (block : Block) (number : Nat) (rest : Block) (lines : Nat) :
    (p.enter block number reason rest lines t).Marked s := by
  have hputs := henters.puts
  cases henters with
  | branch hdecision => exact h.passes rfl (Session.sameDepth_frame.of_chosen hdecision) hputs
  | loop body turns =>
    exact h.goes rfl h.calls hputs fun before hopens => hopens.start h.countP_le
  | @call name f hf hroom =>
    -- one more call is active and open, which there is room for
    have hcount := Span.countP_call name p.spans
    have hcalls : (p.session.started name).calls =
        s.calls + (Span.call name :: p.spans).countP Span.isCall := by
      show p.session.calls + 1 = _
      rw [h.calls, hcount]
      rfl
    have hlimit : (Span.call name :: p.spans).countP Span.isCall ≤ s.room := by
      rw [hcount]
      unfold Session.room at hroom ⊢
      rw [h.options, h.calls] at hroom
      omega
    exact h.goes rfl hcalls hputs fun before hopens => hopens.start hlimit

theorem Marked.resume {w : Waiting} {ws : List Waiting} (h : p.Marked s)
    (hwaiting : p.waiting = w :: ws) : (p.resume w ws).Marked s := by
  obtain ⟨block, number, waiting, session⟩ := p
  obtain ⟨line, reason, rest, next⟩ := w
  obtain rfl : waiting = _ := hwaiting
  -- what is taken up again closes its span, unless it is a loop with turns to come
  cases reason with
  | branch => exact h.passes rfl ⟨rfl, rfl⟩ (Session.puts_of_eq rfl)
  | loop body turns =>
    cases turns with
    | zero =>
      exact h.goes rfl h.calls (Session.puts_looped session) fun before hopens => hopens.finish
    | succ turns => exact h.passes rfl ⟨rfl, rfl⟩ (Session.puts_of_eq rfl)
  | call name =>
    have hcalls : (session.finished name).calls =
        s.calls + (ws.filterMap (·.reason.span?)).countP Span.isCall := by
      have hcount : session.calls =
          s.calls + (Span.call name :: ws.filterMap (·.reason.span?)).countP Span.isCall := h.calls
      rw [Span.countP_call] at hcount
      show session.calls - 1 = _
      omega
    exact h.goes rfl hcalls (Session.puts_finished session name) fun before hopens => hopens.finish

theorem Marked.step (h : p.Marked s) (hmoves : p.Moves q) : q.Marked s := by
  cases hmoves with
  | resume _ hwaiting => exact h.resume hwaiting
  | skip rest lines hworks => exact h.skip hworks rest lines
  | enter block number rest lines henters => exact h.enter henters block number rest lines

theorem Marked.reaches (h : p.Marked s) (hreach : p.Reaches q) : q.Marked s := by
  -- on the steps of the run, each of which keeps the markers and the spans in line
  induction hreach with
  | here => exact h
  | next _ hstep ih => exact ih.step (moves_of_step hstep)

/-! ## The end of a run -/

theorem output_leave (t : Session) (ws : List Waiting) : (leave t ws).output = t.output := by
  have hleave : ∀ u : Session, u.output = t.output → u.leaveCall.output = t.output := fun _ h => h
  exact leave_keeps hleave ws rfl

theorem Leaves.output (h : p.Leaves t) : t.output = p.session.output := by
  rcases h with ⟨draws, rfl⟩ | ⟨st, f, hno, hrun⟩
  · rfl
  · have hreports := Statement.reports hno (fun _ => pure ()) p.session
    rw [hrun] at hreports
    exact hreports

theorem Moves.puts (h : p.Moves q) : ∃ ms, p.session.Puts q.session ms := by
  cases h with
  | resume hblock hwaiting =>
    unfold Point.resume
    split
    · exact ⟨_, Session.puts_of_eq rfl⟩
    · exact ⟨_, Session.puts_of_eq rfl⟩
    · exact ⟨_, Session.puts_looped _⟩
    · exact ⟨_, Session.puts_finished _ _⟩
  | skip rest lines hworks =>
    rcases hworks.puts with hputs | hputs
    · exact ⟨_, hputs⟩
    · exact ⟨_, hputs⟩
  | enter block number rest lines henters => exact ⟨_, henters.puts⟩

theorem Reaches.output (h : p.Reaches q) : p.session.output.toList <+: q.session.output.toList := by
  induction h with
  | here => exact List.prefix_refl _
  | next _ hstep ih =>
    obtain ⟨ms, lines, houtput, -⟩ := (moves_of_step hstep).puts
    exact ih.trans ⟨lines, houtput.symm⟩

/-- The function that the next line calls. -/
def callee? (p : Point) : Option String :=
  match p.block with
  | .line text _ =>
    if Block.isSilent text then none
    else
      match Statement.read text with
      | .ok (.call name) => some name
      | _ => none
  | _ => none

theorem step_of_callee? {name : String} (h : p.callee? = some name) :
    ∃ rest, p.step = p.obey rest (.call name) := by
  obtain ⟨block, number, waiting, session⟩ := p
  unfold callee? at h
  split at h
  · next text rest hblock =>
    obtain rfl : block = .line text rest := hblock
    refine ⟨rest, ?_⟩
    simp only [step]
    split at h
    · cases h
    · next hsilent =>
      split at h
      · next hread =>
        cases h
        rw [if_neg hsilent, hread]
      · cases h
  · cases h

theorem step_cases_of_callee? {name : String} {f : Function} (h : p.callee? = some name)
    (hf : p.session.functions.get? name = some f) :
    (p.session.room = 0 → p.step = .fails .tooManyCalls p.session) ∧
      (p.session.room ≠ 0 → ∃ q, p.step = .goes q ∧ q.session = p.session.started name) := by
  obtain ⟨rest, hstep⟩ := step_of_callee? h
  have hfunction : p.session.function name = .ok f := by
    unfold Session.function
    rw [hf]
  rw [hstep]
  simp only [obey, hfunction]
  constructor
  · intro hroom
    exact if_pos hroom
  · intro hroom
    exact ⟨_, if_neg hroom, rfl⟩

/-- The point that a run comes to after some steps, or where it ends before. -/
def walk (p : Point) : Nat → Point
  | 0 => p
  | n + 1 =>
    match (p.walk n).step with
    | .goes q => q
    | _ => p.walk n

theorem reaches_walk (p : Point) (n : Nat) : p.Reaches (p.walk n) := by
  induction n with
  | zero => exact .here
  | succ n ih =>
    unfold walk
    split
    · next hstep => exact ih.next hstep
    · exact ih

end Point

namespace Session

theorem exists_final (s : Session) (lines : List Text) (n : Nat) :
    ∃ p, (s.first lines n).Reaches p ∧ p.Final ∧
      (Run.lines lines n s).2.output = p.session.output ∧
      ∀ a, (Run.lines lines n s).1 = .ok a → p.waiting = [] := by
  have hcomes := s.comes_first lines n
  cases hrun : Run.lines lines n s with
  | mk result t =>
    rw [hrun] at hcomes
    cases result with
    | ok a =>
      obtain ⟨number, hreach⟩ := hcomes
      exact ⟨_, hreach, Point.final_done, rfl, fun _ _ => rfl⟩
    | error f =>
      -- neither the line that fails nor the calls it leaves put anything out
      obtain ⟨p, inner, e, u, hreach, hstep, -, -, rfl⟩ := hcomes
      refine ⟨p, hreach, .of_fails hstep, ?_, fun a h => by cases h⟩
      rw [Point.output_leave]
      exact (Point.leaves_of_fails hstep).output

/-- The markers that a run puts out are well nested if it succeeds, and they are the start of a
well-nested row if it fails; no more calls are open at once than may still become active.  A call of a
function is refused, and puts out nothing, if as many calls are active as may be, and it puts out its
marker otherwise; the calls that are active are those that were so before, and those that are open. -/
theorem markers_of_run (s : Session) (hdepth : s.calls ≤ s.options.maxCalls) (lines : List Text)
    (n : Nat) :
    (∃ added, (Run.lines lines n s).2.output.toList = s.output.toList ++ added ∧
      (∀ a, (Run.lines lines n s).1 = .ok a → WellNested (among added)) ∧
      (∃ more, WellNested (among added ++ more)) ∧
      ∀ before, before <+: among added → ∃ still, opened before = some still ∧
        still.countP Span.isCall ≤ s.options.maxCalls - s.calls) ∧
    ∀ p name f, (s.first lines n).Reaches p → p.callee? = some name →
      p.session.functions.get? name = some f →
      (∃ added still, p.session.output.toList = s.output.toList ++ added ∧
        opened (among added) = some still ∧
        p.session.calls = s.calls + still.countP Span.isCall) ∧
      (p.session.calls = s.options.maxCalls →
        Run.lines lines n s =
            (.error ⟨.tooManyCalls, p.number :: p.waiting.map Waiting.line⟩,
              Point.leave p.session p.waiting) ∧
          (Run.lines lines n s).2.output = p.session.output) ∧
      (p.session.calls ≠ s.options.maxCalls →
        (p.session.emit s!"➡️ Calling function '{name}'...").output.toList <+:
          (Run.lines lines n s).2.output.toList) := by
  obtain ⟨last, hlast, hfinal, houtput, hwaiting⟩ := s.exists_final lines n
  have hfirst := Point.marked_first s lines n
  constructor
  · obtain ⟨ms, ⟨added, hadded, rfl⟩, hopens⟩ := (hfirst.reaches hlast).trace
    refine ⟨added, by rw [houtput, hadded], ?_, Marker.exists_wellNested hopens.opened,
      hopens.within⟩
    intro a hok
    have hnone : last.spans = [] := by
      unfold Point.spans
      rw [hwaiting a hok]
      rfl
    show opened (among added) = some []
    rw [hopens.opened, hnone]
  · intro p name f hreach hcallee hf
    have hmarked := hfirst.reaches hreach
    obtain ⟨hrefused, hstarted⟩ := Point.step_cases_of_callee? hcallee hf
    have hroom : p.session.room = s.options.maxCalls - p.session.calls := by
      unfold room
      rw [hmarked.options]
    have hactive : p.session.calls ≤ s.options.maxCalls := by
      have hcount := hmarked.countP_le
      rw [hmarked.calls]
      unfold room at hcount
      omega
    refine ⟨?_, ?_, ?_⟩
    · obtain ⟨ms, ⟨added, hadded, rfl⟩, hopens⟩ := hmarked.trace
      exact ⟨added, p.spans, hadded, hopens.opened, hmarked.calls⟩
    · intro hfull
      have hrun := Run.lines_of_fails hreach (hrefused (by omega))
      rw [hrun]
      exact ⟨rfl, Point.output_leave _ _⟩
    · intro hfree
      obtain ⟨q, hstep, hsession⟩ := hstarted (by omega)
      -- the end of the run is behind the start of the body
      have hbehind : q.Reaches last := by
        rcases (hreach.next hstep).total hlast with h | h
        · exact h
        · rw [hfinal.eq_of_reaches h]
          exact .here
      have hprefix := hbehind.output
      rw [hsession] at hprefix
      rw [houtput]
      exact hprefix

/-- Lines in which a function calls itself in a loop. -/
def again : List Text :=
  ["func again begin", "loop 2 begin", "call again", "end loop", "end func", "call again"].map
    String.toList

/-- The third call is refused where two may be active, in the body of the loop: the markers of two
calls and of their loops are put out, and none of them finishes. -/
theorem again_refused :
    let s := start { Options.standard with maxCalls := 2 } [] ⟨⟨[], []⟩, .silent, .ofSeed 0⟩
    let p := (s.first again 1).walk 5
    s.calls ≤ s.options.maxCalls ∧ p.callee? = some "again" ∧
      (Run.lines again 1 s).1 = .error ⟨.tooManyCalls, [3, 2, 3, 2, 6]⟩ ∧
      ∃ added, (Run.lines again 1 s).2.output.toList = s.output.toList ++ added ∧
        among added = [.start (.call "again"), .start .loop, .start (.call "again"), .start .loop] ∧
        ∃ more, WellNested (among added ++ more) := by
  intro s p
  have hdepth : s.calls ≤ s.options.maxCalls := by decide +kernel
  have hcallee : p.callee? = some "again" := by decide +kernel
  have hf : p.session.functions.get? "again" =
      some ⟨["loop 2 begin", "call again", "end loop"].map String.toList, 2⟩ := by decide +kernel
  have hfull : p.session.calls = s.options.maxCalls := by decide +kernel
  have hlines : p.number :: p.waiting.map Waiting.line = [3, 2, 3, 2, 6] := by decide +kernel
  obtain ⟨⟨added, hadded, -, hmore, -⟩, hcalls⟩ := markers_of_run s hdepth again 1
  obtain ⟨-, hrefused, -⟩ := hcalls p "again" _ (Point.reaches_walk _ 5) hcallee hf
  refine ⟨hdepth, hcallee, ?_, added, hadded, ?_, hmore⟩
  · rw [(hrefused hfull).1, hlines]
  · have hnone : s.output.toList = [] := rfl
    rw [hnone, List.nil_append] at hadded
    rw [← hadded]
    decide +kernel

end Session

end LineScript
