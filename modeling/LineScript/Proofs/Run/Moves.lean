import LineScript.Proofs.Run.Machine

/-!
# The moves of a run

What one step of the machine may do, whatever block it stands at: the lines that wait are taken up
again, or the first lines of the block are done, or the run goes inside them (`Point.Moves`); or it stops
at a line that fails (`Point.Stops`), which leaves the session as it was, unless it is a statement that
fails (`Point.leaves_of_fails`).  A run goes one way
only, so a line that fails at one of its points ends it (`lines_of_fails`).
-/

namespace LineScript

open Block

/-- What the session becomes when the run goes on behind the first lines of a block. -/
inductive Session.Works (s : Session) : Session → Prop
  | silent : Works s s
  | statement {st : Statement} {t : Session} (hno : ∀ name, st ≠ .call name)
      (hrun : st.run (fun _ => pure ()) s = (.ok (), t)) : Works s t
  | stored (name : String) (f : Function) : Works s (s.stored name f)
  | decided {opener : Text} {holds : Bool} {t : Session}
      (hdecision : s.decision opener = .ok (holds, t)) : Works s (t.chosen holds)
  | looped : Works s (s.looping 0).looped

/-- What the session becomes when the run goes inside the first lines of a block, which wait for a
reason. -/
inductive Session.Enters (s : Session) : Reason → Session → Prop
  | branch {opener : Text} {holds : Bool} {t : Session}
      (hdecision : s.decision opener = .ok (holds, t)) : Enters s .branch (t.chosen holds)
  | loop (body : Block) (turns : Nat) : Enters s (.loop body turns) (s.looping (turns + 1))
  | call {name : String} {f : Function} (hf : s.function name = .ok f) (hroom : s.room ≠ 0) :
      Enters s (.call name) (s.started name)

namespace Point

inductive Moves (p : Point) : Point → Prop
  | resume {w : Waiting} {ws : List Waiting} (hblock : p.block = .done)
      (hwaiting : p.waiting = w :: ws) : Moves p (p.resume w ws)
  | skip (rest : Block) (lines : Nat) {s : Session} (hworks : p.session.Works s) :
      Moves p (p.skip rest lines s)
  | enter (block : Block) (number : Nat) {reason : Reason} (rest : Block) (lines : Nat)
      {s : Session} (henters : p.session.Enters reason s) :
      Moves p (p.enter block number reason rest lines s)

/-- Why a run stops with an error at the first line of a block, and what it leaves. -/
inductive Stops (p : Point) : Error → Session → Prop
  | unread {text : Text} {e : Error} (hline : p.block.lines.head? = some text)
      (hread : Statement.read text = .error e) : Stops p e p.session
  | obeys {text : Text} {st : Statement} {rest : Block} {e : Error} {t : Session}
      (hline : p.block.lines.head? = some text) (hread : Statement.read text = .ok st)
      (hobey : p.obey rest st = .fails e t) : Stops p e t
  | unnamed {opener : Text} {e : Error} (hline : p.block.lines.head? = some opener)
      (hname : funcName (headerOf opener) = .error e) : Stops p e p.session
  | undecided {opener : Text} {e : Error} {t : Session} (hline : p.block.lines.head? = some opener)
      (hdecision : p.session.decision opener = .error (e, t)) : Stops p e t
  | uncounted {opener : Text} {e : Error} (hline : p.block.lines.head? = some opener)
      (hcount : count (headerOf opener) = .error e) : Stops p e p.session
  | unclosed (kind : Kind) : Stops p (.unclosedBlock kind) p.session

variable {p q r : Point} {rest : Block} {st : Statement} {e : Error} {s t : Session} {n : Nat}
  {ws : List Waiting} {text : Text}

theorem moves_of_obey (h : p.obey rest st = .goes q) : p.Moves q := by
  rcases goes_of_obey h with ⟨name, f, -, hf, hroom, rfl⟩ | ⟨t, hno, hrun, rfl⟩
  · exact .enter _ _ _ _ (.call hf hroom)
  · exact .skip _ _ (.statement hno hrun)

theorem moves_of_step (h : p.step = .goes q) : p.Moves q := by
  cases goes_of_step h with
  | resumed => exact .resume rfl rfl
  | silent => exact .skip _ _ .silent
  | obeyed _ _ hobey => exact moves_of_obey hobey
  | stored => exact .skip _ _ (.stored _ _)
  | chosen hdecision => exact .enter _ _ _ _ (.branch hdecision)
  | passed hdecision => exact .skip _ _ (.decided hdecision)
  | chosen_yes hdecision => exact .enter _ _ _ _ (.branch hdecision)
  | chosen_no hdecision => exact .enter _ _ _ _ (.branch hdecision)
  | idle => exact .skip _ _ .looped
  | turning => exact .enter _ _ _ _ (.loop _ _)

/-! ## Lines that fail -/

theorem stops_of_step (h : p.step = .fails e t) : p.Stops e t := by
  obtain ⟨b, n, ws, s⟩ := p
  -- the only steps that fail: the line itself, a header, a block without a closer
  cases b with
  | done => cases ws <;> cases h
  | line text rest =>
    simp only [step] at h
    split at h
    · cases h
    · split at h
      · next hread =>
        cases h
        exact .unread rfl hread
      · next hread => exact .obeys rfl hread h
  | func opener body closer rest =>
    simp only [step] at h
    split at h
    · next hname =>
      cases h
      exact .unnamed rfl hname
    · cases h
  | branch opener yes closer rest =>
    simp only [step] at h
    split at h
    · next hdecision =>
      cases h
      exact .undecided rfl hdecision
    · cases h
    · cases h
  | divided opener yes divider no closer rest =>
    simp only [step] at h
    split at h
    · next hdecision =>
      cases h
      exact .undecided rfl hdecision
    · cases h
    · cases h
  | loop opener body closer rest =>
    simp only [step] at h
    split at h
    · next hcount =>
      cases h
      exact .uncounted rfl hcount
    · cases h
    · cases h
  | unclosed kind opener remainder =>
    cases h
    exact .unclosed kind

/-- What a line that fails leaves: the session as it was but for random draws, or what a statement that
fails has made of it. -/
def Leaves (p : Point) (t : Session) : Prop :=
  (∃ draws, t = p.session.withDraws draws) ∨ ∃ st f, (∀ name, st ≠ .call name) ∧
    Statement.run (fun _ => pure ()) st p.session = (.error f, t)

theorem leaves_self (p : Point) : p.Leaves p.session := .inl ⟨p.session.world.draws, rfl⟩

theorem Leaves.of_frame {R : Session → Session → Prop} (hframe : Session.Frame R)
    (h : p.Leaves t) : R p.session t := by
  rcases h with ⟨draws, rfl⟩ | ⟨st, f, hno, hrun⟩
  · exact hframe.draw _ draws
  · exact hframe.of_run hno hrun

theorem leaves_of_obey (h : p.obey rest st = .fails e t) : p.Leaves t := by
  rcases fails_of_obey h with ⟨name, -, rfl, -⟩ | ⟨f, hno, hrun, -⟩
  · exact leaves_self p
  · exact .inr ⟨st, f, hno, hrun⟩

theorem leaves_of_fails (h : p.step = .fails e t) : p.Leaves t := by
  cases stops_of_step h with
  | obeys _ _ hobey => exact leaves_of_obey hobey
  | undecided _ hdecision => exact .inl (Session.exists_of_undecided hdecision)
  | _ => exact leaves_self p

/-! ## A run goes one way -/

def Final (p : Point) : Prop := ∀ q, p.step ≠ .goes q

theorem Final.of_fails (h : p.step = .fails e t) : p.Final := by
  intro q hstep
  rw [h] at hstep
  cases hstep

theorem final_done : Final ⟨.done, n, [], s⟩ := fun _ hstep => by cases hstep

theorem Reaches.eq_or_of_step (hstep : p.step = .goes q) (h : p.Reaches r) :
    r = p ∨ q.Reaches r := by
  -- a point has one step, so the run that leaves it takes that step
  induction h with
  | here => exact .inl rfl
  | next _ hnext ih =>
    rcases ih with rfl | ih
    · rw [hstep] at hnext
      cases hnext
      exact .inr .here
    · exact .inr (ih.next hnext)

theorem Reaches.total (hq : p.Reaches q) (hr : p.Reaches r) : q.Reaches r ∨ r.Reaches q := by
  -- along the one run: each of its steps comes nearer to the other point, or leads on from it
  induction hq with
  | here => exact .inl hr
  | next _ hstep ih =>
    rcases ih with h | h
    · rcases h.eq_or_of_step hstep with rfl | h
      · exact .inr (.next .here hstep)
      · exact .inl h
    · exact .inr (h.next hstep)

theorem Final.eq_of_reaches (hfinal : p.Final) (h : p.Reaches q) : q = p := by
  induction h with
  | here => rfl
  | next _ hstep ih =>
    subst ih
    exact absurd hstep (hfinal _)

theorem Reaches.eq_of_final (hq : p.Reaches q) (hr : p.Reaches r) (hqf : q.Final)
    (hrf : r.Final) : q = r := by
  rcases hq.total hr with h | h
  · exact (hqf.eq_of_reaches h).symm
  · exact hrf.eq_of_reaches h

end Point

def Session.first (s : Session) (lines : List Text) (n : Nat) : Point :=
  ⟨ofLines s.options.scan lines, n, [], s⟩

theorem Session.comes_first (s : Session) (lines : List Text) (n : Nat) :
    (s.first lines n).Comes (Run.lines lines n s).1 (Run.lines lines n s).2 :=
  Point.follows s.room _ [] rfl rfl

/-- The line that fails at a point of a run ends the run, and the lines that wait are passed. -/
theorem Run.lines_of_fails {s t : Session} {lines : List Text} {n : Nat} {p : Point} {e : Error}
    (hreach : (s.first lines n).Reaches p) (hstep : p.step = .fails e t) :
    Run.lines lines n s =
      (.error ⟨e, p.number :: p.waiting.map Waiting.line⟩, Point.leave t p.waiting) := by
  -- a run ends at one point only, so it ends where the executor does
  have hcomes := s.comes_first lines n
  cases hrun : Run.lines lines n s with
  | mk result u =>
    rw [hrun] at hcomes
    cases result with
    | ok a =>
      obtain ⟨number, hend⟩ := hcomes
      have hsame := hreach.eq_of_final hend (.of_fails hstep) Point.final_done
      rw [hsame] at hstep
      cases hstep
    | error f =>
      obtain ⟨q, inner, e', u', hq, hstep', hwaiting, rfl, rfl⟩ := hcomes
      obtain rfl := hreach.eq_of_final hq (.of_fails hstep) (.of_fails hstep')
      obtain rfl : p.waiting = inner := hwaiting.trans (List.append_nil inner)
      rw [hstep] at hstep'
      cases hstep'
      rfl

end LineScript
