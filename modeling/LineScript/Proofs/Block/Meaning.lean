import LineScript.Proofs.Block.Balance
import LineScript.Proofs.Run.Frame

/-!
# The meaning of a tree

What the lines of a tree do, said without the executor: a derivation follows the tree, and each rule
runs the parts that the tree itself has (`Block.Yields`).  The executor sees raw lines only; on the
lines of a tree of the grammar it gives what the rules derive, and nothing else
(`lines_eq_iff_yields`).
-/

namespace LineScript

def Session.obey (text : Text) (s : Session) : Except Failure Unit × Session :=
  if Block.isSilent text then (.ok (), s) else Run.statement text s

/-- Whether the condition of a header holds in a session, or why there is no telling, and the session that
has looked. -/
def Session.decision (opener : Text) (s : Session) : Except (Error × Session) (Bool × Session) :=
  match Block.condition (Block.headerOf opener) with
  | .error e => .error (e, s)
  | .ok condition =>
    match Condition.evaluate condition s.vars s.world.draws with
    | .error (e, draws) => .error (e, s.withDraws draws)
    | .ok (holds, draws) => .ok (holds, s.withDraws draws)

def Session.chosen (holds : Bool) (s : Session) : Session :=
  if holds then s.emit "✅ Condition true. Running 'if' block..."
  else s.emit "❌ Condition false. Skipping to 'else' block..."

def Session.stored (name : String) (f : Function) (s : Session) : Session :=
  (s.define name f).emit s!"📦 Function '{name}' defined."

def Session.looping (count : Nat) (s : Session) : Session :=
  s.emit s!"🔄 Starting loop for {count} iterations..."

def Session.looped (s : Session) : Session := s.emit "✅ Loop finished."

namespace Block

/-- `b.Yields n s r t`: the tree `b`, whose first line has the number `n`, started in the session `s`
has the result `r` and leaves the session `t`. -/
inductive Yields : Nat → Block → Session → Except Failure Unit → Session → Prop
  | done {n s} : Yields n .done s (.ok ()) s
  -- a line
  | line {n text rest s t r u} (hline : s.obey text = (.ok (), t))
      (hrest : Yields (n + 1) rest t r u) : Yields n (.line text rest) s r u
  | line_fails {n text rest s t e} (hline : s.obey text = (.error e, t)) :
      Yields n (.line text rest) s (.error (e.atLine n)) t
  -- a function: its own lines are stored, and none of them runs
  | func {n opener body closer rest s name r t}
      (hname : funcName (headerOf opener) = .ok name)
      (hrest : Yields (n + body.lines.length + 2) rest (s.stored name ⟨body.lines, n + 1⟩) r t) :
      Yields n (.func opener body closer rest) s r t
  | func_malformed {n opener body closer rest s e}
      (hname : funcName (headerOf opener) = .error e) :
      Yields n (.func opener body closer rest) s (.error ((Failure.of e).atLine n)) s
  -- a branch with one group: it runs, or nothing does
  | branch_yes {n opener yes closer rest s t u r v}
      (hdecision : s.decision opener = .ok (true, t))
      (hyes : Yields (n + 1) yes (t.chosen true) (.ok ()) u)
      (hrest : Yields (n + yes.lines.length + 2) rest u r v) :
      Yields n (.branch opener yes closer rest) s r v
  | branch_yes_fails {n opener yes closer rest s t e u}
      (hdecision : s.decision opener = .ok (true, t))
      (hyes : Yields (n + 1) yes (t.chosen true) (.error e) u) :
      Yields n (.branch opener yes closer rest) s (.error (e.atLine n)) u
  | branch_no {n opener yes closer rest s t r u}
      (hdecision : s.decision opener = .ok (false, t))
      (hrest : Yields (n + yes.lines.length + 2) rest (t.chosen false) r u) :
      Yields n (.branch opener yes closer rest) s r u
  | branch_undecided {n opener yes closer rest s e t}
      (hdecision : s.decision opener = .error (e, t)) :
      Yields n (.branch opener yes closer rest) s (.error ((Failure.of e).atLine n)) t
  -- a branch with two groups: the one runs, and the other does nothing
  | divided_yes {n opener yes divider no closer rest s t u r v}
      (hdecision : s.decision opener = .ok (true, t))
      (hyes : Yields (n + 1) yes (t.chosen true) (.ok ()) u)
      (hrest : Yields (n + yes.lines.length + no.lines.length + 3) rest u r v) :
      Yields n (.divided opener yes divider no closer rest) s r v
  | divided_yes_fails {n opener yes divider no closer rest s t e u}
      (hdecision : s.decision opener = .ok (true, t))
      (hyes : Yields (n + 1) yes (t.chosen true) (.error e) u) :
      Yields n (.divided opener yes divider no closer rest) s (.error (e.atLine n)) u
  | divided_no {n opener yes divider no closer rest s t u r v}
      (hdecision : s.decision opener = .ok (false, t))
      (hno : Yields (n + yes.lines.length + 2) no (t.chosen false) (.ok ()) u)
      (hrest : Yields (n + yes.lines.length + no.lines.length + 3) rest u r v) :
      Yields n (.divided opener yes divider no closer rest) s r v
  | divided_no_fails {n opener yes divider no closer rest s t e u}
      (hdecision : s.decision opener = .ok (false, t))
      (hno : Yields (n + yes.lines.length + 2) no (t.chosen false) (.error e) u) :
      Yields n (.divided opener yes divider no closer rest) s (.error (e.atLine n)) u
  | divided_undecided {n opener yes divider no closer rest s e t}
      (hdecision : s.decision opener = .error (e, t)) :
      Yields n (.divided opener yes divider no closer rest) s
        (.error ((Failure.of e).atLine n)) t
  -- a loop: each turn starts in the session that the turn before it has left
  | loop {n opener body closer rest s count r t} {turn : Nat → Session}
      (hcount : Block.count (headerOf opener) = .ok count)
      (hfirst : turn 0 = s.looping count)
      (hturns : ∀ i < count, Yields (n + 1) body (turn i) (.ok ()) (turn (i + 1)))
      (hrest : Yields (n + body.lines.length + 2) rest (turn count).looped r t) :
      Yields n (.loop opener body closer rest) s r t
  | loop_fails {n opener body closer rest s count k e t} {turn : Nat → Session}
      (hcount : Block.count (headerOf opener) = .ok count)
      (hfirst : turn 0 = s.looping count) (hk : k < count)
      (hturns : ∀ i < k, Yields (n + 1) body (turn i) (.ok ()) (turn (i + 1)))
      (hlast : Yields (n + 1) body (turn k) (.error e) t) :
      Yields n (.loop opener body closer rest) s (.error (e.atLine n)) t
  | loop_malformed {n opener body closer rest s e}
      (hcount : Block.count (headerOf opener) = .error e) :
      Yields n (.loop opener body closer rest) s (.error ((Failure.of e).atLine n)) s

/-! ## The parts of the executor -/

section Parts

variable {call : String → Run Unit} {opener : Text} {s t : Session} {e : Error}

theorem define_ok {name : String} (h : funcName (headerOf opener) = .ok name) (body : List Text)
    (n : Nat) : define opener body n s = (.ok (), s.stored name ⟨body, n⟩) := by
  unfold define
  rw [h]
  rfl

theorem define_error (h : funcName (headerOf opener) = .error e) (body : List Text) (n : Nat) :
    define opener body n s = (.error (.of e), s) := by
  unfold define
  rw [h]
  rfl

theorem choose_error (h : s.decision opener = .error (e, t)) (yes no : Run Unit) :
    choose opener yes no s = (.error (.of e), t) := by
  unfold Session.decision at h
  unfold choose
  cases hheader : condition (headerOf opener) with
  | error e' =>
    rw [hheader] at h
    cases h
    rfl
  | ok text =>
    rw [hheader] at h
    simp only at h
    split at h
    · next e' draws hvalue =>
      cases h
      rw [Run.ofExcept_ok, Run.pure_bind_apply]
      exact Run.bind_of_error (Run.evaluate_error hvalue)
    · cases h

theorem choose_ok {holds : Bool} (h : s.decision opener = .ok (holds, t)) (yes no : Run Unit) :
    choose opener yes no s = (if holds then yes else no) (t.chosen holds) := by
  unfold Session.decision at h
  unfold choose
  cases hheader : condition (headerOf opener) with
  | error e' =>
    rw [hheader] at h
    cases h
  | ok text =>
    rw [hheader] at h
    simp only at h
    split at h
    · cases h
    · next holds' draws hvalue =>
      cases h
      rw [Run.ofExcept_ok, Run.pure_bind_apply, Run.bind_of_ok (Run.evaluate_ok hvalue)]
      cases holds <;> rfl

theorem iterate_error (h : count (headerOf opener) = .error e) (body : Run Unit) :
    iterate opener body s = (.error (.of e), s) := by
  unfold iterate
  rw [h]
  rfl

theorem iterate_ok {turns : Nat} (h : count (headerOf opener) = .ok turns) (body : Run Unit) :
    iterate opener body s =
      (Run.times turns body >>= fun _ => Run.emit "✅ Loop finished.") (s.looping turns) := by
  unfold iterate
  rw [h]
  rfl

theorem runLine_eq (text : Text) (s : Session) : runLine (Run.call s.room) text s = s.obey text := by
  unfold runLine Session.obey
  split
  · rfl
  · rfl

end Parts

/-! ## Turns of a loop -/

section Turns

variable {body : Run Unit} {turn : Nat → Session} {s t : Session} {e : Failure} {count : Nat}

theorem times_of_turns (h : ∀ i < count, body (turn i) = (.ok (), turn (i + 1))) :
    Run.times count body (turn 0) = (.ok (), turn count) := by
  induction count generalizing turn with
  | zero => rfl
  | succ count ih =>
    rw [Run.times_succ, Run.bind_of_ok (h 0 (by omega))]
    -- the other turns are those of a loop that starts in the session of the second
    exact @ih (fun i => turn (i + 1)) fun i hi => h (i + 1) (by omega)

theorem times_of_turns_fail {k : Nat} (hk : k < count)
    (h : ∀ i < k, body (turn i) = (.ok (), turn (i + 1))) (hlast : body (turn k) = (.error e, t)) :
    Run.times count body (turn 0) = (.error e, t) := by
  induction count generalizing turn k with
  | zero => omega
  | succ count ih =>
    rw [Run.times_succ]
    cases k with
    | zero => exact Run.bind_of_error hlast
    | succ k =>
      rw [Run.bind_of_ok (h 0 (by omega))]
      exact @ih (fun i => turn (i + 1)) k (by omega) (fun i hi => h (i + 1) (by omega)) hlast

def before (s : Session) (turn : Nat → Session) : Nat → Session
  | 0 => s
  | i + 1 => turn i

theorem turns_of_times (h : Run.times count body s = (.ok (), t)) :
    ∃ turn : Nat → Session, turn 0 = s ∧ turn count = t ∧
      ∀ i < count, body (turn i) = (.ok (), turn (i + 1)) := by
  -- on the turns, the first of which leaves the session that the others start in
  induction count generalizing s with
  | zero =>
    cases h
    exact ⟨fun _ => t, rfl, rfl, fun i hi => absurd hi (Nat.not_lt_zero i)⟩
  | succ count ih =>
    rw [Run.times_succ] at h
    cases hbody : body s with
    | mk result u =>
      cases result with
      | error e =>
        rw [Run.bind_of_error hbody] at h
        cases h
      | ok a =>
        rw [Run.bind_of_ok hbody] at h
        obtain ⟨turn, hfirst, hlast, hturns⟩ := ih h
        refine ⟨before s turn, rfl, hlast, fun i hi => ?_⟩
        cases i with
        | zero => rw [before, before, hfirst]; exact hbody
        | succ i => exact hturns i (by omega)

theorem turns_of_times_fail (h : Run.times count body s = (.error e, t)) :
    ∃ (turn : Nat → Session) (k : Nat), turn 0 = s ∧ k < count ∧
      (∀ i < k, body (turn i) = (.ok (), turn (i + 1))) ∧ body (turn k) = (.error e, t) := by
  induction count generalizing s with
  | zero => cases h
  | succ count ih =>
    rw [Run.times_succ] at h
    cases hbody : body s with
    | mk result u =>
      cases result with
      | error e' =>
        rw [Run.bind_of_error hbody] at h
        cases h
        exact ⟨fun _ => s, 0, rfl, by omega, fun i hi => absurd hi (Nat.not_lt_zero i), hbody⟩
      | ok a =>
        rw [Run.bind_of_ok hbody] at h
        obtain ⟨turn, k, hfirst, hk, hturns, hlast⟩ := ih h
        refine ⟨before s turn, k + 1, rfl, by omega, fun i hi => ?_, hlast⟩
        cases i with
        | zero => rw [before, before, hfirst]; exact hbody
        | succ i => exact hturns i (by omega)

end Turns

end Block

theorem Session.exists_of_decision {s t : Session} {opener : Text} {holds : Bool}
    (h : s.decision opener = .ok (holds, t)) : ∃ draws, t = s.withDraws draws := by
  unfold decision at h
  split at h
  · cases h
  · split at h
    · cases h
    · cases h
      exact ⟨_, rfl⟩

theorem Session.exists_of_undecided {s t : Session} {opener : Text} {e : Error}
    (h : s.decision opener = .error (e, t)) : ∃ draws, t = s.withDraws draws := by
  unfold decision at h
  split at h
  · cases h
    exact ⟨s.world.draws, rfl⟩
  · split at h
    · cases h
      exact ⟨_, rfl⟩
    · cases h

theorem Session.Frame.of_chosen {R : Session → Session → Prop} (h : Frame R) {s t : Session}
    {opener : Text} {holds : Bool} (hdecision : s.decision opener = .ok (holds, t)) :
    R s (t.chosen holds) := by
  obtain ⟨draws, rfl⟩ := exists_of_decision hdecision
  apply h.trans (h.draw s draws)
  cases holds with
  | true => exact h.emit _ _
  | false => exact h.emit _ _

/-! ## The executor and the rules -/

def Session.SameDepth (s t : Session) : Prop := t.options = s.options ∧ t.calls = s.calls

theorem Session.SameDepth.room {s t : Session} (h : s.SameDepth t) : t.room = s.room := by
  unfold Session.room
  rw [h.1, h.2]

theorem Session.sameDepth_frame : Session.BlockFrame Session.SameDepth where
  refl _ := ⟨rfl, rfl⟩
  trans h h' := ⟨h'.1.trans h.1, h'.2.trans h.2⟩
  emit _ _ := ⟨rfl, rfl⟩
  draw _ _ := ⟨rfl, rfl⟩
  request _ _ := ⟨rfl, rfl⟩
  write _ _ := ⟨rfl, rfl⟩
  takeInput s name := by
    unfold Session.takeInput Session.nextInput
    cases s.input[s.taken]? <;> exact ⟨rfl, rfl⟩
  assign _ _ := ⟨rfl, rfl⟩
  load _ := ⟨rfl, rfl⟩
  readJson _ _ := ⟨rfl, rfl⟩
  page _ _ _ := ⟨rfl, rfl⟩
  noPage _ _ := ⟨rfl, rfl⟩
  define _ _ _ := ⟨rfl, rfl⟩
  call := by
    intro s t h
    refine ⟨h.1, ?_⟩
    show t.calls - 1 = s.calls
    rw [h.2]
    exact Nat.add_sub_cancel s.calls 1

namespace Block

variable {b yes no body rest : Block} {opener : Text} {n room count : Nat} {s t : Session}
  {r : Except Failure Unit}

theorem room_of_run (hroom : s.room = room) (h : b.run (Run.call room) n s = (r, t)) :
    t.room = room := by
  have hkeeps := Session.sameDepth_frame.keeps_block
    (Session.sameDepth_frame.keeps_call room) n b s
  rw [h] at hkeeps
  rw [← hroom]
  exact hkeeps.room

theorem room_of_obey {text : Text} (h : s.obey text = (r, t)) : t.room = s.room := by
  have hkeeps : Session.SameDepth s (s.obey text).2 := by
    unfold Session.obey
    split
    · exact ⟨rfl, rfl⟩
    · exact Session.sameDepth_frame.keeps_line text s
  rw [h] at hkeeps
  exact hkeeps.room

theorem room_of_decision {opener : Text} {holds : Bool} (h : s.decision opener = .ok (holds, t)) :
    (t.chosen holds).room = s.room := (Session.sameDepth_frame.of_chosen h).room

/-- If every turn of a loop that starts with the room of the loop runs, all of them start with it. -/
theorem room_of_turns {turn : Nat → Session} {k : Nat} (hfirst : turn 0 = s.looping count)
    (hroom : s.room = room)
    (hturns : ∀ i < k, (turn i).room = room →
      b.run (Run.call room) n (turn i) = (.ok (), turn (i + 1))) :
    ∀ i ≤ k, (turn i).room = room := by
  intro i hi
  induction i with
  | zero => rw [hfirst]; exact hroom
  | succ i ih =>
    have hbefore := ih (by omega)
    exact room_of_run hbefore (hturns i hi hbefore)

theorem iterate_of_turns {turn : Nat → Session} (hcount : Block.count (headerOf opener) = .ok count)
    (hfirst : turn 0 = s.looping count) (hroom : s.room = room)
    (hturns : ∀ i < count, (turn i).room = room →
      b.run (Run.call room) n (turn i) = (.ok (), turn (i + 1))) :
    iterate opener (b.run (Run.call room) n) s = (.ok (), (turn count).looped) := by
  have hrooms := room_of_turns hfirst hroom hturns
  have htimes := times_of_turns fun i hi => hturns i hi (hrooms i (by omega))
  rw [hfirst] at htimes
  rw [iterate_ok hcount, Run.bind_of_ok htimes]
  rfl

theorem iterate_of_turns_fail {turn : Nat → Session} {k : Nat} {e : Failure}
    (hcount : Block.count (headerOf opener) = .ok count) (hfirst : turn 0 = s.looping count)
    (hroom : s.room = room) (hk : k < count)
    (hturns : ∀ i < k, (turn i).room = room →
      b.run (Run.call room) n (turn i) = (.ok (), turn (i + 1)))
    (hlast : (turn k).room = room → b.run (Run.call room) n (turn k) = (.error e, t)) :
    iterate opener (b.run (Run.call room) n) s = (.error e, t) := by
  have hrooms := room_of_turns hfirst hroom hturns
  have htimes := times_of_turns_fail hk (fun i hi => hturns i hi (hrooms i (by omega)))
    (hlast (hrooms k (Nat.le_refl k)))
  rw [hfirst] at htimes
  rw [iterate_ok hcount, Run.bind_of_error htimes]

/-- What the rules derive is what the executor gives, as long as it knows how many calls may still
become active. -/
theorem run_of_yields (h : b.Yields n s r t) (hroom : s.room = room) :
    b.run (Run.call room) n s = (r, t) := by
  -- on the derivation: every part has been run with the room of the whole, since no part changes it
  induction h with
  | done => rfl
  | line hline _ ihrest =>
    have hrun := (runLine_eq _ _).trans hline
    rw [hroom] at hrun
    rw [run, Run.bind_of_ok (Run.atLine_ok hrun)]
    exact ihrest ((room_of_obey hline).trans hroom)
  | line_fails hline =>
    have hrun := (runLine_eq _ _).trans hline
    rw [hroom] at hrun
    rw [run, Run.bind_of_error (Run.atLine_error hrun)]
  | func hname _ ihrest =>
    rw [run, Run.bind_of_ok (Run.atLine_ok (define_ok hname _ _)), ← length_lines]
    exact ihrest hroom
  | func_malformed hname =>
    rw [run, Run.bind_of_error (Run.atLine_error (define_error hname _ _))]
  | branch_yes hdecision _ _ ihyes ihrest =>
    have hyes := ihyes ((room_of_decision hdecision).trans hroom)
    rw [run, Run.bind_of_ok (Run.atLine_ok ((choose_ok hdecision _ _).trans hyes)),
      ← length_lines]
    exact ihrest (room_of_run ((room_of_decision hdecision).trans hroom) hyes)
  | branch_yes_fails hdecision _ ihyes =>
    have hyes := ihyes ((room_of_decision hdecision).trans hroom)
    rw [run, Run.bind_of_error (Run.atLine_error ((choose_ok hdecision _ _).trans hyes))]
  | @branch_no n opener yes closer rest s t r u hdecision _ ihrest =>
    have hno := choose_ok hdecision (yes.run (Run.call room) (n + 1)) (pure ())
    rw [run, Run.bind_of_ok (Run.atLine_ok hno), ← length_lines]
    exact ihrest ((room_of_decision hdecision).trans hroom)
  | branch_undecided hdecision =>
    rw [run, Run.bind_of_error (Run.atLine_error (choose_error hdecision _ _))]
  | divided_yes hdecision _ _ ihyes ihrest =>
    have hyes := ihyes ((room_of_decision hdecision).trans hroom)
    rw [run, Run.bind_of_ok (Run.atLine_ok ((choose_ok hdecision _ _).trans hyes)),
      ← length_lines, ← length_lines]
    exact ihrest (room_of_run ((room_of_decision hdecision).trans hroom) hyes)
  | divided_yes_fails hdecision _ ihyes =>
    have hyes := ihyes ((room_of_decision hdecision).trans hroom)
    rw [run, Run.bind_of_error (Run.atLine_error ((choose_ok hdecision _ _).trans hyes))]
  | divided_no hdecision _ _ ihno ihrest =>
    have hno := ihno ((room_of_decision hdecision).trans hroom)
    rw [length_lines] at hno
    rw [run, Run.bind_of_ok (Run.atLine_ok ((choose_ok hdecision _ _).trans hno)),
      ← length_lines, ← length_lines]
    exact ihrest (room_of_run ((room_of_decision hdecision).trans hroom) hno)
  | divided_no_fails hdecision _ ihno =>
    have hno := ihno ((room_of_decision hdecision).trans hroom)
    rw [length_lines] at hno
    rw [run, Run.bind_of_error (Run.atLine_error ((choose_ok hdecision _ _).trans hno))]
  | divided_undecided hdecision =>
    rw [run, Run.bind_of_error (Run.atLine_error (choose_error hdecision _ _))]
  | loop hcount hfirst _ _ ihturns ihrest =>
    have hrooms := room_of_turns hfirst hroom ihturns
    have hiterate := iterate_of_turns hcount hfirst hroom ihturns
    rw [run, Run.bind_of_ok (Run.atLine_ok hiterate), ← length_lines]
    exact ihrest (hrooms _ (Nat.le_refl _))
  | loop_fails hcount hfirst hk _ _ ihturns ihlast =>
    have hiterate := iterate_of_turns_fail hcount hfirst hroom hk ihturns ihlast
    rw [run, Run.bind_of_error (Run.atLine_error hiterate)]
  | loop_malformed hcount =>
    rw [run, Run.bind_of_error (Run.atLine_error (iterate_error hcount _))]

def Derived (room : Nat) (b : Block) : Prop :=
  ∀ {n : Nat} {s : Session} {r : Except Failure Unit} {t : Session}, s.room = room →
    b.run (Run.call room) n s = (r, t) → b.Yields n s r t

/-! What one constructor adds: its own part has failed, or it is done and the rest has run behind it. -/

theorem derived_line (hrest : rest.Derived room) (text : Text) : (line text rest).Derived room := by
  intro n s r t hroom h
  rcases Run.atLine_bind_cases h with ⟨e, hline, rfl⟩ | ⟨u, hline, hrun⟩
  · rw [← hroom, runLine_eq] at hline
    exact .line_fails hline
  · rw [← hroom, runLine_eq] at hline
    exact .line hline (hrest ((room_of_obey hline).trans hroom) hrun)

theorem derived_func (hrest : rest.Derived room) (opener : Text) (body : Block) (closer : Text) :
    (func opener body closer rest).Derived room := by
  intro n s r t hroom h
  cases hname : funcName (headerOf opener) with
  | error e =>
    rw [run, Run.bind_of_error (Run.atLine_error (define_error hname _ _))] at h
    cases h
    exact .func_malformed hname
  | ok name =>
    rw [run, Run.bind_of_ok (Run.atLine_ok (define_ok hname _ _)), ← length_lines] at h
    exact .func hname (hrest hroom h)

theorem derived_branch (hyes : yes.Derived room) (hrest : rest.Derived room)
    (opener closer : Text) : (branch opener yes closer rest).Derived room := by
  intro n s r t hroom h
  cases hdecision : s.decision opener with
  | error undecided =>
    obtain ⟨e, u⟩ := undecided
    rw [run, Run.bind_of_error (Run.atLine_error (choose_error hdecision _ _))] at h
    cases h
    exact .branch_undecided hdecision
  | ok decided =>
    obtain ⟨holds, u⟩ := decided
    have hroom' := (room_of_decision hdecision).trans hroom
    rcases Run.atLine_bind_cases h with ⟨e, hgroup, rfl⟩ | ⟨v, hgroup, hrun⟩
    · rw [choose_ok hdecision] at hgroup
      cases holds with
      | true => exact .branch_yes_fails hdecision (hyes hroom' hgroup)
      | false => cases hgroup
    · rw [choose_ok hdecision] at hgroup
      rw [← length_lines] at hrun
      cases holds with
      | true =>
        exact .branch_yes hdecision (hyes hroom' hgroup) (hrest (room_of_run hroom' hgroup) hrun)
      | false =>
        cases hgroup
        exact .branch_no hdecision (hrest hroom' hrun)

theorem derived_divided (hyes : yes.Derived room) (hno : no.Derived room)
    (hrest : rest.Derived room) (opener divider closer : Text) :
    (divided opener yes divider no closer rest).Derived room := by
  intro n s r t hroom h
  cases hdecision : s.decision opener with
  | error undecided =>
    obtain ⟨e, u⟩ := undecided
    rw [run, Run.bind_of_error (Run.atLine_error (choose_error hdecision _ _))] at h
    cases h
    exact .divided_undecided hdecision
  | ok decided =>
    obtain ⟨holds, u⟩ := decided
    have hroom' := (room_of_decision hdecision).trans hroom
    -- the group fails, or the run goes on behind it
    rcases Run.atLine_bind_cases h with ⟨e, hgroup, rfl⟩ | ⟨v, hgroup, hrun⟩
    · rw [choose_ok hdecision, ← length_lines] at hgroup
      cases holds with
      | true => exact .divided_yes_fails hdecision (hyes hroom' hgroup)
      | false => exact .divided_no_fails hdecision (hno hroom' hgroup)
    · rw [choose_ok hdecision, ← length_lines] at hgroup
      rw [← length_lines, ← length_lines] at hrun
      cases holds with
      | true =>
        have hroom'' := room_of_run hroom' hgroup
        exact .divided_yes hdecision (hyes hroom' hgroup) (hrest hroom'' hrun)
      | false =>
        have hroom'' := room_of_run hroom' hgroup
        exact .divided_no hdecision (hno hroom' hgroup) (hrest hroom'' hrun)

theorem derived_loop (hbody : body.Derived room) (hrest : rest.Derived room)
    (opener closer : Text) : (loop opener body closer rest).Derived room := by
  intro n s r t hroom h
  cases hcount : count (headerOf opener) with
  | error e =>
    rw [run, Run.bind_of_error (Run.atLine_error (iterate_error hcount _))] at h
    cases h
    exact .loop_malformed hcount
  | ok turns =>
    rcases Run.atLine_bind_cases h with ⟨e, hloop, rfl⟩ | ⟨v, hloop, hrun⟩
    · rw [iterate_ok hcount] at hloop
      rcases Run.bind_cases hloop with ⟨e', htimes, he⟩ | ⟨a, w, -, hemit⟩
      · cases he
        obtain ⟨turn, k, hfirst, hk, hturns, hlast⟩ := turns_of_times_fail htimes
        -- the derivation of a turn asks for the room that the loop started with
        have hrooms := room_of_turns hfirst hroom fun i hi _ => hturns i hi
        exact .loop_fails hcount hfirst hk
          (fun i hi => hbody (hrooms i (by omega)) (hturns i hi))
          (hbody (hrooms k (Nat.le_refl k)) hlast)
      · cases hemit
    · rw [iterate_ok hcount] at hloop
      rcases Run.bind_cases hloop with ⟨e', -, he⟩ | ⟨a, w, htimes, hemit⟩
      · cases he
      · cases hemit
        obtain ⟨turn, hfirst, hlast, hturns⟩ := turns_of_times htimes
        have hrooms := room_of_turns hfirst hroom fun i hi _ => hturns i hi
        subst hlast
        rw [← length_lines] at hrun
        exact .loop hcount hfirst (fun i hi => hbody (hrooms i (by omega)) (hturns i hi))
          (hrest (hrooms turns (Nat.le_refl turns)) hrun)

/-- What the executor gives for a tree of the grammar can be derived from the rules. -/
theorem yields_of_run (hb : b.Grammatical) : b.Derived room := by
  induction b with
  | done =>
    intro n s r t _ h
    cases h
    exact .done
  | line text rest ihrest => exact derived_line (ihrest hb.2) text
  | func opener body closer rest _ ihrest =>
    obtain ⟨-, -, -, hrest⟩ := hb
    exact derived_func (ihrest hrest) opener body closer
  | branch opener yes closer rest ihyes ihrest =>
    obtain ⟨-, -, hyes, hrest⟩ := hb
    exact derived_branch (ihyes hyes) (ihrest hrest) opener closer
  | divided opener yes divider no closer rest ihyes ihno ihrest =>
    obtain ⟨-, -, -, hyes, hno, hrest⟩ := hb
    exact derived_divided (ihyes hyes) (ihno hno) (ihrest hrest) opener divider closer
  | loop opener body closer rest ihbody ihrest =>
    obtain ⟨-, -, hbody, hrest⟩ := hb
    exact derived_loop (ihbody hbody) (ihrest hrest) opener closer
  | unclosed kind opener remainder => exact hb.elim

/-- Running the lines of a tree of the grammar, whatever their number and the session, gives exactly
what the rules derive for the tree. -/
theorem lines_eq_iff_yields (hb : b.Grammatical) (hscan : s.options.scan = .nested) (n : Nat)
    (r : Except Failure Unit) (t : Session) :
    Run.lines b.lines n s = (r, t) ↔ b.Yields n s r t := by
  have hlines : Run.lines b.lines n s = b.run (Run.call s.room) n s := by
    show (ofLines s.options.scan b.lines).run (Run.call s.room) n s = _
    rw [hscan, ofLines_lines hb]
  rw [hlines]
  exact ⟨yields_of_run hb rfl, fun h => run_of_yields h rfl⟩

/-- A function whose body has a loop in a branch with a divider, and behind it a loop whose count is
no number. -/
def nest : Block :=
  .func "func twice begin".toList
    (.divided "  if x > 0 begin".toList
      (.loop "    loop 2 begin".toList (.line "      linex print x".toList .done)
        "    end loop".toList .done)
      "  else".toList (.line "    linex print 0".toList .done) "  end if".toList .done)
    "end func".toList
    (.loop "loop x begin".toList (.line "call twice".toList .done) "end loop".toList .done)

def fresh : Session := .start .standard [] ⟨⟨[], []⟩, .silent, .ofSeed 0⟩

/-- The function is stored with its own lines and the number of the first of them, nothing in it
runs, and the loop behind it fails on its own line. -/
theorem lines_nest : Run.lines nest.lines 5 fresh =
    (.error ⟨.usage .loop, [14]⟩, fresh.stored "twice"
      ⟨["  if x > 0 begin".toList, "    loop 2 begin".toList, "      linex print x".toList,
        "    end loop".toList, "  else".toList, "    linex print 0".toList, "  end if".toList], 6⟩) :=
  (lines_eq_iff_yields (b := nest) (by decide) rfl 5 _ _).mpr (.func rfl (.loop_malformed rfl))

end Block

end LineScript
