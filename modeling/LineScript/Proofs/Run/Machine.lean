import LineScript.Proofs.Run.Frame
import LineScript.Proofs.Block.Meaning

/-!
# A run, point by point

A run as a machine: at each of its points the lines of a block are about to run, and other lines wait
for them to end (`Point`).  One step does the own work of one line, and says where the run goes on
(`Point.step`, `Point.Goes`).  The executor goes through the points of the machine and ends where it ends
(`follows`).
-/

namespace LineScript

open Block

/-- Why a line waits: it is a branch whose group runs, a loop whose body runs, with so many turns to
come, or a call of a function whose body runs. -/
inductive Reason where
  | branch
  | loop (body : Block) (turns : Nat)
  | call (name : String)

/-- A line that waits, and the lines that are to run after it. -/
structure Waiting where
  line : Nat
  reason : Reason
  rest : Block
  next : Nat

/-- A point of a run: a block whose first line has a number, the lines that wait for it, the innermost
first, and the session. -/
structure Point where
  block : Block
  number : Nat
  waiting : List Waiting
  session : Session

inductive Outcome where
  | goes (p : Point)
  | fails (e : Error) (s : Session)
  | ends

namespace Point

def skip (p : Point) (rest : Block) (lines : Nat) (s : Session) : Point :=
  ⟨rest, p.number + lines, p.waiting, s⟩

def enter (p : Point) (block : Block) (number : Nat) (reason : Reason) (rest : Block) (lines : Nat)
    (s : Session) : Point :=
  ⟨block, number, ⟨p.number, reason, rest, p.number + lines⟩ :: p.waiting, s⟩

def obey (p : Point) (rest : Block) : Statement → Outcome
  | .call name =>
    match p.session.function name with
    | .error e => .fails e p.session
    | .ok f =>
      if p.session.room = 0 then .fails .tooManyCalls p.session
      else
        .goes (p.enter (ofLines p.session.options.scan f.body) f.firstLine (.call name) rest 1
          (p.session.started name))
  | st =>
    match st.run (fun _ => pure ()) p.session with
    | (.ok _, s) => .goes (p.skip rest 1 s)
    | (.error f, s) => .fails f.error s

theorem obey_of_no_call {p : Point} {rest : Block} {st : Statement} (h : ∀ name, st ≠ .call name) :
    p.obey rest st =
      match st.run (fun _ => pure ()) p.session with
      | (.ok _, s) => .goes (p.skip rest 1 s)
      | (.error f, s) => .fails f.error s := by
  cases st with
  | call name => exact absurd rfl (h name)
  | _ => rfl

theorem goes_of_obey {p q : Point} {rest : Block} {st : Statement} (h : p.obey rest st = .goes q) :
    (∃ name f, st = .call name ∧ p.session.function name = .ok f ∧ p.session.room ≠ 0 ∧
      q = p.enter (ofLines p.session.options.scan f.body) f.firstLine (.call name) rest 1
        (p.session.started name)) ∨
    ∃ t, (∀ name, st ≠ .call name) ∧ st.run (fun _ => pure ()) p.session = (.ok (), t) ∧
      q = p.skip rest 1 t := by
  by_cases hcall : ∃ name, st = .call name
  · obtain ⟨name, rfl⟩ := hcall
    simp only [obey] at h
    split at h
    · cases h
    · next f hf =>
      split at h
      · cases h
      · next hroom =>
        cases h
        exact .inl ⟨name, f, rfl, hf, hroom, rfl⟩
  · have hno : ∀ name, st ≠ .call name := fun name hname => hcall ⟨name, hname⟩
    rw [obey_of_no_call hno] at h
    split at h
    · next t hrun =>
      cases h
      exact .inr ⟨t, hno, hrun, rfl⟩
    · cases h

theorem fails_of_obey {p : Point} {rest : Block} {st : Statement} {e : Error} {t : Session}
    (h : p.obey rest st = .fails e t) :
    (∃ name, st = .call name ∧ t = p.session ∧
      (p.session.function name = .error e ∨ p.session.room = 0 ∧ e = .tooManyCalls)) ∨
    ∃ f, (∀ name, st ≠ .call name) ∧ st.run (fun _ => pure ()) p.session = (.error f, t) ∧
      e = f.error := by
  -- a call fails before it is entered, and anything else fails on its own
  by_cases hcall : ∃ name, st = .call name
  · obtain ⟨name, rfl⟩ := hcall
    simp only [obey] at h
    split at h
    · next hf =>
      cases h
      exact .inl ⟨name, rfl, rfl, .inl hf⟩
    · split at h
      · next hroom =>
        cases h
        exact .inl ⟨name, rfl, rfl, .inr ⟨hroom, rfl⟩⟩
      · cases h
  · have hno : ∀ name, st ≠ .call name := fun name hname => hcall ⟨name, hname⟩
    rw [obey_of_no_call hno] at h
    split at h
    · cases h
    · next f u hrun =>
      cases h
      exact .inr ⟨f, hno, hrun, rfl⟩

def resume (p : Point) (w : Waiting) (ws : List Waiting) : Point :=
  match w.reason with
  | .branch => ⟨w.rest, w.next, ws, p.session⟩
  | .loop body (turns + 1) =>
    ⟨body, w.line + 1, { w with reason := .loop body turns } :: ws, p.session⟩
  | .loop _ 0 => ⟨w.rest, w.next, ws, p.session.looped⟩
  | .call name => ⟨w.rest, w.next, ws, p.session.finished name⟩

/-- The next step of a run. -/
def step (p : Point) : Outcome :=
  match p.block with
  | .done =>
    match p.waiting with
    | [] => .ends
    | w :: ws => .goes (p.resume w ws)
  | .line text rest =>
    if isSilent text then .goes (p.skip rest 1 p.session)
    else
      match Statement.read text with
      | .error e => .fails e p.session
      | .ok st => p.obey rest st
  | .func opener body _ rest =>
    match funcName (headerOf opener) with
    | .error e => .fails e p.session
    | .ok name =>
      .goes (p.skip rest (body.size + 2) (p.session.stored name ⟨body.lines, p.number + 1⟩))
  | .branch opener yes _ rest =>
    match p.session.decision opener with
    | .error (e, s) => .fails e s
    | .ok (true, s) =>
      .goes (p.enter yes (p.number + 1) .branch rest (yes.size + 2) (s.chosen true))
    | .ok (false, s) => .goes (p.skip rest (yes.size + 2) (s.chosen false))
  | .divided opener yes _ no _ rest =>
    match p.session.decision opener with
    | .error (e, s) => .fails e s
    | .ok (true, s) =>
      .goes (p.enter yes (p.number + 1) .branch rest (yes.size + no.size + 3) (s.chosen true))
    | .ok (false, s) =>
      .goes (p.enter no (p.number + yes.size + 2) .branch rest (yes.size + no.size + 3)
        (s.chosen false))
  | .loop opener body _ rest =>
    match count (headerOf opener) with
    | .error e => .fails e p.session
    | .ok 0 => .goes (p.skip rest (body.size + 2) (p.session.looping 0).looped)
    | .ok (turns + 1) =>
      .goes (p.enter body (p.number + 1) (.loop body turns) rest (body.size + 2)
        (p.session.looping (turns + 1)))
  | .unclosed kind _ _ => .fails (.unclosedBlock kind) p.session

/-- A step that goes on: the block that the point stands at, what its own work has come to, and the point
behind it. -/
inductive Goes : Point → Point → Prop
  | resumed {n w ws s} :
      Goes ⟨.done, n, w :: ws, s⟩ (Point.resume ⟨.done, n, w :: ws, s⟩ w ws)
  | silent {text rest n ws s} (hsilent : isSilent text = true) :
      Goes ⟨.line text rest, n, ws, s⟩ (skip ⟨.line text rest, n, ws, s⟩ rest 1 s)
  | obeyed {text rest n ws s st q} (hsilent : isSilent text = false)
      (hread : Statement.read text = .ok st)
      (hobey : obey ⟨.line text rest, n, ws, s⟩ rest st = .goes q) : Goes ⟨.line text rest, n, ws, s⟩ q
  | stored {opener body closer rest n ws s name} (hname : funcName (headerOf opener) = .ok name) :
      Goes ⟨.func opener body closer rest, n, ws, s⟩
        (skip ⟨.func opener body closer rest, n, ws, s⟩ rest (body.size + 2)
          (s.stored name ⟨body.lines, n + 1⟩))
  -- a branch with one group
  | chosen {opener yes closer rest n ws s t} (hdecision : s.decision opener = .ok (true, t)) :
      Goes ⟨.branch opener yes closer rest, n, ws, s⟩
        (enter ⟨.branch opener yes closer rest, n, ws, s⟩ yes (n + 1) .branch rest (yes.size + 2)
          (t.chosen true))
  | passed {opener yes closer rest n ws s t} (hdecision : s.decision opener = .ok (false, t)) :
      Goes ⟨.branch opener yes closer rest, n, ws, s⟩
        (skip ⟨.branch opener yes closer rest, n, ws, s⟩ rest (yes.size + 2) (t.chosen false))
  -- a branch with two groups
  | chosen_yes {opener yes divider no closer rest n ws s t}
      (hdecision : s.decision opener = .ok (true, t)) :
      Goes ⟨.divided opener yes divider no closer rest, n, ws, s⟩
        (enter ⟨.divided opener yes divider no closer rest, n, ws, s⟩ yes (n + 1) .branch rest
          (yes.size + no.size + 3) (t.chosen true))
  | chosen_no {opener yes divider no closer rest n ws s t}
      (hdecision : s.decision opener = .ok (false, t)) :
      Goes ⟨.divided opener yes divider no closer rest, n, ws, s⟩
        (enter ⟨.divided opener yes divider no closer rest, n, ws, s⟩ no (n + yes.size + 2) .branch
          rest (yes.size + no.size + 3) (t.chosen false))
  -- a loop, without turns or with some
  | idle {opener body closer rest n ws s} (hcount : count (headerOf opener) = .ok 0) :
      Goes ⟨.loop opener body closer rest, n, ws, s⟩
        (skip ⟨.loop opener body closer rest, n, ws, s⟩ rest (body.size + 2) (s.looping 0).looped)
  | turning {opener body closer rest n ws s turns}
      (hcount : count (headerOf opener) = .ok (turns + 1)) :
      Goes ⟨.loop opener body closer rest, n, ws, s⟩
        (enter ⟨.loop opener body closer rest, n, ws, s⟩ body (n + 1) (.loop body turns) rest
          (body.size + 2) (s.looping (turns + 1)))

theorem goes_of_step {p q : Point} (h : p.step = .goes q) : p.Goes q := by
  obtain ⟨b, n, ws, s⟩ := p
  -- the step once for each constructor, and inside it once for each way the line can go
  cases b with
  | done =>
    cases ws with
    | nil => cases h
    | cons w ws =>
      cases h
      exact .resumed
  | line text rest =>
    simp only [step] at h
    split at h
    · next hsilent =>
      cases h
      exact .silent hsilent
    · next hsilent =>
      split at h
      · cases h
      · next hread => exact .obeyed (Bool.eq_false_iff.mpr hsilent) hread h
  | func opener body closer rest =>
    simp only [step] at h
    split at h
    · cases h
    · next hname =>
      cases h
      exact .stored hname
  | branch opener yes closer rest =>
    simp only [step] at h
    split at h
    · cases h
    · next hdecision =>
      cases h
      exact .chosen hdecision
    · next hdecision =>
      cases h
      exact .passed hdecision
  | divided opener yes divider no closer rest =>
    simp only [step] at h
    split at h
    · cases h
    · next hdecision =>
      cases h
      exact .chosen_yes hdecision
    · next hdecision =>
      cases h
      exact .chosen_no hdecision
  | loop opener body closer rest =>
    simp only [step] at h
    split at h
    · cases h
    · next hcount =>
      cases h
      exact .idle hcount
    · next hcount =>
      cases h
      exact .turning hcount
  | unclosed kind opener remainder => cases h

inductive Reaches (p : Point) : Point → Prop
  | here : Reaches p p
  | next {q r : Point} (hreach : Reaches p q) (hstep : q.step = .goes r) : Reaches p r

theorem Reaches.trans {p q r : Point} (hfirst : p.Reaches q) (hsecond : q.Reaches r) :
    p.Reaches r := by
  induction hsecond with
  | here => exact hfirst
  | next _ hstep ih => exact ih.next hstep

theorem Reaches.step {p q r : Point} (hstep : p.step = .goes q) (h : q.Reaches r) : p.Reaches r :=
  (Reaches.here.next hstep).trans h

/-- A failure leaves the calls that wait, one after the other. -/
def leave (s : Session) : List Waiting → Session
  | [] => s
  | w :: ws =>
    match w.reason with
    | .call _ => leave s.leaveCall ws
    | _ => leave s ws

theorem leave_append (s : Session) (inner ws : List Waiting) :
    leave s (inner ++ ws) = leave (leave s inner) ws := by
  induction inner generalizing s with
  | nil => rfl
  | cons w inner ih =>
    rw [List.cons_append, leave, leave]
    split
    · exact ih _
    · exact ih _

theorem leave_keeps {P : Session → Prop} (hleave : ∀ s, P s → P s.leaveCall) {s : Session}
    (ws : List Waiting) (hs : P s) : P (leave s ws) := by
  induction ws generalizing s with
  | nil => exact hs
  | cons w ws ih =>
    rw [leave]
    split
    · exact ih (hleave s hs)
    · exact ih hs

/-! ## Where a run comes to -/

variable {p q : Point} {r : Except Failure Unit} {s t : Session} {f : Failure}

/-- A run comes to a point whose line fails while, besides what waited before, the lines that the
failure passes wait. -/
def Fails (p : Point) (ws : List Waiting) (f : Failure) (t : Session) : Prop :=
  ∃ q inner e u, p.Reaches q ∧ q.step = .fails e u ∧ q.waiting = inner ++ ws ∧
    f = ⟨e, q.number :: inner.map Waiting.line⟩ ∧ t = leave u inner

def Comes (p : Point) : Except Failure Unit → Session → Prop
  | .ok _, t => ∃ number, p.Reaches ⟨.done, number, p.waiting, t⟩
  | .error f, t => p.Fails p.waiting f t

theorem Fails.of_reaches {ws : List Waiting} (hreach : p.Reaches q) (h : q.Fails ws f t) :
    p.Fails ws f t := by
  obtain ⟨q', inner, e, u, hq', hstep, hwaiting, hf, ht⟩ := h
  exact ⟨q', inner, e, u, hreach.trans hq', hstep, hwaiting, hf, ht⟩

theorem Comes.of_reaches (hreach : p.Reaches q) (hwaiting : q.waiting = p.waiting)
    (h : q.Comes r t) : p.Comes r t := by
  cases r with
  | ok _ =>
    obtain ⟨number, hq⟩ := h
    rw [hwaiting] at hq
    exact ⟨number, hreach.trans hq⟩
  | error f =>
    have hfails : q.Fails q.waiting f t := h
    rw [hwaiting] at hfails
    exact hfails.of_reaches hreach

theorem comes_fails {e : Error} (hstep : p.step = .fails e t) :
    p.Comes (.error ((Failure.of e).atLine p.number)) t :=
  ⟨p, [], e, t, .here, hstep, rfl, rfl, rfl⟩

theorem Fails.outside {w : Waiting} {ws : List Waiting} (h : p.Fails (w :: ws) f t) :
    p.Fails ws (f.atLine w.line) (leave t [w]) := by
  obtain ⟨q, inner, e, u, hq, hstep, hwaiting, rfl, rfl⟩ := h
  refine ⟨q, inner ++ [w], e, u, hq, hstep, by simp [hwaiting], ?_, (leave_append u inner [w]).symm⟩
  simp [Failure.atLine]

end Point

/-! ## Statements -/

def Run.Bare {α : Type} (m : Run α) : Prop := ∀ s f t, m s = (.error f, t) → f.lines = []

namespace Run

variable {α β : Type}

theorem bare_evaluate (g : Table Value → Drawn Error α) : Bare (evaluate g) := by
  intro s f t h
  cases hg : g s.vars s.world.draws with
  | ok result => rw [evaluate_ok hg] at h; cases h
  | error e => rw [evaluate_error hg] at h; cases h; rfl

theorem bare_change (g : Session → Except Error Session) : Bare (change g) := by
  intro s f t h
  cases hg : g s with
  | ok u => rw [change_ok hg] at h; cases h
  | error e => rw [change_error hg] at h; cases h; rfl

theorem bare_modify (g : Session → Session) : Bare (modify g : Run Unit) := by
  intro s f t h
  cases h

theorem Bare.bind {m : Run α} {k : α → Run β} (hm : Bare m) (hk : ∀ a, Bare (k a)) :
    Bare (m >>= k) := by
  intro s f t h
  rcases bind_cases h with ⟨e, hfirst, hf⟩ | ⟨a, u, -, hnext⟩
  · cases hf
    exact hm s f t hfirst
  · exact hk a u f t hnext

theorem bare_fetch (url target : String) : Bare fun s => s.fetch url target := by
  intro s f t h
  have h : s.fetch url target = (.error f, t) := h
  cases hfetch : s.world.network.fetch s.options.seconds url with
  | mk result network =>
    cases result with
    | ok page => rw [Session.fetch_of_page hfetch] at h; cases h
    | error cause => rw [Session.fetch_of_error hfetch] at h; cases h; rfl

end Run

theorem Statement.run_of_no_call {st : Statement} (h : ∀ name, st ≠ .call name)
    (call : String → Run Unit) :
    st.run call = st.run (fun _ => pure ()) ∧ Run.Bare (st.run call) := by
  cases st with
  | call name => exact absurd rfl (h name)
  | print e => exact ⟨rfl, (Run.bare_evaluate _).bind fun _ => Run.bare_modify _⟩
  | assign name e => exact ⟨rfl, (Run.bare_evaluate _).bind fun _ => Run.bare_modify _⟩
  | input name => exact ⟨rfl, Run.bare_modify _⟩
  | calculate e => exact ⟨rfl, (Run.bare_evaluate _).bind fun _ => Run.bare_modify _⟩
  | save file => exact ⟨rfl, Run.bare_change _⟩
  | load file => exact ⟨rfl, Run.bare_change _⟩
  | readJson source target => exact ⟨rfl, Run.bare_change _⟩
  | fetch url target => exact ⟨rfl, Run.bare_fetch url target⟩

/-! ## The executor goes through the points -/

namespace Point

variable {p q : Point} {r : Except Failure Unit} {s t u : Session} {f : Failure} {room : Nat}
  {rest body : Block}

/-- The first part of a block is done, and the run goes on behind it; or it fails, and the failure
passes the line of the part. -/
def Does (p : Point) (rest : Block) (lines : Nat) : Except Failure Unit → Session → Prop
  | .ok _, u => p.Reaches (p.skip rest lines u)
  | .error f, u => p.Fails p.waiting (f.atLine p.number) u

theorem Does.of_step (hstep : p.step = .goes (p.skip rest n u)) : p.Does rest n (.ok ()) u :=
  .step hstep .here

theorem Does.of_fails {e : Error} (hstep : p.step = .fails e u) (n : Nat) :
    p.Does rest n (.error (.of e)) u := comes_fails hstep

/-- Runs of the block with `room` more calls to become active come to where the executor ends. -/
def Follows (room : Nat) (b : Block) : Prop :=
  ∀ (ws : List Waiting) {n s r t}, s.room = room → b.run (Run.call room) n s = (r, t) →
    Comes ⟨b, n, ws, s⟩ r t

theorem comes_part {m : Run Unit} {n : Nat} (hroom : p.session.room = room)
    (hm : ∀ {r u}, m p.session = (r, u) → p.Does rest n r u)
    (hkeeps : Run.Keeps Session.SameDepth m) (hrest : Follows room rest)
    (h : (Run.atLine p.number m >>= fun _ => rest.run (Run.call room) (p.number + n)) p.session =
      (r, t)) : p.Comes r t := by
  rcases Run.atLine_bind_cases h with ⟨f, hfails, rfl⟩ | ⟨u, hdone, hrun⟩
  · exact hm hfails
  · have hsame := hkeeps p.session
    rw [hdone] at hsame
    exact Comes.of_reaches (hm hdone) rfl (hrest _ (hsame.room.trans hroom) hrun)

theorem does_group {group : Block} {number n : Nat} (hroom : s.room = room)
    (hgroup : Follows room group) (hstep : p.step = .goes (p.enter group number .branch rest n s))
    (h : group.run (Run.call room) number s = (r, u)) : p.Does rest n r u := by
  have hcomes := hgroup (⟨p.number, .branch, rest, p.number + n⟩ :: p.waiting) hroom h
  cases r with
  | ok _ =>
    obtain ⟨k, hreach⟩ := hcomes
    exact .step hstep (hreach.next rfl)
  | error f => exact .of_reaches (.next .here hstep) (Fails.outside hcomes)

theorem does_turns {line turns : Nat} (rest : Block) (next : Nat) (ws : List Waiting)
    (hroom : s.room = room) (hbody : Follows room body)
    (h : Run.times (turns + 1) (body.run (Run.call room) (line + 1)) s = (r, u)) :
    match r with
    | .ok _ => Reaches ⟨body, line + 1, ⟨line, .loop body turns, rest, next⟩ :: ws, s⟩
        ⟨rest, next, ws, u.looped⟩
    | .error f => Fails ⟨body, line + 1, ⟨line, .loop body turns, rest, next⟩ :: ws, s⟩ ws
        (f.atLine line) u := by
  -- the last turn is left behind the loop; every other one leads to the next
  induction turns generalizing s with
  | zero =>
    rw [Run.times_succ] at h
    rcases Run.bind_cases h with ⟨f, hfails, rfl⟩ | ⟨a, v, hturn, hrest⟩
    · exact Fails.outside (hbody _ hroom hfails)
    · obtain ⟨k, hreach⟩ := hbody (⟨line, .loop body 0, rest, next⟩ :: ws) hroom hturn
      cases hrest
      exact hreach.next rfl
  | succ turns ih =>
    rw [Run.times_succ] at h
    rcases Run.bind_cases h with ⟨f, hfails, rfl⟩ | ⟨a, v, hturn, hrest⟩
    · exact Fails.outside (hbody _ hroom hfails)
    · obtain ⟨k, hreach⟩ := hbody (⟨line, .loop body (turns + 1), rest, next⟩ :: ws) hroom hturn
      have hmore := ih (room_of_run hroom hturn) hrest
      have hback := hreach.next rfl
      cases r with
      | ok _ => exact hback.trans hmore
      | error f => exact Fails.of_reaches hback hmore

theorem does_call {name : String} {g : Function} {text : Text} {n : Nat} {ws : List Waiting}
    (hroom : s.room = room + 1) (hg : s.function name = .ok g)
    (hstep : step ⟨.line text rest, n, ws, s⟩ =
      .goes (enter ⟨.line text rest, n, ws, s⟩ (ofLines s.options.scan g.body) g.firstLine
        (.call name) rest 1 (s.started name)))
    (hfollows : ∀ b, Follows room b) (h : Run.call (room + 1) name s = (r, u)) :
    Does ⟨.line text rest, n, ws, s⟩ rest 1 r u := by
  -- the call that starts is one of those there was room for
  have hinside : (s.started name).room = room := by
    show s.options.maxCalls - (s.calls + 1) = room
    unfold Session.room at hroom
    omega
  rw [Run.call_with_room hg] at h
  rcases Run.bind_cases h with ⟨f, hfails, rfl⟩ | ⟨a, v, hdone, hrest⟩
  · rw [Run.closing_apply] at hfails
    obtain ⟨hresult, rfl⟩ := Prod.mk.inj hfails
    have hcomes := hfollows _ (⟨n, .call name, rest, n + 1⟩ :: ws) hinside
      (Prod.ext hresult rfl : (ofLines s.options.scan g.body).run (Run.call room) g.firstLine
        (s.started name) = (.error f, _))
    exact .of_reaches (.next .here hstep) (Fails.outside hcomes)
  · rw [Run.closing_apply] at hdone
    obtain ⟨hresult, rfl⟩ := Prod.mk.inj hdone
    have hcomes := hfollows _ (⟨n, .call name, rest, n + 1⟩ :: ws) hinside
      (Prod.ext hresult rfl : (ofLines s.options.scan g.body).run (Run.call room) g.firstLine
        (s.started name) = (.ok a, _))
    obtain ⟨k, hreach⟩ := hcomes
    cases hrest
    exact .step hstep (hreach.next rfl)

theorem does_line {text : Text} {n : Nat} {ws : List Waiting} (hroom : s.room = room)
    (hinside : ∀ m, room = m + 1 → ∀ b, Follows m b)
    (h : runLine (Run.call room) text s = (r, u)) : Does ⟨.line text rest, n, ws, s⟩ rest 1 r u := by
  unfold runLine at h
  by_cases hsilent : isSilent text = true
  · rw [if_pos hsilent] at h
    cases h
    exact .of_step (if_pos hsilent)
  · rw [if_neg hsilent] at h
    have hstep : step ⟨.line text rest, n, ws, s⟩ = match Statement.read text with
        | .error e => .fails e s
        | .ok st => obey ⟨.line text rest, n, ws, s⟩ rest st := if_neg hsilent
    unfold Statement.runLine at h
    cases hread : Statement.read text with
    | error e =>
      rw [hread] at h hstep
      cases h
      exact .of_fails hstep 1
    | ok st =>
      rw [hread] at h hstep
      rw [Run.ofExcept_ok, Run.pure_bind_apply] at h
      simp only at hstep
      -- only a call depends on what calls do, and only it passes a failure of other lines on
      by_cases hcall : ∃ name, st = .call name
      · obtain ⟨name, rfl⟩ := hcall
        change Run.call room name s = (r, u) at h
        unfold obey at hstep
        cases hg : s.function name with
        | error e =>
          rw [Run.call_of_undefined hg] at h
          simp only [hg] at hstep
          cases h
          exact .of_fails hstep 1
        | ok g =>
          simp only [hg, hroom] at hstep
          cases room with
          | zero =>
            rw [Run.call_without_room hg] at h
            cases h
            exact .of_fails hstep 1
          | succ room => exact does_call hroom hg hstep (hinside room rfl) h
      · have hno : ∀ name, st ≠ .call name := fun name hname => hcall ⟨name, hname⟩
        obtain ⟨hsame, hbare⟩ := Statement.run_of_no_call hno (Run.call room)
        rw [obey_of_no_call hno, ← hsame, h] at hstep
        cases r with
        | ok _ => exact .of_step hstep
        | error f =>
          have hf : f = .of f.error := by
            have hlines := hbare s f u h
            cases f
            cases hlines
            rfl
          rw [hf]
          exact .of_fails hstep 1

theorem does_define {opener closer : Text} {n : Nat} {ws : List Waiting}
    (h : define opener body.lines (n + 1) s = (r, u)) :
    Does ⟨.func opener body closer rest, n, ws, s⟩ rest (body.size + 2) r u := by
  cases hname : funcName (headerOf opener) with
  | error e =>
    rw [define_error hname] at h
    cases h
    exact .of_fails (by simp only [step, hname]) _
  | ok name =>
    rw [define_ok hname] at h
    cases h
    exact .of_step (by simp only [step, hname])

theorem does_branch {opener closer : Text} {yes : Block} {n : Nat} {ws : List Waiting}
    (hroom : s.room = room) (hyes : Follows room yes)
    (h : choose opener (yes.run (Run.call room) (n + 1)) (pure ()) s = (r, u)) :
    Does ⟨.branch opener yes closer rest, n, ws, s⟩ rest (yes.size + 2) r u := by
  cases hdecision : s.decision opener with
  | error undecided =>
    obtain ⟨e, v⟩ := undecided
    rw [choose_error hdecision] at h
    cases h
    exact .of_fails (by simp only [step, hdecision]) _
  | ok decided =>
    obtain ⟨holds, v⟩ := decided
    have hroom' := (room_of_decision hdecision).trans hroom
    rw [choose_ok hdecision] at h
    cases holds with
    | true => exact does_group hroom' hyes (by simp only [step, hdecision]) h
    | false =>
      cases h
      exact .of_step (by simp only [step, hdecision])

theorem does_divided {opener divider closer : Text} {yes no : Block} {n : Nat} {ws : List Waiting}
    (hroom : s.room = room) (hyes : Follows room yes) (hno : Follows room no)
    (h : choose opener (yes.run (Run.call room) (n + 1))
      (no.run (Run.call room) (n + yes.size + 2)) s = (r, u)) :
    Does ⟨.divided opener yes divider no closer rest, n, ws, s⟩ rest (yes.size + no.size + 3) r u := by
  cases hdecision : s.decision opener with
  | error undecided =>
    obtain ⟨e, v⟩ := undecided
    rw [choose_error hdecision] at h
    cases h
    exact .of_fails (by simp only [step, hdecision]) _
  | ok decided =>
    obtain ⟨holds, v⟩ := decided
    have hroom' := (room_of_decision hdecision).trans hroom
    rw [choose_ok hdecision] at h
    cases holds with
    | true => exact does_group hroom' hyes (by simp only [step, hdecision]) h
    | false => exact does_group hroom' hno (by simp only [step, hdecision]) h

theorem does_loop {opener closer : Text} {n : Nat} {ws : List Waiting} (hroom : s.room = room)
    (hbody : Follows room body)
    (h : iterate opener (body.run (Run.call room) (n + 1)) s = (r, u)) :
    Does ⟨.loop opener body closer rest, n, ws, s⟩ rest (body.size + 2) r u := by
  cases hcount : count (headerOf opener) with
  | error e =>
    rw [iterate_error hcount] at h
    cases h
    exact .of_fails (by simp only [step, hcount]) _
  | ok turns =>
    rw [iterate_ok hcount] at h
    cases turns with
    | zero =>
      cases h
      refine .of_step ?_
      simp only [step, hcount]
      rfl
    | succ turns =>
      have hstep : step ⟨.loop opener body closer rest, n, ws, s⟩ =
          .goes (enter ⟨.loop opener body closer rest, n, ws, s⟩ body (n + 1) (.loop body turns) rest
            (body.size + 2) (s.looping (turns + 1))) := by
        simp only [step, hcount]
      have hroom' : (s.looping (turns + 1)).room = room := hroom
      -- a turn fails, or all of them run and the finish is put out
      rcases Run.bind_cases h with ⟨f, hfails, rfl⟩ | ⟨a, v, hturns, hemit⟩
      · have hfailure := does_turns rest (n + (body.size + 2)) ws hroom' hbody hfails
        exact .of_reaches (.next .here hstep) hfailure
      · have hreach := does_turns rest (n + (body.size + 2)) ws hroom' hbody hturns
        cases hemit
        exact .step hstep hreach

theorem follows_block (hinside : ∀ m, room = m + 1 → ∀ b, Follows m b) (b : Block) :
    Follows room b := by
  have hframe := Session.sameDepth_frame
  have hcall : ∀ name, Run.Keeps Session.SameDepth (Run.call room name) := hframe.keeps_call room
  -- each part does its own work, and the rest of the block follows by hypothesis
  induction b with
  | done =>
    intro ws n s r t _ h
    cases h
    exact ⟨n, .here⟩
  | line text rest ihrest =>
    intro ws n s r t hroom h
    exact comes_part hroom (does_line hroom hinside) (hframe.keeps_plainLine hcall text) ihrest h
  | func opener body closer rest _ ihrest =>
    intro ws n s r t hroom h
    exact comes_part hroom does_define (hframe.keeps_define _ _ _) ihrest h
  | branch opener yes closer rest ihyes ihrest =>
    intro ws n s r t hroom h
    exact comes_part hroom (does_branch hroom ihyes)
      (hframe.keeps_choose _ (hframe.keeps_block hcall _ _) (hframe.keeps_pure ())) ihrest h
  | divided opener yes divider no closer rest ihyes ihno ihrest =>
    intro ws n s r t hroom h
    have hnext : n + yes.size + no.size + 3 = n + (yes.size + no.size + 3) := by omega
    rw [run, hnext] at h
    exact comes_part hroom (does_divided hroom ihyes ihno)
      (hframe.keeps_choose _ (hframe.keeps_block hcall _ _) (hframe.keeps_block hcall _ _)) ihrest h
  | loop opener body closer rest ihbody ihrest =>
    intro ws n s r t hroom h
    exact comes_part hroom (does_loop hroom ihbody)
      (hframe.keeps_iterate _ (hframe.keeps_block hcall _ _)) ihrest h
  | unclosed kind opener remainder =>
    intro ws n s r t _ h
    cases h
    exact comes_fails rfl

/-- The executor goes through the points of the machine, and ends where it ends. -/
theorem follows (room : Nat) (b : Block) : Follows room b := by
  -- on the room: blocks may be any size, but the bodies of called functions run with less room
  induction room generalizing b with
  | zero => exact follows_block (fun m hm => absurd hm (Nat.succ_ne_zero m).symm) b
  | succ room ih =>
    refine follows_block (fun m hm b => ?_) b
    obtain rfl : room = m := Nat.succ.inj hm
    exact ih b

end Point

end LineScript
