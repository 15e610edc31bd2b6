import LineScript.Proofs.Run.Step

/-!
# Frames: what every step keeps

A frame is a relation between the session before a step and the session after it which is kept by
everything that a statement can do to a session (`Frame`), and by what blocks and calls do
(`BlockFrame`).  A frame relates the two ends of every run, whether the run succeeds or fails: it is
proved once, by recursion over statements, blocks and calls (`BlockFrame.keeps_lines`).
-/

namespace LineScript

/-- A relation between sessions that every statement but a call respects. -/
structure Session.Frame (R : Session → Session → Prop) : Prop where
  refl : ∀ s, R s s
  trans : ∀ {s t u}, R s t → R t u → R s u
  emit : ∀ s line, R s (s.emit line)
  draw : ∀ s draws, R s (s.withDraws draws)
  request : ∀ s network, R s (s.withNetwork network)
  write : ∀ s files, R s (s.withFiles files)
  takeInput : ∀ s name, R s (s.takeInput name)
  assign : ∀ {s e v draws draws'}, Expression.evaluate e s.vars draws = .ok (v, draws') →
    ∀ name, R s (s.set name v)
  load : ∀ {s file members}, s.savedMembers file = .ok members →
    R s (s.setAll (Value.ofMembers members))
  readJson : ∀ {s source v}, s.jsonValue source = .ok v → ∀ target, R s (s.set target v)
  page : ∀ s target page, R s (s.set target (.string page))
  noPage : ∀ s target, R s (s.set target .null)

/-- A relation between sessions that blocks and calls respect as well. -/
structure Session.BlockFrame (R : Session → Session → Prop) : Prop extends Session.Frame R where
  define : ∀ s name f, R s (s.define name f)
  call : ∀ {s t}, R s.enterCall t → R s t.leaveCall

def Run.Keeps {α : Type} (R : Session → Session → Prop) (m : Run α) : Prop := ∀ s, R s (m s).2

variable {R : Session → Session → Prop} {α β : Type} {call : String → Run Unit}

theorem Run.Keeps.atLine {m : Run α} (hm : Run.Keeps R m) (n : Nat) :
    Run.Keeps R (Run.atLine n m) := by
  intro s
  rw [Run.atLine_snd]
  exact hm s

namespace Session.Frame

open Run (Keeps)

theorem keeps_pure (h : Frame R) (a : α) : Keeps R (pure a : Run α) := h.refl

theorem keeps_fail (h : Frame R) (e : Error) : Keeps R (Run.fail e : Run α) := h.refl

theorem keeps_ofExcept (h : Frame R) (e : Except Error α) : Keeps R (Run.ofExcept e) := by
  cases e with
  | ok a => exact h.refl
  | error e => exact h.refl

theorem keeps_emit (h : Frame R) (line : String) : Keeps R (Run.emit line) :=
  fun s => h.emit s line

theorem keeps_bind (h : Frame R) {m : Run α} {f : α → Run β} (hm : Keeps R m)
    (hf : ∀ a, Keeps R (f a)) : Keeps R (m >>= f) := by
  intro s
  have hfirst := hm s
  cases hms : m s with
  | mk result t =>
    rw [hms] at hfirst
    cases result with
    | ok a =>
      rw [Run.bind_of_ok hms]
      exact h.trans hfirst (hf a t)
    | error e =>
      rw [Run.bind_of_error hms]
      exact hfirst

theorem keeps_times (h : Frame R) {m : Run Unit} (hm : Keeps R m) (n : Nat) :
    Keeps R (Run.times n m) := by
  induction n with
  | zero => exact h.keeps_pure ()
  | succ n ih =>
    rw [Run.times_succ]
    exact h.keeps_bind hm fun _ => ih

theorem keeps_evaluate (h : Frame R) (f : Table Value → Drawn Error α) :
    Keeps R (Run.evaluate f) := by
  intro s
  cases hf : f s.vars s.world.draws with
  | ok result =>
    rw [Run.evaluate_ok hf]
    exact h.draw s _
  | error e =>
    rw [Run.evaluate_error hf]
    exact h.draw s _

theorem keeps_show (h : Frame R) (f : Table Value → Drawn Error α)
    (wording : α → String) : Keeps R (Run.evaluate f >>= fun a => Run.emit (wording a)) :=
  h.keeps_bind (h.keeps_evaluate f) fun a => h.keeps_emit (wording a)

theorem keeps_change (h : Frame R) {f : Session → Except Error Session}
    (hf : ∀ {s t}, f s = .ok t → R s t) : Keeps R (Run.change f) := by
  intro s
  cases hfs : f s with
  | ok t =>
    rw [Run.change_ok hfs]
    exact hf hfs
  | error e =>
    rw [Run.change_error hfs]
    exact h.refl s

theorem keeps_assign (h : Frame R) (name : String) (e : Text) :
    Keeps R (Statement.run call (.assign name e)) := by
  intro s
  cases he : Expression.evaluate e s.vars s.world.draws with
  | ok result =>
    obtain ⟨v, draws⟩ := result
    show R s ((Run.evaluate (Expression.evaluate e) >>= _) s).2
    rw [Run.bind_of_ok (Run.evaluate_ok he)]
    exact h.trans (h.draw s draws)
      (h.trans (h.assign (s := s.withDraws draws) he name) (h.emit _ _))
  | error e' =>
    show R s ((Run.evaluate (Expression.evaluate e) >>= _) s).2
    rw [Run.bind_of_error (Run.evaluate_error he)]
    exact h.draw s _

theorem of_save (h : Frame R) {file : String} {s t : Session} (hs : s.save file = .ok t) :
    R s t := by
  unfold Session.save at hs
  simp only at hs
  split at hs
  · cases hs
    exact h.trans (h.write s _) (h.emit _ _)
  · cases hs

theorem of_load (h : Frame R) {file : String} {s t : Session} (hs : s.load file = .ok t) :
    R s t := by
  obtain ⟨members, hm, rfl⟩ := exists_of_map_ok hs
  exact h.trans (h.load hm) (h.emit _ _)

theorem of_readJson (h : Frame R) {source target : String} {s t : Session}
    (hs : s.readJson source target = .ok t) : R s t := by
  obtain ⟨v, hv, rfl⟩ := exists_of_map_ok hs
  exact h.trans (h.readJson hv target) (h.emit _ _)

theorem of_fetch (h : Frame R) (url target : String) (s : Session) :
    R s (s.fetch url target).2 := by
  cases hfetch : s.world.network.fetch s.options.seconds url with
  | mk result network =>
    have hrequest := h.request s network
    cases result with
    | ok page =>
      rw [Session.fetch_of_page hfetch]
      exact h.trans hrequest (h.trans (h.page _ target page) (h.emit _ _))
    | error cause =>
      rw [Session.fetch_of_error hfetch]
      exact h.trans hrequest (h.noPage _ target)

theorem keeps_statement (h : Frame R) {st : Statement}
    (hcall : ∀ name, st = .call name → Keeps R (call name)) : Keeps R (st.run call) := by
  cases st with
  | print e => exact h.keeps_show _ _
  | assign name e => exact h.keeps_assign name e
  | input name => exact fun s => h.takeInput s name
  | calculate e => exact h.keeps_show _ _
  | save file => exact h.keeps_change h.of_save
  | load file => exact h.keeps_change h.of_load
  | readJson source target => exact h.keeps_change h.of_readJson
  | fetch url target => exact h.of_fetch url target
  | call name => exact hcall name rfl

theorem of_run (h : Frame R) {st : Statement} (hno : ∀ name, st ≠ .call name) {s t : Session}
    {r : Except Failure Unit} (hrun : st.run call s = (r, t)) : R s t := by
  have hkeeps : Keeps R (st.run call) :=
    h.keeps_statement fun name hname => absurd hname (hno name)
  have hrel := hkeeps s
  rw [hrun] at hrel
  exact hrel

end Session.Frame

namespace Session.BlockFrame

open Run (Keeps)

theorem keeps_runLine (h : BlockFrame R) (hcall : ∀ name, Keeps R (call name)) (text : Text) :
    Keeps R (Statement.runLine call text) :=
  h.keeps_bind (h.keeps_ofExcept _) fun _ => h.keeps_statement fun name _ => hcall name

theorem keeps_plainLine (h : BlockFrame R) (hcall : ∀ name, Keeps R (call name)) (text : Text) :
    Keeps R (Block.runLine call text) := by
  unfold Block.runLine
  split
  · exact h.keeps_pure ()
  · exact h.keeps_runLine hcall text

theorem keeps_define (h : BlockFrame R) (opener : Text) (body : List Text) (n : Nat) :
    Keeps R (Block.define opener body n) :=
  h.keeps_bind (h.keeps_ofExcept _) fun name s =>
    h.trans (h.define s name ⟨body, n⟩) (h.emit _ _)

theorem keeps_choose (h : BlockFrame R) (opener : Text) {yes no : Run Unit} (hyes : Keeps R yes)
    (hno : Keeps R no) : Keeps R (Block.choose opener yes no) := by
  refine h.keeps_bind (h.keeps_ofExcept _) fun condition => ?_
  refine h.keeps_bind (h.keeps_evaluate _) fun holds => ?_
  cases holds with
  | true => exact h.keeps_bind (h.keeps_emit _) fun _ => hyes
  | false => exact h.keeps_bind (h.keeps_emit _) fun _ => hno

theorem keeps_iterate (h : BlockFrame R) (opener : Text) {body : Run Unit} (hbody : Keeps R body) :
    Keeps R (Block.iterate opener body) := by
  refine h.keeps_bind (h.keeps_ofExcept _) fun count => ?_
  refine h.keeps_bind (h.keeps_emit _) fun _ => ?_
  exact h.keeps_bind (h.keeps_times hbody count) fun _ => h.keeps_emit _

/-- A block keeps a frame, if the calls in it do. -/
theorem keeps_block (h : BlockFrame R) (hcall : ∀ name, Keeps R (call name)) (n : Nat)
    (b : Block) : Keeps R (b.run call n) := by
  -- on the tree: the work of a line keeps the frame, and so does what it runs inside
  induction b generalizing n with
  | done => exact h.keeps_pure ()
  | line text rest ihrest =>
    have hline := h.keeps_plainLine hcall text
    exact h.keeps_bind (hline.atLine n) fun _ => ihrest _
  | func opener body closer rest _ ihrest =>
    have hdefine := h.keeps_define opener body.lines (n + 1)
    exact h.keeps_bind (hdefine.atLine n) fun _ => ihrest _
  | branch opener yes closer rest ihyes ihrest =>
    have hchoose := h.keeps_choose opener (ihyes (n + 1)) (h.keeps_pure ())
    exact h.keeps_bind (hchoose.atLine n) fun _ => ihrest _
  | divided opener yes divider no closer rest ihyes ihno ihrest =>
    have hchoose := h.keeps_choose opener (ihyes (n + 1)) (ihno (n + yes.size + 2))
    exact h.keeps_bind (hchoose.atLine n) fun _ => ihrest _
  | loop opener body closer rest ihbody ihrest =>
    have hiterate := h.keeps_iterate opener (ihbody (n + 1))
    exact h.keeps_bind (hiterate.atLine n) fun _ => ihrest _
  | unclosed kind opener remainder =>
    have hfail : Keeps R (Run.fail (.unclosedBlock kind) : Run Unit) := h.keeps_fail _
    exact hfail.atLine n

theorem keeps_runLines (h : BlockFrame R) (hcall : ∀ name, Keeps R (call name))
    (lines : List Text) (n : Nat) : Keeps R (Block.runLines call lines n) :=
  fun s => h.keeps_block hcall n (Block.ofLines s.options.scan lines) s

theorem keeps_closing (h : BlockFrame R) {m : Run Unit} (hm : Keeps R m) (s : Session)
    (name : String) : R s (Run.closing m Session.leaveCall (s.started name)).2 := by
  rw [Run.closing_apply]
  exact h.call (h.trans (h.emit _ _) (hm _))

theorem keeps_call (h : BlockFrame R) (room : Nat) (name : String) :
    Keeps R (Run.call room name) := by
  -- on the room: the calls in the body of a function have one less
  induction room generalizing name with
  | zero =>
    intro s
    cases hf : s.function name with
    | error e => rw [Run.call_of_undefined hf]; exact h.refl s
    | ok f => rw [Run.call_without_room hf]; exact h.refl s
  | succ room ih =>
    intro s
    cases hf : s.function name with
    | error e => rw [Run.call_of_undefined hf]; exact h.refl s
    | ok f =>
      rw [Run.call_with_room hf]
      have hbody := h.keeps_closing (h.keeps_runLines ih f.body f.firstLine) s name
      cases hrun : Run.closing (Block.runLines (Run.call room) f.body f.firstLine)
          Session.leaveCall (s.started name) with
      | mk result t =>
        rw [hrun] at hbody
        cases result with
        | ok _ => rw [Run.bind_of_ok hrun]; exact h.trans hbody (h.emit _ _)
        | error e => rw [Run.bind_of_error hrun]; exact hbody

theorem keeps_lines (h : BlockFrame R) (lines : List Text) (n : Nat) :
    Keeps R (Run.lines lines n) :=
  fun s => h.keeps_runLines (h.keeps_call s.room) lines n s

theorem keeps_line (h : BlockFrame R) (text : Text) : Keeps R (Run.statement text) :=
  fun s => h.keeps_runLine (h.keeps_call s.room) text s

end Session.BlockFrame

end LineScript
