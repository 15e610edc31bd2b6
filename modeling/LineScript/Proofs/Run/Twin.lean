import LineScript.Proofs.Block.Like
import LineScript.Proofs.Run.Step

/-!
# Two runs side by side

Two sessions may differ in the mode of searching and in the lines that their functions hold, and be
the same in everything else (`Session.Twins`).  Statements look at neither (`Run.CodeFree`).  So if
the lines of the one run and the lines of the other are always cut into trees of one shape, both
runs go the same way: they have the same result, and leave sessions that differ no more than before
(`Run.Twin.lines`).
-/

namespace LineScript

open Block

def Session.withCode (s : Session) (scan : Scan) (functions : Table Function) : Session :=
  { s with options := { s.options with scan }, functions }

theorem Table.eq_of_get? {α : Type} {t u : Table α} (h : ∀ key, t.get? key = u.get? key) :
    t = u := by
  obtain ⟨es, hes⟩ := t
  obtain ⟨fs, hfs⟩ := u
  obtain rfl : es = fs := hes.ext hfs h
  rfl

structure Function.Like (rows : List Text → List Text → Prop) (f f' : Function) : Prop where
  firstLine : f.firstLine = f'.firstLine
  body : rows f.body f'.body

/-- Two sessions are the same but for the mode of searching and the bodies of stored functions. -/
structure Session.Twins (rows : List Text → List Text → Prop) (scan scan' : Scan)
    (s t : Session) : Prop where
  scan : s.options.scan = scan
  code : t = s.withCode scan' t.functions
  functions : ∀ name,
    Option.Rel (Function.Like rows) (s.functions.get? name) (t.functions.get? name)

namespace Run

/-- A step neither looks at the mode of searching and the stored functions nor changes them. -/
def CodeFree {α : Type} (m : Run α) : Prop :=
  ∀ s scan functions,
    m (s.withCode scan functions) = ((m s).1, (m s).2.withCode scan functions)

/-- From sessions in a relation two steps have the same result and leave sessions in this relation.
-/
def Twin {α : Type} (T : Session → Session → Prop) (m m' : Run α) : Prop :=
  ∀ s t, T s t → (m' t).1 = (m s).1 ∧ T (m s).2 (m' t).2

variable {α β : Type}

/-! ## Steps without code -/

namespace CodeFree

theorem pure (a : α) : CodeFree (Pure.pure a : Run α) := fun _ _ _ => rfl

theorem fail (e : Error) : CodeFree (Run.fail e : Run α) := fun _ _ _ => rfl

theorem emit (line : String) : CodeFree (Run.emit line) := fun _ _ _ => rfl

theorem bind {m : Run α} {k : α → Run β} (hm : CodeFree m) (hk : ∀ a, CodeFree (k a)) :
    CodeFree (m >>= k) := by
  intro s scan functions
  have hother := hm s scan functions
  cases hfirst : m s with
  | mk result t =>
    rw [hfirst] at hother
    cases result with
    | ok a =>
      rw [bind_of_ok hfirst, bind_of_ok hother]
      exact hk a t scan functions
    | error e => rw [bind_of_error hfirst, bind_of_error hother]

theorem evaluate (f : Table Value → Drawn Error α) :
    CodeFree (Run.evaluate f) := by
  intro s scan functions
  cases hf : f s.vars s.world.draws with
  | ok result =>
    have hother : f (s.withCode scan functions).vars (s.withCode scan functions).world.draws =
        .ok result := hf
    rw [evaluate_ok hf, evaluate_ok hother]
    rfl
  | error e =>
    have hother : f (s.withCode scan functions).vars (s.withCode scan functions).world.draws =
        .error e := hf
    rw [evaluate_error hf, evaluate_error hother]
    rfl

theorem change {f : Session → Except Error Session}
    (hf : ∀ (s : Session) scan functions,
      f (s.withCode scan functions) = (f s).map (·.withCode scan functions)) :
    CodeFree (Run.change f) := by
  intro s scan functions
  have hother := hf s scan functions
  cases hs : f s with
  | ok t =>
    rw [hs] at hother
    rw [change_ok hs, change_ok hother]
  | error e =>
    rw [hs] at hother
    rw [change_error hs, change_error hother]

theorem input (name : String) : CodeFree (modify (·.takeInput name) : Run Unit) := by
  intro s scan functions
  show (Except.ok (), (s.withCode scan functions).takeInput name) =
    (.ok (), (s.takeInput name).withCode scan functions)
  have hvalue : (s.withCode scan functions).input[(s.withCode scan functions).taken]? =
      s.input[s.taken]? := rfl
  have hnext : (s.withCode scan functions).nextInput =
      (s.nextInput.1, s.nextInput.2.withCode scan functions) := by
    unfold Session.nextInput
    rw [hvalue]
    cases s.input[s.taken]? <;> rfl
  unfold Session.takeInput
  rw [hnext]
  rfl

theorem save (file : String) : CodeFree (Run.change (·.save file)) := by
  apply change
  intro s scan functions
  -- the path of the file depends on the directory alone
  have hpath : (s.withCode scan functions).options.resolve (Statement.fileName file) =
      s.options.resolve (Statement.fileName file) := rfl
  have hworld : (s.withCode scan functions).world = s.world := rfl
  have hvars : (s.withCode scan functions).vars = s.vars := rfl
  unfold Session.save
  simp only [hpath, hworld, hvars]
  cases s.world.files.writeText (s.options.resolve (Statement.fileName file))
    (Json.object (Value.toMembers s.vars.entries)).pretty <;> rfl

theorem load (file : String) : CodeFree (Run.change (·.load file)) := by
  apply change
  intro s scan functions
  unfold Session.load
  simp only
  show (s.savedMembers (Statement.fileName file)).map _ = _
  cases s.savedMembers (Statement.fileName file) <;> rfl

theorem readJson (source target : String) : CodeFree (Run.change (·.readJson source target)) := by
  apply change
  intro s scan functions
  unfold Session.readJson
  show (s.jsonValue source).map _ = _
  cases s.jsonValue source <;> rfl

theorem fetch (url target : String) : CodeFree fun s => s.fetch url target := by
  intro s scan functions
  show (s.withCode scan functions).fetch url target =
    ((s.fetch url target).1, (s.fetch url target).2.withCode scan functions)
  cases hfetch : s.world.network.fetch s.options.seconds url with
  | mk result network =>
    have hother : (s.withCode scan functions).world.network.fetch
        (s.withCode scan functions).options.seconds url = (result, network) := hfetch
    cases result with
    | ok page =>
      rw [Session.fetch_of_page hfetch, Session.fetch_of_page hother]
      rfl
    | error cause =>
      rw [Session.fetch_of_error hfetch, Session.fetch_of_error hother]
      rfl

theorem statement {st : Statement} (hno : ∀ name, st ≠ .call name) (call : String → Run Unit) :
    CodeFree (st.run call) := by
  -- only a call looks at stored functions
  cases st with
  | print e => exact (evaluate _).bind fun _ => emit _
  | assign name e => exact (evaluate _).bind fun _ _ _ _ => rfl
  | input name => exact input name
  | calculate e => exact (evaluate _).bind fun _ => emit _
  | save file => exact save file
  | load file => exact load file
  | readJson source target => exact readJson source target
  | fetch url target => exact fetch url target
  | call name => exact absurd rfl (hno name)

theorem same {m : Run α} (h : CodeFree m) (s : Session) :
    (m s).2.options.scan = s.options.scan ∧ (m s).2.functions = s.functions := by
  -- the step is taken in the session that has its own code put in again
  have hself : (m s).2 = (m s).2.withCode s.options.scan s.functions :=
    congrArg Prod.snd (h s s.options.scan s.functions)
  rw [hself]
  exact ⟨rfl, rfl⟩

end CodeFree

/-! ## Steps side by side -/

namespace Twin

variable {T : Session → Session → Prop}

theorem pure (a : α) : Twin T (Pure.pure a : Run α) (Pure.pure a) := fun _ _ h => ⟨rfl, h⟩

theorem fail (e : Error) : Twin T (Run.fail e : Run α) (Run.fail e) := fun _ _ h => ⟨rfl, h⟩

theorem ofExcept (e : Except Error α) : Twin T (Run.ofExcept e) (Run.ofExcept e) := by
  cases e with
  | ok a => exact .pure a
  | error e => exact .fail e

theorem bind {m m' : Run α} {k k' : α → Run β} (hm : Twin T m m')
    (hk : ∀ a, Twin T (k a) (k' a)) : Twin T (m >>= k) (m' >>= k') := by
  intro s t hst
  obtain ⟨hresult, hleft⟩ := hm s t hst
  cases hfirst : m s with
  | mk result u =>
    cases hsecond : m' t with
    | mk result' u' =>
      rw [hfirst, hsecond] at hresult hleft
      obtain rfl : result' = result := hresult
      cases result' with
      | ok a =>
        rw [bind_of_ok hfirst, bind_of_ok hsecond]
        exact hk a u u' hleft
      | error e =>
        rw [bind_of_error hfirst, bind_of_error hsecond]
        exact ⟨rfl, hleft⟩

theorem atLine {m m' : Run α} (hm : Twin T m m') (n : Nat) :
    Twin T (Run.atLine n m) (Run.atLine n m') := by
  intro s t hst
  obtain ⟨hresult, hleft⟩ := hm s t hst
  cases hfirst : m s with
  | mk result u =>
    cases hsecond : m' t with
    | mk result' u' =>
      rw [hfirst, hsecond] at hresult hleft
      obtain rfl : result' = result := hresult
      cases result' with
      | ok a =>
        rw [atLine_ok hfirst, atLine_ok hsecond]
        exact ⟨rfl, hleft⟩
      | error e =>
        rw [atLine_error hfirst, atLine_error hsecond]
        exact ⟨rfl, hleft⟩

theorem times {m m' : Run Unit} (hm : Twin T m m') (n : Nat) :
    Twin T (Run.times n m) (Run.times n m') := by
  induction n with
  | zero => exact .pure ()
  | succ n ih =>
    rw [times_succ, times_succ]
    exact hm.bind fun _ => ih

/-! ## Twin sessions -/

variable {rows : List Text → List Text → Prop} {scan scan' : Scan} {call call' : String → Run Unit}

theorem of_codeFree {m : Run α} (h : CodeFree m) : Twin (Session.Twins rows scan scan') m m := by
  intro s t hst
  obtain ⟨hscan, hfunctions⟩ := h.same s
  have hother : m t = ((m s).1, (m s).2.withCode scan' t.functions) := by
    have hcode := h s scan' t.functions
    rwa [← hst.code] at hcode
  rw [hother]
  refine ⟨rfl, hscan.trans hst.scan, rfl, ?_⟩
  rw [hfunctions]
  exact hst.functions

theorem statement (hcall : ∀ name, Twin (Session.Twins rows scan scan') (call name) (call' name))
    (st : Statement) :
    Twin (Session.Twins rows scan scan') (st.run call) (st.run call') := by
  by_cases hcalls : ∃ name, st = .call name
  · obtain ⟨name, rfl⟩ := hcalls
    exact hcall name
  · have hno : ∀ name, st ≠ .call name := fun name hname => hcalls ⟨name, hname⟩
    have hsame : st.run call' = st.run call := by
      cases st with
      | call name => exact absurd rfl (hno name)
      | _ => rfl
    -- what calls do does not matter to any other statement
    rw [hsame]
    exact of_codeFree (.statement hno call)

theorem runLine (hcall : ∀ name, Twin (Session.Twins rows scan scan') (call name) (call' name))
    {text text' : Text} (h : Text.Same text text') :
    Twin (Session.Twins rows scan scan') (Block.runLine call text) (Block.runLine call' text') := by
  unfold Block.runLine Statement.runLine
  rw [← h.isSilent_eq, ← h.read_eq]
  split
  · exact .pure ()
  · exact (ofExcept _).bind fun st => statement hcall st

theorem define {opener opener' : Text} (h : Text.Same opener opener') {body body' : List Text}
    (hbody : rows body body') (n : Nat) :
    Twin (Session.Twins rows scan scan') (Block.define opener body n)
      (Block.define opener' body' n) := by
  unfold Block.define
  rw [← h.headerOf_eq]
  apply (ofExcept _).bind
  intro name s t hst
  refine ⟨rfl, hst.scan, ?_, fun other => ?_⟩
  · show (t.define name ⟨body', n⟩).emit _ = _
    rw [hst.code]
    rfl
  · show Option.Rel _ ((s.functions.insert name ⟨body, n⟩).get? other)
      ((t.functions.insert name ⟨body', n⟩).get? other)
    -- under the name itself the two bodies are found, which stand in the relation
    by_cases hname : other = name
    · subst hname
      rw [Table.get?_insert_self, Table.get?_insert_self]
      exact .some ⟨rfl, hbody⟩
    · rw [Table.get?_insert_of_ne hname, Table.get?_insert_of_ne hname]
      exact hst.functions other

theorem choose {opener opener' : Text} (h : Text.Same opener opener') {yes yes' no no' : Run Unit}
    (hyes : Twin (Session.Twins rows scan scan') yes yes')
    (hno : Twin (Session.Twins rows scan scan') no no') :
    Twin (Session.Twins rows scan scan') (Block.choose opener yes no)
      (Block.choose opener' yes' no') := by
  unfold Block.choose
  rw [← h.headerOf_eq]
  apply (ofExcept _).bind
  intro condition
  apply (of_codeFree (.evaluate _)).bind
  intro holds
  cases holds with
  | true => exact (of_codeFree (.emit _)).bind fun _ => hyes
  | false => exact (of_codeFree (.emit _)).bind fun _ => hno

theorem iterate {opener opener' : Text} (h : Text.Same opener opener') {body body' : Run Unit}
    (hbody : Twin (Session.Twins rows scan scan') body body') :
    Twin (Session.Twins rows scan scan') (Block.iterate opener body)
      (Block.iterate opener' body') := by
  unfold Block.iterate
  rw [← h.headerOf_eq]
  apply (ofExcept _).bind
  intro count
  exact (of_codeFree (.emit _)).bind fun _ =>
    (hbody.times count).bind fun _ => of_codeFree (.emit _)

/-- Trees of one shape run the same way. -/
theorem block (hcall : ∀ name, Twin (Session.Twins rows scan scan') (call name) (call' name))
    {b b' : Block} (h : Block.Like rows b b') (n : Nat) :
    Twin (Session.Twins rows scan scan') (b.run call n) (b'.run call' n) := by
  -- on the two trees at once; their parts are of one size, so what follows has the same number
  induction h generalizing n with
  | done => exact .pure ()
  | line htext _ ihrest => exact ((runLine hcall htext).atLine n).bind fun _ => ihrest _
  | func hopener hbody hsize _ ihrest =>
    unfold Block.run
    rw [← hsize]
    exact ((define hopener hbody (n + 1)).atLine n).bind fun _ => ihrest _
  | branch hopener hyes _ ihyes ihrest =>
    unfold Block.run
    rw [← hyes.size_eq]
    have hchoose := choose hopener (ihyes (n + 1)) (.pure ())
    exact (hchoose.atLine n).bind fun _ => ihrest _
  | @divided _ _ yes _ _ _ _ _ _ _ _ _ hopener hyes hno _ ihyes ihno ihrest =>
    unfold Block.run
    rw [← hyes.size_eq, ← hno.size_eq]
    have hchoose := choose hopener (ihyes (n + 1)) (ihno (n + yes.size + 2))
    exact (hchoose.atLine n).bind fun _ => ihrest _
  | loop hopener hbody _ ihbody ihrest =>
    unfold Block.run
    rw [← hbody.size_eq]
    have hiterate := iterate hopener (ihbody (n + 1))
    exact (hiterate.atLine n).bind fun _ => ihrest _
  | unclosed kind _ => exact (fail (.unclosedBlock kind)).atLine n

theorem runLines (hcut : CutAlike rows scan scan')
    (hcall : ∀ name, Twin (Session.Twins rows scan scan') (call name) (call' name))
    {lines lines' : List Text} (h : rows lines lines') (n : Nat) :
    Twin (Session.Twins rows scan scan') (Block.runLines call lines n)
      (Block.runLines call' lines' n) := by
  intro s t hst
  -- the one place where the modes are looked at
  have hscan' : t.options.scan = scan' := by
    rw [hst.code]
    rfl
  show ((ofLines t.options.scan lines').run call' n t).1 =
      ((ofLines s.options.scan lines).run call n s).1 ∧
    Session.Twins rows scan scan' ((ofLines s.options.scan lines).run call n s).2
      ((ofLines t.options.scan lines').run call' n t).2
  rw [hst.scan, hscan']
  exact block hcall (hcut h) n s t hst

theorem closing {m m' : Run Unit} (hm : Twin (Session.Twins rows scan scan') m m') :
    Twin (Session.Twins rows scan scan') (Run.closing m Session.leaveCall)
      (Run.closing m' Session.leaveCall) := by
  intro s t hst
  obtain ⟨hresult, hleft⟩ := hm s t hst
  refine ⟨hresult, hleft.scan, ?_, hleft.functions⟩
  show (m' t).2.leaveCall = _
  rw [hleft.code]
  rfl

theorem function_cases {s t : Session} (hst : Session.Twins rows scan scan' s t) (name : String) :
    (s.function name = .error (.undefinedFunction name) ∧
        t.function name = .error (.undefinedFunction name)) ∨
      ∃ f f', s.function name = .ok f ∧ t.function name = .ok f' ∧ Function.Like rows f f' := by
  have hstored := hst.functions name
  unfold Session.function
  cases hf : s.functions.get? name with
  | none =>
    rw [hf] at hstored
    rw [eq_none_of_rel_none hstored]
    exact .inl ⟨rfl, rfl⟩
  | some f =>
    rw [hf] at hstored
    obtain ⟨f', hf', hlike⟩ := exists_of_rel_some hstored
    rw [hf']
    exact .inr ⟨f, f', rfl, rfl, hlike⟩

theorem of_call (hcut : CutAlike rows scan scan') (room : Nat) (name : String) :
    Twin (Session.Twins rows scan scan') (Run.call room name) (Run.call room name) := by
  -- on the room: the calls in the body of a function have one less
  induction room generalizing name with
  | zero =>
    intro s t hst
    rcases function_cases hst name with ⟨hf, hf'⟩ | ⟨f, f', hf, hf', -⟩
    · rw [call_of_undefined hf, call_of_undefined hf']
      exact ⟨rfl, hst⟩
    · rw [call_without_room hf, call_without_room hf']
      exact ⟨rfl, hst⟩
  | succ room ih =>
    intro s t hst
    rcases function_cases hst name with ⟨hf, hf'⟩ | ⟨f, f', hf, hf', hlike⟩
    · rw [call_of_undefined hf, call_of_undefined hf']
      exact ⟨rfl, hst⟩
    · rw [call_with_room hf, call_with_room hf', ← hlike.firstLine]
      have hstarted : Session.Twins rows scan scan' (s.started name) (t.started name) := by
        refine ⟨hst.scan, ?_, hst.functions⟩
        rw [hst.code]
        rfl
      have hbody := closing (runLines hcut ih hlike.body f.firstLine)
      exact (hbody.bind fun _ => of_codeFree (.emit _)) _ _ hstarted

theorem lines (hcut : CutAlike rows scan scan') {lines lines' : List Text} (h : rows lines lines')
    (n : Nat) : Twin (Session.Twins rows scan scan') (Run.lines lines n) (Run.lines lines' n) := by
  intro s t hst
  -- as many calls may become active in the one session as in the other
  have hroom : t.room = s.room := by
    rw [hst.code]
    rfl
  show (Block.runLines (Run.call t.room) lines' n t).1 =
      (Block.runLines (Run.call s.room) lines n s).1 ∧
    Session.Twins rows scan scan' (Block.runLines (Run.call s.room) lines n s).2
      (Block.runLines (Run.call t.room) lines' n t).2
  rw [hroom]
  exact runLines hcut (of_call hcut s.room) h n s t hst

end Twin

end Run

end LineScript
