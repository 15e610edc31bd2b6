import LineScript.Block.Run
import LineScript.Proofs.Except

/-!
# Steps, applied to a session

What the ways to build a step come to when the step is applied: a result and the session it leaves.
With these equations a run is taken apart without its monad.
-/

namespace LineScript

def Session.withFiles (s : Session) (files : Files) : Session :=
  { s with world := { s.world with files } }

def Session.setAll (s : Session) (vars : Entries Value) : Session :=
  { s with vars := s.vars.insertAll vars }

def Session.started (s : Session) (name : String) : Session :=
  s.enterCall.emit s!"➡️ Calling function '{name}'..."

def Session.finished (s : Session) (name : String) : Session :=
  s.leaveCall.emit s!"⬅️ Finished function '{name}'."

section Fetch

variable {s : Session} {url : String} {network : Network}

theorem Session.fetch_of_page {page : String}
    (h : s.world.network.fetch s.options.seconds url = (.ok page, network)) (target : String) :
    s.fetch url target = (.ok (), ((s.withNetwork network).set target (.string page)).emit
      s!"🌐 GET request to `{url}` succeeded. Content saved in `{target}`.") := by
  unfold fetch
  rw [h]

theorem Session.fetch_of_error {cause : FetchError}
    (h : s.world.network.fetch s.options.seconds url = (.error cause, network)) (target : String) :
    s.fetch url target =
      (.error (.of (.request url cause)), (s.withNetwork network).set target .null) := by
  unfold fetch
  rw [h]

end Fetch

namespace Run

variable {α β : Type}

theorem bind_of_ok {m : Run α} {f : α → Run β} {s t : Session} {a : α} (h : m s = (.ok a, t)) :
    (m >>= f) s = f a t := by
  show ExceptT.bindCont f (m s).1 (m s).2 = f a t
  rw [h]
  rfl

theorem bind_of_error {m : Run α} {f : α → Run β} {s t : Session} {e : Failure}
    (h : m s = (.error e, t)) : (m >>= f) s = (.error e, t) := by
  show ExceptT.bindCont f (m s).1 (m s).2 = (.error e, t)
  rw [h]
  rfl

@[simp] theorem ofExcept_ok (a : α) : ofExcept (.ok a) = pure a := rfl

@[simp] theorem ofExcept_error (e : Error) : (ofExcept (.error e) : Run α) = fail e := rfl

theorem get_bind (f : Session → Run β) (s : Session) : ((get : Run Session) >>= f) s = f s s := rfl

theorem pure_bind_apply (a : α) (f : α → Run β) (s : Session) :
    ((pure a : Run α) >>= f) s = f a s := rfl

theorem evaluate_ok {f : Table Value → Drawn Error α} {s : Session} {a : α}
    {draws : Draws} (h : f s.vars s.world.draws = .ok (a, draws)) :
    evaluate f s = (.ok a, s.withDraws draws) := by
  unfold evaluate
  rw [h]

theorem evaluate_error {f : Table Value → Drawn Error α} {s : Session} {e : Error} {draws : Draws}
    (h : f s.vars s.world.draws = .error (e, draws)) :
    evaluate f s = (.error (.of e), s.withDraws draws) := by
  unfold evaluate
  rw [h]

theorem change_ok {f : Session → Except Error Session} {s t : Session} (h : f s = .ok t) :
    change f s = (.ok (), t) := by
  show (ofExcept (f s) >>= _) s = _
  rw [h]
  rfl

theorem change_error {f : Session → Except Error Session} {s : Session} {e : Error}
    (h : f s = .error e) : change f s = (.error (.of e), s) := by
  show (ofExcept (f s) >>= _) s = _
  rw [h]
  rfl

theorem atLine_ok {n : Nat} {m : Run α} {s t : Session} {a : α} (h : m s = (.ok a, t)) :
    atLine n m s = (.ok a, t) := by
  unfold atLine
  rw [h]

theorem atLine_error {n : Nat} {m : Run α} {s t : Session} {e : Failure}
    (h : m s = (.error e, t)) : atLine n m s = (.error (e.atLine n), t) := by
  unfold atLine
  rw [h]

theorem bind_cases {m : Run α} {f : α → Run β} {s t : Session} {r : Except Failure β}
    (h : (m >>= f) s = (r, t)) :
    (∃ e, m s = (.error e, t) ∧ r = .error e) ∨ ∃ a u, m s = (.ok a, u) ∧ f a u = (r, t) := by
  cases hm : m s with
  | mk result u =>
    cases result with
    | ok a =>
      rw [bind_of_ok hm] at h
      exact .inr ⟨a, u, rfl, h⟩
    | error e =>
      rw [bind_of_error hm] at h
      cases h
      exact .inl ⟨e, rfl, rfl⟩

theorem atLine_bind_cases {n : Nat} {m next : Run Unit} {s t : Session} {r : Except Failure Unit}
    (h : (atLine n m >>= fun _ => next) s = (r, t)) :
    (∃ e, m s = (.error e, t) ∧ r = .error (e.atLine n)) ∨
      ∃ u, m s = (.ok (), u) ∧ next u = (r, t) := by
  cases hm : m s with
  | mk result u =>
    cases result with
    | ok a =>
      rw [bind_of_ok (atLine_ok hm)] at h
      exact .inr ⟨u, rfl, h⟩
    | error e =>
      rw [bind_of_error (atLine_error hm)] at h
      cases h
      exact .inl ⟨e, rfl, rfl⟩

@[simp] theorem atLine_snd (n : Nat) (m : Run α) (s : Session) : (atLine n m s).2 = (m s).2 := by
  unfold atLine
  split <;> simp [*]

@[simp] theorem closing_apply (m : Run α) (last : Session → Session) (s : Session) :
    closing m last s = ((m s).1, last (m s).2) := rfl

/-! ## Calls -/

theorem get?_of_function {s : Session} {name : String} {f : Function}
    (h : s.function name = .ok f) : s.functions.get? name = some f := by
  unfold Session.function at h
  split at h
  · next g hg =>
    cases h
    exact hg
  · cases h

theorem call_of_undefined {s : Session} {name : String} {e : Error}
    (h : s.function name = .error e) (room : Nat) : call room name s = (.error (.of e), s) := by
  cases room with
  | zero =>
    show (ofExcept (s.function name) >>= _) s = _
    rw [h]
    rfl
  | succ room =>
    show (ofExcept (s.function name) >>= _) s = _
    rw [h]
    rfl

theorem call_without_room {s : Session} {name : String} {f : Function}
    (h : s.function name = .ok f) : call 0 name s = (.error (.of .tooManyCalls), s) := by
  show (ofExcept (s.function name) >>= _) s = _
  rw [h]
  rfl

theorem call_with_room {s : Session} {name : String} {f : Function}
    (h : s.function name = .ok f) (room : Nat) :
    call (room + 1) name s =
      (closing (Block.runLines (call room) f.body f.firstLine) Session.leaveCall >>= fun _ =>
        emit s!"⬅️ Finished function '{name}'.") (s.started name) := by
  show (ofExcept (s.function name) >>= _) s = _
  rw [h]
  rfl

theorem times_succ (n : Nat) (m : Run Unit) : times (n + 1) m = m >>= fun _ => times n m := rfl

/-! ## Single lines -/

theorem statement_of_error {line : Text} {e : Error} (h : Statement.read line = .error e)
    (s : Session) : statement line s = (.error (.of e), s) := by
  unfold statement Statement.runLine
  rw [get_bind, h]
  rfl

theorem statement_of_ok {line : Text} {st : Statement} (h : Statement.read line = .ok st)
    (s : Session) : statement line s = st.run (call s.room) s := by
  unfold statement Statement.runLine
  rw [get_bind, h, ofExcept_ok, pure_bind_apply]

end Run

end LineScript
