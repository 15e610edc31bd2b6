import LineScript.World.Draws

/-!
# Results and whether there are any

What is left of a computation once the fault it may end with is forgotten: two computations that
fail with different faults have the same `toOption`.
-/

namespace LineScript

section Except

variable {ε α β : Type}

theorem exists_of_map_ok {e : Except ε α} {f : α → β} {b : β} (h : e.map f = .ok b) :
    ∃ a, e = .ok a ∧ f a = b := by
  cases e with
  | ok a => exact ⟨a, rfl, Except.ok.inj h⟩
  | error e => cases h

theorem error_of_toOption {e : Except ε α} (h : e.toOption = none) : ∃ fault, e = .error fault := by
  cases e with
  | error fault => exact ⟨fault, rfl⟩
  | ok a => cases h

theorem ok_of_toOption {e : Except ε α} {a : α} (h : e.toOption = some a) : e = .ok a := by
  cases e with
  | error fault => cases h
  | ok b =>
    cases h
    rfl

theorem toOption_eq_some_iff {e : Except ε α} {a : α} : e.toOption = some a ↔ e = .ok a :=
  ⟨ok_of_toOption, congrArg Except.toOption⟩

end Except

section Drawn

variable {ε α β : Type} {draws : Draws}

namespace Drawn

/-! What a computation that has a value must have done. -/

variable {last : Draws} {a : α} {b : β} {e : ε}

theorem bind_eq_ok {m : Drawn ε α} {f : α → Drawn ε β} : (m >>= f) draws = .ok (b, last) ↔
    ∃ a next, m draws = .ok (a, next) ∧ f a next = .ok (b, last) := by
  show (m draws >>= fun result => f result.1 result.2) = _ ↔ _
  cases hm : m draws with
  | error fault => exact iff_of_false (fun h => nomatch h) fun ⟨_, _, h, _⟩ => nomatch h
  | ok result =>
    refine ⟨fun h => ⟨result.1, result.2, rfl, h⟩, ?_⟩
    rintro ⟨a, next, h, hf⟩
    cases h
    exact hf

theorem bind_eq_error {m : Drawn ε α} {f : α → Drawn ε β} : (m >>= f) draws = .error (e, last) ↔
    m draws = .error (e, last) ∨
      ∃ a next, m draws = .ok (a, next) ∧ f a next = .error (e, last) := by
  show (m draws >>= fun result => f result.1 result.2) = _ ↔ _
  cases hm : m draws with
  | error fault =>
    refine ⟨fun h => .inl ?_, ?_⟩
    · cases h
      rfl
    · rintro (h | ⟨a, next, h, -⟩) <;> cases h
      rfl
  | ok result =>
    refine ⟨fun h => .inr ⟨result.1, result.2, rfl, h⟩, ?_⟩
    rintro (h | ⟨a, next, h, hf⟩) <;> cases h
    exact hf

theorem pure_eq_ok {c : α} : (pure c : Drawn ε α) draws = .ok (a, last) ↔ a = c ∧ last = draws := by
  refine ⟨fun h => ?_, ?_⟩
  · cases h
    exact ⟨rfl, rfl⟩
  · rintro ⟨rfl, rfl⟩
    rfl

theorem lift_eq_ok {r : Except ε α} : (monadLift r : Drawn ε α) draws = .ok (a, last) ↔
    r = .ok a ∧ last = draws := by
  cases r with
  | error fault => exact iff_of_false (fun h => nomatch h) fun h => nomatch h.1
  | ok c =>
    refine pure_eq_ok.trans ⟨?_, ?_⟩
    · rintro ⟨rfl, rfl⟩
      exact ⟨rfl, rfl⟩
    · rintro ⟨h, rfl⟩
      exact ⟨(Except.ok.inj h).symm, rfl⟩

theorem fail_ne_ok : (fail e : Drawn ε α) draws ≠ .ok (a, last) := fun h => nomatch h

end Drawn

theorem toOption_bind (m : Drawn ε α) (f : α → Drawn ε β) (draws : Draws) :
    ((m >>= f) draws).toOption =
      (m draws).toOption.bind fun result => (f result.1 result.2).toOption := by
  show (m draws >>= fun result => f result.1 result.2).toOption = _
  cases m draws <;> rfl

theorem toOption_lift (r : Except ε α) (draws : Draws) :
    ((monadLift r : Drawn ε α) draws).toOption = r.toOption.map fun a => (a, draws) := by
  cases r <;> rfl

theorem toOption_bind_of_eq {m : Drawn ε α} {f : α → Drawn ε β} {a : Option α} {b : α → Option β} (hm : (m draws).toOption = a.map fun x => (x, draws))
    (hf : ∀ x, (f x draws).toOption = (b x).map fun y => (y, draws)) :
    ((m >>= f) draws).toOption = (a.bind b).map fun y => (y, draws) := by
  rw [toOption_bind, hm]
  cases a with
  | none => rfl
  | some x => exact hf x

end Drawn

end LineScript
