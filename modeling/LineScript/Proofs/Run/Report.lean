import LineScript.Proofs.Run.Moves

/-!
# The line that a statement puts out

A statement that succeeds puts out one line, whose first characters tell which kind of statement it was
(`Statement.heading`), and one that fails puts out nothing (`Statement.reports`).
-/

namespace LineScript

def Statement.heading : Statement → String
  | print _ => "📢 "
  | assign _ _ => "✅ Variable '"
  | input _ => "⌨️ Variable '"
  | calculate _ => "🧮 Result: "
  | save _ => "💾 Variables saved to "
  | load _ => "📂 Variables loaded from "
  | readJson _ _ => "📄 Content of '"
  | fetch _ _ => "🌐 GET request to `"
  | call _ => "➡️ Calling function '"

def Reports (heading : String) (s : Session) : Except Failure Unit × Session → Prop
  | (.ok _, t) => ∃ more, t.output = s.output.push (heading ++ more)
  | (.error _, t) => t.output = s.output

section Reports

variable {heading : String} {s : Session} {call : String → Run Unit}

theorem reports_show (f : Table Value → Drawn Error Value) :
    Reports heading s ((Run.evaluate f >>= fun v => Run.emit (heading ++ v.text)) s) := by
  cases hf : f s.vars s.world.draws with
  | ok result =>
    rw [Run.bind_of_ok (Run.evaluate_ok hf)]
    exact ⟨_, rfl⟩
  | error e =>
    rw [Run.bind_of_error (Run.evaluate_error hf)]
    rfl

theorem reports_assign (name : String) (e : Text) :
    Reports "✅ Variable '" s (Statement.run call (.assign name e) s) := by
  show Reports "✅ Variable '" s ((Run.evaluate (Expression.evaluate e) >>= _) s)
  cases he : Expression.evaluate e s.vars s.world.draws with
  | ok result =>
    rw [Run.bind_of_ok (Run.evaluate_ok he)]
    exact ⟨name ++ "' created/updated.", by rw [← String.append_assoc]; rfl⟩
  | error e' =>
    rw [Run.bind_of_error (Run.evaluate_error he)]
    rfl

theorem reports_input (name : String) :
    Reports "⌨️ Variable '" s (Statement.run call (.input name) s) := by
  have hnext : s.nextInput.2.output = s.output := by
    unfold Session.nextInput
    cases s.input[s.taken]? <;> rfl
  show ∃ more, s.nextInput.2.output.push _ = s.output.push ("⌨️ Variable '" ++ more)
  rw [hnext]
  exact ⟨name ++ ("' received input '" ++ (s.nextInput.1 ++ "'")), by
    simp only [← String.append_assoc]; rfl⟩

theorem reports_change {f : Session → Except Error Session}
    (h : ∀ t, f s = .ok t → ∃ more, t.output = s.output.push (heading ++ more)) :
    Reports heading s (Run.change f s) := by
  cases hf : f s with
  | ok t =>
    rw [Run.change_ok hf]
    exact h t hf
  | error e =>
    rw [Run.change_error hf]
    rfl

theorem reports_save (file : String) :
    Reports "💾 Variables saved to " s (Run.change (·.save file) s) := by
  apply reports_change
  intro t hs
  unfold Session.save at hs
  simp only at hs
  split at hs
  · cases hs
    exact ⟨_, rfl⟩
  · cases hs

theorem reports_load (file : String) :
    Reports "📂 Variables loaded from " s (Run.change (·.load file) s) := by
  apply reports_change
  intro t hs
  obtain ⟨members, -, rfl⟩ := exists_of_map_ok hs
  exact ⟨_, rfl⟩

theorem reports_readJson (source target : String) :
    Reports "📄 Content of '" s (Run.change (·.readJson source target) s) := by
  apply reports_change
  intro t hs
  obtain ⟨v, -, rfl⟩ := exists_of_map_ok hs
  exact ⟨source ++ ("' loaded as JSON into '" ++ (target ++ "'.")), by
    simp only [← String.append_assoc]; rfl⟩

theorem reports_fetch (url target : String) :
    Reports "🌐 GET request to `" s (s.fetch url target) := by
  cases hfetch : s.world.network.fetch s.options.seconds url with
  | mk result network =>
    cases result with
    | ok page =>
      rw [Session.fetch_of_page hfetch]
      exact ⟨url ++ ("` succeeded. Content saved in `" ++ (target ++ "`.")), by
        simp only [← String.append_assoc]; rfl⟩
    | error cause =>
      rw [Session.fetch_of_error hfetch]
      rfl

end Reports

/-- A statement that is no call puts out one line of its kind if it succeeds, and nothing if it
fails. -/
theorem Statement.reports {st : Statement} (hno : ∀ name, st ≠ .call name)
    (call : String → Run Unit) (s : Session) : Reports st.heading s (st.run call s) := by
  cases st with
  | print e => exact reports_show _
  | assign name e => exact reports_assign name e
  | input name => exact reports_input name
  | calculate e => exact reports_show _
  | save file => exact reports_save file
  | load file => exact reports_load file
  | readJson source target => exact reports_readJson source target
  | fetch url target => exact reports_fetch url target
  | call name => exact absurd rfl (hno name)

end LineScript
