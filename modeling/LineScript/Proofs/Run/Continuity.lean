import LineScript.Proofs.Block.Meaning

/-!
# What no run takes back

A run may set variables, store functions, take inputs and put out lines, but it never takes back what
was there: the session that it leaves continues the one it was started in (`Session.Continues`),
whether it succeeds or fails, and however deep in blocks and calls it fails.  In particular every call
that was entered has been left, so that the calls which are active are as many as before.
-/

namespace LineScript

/-- A session that comes after another one. -/
structure Session.Continues (s t : Session) : Prop where
  /-- The options are the same, and as many calls are active. -/
  depth : s.SameDepth t
  /-- The lines put out before are still there, in front of all others. -/
  output : s.output.toList <+: t.output.toList
  input : t.input = s.input
  /-- What has been taken of the input stays taken. -/
  taken : s.taken ≤ t.taken
  /-- No more is taken than there is. -/
  within : s.taken ≤ s.input.length → t.taken ≤ t.input.length
  vars : ∀ name, (s.vars.get? name).isSome = true → (t.vars.get? name).isSome = true
  functions : ∀ name, (s.functions.get? name).isSome = true → (t.functions.get? name).isSome = true

/-! ## Tables keep their keys -/

namespace Table

variable {α : Type} {t : Table α} {name : String}

theorem isSome_get?_insert (h : (t.get? name).isSome = true) (key : String) (value : α) :
    ((t.insert key value).get? name).isSome = true := by
  by_cases hkey : name = key
  · rw [hkey, get?_insert_self]
    rfl
  · rw [get?_insert_of_ne hkey]
    exact h

theorem isSome_get?_insertAll (h : (t.get? name).isSome = true) (entries : Entries α) :
    ((t.insertAll entries).get? name).isSome = true := by
  induction entries generalizing t with
  | nil => exact h
  | cons e entries ih =>
    show (((t.insert e.1 e.2).insertAll entries).get? name).isSome = true
    apply ih
    exact isSome_get?_insert h e.1 e.2

end Table

namespace Session

variable {s t u : Session}

namespace Continues

theorem refl (s : Session) : s.Continues s where
  depth := sameDepth_frame.refl s
  output := List.prefix_refl _
  input := rfl
  taken := Nat.le_refl _
  within h := h
  vars _ h := h
  functions _ h := h

theorem trans (h : s.Continues t) (h' : t.Continues u) : s.Continues u where
  depth := sameDepth_frame.trans h.depth h'.depth
  output := h.output.trans h'.output
  input := h'.input.trans h.input
  taken := Nat.le_trans h.taken h'.taken
  within hs := h'.within (h.within hs)
  vars name hs := h'.vars name (h.vars name hs)
  functions name hs := h'.functions name (h.functions name hs)

theorem emit (s : Session) (line : String) : s.Continues (s.emit line) where
  __ := refl s
  output := by
    show s.output.toList <+: (s.output.push line).toList
    rw [Array.toList_push]
    exact List.prefix_append _ _

theorem set (s : Session) (name : String) (v : Value) : s.Continues (s.set name v) where
  __ := refl s
  vars _ h := Table.isSome_get?_insert h name v

theorem setAll (s : Session) (vars : Entries Value) : s.Continues (s.setAll vars) where
  __ := refl s
  vars _ h := Table.isSome_get?_insertAll h vars

theorem define (s : Session) (name : String) (f : Function) : s.Continues (s.define name f) where
  __ := refl s
  functions _ h := Table.isSome_get?_insert h name f

theorem nextInput (s : Session) : s.Continues s.nextInput.2 := by
  unfold Session.nextInput
  split
  · next v hv =>
    have hlt : s.taken < s.input.length := (List.getElem?_eq_some_iff.mp hv).1
    exact { refl s with taken := Nat.le_succ _, within := fun _ => hlt }
  · exact refl s

theorem takeInput (s : Session) (name : String) : s.Continues (s.takeInput name) :=
  (nextInput s).trans ((emit _ _).trans (set _ _ _))

theorem call (h : s.enterCall.Continues t) : s.Continues t.leaveCall where
  depth := sameDepth_frame.call h.depth
  output := h.output
  input := h.input
  taken := h.taken
  within := h.within
  vars := h.vars
  functions := h.functions

end Continues

theorem continues_frame : BlockFrame Continues where
  refl := .refl
  trans := .trans
  emit := .emit
  draw s _ := { Continues.refl s with }
  request s _ := { Continues.refl s with }
  write s _ := { Continues.refl s with }
  takeInput := .takeInput
  assign _ name := .set _ name _
  load _ := .setAll _ _
  readJson _ target := .set _ target _
  page _ target _ := .set _ target _
  noPage _ target := .set _ target _
  define := .define
  call := .call

/-- However a row of lines or a single line ends, the session that it leaves continues the one it was
started in. -/
theorem continues_run (s : Session) :
    (∀ lines n, s.Continues (Run.lines lines n s).2) ∧
      ∀ line, s.Continues (Run.statement line s).2 :=
  ⟨fun lines n => continues_frame.keeps_lines lines n s,
    fun line => continues_frame.keeps_line line s⟩

end Session

end LineScript
