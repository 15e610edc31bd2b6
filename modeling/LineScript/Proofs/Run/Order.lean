import LineScript.Proofs.Arith.Scalar
import LineScript.Proofs.Expression.Origin
import LineScript.Proofs.Json.Order
import LineScript.Proofs.Run.Frame

/-!
# What the variables of a session hold

However a session came about, the objects that its variables hold, at all levels, have their fields
in the order of their keys (`InOrder.reachable`): expressions make no objects but pass on those of the
variables and what is inside them, and those that are read come in order.
-/

namespace LineScript

/-- The sessions that come about by executing rows of lines and single lines, whether these succeed or
fail. -/
inductive Session.Reachable (s : Session) : Session → Prop
  | start : Reachable s s
  | lines {t : Session} (h : Reachable s t) (lines : List Text) (n : Nat) :
      Reachable s (Run.lines lines n t).2
  | line {t : Session} (h : Reachable s t) (line : Text) : Reachable s (Run.statement line t).2

namespace Value

theorem each_of_scalar {v : Value} (h : v.Scalar) : v.Each InOrder := by
  cases v with
  | object fields => exact h.elim
  | _ => trivial

theorem each_of_get? {es : Entries Value} (hordered : es.Ordered) (hes : EachField InOrder es)
    {key : String} {v : Value} (h : es.get? key = some v) : v.Each InOrder :=
  eachField_iff.mp hes (key, v) (hordered.get?_eq_some_iff.mp h)

theorem each_field {v : Value} (h : v.Each InOrder) (key : String) : (v.field key).Each InOrder := by
  cases v with
  | object fields =>
    obtain ⟨hordered, hfields⟩ := h
    show ((Entries.get? key fields).getD null).Each InOrder
    cases hget : Entries.get? key fields with
    | none => trivial
    | some w => exact each_of_get? hordered hfields hget
  | _ => trivial

theorem each_follow {v : Value} (h : v.Each InOrder) (path : List String) :
    (v.follow path).Each InOrder := by
  induction path generalizing v with
  | nil => exact h
  | cons key path ih => exact ih (each_field h key)

end Value

def Session.InOrder (s : Session) : Prop := Value.EachField Value.InOrder s.vars.entries

namespace Expression

variable {vars : Table Value} {t : Text} {v : Value}

section InOrder

variable (hvars : Value.EachField Value.InOrder vars.entries)
include hvars

theorem each_of_simple? (h : simple? vars t = some v) : v.Each Value.InOrder := by
  rcases source_of_simple? h with hquoted | hnumber | hget | hdotted
  · obtain ⟨body, -, -, rfl⟩ := string_of_quoted? hquoted
    trivial
  · rcases number_of_number? hnumber with ⟨n, rfl⟩ | ⟨x, rfl⟩ <;> trivial
  · exact Value.each_of_get? vars.ordered hvars hget
  · obtain ⟨name, fields, path, hget, rfl⟩ := object_of_dotted? hdotted
    exact Value.each_follow (Value.each_of_get? vars.ordered hvars hget) path

theorem each_of_evaluate {draws draws' : Draws} (h : evaluate t vars draws = .ok (v, draws')) :
    v.Each Value.InOrder := by
  rcases source_of_evaluate h with hsimple | hvalue | ⟨texts, joined, -, rfl⟩
  · exact each_of_simple? hvars hsimple
  · exact Value.each_of_scalar (Arith.scalar_of_evaluate hvalue)
  · trivial

end InOrder

end Expression

namespace Session

theorem InOrder.set {s : Session} (h : s.InOrder) {v : Value} (hv : v.Each Value.InOrder)
    (name : String) : (s.set name v).InOrder := by
  refine Value.eachField_iff.mpr fun e he => ?_
  rcases Entries.mem_insert he with rfl | he
  · exact hv
  · exact Value.eachField_iff.mp h e he

theorem InOrder.setAll {s : Session} (h : s.InOrder) {vars : Entries Value}
    (hvars : Value.EachField Value.InOrder vars) : (s.setAll vars).InOrder := by
  have hinsert : ∀ (vars : Entries Value) (table : Table Value),
      Value.EachField Value.InOrder vars → Value.EachField Value.InOrder table.entries →
      Value.EachField Value.InOrder (table.insertAll vars).entries := by
    intro vars
    induction vars with
    | nil => exact fun _ _ htable => htable
    | cons e vars ih =>
      intro table hvars htable
      refine ih (table.insert e.1 e.2) hvars.2 (Value.eachField_iff.mpr fun d hd => ?_)
      rcases Entries.mem_insert hd with rfl | hd
      · exact hvars.1
      · exact Value.eachField_iff.mp htable d hd
  exact hinsert vars s.vars hvars h

theorem each_of_jsonValue {s : Session} {source : String} {v : Value}
    (h : s.jsonValue source = .ok v) : v.Each Value.InOrder := by
  unfold jsonValue at h
  split at h
  · cases h
  · next text _ =>
    unfold Value.read at h
    cases hread : Json.read text with
    | error cause => rw [hread] at h; cases h
    | ok j =>
      rw [hread] at h
      cases h
      exact Value.inOrder_ofJson j (Json.inOrder_of_read hread)
  · cases h

theorem each_of_savedMembers {s : Session} {file : String} {members : List (String × Json)}
    (h : s.savedMembers file = .ok members) :
    Value.EachField Value.InOrder (Value.ofMembers members) := by
  unfold savedMembers at h
  simp only at h
  split at h
  · cases h
  · split at h
    · cases h
    · split at h
      · cases h
      · next hread =>
        cases h
        exact Value.inOrder_ofMembers members (Json.inOrder_of_read hread).2
      · cases h

/-- Everything that a session does keeps the objects in order. -/
theorem inOrder_frame : BlockFrame fun s t => s.InOrder → t.InOrder where
  refl _ h := h
  trans h h' hs := h' (h hs)
  emit _ _ h := h
  draw _ _ h := h
  request _ _ h := h
  write _ _ h := h
  takeInput s name h := by
    unfold takeInput nextInput
    cases s.input[s.taken]? <;> exact InOrder.set h (v := .string _) trivial name
  assign hv name h := h.set (Expression.each_of_evaluate h hv) name
  load hm h := h.setAll (each_of_savedMembers hm)
  readJson hv target h := h.set (each_of_jsonValue hv) target
  page s target page h := InOrder.set h (v := .string page) trivial target
  noPage s target h := InOrder.set h (v := .null) trivial target
  define _ _ _ h := h
  call h hs := h hs

theorem InOrder.reachable {s t : Session} (h : s.InOrder) (hreach : s.Reachable t) : t.InOrder := by
  induction hreach with
  | start => exact h
  | lines _ lines n ih => exact inOrder_frame.keeps_lines lines n _ ih
  | line _ line ih => exact inOrder_frame.keeps_line line _ ih

end Session

end LineScript
