import LineScript.Proofs.Json.Order
import LineScript.Proofs.Run.Frame
import Mathlib

/-!
# One statement: all of it or nothing

A statement that is no call either does all that it says or leaves the session as it was
(`statement_atomic`).  The one exception is a page that cannot be fetched: its target becomes null.
What a statement does is to put out one line and to change at most the variable that it names; a file
that is loaded sets the variables that are members of the object in it, and no others.
-/

namespace LineScript

/-! ## Tables -/

theorem Table.get?_insertAll {α : Type} {t : Table α} {es : Entries α} (hes : es.Ordered)
    (key : String) : (t.insertAll es).get? key = (es.get? key).or (t.get? key) := by
  induction es generalizing t with
  | nil => rfl
  | cons e es ih =>
    obtain ⟨hkeys, hes⟩ := List.pairwise_cons.mp hes
    show ((t.insert e.1 e.2).insertAll es).get? key = _
    rw [ih hes, Entries.get?]
    split
    · next heq =>
      -- no later entry has the key
      subst heq
      rw [Entries.get?_eq_none_of_lt hkeys, get?_insert_self]
      rfl
    · next hne => rw [get?_insert_of_ne (Ne.symm hne)]

/-! ## What a statement leaves -/

namespace Session

structure Untouched (s t : Session) : Prop where
  vars : t.vars = s.vars
  functions : t.functions = s.functions
  output : t.output = s.output
  taken : t.taken = s.taken
  calls : t.calls = s.calls

theorem Untouched.refl (s : Session) : s.Untouched s := ⟨rfl, rfl, rfl, rfl, rfl⟩

/-- The file of a name can be read, and all of it is an object with these members. -/
def FileHolds (s : Session) (name : String) (members : List (String × Json)) : Prop :=
  ∃ text, s.world.files.readText (s.options.resolve (Statement.fileName name)) = .ok text ∧
    Json.read text = .ok (.object members)

/-- The variables after a statement, as they come from those before it. -/
def Assigns (s : Session) (vars : Table Value) : Statement → Prop
  | .assign name _ | .input name | .readJson _ name | .fetch _ name =>
    ∃ v, vars = s.vars.insert name v
  | .load file => ∃ members, s.FileHolds file members ∧ ∀ name,
      vars.get? name = ((Entries.get? name members).map Value.ofJson).or (s.vars.get? name)
  | .print _ | .calculate _ | .save _ | .call _ => vars = s.vars

structure Obeyed (s : Session) (st : Statement) (t : Session) : Prop where
  output : ∃ line, t.output = s.output.push line
  functions : t.functions = s.functions
  calls : t.calls = s.calls
  taken : (∀ name, st ≠ .input name) → t.taken = s.taken
  vars : s.Assigns t.vars st

/-- What a statement that failed has done: nothing, but that the target of a page which could not be
fetched is null. -/
def Refused (s : Session) (st : Statement) (t : Session) : Prop :=
  match st with
  | .fetch url target =>
    (∃ cause, (s.world.network.fetch s.options.seconds url).1 = .error cause) ∧
      (s.set target .null).Untouched t
  | _ => s.Untouched t

/-- How a statement ends, with the session it leaves. -/
def Ends (s : Session) (st : Statement) : Except Failure Unit × Session → Prop
  | (.ok _, t) => s.Obeyed st t
  | (.error _, t) => s.Refused st t

section Ends

variable {s : Session} {st : Statement} {call : String → Run Unit}

theorem Untouched.refused {t : Session} (h : s.Untouched t)
    (hno : ∀ url target, st ≠ .fetch url target) : s.Refused st t := by
  unfold Refused
  split
  · exact absurd rfl (hno _ _)
  · exact h

theorem ends_change {f : Session → Except Error Session}
    (hno : ∀ url target, st ≠ .fetch url target) (h : ∀ t, f s = .ok t → s.Obeyed st t) :
    s.Ends st (Run.change f s) := by
  cases hf : f s with
  | ok t =>
    rw [Run.change_ok hf]
    exact h t hf
  | error e =>
    rw [Run.change_error hf]
    exact (Untouched.refl s).refused hno

theorem ends_evaluate {f : Table Value → Drawn Error Value}
    {next : Value → Run Unit} (hno : ∀ url target, st ≠ .fetch url target)
    (h : ∀ v draws, s.Ends st (next v (s.withDraws draws))) :
    s.Ends st ((Run.evaluate f >>= next) s) := by
  cases hf : f s.vars s.world.draws with
  | ok result =>
    rw [Run.bind_of_ok (Run.evaluate_ok hf)]
    exact h _ _
  | error e =>
    rw [Run.bind_of_error (Run.evaluate_error hf)]
    -- the draws are gone, and nothing else has happened
    have hsame : s.Untouched (s.withDraws e.2) := ⟨rfl, rfl, rfl, rfl, rfl⟩
    exact hsame.refused hno

theorem obeyed_takeInput (name : String) : s.Obeyed (.input name) (s.takeInput name) := by
  have hnext : s.nextInput.2.output = s.output ∧ s.nextInput.2.functions = s.functions ∧
      s.nextInput.2.calls = s.calls ∧ s.nextInput.2.vars = s.vars := by
    unfold nextInput
    cases s.input[s.taken]? <;> exact ⟨rfl, rfl, rfl, rfl⟩
  obtain ⟨houtput, hfunctions, hcalls, hvars⟩ := hnext
  refine ⟨⟨_, congrArg (Array.push · _) houtput⟩, hfunctions, hcalls,
    fun hno => absurd rfl (hno name), ⟨.string s.nextInput.1, ?_⟩⟩
  exact congrArg (Table.insert · name _) hvars

theorem obeyed_save {file : String} {t : Session} (h : s.save file = .ok t) :
    s.Obeyed (.save file) t := by
  unfold save at h
  simp only at h
  split at h
  · cases h
    exact ⟨⟨_, rfl⟩, rfl, rfl, fun _ => rfl, rfl⟩
  · cases h

theorem savedMembers_eq_ok_iff {file : String} {members : List (String × Json)} :
    s.savedMembers (Statement.fileName file) = .ok members ↔ s.FileHolds file members := by
  unfold savedMembers FileHolds
  generalize s.options.resolve (Statement.fileName file) = path
  simp only
  constructor
  · intro h
    split at h
    · cases h
    · split at h
      · cases h
      · next text htext =>
        refine ⟨text, htext, ?_⟩
        split at h
        · cases h
        · next hread =>
          cases h
          exact hread
        · cases h
  · rintro ⟨text, htext, hread⟩
    -- a file that can be read is there
    have hhas : s.world.files.has path = true := by
      unfold Files.readText Files.read at htext
      unfold Files.has
      cases hlocate : s.world.files.locate path with
      | error cause => rw [hlocate] at htext; cases htext
      | ok found =>
        rw [hlocate] at htext
        simp only [bind, Except.bind] at htext ⊢
        cases hnode : s.world.files.node? found with
        | none => rw [hnode] at htext; cases htext
        | some node => rfl
    rw [hhas, htext]
    simp only [Bool.not_true, Bool.false_eq_true, if_false, hread]

theorem obeyed_load {file : String} {t : Session} (h : s.load file = .ok t) :
    s.Obeyed (.load file) t := by
  obtain ⟨members, hmembers, rfl⟩ := exists_of_map_ok h
  have hholds := savedMembers_eq_ok_iff.mp hmembers
  refine ⟨⟨_, rfl⟩, rfl, rfl, fun _ => rfl, members, hholds, fun name => ?_⟩
  obtain ⟨text, -, hread⟩ := hholds
  have hordered : Entries.Ordered members := (Json.inOrder_of_read hread).1
  rw [← Value.get?_ofMembers]
  exact Table.get?_insertAll (Value.ordered_ofMembers hordered) name

theorem obeyed_readJson {source target : String} {t : Session}
    (h : s.readJson source target = .ok t) : s.Obeyed (.readJson source target) t := by
  obtain ⟨v, -, rfl⟩ := exists_of_map_ok h
  exact ⟨⟨_, rfl⟩, rfl, rfl, fun _ => rfl, v, rfl⟩

theorem ends_fetch (url target : String) : s.Ends (.fetch url target) (s.fetch url target) := by
  cases hfetch : s.world.network.fetch s.options.seconds url with
  | mk result network =>
    cases result with
    | ok page =>
      rw [fetch_of_page hfetch]
      exact ⟨⟨_, rfl⟩, rfl, rfl, fun _ => rfl, .string page, rfl⟩
    | error cause =>
      rw [fetch_of_error hfetch]
      exact ⟨⟨cause, congrArg Prod.fst hfetch⟩, rfl, rfl, rfl, rfl, rfl⟩

end Ends

end Session

/-- Every statement but a call is obeyed or refused. -/
theorem Statement.ends {st : Statement} (hno : ∀ name, st ≠ .call name) (call : String → Run Unit)
    (s : Session) : s.Ends st (st.run call s) := by
  cases st with
  | print e =>
    exact Session.ends_evaluate nofun fun _ _ => ⟨⟨_, rfl⟩, rfl, rfl, fun _ => rfl, rfl⟩
  | assign name e =>
    exact Session.ends_evaluate nofun fun v _ => ⟨⟨_, rfl⟩, rfl, rfl, fun _ => rfl, v, rfl⟩
  | input name => exact Session.obeyed_takeInput name
  | calculate e =>
    exact Session.ends_evaluate nofun fun _ _ => ⟨⟨_, rfl⟩, rfl, rfl, fun _ => rfl, rfl⟩
  | save file => exact Session.ends_change nofun fun _ h => Session.obeyed_save h
  | load file => exact Session.ends_change nofun fun _ h => Session.obeyed_load h
  | readJson source target => exact Session.ends_change nofun fun _ h => Session.obeyed_readJson h
  | fetch url target => exact Session.ends_fetch url target
  | call name => exact absurd rfl (hno name)

/-! ## Lines -/

namespace Statement

def verb : Statement → String
  | print _ => "linex"
  | assign _ _ => "var"
  | input _ => "input"
  | calculate _ => "calc"
  | save _ => "save"
  | load _ => "load"
  | readJson _ _ => "json"
  | fetch _ _ => "http"
  | call _ => "call"

section Verbs

variable {arguments : Text} {st : Statement}

theorem verb_of_readPrint (h : readPrint arguments = .ok st) : st.verb = "linex" := by
  unfold readPrint at h
  simp only at h
  split at h
  · cases h
  · split at h
    · cases h
    · cases h
      rfl

theorem verb_of_readAssign (h : readAssign arguments = .ok st) : st.verb = "var" := by
  unfold readAssign at h
  simp only at h
  split at h
  · obtain ⟨e, -, rfl⟩ := exists_of_map_ok h
    rfl
  · cases h

theorem verb_of_readWhole {form : Form} {statement : Text → Statement} {word : String}
    (hword : ∀ t, (statement t).verb = word) (h : readWhole form statement arguments = .ok st) :
    st.verb = word := by
  unfold readWhole at h
  split at h
  · cases h
  · cases h
    exact hword _

theorem verb_of_readFile {form : Form} {statement : String → Statement} {word : String}
    (hword : ∀ name, (statement name).verb = word)
    (h : readFile form statement arguments = .ok st) : st.verb = word := by
  unfold readFile at h
  split at h
  · cases h
    exact hword _
  · cases h

theorem verb_of_readJsonLoad (h : readJsonLoad arguments = .ok st) : st.verb = "json" := by
  unfold readJsonLoad at h
  split at h
  · split at h
    · cases h
      rfl
    · cases h
  · cases h

theorem verb_of_readFetch (h : readFetch arguments = .ok st) : st.verb = "http" := by
  unfold readFetch at h
  simp only at h
  split at h
  · cases h
    rfl
  · cases h

end Verbs

theorem verb_of_mem_verbs {entry : String × (Text → Reading Statement)} (hentry : entry ∈ verbs)
    {arguments : Text} {st : Statement} (h : entry.2 arguments = .ok st) : st.verb = entry.1 := by
  simp only [verbs, List.mem_cons, List.not_mem_nil, or_false] at hentry
  -- the verbs in the order of their table
  rcases hentry with rfl | rfl | rfl | rfl | rfl | rfl | rfl | rfl | rfl
  · exact verb_of_readPrint h
  · exact verb_of_readAssign h
  · have h : readWhole .input (fun t => input (String.ofList t)) arguments = .ok st := h
    exact verb_of_readWhole (fun _ => rfl) h
  · exact verb_of_readWhole (fun _ => rfl) h
  · exact verb_of_readFile (fun _ => rfl) h
  · exact verb_of_readFile (fun _ => rfl) h
  · exact verb_of_readJsonLoad h
  · exact verb_of_readFetch h
  · have h : readWhole .call (fun t => call (String.ofList t)) arguments = .ok st := h
    exact verb_of_readWhole (fun _ => rfl) h

theorem verb_of_read {line : Text} {st : Statement} (h : read line = .ok st) :
    String.ofList (Text.lower (Text.splitWord line).1) = st.verb := by
  unfold read at h
  simp only at h
  split at h
  · next reader hlookup =>
    obtain ⟨before, after, hverbs, -⟩ := List.lookup_eq_some_iff.mp hlookup
    have hentry : (String.ofList (Text.lower (Text.splitWord line).1), reader) ∈ verbs := by
      rw [hverbs]
      exact List.mem_append_right _ List.mem_cons_self
    exact (verb_of_mem_verbs hentry h).symm
  · cases h

theorem ne_call_of_read {line : Text} {st : Statement} (h : read line = .ok st)
    (hfirst : Text.sameWord (Text.splitWord line).1 "call".toList = false) (name : String) :
    st ≠ .call name := by
  rintro rfl
  have hverb : String.ofList (Text.lower (Text.splitWord line).1) = "call" := verb_of_read h
  have hword : Text.lower (Text.splitWord line).1 = "call".toList := by
    rw [← hverb, String.toList_ofList]
  have hsame : Text.sameWord (Text.splitWord line).1 "call".toList = true := by
    unfold Text.sameWord
    rw [hword]
    decide
  rw [hfirst] at hsame
  cases hsame

end Statement

theorem Session.load_eq_ok_iff {s : Session} {file : String} :
    (∃ t, s.load file = .ok t) ↔ ∃ members, s.FileHolds file members := by
  constructor
  · rintro ⟨t, h⟩
    obtain ⟨members, hmembers, -⟩ := exists_of_map_ok h
    exact ⟨members, savedMembers_eq_ok_iff.mp hmembers⟩
  · rintro ⟨members, hholds⟩
    have hload : s.load file = (s.savedMembers (Statement.fileName file)).map fun members =>
        (s.setAll (Value.ofMembers members)).emit
          s!"📂 Variables loaded from {Statement.fileName file}" := rfl
    rw [savedMembers_eq_ok_iff.mpr hholds] at hload
    exact ⟨_, hload⟩

/-- A line whose first word is not `call` does what its statement says if it succeeds, and nothing if
it fails, but for the target of a page that could not be fetched.  A file is loaded exactly if it can
be read and is an object throughout, and otherwise no variable is set. -/
theorem Session.statement_atomic {line : Text}
    (hfirst : Text.sameWord (Text.splitWord line).1 "call".toList = false) (s : Session) :
    (match Statement.read line, Run.statement line s with
      | .ok st, (.ok _, t) => s.Obeyed st t
      | .ok st, (.error _, t) => s.Refused st t
      | .error _, (.ok _, _) => False
      | .error _, (.error _, t) => s.Untouched t) ∧
      ∀ file, Statement.read line = .ok (.load file) →
        ((Run.statement line s).1 = .ok () ↔ ∃ members, s.FileHolds file members) ∧
          ((∀ members, ¬ s.FileHolds file members) → s.Untouched (Run.statement line s).2) := by
  cases hread : Statement.read line with
  | error e =>
    rw [Run.statement_of_error hread]
    exact ⟨.refl s, nofun⟩
  | ok st =>
    -- how a statement ends says what it has done, success or not; loading asks for more
    have hends := Statement.ends (Statement.ne_call_of_read hread hfirst) (Run.call s.room) s
    rw [Run.statement_of_ok hread]
    refine ⟨?_, ?_⟩
    · generalize st.run (Run.call s.room) s = outcome at hends
      obtain ⟨result, t⟩ := outcome
      cases result with
      | ok a => exact hends
      | error f => exact hends
    · rintro file hload
      cases hload
      show ((Run.change (·.load file) s).1 = .ok () ↔ _) ∧
        (_ → s.Untouched (Run.change (·.load file) s).2)
      rw [← load_eq_ok_iff]
      cases hs : s.load file with
      | ok t =>
        rw [Run.change_ok hs]
        obtain ⟨members, hholds⟩ := load_eq_ok_iff.mp ⟨t, hs⟩
        exact ⟨⟨fun _ => ⟨t, rfl⟩, fun _ => rfl⟩, fun hnone => absurd hholds (hnone members)⟩
      | error e =>
        rw [Run.change_error hs]
        exact ⟨⟨nofun, nofun⟩, fun _ => .refl s⟩

/-- A session with a variable, next to a file that holds a list. -/
def Session.besideList : Session :=
  { Session.start .standard []
      ⟨⟨[], [(["s.json"], .file "[1, 2]".toUTF8)]⟩, .silent, .ofSeed 0⟩ with
    vars := (∅ : Table Value).insert "n" (.integer 7) }

/-- A list is no object, so that nothing is loaded from it. -/
theorem Session.list_not_loaded :
    Text.sameWord (Text.splitWord "load \"s\"".toList).1 "call".toList = false ∧
      besideList.Untouched (Run.statement "load \"s\"".toList besideList).2 := by
  have hfirst : Text.sameWord (Text.splitWord "load \"s\"".toList).1 "call".toList = false := by
    decide
  have hread : Statement.read "load \"s\"".toList = .ok (.load "s") := rfl
  refine ⟨hfirst, ((statement_atomic hfirst besideList).2 "s" hread).2 ?_⟩
  rintro members ⟨text, htext, hmembers⟩
  have hlist : besideList.world.files.readText
      (besideList.options.resolve (Statement.fileName "s")) = .ok "[1, 2]" := by cbv
  rw [hlist] at htext
  cases htext
  have hvalue : Json.read "[1, 2]" = .ok (.array [.integer 1, .integer 2]) := rfl
  rw [hvalue] at hmembers
  cases hmembers

end LineScript
