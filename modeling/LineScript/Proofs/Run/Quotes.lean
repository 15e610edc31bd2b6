import LineScript.Proofs.Run.Moves
import LineScript.Proofs.Run.Wording
import LineScript.Proofs.Text.OneLine

/-!
# What errors quote

An error quotes nothing but parts of the line that fails (`Point.oneLine_of_fails`): the parts are
cut from the line when it is read, and no value of a variable, no input and no content of a file
gets into an error.  A line has no line feed, so neither has what is quoted.
-/

namespace LineScript

open Block

/-! ## Reading a line -/

/-- A result satisfies a condition, or it is an error that quotes one line. -/
def GivesOneLine {α : Type} (P : α → Prop) : Except Error α → Prop
  | .ok a => P a
  | .error e => e.OneLine

theorem GivesOneLine.error {α : Type} {P : α → Prop} {r : Except Error α} {e : Error}
    (h : GivesOneLine P r) (hr : r = .error e) : e.OneLine := by
  rw [hr] at h
  exact h

theorem GivesOneLine.map {α β : Type} {P : α → Prop} {Q : β → Prop} {f : α → β}
    {r : Except Error α} (h : GivesOneLine P r) (hf : ∀ a, P a → Q (f a)) :
    GivesOneLine Q (r.map f) := by
  cases r with
  | ok a => exact hf a h
  | error e => exact h

theorem oneLine_of_quote {e : Error} {quote : String} (he : e.quotes = [quote])
    (h : OneLine quote) : e.OneLine := by
  intro q hq
  rw [he, List.mem_singleton] at hq
  rw [hq]
  exact h

theorem oneLine_of_no_quote {e : Error} (he : e.quotes = []) : e.OneLine := by
  intro q hq
  rw [he] at hq
  cases hq

namespace Statement

def quotable : Statement → List Text
  | print e | assign _ e | calculate e => [e]
  | load file => [file.toList]
  | readJson source _ => [source.toList]
  | fetch url _ => [url.toList]
  | call name => [name.toList]
  | input _ | save _ => []

def OneLine (st : Statement) : Prop := ∀ part ∈ st.quotable, '\n' ∉ part

theorem oneLine_of_part {st : Statement} {part : Text} (hst : st.quotable = [part])
    (h : '\n' ∉ part) : st.OneLine := by
  intro q hq
  rw [hst, List.mem_singleton] at hq
  rw [hq]
  exact h

variable {arguments line : Text}

theorem gives_misuse {α : Type} (P : α → Prop) (form : Form) : GivesOneLine P (misuse form) :=
  oneLine_of_no_quote rfl

theorem gives_readPrint (h : '\n' ∉ arguments) : GivesOneLine OneLine (readPrint arguments) := by
  unfold readPrint
  simp only
  split
  · have hword : '\n' ∉ (Text.splitWord arguments).1 :=
      fun hc => h (Text.splitWord_fst_subset arguments hc)
    exact oneLine_of_quote rfl (oneLine_ofList hword)
  · split
    · exact gives_misuse _ _
    · have hexpression : '\n' ∉ (Text.splitWord arguments).2 :=
        fun hc => h (Text.splitWord_snd_subset arguments hc)
      exact oneLine_of_part rfl hexpression

theorem gives_assigned {expression : Text} (h : '\n' ∉ expression) :
    GivesOneLine ('\n' ∉ ·) (assigned expression) := by
  unfold assigned
  simp only
  split
  · exact h
  · split
    · exact gives_misuse _ _
    · exact fun hc => h (Text.splitWord_snd_subset expression hc)

theorem gives_readAssign (h : '\n' ∉ arguments) : GivesOneLine OneLine (readAssign arguments) := by
  unfold readAssign
  simp only
  split
  · next expression _ htail =>
    have hexpression : '\n' ∉ expression := by
      intro hc
      have htrim : '\n' ∈ Text.trimStart (arguments.dropWhile Text.isWordChar) := by
        rw [htail]
        exact List.mem_cons_of_mem _ hc
      exact h ((List.dropWhile_suffix _).subset (Text.trimStart_subset _ htrim))
    exact (gives_assigned hexpression).map fun e he => oneLine_of_part rfl he
  · exact gives_misuse _ _

theorem gives_readWhole {form : Form} {statement : Text → Statement}
    (hstatement : ∀ t, '\n' ∉ t → (statement t).OneLine) (h : '\n' ∉ arguments) :
    GivesOneLine OneLine (readWhole form statement arguments) := by
  unfold readWhole
  split
  · exact gives_misuse _ _
  · exact hstatement arguments h

theorem oneLine_of_quoted? {name : String} (h : '\n' ∉ arguments)
    (hname : quoted? arguments = some name) : LineScript.OneLine name := by
  unfold quoted? at hname
  split at hname
  · next rest =>
    obtain ⟨⟨inner, after⟩, hsplit, rfl⟩ := Option.map_eq_some_iff.mp hname
    refine oneLine_ofList fun hc => h (List.mem_cons_of_mem _ ?_)
    exact (Text.subset_of_splitLast hsplit).1 hc
  · cases hname

theorem gives_readFile {form : Form} {statement : String → Statement}
    (hstatement : ∀ s, LineScript.OneLine s → (statement s).OneLine) (h : '\n' ∉ arguments) :
    GivesOneLine OneLine (readFile form statement arguments) := by
  unfold readFile
  split
  · next name hname => exact hstatement name (oneLine_of_quoted? h hname)
  · exact gives_misuse _ _

theorem gives_readJsonLoad (h : '\n' ∉ arguments) :
    GivesOneLine OneLine (readJsonLoad arguments) := by
  unfold readJsonLoad
  split
  · next word source link target hwords =>
    split
    · have hmem : source ∈ Text.words arguments := by
        rw [hwords]
        exact List.mem_cons_of_mem _ List.mem_cons_self
      have hsource : '\n' ∉ source := fun hc => h (Text.subset_of_mem_words hmem hc)
      exact oneLine_of_part rfl (oneLine_ofList hsource)
    · exact gives_misuse _ _
  · exact gives_misuse _ _

theorem gives_readFetch (h : '\n' ∉ arguments) : GivesOneLine OneLine (readFetch arguments) := by
  unfold readFetch
  simp only
  split
  · next url target _ hparts =>
    split at hparts
    · next rest hrest =>
      have hbehind : '\n' ∉ rest := by
        intro hc
        have hmem : '\n' ∈ (Text.splitWord arguments).2 := by
          rw [hrest]
          exact List.mem_cons_of_mem _ hc
        exact h (Text.splitWord_snd_subset arguments hmem)
      simp only [Option.bind_eq_bind, Option.bind_eq_some_iff] at hparts
      obtain ⟨⟨address, more⟩, hsplit, name, -, hpair⟩ := hparts
      cases hpair
      have haddress : '\n' ∉ address := fun hc => hbehind ((Text.subset_of_splitFirst hsplit).1 hc)
      exact oneLine_of_part rfl (oneLine_ofList haddress)
    · cases hparts
  · exact gives_misuse _ _

theorem gives_verb {verb : String × (Text → Reading Statement)} (hverb : verb ∈ verbs)
    (h : '\n' ∉ arguments) : GivesOneLine OneLine (verb.2 arguments) := by
  simp only [verbs, List.mem_cons, List.not_mem_nil, or_false] at hverb
  -- the verbs in the order of their table
  rcases hverb with rfl | rfl | rfl | rfl | rfl | rfl | rfl | rfl | rfl
  · exact gives_readPrint h
  · exact gives_readAssign h
  · have hinput : ∀ t : Text, '\n' ∉ t → (input (String.ofList t)).OneLine :=
      fun _ _ _ hpart => by cases hpart
    exact gives_readWhole hinput h
  · have hcalculate : ∀ t, '\n' ∉ t → (calculate t).OneLine := fun _ ht => oneLine_of_part rfl ht
    exact gives_readWhole hcalculate h
  · have hsave : ∀ s, LineScript.OneLine s → (save s).OneLine := fun _ _ _ hpart => by cases hpart
    exact gives_readFile hsave h
  · have hload : ∀ s, LineScript.OneLine s → (load s).OneLine := fun _ hs => oneLine_of_part rfl hs
    exact gives_readFile hload h
  · exact gives_readJsonLoad h
  · exact gives_readFetch h
  · have hcall : ∀ t : Text, '\n' ∉ t → (call (String.ofList t)).OneLine :=
      fun _ ht => oneLine_of_part rfl (oneLine_ofList ht)
    exact gives_readWhole hcall h

theorem gives_read (h : '\n' ∉ line) : GivesOneLine OneLine (read line) := by
  unfold read
  simp only
  have harguments : '\n' ∉ (Text.splitWord line).2 :=
    fun hc => h (Text.splitWord_snd_subset line hc)
  split
  · next reader hlookup =>
    obtain ⟨before, after, hverbs, -⟩ := List.lookup_eq_some_iff.mp hlookup
    have hverb : (String.ofList (Text.lower (Text.splitWord line).1), reader) ∈ verbs := by
      rw [hverbs]
      exact List.mem_append_right _ List.mem_cons_self
    exact gives_verb hverb harguments
  -- a verb that is not known is quoted
  · have hword : '\n' ∉ (Text.splitWord line).1 := fun hc => h (Text.splitWord_fst_subset line hc)
    exact oneLine_of_quote rfl (oneLine_ofList hword)

end Statement

/-! ## Doing what a line says -/

namespace Expression

variable {t : Text} {vars : Table Value} {draws last : Draws} {e : Error}

theorem oneLine_of_arithmetic (h : '\n' ∉ t) (he : arithmetic vars t draws = .error (e, last)) :
    e.OneLine := by
  unfold arithmetic at he
  split at he
  · cases he
  · cases he
    exact oneLine_of_quote rfl (oneLine_ofList h)

theorem oneLine_of_joinAfter {pieces : List String} {joined : String}
    (he : joinAfter joined pieces = .error e) : e.OneLine := by
  induction pieces generalizing joined with
  | nil => cases he
  | cons piece pieces ih =>
    rw [joinAfter] at he
    split at he
    · cases he
      exact oneLine_of_no_quote rfl
    · exact ih he

theorem oneLine_of_evaluate (h : '\n' ∉ t) (he : evaluate t vars draws = .error (e, last)) :
    e.OneLine := by
  -- what has no value is quoted as it is written, without its outer blanks
  have htrim : '\n' ∉ Text.trim t := fun hc => h (Text.trim_subset t hc)
  unfold evaluate at he
  cases hsimple : simple? vars (Text.trim t) with
  | some w =>
    rw [hsimple] at he
    cases he
  | none =>
    rw [hsimple] at he
    match hpieces : summands false (Text.trim t) with
    | [] => rw [hpieces] at he; exact oneLine_of_arithmetic htrim he
    | [piece] => rw [hpieces] at he; exact oneLine_of_arithmetic htrim he
    | piece :: next :: more =>
      rw [hpieces] at he
      cases hjoined : joinAfter "" ((piece :: next :: more).filterMap (pieceText? vars)) with
      | error e' =>
        simp only [hjoined] at he
        cases he
        exact oneLine_of_joinAfter hjoined
      | ok joined =>
        simp only [hjoined] at he
        cases he

end Expression

namespace Condition

variable {t : Text} {vars : Table Value} {draws last : Draws} {e : Error}

theorem oneLine_of_compare {left right : Value} {op : Comparison}
    (he : (liftM (compare left op right) : Expression.Drawing Bool) draws = .error (e, last)) :
    e.OneLine := by
  unfold compare at he
  cases hholds : left.compare? op right with
  | some holds =>
    rw [hholds] at he
    cases he
  | none =>
    rw [hholds] at he
    cases he
    exact oneLine_of_no_quote rfl

theorem oneLine_of_evaluate (h : '\n' ∉ t) (he : evaluate t vars draws = .error (e, last)) :
    e.OneLine := by
  -- both sides are made of characters of the condition and of blanks
  have hpadded : '\n' ∉ padded false false t := by
    intro hc
    rcases mem_of_mem_padded hc with hc | hc
    · exact absurd hc (by decide)
    · exact h hc
  unfold evaluate at he
  cases hsplit : split false true (padded false false t) with
  | some parts =>
    obtain ⟨left, op, right⟩ := parts
    rw [hsplit] at he
    obtain ⟨hleft, hright⟩ := subset_of_split hsplit
    rcases Drawn.bind_eq_error.mp he with hfirst | ⟨v, draws', -, he⟩
    · exact Expression.oneLine_of_evaluate (fun hc => hpadded (hleft hc)) hfirst
    · rcases Drawn.bind_eq_error.mp he with hsecond | ⟨w, draws'', -, he⟩
      · exact Expression.oneLine_of_evaluate (fun hc => hpadded (hright hc)) hsecond
      · exact oneLine_of_compare he
  | none =>
    rw [hsplit] at he
    rcases Drawn.bind_eq_error.mp he with hvalue | ⟨v, draws', -, he⟩
    · exact Expression.oneLine_of_evaluate hpadded hvalue
    · cases he

end Condition

/-! ## Headers -/

namespace Block

variable {header : Text}

theorem gives_funcName (header : Text) : GivesOneLine (fun _ => True) (funcName header) := by
  unfold funcName
  split
  · split
    · trivial
    · exact oneLine_of_no_quote rfl
  · exact oneLine_of_no_quote rfl

theorem gives_condition (h : '\n' ∉ header) : GivesOneLine ('\n' ∉ ·) (condition header) := by
  unfold condition
  split
  · next before last hsplit =>
    split
    · exact fun hc => h ((Text.subset_of_splitLast hsplit).1 (Text.trim_subset _ hc))
    · exact oneLine_of_no_quote rfl
  · exact oneLine_of_no_quote rfl

theorem gives_count (h : '\n' ∉ header) : GivesOneLine (fun _ => True) (count header) := by
  unfold count
  split
  · next digits last hwords =>
    split
    · simp only
      split
      · trivial
      · have hmem : digits ∈ Text.words header := by
          rw [hwords]
          exact List.mem_cons_self
        have hdigits : '\n' ∉ digits := fun hc => h (Text.subset_of_mem_words hmem hc)
        exact oneLine_of_quote rfl (oneLine_ofList hdigits)
    · exact oneLine_of_no_quote rfl
  · exact oneLine_of_no_quote rfl

end Block

theorem Session.oneLine_of_decision {s t : Session} {opener : Text} {e : Error}
    (h : '\n' ∉ opener) (he : s.decision opener = .error (e, t)) : e.OneLine := by
  have hheader : '\n' ∉ headerOf opener := fun hc => h (Text.splitWord_snd_subset opener hc)
  have hgives := gives_condition hheader
  unfold Session.decision at he
  cases hcondition : condition (headerOf opener) with
  | error e' =>
    rw [hcondition] at he
    cases he
    exact hgives.error hcondition
  | ok text =>
    rw [hcondition] at he hgives
    cases hholds : Condition.evaluate text s.vars s.world.draws with
    | error e' =>
      simp only [hholds] at he
      cases he
      exact Condition.oneLine_of_evaluate hgives hholds
    | ok result =>
      simp only [hholds] at he
      cases he

/-! ## Statements -/

namespace Session

variable {s : Session} {name source target : String} {e : Error}

theorem oneLine_of_save (he : s.save name = .error e) : e.OneLine := by
  unfold save at he
  simp only at he
  split at he
  · cases he
  · cases he
    exact oneLine_of_no_quote rfl

theorem oneLine_of_load (h : OneLine name) (he : s.load name = .error e) : e.OneLine := by
  -- the name of the file is quoted, whatever is wrong with what it holds
  have hfile : OneLine (Statement.fileName name) := h.append (by decide)
  have hmembers : ∀ {e}, s.savedMembers (Statement.fileName name) = .error e → e.OneLine := by
    intro e he
    unfold savedMembers at he
    simp only at he
    split at he
    · cases he
      exact oneLine_of_quote rfl hfile
    · split at he
      · cases he
        exact oneLine_of_no_quote rfl
      · split at he
        · cases he
          exact oneLine_of_quote rfl hfile
        · cases he
        · cases he
          exact oneLine_of_quote rfl hfile
  unfold load at he
  simp only at he
  cases hsaved : s.savedMembers (Statement.fileName name) with
  | error e' =>
    rw [hsaved] at he
    cases he
    exact hmembers hsaved
  | ok members =>
    rw [hsaved] at he
    cases he

theorem oneLine_of_readJson (h : OneLine source) (he : s.readJson source target = .error e) :
    e.OneLine := by
  -- whatever is wrong with the text, the error quotes the name of the variable only
  have hvalue : ∀ {e}, s.jsonValue source = .error e → e.OneLine := by
    intro e he
    unfold jsonValue at he
    split at he
    · cases he
      exact oneLine_of_quote rfl h
    · next text _ =>
      cases hread : Value.read text with
      | error cause =>
        rw [hread] at he
        cases he
        exact oneLine_of_quote rfl h
      | ok v =>
        rw [hread] at he
        cases he
    · cases he
      exact oneLine_of_quote rfl h
  unfold readJson at he
  cases hjson : s.jsonValue source with
  | error e' =>
    rw [hjson] at he
    cases he
    exact hvalue hjson
  | ok v =>
    rw [hjson] at he
    cases he

end Session

namespace Statement

variable {s t : Session} {f : Failure} {call : String → Run Unit}

theorem oneLine_of_evaluated {α : Type} {g : Table Value → Drawn Error α}
    {k : α → Run Unit} (hg : ∀ {e draws}, g s.vars s.world.draws = .error (e, draws) → e.OneLine)
    (hk : ∀ a u, (k a u).1 = .ok ()) (hrun : (Run.evaluate g >>= k) s = (.error f, t)) :
    f.error.OneLine := by
  cases hvalue : g s.vars s.world.draws with
  | error e =>
    rw [Run.bind_of_error (Run.evaluate_error hvalue)] at hrun
    cases hrun
    exact hg hvalue
  | ok result =>
    rw [Run.bind_of_ok (Run.evaluate_ok hvalue)] at hrun
    have hok := hk result.1 (s.withDraws result.2)
    rw [hrun] at hok
    cases hok

theorem oneLine_of_change {g : Session → Except Error Session}
    (hg : ∀ {e}, g s = .error e → e.OneLine) (hrun : Run.change g s = (.error f, t)) :
    f.error.OneLine := by
  cases hs : g s with
  | error e =>
    rw [Run.change_error hs] at hrun
    cases hrun
    exact hg hs
  | ok u =>
    rw [Run.change_ok hs] at hrun
    cases hrun

theorem oneLine_of_run {st : Statement} (h : st.OneLine) (hno : ∀ name, st ≠ .call name)
    (hrun : st.run call s = (.error f, t)) : f.error.OneLine := by
  -- an error quotes the expression, the file, the variable or the address of the statement
  cases st with
  | print e =>
    have he : '\n' ∉ e := h e List.mem_cons_self
    exact oneLine_of_evaluated (Expression.oneLine_of_evaluate he) (fun _ _ => rfl) hrun
  | assign name e =>
    have he : '\n' ∉ e := h e List.mem_cons_self
    exact oneLine_of_evaluated (Expression.oneLine_of_evaluate he) (fun _ _ => rfl) hrun
  | input name => cases hrun
  | calculate e =>
    have he : '\n' ∉ e := h e List.mem_cons_self
    exact oneLine_of_evaluated (Expression.oneLine_of_evaluate he) (fun _ _ => rfl) hrun
  | save file => exact oneLine_of_change Session.oneLine_of_save hrun
  | load file =>
    exact oneLine_of_change (Session.oneLine_of_load (h file.toList List.mem_cons_self)) hrun
  | readJson source target =>
    exact oneLine_of_change (Session.oneLine_of_readJson (h source.toList List.mem_cons_self)) hrun
  | fetch url target =>
    change s.fetch url target = (.error f, t) at hrun
    cases hfetch : s.world.network.fetch s.options.seconds url with
    | mk result network =>
      cases result with
      | ok page =>
        rw [Session.fetch_of_page hfetch] at hrun
        cases hrun
      | error cause =>
        rw [Session.fetch_of_error hfetch] at hrun
        cases hrun
        exact oneLine_of_quote rfl (h url.toList List.mem_cons_self)
  | call name => exact absurd rfl (hno name)

end Statement

/-! ## Lines that fail -/

namespace Point

variable {p : Point} {rest : Block} {st : Statement} {e : Error} {t : Session}

theorem oneLine_of_obey (h : st.OneLine) (hobey : p.obey rest st = .fails e t) : e.OneLine := by
  rcases fails_of_obey hobey with ⟨name, rfl, -, hf | ⟨-, rfl⟩⟩ | ⟨f, hno, hrun, rfl⟩
  · unfold Session.function at hf
    split at hf
    · cases hf
    · cases hf
      exact oneLine_of_quote rfl (h name.toList List.mem_cons_self)
  · exact oneLine_of_no_quote rfl
  · exact Statement.oneLine_of_run h hno hrun

/-- The error of a line that fails quotes parts of this line. -/
theorem oneLine_of_fails (h : ∀ text ∈ p.block.lines.head?, '\n' ∉ text)
    (hstep : p.step = .fails e t) : e.OneLine := by
  cases stops_of_step hstep with
  | unread hline hread => exact (Statement.gives_read (h _ hline)).error hread
  | obeys hline hread hobey =>
    have hgives := Statement.gives_read (h _ hline)
    rw [hread] at hgives
    exact oneLine_of_obey hgives hobey
  | unnamed _ hname => exact (gives_funcName _).error hname
  | undecided hline hdecision => exact Session.oneLine_of_decision (h _ hline) hdecision
  | @uncounted text _ hline hcount =>
    have hheader : '\n' ∉ headerOf text :=
      fun hc => h text hline (Text.splitWord_snd_subset text hc)
    exact (gives_count hheader).error hcount
  | unclosed kind => exact oneLine_of_no_quote rfl

end Point

end LineScript
