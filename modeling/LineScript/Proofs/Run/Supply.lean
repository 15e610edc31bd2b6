import LineScript.Proofs.Program.Annotations
import LineScript.Proofs.Run.Log
import LineScript.Proofs.Run.Order
import LineScript.Proofs.Run.Trace

/-!
# How inputs are supplied

The lines that report an input are counted in the output alone.  At every point of a run that
started afresh, as many inputs are taken as there are such lines, as long as there are inputs; and
each of these lines reports the input of its own number, or the placeholder behind the last one
(`Session.Supplied`).  Only an input statement takes an input, and no other step puts out such a
line.
-/

namespace LineScript

open Block

def inputMark : String := "⌨️"

def reportsInput (line : String) : Bool := inputMark.toList.isPrefixOf line.toList

def inputReport (name value : String) : String := s!"⌨️ Variable '{name}' received input '{value}'"

/-- What the input statement with the number `k` yields, counted from 0. -/
def supply (input : List String) (placeholder : String) (k : Nat) : String :=
  input[k]?.getD placeholder

theorem reportsInput_inputReport (name value : String) :
    reportsInput (inputReport name value) = true := by
  unfold reportsInput
  rw [List.isPrefixOf_iff_prefix]
  refine ⟨(" Variable '" ++ (name ++ ("' received input '" ++ (value ++ "'")))).toList, ?_⟩
  rw [← String.toList_append]
  congr 1
  unfold inputMark inputReport
  simp only [← String.append_assoc]
  rfl

theorem not_reportsInput {heading : String} (h : Marker.Apart inputMark heading) (more : String) :
    reportsInput (heading ++ more) = false := by
  rw [← Bool.not_eq_true]
  intro hreports
  unfold reportsInput at hreports
  rw [List.isPrefixOf_iff_prefix] at hreports
  obtain ⟨rest, hrest⟩ := hreports
  apply h.ne more (String.ofList rest)
  apply String.ext
  rw [String.toList_append (s := inputMark), String.toList_ofList]
  exact hrest.symm

namespace Session

def inputReports (s : Session) : List String := s.output.toList.filter reportsInput

/-- As many inputs are taken as are reported, as long as there are inputs, and each report is of the
input of its own number, or of the placeholder. -/
structure Supplied (choices : Options) (values : List String) (s : Session) : Prop where
  options : s.options = choices
  input : s.input = values
  taken : s.taken = min s.inputReports.length values.length
  reports : ∀ k line, s.inputReports[k]? = some line →
    ∃ name, line = inputReport name (supply values choices.placeholder k)

structure SameSupply (s t : Session) : Prop where
  options : t.options = s.options
  input : t.input = s.input
  taken : t.taken = s.taken
  reports : t.inputReports = s.inputReports

structure Takes (s t : Session) : Prop where
  options : t.options = s.options
  input : t.input = s.input
  reported : ∃ lines, t.inputReports = s.inputReports ++ lines ∧ s.taken ≤ t.taken ∧
    t.taken ≤ s.taken + lines.length

variable {s t u : Session} {options : Options} {input : List String} {line : String}

theorem inputReports_push (h : t.output = s.output.push line) :
    t.inputReports = s.inputReports ++ [line].filter reportsInput := by
  unfold inputReports
  rw [h, Array.toList_push, List.filter_append]

/-! ## Steps that take no input -/

theorem Takes.sameSupply (h : s.Takes t) (hreports : t.inputReports = s.inputReports) :
    s.SameSupply t := by
  obtain ⟨lines, hlines, hlow, hhigh⟩ := h.reported
  obtain rfl : lines = [] := by
    rw [hreports] at hlines
    exact List.self_eq_append_right.mp hlines
  exact ⟨h.options, h.input, Nat.le_antisymm hhigh hlow, hreports⟩

theorem takes_of_eq (hoptions : t.options = s.options) (hinput : t.input = s.input)
    (htaken : t.taken = s.taken) (houtput : t.output = s.output) : s.Takes t := by
  have hreports : t.inputReports = s.inputReports := by
    unfold inputReports
    rw [houtput]
  exact ⟨hoptions, hinput, [], by rw [hreports, List.append_nil], Nat.le_of_eq htaken.symm,
    Nat.le_of_eq htaken⟩

theorem takes_push (hoptions : t.options = s.options) (hinput : t.input = s.input)
    (htaken : t.taken = s.taken) (houtput : t.output = s.output.push line) : s.Takes t :=
  ⟨hoptions, hinput, _, inputReports_push houtput, Nat.le_of_eq htaken.symm,
    Nat.le_trans (Nat.le_of_eq htaken) (Nat.le_add_right _ _)⟩

theorem Takes.trans (h : s.Takes t) (h' : t.Takes u) : s.Takes u := by
  obtain ⟨lines, hlines, hlow, hhigh⟩ := h.reported
  obtain ⟨lines', hlines', hlow', hhigh'⟩ := h'.reported
  refine ⟨h'.options.trans h.options, h'.input.trans h.input, lines ++ lines', ?_, by omega, ?_⟩
  · rw [hlines', hlines, List.append_assoc]
  · rw [List.length_append]
    omega

theorem takes_takeInput (s : Session) (name : String) : s.Takes (s.takeInput name) := by
  unfold takeInput nextInput
  -- the one report makes up for the input that is taken, if there is one
  cases s.input[s.taken]? with
  | none => exact takes_push rfl rfl rfl rfl
  | some v =>
    refine ⟨rfl, rfl, _, inputReports_push rfl, Nat.le_succ _, ?_⟩
    have hreport := reportsInput_inputReport name v
    show s.taken + 1 ≤ s.taken + ([inputReport name v].filter reportsInput).length
    rw [List.filter_cons_of_pos hreport]
    exact Nat.le_refl _

theorem takes_frame : Frame Takes where
  refl _ := takes_of_eq rfl rfl rfl rfl
  trans := Takes.trans
  emit _ _ := takes_push rfl rfl rfl rfl
  draw _ _ := takes_of_eq rfl rfl rfl rfl
  request _ _ := takes_of_eq rfl rfl rfl rfl
  write _ _ := takes_of_eq rfl rfl rfl rfl
  takeInput := takes_takeInput
  assign _ _ := takes_of_eq rfl rfl rfl rfl
  load _ := takes_of_eq rfl rfl rfl rfl
  readJson _ _ := takes_of_eq rfl rfl rfl rfl
  page _ _ _ := takes_of_eq rfl rfl rfl rfl
  noPage _ _ := takes_of_eq rfl rfl rfl rfl

theorem Manages.takes (h : s.Manages t) : s.Takes t := by
  cases h with
  | silent => exact takes_frame.refl s
  | stored name f => exact takes_push rfl rfl rfl rfl
  | decided hdecision => exact takes_frame.of_chosen hdecision
  | looping turns => exact takes_push rfl rfl rfl rfl
  | looped => exact takes_push rfl rfl rfl rfl
  | idle =>
    have hlooping : s.Takes (s.looping 0) := takes_push rfl rfl rfl rfl
    exact hlooping.trans (takes_push rfl rfl rfl rfl)
  | finished name => exact takes_push rfl rfl rfl rfl

theorem Logs.inputReports_eq {headings : List String} (h : s.Logs headings t)
    (hapart : ∀ heading ∈ headings, Marker.Apart inputMark heading) :
    t.inputReports = s.inputReports := by
  obtain ⟨lines, houtput, hlines⟩ := h
  have hnone : lines.filter reportsInput = [] := by
    rw [List.filter_eq_nil_iff]
    intro line hline
    obtain ⟨heading, hheading, more, rfl⟩ := hlines line hline
    rw [not_reportsInput (hapart heading hheading)]
    exact Bool.false_ne_true
  unfold inputReports
  rw [houtput, List.filter_append, hnone, List.append_nil]

theorem Manages.sameSupply (h : s.Manages t) : s.SameSupply t := by
  have hapart : ∀ heading ∈ blockHeadings, Marker.Apart inputMark heading := by decide +kernel
  exact h.takes.sameSupply (h.logs.inputReports_eq hapart)

theorem sameSupply_emit (s : Session) (h : reportsInput line = false) :
    s.SameSupply (s.emit line) := by
  have htakes : s.Takes (s.emit line) := takes_push rfl rfl rfl rfl
  refine htakes.sameSupply ?_
  rw [inputReports_push rfl, List.filter_cons_of_neg (ne_true_of_eq_false h), List.filter_nil,
    List.append_nil]

/-! ## Supplied sessions -/

theorem Supplied.of_same (h : s.Supplied options input) (hsame : s.SameSupply t) :
    t.Supplied options input where
  options := hsame.options.trans h.options
  input := hsame.input.trans h.input
  taken := by rw [hsame.taken, hsame.reports, h.taken]
  reports := by rw [hsame.reports]; exact h.reports

theorem supplied_start (options : Options) (input : List String) (world : World) :
    (start options input world).Supplied options input where
  options := rfl
  input := rfl
  taken := (Nat.zero_min _).symm
  reports k line hline := by cases hline

theorem Supplied.nextInput (h : s.Supplied options input) :
    s.nextInput = (supply input options.placeholder s.inputReports.length,
      { s with taken := min (s.inputReports.length + 1) input.length }) := by
  have htaken := h.taken
  obtain rfl := h.options
  obtain rfl := h.input
  unfold Session.nextInput supply
  cases hnext : s.input[s.taken]? with
  | none =>
    -- all have been taken, and so no report is of an input any more
    have hend : s.input.length ≤ s.taken := List.getElem?_eq_none_iff.mp hnext
    have hnone : s.input[s.inputReports.length]? = none := List.getElem?_eq_none_iff.mpr (by omega)
    have hsame : min (s.inputReports.length + 1) s.input.length = s.taken := by omega
    rw [hnone, hsame]
    rfl
  | some v =>
    obtain ⟨hlt, -⟩ := List.getElem?_eq_some_iff.mp hnext
    have hnumber : s.taken = s.inputReports.length := by omega
    have hsame : min (s.inputReports.length + 1) s.input.length = s.taken + 1 := by omega
    rw [← hnumber, hnext, hnumber, hsame, hnumber]
    rfl

theorem Supplied.takeInput (h : s.Supplied options input) (name : String) :
    (s.takeInput name).Supplied options input ∧
      (s.takeInput name).inputReports = s.inputReports ++
        [inputReport name (supply input options.placeholder s.inputReports.length)] ∧
      (s.takeInput name).vars.get? name =
        some (.string (supply input options.placeholder s.inputReports.length)) := by
  have htaken : s.takeInput name =
      (({ s with taken := min (s.inputReports.length + 1) input.length }).emit
        (inputReport name (supply input options.placeholder s.inputReports.length))).set name
          (.string (supply input options.placeholder s.inputReports.length)) := by
    unfold Session.takeInput
    rw [h.nextInput]
    rfl
  have hreports : (s.takeInput name).inputReports = s.inputReports ++
      [inputReport name (supply input options.placeholder s.inputReports.length)] := by
    rw [htaken]
    have hreport := reportsInput_inputReport name
      (supply input options.placeholder s.inputReports.length)
    have hpush := @inputReports_push s (s.takeInput name) _ (by rw [htaken]; rfl)
    rw [← htaken, hpush, List.filter_cons_of_pos hreport]
    rfl
  refine ⟨⟨?_, ?_, ?_, ?_⟩, hreports, ?_⟩
  · rw [htaken]
    exact h.options
  · rw [htaken]
    exact h.input
  · rw [hreports, htaken, List.length_append]
    rfl
  · intro k line hline
    rw [hreports] at hline
    -- an earlier report, the one that is added, or none
    rcases Nat.lt_trichotomy k s.inputReports.length with hk | rfl | hk
    · rw [List.getElem?_append_left hk] at hline
      exact h.reports k line hline
    · rw [List.getElem?_concat_length] at hline
      cases hline
      exact ⟨name, rfl⟩
    · rw [List.getElem?_eq_none (by rw [List.length_append]; exact hk)] at hline
      cases hline
  · rw [htaken]
    exact Table.get?_insert_self _ _ _

end Session

namespace Point

variable {p q : Point} {rest : Block} {st : Statement} {options : Options} {input : List String}
  {s t : Session} {e : Error}

/-! ## Points -/

theorem step_of_input {name : String} (h : p.statement? = some (.input name)) :
    ∃ q, p.step = .goes q ∧ q.session = p.session.takeInput name := by
  obtain ⟨rest, hobey⟩ := step_of_statement? h
  exact ⟨p.skip rest 1 (p.session.takeInput name), hobey, rfl⟩

theorem sameSupply_of_obey (hno : ∀ name, st ≠ .input name) (hstep : p.obey rest st = .goes q) :
    p.session.SameSupply q.session := by
  -- the heading of a statement of another kind is apart from the mark
  have hapart : ∀ heading ∈ [st.heading], Marker.Apart inputMark heading := by
    cases st with
    | input name => exact absurd rfl (hno name)
    | _ =>
      simp only [Statement.heading]
      decide +kernel
  have hreports := (logs_of_obey hstep).inputReports_eq hapart
  rcases goes_of_obey hstep with ⟨name, f, -, -, -, rfl⟩ | ⟨t, hcall, hrun, rfl⟩
  · have htakes : p.session.Takes (p.session.started name) := Session.takes_push rfl rfl rfl rfl
    exact htakes.sameSupply hreports
  · exact (Session.takes_frame.of_run hcall hrun).sameSupply hreports

theorem sameSupply_of_step (hno : ∀ name, p.statement? ≠ some (.input name))
    (hstep : p.step = .goes q) : p.session.SameSupply q.session := by
  cases hst : p.statement? with
  | none => exact (manages_of_step hst hstep).sameSupply
  | some st =>
    obtain ⟨rest, hobey⟩ := step_of_statement? hst
    rw [hobey] at hstep
    refine sameSupply_of_obey (fun name hname => hno name ?_) hstep
    rw [hst, hname]

theorem sameSupply_of_fails (hstep : p.step = .fails e t) (ws : List Waiting) :
    p.session.SameSupply (leave t ws) := by
  have hleaves := leaves_of_fails hstep
  have htakes : p.session.Takes t := hleaves.of_frame Session.takes_frame
  have hreports : t.inputReports = p.session.inputReports := by
    unfold Session.inputReports
    rw [hleaves.output]
  -- neither do the calls take one that the failure leaves
  have hleave : ∀ u, p.session.SameSupply u → p.session.SameSupply u.leaveCall :=
    fun _ h => ⟨h.options, h.input, h.taken, h.reports⟩
  exact leave_keeps hleave ws (htakes.sameSupply hreports)

theorem supplied_of_step (h : p.session.Supplied options input) (hstep : p.step = .goes q) :
    q.session.Supplied options input := by
  by_cases hinput : ∃ name, p.statement? = some (.input name)
  · obtain ⟨name, hname⟩ := hinput
    obtain ⟨q', hstep', hq⟩ := step_of_input hname
    obtain rfl : q' = q := by
      rw [hstep] at hstep'
      cases hstep'
      rfl
    rw [hq]
    exact (h.takeInput name).1
  · exact h.of_same (sameSupply_of_step (fun name hname => hinput ⟨name, hname⟩) hstep)

theorem Reaches.supplied (hreach : p.Reaches q) (h : p.session.Supplied options input) :
    q.session.Supplied options input := by
  -- on the steps of the run
  induction hreach with
  | here => exact h
  | next _ hstep ih => exact supplied_of_step ih hstep

theorem Comes.supplied {r : Except Failure Unit} (hcomes : p.Comes r t)
    (h : p.session.Supplied options input) : t.Supplied options input := by
  cases r with
  | ok a =>
    obtain ⟨number, hreach⟩ := hcomes
    exact hreach.supplied h
  | error f =>
    obtain ⟨q, inner, e, u, hreach, hstep, -, -, rfl⟩ := hcomes
    exact (hreach.supplied h).of_same (sameSupply_of_fails hstep inner)

/-- Inputs are supplied at a point: an input statement reports the input that is next, and its
variable holds just that; no other statement takes one, and neither does a line that fails. -/
structure Supplies (options : Options) (input : List String) (p : Point) : Prop where
  supplied : p.session.Supplied options input
  takes : ∀ name, p.statement? = some (.input name) → ∃ q, p.step = .goes q ∧
    q.session.inputReports = p.session.inputReports ++
      [inputReport name (supply input options.placeholder p.session.inputReports.length)] ∧
    q.session.vars.get? name =
      some (.string (supply input options.placeholder p.session.inputReports.length))
  others : (∀ name, p.statement? ≠ some (.input name)) → ∀ q, p.step = .goes q →
    p.session.SameSupply q.session
  fails : ∀ e t, p.step = .fails e t → p.session.SameSupply (leave t p.waiting)

theorem supplies_of_supplied (h : p.session.Supplied options input) : p.Supplies options input where
  supplied := h
  takes name hname := by
    obtain ⟨q, hstep, hq⟩ := step_of_input hname
    obtain ⟨-, hreports, hvar⟩ := h.takeInput name
    rw [← hq] at hreports hvar
    exact ⟨q, hstep, hreports, hvar⟩
  others hno _ hstep := sameSupply_of_step hno hstep
  fails _ _ hstep := sameSupply_of_fails hstep p.waiting

end Point

/-! ## Runs that started afresh -/

theorem Statement.read_of_isSilent {text : Text} (h : isSilent text = true) :
    ∃ e, Statement.read text = .error e := by
  have hverbs : ∀ verb ∈ verbs, verb.1.toList ≠ [] ∧ verb.1.toList.head? ≠ some '#' := by decide
  -- its first word is empty or starts a comment, and no verb does
  have hlower : (Text.lower (Text.splitWord text).1) = [] ∨
      (Text.lower (Text.splitWord text).1).head? = some '#' := by
    unfold isSilent at h
    unfold Text.splitWord
    split at h
    · next hblank =>
      rw [hblank]
      exact .inl rfl
    · next c rest htrim =>
      obtain rfl : c = '#' := by simpa using h
      rw [htrim]
      exact .inr rfl
  have hnone : verbs.lookup (String.ofList (Text.lower (Text.splitWord text).1)) = none := by
    rw [List.lookup_eq_none_iff]
    intro verb hverb
    obtain ⟨hfull, hmark⟩ := hverbs verb hverb
    rw [bne_iff_ne]
    intro hsame
    have hword : Text.lower (Text.splitWord text).1 = verb.1.toList := by
      rw [← hsame, String.toList_ofList]
    rw [hword] at hlower
    rcases hlower with h | h
    · exact hfull h
    · exact hmark h
  refine ⟨.unknownCommand (String.ofList (Text.splitWord text).1), ?_⟩
  unfold Statement.read
  simp only [hnone]

namespace Session

variable {options : Options} {input : List String} {s t : Session}

theorem Supplied.lines (h : s.Supplied options input) (lines : List Text) (n : Nat) :
    (Run.lines lines n s).2.Supplied options input :=
  (s.comes_first lines n).supplied h

theorem Supplied.statement (h : s.Supplied options input) (text : Text) :
    (Run.statement text s).2.Supplied options input := by
  have hstatement : Run.statement text s = Statement.runLine (Run.call s.room) text s :=
    Run.get_bind _ s
  rw [hstatement]
  by_cases hsilent : isSilent text = true
  · obtain ⟨e, hread⟩ := Statement.read_of_isSilent hsilent
    have hfail : (Run.fail e : Run Statement) s = (.error (.of e), s) := rfl
    unfold Statement.runLine
    rw [hread, Run.ofExcept_error, Run.bind_of_error hfail]
    exact h
  · -- the statement is a block of one line
    have hcomes := Point.follows s.room (.line text .done) [] (n := 0) (s := s) rfl rfl
    have hline : runLine (Run.call s.room) text = Statement.runLine (Run.call s.room) text :=
      if_neg hsilent
    have hsame : ((Block.line text .done).run (Run.call s.room) 0 s).2 =
        (Statement.runLine (Run.call s.room) text s).2 := by
      rw [Block.run, hline]
      cases hrun : Statement.runLine (Run.call s.room) text s with
      | mk result u =>
        cases result with
        | ok a => rw [Run.bind_of_ok (Run.atLine_ok hrun)]; rfl
        | error f => rw [Run.bind_of_error (Run.atLine_error hrun)]
    rw [← hsame]
    exact hcomes.supplied h

theorem Supplied.reachable (h : s.Supplied options input) (hreach : s.Reachable t) :
    t.Supplied options input := by
  induction hreach with
  | start => exact h
  | lines _ lines n ih => exact ih.lines lines n
  | line _ text ih => exact ih.statement text

end Session

namespace Program

variable {options : Options} {input : List String} {world : World} {source : String}

theorem Passes.supplied {p : Point} (h : Passes options input world source p) :
    p.session.Supplied options input := by
  obtain ⟨rest, -, hreach⟩ := h
  have hstart := Session.supplied_start options input world
  exact hreach.supplied (hstart.of_same (Session.sameSupply_emit _ (by decide +kernel)))

theorem supplied_execute (options : Options) (input : List String) (world : World)
    (source : String) : (execute options input world source).2.Supplied options input := by
  have hended := ended_execute options input world source
  generalize (execute options input world source).1 = r at hended
  generalize (execute options input world source).2 = s at hended ⊢
  cases hended with
  | undirected hbody => exact Session.supplied_start options input world
  | done hpasses hstep =>
    exact hpasses.supplied.of_same (Session.sameSupply_emit _ (by decide +kernel))
  | failed hpasses hstep => exact hpasses.supplied.of_same (Point.sameSupply_of_fails hstep _)

/-- Inputs are supplied in order, each of them once, at every point of every run that started
afresh: of a program, and of any lines in a session that has come about from a fresh one; and also
in the sessions that such runs leave, whether they succeed or fail. -/
theorem inputs_supplied (options : Options) (input : List String) (world : World) :
    (∀ source,
      (∀ p, Passes options input world source p → p.Supplies options input) ∧
      (execute options input world source).2.Supplied options input) ∧
    ∀ s, (Session.start options input world).Reachable s →
      s.Supplied options input ∧
      ∀ lines n p, (s.first lines n).Reaches p → p.Supplies options input := by
  constructor
  · intro source
    exact ⟨fun p hpasses => Point.supplies_of_supplied hpasses.supplied,
      supplied_execute options input world source⟩
  · intro s hreachable
    have hs := (Session.supplied_start options input world).reachable hreachable
    exact ⟨hs, fun lines n p hreach => Point.supplies_of_supplied (hreach.supplied hs)⟩

end Program

end LineScript
