import LineScript.Proofs.Block.Cut
import LineScript.Proofs.Block.Meaning
import LineScript.Proofs.Block.Separated
import LineScript.Proofs.Block.Span

/-!
# Walking along the lines

The executor as a walk: at each index it runs one line with the groups that the searches give it
(`runAt`), and goes on at a later index.  Running the tree of some lines is this walk
(`run_ofLines_drop`).
-/

namespace LineScript

theorem Run.of_atLine_ok {α : Type} {m : Run α} {n : Nat} {a : α} {s t : Session}
    (h : Run.atLine n m s = (.ok a, t)) : m s = (.ok a, t) := by
  cases hm : m s with
  | mk result u =>
    cases result with
    | ok b => rwa [Run.atLine_ok hm] at h
    | error f =>
      rw [Run.atLine_error hm] at h
      cases h

namespace Block

/-- Runs a block whose header stands at an index: its groups are the lines between the header, the
divider and the closer. -/
def Span.run (span : Span) (scan : Scan) (call : String → Run Unit) (lines : List Text)
    (index first : Nat) (kind : Kind) (opener : Text) : Run Unit :=
  let group (start stop : Nat) : Run Unit :=
    (ofLines scan (lines.extract start stop)).run call (first + start)
  match kind, span.divider with
  | .func, _ => define opener (lines.extract (index + 1) span.closer) (first + (index + 1))
  | .branch, none => choose opener (group (index + 1) span.closer) (pure ())
  | .branch, some divider =>
    choose opener (group (index + 1) divider) (group (divider + 1) span.closer)
  | .loop, _ => iterate opener (group (index + 1) span.closer)

/-- Runs the line at an index, with the block that it opens, and gives the index to go on at. -/
def runAt (scan : Scan) (call : String → Run Unit) (lines : List Text) (index first : Nat) :
    Run Nat :=
  match lines[index]? with
  | none => pure index
  | some text =>
    match header? text with
    | none => do
      runLine call text
      return index + 1
    | some (kind, _) =>
      match span? scan kind lines (index + 1) with
      | none => Run.fail (.unclosedBlock kind)
      | some span => do
        span.run scan call lines index first kind text
        return span.closer + 1

variable {scan : Scan} {call : String → Run Unit} {lines : List Text} {index first : Nat}

theorem atLine_return_bind (m : Run Unit) (n next : Nat) (k : Nat → Run Unit) :
    (Run.atLine n (m >>= fun _ => pure next) >>= k) = Run.atLine n m >>= fun _ => k next := by
  funext s
  cases hm : m s with
  | mk result t =>
    cases result with
    | ok a =>
      have hreturn : (m >>= fun _ => (pure next : Run Nat)) s = (.ok next, t) := Run.bind_of_ok hm
      rw [Run.bind_of_ok (Run.atLine_ok hreturn), Run.bind_of_ok (Run.atLine_ok hm)]
    | error e =>
      have hfails : (m >>= fun _ => (pure next : Run Nat)) s = (.error e, t) := Run.bind_of_error hm
      rw [Run.bind_of_error (Run.atLine_error hfails), Run.bind_of_error (Run.atLine_error hm)]

theorem groups_of_closer? {kind : Kind} {start : Nat} {f : Found}
    (h : closer? scan kind 0 (lines.drop start) = some f) :
    lines.extract start (start + f.before.length) = f.before ∧
      lines.drop (start + f.before.length + 1) = f.after := by
  have happend := append_of_closer? h
  constructor
  · rw [List.extract_eq_take_drop, Nat.add_sub_cancel_left, ← happend, List.take_left]
  · rw [Nat.add_assoc, ← List.drop_drop, ← happend, ← List.drop_drop, List.drop_left]
    rfl

theorem groups_of_divider? {start stop : Nat} {g : Found}
    (h : divider? scan 0 (lines.extract start stop) = some g) :
    lines.extract start (start + g.before.length) = g.before ∧
      lines.extract (start + g.before.length + 1) stop = g.after := by
  have happend : g.before ++ g.line :: g.after = (lines.drop start).take (stop - start) :=
    append_of_divider? h
  have hlength := congrArg List.length happend
  rw [List.length_take, List.length_append] at hlength
  have hwithin : g.before.length ≤ stop - start := by omega
  constructor
  · rw [List.extract_eq_take_drop, Nat.add_sub_cancel_left, ← Nat.min_eq_left hwithin,
      ← List.take_take, ← happend, List.take_left]
  · have hstop : stop - (start + g.before.length + 1) = stop - start - (g.before.length + 1) := by
      omega
    rw [List.extract_eq_take_drop, Nat.add_assoc, ← List.drop_drop, ← Nat.add_assoc, hstop,
      ← List.drop_take, ← happend, ← List.drop_drop, List.drop_left]
    rfl

theorem size_ofLines (scan : Scan) (lines : List Text) : (ofLines scan lines).size = lines.length := by
  rw [← length_lines, lines_ofLines]

/-- Running the tree of the lines from an index on is one line of the walk, and the rest of the walk. -/
theorem run_ofLines_drop (hindex : index < lines.length) :
    (ofLines scan (lines.drop index)).run call (first + index) =
      Run.atLine (first + index) (runAt scan call lines index first) >>= fun next =>
        (ofLines scan (lines.drop next)).run call (first + next) := by
  rw [List.drop_eq_getElem_cons hindex]
  unfold runAt
  rw [List.getElem?_eq_getElem hindex]
  generalize lines[index] = text
  simp only
  -- the tree and the walk look at the same line: its header, its closer, its divider
  cases hheader : header? text with
  | none =>
    rw [ofLines_cons_line hheader, atLine_return_bind]
    rfl
  | some found =>
    obtain ⟨kind, content⟩ := found
    have hopens := opens_of_header? hheader
    simp only [span?]
    cases hf : closer? scan kind 0 (lines.drop (index + 1)) with
    | none =>
      rw [ofLines_cons_unclosed hopens hf]
      rfl
    | some f =>
      obtain ⟨hbody, hrest⟩ := groups_of_closer? hf
      have hnext : first + (index + 1 + f.before.length + 1) = first + index + f.before.length + 2 := by
        omega
      simp only [Option.map_some]
      rw [atLine_return_bind, hrest, hnext]
      cases kind with
      | func =>
        rw [ofLines_cons_func hopens hf]
        simp only [run, Span.run, hbody, lines_ofLines, size_ofLines]
        rfl
      | loop =>
        rw [ofLines_cons_loop hopens hf]
        simp only [run, Span.run, hbody, size_ofLines]
        rfl
      | branch =>
        simp only [if_pos]
        cases hg : divider? scan 0 f.before with
        | none =>
          rw [ofLines_cons_branch hopens hf hg]
          simp only [run, Span.run, hbody, size_ofLines, Option.map_none]
          rfl
        | some g =>
          obtain ⟨hyes, hno⟩ := groups_of_divider? (hbody ▸ hg)
          have hlength := congrArg List.length (append_of_divider? hg)
          rw [List.length_append, List.length_cons] at hlength
          have hgroup : first + (index + 1 + g.before.length + 1) =
              first + index + g.before.length + 2 := by omega
          have hbehind : first + index + f.before.length + 2 =
              first + index + g.before.length + g.after.length + 3 := by omega
          rw [ofLines_cons_divided hopens hf hg, hbehind]
          simp only [run, Span.run, hyes, hno, size_ofLines, Option.map_some, hgroup]
          rfl

/-! ## One line -/

theorem return_bind_eq_ok_iff {m : Run Unit} {s t : Session} {next next' : Nat} :
    (m >>= fun _ => (pure next' : Run Nat)) s = (.ok next, t) ↔ m s = (.ok (), t) ∧ next = next' := by
  constructor
  · intro h
    rcases Run.bind_cases h with ⟨e, -, herror⟩ | ⟨a, u, hm, hreturn⟩
    · cases herror
    · cases hreturn
      exact ⟨hm, rfl⟩
  · rintro ⟨hm, rfl⟩
    exact Run.bind_of_ok hm

theorem runAt_eq_ok_iff {s t : Session} {next : Nat} {text : Text} (htext : lines[index]? = some text) :
    runAt scan call lines index first s = (.ok next, t) ↔
      (header? text = none ∧ runLine call text s = (.ok (), t) ∧ next = index + 1) ∨
        ∃ kind content span, header? text = some (kind, content) ∧
          span? scan kind lines (index + 1) = some span ∧
          span.run scan call lines index first kind text s = (.ok (), t) ∧ next = span.closer + 1 := by
  unfold runAt
  rw [htext]
  simp only
  cases hheader : header? text with
  | none => exact return_bind_eq_ok_iff.trans (by simp)
  | some found =>
    obtain ⟨kind, content⟩ := found
    dsimp only
    cases hspan : span? scan kind lines (index + 1) with
    | none => exact iff_of_false (fun h => by cases h) (by simp [hspan])
    | some span => exact return_bind_eq_ok_iff.trans (by simp [hspan])

theorem next_of_runAt {s t : Session} {next : Nat} (hindex : index < lines.length)
    (h : runAt scan call lines index first s = (.ok next, t)) :
    index < next ∧ next ≤ lines.length := by
  rcases (runAt_eq_ok_iff (List.getElem?_eq_getElem hindex)).mp h with
    ⟨-, -, rfl⟩ | ⟨kind, content, span, -, hspan, -, rfl⟩
  · omega
  · have := (exact_of_span? hspan).within
    omega

/-! ## More lines behind -/

theorem span?_append {kind : Kind} {start : Nat} {span : Span}
    (h : span? scan kind lines start = some span) (more : List Text) :
    span? scan kind (lines ++ more) start = some span := by
  have hwithin := (exact_of_span? h).within
  obtain ⟨f, hf, rfl⟩ := Option.map_eq_some_iff.mp h
  unfold span?
  rw [List.drop_append_of_le_length (Nat.le_of_lt (Nat.lt_of_le_of_lt hwithin.1 hwithin.2)),
    closer?_append hf]
  rfl

theorem extract_append {start stop : Nat} (hstop : stop ≤ lines.length) (more : List Text) :
    (lines ++ more).extract start stop = lines.extract start stop := by
  rw [List.extract_eq_take_drop, List.extract_eq_take_drop, ← List.drop_take, ← List.drop_take,
    List.take_append_of_le_length hstop]

theorem Span.run_append {kind : Kind} {span : Span} (h : span? scan kind lines (index + 1) = some span)
    (opener : Text) (more : List Text) :
    span.run scan call (lines ++ more) index first kind opener =
      span.run scan call lines index first kind opener := by
  obtain ⟨-, -, -, hwithin, hbetween⟩ := exact_of_span? h
  have hcloser := Nat.le_of_lt hwithin.2
  obtain ⟨divider, closer⟩ := span
  cases divider with
  | none => cases kind <;> simp only [Span.run, extract_append hcloser]
  | some j =>
    have hdivider : j ≤ lines.length := by
      have := (hbetween j rfl).2
      omega
    cases kind <;> simp only [Span.run, extract_append hcloser, extract_append hdivider]

theorem runAt_append {s t : Session} {next : Nat} (hindex : index < lines.length)
    (h : runAt scan call lines index first s = (.ok next, t)) (more : List Text) :
    runAt scan call (lines ++ more) index first s = (.ok next, t) := by
  have htext : lines[index]? = some lines[index] := List.getElem?_eq_getElem hindex
  have htext' : (lines ++ more)[index]? = some lines[index] := by
    rw [List.getElem?_append_left hindex]
    exact htext
  rw [runAt_eq_ok_iff htext']
  rcases (runAt_eq_ok_iff htext).mp h with hline | ⟨kind, content, span, hheader, hspan, hrun, hnext⟩
  · exact .inl hline
  · refine .inr ⟨kind, content, span, hheader, span?_append hspan more, ?_, hnext⟩
    rw [Span.run_append hspan]
    exact hrun

/-- A walk to the end of the lines goes on behind them in whatever lines follow. -/
theorem run_ofLines_append {s t : Session} (hindex : index ≤ lines.length)
    (h : (ofLines scan (lines.drop index)).run call (first + index) s = (.ok (), t))
    (more : List Text) :
    (ofLines scan ((lines ++ more).drop index)).run call (first + index) s =
      (ofLines scan more).run call (first + lines.length) t := by
  -- on the lines that are left: each line that succeeds leads to a later one
  induction hleft : lines.length - index using Nat.strong_induction_on generalizing index s with
  | _ left ih =>
    rcases Nat.lt_or_eq_of_le hindex with hlt | rfl
    · rw [run_ofLines_drop hlt] at h
      rcases Run.bind_cases h with ⟨e, -, herror⟩ | ⟨next, u, hline, hrest⟩
      · cases herror
      have hline := Run.of_atLine_ok hline
      obtain ⟨hlater, hnext⟩ := next_of_runAt hlt hline
      have hlt' : index < (lines ++ more).length := by
        rw [List.length_append]
        omega
      rw [run_ofLines_drop hlt', Run.bind_of_ok (Run.atLine_ok (runAt_append hlt hline more))]
      exact ih _ (by omega) hnext hrest rfl
    · rw [List.drop_length, ofLines] at h
      cases h
      rw [List.drop_left]

/-! ## Runs -/

theorem keeps_runAt {R : Session → Session → Prop} (h : Session.BlockFrame R)
    (hcall : ∀ name, Run.Keeps R (call name)) (lines : List Text) (index first : Nat) :
    Run.Keeps R (runAt scan call lines index first) := by
  unfold runAt
  split
  · exact h.keeps_pure _
  · split
    · exact h.keeps_bind (h.keeps_plainLine hcall _) fun _ => h.keeps_pure _
    · split
      · exact h.keeps_fail _
      · refine h.keeps_bind ?_ fun _ => h.keeps_pure _
        unfold Span.run
        simp only
        split
        · exact h.keeps_define _ _ _
        · exact h.keeps_choose _ (h.keeps_block hcall _ _) (h.keeps_pure ())
        · exact h.keeps_choose _ (h.keeps_block hcall _ _) (h.keeps_block hcall _ _)
        · exact h.keeps_iterate _ (h.keeps_block hcall _ _)

theorem lines_of_sameDepth {s t : Session} (h : s.SameDepth t) (lines : List Text) (n : Nat) :
    Run.lines lines n t = (ofLines s.options.scan lines).run (Run.call s.room) n t := by
  show (ofLines t.options.scan lines).run (Run.call t.room) n t = _
  rw [h.room, h.1]

/-- A run is a walk: it runs the line at an index, and goes on where that line leads. -/
theorem lines_drop {s : Session} (hindex : index < lines.length) :
    Run.lines (lines.drop index) (first + index) s =
      (Run.atLine (first + index) (runAt s.options.scan (Run.call s.room) lines index first) >>=
        fun next => Run.lines (lines.drop next) (first + next)) s := by
  have hframe := Session.sameDepth_frame
  rw [lines_of_sameDepth (hframe.refl s), run_ofLines_drop hindex]
  have hkeeps : Session.SameDepth s (runAt s.options.scan (Run.call s.room) lines index first s).2 :=
    keeps_runAt hframe (hframe.keeps_call s.room) lines index first s
  cases hline : runAt s.options.scan (Run.call s.room) lines index first s with
  | mk result t =>
    rw [hline] at hkeeps
    cases result with
    | ok next =>
      rw [Run.bind_of_ok (Run.atLine_ok hline), Run.bind_of_ok (Run.atLine_ok hline),
        lines_of_sameDepth hkeeps]
    | error f => rw [Run.bind_of_error (Run.atLine_error hline), Run.bind_of_error (Run.atLine_error hline)]

/-- For any lines, the searches find the closer and the divider that the levels say, if there are any;
and a run, which takes its groups from what they find, goes on at a later index after each line, up to
the number of lines. -/
theorem searches_exact (lines : List Text) :
    (∀ scan kind start,
      ((∃ span, span? scan kind lines start = some span) ↔
        ∃ i, LevelWith kind.closes scan kind lines start i) ∧
      ∀ span, span? scan kind lines start = some span → span.Exact scan kind lines start) ∧
    ∀ index first s, index < lines.length →
      Run.lines (lines.drop index) (first + index) s =
        (Run.atLine (first + index) (runAt s.options.scan (Run.call s.room) lines index first) >>=
          fun next => Run.lines (lines.drop next) (first + next)) s ∧
      ∀ next t, runAt s.options.scan (Run.call s.room) lines index first s = (.ok next, t) →
        index < next ∧ next ≤ lines.length := by
  refine ⟨fun scan kind start => ⟨?_, fun span => exact_of_span?⟩, fun index first s hindex =>
    ⟨lines_drop hindex, fun next t => next_of_runAt hindex⟩⟩
  rw [← Option.ne_none_iff_exists', ne_eq, span?_eq_none_iff]
  exact not_forall_not

/-- A branch in a branch, each with a divider, and a closer too many. -/
def forked : List Text :=
  ["if 1 == 1 begin", "  if 1 == 2 begin", "  else", "  end if", "else", "end if", "end if"].map
    String.toList

/-- Where openers count, the outer branch has the second divider and the second closer; otherwise it
has the first ones, and leads into what was the outer branch. -/
theorem searches_exact_forked :
    (span? .nested .branch forked 1 = some ⟨some 4, 5⟩ ∧
      Span.Exact .nested .branch forked 1 ⟨some 4, 5⟩) ∧
    (span? .flat .branch forked 1 = some ⟨some 2, 3⟩ ∧
      Span.Exact .flat .branch forked 1 ⟨some 2, 3⟩) ∧
    0 < forked.length ∧
      Run.lines (forked.drop 0) (7 + 0) fresh =
        (Run.atLine (7 + 0) (runAt fresh.options.scan (Run.call fresh.room) forked 0 7) >>=
          fun next => Run.lines (forked.drop next) (7 + next)) fresh := by
  obtain ⟨hspans, hwalk⟩ := searches_exact forked
  have hnested : span? .nested .branch forked 1 = some ⟨some 4, 5⟩ := by decide +kernel
  have hflat : span? .flat .branch forked 1 = some ⟨some 2, 3⟩ := by decide +kernel
  exact ⟨⟨hnested, (hspans .nested .branch 1).2 _ hnested⟩,
    ⟨hflat, (hspans .flat .branch 1).2 _ hflat⟩, by decide, (hwalk 0 7 fresh (by decide)).1⟩

end Block

/-- Lines that succeed are followed by more lines as if these ran alone in the session that is left:
nothing in the first lines reaches into the others. -/
theorem Run.lines_append {first more : List Text} {n : Nat} {s t : Session}
    (h : Run.lines first n s = (.ok (), t)) :
    Run.lines (first ++ more) n s = Run.lines more (n + first.length) t := by
  have hkeeps := Session.sameDepth_frame.keeps_lines first n s
  rw [h] at hkeeps
  rw [Block.lines_of_sameDepth hkeeps]
  exact Block.run_ofLines_append (Nat.zero_le first.length) h more

namespace Run

/-- A function, a branch that is left out with an open loop inside it, and a loop that calls. -/
def opening : List Text :=
  ["func greet begin", "  if 1 == 1 begin", "    linex print 1", "  else", "  end if", "end func",
    "if 1 == 2 begin", "  loop 3 begin", "end if", "loop 2 begin", "  call greet", "end loop"].map
    String.toList

/-- A loop whose closer the open loop does not take, and which fails in its body. -/
def sequel : List Text :=
  ["loop 1 begin", "  call nobody", "end loop", "else", "end if"].map String.toList

theorem lines_append_opening :
    (lines opening 1 Block.fresh).1 = .ok () ∧
      lines (opening ++ sequel) 1 Block.fresh =
        lines sequel (1 + opening.length) (lines opening 1 Block.fresh).2 ∧
      (lines (opening ++ sequel) 1 Block.fresh).1 =
        .error ⟨.undefinedFunction "nobody", [14, 13]⟩ := by
  have hok : (lines opening 1 Block.fresh).1 = .ok () := by decide +kernel
  have happend : lines (opening ++ sequel) 1 Block.fresh =
      lines sequel (1 + opening.length) (lines opening 1 Block.fresh).2 :=
    lines_append (Prod.ext hok rfl)
  refine ⟨hok, happend, ?_⟩
  rw [happend]
  decide +kernel

end Run

end LineScript
