import LineScript.Proofs.Block.Mark

/-!
# Trees as they are cut from lines

What the searches have found at each opener of a tree that was cut from lines (`Block.Cut`), in
either mode of searching; and that a closer found in some lines is still found when more lines follow
(`closer?_append`).
-/

namespace LineScript.Block

theorem closes_of_closer? {scan : Scan} {kind : Kind} {level : Nat} {lines : List Text} {f : Found}
    (h : closer? scan kind level lines = some f) : kind.closes f.line = true := by
  induction lines generalizing level f with
  | nil => cases h
  | cons line rest ih =>
    -- unless the line itself is the closer, the search goes on behind it
    have hbehind : ∀ {level : Nat}, (closer? scan kind level rest).map (·.behind line) = some f →
        kind.closes f.line = true := by
      intro level h
      obtain ⟨g, hg, rfl⟩ := Option.map_eq_some_iff.mp h
      have hcloses : kind.closes g.line = true := ih hg
      exact hcloses
    cases hdescends : scan.descends kind line with
    | true =>
      rw [closer?_descends hdescends] at h
      exact hbehind h
    | false =>
      cases hcloses : kind.closes line with
      | false =>
        rw [closer?_passes hdescends hcloses] at h
        exact hbehind h
      | true =>
        cases level with
        | zero =>
          rw [closer?_closes hdescends hcloses] at h
          cases h
          exact hcloses
        | succ level =>
          rw [closer?_rises hdescends hcloses] at h
          exact hbehind h

theorem closer?_append {scan : Scan} {kind : Kind} {level : Nat} {lines : List Text} {f : Found}
    (h : closer? scan kind level lines = some f) (more : List Text) :
    closer? scan kind level (lines ++ more) = some ⟨f.before, f.line, f.after ++ more⟩ := by
  induction lines generalizing level f with
  | nil => cases h
  | cons line rest ih =>
    -- where the search goes on, at whatever level, the induction hypothesis applies behind the line
    have hbehind : ∀ {level : Nat}, (closer? scan kind level rest).map (·.behind line) = some f →
        (closer? scan kind level (rest ++ more)).map (·.behind line) =
          some ⟨f.before, f.line, f.after ++ more⟩ := by
      intro level h
      obtain ⟨g, hg, rfl⟩ := Option.map_eq_some_iff.mp h
      rw [ih hg]
      rfl
    rw [List.cons_append]
    cases hdescends : scan.descends kind line with
    | true =>
      rw [closer?_descends hdescends] at h ⊢
      exact hbehind h
    | false =>
      cases hcloses : kind.closes line with
      | false =>
        rw [closer?_passes hdescends hcloses] at h ⊢
        exact hbehind h
      | true =>
        cases level with
        | zero =>
          rw [closer?_closes hdescends hcloses] at h ⊢
          cases h
          rfl
        | succ level =>
          rw [closer?_rises hdescends hcloses] at h ⊢
          exact hbehind h

/-- A tree whose blocks end where the searches, started behind their openers, have found closers. -/
def Cut (scan : Scan) : Block → Prop
  | done => True
  | line _ rest => rest.Cut scan
  | func opener body closer rest =>
      Kind.func.opens opener = true ∧
        closer? scan .func 0 (body.lines ++ closer :: rest.lines) =
          some ⟨body.lines, closer, rest.lines⟩ ∧
        body.Cut scan ∧ rest.Cut scan
  | branch opener yes closer rest =>
      Kind.branch.opens opener = true ∧
        closer? scan .branch 0 (yes.lines ++ closer :: rest.lines) =
          some ⟨yes.lines, closer, rest.lines⟩ ∧
        yes.Cut scan ∧ rest.Cut scan
  | divided opener yes divider no closer rest =>
      Kind.branch.opens opener = true ∧
        closer? scan .branch 0 ((yes.lines ++ divider :: no.lines) ++ closer :: rest.lines) =
          some ⟨yes.lines ++ divider :: no.lines, closer, rest.lines⟩ ∧
        yes.Cut scan ∧ no.Cut scan ∧ rest.Cut scan
  | loop opener body closer rest =>
      Kind.loop.opens opener = true ∧
        closer? scan .loop 0 (body.lines ++ closer :: rest.lines) =
          some ⟨body.lines, closer, rest.lines⟩ ∧
        body.Cut scan ∧ rest.Cut scan
  | unclosed _ _ _ => True

theorem closer?_found {scan : Scan} {kind : Kind} {lines : List Text} {f : Found}
    (h : closer? scan kind 0 lines = some f) :
    closer? scan kind 0 (f.before ++ f.line :: f.after) = some f := by
  rw [append_of_closer? h]
  exact h

/-- The tree of a row of lines is cut from them. -/
theorem cut_ofLines (scan : Scan) (ls : List Text) : (ofLines scan ls).Cut scan := by
  -- along the recursion that cuts the lines: what a search has found, it finds again in its own lines
  fun_induction ofLines scan ls with
  | case1 => trivial
  | case2 l rest _ ih => exact ih
  | case3 => trivial
  | case4 l rest content f h hheader _ _ ihbody ihrest =>
    refine ⟨opens_of_header? hheader, ?_, ihbody, ihrest⟩
    rw [lines_ofLines, lines_ofLines]
    exact closer?_found h
  | case5 l rest content f h hheader _ _ ihbody ihrest =>
    refine ⟨opens_of_header? hheader, ?_, ihbody, ihrest⟩
    rw [lines_ofLines, lines_ofLines]
    exact closer?_found h
  | case6 l rest content f h _ hheader _ _ ihyes ihrest =>
    refine ⟨opens_of_header? hheader, ?_, ihyes, ihrest⟩
    rw [lines_ofLines, lines_ofLines]
    exact closer?_found h
  | case7 l rest content f h g hdivider _ hheader _ _ ihyes ihno ihrest =>
    refine ⟨opens_of_header? hheader, ?_, ihyes, ihno, ihrest⟩
    rw [lines_ofLines, lines_ofLines, lines_ofLines, append_of_divider? hdivider]
    exact closer?_found h

end LineScript.Block
