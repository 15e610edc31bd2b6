import Mathlib.Data.List.Forall2
import LineScript.Block.Run
import LineScript.Proofs.Block.Separated

/-!
# Trees of one shape

Two rows of lines may be cut into trees of one shape, line by line the same but for outer blanks
(`Block.Like`).  Rows that differ in outer blanks alone are cut so (`cutAlike_same`): a line is
looked at without its outer blanks wherever its part in a block is settled.
-/

namespace LineScript

open Block

def Text.Same (l l' : Text) : Prop := Text.trim l = Text.trim l'

namespace Text.Same

variable {l l' : Text}

theorem splitWord_eq (h : Same l l') : splitWord l = splitWord l' := by
  unfold splitWord
  rw [h]

theorem isSilent_eq (h : Same l l') : isSilent l = isSilent l' := by
  unfold isSilent
  rw [h]

theorem headerOf_eq (h : Same l l') : headerOf l = headerOf l' := by
  unfold headerOf
  rw [h.splitWord_eq]

theorem header?_eq (h : Same l l') : header? l = header? l' := by
  unfold header?
  rw [h.splitWord_eq]

theorem read_eq (h : Same l l') : Statement.read l = Statement.read l' := by
  unfold Statement.read
  rw [h.splitWord_eq]

theorem marks_eq (h : Same l l') (mark : Mark) : mark.marks l = mark.marks l' := by
  unfold Mark.marks
  rw [h]

theorem opens_eq (h : Same l l') (kind : Kind) : kind.opens l = kind.opens l' :=
  h.marks_eq (.opener kind)

theorem closes_eq (h : Same l l') (kind : Kind) : kind.closes l = kind.closes l' :=
  h.marks_eq (.closer kind)

theorem divides_eq (h : Same l l') : divides l = divides l' := h.marks_eq .divider

theorem descends_eq (h : Same l l') (scan : Scan) (kind : Kind) :
    scan.descends kind l = scan.descends kind l' := by
  unfold Scan.descends
  rw [h.opens_eq]

end Text.Same

theorem exists_of_rel_some {α β : Type} {r : α → β → Prop} {a : α} {o : Option β}
    (h : Option.Rel r (some a) o) : ∃ b, o = some b ∧ r a b := by
  cases h with
  | some hab => exact ⟨_, rfl, hab⟩

theorem eq_none_of_rel_none {α β : Type} {r : α → β → Prop} {o : Option β}
    (h : Option.Rel r none o) : o = none := by
  cases h with
  | none => rfl

namespace Block

/-- Two trees have one shape, the lines of the one are those of the other but for outer blanks, and
the bodies of their functions stand in a relation. -/
inductive Like (rows : List Text → List Text → Prop) : Block → Block → Prop
  | done : Like rows .done .done
  | line {text text' rest rest'} (htext : Text.Same text text') (hrest : Like rows rest rest') :
      Like rows (.line text rest) (.line text' rest')
  | func {opener opener' body body' closer closer' rest rest'} (hopener : Text.Same opener opener')
      (hbody : rows body.lines body'.lines) (hsize : body.size = body'.size)
      (hrest : Like rows rest rest') :
      Like rows (.func opener body closer rest) (.func opener' body' closer' rest')
  | branch {opener opener' yes yes' closer closer' rest rest'}
      (hopener : Text.Same opener opener') (hyes : Like rows yes yes')
      (hrest : Like rows rest rest') :
      Like rows (.branch opener yes closer rest) (.branch opener' yes' closer' rest')
  | divided {opener opener' yes yes' divider divider' no no' closer closer' rest rest'}
      (hopener : Text.Same opener opener') (hyes : Like rows yes yes') (hno : Like rows no no')
      (hrest : Like rows rest rest') :
      Like rows (.divided opener yes divider no closer rest)
        (.divided opener' yes' divider' no' closer' rest')
  | loop {opener opener' body body' closer closer' rest rest'} (hopener : Text.Same opener opener')
      (hbody : Like rows body body') (hrest : Like rows rest rest') :
      Like rows (.loop opener body closer rest) (.loop opener' body' closer' rest')
  | unclosed (kind : Kind) {opener opener' remainder remainder'}
      (hlength : remainder.length = remainder'.length) :
      Like rows (.unclosed kind opener remainder) (.unclosed kind opener' remainder')

theorem Like.size_eq {rows : List Text → List Text → Prop} {b b' : Block} (h : Like rows b b') :
    b.size = b'.size := by
  induction h with
  | done => rfl
  | line _ _ ihrest => simp only [size, ihrest]
  | func _ _ hsize _ ihrest => simp only [size, hsize, ihrest]
  | branch _ _ _ ihyes ihrest => simp only [size, ihyes, ihrest]
  | divided _ _ _ _ ihyes ihno ihrest => simp only [size, ihyes, ihno, ihrest]
  | loop _ _ _ ihbody ihrest => simp only [size, ihbody, ihrest]
  | unclosed _ hlength => simp only [size, hlength]

/-- Rows in a relation are cut into trees of one shape, the one row in one mode and the other row in
another. -/
def CutAlike (rows : List Text → List Text → Prop) (scan scan' : Scan) : Prop :=
  ∀ {lines lines' : List Text}, rows lines lines' →
    Like rows (ofLines scan lines) (ofLines scan' lines')

/-! ## Outer blanks -/

abbrev SameRows : List Text → List Text → Prop := List.Forall₂ Text.Same

structure Found.Same (f f' : Found) : Prop where
  before : SameRows f.before f'.before
  line : Text.Same f.line f'.line
  after : SameRows f.after f'.after

variable {scan : Scan} {kind : Kind} {lines lines' : List Text}

theorem rel_behind {line line' : Text} {o o' : Option Found} (hline : Text.Same line line')
    (h : Option.Rel Found.Same o o') :
    Option.Rel Found.Same (o.map (·.behind line)) (o'.map (·.behind line')) := by
  cases h with
  | none => exact .none
  | some h => exact .some ⟨.cons hline h.before, h.line, h.after⟩

theorem closer?_same (h : SameRows lines lines') (level : Nat) :
    Option.Rel Found.Same (closer? scan kind level lines) (closer? scan kind level lines') := by
  induction h generalizing level with
  | nil => exact .none
  | @cons line line' rest rest' hline hrest ih =>
    have hdescends' := hline.descends_eq scan kind
    have hcloses' := hline.closes_eq kind
    -- both searches take the same turn at each line, since blanks around it hide no mark
    cases hdescends : scan.descends kind line with
    | true =>
      rw [hdescends] at hdescends'
      rw [closer?_descends hdescends, closer?_descends hdescends'.symm]
      exact rel_behind hline (ih _)
    | false =>
      rw [hdescends] at hdescends'
      cases hcloses : kind.closes line with
      | false =>
        rw [hcloses] at hcloses'
        rw [closer?_passes hdescends hcloses, closer?_passes hdescends'.symm hcloses'.symm]
        exact rel_behind hline (ih _)
      | true =>
        rw [hcloses] at hcloses'
        cases level with
        | zero =>
          rw [closer?_closes hdescends hcloses, closer?_closes hdescends'.symm hcloses'.symm]
          exact .some ⟨.nil, hline, hrest⟩
        | succ level =>
          rw [closer?_rises hdescends hcloses, closer?_rises hdescends'.symm hcloses'.symm]
          exact rel_behind hline (ih _)

theorem divider?_same (h : SameRows lines lines') (level : Nat) :
    Option.Rel Found.Same (divider? scan level lines) (divider? scan level lines') := by
  induction h generalizing level with
  | nil => exact .none
  | @cons line line' rest rest' hline hrest ih =>
    unfold divider?
    rw [← hline.descends_eq, ← hline.closes_eq, ← hline.divides_eq]
    split
    · exact rel_behind hline (ih _)
    · split
      · exact rel_behind hline (ih _)
      · split
        · exact .some ⟨.nil, hline, hrest⟩
        · exact rel_behind hline (ih _)

theorem exists_closer?_same {f : Found} (h : SameRows lines lines')
    (hf : closer? scan kind 0 lines = some f) :
    ∃ f', closer? scan kind 0 lines' = some f' ∧ f.Same f' := by
  have hsearch := @closer?_same scan kind lines lines' h 0
  rw [hf] at hsearch
  exact exists_of_rel_some hsearch

theorem cutAlike_same (scan : Scan) : CutAlike SameRows scan scan := by
  intro lines lines' h
  -- along the cutting of the one row: what it finds at an opener, the search in the other finds too
  fun_induction ofLines scan lines generalizing lines' with
  | case1 =>
    cases h
    rw [ofLines]
    exact .done
  | case2 l rest hheader ih =>
    cases h with
    | cons hline hrest =>
      rw [ofLines_cons_line (hline.header?_eq ▸ hheader)]
      exact .line hline (ih hrest)
  | case3 l rest kind content hheader hnone =>
    cases h with
    | cons hline hrest =>
      have hopens := opens_of_header? (hline.header?_eq ▸ hheader)
      have hsearch := @closer?_same scan kind _ _ hrest 0
      rw [hnone] at hsearch
      rw [ofLines_cons_unclosed hopens (eq_none_of_rel_none hsearch)]
      exact .unclosed kind hrest.length_eq
  | case4 l rest content f hf hheader _ _ ihbody ihrest =>
    cases h with
    | cons hline hrest =>
      have hopens := opens_of_header? (hline.header?_eq ▸ hheader)
      obtain ⟨f', hf', hsame⟩ := exists_closer?_same hrest hf
      have hbody := ihbody hsame.before
      rw [ofLines_cons_func hopens hf']
      refine .func hline ?_ hbody.size_eq (ihrest hsame.after)
      rw [lines_ofLines, lines_ofLines]
      exact hsame.before
  | case5 l rest content f hf hheader _ _ ihbody ihrest =>
    cases h with
    | cons hline hrest =>
      have hopens := opens_of_header? (hline.header?_eq ▸ hheader)
      obtain ⟨f', hf', hsame⟩ := exists_closer?_same hrest hf
      rw [ofLines_cons_loop hopens hf']
      exact .loop hline (ihbody hsame.before) (ihrest hsame.after)
  | case6 l rest content f hf hnone hheader _ _ ihyes ihrest =>
    cases h with
    | cons hline hrest =>
      have hopens := opens_of_header? (hline.header?_eq ▸ hheader)
      obtain ⟨f', hf', hsame⟩ := exists_closer?_same hrest hf
      have hsearch := @divider?_same scan _ _ hsame.before 0
      rw [hnone] at hsearch
      rw [ofLines_cons_branch hopens hf' (eq_none_of_rel_none hsearch)]
      exact .branch hline (ihyes hsame.before) (ihrest hsame.after)
  | case7 l rest content f hf g hg _ hheader _ _ ihyes ihno ihrest =>
    cases h with
    | cons hline hrest =>
      have hopens := opens_of_header? (hline.header?_eq ▸ hheader)
      obtain ⟨f', hf', hsame⟩ := exists_closer?_same hrest hf
      have hsearch := @divider?_same scan _ _ hsame.before 0
      rw [hg] at hsearch
      obtain ⟨g', hg', hgroups⟩ := exists_of_rel_some hsearch
      rw [ofLines_cons_divided hopens hf' hg']
      exact .divided hline (ihyes hgroups.before) (ihno hgroups.after) (ihrest hsame.after)

end Block

end LineScript
