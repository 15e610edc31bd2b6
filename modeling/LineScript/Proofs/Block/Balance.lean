import LineScript.Proofs.Block.Mark

/-!
# Balance: searches pass over whole blocks

The lines of a tree of the grammar open as many blocks of each kind as they close, and never close
one that they have not opened.  So a search for a closer or a divider that starts before such lines
goes on behind them at the level it had (`Passed`, `Skipped`), and the lines of a tree are cut into
the tree again (`ofLines_lines`).
-/

namespace LineScript.Block

def Plain (line : Text) : Prop := ∀ mark : Mark, mark.marks line = false

/-- The trees that the grammar describes: every line plays the part that its place asks for, and
every opener has its closer. -/
def Grammatical : Block → Prop
  | done => True
  | line text rest => Plain text ∧ rest.Grammatical
  | func opener body closer rest =>
      Kind.func.opens opener = true ∧ Kind.func.closes closer = true ∧ body.Grammatical ∧
        rest.Grammatical
  | branch opener yes closer rest =>
      Kind.branch.opens opener = true ∧ Kind.branch.closes closer = true ∧ yes.Grammatical ∧
        rest.Grammatical
  | divided opener yes divider no closer rest =>
      Kind.branch.opens opener = true ∧ divides divider = true ∧
        Kind.branch.closes closer = true ∧ yes.Grammatical ∧ no.Grammatical ∧ rest.Grammatical
  | loop opener body closer rest =>
      Kind.loop.opens opener = true ∧ Kind.loop.closes closer = true ∧ body.Grammatical ∧
        rest.Grammatical
  | unclosed _ _ _ => False

instance decidablePlain (line : Text) : Decidable (Plain line) :=
  decidable_of_iff (∀ mark ∈ Mark.all, mark.marks line = false)
    ⟨fun h mark => h mark mark.mem_all, fun h mark _ => h mark⟩

instance decidableGrammatical : (b : Block) → Decidable b.Grammatical
  | done => isTrue trivial
  | line text rest =>
    have := decidableGrammatical rest
    inferInstanceAs (Decidable (Plain text ∧ rest.Grammatical))
  | func opener body closer rest =>
    have := decidableGrammatical body
    have := decidableGrammatical rest
    inferInstanceAs (Decidable (Kind.func.opens opener = true ∧ Kind.func.closes closer = true ∧
      body.Grammatical ∧ rest.Grammatical))
  | branch opener yes closer rest =>
    have := decidableGrammatical yes
    have := decidableGrammatical rest
    inferInstanceAs (Decidable (Kind.branch.opens opener = true ∧
      Kind.branch.closes closer = true ∧ yes.Grammatical ∧ rest.Grammatical))
  | divided opener yes divider no closer rest =>
    have := decidableGrammatical yes
    have := decidableGrammatical no
    have := decidableGrammatical rest
    inferInstanceAs (Decidable (Kind.branch.opens opener = true ∧ divides divider = true ∧
      Kind.branch.closes closer = true ∧ yes.Grammatical ∧ no.Grammatical ∧ rest.Grammatical))
  | loop opener body closer rest =>
    have := decidableGrammatical body
    have := decidableGrammatical rest
    inferInstanceAs (Decidable (Kind.loop.opens opener = true ∧ Kind.loop.closes closer = true ∧
      body.Grammatical ∧ rest.Grammatical))
  | unclosed _ _ _ => isFalse id

def Found.past (lines : List Text) (f : Found) : Found := { f with before := lines ++ f.before }

theorem Found.past_past (first second : List Text) (f : Found) :
    (f.past second).past first = f.past (first ++ second) := by
  simp only [past, List.append_assoc]

/-! ## The search for a closer -/

section Closer

variable {kind other : Kind}

/-- Lines that a search for the closer of a kind passes over, at whatever level it comes to them. -/
def Passed (kind : Kind) (lines : List Text) : Prop :=
  ∀ level rest, closer? .nested kind level (lines ++ rest) =
    (closer? .nested kind level rest).map (Found.past lines)

theorem Passed.nil : Passed kind [] := by
  intro level rest
  exact Option.map_id'.symm

theorem Passed.append {first second : List Text} (hfirst : Passed kind first)
    (hsecond : Passed kind second) : Passed kind (first ++ second) := by
  intro level rest
  rw [List.append_assoc, hfirst, hsecond, Option.map_map]
  congr 1
  funext f
  exact Found.past_past first second f

theorem Passed.line {line : Text} (hopens : kind.opens line = false)
    (hcloses : kind.closes line = false) : Passed kind [line] := by
  intro level rest
  exact closer?_passes (by simp [Scan.descends, hopens]) hcloses level rest

theorem Passed.plain {line : Text} (h : Plain line) : Passed kind [line] :=
  Passed.line (h (.opener kind)) (h (.closer kind))

theorem Passed.divider {line : Text} (h : divides line = true) : Passed kind [line] :=
  Passed.line (Mark.not_marks .divider (.opener kind) h (by simp))
    (Mark.not_marks .divider (.closer kind) h (by simp))

/-- A block around lines that are passed over: if it is of the kind searched for, its opener goes one
level in and its closer one level out. -/
theorem Passed.block {opener closer : Text} {lines : List Text}
    (hopens : other.opens opener = true) (hcloses : other.closes closer = true)
    (hlines : Passed kind lines) : Passed kind (opener :: (lines ++ [closer])) := by
  by_cases hkind : kind = other
  · -- the opener takes the search one level in, and the closer takes it out again
    subst hkind
    have hnot : kind.opens closer = false :=
      Mark.not_marks (.closer kind) (.opener kind) hcloses (by simp)
    intro level rest
    rw [List.cons_append, List.append_assoc, closer?_descends (by simp [Scan.descends, hopens]),
      hlines, List.singleton_append, closer?_rises (by simp [Scan.descends, hnot]) hcloses]
    simp only [Option.map_map]
    congr 1
    funext f
    simp [Found.behind, Found.past]
  · -- the lines of a block of another kind do not change the level
    have hopener : Passed kind [opener] :=
      Passed.line (Mark.not_marks (.opener other) (.opener kind) hopens (by simpa))
        (Mark.not_marks (.opener other) (.closer kind) hopens (by simp))
    have hcloser : Passed kind [closer] :=
      Passed.line (Mark.not_marks (.closer other) (.opener kind) hcloses (by simp))
        (Mark.not_marks (.closer other) (.closer kind) hcloses (by simpa))
    exact hopener.append (hlines.append hcloser)

theorem passed_lines {b : Block} (hb : b.Grammatical) : Passed kind b.lines := by
  -- on the tree; only an opener without its closer could not be passed over, and there is none
  induction b with
  | done => exact Passed.nil
  | line text rest ihrest =>
    obtain ⟨htext, hrest⟩ := hb
    exact (Passed.plain htext).append (ihrest hrest)
  | func opener body closer rest ihbody ihrest =>
    obtain ⟨hopens, hcloses, hbody, hrest⟩ := hb
    have hblock := (Passed.block hopens hcloses (ihbody hbody)).append (ihrest hrest)
    simpa [lines] using hblock
  | branch opener yes closer rest ihyes ihrest =>
    obtain ⟨hopens, hcloses, hyes, hrest⟩ := hb
    have hblock := (Passed.block hopens hcloses (ihyes hyes)).append (ihrest hrest)
    simpa [lines] using hblock
  | divided opener yes divider no closer rest ihyes ihno ihrest =>
    obtain ⟨hopens, hdivides, hcloses, hyes, hno, hrest⟩ := hb
    have hgroups := (ihyes hyes).append ((Passed.divider hdivides).append (ihno hno))
    have hblock := (Passed.block hopens hcloses hgroups).append (ihrest hrest)
    simpa [lines] using hblock
  | loop opener body closer rest ihbody ihrest =>
    obtain ⟨hopens, hcloses, hbody, hrest⟩ := hb
    have hblock := (Passed.block hopens hcloses (ihbody hbody)).append (ihrest hrest)
    simpa [lines] using hblock
  | unclosed kind opener remainder => exact hb.elim

theorem closer?_of_passed {lines rest : List Text} {closer : Text} (hlines : Passed kind lines)
    (hcloses : kind.closes closer = true) :
    closer? .nested kind 0 (lines ++ closer :: rest) = some ⟨lines, closer, rest⟩ := by
  have hnot : kind.opens closer = false :=
    Mark.not_marks (.closer kind) (.opener kind) hcloses (by simp)
  rw [hlines, closer?_closes (by simp [Scan.descends, hnot]) hcloses]
  simp [Found.past]

end Closer

/-! ## The search for a divider -/

/-- Lines that a search for a divider passes over when it comes to them at least `least` branches
deep. -/
def Skipped (least : Nat) (lines : List Text) : Prop :=
  ∀ level, least ≤ level → ∀ rest, divider? .nested level (lines ++ rest) =
    (divider? .nested level rest).map (Found.past lines)

section Divider

variable {least : Nat}

theorem Skipped.nil : Skipped least [] := by
  intro level _ rest
  exact Option.map_id'.symm

theorem Skipped.append {first second : List Text} (hfirst : Skipped least first)
    (hsecond : Skipped least second) : Skipped least (first ++ second) := by
  intro level hlevel rest
  rw [List.append_assoc, hfirst level hlevel, hsecond level hlevel, Option.map_map]
  congr 1
  funext f
  exact Found.past_past first second f

theorem Skipped.line {line : Text} (hopens : Kind.branch.opens line = false)
    (hcloses : Kind.branch.closes line = false) (hdivides : 0 < least ∨ divides line = false) :
    Skipped least [line] := by
  intro level hlevel rest
  have hnot : (level == 0 && divides line) = false := by
    -- a divider is looked at on level 0 only
    rcases hdivides with hpos | hdivides
    · have : (level == 0) = false := by simp; omega
      rw [this, Bool.false_and]
    · rw [hdivides, Bool.and_false]
  exact divider?_passes (by simp [Scan.descends, hopens]) hcloses hnot rest

theorem Skipped.mark (mark : Mark) {line : Text} (h : mark.marks line = true)
    (hopener : mark ≠ .opener .branch) (hcloser : mark ≠ .closer .branch)
    (hdivider : mark ≠ .divider) : Skipped least [line] :=
  Skipped.line (Mark.not_marks mark (.opener .branch) h hopener.symm)
    (Mark.not_marks mark (.closer .branch) h hcloser.symm)
    (.inr (Mark.not_marks mark .divider h hdivider.symm))

theorem Skipped.block {kind : Kind} {opener closer : Text} {lines : List Text}
    (hkind : kind ≠ .branch) (hopens : kind.opens opener = true)
    (hcloses : kind.closes closer = true) (hlines : Skipped least lines) :
    Skipped least (opener :: (lines ++ [closer])) := by
  have hopener : Skipped least [opener] :=
    Skipped.mark (.opener kind) hopens (by simpa) (by simp) (by simp)
  have hcloser : Skipped least [closer] :=
    Skipped.mark (.closer kind) hcloses (by simp) (by simpa) (by simp)
  exact hopener.append (hlines.append hcloser)

theorem Skipped.branch {opener closer : Text} {lines : List Text}
    (hopens : Kind.branch.opens opener = true) (hcloses : Kind.branch.closes closer = true)
    (hlines : Skipped 1 lines) : Skipped least (opener :: (lines ++ [closer])) := by
  have hnot : Kind.branch.opens closer = false :=
    Mark.not_marks (.closer .branch) (.opener .branch) hcloses (by simp)
  intro level _ rest
  rw [List.cons_append, List.append_assoc, divider?_descends (by simp [Scan.descends, hopens]),
    hlines (level + 1) (by omega), List.singleton_append,
    divider?_rises (by simp [Scan.descends, hnot]) hcloses, Nat.add_sub_cancel]
  simp only [Option.map_map]
  congr 1
  funext f
  simp [Found.behind, Found.past]

/-- A search for a divider passes over the lines of a tree: each divider in it is deeper in. -/
theorem skipped_lines {b : Block} (hb : b.Grammatical) : Skipped least b.lines := by
  -- the groups of a branch are met one level further in, so the level is not fixed
  induction b generalizing least with
  | done => exact Skipped.nil
  | line text rest ihrest =>
    obtain ⟨htext, hrest⟩ := hb
    have hline : Skipped least [text] :=
      Skipped.line (htext (.opener .branch)) (htext (.closer .branch)) (.inr (htext .divider))
    exact hline.append (ihrest hrest)
  | func opener body closer rest ihbody ihrest =>
    obtain ⟨hopens, hcloses, hbody, hrest⟩ := hb
    have hblock : Skipped least (opener :: (body.lines ++ [closer])) :=
      Skipped.block (by decide) hopens hcloses (ihbody hbody)
    simpa [lines] using hblock.append (ihrest hrest)
  | branch opener yes closer rest ihyes ihrest =>
    obtain ⟨hopens, hcloses, hyes, hrest⟩ := hb
    have hblock : Skipped least (opener :: (yes.lines ++ [closer])) :=
      Skipped.branch hopens hcloses (ihyes hyes)
    simpa [lines] using hblock.append (ihrest hrest)
  | divided opener yes divider no closer rest ihyes ihno ihrest =>
    obtain ⟨hopens, hdivides, hcloses, hyes, hno, hrest⟩ := hb
    -- the divider of the branch is skipped since it is one level in
    have hdivider : Skipped 1 [divider] :=
      Skipped.line (Mark.not_marks .divider (.opener .branch) hdivides (by decide))
        (Mark.not_marks .divider (.closer .branch) hdivides (by decide))
        (.inl (by decide))
    have hgroups := (ihyes hyes).append (hdivider.append (ihno hno))
    have hblock : Skipped least (opener :: (yes.lines ++ divider :: no.lines ++ [closer])) :=
      Skipped.branch hopens hcloses hgroups
    simpa [lines] using hblock.append (ihrest hrest)
  | loop opener body closer rest ihbody ihrest =>
    obtain ⟨hopens, hcloses, hbody, hrest⟩ := hb
    have hblock : Skipped least (opener :: (body.lines ++ [closer])) :=
      Skipped.block (by decide) hopens hcloses (ihbody hbody)
    simpa [lines] using hblock.append (ihrest hrest)
  | unclosed kind opener remainder => exact hb.elim

theorem divider?_lines {b : Block} (hb : b.Grammatical) : divider? .nested 0 b.lines = none := by
  have h := (skipped_lines hb : Skipped 0 b.lines) 0 (Nat.le_refl 0) []
  rw [List.append_nil] at h
  rw [h]
  rfl

theorem divider?_lines_append {b : Block} (hb : b.Grammatical) {divider : Text}
    (hdivides : divides divider = true) (rest : List Text) :
    divider? .nested 0 (b.lines ++ divider :: rest) = some ⟨b.lines, divider, rest⟩ := by
  have hopens : Kind.branch.opens divider = false :=
    Mark.not_marks .divider (.opener .branch) hdivides (by decide)
  have hcloses : Kind.branch.closes divider = false :=
    Mark.not_marks .divider (.closer .branch) hdivides (by decide)
  rw [skipped_lines hb 0 (Nat.le_refl 0),
    divider?_divides (by simp [Scan.descends, hopens]) hcloses hdivides]
  simp [Found.past]

end Divider

/-! ## Trees from their lines -/

section Equations

variable {scan : Scan} {opener : Text} {rest : List Text} {f : Found}

theorem ofLines_cons_plain {text : Text} (h : Plain text) :
    ofLines scan (text :: rest) = line text (ofLines scan rest) := by
  rw [ofLines, header?_eq_none_iff.mpr fun kind => h (.opener kind)]

theorem ofLines_cons_func (hopens : Kind.func.opens opener = true)
    (hf : closer? scan .func 0 rest = some f) :
    ofLines scan (opener :: rest) =
      func opener (ofLines scan f.before) f.line (ofLines scan f.after) := by
  rw [ofLines, header?_of_opens hopens]
  simp only
  split
  · next hnone => rw [hf] at hnone; cases hnone
  · next g hg => rw [hf] at hg; cases hg; rfl

theorem ofLines_cons_loop (hopens : Kind.loop.opens opener = true)
    (hf : closer? scan .loop 0 rest = some f) :
    ofLines scan (opener :: rest) =
      loop opener (ofLines scan f.before) f.line (ofLines scan f.after) := by
  rw [ofLines, header?_of_opens hopens]
  simp only
  split
  · next hnone => rw [hf] at hnone; cases hnone
  · next g hg => rw [hf] at hg; cases hg; rfl

theorem ofLines_cons_branch (hopens : Kind.branch.opens opener = true)
    (hf : closer? scan .branch 0 rest = some f) (hg : divider? scan 0 f.before = none) :
    ofLines scan (opener :: rest) =
      branch opener (ofLines scan f.before) f.line (ofLines scan f.after) := by
  rw [ofLines, header?_of_opens hopens]
  simp only
  split
  · next hnone => rw [hf] at hnone; cases hnone
  · next f' hf' =>
    rw [hf] at hf'
    cases hf'
    split
    · rfl
    · next g' hg' => rw [hg] at hg'; cases hg'

theorem ofLines_cons_divided {g : Found} (hopens : Kind.branch.opens opener = true)
    (hf : closer? scan .branch 0 rest = some f) (hg : divider? scan 0 f.before = some g) :
    ofLines scan (opener :: rest) =
      divided opener (ofLines scan g.before) g.line (ofLines scan g.after) f.line
        (ofLines scan f.after) := by
  rw [ofLines, header?_of_opens hopens]
  simp only
  split
  · next hnone => rw [hf] at hnone; cases hnone
  · next f' hf' =>
    rw [hf] at hf'
    cases hf'
    split
    · next hnone => rw [hg] at hnone; cases hnone
    · next g' hg' => rw [hg] at hg'; cases hg'; rfl

end Equations

/-- The lines of a tree are cut into the tree again. -/
theorem ofLines_lines {b : Block} (hb : b.Grammatical) : ofLines .nested b.lines = b := by
  induction b with
  | done => rw [lines, ofLines]
  | line text rest ihrest =>
    obtain ⟨htext, hrest⟩ := hb
    rw [lines, ofLines_cons_plain htext, ihrest hrest]
  | func opener body closer rest ihbody ihrest =>
    obtain ⟨hopens, hcloses, hbody, hrest⟩ := hb
    rw [lines, List.cons_append,
      ofLines_cons_func hopens (closer?_of_passed (passed_lines hbody) hcloses)]
    simp only [ihbody hbody, ihrest hrest]
  | branch opener yes closer rest ihyes ihrest =>
    obtain ⟨hopens, hcloses, hyes, hrest⟩ := hb
    rw [lines, List.cons_append,
      ofLines_cons_branch hopens (closer?_of_passed (passed_lines hyes) hcloses)
        (divider?_lines hyes)]
    simp only [ihyes hyes, ihrest hrest]
  | divided opener yes divider no closer rest ihyes ihno ihrest =>
    obtain ⟨hopens, hdivides, hcloses, hyes, hno, hrest⟩ := hb
    -- the closer is searched over both groups, and the divider between them afterwards
    have hgroups : Passed .branch (yes.lines ++ divider :: no.lines) :=
      (passed_lines hyes).append ((Passed.divider hdivides).append (passed_lines hno))
    have hlines : (divided opener yes divider no closer rest).lines =
        opener :: ((yes.lines ++ divider :: no.lines) ++ closer :: rest.lines) := by
      simp [lines]
    rw [hlines, ofLines_cons_divided hopens (closer?_of_passed hgroups hcloses)
      (divider?_lines_append hyes hdivides no.lines)]
    simp only [ihyes hyes, ihno hno, ihrest hrest]
  | loop opener body closer rest ihbody ihrest =>
    obtain ⟨hopens, hcloses, hbody, hrest⟩ := hb
    rw [lines, List.cons_append,
      ofLines_cons_loop hopens (closer?_of_passed (passed_lines hbody) hcloses)]
    simp only [ihbody hbody, ihrest hrest]
  | unclosed kind opener remainder => exact hb.elim

end LineScript.Block
