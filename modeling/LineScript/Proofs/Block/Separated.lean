import LineScript.Proofs.Block.Balance

/-!
# Lines without nesting of one kind

Between any two openers of one kind there may be a closer of that kind (`Separated`).  Then the first
closer behind an opener is also the one that brings the level back to zero, so both modes of searching
cut the lines into the same blocks (`ofLines_eq_flat`).  Nothing is asked of closers and
dividers, nor of blocks of different kinds: the lines may be malformed in any way.
-/

namespace LineScript.Block

def Kind.Separates (kind : Kind) (lines : List Text) : Prop :=
  ∀ opener between opener', opener :: (between ++ [opener']) <:+: lines →
    kind.opens opener = true → kind.opens opener' = true →
    ∃ closer ∈ between, kind.closes closer = true

/-- Between any two openers of one kind, whichever it is, stands a closer of that kind. -/
def Separated (lines : List Text) : Prop := ∀ kind : Kind, kind.Separates lines

def Kind.ClosesFirst (kind : Kind) (lines : List Text) : Prop :=
  ∀ between opener, between ++ [opener] <+: lines → kind.opens opener = true →
    ∃ closer ∈ between, kind.closes closer = true

variable {kind : Kind} {line : Text} {lines rest : List Text}

theorem Separated.part (h : Separated lines) (hpart : rest <:+: lines) : Separated rest :=
  fun kind opener between opener' hbetween =>
    h kind opener between opener' (hbetween.trans hpart)

/-! ## Line by line -/

theorem Kind.closesFirst_nil : kind.ClosesFirst [] := by
  intro between opener hfront
  have hnil := List.prefix_nil.mp hfront
  simp at hnil

theorem Kind.closesFirst_cons :
    kind.ClosesFirst (line :: rest) ↔
      kind.opens line = false ∧ (kind.closes line = true ∨ kind.ClosesFirst rest) := by
  constructor
  · intro h
    constructor
    · -- no closer stands before the first line
      rw [← Bool.not_eq_true]
      intro hopens
      obtain ⟨closer, hcloser, -⟩ := h [] line ⟨rest, rfl⟩ hopens
      exact absurd hcloser List.not_mem_nil
    · by_cases hcloses : kind.closes line = true
      · exact .inl hcloses
      · right
        intro between opener hfront hopens
        obtain ⟨closer, hmem, hcloser⟩ :=
          h (line :: between) opener (List.prefix_cons_inj line |>.mpr hfront) hopens
        cases hmem with
        | head => exact absurd hcloser hcloses
        | tail _ hmem => exact ⟨closer, hmem, hcloser⟩
  · rintro ⟨hnot, hrest⟩ between opener hfront hopens
    cases between with
    | nil =>
      obtain ⟨rfl, -⟩ := List.cons_prefix_cons.mp hfront
      rw [hnot] at hopens
      cases hopens
    | cons first between =>
      obtain ⟨rfl, hbehind⟩ := List.cons_prefix_cons.mp hfront
      rcases hrest with hcloses | hrest
      · exact ⟨first, List.mem_cons_self, hcloses⟩
      · obtain ⟨closer, hmem, hcloser⟩ := hrest between opener hbehind hopens
        exact ⟨closer, List.mem_cons_of_mem _ hmem, hcloser⟩

theorem Kind.separates_nil : kind.Separates [] := by
  intro opener between opener' hpart
  cases List.infix_nil.mp hpart

theorem Kind.separates_cons :
    kind.Separates (line :: rest) ↔
      (kind.opens line = true → kind.ClosesFirst rest) ∧ kind.Separates rest := by
  constructor
  · intro h
    constructor
    · intro hopens between opener hfront hopens'
      apply h line between opener _ hopens hopens'
      exact (List.prefix_cons_inj line |>.mpr hfront).isInfix
    · intro opener between opener' hpart
      exact h opener between opener' (hpart.trans (List.suffix_cons line rest).isInfix)
  · rintro ⟨hfirst, hrest⟩ opener between opener' hpart hopens hopens'
    -- the two openers start at the first line, or both stand behind it
    rcases List.infix_cons_iff.mp hpart with hfront | hpart
    · obtain ⟨rfl, hbehind⟩ := List.cons_prefix_cons.mp hfront
      exact hfirst hopens between opener' hbehind hopens'
    · exact hrest opener between opener' hpart hopens hopens'

/-- A count along the lines: whether, after an opener if `opened` says so, each opener of the kind comes
behind a closer of the last one. -/
def Kind.alternates (kind : Kind) (opened : Bool) : List Text → Bool
  | [] => true
  | line :: rest =>
    if kind.opens line then !opened && kind.alternates true rest
    else kind.alternates (opened && !kind.closes line) rest

theorem Kind.alternates_iff (opened : Bool) (lines : List Text) :
    kind.alternates opened lines = true ↔
      (opened = true → kind.ClosesFirst lines) ∧ kind.Separates lines := by
  induction lines generalizing opened with
  | nil => simp [alternates, closesFirst_nil, separates_nil]
  | cons line rest ih =>
    rw [alternates, closesFirst_cons, separates_cons]
    cases hopens : kind.opens line with
    | true => cases opened <;> simp [ih]
    | false =>
      cases opened with
      | false => simp [ih]
      | true => cases hcloses : kind.closes line <;> simp [ih]

instance (lines : List Text) : Decidable (Separated lines) :=
  decidable_of_iff
    (Kind.func.alternates false lines = true ∧ Kind.branch.alternates false lines = true ∧
      Kind.loop.alternates false lines = true)
    (by
      simp only [Kind.alternates_iff, Bool.false_eq_true, false_implies, true_and]
      constructor
      · rintro ⟨hfunc, hbranch, hloop⟩ kind
        cases kind with
        | func => exact hfunc
        | branch => exact hbranch
        | loop => exact hloop
      · exact fun h => ⟨h .func, h .branch, h .loop⟩)

theorem Separated.filter {p : Text → Bool} (h : Separated lines)
    (hp : ∀ line ∈ lines, p line = false → Plain line) : Separated (lines.filter p) := by
  have halternates : ∀ (kind : Kind) (opened : Bool),
      kind.alternates opened (lines.filter p) = kind.alternates opened lines := by
    clear h
    intro kind
    induction lines with
    | nil => exact fun _ => rfl
    | cons line rest ih =>
      intro opened
      have ih := ih fun l hl => hp l (List.mem_cons_of_mem _ hl)
      by_cases hline : p line = true
      · rw [List.filter_cons_of_pos hline]
        simp only [Kind.alternates, ih]
      · have hplain := hp line List.mem_cons_self (Bool.not_eq_true _ ▸ hline)
        have hopens : kind.opens line = false := hplain (.opener kind)
        have hcloses : kind.closes line = false := hplain (.closer kind)
        rw [List.filter_cons_of_neg hline, ih]
        simp [Kind.alternates, hopens, hcloses]
  intro kind
  have hlines := (Kind.alternates_iff false lines).mpr ⟨nofun, h kind⟩
  rw [← halternates] at hlines
  exact ((Kind.alternates_iff false _).mp hlines).2

/-! ## Both modes find the same -/

/-- A search that meets a closer before any opener stops at the first closer in either mode, and meets
no opener before it. -/
theorem closer?_eq_of_closesFirst (h : kind.ClosesFirst lines) :
    closer? .nested kind 0 lines = closer? .flat kind 0 lines ∧
      ∀ f, closer? .flat kind 0 lines = some f → ∀ l ∈ f.before, kind.opens l = false := by
  -- neither search meets an opener, and the first closer ends both
  induction lines with
  | nil => exact ⟨rfl, fun f hf => by cases hf⟩
  | cons line rest ih =>
    obtain ⟨hopens, hrest⟩ := Kind.closesFirst_cons.mp h
    have hnested : Scan.nested.descends kind line = false := by simp [Scan.descends, hopens]
    have hflat : Scan.flat.descends kind line = false := rfl
    by_cases hcloses : kind.closes line = true
    · rw [closer?_closes hnested hcloses, closer?_closes hflat hcloses]
      refine ⟨rfl, fun f hf l hl => ?_⟩
      cases hf
      cases hl
    · obtain ⟨hsame, hbefore⟩ := ih (hrest.resolve_left hcloses)
      have hcloses := Bool.not_eq_true _ ▸ hcloses
      rw [closer?_passes hnested hcloses, closer?_passes hflat hcloses, hsame]
      refine ⟨rfl, fun f hf l hl => ?_⟩
      obtain ⟨g, hg, rfl⟩ := Option.map_eq_some_iff.mp hf
      cases hl with
      | head => exact hopens
      | tail _ hl => exact hbefore g hg l hl

theorem not_closes_of_closer? {f : Found} (h : closer? .flat kind 0 lines = some f) :
    ∀ l ∈ f.before, kind.closes l = false := by
  induction lines generalizing f with
  | nil => cases h
  | cons line rest ih =>
    have hflat : Scan.flat.descends kind line = false := rfl
    by_cases hcloses : kind.closes line = true
    · rw [closer?_closes hflat hcloses] at h
      cases h
      exact fun l hl => absurd hl List.not_mem_nil
    · have hcloses := Bool.not_eq_true _ ▸ hcloses
      rw [closer?_passes hflat hcloses] at h
      obtain ⟨g, hg, rfl⟩ := Option.map_eq_some_iff.mp h
      exact List.forall_mem_cons.mpr ⟨hcloses, ih hg⟩

theorem divider?_eq_of_no_branch (hopens : ∀ l ∈ lines, Kind.branch.opens l = false)
    (hcloses : ∀ l ∈ lines, Kind.branch.closes l = false) :
    divider? .nested 0 lines = divider? .flat 0 lines := by
  induction lines with
  | nil => rfl
  | cons line rest ih =>
    obtain ⟨hopens, hopensRest⟩ := List.forall_mem_cons.mp hopens
    obtain ⟨hcloses, hclosesRest⟩ := List.forall_mem_cons.mp hcloses
    have hnested : Scan.nested.descends .branch line = false := by simp [Scan.descends, hopens]
    have hflat : Scan.flat.descends .branch line = false := rfl
    by_cases hdivides : divides line = true
    · rw [divider?_divides hnested hcloses hdivides, divider?_divides hflat hcloses hdivides]
    · have hdivides : ((0 : Nat) == 0 && divides line) = false := by simpa using hdivides
      rw [divider?_passes hnested hcloses hdivides, divider?_passes hflat hcloses hdivides,
        ih hopensRest hclosesRest]

theorem ofLines_cons_unclosed {scan : Scan} (hopens : kind.opens line = true)
    (hnone : closer? scan kind 0 rest = none) :
    ofLines scan (line :: rest) = unclosed kind line rest := by
  rw [ofLines, header?_of_opens hopens]
  simp only
  split
  · rfl
  · next f hf => rw [hnone] at hf; cases hf

theorem ofLines_cons_line {scan : Scan} (h : header? line = none) :
    ofLines scan (line :: rest) = Block.line line (ofLines scan rest) := by
  rw [ofLines, h]

section Found

variable {scan : Scan} {f g : Found}

theorem infix_before_of_closer? (h : closer? scan kind 0 rest = some f) :
    f.before <:+: line :: rest := by
  rw [← append_of_closer? h]
  exact ⟨[line], f.line :: f.after, rfl⟩

theorem infix_after_of_closer? (h : closer? scan kind 0 rest = some f) :
    f.after <:+: line :: rest := by
  rw [← append_of_closer? h]
  exact ⟨line :: (f.before ++ [f.line]), [], by simp⟩

theorem infix_before_of_divider? (h : divider? scan 0 lines = some g) : g.before <:+: lines := by
  rw [← append_of_divider? h]
  exact ⟨[], g.line :: g.after, rfl⟩

theorem infix_after_of_divider? (h : divider? scan 0 lines = some g) : g.after <:+: lines := by
  rw [← append_of_divider? h]
  exact ⟨g.before ++ [g.line], [], by simp⟩

end Found

theorem Separated.closer?_eq (h : Separated (line :: rest)) (hopens : kind.opens line = true) :
    closer? .nested kind 0 rest = closer? .flat kind 0 rest :=
  (closer?_eq_of_closesFirst ((Kind.separates_cons.mp (h kind)).1 hopens)).1

theorem Separated.divider?_eq {f : Found} (h : Separated (line :: rest))
    (hopens : Kind.branch.opens line = true) (hf : closer? .flat .branch 0 rest = some f) :
    divider? .nested 0 f.before = divider? .flat 0 f.before := by
  have hfirst := (Kind.separates_cons.mp (h .branch)).1 hopens
  apply divider?_eq_of_no_branch
  · exact (closer?_eq_of_closesFirst hfirst).2 f hf
  · exact not_closes_of_closer? hf

/-- Lines without nesting of one kind are cut into the same blocks in both modes. -/
theorem ofLines_nested_eq (h : Separated lines) : ofLines .nested lines = ofLines .flat lines := by
  -- along the cutting in flat mode: what it finds at an opener, a search that counts finds too
  fun_induction ofLines .flat lines with
  | case1 => rw [ofLines]
  | case2 l rest hheader ih =>
    rw [ofLines_cons_line hheader, ih (h.part (List.suffix_cons l rest).isInfix)]
  | case3 l rest kind content hheader hnone =>
    have hopens := opens_of_header? hheader
    rw [ofLines_cons_unclosed hopens ((h.closer?_eq hopens).trans hnone)]
  | case4 l rest content f hf hheader _ _ ihbody ihrest =>
    have hopens := opens_of_header? hheader
    rw [ofLines_cons_func hopens ((h.closer?_eq hopens).trans hf),
      ihbody (h.part (infix_before_of_closer? hf)),
      ihrest (h.part (infix_after_of_closer? hf))]
  | case5 l rest content f hf hheader _ _ ihbody ihrest =>
    have hopens := opens_of_header? hheader
    rw [ofLines_cons_loop hopens ((h.closer?_eq hopens).trans hf),
      ihbody (h.part (infix_before_of_closer? hf)),
      ihrest (h.part (infix_after_of_closer? hf))]
  | case6 l rest content f hf hnone hheader _ _ ihyes ihrest =>
    have hopens := opens_of_header? hheader
    rw [ofLines_cons_branch hopens ((h.closer?_eq hopens).trans hf)
        ((h.divider?_eq hopens hf).trans hnone),
      ihyes (h.part (infix_before_of_closer? hf)),
      ihrest (h.part (infix_after_of_closer? hf))]
  | case7 l rest content f hf g hg _ hheader _ _ ihyes ihno ihrest =>
    have hopens := opens_of_header? hheader
    have hbefore := h.part (infix_before_of_closer? hf)
    rw [ofLines_cons_divided hopens ((h.closer?_eq hopens).trans hf)
        ((h.divider?_eq hopens hf).trans hg),
      ihyes (hbefore.part (infix_before_of_divider? hg)),
      ihno (hbefore.part (infix_after_of_divider? hg)),
      ihrest (h.part (infix_after_of_closer? hf))]

theorem ofLines_eq_flat (scan : Scan) (h : Separated lines) :
    ofLines scan lines = ofLines .flat lines := by
  cases scan with
  | nested => exact ofLines_nested_eq h
  | flat => rfl

end LineScript.Block
