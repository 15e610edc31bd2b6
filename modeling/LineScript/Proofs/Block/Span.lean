import Mathlib.Order.Bounds.Basic
import LineScript.Proofs.Block.Mark

/-!
# Where the groups of a block end

The search for a closer and the search for a divider, said with line numbers (`span?`).  Both stop at
the least line of their kind that is no level deeper than the opener, where the level is counted in
openers and closers (`Scan.depth`), and there is none if they find nothing: this holds of any row of
lines, whether its blocks are closed or not (`exact_of_span?`, `span?_eq_none_iff`).
-/

namespace LineScript.Block

/-- How many levels deeper the lines end than they start: each opener of the kind goes one level in,
and each closer one level out. In flat mode there is one level only. -/
def Scan.depth (scan : Scan) (kind : Kind) (lines : List Text) : Int :=
  match scan with
  | .nested => (lines.countP kind.opens : Int) - lines.countP kind.closes
  | .flat => 0

def Scan.shift (scan : Scan) (kind : Kind) (line : Text) : Int := scan.depth kind [line]

/-- A line of the lines has a property, and is as many levels deep as the lines start, which is
`level`. -/
def At (p : Text → Bool) (scan : Scan) (kind : Kind) (level : Int) (lines : List Text) (i : Nat) :
    Prop :=
  (∃ line, lines[i]? = some line ∧ p line = true) ∧ level + scan.depth kind (lines.take i) = 0

/-- What was found is behind the least index with a property; none has it if nothing was found. -/
def Finds (P : Nat → Prop) : Option Found → Prop
  | none => ∀ i, ¬ P i
  | some f => IsLeast {i | P i} f.before.length

variable {scan : Scan} {kind : Kind} {line : Text} {lines rest : List Text} {f : Found}

/-! ## Levels -/

@[simp] theorem depth_nil : scan.depth kind [] = 0 := by cases scan <;> rfl

theorem depth_cons : scan.depth kind (line :: rest) = scan.shift kind line + scan.depth kind rest := by
  cases scan with
  | flat => rfl
  | nested =>
    simp only [Scan.shift, Scan.depth, List.countP_cons, List.countP_nil]
    omega

theorem shift_flat : Scan.flat.shift kind line = 0 := rfl

theorem shift_of_descends (h : scan.descends kind line = true) : scan.shift kind line = 1 := by
  obtain ⟨hscan, hopens⟩ := Bool.and_eq_true_iff.mp h
  obtain rfl := eq_of_beq hscan
  have hcloses : kind.closes line = false :=
    Mark.not_marks (.opener kind) (.closer kind) hopens (by simp)
  simp [Scan.shift, Scan.depth, hopens, hcloses]

theorem shift_of_closes (h : kind.closes line = true) : Scan.nested.shift kind line = -1 := by
  have hopens : kind.opens line = false :=
    Mark.not_marks (.closer kind) (.opener kind) h (by simp)
  simp [Scan.shift, Scan.depth, hopens, h]

theorem shift_of_passes (hdescends : scan.descends kind line = false)
    (hcloses : kind.closes line = false) : scan.shift kind line = 0 := by
  cases scan with
  | flat => rfl
  | nested =>
    have hopens : kind.opens line = false := by simpa [Scan.descends] using hdescends
    simp [Scan.shift, Scan.depth, hopens, hcloses]

/-! ## Finding line by line -/

section At

variable {p : Text → Bool} {level : Int} {i : Nat}

theorem not_at_nil : ¬ At p scan kind level [] i := by
  rintro ⟨⟨line, hline, -⟩, -⟩
  cases hline

theorem at_zero : At p scan kind level (line :: rest) 0 ↔ p line = true ∧ level = 0 := by
  simp [At]

theorem at_succ :
    At p scan kind level (line :: rest) (i + 1) ↔
      At p scan kind (level + scan.shift kind line) rest i := by
  simp only [At, List.getElem?_cons_succ, List.take_succ_cons, depth_cons, Int.add_assoc]

end At

theorem finds_here {P : Nat → Prop} (h : P 0) : Finds P (some ⟨[], line, rest⟩) :=
  ⟨h, fun _ _ => Nat.zero_le _⟩

theorem finds_behind {P Q : Nat → Prop} {o : Option Found} (hzero : ¬ P 0)
    (hsucc : ∀ i, P (i + 1) ↔ Q i) (h : Finds Q o) : Finds P (o.map (·.behind line)) := by
  cases o with
  | none =>
    rintro (_ | i) hi
    · exact hzero hi
    · exact h i ((hsucc i).mp hi)
  | some f =>
    refine ⟨(hsucc _).mpr h.1, ?_⟩
    rintro (_ | i) hi
    · exact absurd hi hzero
    · exact Nat.succ_le_succ (h.2 ((hsucc i).mp hi))

theorem closer?_finds (scan : Scan) (kind : Kind) (lines : List Text) (level : Nat)
    (hflat : scan = .flat → level = 0) :
    Finds (At kind.closes scan kind level lines) (closer? scan kind level lines) := by
  -- line by line: behind a line the search goes on as deep as the line has led
  induction lines generalizing level with
  | nil => exact fun i => not_at_nil
  | cons line rest ih =>
    cases hdescends : scan.descends kind line with
    | true =>
      have hnested : scan ≠ .flat := by
        rintro rfl
        cases hdescends
      have hcloses : kind.closes line = false :=
        Mark.not_marks (.opener kind) (.closer kind) (Bool.and_eq_true_iff.mp hdescends).2 (by simp)
      rw [closer?_descends hdescends]
      refine finds_behind (by simp [at_zero, hcloses]) (fun i => ?_)
        (ih (level + 1) fun h => absurd h hnested)
      rw [at_succ, shift_of_descends hdescends, Int.natCast_succ]
    | false =>
      cases hcloses : kind.closes line with
      | false =>
        rw [closer?_passes hdescends hcloses]
        refine finds_behind (by simp [at_zero, hcloses]) (fun i => ?_) (ih level hflat)
        rw [at_succ, shift_of_passes hdescends hcloses, Int.add_zero]
      | true =>
        cases level with
        | zero =>
          rw [closer?_closes hdescends hcloses]
          exact finds_here (at_zero.mpr ⟨hcloses, rfl⟩)
        | succ level =>
          have hnested : scan = .nested := by
            cases scan with
            | nested => rfl
            | flat => exact absurd (hflat rfl) (Nat.succ_ne_zero level)
          subst hnested
          rw [closer?_rises hdescends hcloses]
          refine finds_behind (by simp [at_zero]; omega) (fun i => ?_)
            (ih level fun h => by cases h)
          rw [at_succ, shift_of_closes hcloses, Int.natCast_succ, Int.add_neg_cancel_right]

theorem depth_nonneg_of_closer? {level : Nat} (hflat : scan = .flat → level = 0)
    (h : closer? scan kind level lines = some f) :
    ∀ i ≤ f.before.length, 0 ≤ level + scan.depth kind (lines.take i) := by
  cases scan with
  | flat => exact fun i _ => by simp [Scan.depth]
  | nested =>
    clear hflat
    induction lines generalizing level f with
    | nil => cases h
    | cons line rest ih =>
      -- behind the line the depth is counted from where the line has led
      have hbehind : ∀ {next : Nat}, level + Scan.nested.shift kind line = next →
          (closer? .nested kind next rest).map (·.behind line) = some f →
          ∀ i ≤ f.before.length, 0 ≤ level + Scan.nested.depth kind ((line :: rest).take i) := by
        intro next hnext hsearch i hi
        obtain ⟨g, hg, rfl⟩ := Option.map_eq_some_iff.mp hsearch
        cases i with
        | zero => simp
        | succ i =>
          rw [List.take_succ_cons, depth_cons, ← Int.add_assoc, hnext]
          exact ih hg i (Nat.le_of_succ_le_succ hi)
      cases hdescends : Scan.nested.descends kind line with
      | true =>
        rw [closer?_descends hdescends] at h
        exact hbehind (by rw [shift_of_descends hdescends, Int.natCast_succ]) h
      | false =>
        cases hcloses : kind.closes line with
        | false =>
          rw [closer?_passes hdescends hcloses] at h
          exact hbehind (by rw [shift_of_passes hdescends hcloses, Int.add_zero]) h
        | true =>
          cases level with
          | zero =>
            rw [closer?_closes hdescends hcloses] at h
            cases h
            intro i hi
            obtain rfl := Nat.le_zero.mp hi
            simp
          | succ level =>
            rw [closer?_rises hdescends hcloses] at h
            refine hbehind ?_ h
            rw [shift_of_closes hcloses, Int.natCast_succ, Int.add_neg_cancel_right]

/-- Among lines none of which is further out, the search for a divider finds the one of its own
level. -/
theorem divider?_finds (scan : Scan) (lines : List Text) (level : Nat)
    (hflat : scan = .flat → level = 0)
    (hin : ∀ i ≤ lines.length, 0 ≤ level + scan.depth .branch (lines.take i)) :
    Finds (At divides scan .branch level lines) (divider? scan level lines) := by
  induction lines generalizing level with
  | nil => exact fun i => not_at_nil
  | cons line rest ih =>
    -- the search behind the line, which starts as deep as the line has led
    have hbehind : ∀ next : Nat, level + scan.shift .branch line = next →
        ¬ At divides scan .branch level (line :: rest) 0 → (scan = .flat → next = 0) →
        Finds (At divides scan .branch level (line :: rest))
          ((divider? scan next rest).map (·.behind line)) := by
      intro next hnext hzero hflat
      refine finds_behind hzero (fun i => by rw [at_succ, hnext]) (ih next hflat fun i hi => ?_)
      have hdeep := hin (i + 1) (Nat.succ_le_succ hi)
      rwa [List.take_succ_cons, depth_cons, ← Int.add_assoc, hnext] at hdeep
    cases hdescends : scan.descends .branch line with
    | true =>
      have hnested : scan ≠ .flat := by
        rintro rfl
        cases hdescends
      have hdivides : divides line = false :=
        Mark.not_marks (.opener .branch) .divider (Bool.and_eq_true_iff.mp hdescends).2 (by simp)
      rw [divider?_descends hdescends]
      exact hbehind (level + 1) (by rw [shift_of_descends hdescends, Int.natCast_succ])
        (by simp [at_zero, hdivides]) fun h => absurd h hnested
    | false =>
      cases hcloses : Kind.branch.closes line with
      | true =>
        have hdivides : divides line = false :=
          Mark.not_marks (.closer .branch) .divider hcloses (by simp)
        rw [divider?_rises hdescends hcloses]
        refine hbehind (level - 1) ?_ (by simp [at_zero, hdivides]) fun h => by rw [hflat h]
        cases scan with
        | flat => simp [shift_flat, hflat rfl]
        | nested =>
          -- the closer would lead out of the lines if they started at level zero
          have hout := hin 1 (Nat.succ_le_succ (Nat.zero_le _))
          rw [List.take_succ_cons, depth_cons, List.take_zero, depth_nil,
            shift_of_closes hcloses] at hout
          rw [shift_of_closes hcloses]
          omega
      | false =>
        by_cases hhere : (level == 0 && divides line) = true
        · obtain ⟨hlevel, hdivides⟩ := Bool.and_eq_true_iff.mp hhere
          obtain rfl := eq_of_beq hlevel
          rw [divider?_divides hdescends hcloses hdivides]
          exact finds_here (at_zero.mpr ⟨hdivides, rfl⟩)
        · have hhere := Bool.not_eq_true _ ▸ hhere
          rw [divider?_passes hdescends hcloses hhere]
          refine hbehind level (by rw [shift_of_passes hdescends hcloses, Int.add_zero]) ?_ hflat
          rw [at_zero]
          rintro ⟨hdivides, hlevel⟩
          simp [hdivides, Int.natCast_eq_zero.mp hlevel] at hhere

/-! ## Line numbers -/

/-- Where the groups of a block end: the lines of its divider, if it has one, and of its closer. -/
structure Span where
  divider : Option Nat
  closer : Nat
deriving DecidableEq

def span? (scan : Scan) (kind : Kind) (lines : List Text) (start : Nat) : Option Span :=
  (closer? scan kind 0 (lines.drop start)).map fun f =>
    { divider := if kind = .branch then (divider? scan 0 f.before).map (start + ·.before.length) else none
      closer := start + f.before.length }

/-- A line from `start` on has a property, and as many openers as closers of the kind stand between
`start` and the line. -/
structure LevelWith (p : Text → Bool) (scan : Scan) (kind : Kind) (lines : List Text)
    (start i : Nat) : Prop where
  behind : start ≤ i
  has : ∃ line, lines[i]? = some line ∧ p line = true
  level : scan.depth kind (lines.extract start i) = 0

/-- What a span that was found says about the lines. -/
structure Span.Exact (scan : Scan) (kind : Kind) (lines : List Text) (start : Nat) (span : Span) :
    Prop where
  closer : IsLeast {i | LevelWith kind.closes scan kind lines start i} span.closer
  divider : ∀ j, span.divider = some j ↔
    kind = .branch ∧ IsLeast {j | LevelWith divides scan kind lines start j ∧ j < span.closer} j
  /-- No line up to the closer is further out than the opener. -/
  depth : ∀ i, start ≤ i → i ≤ span.closer → 0 ≤ scan.depth kind (lines.extract start i)
  within : start ≤ span.closer ∧ span.closer < lines.length
  /-- The divider parts the lines between the opener and the closer. -/
  between : ∀ j, span.divider = some j → start ≤ j ∧ j < span.closer

section Span

variable {p : Text → Bool} {start i : Nat} {span : Span}

theorem levelWith_iff :
    LevelWith p scan kind lines start i ↔
      start ≤ i ∧ At p scan kind 0 (lines.drop start) (i - start) := by
  constructor
  · rintro ⟨hbehind, ⟨line, hline, hp⟩, hlevel⟩
    refine ⟨hbehind, ⟨line, ?_, hp⟩, ?_⟩
    · rw [List.getElem?_drop, Nat.add_sub_cancel' hbehind]
      exact hline
    · rw [Int.zero_add]
      exact hlevel
  · rintro ⟨hbehind, ⟨line, hline, hp⟩, hlevel⟩
    refine ⟨hbehind, ⟨line, ?_, hp⟩, ?_⟩
    · rwa [List.getElem?_drop, Nat.add_sub_cancel' hbehind] at hline
    · rwa [Int.zero_add] at hlevel

theorem isLeast_levelWith {P : Nat → Prop} {k : Nat}
    (h : IsLeast {i | At p scan kind 0 (lines.drop start) i ∧ P (start + i)} k) :
    IsLeast {i | LevelWith p scan kind lines start i ∧ P i} (start + k) := by
  refine ⟨⟨levelWith_iff.mpr ⟨Nat.le_add_right _ _, ?_⟩, h.1.2⟩, ?_⟩
  · rw [Nat.add_sub_cancel_left]
    exact h.1.1
  · rintro i ⟨hi, hP⟩
    obtain ⟨hbehind, hat⟩ := levelWith_iff.mp hi
    have hle := h.2 ⟨hat, by rwa [Nat.add_sub_cancel' hbehind]⟩
    omega

theorem at_before (after : List Text) :
    At p scan kind 0 lines i ↔ At p scan kind 0 (lines ++ after) i ∧ i < lines.length := by
  constructor
  · rintro ⟨⟨line, hline, hp⟩, hlevel⟩
    have hi := (List.getElem?_eq_some_iff.mp hline).1
    refine ⟨⟨⟨line, ?_, hp⟩, ?_⟩, hi⟩
    · rw [List.getElem?_append_left hi]
      exact hline
    · rw [List.take_append_of_le_length (Nat.le_of_lt hi)]
      exact hlevel
  · rintro ⟨⟨⟨line, hline, hp⟩, hlevel⟩, hi⟩
    refine ⟨⟨line, ?_, hp⟩, ?_⟩
    · rwa [List.getElem?_append_left hi] at hline
    · rwa [List.take_append_of_le_length (Nat.le_of_lt hi)] at hlevel

theorem span?_eq_none_iff :
    span? scan kind lines start = none ↔ ∀ i, ¬ LevelWith kind.closes scan kind lines start i := by
  have hfinds := closer?_finds scan kind (lines.drop start) 0 fun _ => rfl
  unfold span?
  cases hsearch : closer? scan kind 0 (lines.drop start) with
  | none =>
    rw [hsearch] at hfinds
    refine iff_of_true rfl fun i hi => ?_
    exact hfinds _ (levelWith_iff.mp hi).2
  | some f =>
    rw [hsearch] at hfinds
    refine iff_of_false (by simp) fun hnone => hnone (start + f.before.length) ?_
    rw [levelWith_iff, Nat.add_sub_cancel_left]
    exact ⟨Nat.le_add_right _ _, hfinds.1⟩

theorem divider_of_closer? (hf : closer? scan .branch 0 (lines.drop start) = some f) (j : Nat) :
    (divider? scan 0 f.before).map (start + ·.before.length) = some j ↔
      IsLeast {j | LevelWith divides scan .branch lines start j ∧ j < start + f.before.length} j := by
  have happend := append_of_closer? hf
  -- no line before the closer is further out than the opener, which the search for a divider needs
  have hin : ∀ i ≤ f.before.length,
      0 ≤ ((0 : Nat) : Int) + scan.depth .branch (f.before.take i) := by
    intro i hi
    have hdepth := depth_nonneg_of_closer? (fun _ => rfl) hf i hi
    rwa [← happend, List.take_append_of_le_length hi] at hdepth
  have hfinds := divider?_finds scan f.before 0 (fun _ => rfl) hin
  have hbefore : ∀ i, At divides scan .branch 0 f.before i ↔
      At divides scan .branch 0 (lines.drop start) i ∧ start + i < start + f.before.length := by
    intro i
    rw [at_before (f.line :: f.after), happend, Nat.add_lt_add_iff_left]
  cases hsearch : divider? scan 0 f.before with
  | none =>
    rw [hsearch] at hfinds
    refine iff_of_false (by simp) ?_
    rintro ⟨⟨hlevel, hlt⟩, -⟩
    obtain ⟨hbehind, hat⟩ := levelWith_iff.mp hlevel
    exact hfinds _ ((hbefore _).mpr ⟨hat, by rwa [Nat.add_sub_cancel' hbehind]⟩)
  | some g =>
    rw [hsearch] at hfinds
    have hleast : IsLeast {j | LevelWith divides scan .branch lines start j ∧
        j < start + f.before.length} (start + g.before.length) := by
      apply isLeast_levelWith
      refine ⟨(hbefore _).mp hfinds.1, fun i hi => hfinds.2 ((hbefore i).mpr hi)⟩
    constructor
    · intro h
      obtain rfl := Option.some.inj h
      exact hleast
    · intro h
      rw [h.unique hleast]
      rfl

theorem exact_of_span? (h : span? scan kind lines start = some span) :
    span.Exact scan kind lines start := by
  obtain ⟨f, hf, rfl⟩ := Option.map_eq_some_iff.mp h
  have hfinds := closer?_finds scan kind (lines.drop start) 0 fun _ => rfl
  rw [hf] at hfinds
  -- the searches start behind the opener, and the indices count from the first line
  have hcloser : IsLeast {i | LevelWith kind.closes scan kind lines start i}
      (start + f.before.length) := by
    have hleast := isLeast_levelWith (P := fun _ => True)
      ⟨⟨hfinds.1, trivial⟩, fun i hi => hfinds.2 hi.1⟩
    exact ⟨hleast.1.1, fun i hi => hleast.2 ⟨hi, trivial⟩⟩
  have hdivider : ∀ j,
      (if kind = .branch then (divider? scan 0 f.before).map (start + ·.before.length) else none) =
        some j ↔ kind = .branch ∧
          IsLeast {j | LevelWith divides scan kind lines start j ∧ j < start + f.before.length} j := by
    intro j
    by_cases hkind : kind = .branch
    · subst hkind
      rw [if_pos rfl, divider_of_closer? hf, and_iff_right rfl]
    · rw [if_neg hkind]
      exact iff_of_false (by simp) fun h => hkind h.1
  refine ⟨hcloser, hdivider, fun i hbehind hi => ?_, ⟨Nat.le_add_right _ _, ?_⟩, fun j hj => ?_⟩
  · have hdepth := depth_nonneg_of_closer? (fun _ => rfl) hf (i - start)
      (Nat.sub_le_iff_le_add'.mpr hi)
    rwa [Int.natCast_zero, Int.zero_add] at hdepth
  · obtain ⟨line, hline, -⟩ := hcloser.1.has
    exact (List.getElem?_eq_some_iff.mp hline).1
  · obtain ⟨hlevel, hlt⟩ := ((hdivider j).mp hj).2.1
    exact ⟨hlevel.behind, hlt⟩

end Span

end LineScript.Block
