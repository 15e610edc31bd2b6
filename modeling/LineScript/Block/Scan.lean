import LineScript.Block.Kind

/-!
Finding the closer of a block, and the divider of a branch.

Lines are counted for one kind of block only. In nested mode an opener of the kind goes one level
in, and a closer one level out; in flat mode the first closer closes.
-/

namespace LineScript.Block

def Scan.descends (scan : Scan) (kind : Kind) (line : Text) : Bool :=
  scan == .nested && kind.opens line

/-- What a search for a line found: the lines before it, the line, and the lines after it. -/
structure Found where
  before : List Text
  line : Text
  after : List Text
deriving DecidableEq

def Found.behind (line : Text) (f : Found) : Found := { f with before := line :: f.before }

/-- The closer of a block whose opener stands before the lines and has `level` blocks of its kind
open inside it. -/
def closer? (scan : Scan) (kind : Kind) (level : Nat) : List Text → Option Found
  | [] => none
  | line :: rest =>
    if scan.descends kind line then (closer? scan kind (level + 1) rest).map (·.behind line)
    else if kind.closes line then
      match level with
      | 0 => some ⟨[], line, rest⟩
      | level + 1 => (closer? scan kind level rest).map (·.behind line)
    else (closer? scan kind level rest).map (·.behind line)

/-- The divider of a branch among its lines, `level` branches deep. -/
def divider? (scan : Scan) (level : Nat) : List Text → Option Found
  | [] => none
  | line :: rest =>
    if scan.descends .branch line then (divider? scan (level + 1) rest).map (·.behind line)
    else if Kind.branch.closes line then (divider? scan (level - 1) rest).map (·.behind line)
    else if level == 0 && divides line then some ⟨[], line, rest⟩
    else (divider? scan level rest).map (·.behind line)

/-! ## One line of a search -/

section Line

variable {scan : Scan} {kind : Kind} {line : Text}

theorem closer?_descends (h : scan.descends kind line = true) (level : Nat) (rest : List Text) :
    closer? scan kind level (line :: rest) =
      (closer? scan kind (level + 1) rest).map (·.behind line) := by
  conv => lhs; unfold closer?
  exact if_pos h

theorem closer?_passes (hdescends : scan.descends kind line = false)
    (hcloses : kind.closes line = false) (level : Nat) (rest : List Text) :
    closer? scan kind level (line :: rest) =
      (closer? scan kind level rest).map (·.behind line) := by
  conv => lhs; unfold closer?
  rw [if_neg (by simp [hdescends]), if_neg (by simp [hcloses])]

theorem closer?_rises (hdescends : scan.descends kind line = false)
    (hcloses : kind.closes line = true) (level : Nat) (rest : List Text) :
    closer? scan kind (level + 1) (line :: rest) =
      (closer? scan kind level rest).map (·.behind line) := by
  conv => lhs; unfold closer?
  rw [if_neg (by simp [hdescends]), if_pos hcloses]

theorem closer?_closes (hdescends : scan.descends kind line = false)
    (hcloses : kind.closes line = true) (rest : List Text) :
    closer? scan kind 0 (line :: rest) = some ⟨[], line, rest⟩ := by
  unfold closer?
  rw [if_neg (by simp [hdescends]), if_pos hcloses]

theorem divider?_descends (h : scan.descends .branch line = true) (level : Nat)
    (rest : List Text) :
    divider? scan level (line :: rest) = (divider? scan (level + 1) rest).map (·.behind line) := by
  conv => lhs; unfold divider?
  exact if_pos h

theorem divider?_passes (hdescends : scan.descends .branch line = false)
    (hcloses : Kind.branch.closes line = false) {level : Nat}
    (hdivides : (level == 0 && divides line) = false) (rest : List Text) :
    divider? scan level (line :: rest) = (divider? scan level rest).map (·.behind line) := by
  conv => lhs; unfold divider?
  rw [if_neg (by simp [hdescends]), if_neg (by simp [hcloses]), if_neg (by simp [hdivides])]

theorem divider?_rises (hdescends : scan.descends .branch line = false)
    (hcloses : Kind.branch.closes line = true) (level : Nat) (rest : List Text) :
    divider? scan level (line :: rest) = (divider? scan (level - 1) rest).map (·.behind line) := by
  conv => lhs; unfold divider?
  rw [if_neg (by simp [hdescends]), if_pos hcloses]

theorem divider?_divides (hdescends : scan.descends .branch line = false)
    (hcloses : Kind.branch.closes line = false) (hdivides : divides line = true)
    (rest : List Text) : divider? scan 0 (line :: rest) = some ⟨[], line, rest⟩ := by
  unfold divider?
  rw [if_neg (by simp [hdescends]), if_neg (by simp [hcloses]), if_pos (by simp [hdivides])]

end Line

/-- A search for a closer loses no line. -/
theorem append_of_closer? {scan : Scan} {kind : Kind} {level : Nat} {lines : List Text} {f : Found}
    (h : closer? scan kind level lines = some f) : f.before ++ f.line :: f.after = lines := by
  induction lines generalizing level f with
  | nil => cases h
  | cons line rest ih =>
    have behind : ∀ {level : Nat}, (closer? scan kind level rest).map (·.behind line) = some f →
        f.before ++ f.line :: f.after = line :: rest := by
      intro level h
      obtain ⟨g, hg, rfl⟩ := Option.map_eq_some_iff.mp h
      simp only [Found.behind, List.cons_append, ih hg]
    unfold closer? at h
    split at h
    · exact behind h
    · split at h
      · split at h
        · simp only [Option.some.injEq] at h
          subst h
          rfl
        · exact behind h
      · exact behind h

theorem append_of_divider? {scan : Scan} {level : Nat} {lines : List Text} {f : Found}
    (h : divider? scan level lines = some f) : f.before ++ f.line :: f.after = lines := by
  induction lines generalizing level f with
  | nil => cases h
  | cons line rest ih =>
    have behind : ∀ {level : Nat}, (divider? scan level rest).map (·.behind line) = some f →
        f.before ++ f.line :: f.after = line :: rest := by
      intro level h
      obtain ⟨g, hg, rfl⟩ := Option.map_eq_some_iff.mp h
      simp only [Found.behind, List.cons_append, ih hg]
    unfold divider? at h
    split at h
    · exact behind h
    · split at h
      · exact behind h
      · split at h
        · simp only [Option.some.injEq] at h
          subst h
          rfl
        · exact behind h

theorem length_of_closer? {scan : Scan} {kind : Kind} {level : Nat} {lines : List Text} {f : Found}
    (h : closer? scan kind level lines = some f) :
    f.before.length < lines.length ∧ f.after.length < lines.length := by
  have := congrArg List.length (append_of_closer? h)
  simp only [List.length_append, List.length_cons] at this
  omega

theorem length_of_divider? {scan : Scan} {level : Nat} {lines : List Text} {f : Found}
    (h : divider? scan level lines = some f) :
    f.before.length < lines.length ∧ f.after.length < lines.length := by
  have := congrArg List.length (append_of_divider? h)
  simp only [List.length_append, List.length_cons] at this
  omega

end LineScript.Block
