import LineScript.World.Files

/-!
# Files keep what is written to them

A text that was written to a file under a name is what reading the file under that name gives.
-/

namespace LineScript.Files

variable {fs fs' : Files} {path p : Path} {node : Node} {name text : String} {steps : List String}

/-- A way that leads somewhere still leads there if no directory on it has gone. -/
theorem walk_of_directories
    (hkept : ∀ q, fs.node? q = some .directory → fs'.node? q = some .directory)
    (h : fs.walk path steps = .ok p) : fs'.walk path steps = .ok p := by
  -- along the walk; only the steps through directories look at what is there
  fun_induction walk fs path steps with
  | case1 path => exact h
  | case2 path rest ih =>
    rw [walk]
    exact ih h
  | case3 path step rest hup hstays ih =>
    rw [walk.eq_3 fs' path step rest hup, if_pos hstays]
    exact ih h
  | case4 path step rest hup hstays hlong => cases h
  | case5 path step hup hstays hlong =>
    rw [walk.eq_3 fs' path step [] hup, if_neg hstays, if_neg hlong]
    exact h
  | case6 path step rest hup hstays hlong path' hdirectory hrest ih =>
    rw [walk.eq_3 fs' path step rest hup, if_neg hstays, if_neg hlong]
    cases rest with
    | nil => exact absurd rfl hrest
    | cons next rest =>
      have hkept' : fs'.node? (path ++ [step]) = some .directory := hkept path' hdirectory
      simp only [hkept']
      exact ih h
  | case7 => cases h
  | case8 => cases h

theorem node?_put_self (hpath : path ≠ []) : (fs.put path node).node? path = some node := by
  have hempty : path.isEmpty = false := by
    cases path with
    | nil => exact absurd rfl hpath
    | cons step path => rfl
  simp [node?, put, hempty]

theorem lookup_filter_of_ne {q : Path} (h : q ≠ path) (nodes : List (Path × Node)) :
    (nodes.filter (·.1 != path)).lookup q = nodes.lookup q := by
  induction nodes with
  | nil => rfl
  | cons e nodes ih =>
    obtain ⟨r, found⟩ := e
    by_cases hr : r = path
    · have hqr : (q == r) = false := by
        rw [hr]
        exact beq_false_of_ne h
      rw [List.filter_cons_of_neg (by simp [hr]), ih, List.lookup_cons, hqr]
    · rw [List.filter_cons_of_pos (by simp [hr]), List.lookup_cons, List.lookup_cons, ih]

theorem node?_put_of_ne {q : Path} (h : q ≠ path) : (fs.put path node).node? q = fs.node? q := by
  unfold node? put
  split
  · rfl
  · have hbeq : (q == path) = false := beq_false_of_ne h
    rw [List.lookup_cons, hbeq]
    exact lookup_filter_of_ne h fs.nodes

theorem locate_put (hpath : fs.node? path ≠ some .directory) (h : fs.locate name = .ok p) :
    (fs.put path node).locate name = .ok p := by
  have hkept : ∀ q, fs.node? q = some .directory → (fs.put path node).node? q = some .directory := by
    intro q hq
    have hne : q ≠ path := fun heq => hpath (heq ▸ hq)
    rw [node?_put_of_ne hne]
    exact hq
  unfold locate at h ⊢
  split
  · next hnul => rw [if_pos hnul] at h; cases h
  · next hnul =>
    rw [if_neg hnul] at h
    split
    · next hlong => rw [if_pos hlong] at h; cases h
    · next hlong =>
      rw [if_neg hlong] at h
      split
      · next hempty => rw [if_pos hempty] at h; cases h
      · next hempty =>
        rw [if_neg hempty] at h
        exact walk_of_directories hkept h

theorem fromUTF8?_toUTF8 (s : String) : String.fromUTF8? s.toUTF8 = some s := by
  have hvalid : s.toUTF8.IsValidUTF8 := s.isValidUTF8
  unfold String.fromUTF8?
  rw [dif_pos hvalid]
  rfl

/-- What a successful write leaves: the text under the path of the name, where no directory was. -/
theorem of_writeText (h : fs.writeText name text = .ok fs') :
    ∃ path, fs.locate name = .ok path ∧ fs.node? path ≠ some .directory ∧
      fs' = fs.put path (.file text.toUTF8) := by
  unfold writeText at h
  cases hlocate : fs.locate name with
  | error cause => rw [hlocate] at h; cases h
  | ok path =>
    rw [hlocate] at h
    refine ⟨path, rfl, ?_⟩
    -- what stood there was a file or nothing, for nothing else is written over
    cases hnode : fs.node? path with
    | none =>
      simp only [bind, Except.bind, hnode] at h
      cases h
      exact ⟨by simp, rfl⟩
    | some node =>
      simp only [bind, Except.bind, hnode] at h
      cases node with
      | file content =>
        cases h
        exact ⟨by simp, rfl⟩
      | directory => cases h
      | locked => cases h

theorem node?_of_writeText (h : fs.writeText name text = .ok fs') :
    ∃ path, fs'.locate name = .ok path ∧ fs'.node? path = some (.file text.toUTF8) := by
  obtain ⟨path, hlocate, hdirectory, rfl⟩ := of_writeText h
  -- the root is a directory, so that the path of the file has a step
  have hpath : path ≠ [] := fun heq => hdirectory (heq ▸ rfl)
  exact ⟨path, locate_put hdirectory hlocate, node?_put_self hpath⟩

theorem read_of_writeText (h : fs.writeText name text = .ok fs') :
    fs'.read name = .ok text.toUTF8 := by
  obtain ⟨path, hlocate, hnode⟩ := node?_of_writeText h
  simp only [read, bind, Except.bind, hlocate, hnode, pure, Except.pure]

theorem readText_of_writeText (h : fs.writeText name text = .ok fs') :
    fs'.has name = true ∧ fs'.readText name = .ok text := by
  refine ⟨?_, ?_⟩
  · obtain ⟨path, hlocate, hnode⟩ := node?_of_writeText h
    simp only [has, hlocate, hnode, Option.isSome_some]
  · simp only [readText, read_of_writeText h, bind, Except.bind, pure, Except.pure,
      fromUTF8?_toUTF8]

end LineScript.Files
