import LineScript.Condition
import Mathlib.Data.List.Basic

/-!
# Texts cut from one line

All that is cut from a text is made of the characters of that text.  A line of a source has no line
feed, and so nothing that is cut from it has one.
-/

namespace LineScript

namespace Text

variable {t p before after : Text} {cut : Char → Bool}

theorem trimStart_subset (t : Text) : trimStart t ⊆ t := (List.dropWhile_suffix isBlank).subset

theorem trim_subset (t : Text) : trim t ⊆ t := by
  intro c hc
  unfold trim trimEnd at hc
  rw [List.mem_reverse] at hc
  have hkept := (List.dropWhile_suffix isBlank).subset hc
  exact trimStart_subset t (List.mem_reverse.mp hkept)

theorem trim_eq_self (hfirst : ∀ c ∈ t.head?, isBlank c = false)
    (hlast : ∀ c ∈ t.getLast?, isBlank c = false) : trim t = t := by
  have hkeep : ∀ {t : Text}, (∀ c ∈ t.head?, isBlank c = false) → t.dropWhile isBlank = t := by
    intro t h
    cases t with
    | nil => rfl
    | cons c t => exact List.dropWhile_cons_of_neg (by simp [h c rfl])
  have hreverse : t.reverse.dropWhile isBlank = t.reverse := by
    refine hkeep fun c hc => hlast c ?_
    rw [List.head?_reverse] at hc
    exact hc
  rw [trim, trimStart, hkeep hfirst, trimEnd, hreverse, List.reverse_reverse]

theorem splitWord_fst_subset (t : Text) : (splitWord t).1 ⊆ t :=
  List.Subset.trans (List.takeWhile_prefix _).subset (trim_subset t)

theorem splitWord_snd_subset (t : Text) : (splitWord t).2 ⊆ t :=
  List.Subset.trans (trim_subset _)
    (List.Subset.trans (List.dropWhile_suffix _).subset (trim_subset t))

theorem mem_of_mem_pieces (h : p ∈ pieces cut t) : ∀ c ∈ p, c ∈ t ∧ cut c = false := by
  induction t generalizing p with
  | nil =>
    obtain rfl := List.mem_singleton.mp h
    intro c hc
    cases hc
  | cons d ds ih =>
    have hlater : ∀ q ∈ pieces cut ds, ∀ c ∈ q, c ∈ d :: ds ∧ cut c = false :=
      fun q hq c hc => ⟨List.mem_cons_of_mem _ (ih hq c hc).1, (ih hq c hc).2⟩
    rw [pieces] at h
    -- the character in front is cut at, or it starts the first of the pieces behind it
    split at h
    · next hnone => exact absurd hnone (pieces_ne_nil cut ds)
    · next q qs hpieces =>
      rw [hpieces] at hlater
      split at h
      · rcases List.mem_cons.mp h with rfl | h
        · intro c hc
          cases hc
        · exact hlater p h
      · next hd =>
        rcases List.mem_cons.mp h with rfl | h
        · intro c hc
          rcases List.mem_cons.mp hc with rfl | hc
          · exact ⟨List.mem_cons_self, Bool.eq_false_iff.mpr hd⟩
          · exact hlater q List.mem_cons_self c hc
        · exact hlater p (List.mem_cons_of_mem _ h)

theorem subset_of_mem_words (h : p ∈ words t) : p ⊆ t :=
  fun c hc => (mem_of_mem_pieces (List.mem_of_mem_filter h) c hc).1

theorem subset_of_splitFirst {d : Char} (h : splitFirst d t = some (before, after)) :
    before ⊆ t ∧ after ⊆ t := by
  induction t generalizing before with
  | nil => cases h
  | cons c cs ih =>
    rw [splitFirst] at h
    split at h
    · cases h
      exact ⟨List.nil_subset _, List.subset_cons_self _ _⟩
    · obtain ⟨⟨first, last⟩, hrest, hsplit⟩ := Option.map_eq_some_iff.mp h
      cases hsplit
      obtain ⟨hfirst, hlast⟩ := ih hrest
      exact ⟨List.cons_subset_cons c hfirst, List.Subset.trans hlast (List.subset_cons_self c cs)⟩

theorem subset_of_splitLast (h : splitLast cut t = some (before, after)) :
    before ⊆ t ∧ after ⊆ t := by
  induction t generalizing before with
  | nil => cases h
  | cons c cs ih =>
    rw [splitLast] at h
    split at h
    · next hrest =>
      cases h
      obtain ⟨hfirst, hlast⟩ := ih hrest
      exact ⟨List.cons_subset_cons c hfirst, List.Subset.trans hlast (List.subset_cons_self c cs)⟩
    · split at h
      · cases h
        exact ⟨List.nil_subset _, List.subset_cons_self _ _⟩
      · cases h

theorem dropReturn_subset (t : Text) : dropReturn t ⊆ t := by
  unfold dropReturn
  split
  · exact (List.dropLast_prefix t).subset
  · exact List.Subset.refl t

/-- A line has no line feed. -/
theorem not_mem_of_mem_lines {line : Text} (h : line ∈ lines t) : '\n' ∉ line := by
  have hpiece : ∀ p ∈ pieces (· == '\n') t, '\n' ∉ p := by
    intro p hp hc
    exact absurd (mem_of_mem_pieces hp _ hc).2 (by decide)
  have hcut : ∀ p ∈ (pieces (· == '\n') t).dropLast.map dropReturn, '\n' ∉ p := by
    intro p hp hc
    obtain ⟨q, hq, rfl⟩ := List.mem_map.mp hp
    exact hpiece q ((List.dropLast_prefix _).subset hq) (dropReturn_subset q hc)
  unfold lines at h
  simp only at h
  split at h
  · exact hcut line h
  · exact hcut line h
  · next last _ hlast =>
    rcases List.mem_append.mp h with h | h
    · exact hcut line h
    · obtain rfl := List.mem_singleton.mp h
      exact hpiece line (List.mem_of_getLast? hlast)

end Text

namespace Condition

variable {left right : Text}

theorem mem_of_mem_padded {inQuotes afterWord : Bool} {t : Text} {c : Char}
    (h : c ∈ padded inQuotes afterWord t) : c = ' ' ∨ c ∈ t := by
  fun_induction padded inQuotes afterWord t with
  | case1 _ _ rest _ ih =>
    simp only [List.mem_cons] at h ⊢
    tauto
  | case2 _ _ rest _ ih =>
    simp only [List.mem_cons] at h ih ⊢
    tauto
  | case3 _ _ rest _ ih =>
    simp only [List.mem_cons] at h ⊢
    tauto
  | case4 _ _ rest _ ih =>
    simp only [List.mem_cons] at h ih ⊢
    tauto
  | case5 _ _ d rest _ _ ih =>
    rw [List.mem_cons] at h ⊢
    tauto
  | case6 => exact .inr h

theorem subset_of_take? {t : Text} {op : Comparison} (h : Comparison.take? t = some (op, right)) :
    right ⊆ t := by
  unfold Comparison.take? at h
  split at h
  all_goals cases h
  all_goals
    intro c hc
    simp only [List.mem_cons, hc, or_true]

theorem subset_of_split {inQuotes skip : Bool} {t : Text} {op : Comparison}
    (h : split inQuotes skip t = some (left, op, right)) : left ⊆ t ∧ right ⊆ t := by
  induction t generalizing inQuotes skip left with
  | nil => cases h
  | cons c cs ih =>
    unfold split at h
    simp only at h
    split at h
    · next op' right' hfound =>
      cases h
      split at hfound
      · cases hfound
      · obtain ⟨htake, -⟩ := Option.filter_eq_some_iff.mp hfound
        exact ⟨List.nil_subset _, subset_of_take? htake⟩
    · obtain ⟨⟨first, last⟩, hrest, hsplit⟩ := Option.map_eq_some_iff.mp h
      cases hsplit
      obtain ⟨hfirst, hlast⟩ := ih hrest
      exact ⟨List.cons_subset_cons c hfirst, List.Subset.trans hlast (List.subset_cons_self c cs)⟩

end Condition

end LineScript
