import LineScript.Block.Run
import Mathlib.Tactic.Common

/-!
# Marks: the lines that open, divide and close blocks

A mark is a part that a line can play in a block, known by its keyword.  `Kind.opens`, `Kind.closes`
and `divides` are the same test with different keywords, so what holds of them is proved once for
marks: a line has at most one mark (`Mark.eq_of_marks`), and the opener that a search counts is the
header that a run acts on (`header?_of_opens`).
-/

namespace LineScript

namespace Text

theorem isBlank_toLower (c : Char) : isBlank c.toLower = isBlank c := by
  by_cases hc : 'A' ≤ c ∧ c ≤ 'Z'
  · -- a capital and its small letter both lie between U+0021 and U+007F, where nothing is blank
    have hlow : 0x41 ≤ c.toNat := UInt32.le_iff_toNat_le.mp hc.1
    have hhigh : c.toNat ≤ 0x5A := UInt32.le_iff_toNat_le.mp hc.2
    have hsmall : c.toLower.toNat = c.toNat + 32 := by
      unfold Char.toLower
      rw [dif_pos ⟨hc.1, hc.2⟩]
      show (c.val + 32).toNat = c.val.toNat + 32
      rw [UInt32.toNat_add]
      have hval : c.val.toNat = c.toNat := rfl
      rw [show (32 : UInt32).toNat = 32 from rfl, hval]
      omega
    simp only [isBlank, hsmall]
    grind
  · have hsame : c.toLower = c := by
      unfold Char.toLower
      exact dif_neg hc
    rw [hsame]

theorem all_isBlank_lower {p : Bool → Bool} (t : Text) :
    ((lower t).all fun c => p (isBlank c)) = t.all fun c => p (isBlank c) := by
  simp only [lower, List.all_map]
  congr 1
  funext c
  exact congrArg p (isBlank_toLower c)

theorem length_lower (t : Text) : (lower t).length = t.length := List.length_map _

theorem sameWord_iff {t u : Text} : sameWord t u = true ↔ lower t = lower u := by
  simp [sameWord]

theorem length_of_sameWord {t u : Text} (h : sameWord t u = true) : t.length = u.length := by
  rw [← length_lower t, ← length_lower u, sameWord_iff.mp h]

end Text

namespace Block

open Text (isBlank lower sameWord)

/-- A keyword without blanks is at the start of a text as a whole word exactly if it is the text's
first word. -/
theorem isKeywordLine_eq {keyword : Text} (hkeyword : keyword.all (!isBlank ·) = true) (t : Text) :
    isKeywordLine keyword t = sameWord (t.takeWhile (!isBlank ·)) keyword := by
  rw [Bool.eq_iff_iff]
  constructor
  · intro h
    obtain ⟨hsame, hrest⟩ := Bool.and_eq_true_iff.mp h
    -- what stands in front is the keyword up to case, so it has no blank either
    have hword : (t.take keyword.length).all (!isBlank ·) = true := by
      rw [← Text.all_isBlank_lower (p := (!·)), Text.sameWord_iff.mp hsame,
        Text.all_isBlank_lower (p := (!·))]
      exact hkeyword
    have hstop : (t.drop keyword.length).takeWhile (!isBlank ·) = [] := by
      cases hd : t.drop keyword.length with
      | nil => rfl
      | cons c rest =>
        rw [hd] at hrest
        exact List.takeWhile_cons_of_neg (by simpa using hrest)
    have hfirst : t.takeWhile (!isBlank ·) = t.take keyword.length := by
      conv_lhs => rw [← List.take_append_drop keyword.length t]
      rw [List.takeWhile_append_of_pos (List.all_eq_true.mp hword), hstop, List.append_nil]
    rw [hfirst]
    exact hsame
  · intro h
    -- the first word is as long as the keyword: the text is cut at the same place
    have hlength := Text.length_of_sameWord h
    have hcut := List.takeWhile_append_dropWhile (p := (!isBlank ·)) (l := t)
    have htake : t.take keyword.length = t.takeWhile (!isBlank ·) := by
      conv_lhs => rw [← hcut]
      rw [← hlength, List.take_left]
    have hdrop : t.drop keyword.length = t.dropWhile (!isBlank ·) := by
      conv_lhs => rw [← hcut]
      rw [← hlength, List.drop_left]
    rw [isKeywordLine, htake, hdrop, Bool.and_eq_true_iff]
    refine ⟨h, ?_⟩
    cases hd : t.dropWhile (!isBlank ·) with
    | nil => rfl
    | cons c rest =>
      have hhead := List.head?_dropWhile_not (!isBlank ·) t
      rw [hd] at hhead
      simpa using hhead

inductive Mark where
  | opener (kind : Kind)
  | closer (kind : Kind)
  | divider
deriving DecidableEq

def Mark.keyword : Mark → Text
  | opener kind => kind.opener.toList
  | closer kind => kind.closer.toList
  | divider => Block.divider.toList

def Mark.marks (mark : Mark) (line : Text) : Bool := isKeywordLine mark.keyword (Text.trim line)

@[simp] theorem marks_opener (kind : Kind) (line : Text) :
    (Mark.opener kind).marks line = kind.opens line := rfl

def Mark.all : List Mark :=
  [.opener .func, .opener .branch, .opener .loop, .closer .func, .closer .branch, .closer .loop,
   .divider]

theorem Mark.mem_all (mark : Mark) : mark ∈ Mark.all := by
  cases mark with
  | opener kind => cases kind <;> decide
  | closer kind => cases kind <;> decide
  | divider => decide

theorem getElem?_of_isKeywordLine {keyword t : Text} (h : isKeywordLine keyword t = true) {i : Nat}
    (hi : i < keyword.length) : (lower t)[i]? = (lower keyword)[i]? := by
  have hsame := Text.sameWord_iff.mp (Bool.and_eq_true_iff.mp h).1
  rw [← hsame, lower, lower, List.getElem?_map, List.getElem?_map, List.getElem?_take_of_lt hi]

/-- No keyword starts with another one: any two differ at a place that both have. -/
theorem Mark.keywords_differ : ∀ m ∈ Mark.all, ∀ m' ∈ Mark.all, m ≠ m' →
    ∃ i ∈ List.range 8, i < m.keyword.length ∧ i < m'.keyword.length ∧
      (lower m.keyword)[i]? ≠ (lower m'.keyword)[i]? := by
  decide

/-- A line has at most one mark. -/
theorem Mark.eq_of_marks {m m' : Mark} {line : Text} (h : m.marks line = true)
    (h' : m'.marks line = true) : m = m' := by
  apply Decidable.byContradiction
  intro hne
  -- the line would have both keywords in front, and these differ at some place
  obtain ⟨i, -, hi, hi', hdiffer⟩ := Mark.keywords_differ m m.mem_all m' m'.mem_all hne
  exact hdiffer ((getElem?_of_isKeywordLine h hi).symm.trans (getElem?_of_isKeywordLine h' hi'))

theorem Mark.not_marks (m m' : Mark) {line : Text} (h : m.marks line = true) (hne : m' ≠ m) :
    m'.marks line = false := by
  rw [← Bool.not_eq_true]
  intro h'
  exact hne (Mark.eq_of_marks h' h)

/-! ## Openers are headers -/

theorem Kind.opens_eq (kind : Kind) (line : Text) :
    kind.opens line = (lower (Text.splitWord line).1 == kind.opener.toList) := by
  have hkeyword : kind.opener.toList.all (!isBlank ·) = true := by cases kind <;> decide
  have hsmall : lower kind.opener.toList = kind.opener.toList := by cases kind <;> decide
  rw [opens, isKeywordLine_eq hkeyword, sameWord, hsmall]
  rfl

theorem header?_of_opens {kind : Kind} {line : Text} (h : kind.opens line = true) :
    header? line = some (kind, headerOf line) := by
  have hword := eq_of_beq ((Kind.opens_eq kind line).symm.trans h)
  unfold header? headerOf
  simp only [hword]
  cases kind <;> rfl

theorem opens_of_header? {kind : Kind} {line rest : Text} (h : header? line = some (kind, rest)) :
    kind.opens line = true := by
  rw [Kind.opens_eq]
  unfold header? at h
  simp only at h
  split at h
  · next hfunc => cases h; exact hfunc
  · split at h
    · next hbranch => cases h; exact hbranch
    · split at h
      · next hloop => cases h; exact hloop
      · cases h

theorem header?_eq_none_iff {line : Text} :
    header? line = none ↔ ∀ kind : Kind, kind.opens line = false := by
  constructor
  · intro h kind
    rw [← Bool.not_eq_true]
    intro hopens
    rw [header?_of_opens hopens] at h
    cases h
  · intro h
    cases hheader : header? line with
    | none => rfl
    | some found =>
      have hopens := opens_of_header? hheader
      rw [h found.1] at hopens
      cases hopens

end Block

end LineScript
