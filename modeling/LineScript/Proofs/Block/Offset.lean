import LineScript.Json.Fault
import LineScript.Proofs.Block.Mark

/-!
# Keywords found by their bytes

A keyword can be looked for on the bytes of a line: the line is cut behind as many bytes as the keyword
has, what stands in front is compared with the keyword, and what stands behind is looked at after a second
cut at the same place. The first cut may fall inside a character; the second never does, since it is made
only behind a keyword, and so the test has an answer for every line, the one that the test on characters
gives (`isKeywordLineAt?_eq`). With it an opener is what starts a block, and no line has two roles
(`roles_settled`).
-/

namespace LineScript

namespace Text

theorem byteCount_cons (c : Char) (t : Text) : byteCount (c :: t) = c.utf8Size + byteCount t := by
  have hstart : ∀ (t : Text) (n : Nat), t.foldl (fun n c => n + c.utf8Size) n = n + byteCount t := by
    intro t
    induction t with
    | nil => exact fun n => rfl
    | cons d t ih =>
      intro n
      have hzero : byteCount (d :: t) = 0 + d.utf8Size + byteCount t := ih (0 + d.utf8Size)
      rw [List.foldl_cons, ih, hzero]
      omega
  rw [byteCount, List.foldl_cons, hstart, Nat.zero_add]

/-- A text cut behind its first `n` bytes; none if it has fewer, or if the cut would fall inside a
character. -/
def cutBytes? (n : Nat) : Text → Option (Text × Text)
  | [] => if n = 0 then some ([], []) else none
  | c :: t =>
    if n = 0 then some ([], c :: t)
    else if c.utf8Size ≤ n then
      (cutBytes? (n - c.utf8Size) t).map fun (front, behind) => (c :: front, behind)
    else none

theorem cutBytes?_eq_some_iff {n : Nat} {t front behind : Text} :
    cutBytes? n t = some (front, behind) ↔ t = front ++ behind ∧ byteCount front = n := by
  induction t generalizing n front with
  | nil =>
    unfold cutBytes?
    constructor
    · intro h
      split at h
      · next hn =>
        cases h
        exact ⟨rfl, hn.symm⟩
      · cases h
    · rintro ⟨ht, rfl⟩
      obtain ⟨rfl, rfl⟩ := List.append_eq_nil_iff.mp ht.symm
      rfl
  | cons c t ih =>
    -- a cut inside the first character is refused, and behind it the induction hypothesis applies
    have hsize := c.utf8Size_pos
    unfold cutBytes?
    constructor
    · intro h
      split at h
      · next hn =>
        cases h
        exact ⟨rfl, hn.symm⟩
      · split at h
        · next hfits =>
          obtain ⟨⟨front', behind'⟩, hcut, heq⟩ := Option.map_eq_some_iff.mp h
          cases heq
          obtain ⟨rfl, hcount⟩ := ih.mp hcut
          exact ⟨rfl, by rw [byteCount_cons, hcount]; omega⟩
        · cases h
    · rintro ⟨ht, rfl⟩
      cases front with
      | nil =>
        rw [if_pos (show byteCount [] = 0 from rfl), ht]
        rfl
      | cons d front =>
        obtain ⟨rfl, htail⟩ := List.cons.inj (ht.trans List.cons_append)
        have hcut := ih.mpr ⟨htail, rfl⟩
        rw [byteCount_cons, if_neg (by omega), if_pos (by omega), Nat.add_sub_cancel_left, hcut]
        rfl

def isAscii (t : Text) : Bool := t.all fun c => c.toNat < 0x80

theorem byteCount_of_isAscii {t : Text} (h : isAscii t = true) : byteCount t = t.length := by
  induction t with
  | nil => rfl
  | cons c t ih =>
    obtain ⟨hc, ht⟩ := Bool.and_eq_true_iff.mp h
    have hval : c.val ≤ 0x7F := UInt32.le_iff_toNat_le.mpr (Nat.le_of_lt_succ (of_decide_eq_true hc))
    rw [byteCount_cons, ih ht, Char.utf8Size_eq_one_iff.mpr hval, List.length_cons, Nat.add_comm]

theorem toNat_toLower_lt (c : Char) : c.toLower.toNat < 0x80 ↔ c.toNat < 0x80 := by
  unfold Char.toLower
  split
  · next hcapital =>
    have hlow : 0x41 ≤ c.val.toNat := UInt32.le_iff_toNat_le.mp hcapital.1
    have hhigh : c.val.toNat ≤ 0x5A := UInt32.le_iff_toNat_le.mp hcapital.2
    have hsum : (c.val + 32).toNat = c.val.toNat + 32 := by
      rw [UInt32.toNat_add, show (32 : UInt32).toNat = 32 from rfl]
      omega
    show (c.val + 32).toNat < 0x80 ↔ c.val.toNat < 0x80
    omega
  · exact Iff.rfl

theorem isAscii_lower (t : Text) : isAscii (lower t) = isAscii t := by
  unfold isAscii lower
  rw [List.all_map]
  congr 1
  funext c
  exact decide_eq_decide.mpr (toNat_toLower_lt c)

theorem isAscii_of_sameWord {t u : Text} (h : sameWord t u = true) (hu : isAscii u = true) :
    isAscii t = true := by
  rw [← isAscii_lower, sameWord_iff.mp h, isAscii_lower, hu]

end Text

namespace Block

open Text (byteCount cutBytes? isAscii sameWord)

/-- Whether a line starts with a keyword, in any case, and then ends or goes on with a blank, as it is
found on the bytes of the line; none if the line cannot be cut behind the keyword. -/
def isKeywordLineAt? (keyword line : Text) : Option Bool :=
  match cutBytes? (byteCount keyword) line with
  | none => some false
  | some (front, _) =>
    if sameWord front keyword then
      (cutBytes? (byteCount keyword) line).map fun (_, behind) => behind.head?.all Text.isBlank
    else some false

theorem isKeywordLineAt?_eq {keyword : Text} (hkeyword : isAscii keyword = true) (line : Text) :
    isKeywordLineAt? keyword line = some (isKeywordLine keyword line) := by
  -- characters that are the keyword are as many bytes, so that the line is cut behind them
  have hcut : sameWord (line.take keyword.length) keyword = true →
      cutBytes? (byteCount keyword) line =
        some (line.take keyword.length, line.drop keyword.length) := by
    intro hsame
    have hcount : byteCount (line.take keyword.length) = byteCount keyword := by
      rw [Text.byteCount_of_isAscii (Text.isAscii_of_sameWord hsame hkeyword),
        Text.byteCount_of_isAscii hkeyword, Text.length_of_sameWord hsame]
    exact Text.cutBytes?_eq_some_iff.mpr ⟨(List.take_append_drop _ _).symm, hcount⟩
  have hother : ¬ sameWord (line.take keyword.length) keyword = true →
      isKeywordLine keyword line = false := by
    intro hsame
    rw [isKeywordLine, (Bool.not_eq_true _).mp hsame, Bool.false_and]
  unfold isKeywordLineAt?
  cases hfound : cutBytes? (byteCount keyword) line with
  | none =>
    refine congrArg some (hother fun hsame => ?_).symm
    rw [hcut hsame] at hfound
    cases hfound
  | some parts =>
    obtain ⟨front, behind⟩ := parts
    by_cases hfront : sameWord front keyword = true
    · obtain ⟨rfl, -⟩ := Text.cutBytes?_eq_some_iff.mp hfound
      rw [isKeywordLine, ← Text.length_of_sameWord hfront, List.take_left, List.drop_left, hfront,
        Bool.true_and]
      simp only [hfront, if_true, Option.map_some]
    · have hnot : ¬ sameWord (line.take keyword.length) keyword = true := by
        intro hsame
        rw [hcut hsame] at hfound
        cases hfound
        exact hfront hsame
      rw [hother hnot]
      simp only [hfront, Bool.false_eq_true, if_false]

theorem Mark.isAscii_keyword (mark : Mark) : isAscii mark.keyword = true := by
  have hall : ∀ m ∈ Mark.all, isAscii m.keyword = true := by decide
  exact hall mark mark.mem_all

/-- The kind of the block that a tree starts with; none if it starts with a line outside all blocks. -/
def leading? : Block → Option Kind
  | done | line _ _ => none
  | func _ _ _ _ => some .func
  | branch _ _ _ _ | divided _ _ _ _ _ _ => some .branch
  | loop _ _ _ _ => some .loop
  | unclosed kind _ _ => some kind

theorem leading?_ofLines (scan : Scan) (line : Text) (rest : List Text) :
    (ofLines scan (line :: rest)).leading? = (header? line).map (·.1) := by
  rw [ofLines]
  cases header? line with
  | none => rfl
  | some header =>
    obtain ⟨kind, content⟩ := header
    simp only
    split
    · rfl
    · cases kind with
      | func => rfl
      | loop => rfl
      | branch =>
        simp only
        split <;> rfl

theorem leading?_eq_some_iff {scan : Scan} {line : Text} {rest : List Text} {kind : Kind} :
    (ofLines scan (line :: rest)).leading? = some kind ↔ kind.opens line = true := by
  rw [leading?_ofLines, Option.map_eq_some_iff]
  constructor
  · rintro ⟨⟨_, content⟩, hheader, rfl⟩
    exact opens_of_header? hheader
  · exact fun h => ⟨_, header?_of_opens h, rfl⟩

/-- The search and the run agree on the openers, and a line has one role. Lines, whatever follows them and
however their closers are found, start a block of a kind exactly if the first word of the first of them is
the kind's word, and exactly if the search finds that word on its bytes. The search has an answer for every
keyword on every line, which is whether the line has that mark, and no line has two marks. -/
theorem roles_settled (line : Text) :
    (∀ (kind : Kind) (scan : Scan) (rest : List Text),
      ((ofLines scan (line :: rest)).leading? = some kind ↔
        isKeywordLineAt? kind.opener.toList (Text.trim line) = some true) ∧
      ((ofLines scan (line :: rest)).leading? = some kind ↔
        sameWord (Text.splitWord line).1 kind.opener.toList = true)) ∧
    (∀ mark : Mark, isKeywordLineAt? mark.keyword (Text.trim line) = some (mark.marks line)) ∧
    ∀ m m' : Mark, isKeywordLineAt? m.keyword (Text.trim line) = some true →
      isKeywordLineAt? m'.keyword (Text.trim line) = some true → m = m' := by
  have hanswer : ∀ mark : Mark,
      isKeywordLineAt? mark.keyword (Text.trim line) = some (mark.marks line) :=
    fun mark => isKeywordLineAt?_eq mark.isAscii_keyword _
  refine ⟨fun kind scan rest => ⟨?_, ?_⟩, hanswer, fun m m' hm hm' => ?_⟩
  · have hopener := hanswer (.opener kind)
    rw [marks_opener] at hopener
    rw [leading?_eq_some_iff]
    exact hopener ▸ Option.some_inj.symm
  · have hsmall : Text.lower kind.opener.toList = kind.opener.toList := by cases kind <;> decide
    rw [leading?_eq_some_iff, Kind.opens_eq, sameWord, hsmall]
  · rw [hanswer] at hm hm'
    exact Mark.eq_of_marks (Option.some.inj hm) (Option.some.inj hm')

/-- A capital, a wide blank behind the word, and a character of two bytes across the place where a longer
keyword would end: the line opens a branch, and closes and divides nothing. -/
theorem roles_settled_wide :
    let line := "\u3000If\u2003é begin".toList
    isKeywordLineAt? (Mark.opener .branch).keyword (Text.trim line) = some true ∧
      (∀ rest, (ofLines .nested (line :: rest)).leading? = some .branch) ∧
      ∀ mark : Mark, mark.marks line = true → mark = .opener .branch := by
  intro line
  have hopener : isKeywordLineAt? (Mark.opener .branch).keyword (Text.trim line) = some true := by
    decide +kernel
  obtain ⟨hopens, hanswer, hone⟩ := roles_settled line
  refine ⟨hopener, fun rest => (hopens .branch .nested rest).1.mpr hopener, fun mark hmark => ?_⟩
  exact hone mark (.opener .branch) (by rw [hanswer, hmark]) hopener

end Block

end LineScript
