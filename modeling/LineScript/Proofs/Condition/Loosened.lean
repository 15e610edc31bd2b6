import LineScript.Proofs.Condition.Tokens
import LineScript.Proofs.Expression.Summands
import LineScript.Proofs.Text.OneLine
import Mathlib.Data.List.DropRight
import Mathlib.Data.List.TakeWhile

/-!
# Blanks around words

`Loosened` relates a text to the same text with blanks set around some of its words `and` and `or`,
outside double quotes; padding loosens a text (`Loosened.of_padded`).  Every reader of conditions and
expressions takes the two texts apart alike: their cuts, summands and trimmed texts are loosened pair
by pair, and they have the same tokens if single quotes stand in double quotes only
(`Loosened.ofText?_eq`).
-/

namespace LineScript

theorem Text.trimEnd_append (s t : Text) :
    trimEnd (s ++ t) = if trimEnd t = [] then trimEnd s else s ++ trimEnd t := by
  unfold trimEnd
  rw [List.reverse_append, List.dropWhile_append]
  by_cases h : t.reverse.dropWhile isBlank = []
  · simp [h]
  · simp [h, List.isEmpty_iff]

theorem Text.trimEnd_prefix (t : Text) : trimEnd t <+: t := List.rdropWhile_prefix isBlank t

theorem Text.trimEnd_eq_nil {t : Text} : trimEnd t = [] ↔ ∀ c ∈ t, isBlank c = true :=
  List.rdropWhile_eq_nil_iff

theorem Text.trim_eq_nil {t : Text} : trim t = [] ↔ ∀ c ∈ t, isBlank c = true := by
  unfold trim trimStart
  rw [trimEnd_eq_nil]
  constructor
  · intro h c hc
    rw [← List.takeWhile_append_dropWhile (p := isBlank) (l := t), List.mem_append] at hc
    rcases hc with hc | hc
    · exact List.mem_takeWhile_imp hc
    · exact h c hc
  · exact fun h c hc => h c ((List.dropWhile_suffix isBlank).subset hc)

theorem Text.exists_gaps (t : Text) : ∃ before behind, (∀ c ∈ before, isBlank c = true) ∧
    (∀ c ∈ behind, isBlank c = true) ∧ trimStart t = trim t ++ behind ∧ t = before ++ trimStart t := by
  obtain ⟨behind, hbehind⟩ := trimEnd_prefix (trimStart t)
  refine ⟨t.takeWhile isBlank, behind, fun c hc => List.mem_takeWhile_imp hc, ?_, hbehind.symm,
    (List.takeWhile_append_dropWhile (p := isBlank) (l := t)).symm⟩
  have hkept := trimEnd_append (trimEnd (trimStart t)) behind
  rw [hbehind] at hkept
  by_cases hblank : trimEnd behind = []
  · exact trimEnd_eq_nil.mp hblank
  · rw [if_neg hblank] at hkept
    exact absurd (List.self_eq_append_right.mp hkept) hblank

theorem Text.trim_between {left right : Text} (hleft : trim left ≠ []) (hright : trim right ≠ [])
    (middle : Text) :
    trim (left ++ (middle ++ right)) = trimStart left ++ (middle ++ trimEnd right) := by
  have hstart : trimStart left ≠ [] := fun hnil => hleft (by rw [trim, hnil]; rfl)
  have hend : trimEnd right ≠ [] := fun hnil => hright (trim_eq_nil.mpr (trimEnd_eq_nil.mp hnil))
  have hmiddle : trimEnd (middle ++ right) = middle ++ trimEnd right := by
    rw [trimEnd_append, if_neg hend]
  have hfront : trimStart (left ++ (middle ++ right)) = trimStart left ++ (middle ++ right) := by
    unfold trimStart at hstart ⊢
    rw [List.dropWhile_append, if_neg (by simpa using hstart)]
  rw [trim, hfront, trimEnd_append, hmiddle, if_neg (by simp [hend])]

theorem Text.trim_trim (t : Text) : trim (trim t) = trim t := by
  have hstart : trimStart (trim t) = trim t := by
    unfold trimStart
    cases hu : trim t with
    | nil => rfl
    | cons c u =>
      have hprefix : c :: u <+: trimStart t := hu ▸ trimEnd_prefix (trimStart t)
      obtain ⟨v, hv⟩ := hprefix
      have hblank : isBlank c = false := isBlank_head_trimStart (t := t) (by rw [← hv]; rfl)
      exact List.dropWhile_cons_of_neg (by simp [hblank])
  have hend : trimEnd (trim t) = trim t := List.rdropWhile_idempotent isBlank (trimStart t)
  show trimEnd (trimStart (trim t)) = trim t
  rw [hstart, hend]

namespace Condition

def keywords : List Text := ["and".toList, "or".toList]

/-- The second text is the first with blanks set around some words `and` and `or` in it.  `inQuotes`
tells whether the texts start inside double quotes, `afterWord` whether a word may go on there. -/
inductive Loosened : Bool → Bool → Text → Text → Prop
  | nil {inQuotes afterWord : Bool} : Loosened inQuotes afterWord [] []
  | char {inQuotes afterWord : Bool} {c : Char} {t p : Text}
      (h : Loosened (inQuotes != (c == '"')) (Text.isWordChar c) t p) :
      Loosened inQuotes afterWord (c :: t) (c :: p)
  | word {k before behind t p : Text} (hk : k ∈ keywords)
      (hbefore : ∀ c ∈ before, Text.isBlank c = true)
      (hbehind : ∀ c ∈ behind, Text.isBlank c = true) (hends : endsWord t = true)
      (h : Loosened false false t p) :
      Loosened false false (k ++ t) (before ++ (k ++ (behind ++ p)))

theorem mem_keywords {k : Text} : k ∈ keywords ↔ k = "and".toList ∨ k = "or".toList := by
  simp [keywords]

theorem of_keyword {P : Char → Prop} (h : ∀ c ∈ "andor".toList, P c) {k : Text} (hk : k ∈ keywords) :
    ∀ c ∈ k, P c := by
  have hletters : ∀ k ∈ keywords, (k.all fun c => decide (c ∈ "andor".toList)) = true := by decide
  exact fun c hc => h c (of_all (hletters k hk) c hc)

theorem of_spaced_keyword {P : Char → Prop} (hblank : ∀ c, Text.isBlank c = true → P c)
    {k before behind : Text} (hk : ∀ c ∈ k, P c) (hbefore : ∀ c ∈ before, Text.isBlank c = true)
    (hbehind : ∀ c ∈ behind, Text.isBlank c = true) : ∀ c ∈ before ++ (k ++ behind), P c := by
  intro c hc
  rcases List.mem_append.mp hc with hc | hc
  · exact hblank c (hbefore c hc)
  · exact (List.mem_append.mp hc).elim (hk c) fun hc => hblank c (hbehind c hc)

theorem exists_keyword {k : Text} (hk : k ∈ keywords) :
    ∃ c t, k = c :: t ∧ (c = 'a' ∨ c = 'o') := by
  rcases mem_keywords.mp hk with rfl | rfl
  · exact ⟨'a', _, rfl, .inl rfl⟩
  · exact ⟨'o', _, rfl, .inr rfl⟩

theorem keyword_ne_nil {k : Text} (hk : k ∈ keywords) : k ≠ [] := by
  obtain ⟨c, t, rfl, -⟩ := exists_keyword hk
  exact List.cons_ne_nil c t

theorem trimEnd_keyword {k : Text} (hk : k ∈ keywords) : Text.trimEnd k = k := by
  rcases mem_keywords.mp hk with rfl | rfl <;> rfl

theorem endsWord_cons {c : Char} {t : Text} : endsWord (c :: t) = !Text.isWordChar c := rfl

theorem endsWord_front {s t : Text} (h : s <+: t) (ht : endsWord t = true) :
    endsWord s = true := by
  obtain ⟨rest, rfl⟩ := h
  cases s with
  | nil => rfl
  | cons c s => exact ht

theorem endsWord_behind {gap t : Text} (hgap : ∀ c ∈ gap, Text.isBlank c = true)
    (ht : endsWord t = true) : endsWord (gap ++ t) = true := by
  cases gap with
  | nil => exact ht
  | cons c gap =>
    rw [List.cons_append, endsWord_cons, Arith.not_isWordChar_of_isBlank (hgap c List.mem_cons_self)]
    rfl

/-- The same is taken off the front of two texts, or nothing, and what is left is loosened. -/
def TakesAlike {α : Type} (x y : Option (α × Text)) : Prop :=
  ∃ (a : Option α) (r r' : Text), x = a.map (fun a => (a, r)) ∧ y = a.map (fun a => (a, r')) ∧
    Loosened false false r r'

theorem TakesAlike.of_map {α β : Type} (x : Option α) (f : α → β) {r r' : Text}
    (h : Loosened false false r r') :
    TakesAlike (x.map fun a => (f a, r)) (x.map fun a => (f a, r')) := by
  refine ⟨x.map f, r, r', ?_, ?_, h⟩
  · rw [Option.map_map]; rfl
  · rw [Option.map_map]; rfl

theorem TakesAlike.map {α β : Type} {x y : Option (α × Text)} (h : TakesAlike x y) (f : α → β) :
    TakesAlike (x.map fun (a, r) => (f a, r)) (y.map fun (a, r) => (f a, r)) := by
  obtain ⟨a, r, r', rfl, rfl, hrest⟩ := h
  rw [Option.map_map, Option.map_map]
  exact .of_map a f hrest

namespace Loosened

variable {q w : Bool} {t p : Text} {c : Char}

theorem plain (hc : c ≠ '"') (h : Loosened q (Text.isWordChar c) t p) :
    Loosened q w (c :: t) (c :: p) := by
  refine char ?_
  rw [beq_false_of_ne hc, Bool.bne_false]
  exact h

theorem fresh (h : Loosened q w t p) : Loosened q false t p := by
  cases h with
  | nil => exact nil
  | char h => exact char h
  | word hk hbefore hbehind hends h => exact word hk hbefore hbehind hends h

theorem of_padded (q w : Bool) (t : Text) : Loosened q w t (padded q w t) := by
  have hblank : ∀ c ∈ [' '], Text.isBlank c = true := List.forall_mem_singleton.mpr (by decide)
  fun_induction padded q w t with
  | case1 q w rest hset ih =>
    simp only [Bool.and_eq_true, Bool.not_eq_true'] at hset
    obtain ⟨⟨rfl, rfl⟩, hends⟩ := hset
    exact word (k := "and".toList) (by decide) hblank hblank hends ih
  | case2 q w rest _ ih => exact plain (by decide) ih
  | case3 q w rest hset ih =>
    simp only [Bool.and_eq_true, Bool.not_eq_true'] at hset
    obtain ⟨⟨rfl, rfl⟩, hends⟩ := hset
    exact word (k := "or".toList) (by decide) hblank hblank hends ih
  | case4 q w rest _ ih => exact plain (by decide) ih
  | case5 q w c rest _ _ ih => exact char ih
  | case6 => exact nil

theorem nil_iff (h : Loosened q w t p) : t = [] ↔ p = [] := by
  cases h with
  | nil => exact Iff.rfl
  | char _ => simp
  | word hk _ _ _ _ =>
    obtain ⟨c, k, rfl, -⟩ := exists_keyword hk
    simp

theorem endsWord (h : Loosened q w t p) (ht : endsWord t = true) : endsWord p = true := by
  cases h with
  | nil => rfl
  | char _ => exact ht
  | word hk _ _ _ _ =>
    obtain ⟨c, k, rfl, hc⟩ := exists_keyword hk
    rw [List.cons_append, endsWord_cons] at ht
    rcases hc with rfl | rfl <;> exact absurd ht (by decide)

/-! ## Trimming -/

theorem all_blank_iff (h : Loosened q w t p) :
    (∀ c ∈ t, Text.isBlank c = true) ↔ ∀ c ∈ p, Text.isBlank c = true := by
  induction h with
  | nil => exact Iff.rfl
  | char _ ih => rw [List.forall_mem_cons, List.forall_mem_cons, ih]
  | word hk _ _ _ _ ih =>
    obtain ⟨c, k, rfl, hc⟩ := exists_keyword hk
    have hnot : Text.isBlank c = false := by rcases hc with rfl | rfl <;> decide
    constructor
    · intro hall
      exact absurd (hall c (by simp)) (by simp [hnot])
    · intro hall
      exact absurd (hall c (by simp)) (by simp [hnot])

theorem trimStart_of (h : Loosened q w t p) (hq : q = false) (hw : w = false) :
    Loosened false false (Text.trimStart t) (Text.trimStart p) := by
  induction h with
  | nil => exact nil
  | @char q w c t p h ih =>
    subst hq hw
    unfold Text.trimStart at ih ⊢
    by_cases hc : Text.isBlank c = true
    · have hquote : (c == '"') = false := beq_false_of_ne (isBlank_ne hc (by decide))
      rw [List.dropWhile_cons_of_pos hc, List.dropWhile_cons_of_pos hc]
      have hend := Arith.not_isWordChar_of_isBlank hc
      rw [hquote, hend] at ih
      exact ih rfl rfl
    · rw [List.dropWhile_cons_of_neg hc, List.dropWhile_cons_of_neg hc]
      exact char h
  | @word k before behind t p hk hbefore hbehind hends h _ =>
    -- only the blanks in front of the first word are lost
    obtain ⟨c, k', rfl, hc⟩ := exists_keyword hk
    have hnot : ¬ Text.isBlank c = true := by rcases hc with rfl | rfl <;> decide
    unfold Text.trimStart
    rw [List.dropWhile_append_of_pos hbefore, List.cons_append, List.cons_append,
      List.dropWhile_cons_of_neg hnot, List.dropWhile_cons_of_neg hnot]
    exact @word _ [] _ _ _ hk (List.forall_mem_nil _) hbehind hends h

theorem trimEnd (h : Loosened q w t p) : Loosened q w (Text.trimEnd t) (Text.trimEnd p) := by
  induction h with
  | nil => exact nil
  | @char q w c t p h ih =>
    rw [← List.singleton_append, ← List.singleton_append (l := p), Text.trimEnd_append,
      Text.trimEnd_append]
    -- what lies behind is lost in both texts or in neither
    by_cases ht : Text.trimEnd t = []
    · rw [if_pos ht, if_pos (ih.nil_iff.mp ht)]
      by_cases hc : Text.isBlank c = true
      · rw [Text.trimEnd_eq_nil.mpr (List.forall_mem_singleton.mpr hc)]
        exact nil
      · have hkept : Text.trimEnd [c] = [c] := by
          unfold Text.trimEnd
          rw [List.reverse_singleton, List.dropWhile_cons_of_neg hc]
          rfl
        rw [hkept]
        exact char nil
    · rw [if_neg ht, if_neg fun hp => ht (ih.nil_iff.mpr hp)]
      exact char ih
  | @word k before behind t p hk hbefore hbehind hends h ih =>
    have hne := keyword_ne_nil hk
    rw [Text.trimEnd_append k, Text.trimEnd_append before, Text.trimEnd_append k,
      Text.trimEnd_append behind, Text.trimEnd_eq_nil.mpr hbehind, trimEnd_keyword hk]
    by_cases ht : Text.trimEnd t = []
    · -- the word comes last, and the blanks behind it are lost
      rw [if_pos ht, if_pos (ih.nil_iff.mp ht), if_pos rfl, if_neg hne]
      have hlast := @word k before [] [] [] hk hbefore (List.forall_mem_nil _) rfl nil
      simpa only [List.append_nil] using hlast
    · have hp : Text.trimEnd p ≠ [] := fun hp => ht (ih.nil_iff.mpr hp)
      rw [if_neg ht, if_neg hp, if_neg (by simp [hp]), if_neg (by simp [hp])]
      exact word hk hbefore hbehind (endsWord_front (Text.trimEnd_prefix t) hends) ih

theorem trim (h : Loosened false false t p) :
    Loosened false false (Text.trim t) (Text.trim p) := (h.trimStart_of rfl rfl).trimEnd

/-! ## Tokens -/

section Tokens

open Arith

variable {s : Char → Bool}

theorem stretch (h : Loosened q w t p) (hs : ∀ c, s c = true → Text.isWordChar c = true)
    (hstart : w = true ∨ ∀ c, Text.isBlank c = true ∨ c = 'a' ∨ c = 'o' → s c = false) :
    t.takeWhile s = p.takeWhile s ∧ Loosened q false (t.dropWhile s) (p.dropWhile s) := by
  induction h with
  | nil => exact ⟨rfl, nil⟩
  | @char q w c t p h ih =>
    by_cases hc : s c = true
    · have hword := hs c hc
      have hquote : (c == '"') = false := beq_false_of_ne (isWordChar_ne hword (by decide))
      obtain ⟨htake, hdrop⟩ := ih (.inl hword)
      rw [hquote, Bool.bne_false] at hdrop
      rw [List.takeWhile_cons_of_pos hc, List.takeWhile_cons_of_pos hc,
        List.dropWhile_cons_of_pos hc, List.dropWhile_cons_of_pos hc, htake]
      exact ⟨rfl, hdrop⟩
    · rw [List.takeWhile_cons_of_neg hc, List.takeWhile_cons_of_neg hc,
        List.dropWhile_cons_of_neg hc, List.dropWhile_cons_of_neg hc]
      exact ⟨rfl, char h⟩
  | @word k before behind t p hk hbefore hbehind hends h _ =>
    -- no stretch starts with a blank or with the word
    have hnone := hstart.resolve_left (by decide)
    obtain ⟨c, k', rfl, hc⟩ := exists_keyword hk
    have hleft : ¬ s c = true := by rw [hnone c (.inr hc)]; decide
    have hright : ∃ d r, before ++ (c :: k' ++ (behind ++ p)) = d :: r ∧ ¬ s d = true := by
      cases before with
      | nil => exact ⟨c, _, rfl, hleft⟩
      | cons d ds =>
        refine ⟨d, _, rfl, ?_⟩
        rw [hnone d (.inl (hbefore d List.mem_cons_self))]
        decide
    obtain ⟨d, r, hdr, hd⟩ := hright
    have hloose := word hk hbefore hbehind hends h
    rw [hdr] at hloose ⊢
    rw [List.cons_append, List.takeWhile_cons_of_neg hleft, List.dropWhile_cons_of_neg hleft,
      List.takeWhile_cons_of_neg hd, List.dropWhile_cons_of_neg hd]
    exact ⟨rfl, hloose⟩

theorem digits (h : Loosened q w t p) : t.takeWhile Char.isDigit = p.takeWhile Char.isDigit ∧
    Loosened q false (t.dropWhile Char.isDigit) (p.dropWhile Char.isDigit) := by
  refine h.stretch (fun c hc => of_isDigit (by decide) hc) (.inr fun c hc => ?_)
  rcases hc with hc | rfl | rfl
  · simpa using of_isBlank (p := fun c => !c.isDigit) (by decide) hc
  · decide
  · decide

/-- The head of a text is that of the loosened one, or a word starts there and blanks or the same word
stand in the loosened one. -/
theorem head (h : Loosened q w t p) :
    t.head? = p.head? ∨ ∃ c d, t.head? = some c ∧ p.head? = some d ∧ (c = 'a' ∨ c = 'o') ∧
      (Text.isBlank d = true) := by
  cases h with
  | nil => exact .inl rfl
  | char _ => exact .inl rfl
  | @word k before behind t p hk hbefore _ _ _ =>
    obtain ⟨c, k', rfl, hc⟩ := exists_keyword hk
    cases before with
    | nil => exact .inl rfl
    | cons d ds => exact .inr ⟨c, d, rfl, rfl, hc, hbefore d List.mem_cons_self⟩

theorem cons_of_cons {d : Char} (h : Loosened q w (d :: t) p) (hd : d ≠ 'a' ∧ d ≠ 'o') :
    ∃ p', p = d :: p' ∧ Loosened (q != (d == '"')) (Text.isWordChar d) t p' := by
  generalize hu : d :: t = u at h
  cases h with
  | nil => cases hu
  | char h => cases hu; exact ⟨_, rfl, h⟩
  | word hk _ _ _ _ =>
    obtain ⟨c, k, rfl, hc⟩ := exists_keyword hk
    cases hu
    rcases hc with rfl | rfl
    · exact absurd rfl hd.1
    · exact absurd rfl hd.2

theorem head_iff {d : Char} (h : Loosened q w t p)
    (hd : d ≠ 'a' ∧ d ≠ 'o' ∧ Text.isBlank d = false) : d ∈ t.head? ↔ d ∈ p.head? := by
  rcases h.head with heq | ⟨c, e, hc, he, hword, hblank⟩
  · rw [heq]
  · rw [hc, he, Option.mem_some_iff, Option.mem_some_iff]
    constructor
    · rintro rfl
      rcases hword with rfl | rfl
      · exact absurd rfl hd.1
      · exact absurd rfl hd.2.1
    · rintro rfl
      rw [hblank] at hd
      exact absurd hd.2.2 (by decide)

/-- A reader that looks one character ahead, and there only for signs, takes the same off both
texts. -/
theorem ahead {α : Type} {f : Text → Option (α × Text)} (h : Loosened false w t p) (c : Char)
    (hone : ∀ {t}, '*' ∉ t.head? ∧ '/' ∉ t.head? ∧ '=' ∉ t.head? →
      f (c :: t) = (f [c]).map fun (a, r) => (a, r ++ t))
    (htwo : ∀ d t, f (c :: d :: t) = (f [c, d]).map fun (a, r) => (a, r ++ t))
    (hrest : ∀ {t a r}, f (c :: t) = some (a, r) → r <:+ t) :
    TakesAlike (f (c :: t)) (f (c :: p)) := by
  -- the next characters are the same, or none of these signs
  by_cases hsign : ∃ d, (d = '*' ∨ d = '/' ∨ d = '=') ∧ d ∈ t.head?
  · obtain ⟨d, hd, ht⟩ := hsign
    obtain ⟨t, rfl⟩ := exists_of_head ht
    have hplain : d ≠ 'a' ∧ d ≠ 'o' ∧ d ≠ '"' := by rcases hd with rfl | rfl | rfl <;> decide
    obtain ⟨p, rfl, hrest'⟩ := h.cons_of_cons ⟨hplain.1, hplain.2.1⟩
    rw [beq_false_of_ne hplain.2.2] at hrest'
    rw [htwo d t, htwo d p]
    cases htake : f [c, d] with
    | none => exact ⟨none, [], [], rfl, rfl, nil⟩
    | some found =>
      obtain ⟨a, r⟩ := found
      have hr := hrest htake
      rw [List.suffix_cons_iff, List.suffix_nil] at hr
      rcases hr with rfl | rfl
      · exact ⟨some a, d :: t, d :: p, rfl, rfl, h.fresh⟩
      · exact ⟨some a, t, p, rfl, rfl, hrest'.fresh⟩
  · have hnot : ∀ d, (d = '*' ∨ d = '/' ∨ d = '=') → d ∉ t.head? ∧ d ∉ p.head? := by
      intro d hd
      have ht : d ∉ t.head? := fun ht => hsign ⟨d, hd, ht⟩
      have hiff := h.head_iff (d := d) (by rcases hd with rfl | rfl | rfl <;> decide)
      exact ⟨ht, fun hp => ht (hiff.mpr hp)⟩
    have htimes := hnot '*' (.inl rfl)
    have hover := hnot '/' (.inr (.inl rfl))
    have hequal := hnot '=' (.inr (.inr rfl))
    rw [hone ⟨htimes.1, hover.1, hequal.1⟩, hone ⟨htimes.2, hover.2, hequal.2⟩]
    cases htake : f [c] with
    | none => exact ⟨none, [], [], rfl, rfl, nil⟩
    | some found =>
      obtain ⟨a, r⟩ := found
      obtain rfl := List.suffix_nil.mp (hrest htake)
      exact ⟨some a, t, p, rfl, rfl, h.fresh⟩

theorem comparison (h : Loosened false w t p) (c : Char) :
    TakesAlike (Comparison.take? (c :: t)) (Comparison.take? (c :: p)) :=
  h.ahead c (fun hnot => Comparison.take?_one c hnot.2.2) (Comparison.take?_two c)
    Comparison.suffix_of_take?

theorem sign (h : Loosened false w t p) (c : Char) :
    TakesAlike (Sign.take? (c :: t)) (Sign.take? (c :: p)) :=
  h.ahead c (Sign.take?_one c) (Sign.take?_two c) Sign.suffix_of_take?

/-! Numbers -/

theorem fraction (h : Loosened q w t p) : (cutFraction t).1 = (cutFraction p).1 ∧
    Loosened q false (cutFraction t).2 (cutFraction p).2 := by
  by_cases hpoint : '.' ∈ t.head?
  · obtain ⟨t, rfl⟩ := exists_of_head hpoint
    obtain ⟨p, rfl, hrest⟩ := h.cons_of_cons (by decide)
    obtain ⟨htake, hdrop⟩ := hrest.digits
    exact ⟨congrArg ('.' :: ·) htake, Bool.bne_false q ▸ hdrop⟩
  · rw [cutFraction_other hpoint,
      cutFraction_other fun hp => hpoint ((h.head_iff (by decide)).mpr hp)]
    exact ⟨rfl, h.fresh⟩

theorem cut_sign (h : Loosened q w t p) : (cutSign t).1 = (cutSign p).1 ∧
    Loosened q false (cutSign t).2 (cutSign p).2 := by
  by_cases hplus : '+' ∈ t.head?
  · obtain ⟨t, rfl⟩ := exists_of_head hplus
    obtain ⟨p, rfl, hrest⟩ := h.cons_of_cons (by decide)
    exact ⟨rfl, Bool.bne_false q ▸ hrest.fresh⟩
  by_cases hminus : '-' ∈ t.head?
  · obtain ⟨t, rfl⟩ := exists_of_head hminus
    obtain ⟨p, rfl, hrest⟩ := h.cons_of_cons (by decide)
    exact ⟨rfl, Bool.bne_false q ▸ hrest.fresh⟩
  · rw [cutSign_other hplus hminus,
      cutSign_other (fun hp => hplus ((h.head_iff (by decide)).mpr hp))
        fun hp => hminus ((h.head_iff (by decide)).mpr hp)]
    exact ⟨rfl, h.fresh⟩

theorem any_isDigit (h : Loosened q w t p) : t.head?.any Char.isDigit = p.head?.any Char.isDigit := by
  rcases h.head with heq | ⟨c, d, hc, hd, hword, hblank⟩
  · rw [heq]
  · have hnot : d.isDigit = false := by
      simpa using of_isBlank (p := fun c => !c.isDigit) (by decide) hblank
    rw [hc, hd, Option.any_some, Option.any_some, hnot]
    rcases hword with rfl | rfl <;> rfl

theorem exponent (h : Loosened q w t p) : (cutExponent t).1 = (cutExponent p).1 ∧
    Loosened q false (cutExponent t).2 (cutExponent p).2 := by
  by_cases hmark : 'e' ∈ t.head? ∨ 'E' ∈ t.head?
  · obtain ⟨c, hc, ht⟩ : ∃ c, (c = 'e' ∨ c = 'E') ∧ c ∈ t.head? := by
      rcases hmark with hmark | hmark
      · exact ⟨'e', .inl rfl, hmark⟩
      · exact ⟨'E', .inr rfl, hmark⟩
    have hletter : (c == 'e' || c == 'E') = true := by rcases hc with rfl | rfl <;> rfl
    have hquote : c ≠ '"' := by rcases hc with rfl | rfl <;> decide
    obtain ⟨t, rfl⟩ := exists_of_head ht
    obtain ⟨p, rfl, hrest⟩ := h.cons_of_cons (by rcases hc with rfl | rfl <;> decide)
    rw [beq_false_of_ne hquote, Bool.bne_false] at hrest
    obtain ⟨hsign, hdigits⟩ := hrest.cut_sign
    obtain ⟨htake, hdrop⟩ := hdigits.digits
    unfold cutExponent
    simp only [hletter, Bool.true_and, hsign, hdigits.any_isDigit, htake]
    split
    · exact ⟨rfl, hdrop⟩
    · exact ⟨rfl, plain hquote hrest⟩
  · rw [not_or] at hmark
    rw [cutExponent_other hmark.1 hmark.2,
      cutExponent_other (fun hp => hmark.1 ((h.head_iff (by decide)).mpr hp))
        fun hp => hmark.2 ((h.head_iff (by decide)).mpr hp)]
    exact ⟨rfl, h.fresh⟩

theorem number (h : Loosened false w t p) : TakesAlike (number? t) (number? p) := by
  obtain ⟨hwhole, hafter⟩ := h.digits
  obtain ⟨hfraction, hrest⟩ := hafter.fraction
  obtain ⟨hexponent, hend⟩ := hrest.exponent
  unfold number?
  simp only [hwhole, hfraction, hexponent]
  split
  · exact .of_map _ _ hend
  · exact .of_map _ _ hend

theorem string (h : Loosened q w t p) (hq : q = true) :
    TakesAlike (Text.splitFirst '"' t) (Text.splitFirst '"' p) := by
  induction h with
  | nil => exact ⟨none, [], [], rfl, rfl, nil⟩
  | @char q w c t p h ih =>
    subst hq
    unfold Text.splitFirst
    by_cases hc : c = '"'
    · subst hc
      exact ⟨some [], t, p, rfl, rfl, h.fresh⟩
    · rw [if_neg hc, if_neg hc]
      exact (ih (by rw [beq_false_of_ne hc]; rfl)).map (c :: ·)
  | word _ _ _ _ _ _ => cases hq

theorem startsNumber_eq (h : Loosened q w t p) (c : Char) :
    startsNumber (c :: t) = startsNumber (c :: p) := by
  by_cases hc : c = '.'
  · subst hc
    exact h.any_isDigit
  · unfold startsNumber
    split
    · next heq => exact absurd (List.cons.inj heq).1 hc
    · next heq => cases heq; rfl
    · next heq => cases heq

theorem first (h : Loosened (false != (c == '"')) (Text.isWordChar c) t p) (hsingle : c ≠ '\x27') :
    TakesAlike (Token.first? (c :: t)) (Token.first? (c :: p)) := by
  by_cases hquote : c = '"'
  · subst hquote
    exact (h.string rfl).map fun body => Token.string (String.ofList body)
  -- the cases of the tokenizer in its order: a string, a number, a mark, a word, a sign
  rw [beq_false_of_ne hquote, Bool.bne_false] at h
  have hsame := h.startsNumber_eq c
  by_cases hnumber : startsNumber (c :: t) = true
  · unfold Token.first?
    rw [if_pos hnumber, if_pos (hsame ▸ hnumber)]
    exact (plain (w := false) hquote h).number
  have hnumber' : ¬ startsNumber (c :: p) = true := hsame ▸ hnumber
  by_cases hmark : c ∈ ['"', '\x27', '(', ')', ',', '.']
  · simp only [List.mem_cons, List.not_mem_nil, or_false] at hmark
    rcases hmark with rfl | rfl | rfl | rfl | rfl | rfl
    · exact absurd rfl hquote
    · exact absurd rfl hsingle
    · exact .of_map (some Token.leftParen) id h.fresh
    · exact .of_map (some Token.rightParen) id h.fresh
    · exact .of_map (some Token.comma) id h.fresh
    · unfold Token.first?
      rw [if_neg hnumber, if_neg hnumber']
      exact .of_map (some Token.dot) id h.fresh
  rw [first?_other hnumber hmark, first?_other hnumber' hmark]
  by_cases hword : (Text.isAlphabetic c || c == '_') = true
  · obtain ⟨htake, hdrop⟩ := h.stretch (fun _ hd => hd) (.inl (isWordChar_of_starts hword))
    rw [if_pos hword, if_pos hword, htake]
    exact .of_map (some _) id hdrop
  · rw [if_neg hword, if_neg hword]
    exact (h.sign c).map Token.sign

/-- Blanks around words are invisible in the tokens, if single quotes stand in double quotes only. -/
theorem ofText?_eq (h : Loosened false w t p) (hsingle : '\x27' ∉ unquoted false t) :
    Token.ofText? p = Token.ofText? t := by
  induction hn : t.length using Nat.strong_induction_on generalizing t p w with
  | _ n ih =>
    subst hn
    cases h with
    | nil => rfl
    | @char _ _ c t p h =>
      rw [ofText?_cons, ofText?_cons]
      by_cases hblank : Text.isBlank c = true
      · rw [if_pos hblank, if_pos hblank]
        have hquote : (c == '"') = false := beq_false_of_ne (isBlank_ne hblank (by decide))
        rw [unquoted, hquote] at hsingle
        rw [hquote] at h
        exact ih t.length (Nat.lt_succ_self _) h (fun hmem => hsingle (List.mem_cons_of_mem c hmem)) rfl
      · rw [if_neg hblank, if_neg hblank]
        have hc : c ≠ '\x27' := fun hc => hsingle (hc ▸ List.mem_cons_self)
        have hhead : '\x27' ∉ (c :: t).head? := fun hmem => hc (Option.mem_some_iff.mp hmem)
        obtain ⟨token, r, r', ht, hp, hrest⟩ := h.first hc
        rw [ht, hp]
        cases token with
        | none => rfl
        | some token =>
          have hlength := length_first? ht
          have hfree := fun hmem => hsingle (unquoted_of_first? ht hhead hmem)
          exact congrArg (Option.map (token :: ·)) (ih r.length hlength hrest hfree rfl)
    | @word k before behind t p hk hbefore hbehind hends h =>
      have hword : ∃ a : Identifier, a.text = k := by
        rcases mem_keywords.mp hk with rfl | rfl
        · exact ⟨word_and, rfl⟩
        · exact ⟨word_or, rfl⟩
      obtain ⟨a, rfl⟩ := hword
      have hfree : '\x27' ∉ unquoted false t := by
        have hk' := of_keyword (P := fun c => c ≠ '"') (of_all (by decide)) hk
        rw [unquoted_append, inside_of_no_quote fun hmem => hk' _ hmem rfl] at hsingle
        exact fun hmem => hsingle (List.mem_append_right _ hmem)
      have hlength : t.length < (a.text ++ t).length := by
        rw [List.length_append]
        exact Nat.lt_add_of_pos_left (Nat.succ_pos _)
      -- behind the word, too, the blanks are skipped
      rw [ofText?_gap hbefore, ofText?_word a (endsWord_behind hbehind (h.endsWord hends)),
        ofText?_word a hends, ofText?_gap hbehind, ih t.length hlength h hfree rfl]

end Tokens

/-! ## Summands and cuts -/

theorem summands_plain {s : Text} (hs : ∀ c ∈ s, c ≠ '+' ∧ c ≠ '"') (q : Bool) (t : Text) :
    ∃ x xs, Expression.summands q t = x :: xs ∧ Expression.summands q (s ++ t) = (s ++ x) :: xs := by
  have hplus : '+' ∉ unquoted q s := fun hmem => (hs '+' (mem_of_mem_unquoted hmem)).1 rfl
  have hquote : '"' ∉ s := fun hmem => (hs '"' hmem).2 rfl
  obtain ⟨x, xs, hx, hcut⟩ := Expression.summands_append hplus t
  rw [inside_of_no_quote hquote] at hx
  exact ⟨x, xs, hx, hcut⟩

theorem summands_head {q : Bool} {t x : Text} {xs : List Text}
    (h : Expression.summands q t = x :: xs) : x <+: t := by
  induction t generalizing q x xs with
  | nil =>
    cases h
    exact List.prefix_rfl
  | cons c t ih =>
    unfold Expression.summands at h
    split at h
    · cases h
      exact List.nil_prefix
    · split at h
      · next hnil => exact absurd hnil (Expression.summands_ne_nil _ _)
      · next y ys hy =>
        cases h
        exact List.cons_prefix_cons.mpr ⟨rfl, ih hy⟩

theorem summands (h : Loosened q w t p) : ∃ x xs y ys, Expression.summands q t = x :: xs ∧
    Expression.summands q p = y :: ys ∧ Loosened q w x y ∧
    List.Forall₂ (Loosened false false) xs ys := by
  induction h with
  | nil => exact ⟨[], [], [], [], rfl, rfl, nil, .nil⟩
  | @char q w c t p h ih =>
    obtain ⟨x, xs, y, ys, hx, hy, hhead, hrest⟩ := ih
    by_cases hplus : c = '+' ∧ q = false
    · obtain ⟨rfl, rfl⟩ := hplus
      have hx' : Expression.summands false t = x :: xs := hx
      have hy' : Expression.summands false p = y :: ys := hy
      refine ⟨[], x :: xs, [], y :: ys, ?_, ?_, nil, .cons hhead.fresh hrest⟩
      · rw [← hx']; rfl
      · rw [← hy']; rfl
    · have hnot : ¬ ((c == '+' && !q) = true) := by simpa using hplus
      refine ⟨c :: x, xs, c :: y, ys, ?_, ?_, char hhead, hrest⟩
      · rw [Expression.summands, if_neg hnot, hx]
      · rw [Expression.summands, if_neg hnot, hy]
  | @word k before behind t p hk hbefore hbehind hends h ih =>
    obtain ⟨x, xs, y, ys, hx, hy, hhead, hrest⟩ := ih
    have hblank : ∀ c, Text.isBlank c = true → c ≠ '+' ∧ c ≠ '"' := fun c hc =>
      ⟨isBlank_ne hc (by decide), isBlank_ne hc (by decide)⟩
    have hkeyword : ∀ c ∈ k, c ≠ '+' ∧ c ≠ '"' := of_keyword (of_all (by decide)) hk
    have hplain := of_spaced_keyword hblank hkeyword hbefore hbehind
    -- the word stays in the first summand of either text
    obtain ⟨x', xs', hx', hleft⟩ := summands_plain hkeyword false t
    obtain ⟨y', ys', hy', hright⟩ := summands_plain hplain false p
    rw [hx] at hx'
    rw [hy] at hy'
    cases hx'
    cases hy'
    refine ⟨_, _, _, _, hleft, ?_, word hk hbefore hbehind ?_ hhead, hrest⟩
    · simpa only [List.append_assoc] using hright
    · exact endsWord_front (summands_head hx) hends

theorem split_cons_of_none {skip : Bool}
    (h : q = false → skip = false → comparison? (c :: t) = none) :
    split q skip (c :: t) =
      (split (q != (c == '"')) false t).map fun (left, cut) => (c :: left, cut) := by
  have hfound : (if c == '"' || q || skip then none else comparison? (c :: t)) = none := by
    by_cases hplace : (c == '"' || q || skip) = true
    · exact if_pos hplace
    · rw [if_neg hplace]
      simp only [Bool.or_eq_true, not_or, Bool.not_eq_true] at hplace
      exact h hplace.1.2 hplace.2
  rw [split]
  simp only [hfound]

theorem split_plain {s : Text} (hne : s ≠ [])
    (hs : ∀ c ∈ s, c ≠ '"' ∧ c ∉ comparing) (q skip : Bool) (t : Text) :
    split q skip (s ++ t) = (split q false t).map fun (left, cut) => (s ++ left, cut) := by
  induction s generalizing skip with
  | nil => exact absurd rfl hne
  | cons c s ih =>
    obtain ⟨⟨hquote, hcomparing⟩, hs⟩ := List.forall_mem_cons.mp hs
    have hnone : comparison? (c :: (s ++ t)) = none := by
      cases hfound : comparison? (c :: (s ++ t)) with
      | none => rfl
      | some found => exact absurd (comparing_of_take? (comparison?_eq_some.mp hfound).1) hcomparing
    rw [List.cons_append, split_cons_of_none fun _ _ => hnone, beq_false_of_ne hquote, Bool.bne_false]
    cases s with
    | nil => rfl
    | cons d s =>
      rw [ih (List.cons_ne_nil d s) hs, Option.map_map]
      rfl

theorem comparison?_alike (h : Loosened false w t p) (c : Char) :
    TakesAlike (comparison? (c :: t)) (comparison? (c :: p)) := by
  obtain ⟨op, r, r', ht, hp, hrest⟩ := h.comparison c
  unfold comparison?
  rw [ht, hp]
  cases op with
  | none => exact ⟨none, [], [], rfl, rfl, nil⟩
  | some op =>
    have hiff : Text.trim r = [] ↔ Text.trim r' = [] := by
      rw [Text.trim_eq_nil, Text.trim_eq_nil, hrest.all_blank_iff]
    by_cases hblank : Text.trim r = []
    · refine ⟨none, [], [], ?_, ?_, nil⟩
      · simp [hblank]
      · simp [hiff.mp hblank]
    · have hblank' : Text.trim r' ≠ [] := fun h => hblank (hiff.mpr h)
      refine ⟨some op, r, r', ?_, ?_, hrest⟩
      · simp [hblank]
      · simp [hblank']

def SplitsAlike (q w : Bool) (cut cut' : Option (Text × Comparison × Text)) : Prop :=
  (cut = none ∧ cut' = none) ∨
    ∃ left left' op right right', cut = some (left, op, right) ∧ cut' = some (left', op, right') ∧
      Loosened q w left left' ∧ Loosened false false right right'

theorem splitsAlike_char {c : Char} {skip : Bool}
    (h : SplitsAlike (q != (c == '"')) (Text.isWordChar c) (split (q != (c == '"')) false t)
      (split (q != (c == '"')) false p))
    (ht : q = false → skip = false → comparison? (c :: t) = none)
    (hp : q = false → skip = false → comparison? (c :: p) = none) :
    SplitsAlike q w (split q skip (c :: t)) (split q skip (c :: p)) := by
  rw [split_cons_of_none ht, split_cons_of_none hp]
  rcases h with ⟨hnone, hnone'⟩ | ⟨l, l', op, r, r', hsome, hsome', hleft, hright⟩
  · rw [hnone, hnone']
    exact .inl ⟨rfl, rfl⟩
  · rw [hsome, hsome']
    exact .inr ⟨c :: l, c :: l', op, r, r', rfl, rfl, char hleft, hright⟩

/-- A word that is set apart: no comparison starts in it or in its blanks, so that a cut comes behind
them. -/
theorem splitsAlike_word {k before behind : Text} (hk : k ∈ keywords)
    (hbefore : ∀ c ∈ before, Text.isBlank c = true) (hbehind : ∀ c ∈ behind, Text.isBlank c = true)
    (hends : Condition.endsWord t = true)
    (h : SplitsAlike false false (split false false t) (split false false p)) (skip : Bool) :
    SplitsAlike false false (split false skip (k ++ t))
      (split false skip (before ++ (k ++ (behind ++ p)))) := by
  have hkeyword : ∀ c ∈ k, c ≠ '"' ∧ c ∉ comparing := of_keyword (of_all (by decide)) hk
  have hblank : ∀ c, Text.isBlank c = true → c ≠ '"' ∧ c ∉ comparing := fun c hc =>
    ⟨isBlank_ne hc (by decide), not_comparing_of_isBlank hc⟩
  -- neither a word nor the blanks around it have a quote or a sign of a comparison
  have hplain := of_spaced_keyword hblank hkeyword hbefore hbehind
  have hne := keyword_ne_nil hk
  have hcut := split_plain hne hkeyword false skip t
  have hcut' := split_plain (s := before ++ (k ++ behind)) (by simp [hne]) hplain false skip p
  simp only [List.append_assoc] at hcut'
  rw [hcut, hcut']
  rcases h with ⟨hnone, hnone'⟩ | ⟨l, l', op, r, r', hsome, hsome', hleft, hright⟩
  · rw [hnone, hnone']
    exact .inl ⟨rfl, rfl⟩
  · rw [hsome, hsome']
    have hfront : l <+: t := by
      have hspec := split_spec false false t
      rw [hsome] at hspec
      obtain ⟨rest, ht, -⟩ := hspec.1.reads
      exact ⟨rest, ht.symm⟩
    exact .inr ⟨k ++ l, _, op, r, r', rfl, rfl,
      word hk hbefore hbehind (endsWord_front hfront hends) hleft, hright⟩

/-- The two texts are cut at the same comparison, and their parts are loosened. -/
theorem split_alike (h : Loosened q w t p) (skip : Bool) :
    SplitsAlike q w (split q skip t) (split q skip p) := by
  induction h generalizing skip with
  | nil => exact .inl ⟨rfl, rfl⟩
  | @char q w c t p h ih =>
    by_cases hquote : c = '"'
    · subst hquote
      exact splitsAlike_char (ih false) (fun _ _ => rfl) (fun _ _ => rfl)
    by_cases hplace : q = false ∧ skip = false
    · obtain ⟨rfl, rfl⟩ := hplace
      have hrest := h
      rw [beq_false_of_ne hquote] at hrest
      obtain ⟨op, r, r', ht, hp, hright⟩ := comparison?_alike hrest c
      cases op with
      | none => exact splitsAlike_char (ih false) (fun _ _ => ht) (fun _ _ => hp)
      | some op =>
        -- both are cut in front of the character
        refine .inr ⟨[], [], op, r, r', ?_, ?_, nil, hright⟩
        · rw [split, beq_false_of_ne hquote]
          simp only [Bool.or_self, Bool.false_eq_true, if_false, ht, Option.map_some]
        · rw [split, beq_false_of_ne hquote]
          simp only [Bool.or_self, Bool.false_eq_true, if_false, hp, Option.map_some]
    · exact splitsAlike_char (ih false) (fun hq hskip => absurd ⟨hq, hskip⟩ hplace)
        fun hq hskip => absurd ⟨hq, hskip⟩ hplace
  | word hk hbefore hbehind hends _ ih =>
    exact splitsAlike_word hk hbefore hbehind hends (ih false) skip

end Loosened

end Condition

end LineScript
