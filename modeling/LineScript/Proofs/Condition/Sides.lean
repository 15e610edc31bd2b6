import LineScript.Proofs.Condition.Tokens

/-!
# The two sides of a comparison

In front of a comparison a text has the same tokens as alone, as far as it has none of a comparison
itself (`ofText?_append`).  If none is written in it outside double quotes, the text as a whole is cut
right behind it (`firstCut_of_whole`).
-/

namespace LineScript.Condition

open Arith

def Breaks (s : Text) : Prop := ∀ c ∈ s.head?, Text.isBlank c = true ∨ c ∈ comparing

section Breaks

variable {s t r : Text}

theorem breaks_symbol {gap : Text} (hgap : ∀ c ∈ gap, Text.isBlank c = true) (op : Comparison)
    (t : Text) : Breaks (gap ++ (op.symbol.toList ++ t)) := by
  intro c hc
  cases gap with
  | nil =>
    refine .inr ?_
    cases op <;> cases hc <;> decide
  | cons d gap =>
    cases hc
    exact .inl (hgap c List.mem_cons_self)

theorem Breaks.not_isDigit (h : Breaks s) : ∀ c ∈ s.head?, c.isDigit = false := by
  have hlist : ∀ c ∈ comparing, c.isDigit = false := of_all (by decide)
  intro c hc
  rcases h c hc with hblank | hmem
  · simpa using of_isBlank (p := fun c => !c.isDigit) (by decide) hblank
  · exact hlist c hmem

theorem Breaks.not_isWordChar (h : Breaks s) : ∀ c ∈ s.head?, Text.isWordChar c = false := by
  have hlist : ∀ c ∈ comparing, Text.isWordChar c = false := of_all (by decide)
  exact fun c hc => (h c hc).elim not_isWordChar_of_isBlank (hlist c)

theorem Breaks.not_head {d : Char} (h : Breaks s) (hd : Text.isBlank d = false ∧ d ∉ comparing)
    (ht : d ∉ t.head?) : d ∉ (t ++ s).head? := by
  cases t with
  | nil => exact fun hs => (h d hs).elim (fun hblank => isBlank_ne hblank hd.1 rfl) hd.2
  | cons c t => exact ht

theorem stretch_append {p : Char → Bool} (hs : ∀ c ∈ s.head?, p c = false) (t : Text) :
    (t ++ s).takeWhile p = t.takeWhile p ∧ (t ++ s).dropWhile p = t.dropWhile p ++ s := by
  induction t with
  | nil =>
    cases s with
    | nil => exact ⟨rfl, rfl⟩
    | cons d s =>
      have hd : ¬ p d = true := by simp [hs d rfl]
      exact ⟨List.takeWhile_cons_of_neg hd, List.dropWhile_cons_of_neg hd⟩
  | cons c t ih =>
    obtain ⟨htake, hdrop⟩ := ih
    rw [List.cons_append]
    by_cases hc : p c = true
    · rw [List.takeWhile_cons_of_pos hc, List.takeWhile_cons_of_pos hc,
        List.dropWhile_cons_of_pos hc, List.dropWhile_cons_of_pos hc, htake, hdrop]
      exact ⟨rfl, rfl⟩
    · rw [List.takeWhile_cons_of_neg hc, List.takeWhile_cons_of_neg hc,
        List.dropWhile_cons_of_neg hc, List.dropWhile_cons_of_neg hc]
      exact ⟨rfl, rfl⟩

theorem any_isDigit_append (hs : Breaks s) (t : Text) :
    (t ++ s).head?.any Char.isDigit = t.head?.any Char.isDigit := by
  cases t with
  | nil =>
    cases s with
    | nil => rfl
    | cons d s => exact hs.not_isDigit d rfl
  | cons c t => rfl

theorem cutFraction_before (hs : Breaks s) (t : Text) :
    cutFraction (t ++ s) = ((cutFraction t).1, (cutFraction t).2 ++ s) := by
  by_cases hpoint : '.' ∈ t.head?
  · obtain ⟨t, rfl⟩ := exists_of_head hpoint
    obtain ⟨htake, hdrop⟩ := stretch_append hs.not_isDigit t
    rw [List.cons_append, cutFraction, htake, hdrop]
    rfl
  · rw [cutFraction_other hpoint, cutFraction_other (hs.not_head (by decide) hpoint)]

theorem cutSign_before (hs : Breaks s) (t : Text) :
    cutSign (t ++ s) = ((cutSign t).1, (cutSign t).2 ++ s) := by
  by_cases hplus : '+' ∈ t.head?
  · obtain ⟨t, rfl⟩ := exists_of_head hplus
    rfl
  by_cases hminus : '-' ∈ t.head?
  · obtain ⟨t, rfl⟩ := exists_of_head hminus
    rfl
  · rw [cutSign_other hplus hminus,
      cutSign_other (hs.not_head (by decide) hplus) (hs.not_head (by decide) hminus)]

theorem cutExponent_before (hs : Breaks s) (t : Text) :
    cutExponent (t ++ s) = ((cutExponent t).1, (cutExponent t).2 ++ s) := by
  cases t with
  | nil =>
    have he : 'e' ∉ s.head? := hs.not_head (t := []) (by decide) (by simp)
    have hE : 'E' ∉ s.head? := hs.not_head (t := []) (by decide) (by simp)
    rw [List.nil_append, cutExponent_other he hE]
    rfl
  | cons c t =>
    obtain ⟨htake, hdrop⟩ := stretch_append hs.not_isDigit (cutSign t).2
    unfold cutExponent
    simp only [List.cons_append, cutSign_before hs t, any_isDigit_append hs, htake, hdrop]
    split <;> rfl

theorem number?_append (hs : Breaks s) (t : Text) :
    number? (t ++ s) = (number? t).map fun (token, r) => (token, r ++ s) := by
  obtain ⟨htake, hdrop⟩ := stretch_append hs.not_isDigit t
  unfold number?
  simp only [htake, hdrop, cutFraction_before hs, cutExponent_before hs]
  split
  · rw [Option.map_map]
    rfl
  · rw [Option.map_map]
    rfl

theorem startsNumber_append (hs : Breaks s) (c : Char) (t : Text) :
    startsNumber (c :: (t ++ s)) = startsNumber (c :: t) := by
  by_cases hc : c = '.'
  · subst hc
    exact any_isDigit_append hs t
  · unfold startsNumber
    split
    · next heq => exact absurd (List.cons.inj heq).1 hc
    · next heq => cases heq; rfl
    · next heq => cases heq

theorem splitFirst_append {c : Char} {body : Text} (h : Text.splitFirst c t = some (body, r)) :
    Text.splitFirst c (t ++ s) = some (body, r ++ s) := by
  obtain ⟨rfl, hfree⟩ := splitFirst_eq_some h
  rw [List.append_assoc, List.cons_append, splitFirst_stretch hfree]

/-- No sign but that of a comparison goes on with a character of one. -/
theorem take?_append (hs : Breaks s) {c : Char} {sign : Sign} (h : Sign.take? (c :: t) = some (sign, r))
    (hsign : ∀ op, sign ≠ .compare op) : Sign.take? (c :: (t ++ s)) = some (sign, r ++ s) := by
  have htwo : ∀ {d : Char} {u v : Text}, Sign.take? [c, d] = some (sign, v) →
      Sign.take? (c :: d :: u) = some (sign, v ++ u) := by
    intro d u v hfound
    rw [Sign.take?_two, hfound]
    rfl
  cases t with
  | cons d t =>
    rw [Sign.take?_two] at h
    obtain ⟨⟨sign', v⟩, hfound, hsome⟩ := Option.map_eq_some_iff.mp h
    cases hsome
    rw [List.cons_append, htwo hfound, List.append_assoc]
  | nil =>
    obtain rfl := List.suffix_nil.mp (Sign.suffix_of_take? h)
    cases s with
    | nil => exact h
    | cons d s =>
      rcases hs d rfl with hblank | hd
      · -- none goes on with a blank
        have hne : ∀ {m : Char}, Text.isBlank m = false → m ∉ (d :: s).head? := fun hm hmem =>
          isBlank_ne hblank hm (Option.mem_some_iff.mp hmem)
        rw [List.nil_append, Sign.take?_one c ⟨hne rfl, hne rfl, hne rfl⟩, h]
        rfl
      -- the other signs are tried with each character of a comparison
      have hc : c ∈ ['*', '/', '+', '-', '%'] := by
        unfold Sign.take? at h
        split at h
        case h_8 =>
          obtain ⟨⟨op, u⟩, -, hsome⟩ := Option.map_eq_some_iff.mp h
          cases hsome
          exact absurd rfl (hsign op)
        all_goals simp_all
      have hfinite : (comparing.all fun d => ['*', '/', '+', '-', '%'].all fun c => decide
          (Sign.take? [c, d] = (Sign.take? [c]).map fun found => (found.1, found.2 ++ [d]))) = true := by
        decide
      have hfound := of_all (List.all_eq_true.mp hfinite d hd) c hc
      rw [h] at hfound
      exact htwo hfound

theorem first?_append (hs : Breaks s) {c : Char} {token : Token}
    (h : Token.first? (c :: t) = some (token, r)) (htoken : ∀ op, token ≠ .sign (.compare op)) :
    Token.first? (c :: (t ++ s)) = some (token, r ++ s) := by
  -- each piece that is cut off ends where `s` starts, which breaks it
  have hsame := startsNumber_append hs c t
  by_cases hnumber : startsNumber (c :: t) = true
  · unfold Token.first? at h ⊢
    rw [if_pos hnumber] at h
    rw [if_pos (hsame.trans hnumber), ← List.cons_append, number?_append hs, h]
    rfl
  have hnumber' : ¬ startsNumber (c :: (t ++ s)) = true := hsame ▸ hnumber
  by_cases hmark : c ∈ ['"', '\x27', '(', ')', ',', '.']
  · unfold Token.first? at h ⊢
    rw [if_neg hnumber] at h
    rw [if_neg hnumber']
    simp only [List.mem_cons, List.not_mem_nil, or_false] at hmark
    rcases hmark with rfl | rfl | rfl | rfl | rfl | rfl
    · obtain ⟨⟨body, rest⟩, hcut, hsome⟩ := Option.map_eq_some_iff.mp h
      cases hsome
      show string? '"' (t ++ s) = _
      unfold string?
      rw [splitFirst_append hcut]
      rfl
    · obtain ⟨⟨body, rest⟩, hcut, hsome⟩ := Option.map_eq_some_iff.mp h
      cases hsome
      show string? '\x27' (t ++ s) = _
      unfold string?
      rw [splitFirst_append hcut]
      rfl
    all_goals
      cases h
      rfl
  rw [first?_other hnumber hmark] at h
  rw [first?_other hnumber' hmark]
  by_cases hword : (Text.isAlphabetic c || c == '_') = true
  · obtain ⟨htake, hdrop⟩ := stretch_append hs.not_isWordChar t
    rw [if_pos hword] at h
    cases h
    rw [if_pos hword, htake, hdrop]
  · rw [if_neg hword] at h
    obtain ⟨⟨sign, rest⟩, hfound, hsome⟩ := Option.map_eq_some_iff.mp h
    cases hsome
    have hsign : ∀ op, sign ≠ .compare op := fun op heq => htoken op (congrArg Token.sign heq)
    rw [if_neg hword, take?_append hs hfound hsign]
    rfl

theorem ofText?_append (hs : Breaks s) {ts : List Token} (h : Token.ofText? t = some ts)
    (hts : ∀ op, Token.sign (.compare op) ∉ ts) :
    Token.ofText? (t ++ s) = (Token.ofText? s).map (ts ++ ·) := by
  -- on the length of the text, since a token takes up any number of characters
  induction hn : t.length using Nat.strong_induction_on generalizing t ts with
  | _ n ih =>
    subst hn
    cases t with
    | nil =>
      rw [ofText?_nil] at h
      cases h
      simp
    | cons c t =>
      rw [ofText?_cons] at h
      rw [List.cons_append, ofText?_cons]
      by_cases hblank : Text.isBlank c = true
      · rw [if_pos hblank] at h ⊢
        exact ih t.length (Nat.lt_succ_self _) h hts rfl
      · rw [if_neg hblank] at h ⊢
        obtain ⟨⟨token, rest⟩, hfirst, hrest⟩ := Option.bind_eq_some_iff.mp h
        obtain ⟨us, hus, hsome⟩ := Option.map_eq_some_iff.mp hrest
        cases hsome
        have htoken : ∀ op, token ≠ .sign (.compare op) := fun op heq =>
          hts op (heq ▸ List.mem_cons_self)
        have hlater := ih rest.length (length_first? hfirst) hus
          (fun op hmem => hts op (List.mem_cons_of_mem token hmem)) rfl
        rw [first?_append hs hfirst htoken, Option.bind_some]
        show (Token.ofText? (rest ++ s)).map (token :: ·) = _
        rw [hlater, Option.map_map]
        rfl

theorem ofText?_comparison (op : Comparison) (h : '=' ∉ t.head?) :
    Token.ofText? (op.symbol.toList ++ t) =
      (Token.ofText? t).map (.sign (.compare op) :: ·) := by
  have hfirst := Sign.first?_eq (.compare op) t
  rw [Sign.take?_symbol op h] at hfirst
  obtain ⟨c, u, hsymbol, hblank⟩ := (Lexeme.sign (.compare op)).exists_text
  have hstart : op.symbol.toList = c :: u := hsymbol
  rw [show (Sign.compare op).text = c :: u from hsymbol] at hfirst
  rw [hstart, List.cons_append, ofText?_cons, if_neg (by simp [hblank]), ← List.cons_append, hfirst]
  rfl

end Breaks

/-! ## Where the whole is cut -/

section Whole

variable {t left right : Text}

theorem Whole.append {s : Text} (ht : Whole t) (hs : Whole s) : Whole (t ++ s) := by
  refine ⟨?_, fun c hc => ?_⟩
  · rw [inside_append, ht.1, hs.1]
  · rw [unquoted_append, ht.1] at hc
    exact (List.mem_append.mp hc).elim (ht.2 c) (hs.2 c)

/-- A text that has tokens, and in which no comparison is written outside double quotes, is whole, and
has no token of a comparison. -/
theorem whole_of_no_symbol {ts : List Token} (h : Token.ofText? t = some ts)
    (hsingle : '\x27' ∉ unquoted false t)
    (hno : ∀ op : Comparison, ¬ op.symbol.toList <:+: unquoted false t) :
    Whole t ∧ ∀ op, Token.sign (.compare op) ∉ ts := by
  induction hn : t.length using Nat.strong_induction_on generalizing t ts with
  | _ n ih =>
    subst hn
    cases t with
    | nil =>
      rw [ofText?_nil] at h
      cases h
      exact ⟨.of_free (List.forall_mem_nil _), fun op => List.not_mem_nil⟩
    | cons c t =>
      -- what a piece in front leaves has no comparison written in it either
      have hrest : ∀ {piece rest : Text} {us : List Token}, c :: t = piece ++ rest → Whole piece →
          rest.length < (c :: t).length → Token.ofText? rest = some us →
          Whole (c :: t) ∧ ∀ op, Token.sign (.compare op) ∉ us := by
        intro piece rest us hcut hpiece hlength hus
        rw [hcut, unquoted_append, hpiece.1] at hsingle hno
        obtain ⟨hwhole, hfree⟩ := ih rest.length hlength hus
          (fun hmem => hsingle (List.mem_append_right _ hmem))
          (fun op hwithin => hno op (hwithin.trans (List.suffix_append _ _).isInfix)) rfl
        exact ⟨hcut ▸ hpiece.append hwhole, hfree⟩
      rw [ofText?_cons] at h
      by_cases hblank : Text.isBlank c = true
      · rw [if_pos hblank] at h
        have hpiece : Whole [c] := .of_blank (List.forall_mem_singleton.mpr hblank)
        exact hrest rfl hpiece (Nat.lt_succ_self _) h
      · rw [if_neg hblank] at h
        obtain ⟨⟨token, rest⟩, hfirst, hmap⟩ := Option.bind_eq_some_iff.mp h
        obtain ⟨us, hus, hsome⟩ := Option.map_eq_some_iff.mp hmap
        cases hsome
        have hhead : '\x27' ∉ (c :: t).head? := fun hmem =>
          hsingle (Option.mem_some_iff.mp hmem ▸ List.mem_cons_self)
        rcases exists_piece hfirst hhead with ⟨op, -, ht⟩ | ⟨hnot, piece, ht, hpiece⟩
        · -- a comparison is written here
          refine absurd ⟨[], unquoted false rest, ?_⟩ (hno op)
          rw [ht, unquoted_append]
          cases op <;> rfl
        · obtain ⟨hwhole, hfree⟩ := hrest ht hpiece (length_first? hfirst) hus
          refine ⟨hwhole, fun op hmem => ?_⟩
          exact (List.mem_cons.mp hmem).elim (fun heq => hnot op heq.symm) (hfree op)

theorem firstCut_of_whole (op : Comparison) (hleft : Whole left) (hne : left ≠ [])
    (hequal : '=' ∉ right.head?) (hsomething : Text.trim right ≠ []) :
    FirstCut (left ++ (op.symbol.toList ++ right)) left op right := by
  refine ⟨⟨⟨_, rfl, Comparison.take?_symbol op hequal⟩, fun _ => hne, hleft.1, hsomething⟩, ?_⟩
  rintro left' op' right' ⟨⟨rest, hcut, htake'⟩, -, houtside, -⟩
  by_contra hlength
  -- an earlier comparison would start in the text in front
  obtain ⟨middle, hmiddle, hrest⟩ : ∃ middle, left = left' ++ middle ∧
      rest = middle ++ (op.symbol.toList ++ right) := by
    rcases List.append_eq_append_iff.mp hcut with ⟨m, rfl, hm⟩ | ⟨m, rfl, hm⟩
    · rw [List.length_append] at hlength
      omega
    · exact ⟨m, rfl, hm⟩
  cases middle with
  | nil =>
    rw [hmiddle, List.append_nil] at hlength
    exact hlength (Nat.le_refl _)
  | cons c middle =>
    rw [hrest, List.cons_append] at htake'
    have hmem : c ∈ unquoted false left := by
      rw [hmiddle, unquoted_append, houtside]
      exact List.mem_append_right _ List.mem_cons_self
    exact hleft.2 c hmem (comparing_of_take? htake')

end Whole

end LineScript.Condition
