import LineScript.Proofs.Condition.Loosened
import LineScript.Proofs.Expression.Origin
import Mathlib

/-!
# What padding leaves as it is

A condition is cut where its own text has the first comparison, padded or not.  Its parts mean what
they mean as expressions, unless a word `and` or `or` stands in them that padding must not touch:
between single quotes, in a name, or in a key (`evaluate_unpadded`).
-/

namespace LineScript.Condition

structure WordAt (afterWord : Bool) (t before k behind : Text) : Prop where
  word : k ∈ keywords
  parts : t = before ++ (k ++ behind)
  starts : before.getLast?.elim afterWord Text.isWordChar = false
  ends : endsWord behind = true

def HasWord (t : Text) : Prop := ∃ before k behind, WordAt false t before k behind

theorem HasWord.letter {t : Text} (h : HasWord t) : 'd' ∈ t ∨ 'r' ∈ t := by
  obtain ⟨before, k, behind, hk, rfl, -, -⟩ := h
  have hletter : ∀ k ∈ keywords, 'd' ∈ k ∨ 'r' ∈ k := by decide
  exact (hletter k hk).imp (fun hmem => List.mem_append_right _ (List.mem_append_left _ hmem))
    fun hmem => List.mem_append_right _ (List.mem_append_left _ hmem)

def HasWordOutside (inQuotes afterWord : Bool) (t : Text) : Prop :=
  ∃ before k behind, WordAt afterWord t before k behind ∧ inside inQuotes before = false

theorem HasWordOutside.hasWord {q : Bool} {t : Text} (h : HasWordOutside q false t) : HasWord t := by
  obtain ⟨before, k, behind, hat, -⟩ := h
  exact ⟨before, k, behind, hat⟩

theorem HasWordOutside.cons {q w : Bool} {c : Char} {t : Text}
    (h : HasWordOutside (q != (c == '"')) (Text.isWordChar c) t) : HasWordOutside q w (c :: t) := by
  obtain ⟨before, k, behind, ⟨hword, rfl, hstarts, hends⟩, hinside⟩ := h
  refine ⟨c :: before, k, behind, ⟨hword, rfl, ?_, hends⟩, hinside⟩
  rw [List.getLast?_cons]
  cases hlast : before.getLast? with
  | none =>
    rw [hlast] at hstarts
    exact hstarts
  | some d =>
    rw [hlast] at hstarts
    exact hstarts

theorem Loosened.eq_or_hasWordOutside {q w : Bool} {t p : Text} (h : Loosened q w t p) :
    p = t ∨ HasWordOutside q w t ∧ HasWordOutside q w p := by
  -- a character in front goes to what stands before the two words
  induction h with
  | nil => exact .inl rfl
  | char _ ih =>
    rcases ih with rfl | ⟨ht, hp⟩
    · exact .inl rfl
    · exact .inr ⟨ht.cons, hp.cons⟩
  | @word k before behind t p hk hbefore hbehind hends h _ =>
    refine .inr ⟨⟨[], k, t, ⟨hk, rfl, rfl, hends⟩, rfl⟩, ⟨before, k, behind ++ p, ⟨hk, rfl, ?_, ?_⟩, ?_⟩⟩
    · cases hlast : before.getLast? with
      | none => rfl
      | some c => exact Arith.not_isWordChar_of_isBlank (hbefore c (List.mem_of_getLast? hlast))
    · exact endsWord_behind hbehind (h.endsWord hends)
    · exact inside_of_no_quote fun hc => isBlank_ne (hbefore _ hc) (by decide) rfl

/-- Whether no name and no key has a word `and` or `or` in it, but for variables that are called just
that and hold no object. -/
structure WithoutWords (vars : Table Value) : Prop where
  names : ∀ n v, vars.get? n = some v → HasWord n.toList → n.toList ∈ keywords ∧ v.kind ≠ .object
  keys : ∀ n fields path key, vars.get? n = some (.object fields) → HasWord key.toList →
    ((Value.object fields).follow path).field key = .null

theorem withoutWords_empty : WithoutWords ∅ :=
  ⟨fun _ _ hget => (nomatch hget), fun _ _ _ _ hget => (nomatch hget)⟩

theorem WithoutWords.insert {vars : Table Value} (h : WithoutWords vars) {name : String} {v : Value}
    (hname : 'd' ∉ name.toList ∧ 'r' ∉ name.toList) (hkind : v.kind ≠ .object) :
    WithoutWords (vars.insert name v) := by
  have hother : ∀ {n u}, (vars.insert name v).get? n = some u → n = name ∧ u = v ∨ vars.get? n = some u := by
    intro n u hget
    by_cases hn : n = name
    · subst hn
      rw [Table.get?_insert_self] at hget
      exact .inl ⟨rfl, (Option.some.inj hget).symm⟩
    · rw [Table.get?_insert_of_ne hn] at hget
      exact .inr hget
  constructor
  · intro n u hget hword
    rcases hother hget with ⟨rfl, rfl⟩ | hget
    · exact absurd hword.letter (not_or.mpr hname)
    · exact h.names n u hget hword
  · intro n fields path key hget hword
    rcases hother hget with ⟨-, rfl⟩ | hget
    · exact absurd rfl hkind
    · exact h.keys n fields path key hget hword

/-- Whether padding cannot change what a text means: no word stands in it that is padded, or single
quotes stand in double quotes only and no name and no key has such a word in it. -/
def Harmless (vars : Table Value) (t : Text) : Prop :=
  ¬ HasWordOutside false false t ∨ '\x27' ∉ unquoted false t ∧ WithoutWords vars

/-! ## Simple texts -/

theorem number?_eq_none {t : Text} {c : Char} (hc : c = 'd' ∨ c = 'r') (hmem : c ∈ t) :
    Expression.number? t = none := by
  -- neither letter is a sign, a digit or part of an exponent, nor in "inf" or "nan"
  have hrest : c ∈ (Integer.splitSign t).2 := by
    rcases Arith.splitSign_cases t with ⟨r, rfl, hsign⟩ | ⟨r, rfl, hsign⟩ | hsign
    · rw [hsign]
      exact (List.mem_cons.mp hmem).resolve_left (by rcases hc with rfl | rfl <;> decide)
    · rw [hsign]
      exact (List.mem_cons.mp hmem).resolve_left (by rcases hc with rfl | rfl <;> decide)
    · rw [hsign]
      exact hmem
  have hinteger : Integer.read? t = none := by
    have hnatural : Integer.natural? (Integer.splitSign t).2 = none := by
      refine if_neg fun hall => ?_
      have hdigit := List.all_eq_true.mp (Bool.and_eq_true_iff.mp hall).2 c hrest
      rcases hc with rfl | rfl <;> exact absurd hdigit (by decide)
    rw [Integer.read?_eq, hnatural]
    rfl
  have hdecimal : Decimal.read? t = none := by
    have hspecial : Decimal.special? (Integer.splitSign t).2 = none :=
      Arith.special?_eq_none hrest (by rcases hc with rfl | rfl <;> decide)
    have hmagnitude : Decimal.magnitude? (Integer.splitSign t).2 = none := by
      cases hx : Decimal.magnitude? (Integer.splitSign t).2 with
      | none => rfl
      | some x =>
        obtain ⟨n, hn⟩ := Arith.exists_numeral hx
        have hchar := isNumberChar_numeral n c (hn.symm ▸ hrest)
        rcases hc with rfl | rfl <;> exact absurd hchar (by decide)
    unfold Decimal.read?
    simp only [hspecial, hmagnitude]
    rfl
  unfold Expression.number?
  rw [hinteger, hdecimal]
  split <;> rfl

theorem number?_of_hasWord {t : Text} (h : HasWord t) : Expression.number? t = none := by
  rcases h.letter with hmem | hmem
  · exact number?_eq_none (.inl rfl) hmem
  · exact number?_eq_none (.inr rfl) hmem

section Simple

variable {vars : Table Value} {t p : Text}

theorem quoted?_cons (t : Text) : Expression.quoted? ('"' :: t) =
    (Text.splitFirst '"' t).bind fun cut =>
      if cut.2 = [] then some (Value.string (String.ofList cut.1)) else none := by
  rw [Expression.quoted?]
  rcases Text.splitFirst '"' t with _ | ⟨inner, _ | ⟨c, rest⟩⟩ <;> rfl

theorem quoted?_other (h : '"' ∉ t.head?) : Expression.quoted? t = none := by
  unfold Expression.quoted?
  split
  · exact absurd rfl h
  · rfl

theorem quoted?_eq (h : Loosened false false t p) : Expression.quoted? p = Expression.quoted? t := by
  by_cases hquote : '"' ∈ t.head?
  · obtain ⟨t, rfl⟩ := exists_of_head hquote
    obtain ⟨p, rfl, hrest⟩ := h.cons_of_cons (by decide)
    obtain ⟨inner, r, r', ht, hp, hend⟩ := hrest.string rfl
    rw [quoted?_cons, quoted?_cons, ht, hp]
    cases inner with
    | none => rfl
    | some inner => simp only [Option.map_some, Option.bind_some, hend.nil_iff]
  · rw [quoted?_other hquote, quoted?_other fun hp => hquote ((h.head_iff (by decide)).mpr hp)]

theorem eq_of_wordChars {q w : Bool} (h : Loosened q w t p) (hw : w = true)
    (hchars : (∀ c ∈ t, Text.isWordChar c = true) ∨ ∀ c ∈ p, Text.isWordChar c = true) : p = t := by
  -- the word goes on with each character, and nothing is set in front of the next
  induction h with
  | nil => rfl
  | char _ ih =>
    simp only [List.forall_mem_cons] at hchars
    rcases hchars with ⟨hc, ht⟩ | ⟨hc, hp⟩
    · rw [ih hc (.inl ht)]
    · rw [ih hc (.inr hp)]
  | word _ _ _ _ _ _ => cases hw

theorem eq_of_keyword_append {k k' : Text} (hk : k ∈ keywords) (hk' : k' ∈ keywords)
    (h : k = k' ++ t) : k' = k ∧ t = [] := by
  rcases mem_keywords.mp hk with rfl | rfl <;> rcases mem_keywords.mp hk' with rfl | rfl
  · exact ⟨rfl, List.self_eq_append_right.mp h⟩
  · exact absurd (List.cons.inj h).1 (by decide)
  · exact absurd (List.cons.inj h).1 (by decide)
  · exact ⟨rfl, List.self_eq_append_right.mp h⟩

theorem trim_of_keyword {k : Text} (hk : k ∈ keywords) (h : Loosened false false k p) :
    Text.trim p = k := by
  have hends := trimEnd_keyword hk
  have hword : ∀ c ∈ k, Text.isWordChar c = true := of_keyword (of_all (by decide)) hk
  have hblank : ∀ c ∈ k, ¬ Text.isBlank c = true := of_keyword (of_all (by decide)) hk
  obtain ⟨c, k, rfl, -⟩ := exists_keyword hk
  have hstart : Text.trimStart (c :: k) = c :: k :=
    List.dropWhile_cons_of_neg (hblank c List.mem_cons_self)
  generalize hu : c :: k = u at h
  -- either no blank was set at all, or blanks were set around the whole word
  cases h with
  | nil => cases hu
  | char h =>
    cases hu
    obtain ⟨hc, hrest⟩ := List.forall_mem_cons.mp hword
    rw [eq_of_wordChars h hc (.inl hrest), Text.trim, hstart, hends]
  | @word k' before behind t p hk' hbefore hbehind _ h =>
    obtain ⟨rfl, rfl⟩ := eq_of_keyword_append hk hk' hu
    obtain rfl := h.nil_iff.mp rfl
    unfold Text.trim Text.trimStart
    rw [List.dropWhile_append_of_pos hbefore, List.append_nil, List.cons_append,
      List.dropWhile_cons_of_neg (hblank c List.mem_cons_self), ← List.cons_append,
      Text.trimEnd_append, if_pos (Text.trimEnd_eq_nil.mpr hbehind), hends]
    exact hu

theorem eq_of_keyword {k : Text} (hk : k ∈ keywords) (h : Loosened false false t k) : t = k := by
  have hword : ∀ c ∈ k, Text.isWordChar c = true := of_keyword (of_all (by decide)) hk
  have hblank : ∀ c ∈ k, Text.isBlank c = false := of_keyword (of_all (by decide)) hk
  generalize hu : k = u at h
  cases h with
  | nil => rfl
  | char h =>
    subst hu
    obtain ⟨hc, hrest⟩ := List.forall_mem_cons.mp hword
    rw [eq_of_wordChars h hc (.inr hrest)]
  | @word k' before behind t p hk' hbefore hbehind _ h =>
    -- no blank stands in the word
    have hnone : ∀ {gap : Text}, (∀ c ∈ gap, Text.isBlank c = true) → gap ⊆ k → gap = [] := by
      intro gap hgap hsub
      refine List.eq_nil_iff_forall_not_mem.mpr fun c hc => ?_
      have hfalse := hblank c (hsub hc)
      rw [hgap c hc] at hfalse
      cases hfalse
    obtain rfl := hnone hbefore (by simp [hu])
    obtain rfl := hnone hbehind (by simp [hu])
    obtain ⟨rfl, rfl⟩ := eq_of_keyword_append hk hk' hu
    rw [h.nil_iff.mpr rfl, hu]
    rfl

/-- A text and the same text loosened, both without blanks at either end: they are the same, or words
stand in both that blanks may be set around. -/
structure Trimmed (t p : Text) : Prop where
  loose : Loosened false false t p
  left : Text.trim t = t
  right : Text.trim p = p

theorem Trimmed.of_trim {t p : Text} (h : Loosened false false t p) :
    Trimmed (Text.trim t) (Text.trim p) :=
  ⟨h.trim, Text.trim_trim t, Text.trim_trim p⟩

theorem get?_eq (hvars : WithoutWords vars) (h : Trimmed t p) :
    vars.get? (String.ofList p) = vars.get? (String.ofList t) := by
  rcases h.loose.eq_or_hasWordOutside with rfl | ⟨ht, hp⟩
  · rfl
  -- a name with a word in it is the word, to which nothing was set
  cases hgett : vars.get? (String.ofList t) with
  | some v =>
    have hk := (hvars.names _ v hgett (by rw [String.toList_ofList]; exact ht.hasWord)).1
    rw [String.toList_ofList] at hk
    rw [← h.right, trim_of_keyword hk h.loose, hgett]
  | none =>
    cases hgetp : vars.get? (String.ofList p) with
    | none => rfl
    | some v =>
      have hk := (hvars.names _ v hgetp (by rw [String.toList_ofList]; exact hp.hasWord)).1
      rw [String.toList_ofList] at hk
      rw [eq_of_keyword hk h.loose, hgetp] at hgett
      cases hgett

/-! ### Paths -/

theorem pieces_of_splitFirst (c : Char) (t : Text) : Text.pieces (· == c) t =
    match Text.splitFirst c t with
    | none => [t]
    | some (before, after) => before :: Text.pieces (· == c) after := by
  induction t with
  | nil => rfl
  | cons d t ih =>
    rw [Text.splitFirst, Text.pieces]
    by_cases hd : d = c
    · rw [if_pos hd]
      cases hpieces : Text.pieces (· == c) t with
      | nil => exact absurd hpieces (Text.pieces_ne_nil _ t)
      | cons piece more => simp [hd, hpieces]
    · rw [if_neg hd, ih]
      cases Text.splitFirst c t <;> simp [hd]

theorem pieces_head {c : Char} {x : Text} {xs : List Text}
    (h : Text.pieces (· == c) t = x :: xs) : x <+: t := by
  rw [pieces_of_splitFirst] at h
  cases hcut : Text.splitFirst c t with
  | none =>
    rw [hcut] at h
    obtain ⟨rfl, -⟩ := List.cons.inj h
    exact List.prefix_rfl
  | some cut =>
    rw [hcut] at h
    obtain ⟨rfl, -⟩ := List.cons.inj h
    exact ⟨_, (splitFirst_eq_some hcut).1.symm⟩

theorem pieces_plain {c : Char} {s : Text} (hs : ∀ d ∈ s, d ≠ c) (t : Text) :
    ∃ x xs, Text.pieces (· == c) t = x :: xs ∧ Text.pieces (· == c) (s ++ t) = (s ++ x) :: xs := by
  induction s with
  | nil =>
    cases hx : Text.pieces (· == c) t with
    | nil => exact absurd hx (Text.pieces_ne_nil _ t)
    | cons x xs => exact ⟨x, xs, rfl, hx⟩
  | cons d s ih =>
    obtain ⟨hd, hs⟩ := List.forall_mem_cons.mp hs
    obtain ⟨x, xs, hx, hcut⟩ := ih hs
    refine ⟨x, xs, hx, ?_⟩
    rw [List.cons_append, Text.pieces, hcut]
    simp [hd]

theorem Loosened.pieces {q w : Bool} {c : Char} (hc : c ∉ "andor".toList ∧ Text.isBlank c = false)
    (h : Loosened q w t p) : ∃ x xs y ys, Text.pieces (· == c) t = x :: xs ∧
      Text.pieces (· == c) p = y :: ys ∧ Loosened q w x y ∧
      List.Forall₂ (fun s s' => ∃ q, Loosened q false s s') xs ys := by
  induction h with
  | nil => exact ⟨[], [], [], [], rfl, rfl, nil, .nil⟩
  | @char q w d t p h ih =>
    obtain ⟨x, xs, y, ys, hx, hy, hhead, hrest⟩ := ih
    rw [Text.pieces, Text.pieces, hx, hy]
    by_cases hd : d = c
    · refine ⟨[], x :: xs, [], y :: ys, ?_, ?_, nil, .cons ⟨_, hhead.fresh⟩ hrest⟩
      · simp [hd]
      · simp [hd]
    · refine ⟨d :: x, xs, d :: y, ys, ?_, ?_, char hhead, hrest⟩
      · simp [hd]
      · simp [hd]
  | @word k before behind t p hk hbefore hbehind hends h ih =>
    obtain ⟨x, xs, y, ys, hx, hy, hhead, hrest⟩ := ih
    have hkeyword : ∀ d ∈ k, d ≠ c :=
      of_keyword (P := fun d => d ≠ c) (fun d hd hdc => hc.1 (hdc ▸ hd)) hk
    have hplain := of_spaced_keyword (fun d hd => isBlank_ne hd hc.2) hkeyword hbefore hbehind
    -- the word stays in the first piece of either text
    obtain ⟨x', xs', hx', hleft⟩ := pieces_plain hkeyword t
    obtain ⟨y', ys', hy', hright⟩ := pieces_plain hplain p
    rw [hx] at hx'
    rw [hy] at hy'
    cases hx'
    cases hy'
    refine ⟨_, _, _, _, hleft, ?_, word hk hbefore hbehind ?_ hhead, hrest⟩
    · simpa only [List.append_assoc] using hright
    · exact endsWord_front (pieces_head hx) hends

theorem follow_eq (hvars : WithoutWords vars) {n : String} {fields : List (String × Value)}
    (hget : vars.get? n = some (.object fields)) {keys keys' : List Text}
    (hkeys : List.Forall₂ (fun s s' => ∃ q, Loosened q false s s') keys keys') (path : List String) :
    ((Value.object fields).follow path).follow (keys'.map String.ofList) =
      ((Value.object fields).follow path).follow (keys.map String.ofList) := by
  induction hkeys generalizing path with
  | nil => rfl
  | @cons s s' keys keys' hkey _ ih =>
    have hnull : ∀ {s : Text}, HasWord s →
        ((Value.object fields).follow path).field (String.ofList s) = .null := fun hs =>
      hvars.keys n fields path _ hget (by rw [String.toList_ofList]; exact hs)
    -- a key that differs has a word in it, and nothing stands under such a key
    have hsame : ((Value.object fields).follow path).field (String.ofList s') =
        ((Value.object fields).follow path).field (String.ofList s) := by
      obtain ⟨q, hloose⟩ := hkey
      rcases hloose.eq_or_hasWordOutside with rfl | ⟨hs, hs'⟩
      · rfl
      · rw [hnull hs.hasWord, hnull hs'.hasWord]
    have hrest := ih (path ++ [String.ofList s])
    rw [Value.follow_append] at hrest
    show (((Value.object fields).follow path).field (String.ofList s')).follow _ =
      (((Value.object fields).follow path).field (String.ofList s)).follow _
    rw [hsame]
    exact hrest

theorem dotted?_of_hasWord (hvars : WithoutWords vars) {name path : Text}
    (hcut : Text.splitFirst '.' t = some (name, path)) (hname : HasWord name) :
    Expression.dotted? vars t = none := by
  unfold Expression.dotted?
  rw [hcut]
  simp only
  split
  · split
    · next fields hget =>
      exact absurd rfl (hvars.names _ _ hget (by rw [String.toList_ofList]; exact hname)).2
    · rfl
  · rfl

theorem dotted?_eq (hvars : WithoutWords vars) (h : Loosened false false t p) :
    Expression.dotted? vars p = Expression.dotted? vars t := by
  obtain ⟨name, keys, name', keys', ht, hp, hname, hkeys⟩ := h.pieces (c := '.') (by decide)
  rw [pieces_of_splitFirst] at ht hp
  cases hcut : Text.splitFirst '.' t with
  | none =>
    -- then the other text has no point either
    rw [hcut] at ht
    cases ht
    cases hkeys
    have hcut' : Text.splitFirst '.' p = none := by
      cases hcut' : Text.splitFirst '.' p with
      | none => rfl
      | some cut =>
        rw [hcut'] at hp
        exact absurd (List.cons.inj hp).2 (Text.pieces_ne_nil _ _)
    unfold Expression.dotted?
    rw [hcut, hcut']
  | some cut =>
    obtain ⟨before, path⟩ := cut
    rw [hcut] at ht
    obtain ⟨rfl, rfl⟩ := List.cons.inj ht
    cases hcut' : Text.splitFirst '.' p with
    | none =>
      rw [hcut'] at hp
      obtain ⟨-, rfl⟩ := List.cons.inj hp
      exact absurd (List.forall₂_nil_right_iff.mp hkeys) (Text.pieces_ne_nil _ _)
    | some cut' =>
      obtain ⟨before', path'⟩ := cut'
      rw [hcut'] at hp
      obtain ⟨rfl, rfl⟩ := List.cons.inj hp
      -- the names are the same, or neither is that of an object
      rcases hname.eq_or_hasWordOutside with rfl | ⟨hn, hn'⟩
      · unfold Expression.dotted?
        rw [hcut, hcut']
        simp only
        split
        · split
          · next fields hget =>
            exact congrArg some (follow_eq hvars hget hkeys [])
          · rfl
        · rfl
      · rw [dotted?_of_hasWord hvars hcut hn.hasWord, dotted?_of_hasWord hvars hcut' hn'.hasWord]

theorem simple?_eq (hvars : WithoutWords vars) (h : Trimmed t p) :
    Expression.simple? vars p = Expression.simple? vars t := by
  have hnumber : Expression.number? p = Expression.number? t := by
    rcases h.loose.eq_or_hasWordOutside with rfl | ⟨ht, hp⟩
    · rfl
    · rw [number?_of_hasWord ht.hasWord, number?_of_hasWord hp.hasWord]
  unfold Expression.simple?
  rw [quoted?_eq h.loose, hnumber, get?_eq hvars h, dotted?_eq hvars h.loose]

theorem pieceText?_eq (hvars : WithoutWords vars) (h : Loosened false false t p) :
    Expression.pieceText? vars p = Expression.pieceText? vars t := by
  unfold Expression.pieceText?
  rw [simple?_eq hvars (.of_trim h)]

theorem pieceTexts_eq (hvars : WithoutWords vars) {xs ys : List Text}
    (h : List.Forall₂ (Loosened false false) xs ys) :
    ys.filterMap (Expression.pieceText? vars) = xs.filterMap (Expression.pieceText? vars) := by
  induction h with
  | nil => rfl
  | cons hpiece _ ih => rw [List.filterMap_cons, List.filterMap_cons, pieceText?_eq hvars hpiece, ih]

end Simple

/-! ## Expressions -/

theorem unquoted_trim (t : Text) : unquoted false (Text.trim t) <:+: unquoted false t := by
  obtain ⟨before, behind, hbefore, -, hstart, ht⟩ := Text.exists_gaps t
  have hquote : '"' ∉ before := fun hmem => isBlank_ne (hbefore _ hmem) (by decide) rfl
  have hparts := congrArg (unquoted false) ht
  rw [hstart, unquoted_append, unquoted_append, inside_of_no_quote hquote] at hparts
  rw [hparts]
  exact (List.prefix_append _ _).isInfix.trans (List.suffix_append _ _).isInfix

section Expressions

variable {vars : Table Value} {t p : Text}

theorem evaluate_loosened (hvars : WithoutWords vars) (hsingle : '\x27' ∉ unquoted false t)
    (h : Loosened false false t p) (draws : Draws) :
    (Expression.evaluate p vars draws).toOption = (Expression.evaluate t vars draws).toOption := by
  have htrim := Trimmed.of_trim h
  have hfree : '\x27' ∉ unquoted false (Text.trim t) := fun hmem =>
    hsingle ((unquoted_trim t).subset hmem)
  obtain ⟨x, xs, y, ys, hx, hy, hhead, hrest⟩ := htrim.loose.summands
  have htexts := pieceTexts_eq hvars (.cons hhead hrest)
  unfold Expression.evaluate
  simp only [simple?_eq hvars htrim, hx, hy]
  cases Expression.simple? vars (Text.trim t) with
  | some v => rfl
  | none =>
    cases hrest with
    | nil =>
      show (Expression.arithmetic vars (Text.trim p) draws).toOption =
        (Expression.arithmetic vars (Text.trim t) draws).toOption
      rw [Expression.toOption_arithmetic, Expression.toOption_arithmetic, htrim.loose.ofText?_eq hfree]
    | cons _ _ =>
      simp only [htexts]

theorem evaluate_harmless (hharmless : Harmless vars t) (h : Loosened false false t p) :
    (fun draws => (Expression.evaluate p vars draws).toOption) =
      fun draws => (Expression.evaluate t vars draws).toOption := by
  funext draws
  rcases hharmless with hnone | ⟨hsingle, hvars⟩
  · rw [h.eq_or_hasWordOutside.resolve_right fun hwords => hnone hwords.1]
  · exact evaluate_loosened hvars hsingle h draws

end Expressions

/-! ## Conditions -/

/-- The meaning of a condition that is cut: its two parts are evaluated and compared. -/
def compared (vars : Table Value) (left : Text) (op : Comparison) (right : Text) :
    Expression.Drawing Bool := do
  let l ← Expression.evaluate left vars
  let r ← Expression.evaluate right vars
  compare l op r

/-- The meaning of a condition that is not cut: the truth of an expression. -/
def truthOf (vars : Table Value) (t : Text) : Expression.Drawing Bool := do
  return (← Expression.evaluate t vars).truth

theorem exists_compared {t left right : Text} {op : Comparison} (h : FirstCut t left op right) :
    ∃ left' right', Loosened false false left left' ∧ Loosened false false right right' ∧
      ∀ vars, evaluate t vars = compared vars left' op right' := by
  have hsplit := (Loosened.of_padded false false t).split_alike true
  rw [split_eq_some_iff.mpr h] at hsplit
  obtain ⟨hnone, -⟩ | ⟨l, l', o, r, r', hsome, hsome', hl, hr⟩ := hsplit
  · cases hnone
  · cases hsome
    refine ⟨l', r', hl, hr, fun vars => ?_⟩
    unfold evaluate
    simp only [hsome']
    rfl

theorem evaluate_uncut {t : Text} (h : ∀ left op right, ¬ Cuts false true t left op right)
    (vars : Table Value) : evaluate t vars = truthOf vars (padded false false t) := by
  have hsplit := (Loosened.of_padded false false t).split_alike true
  rw [split_eq_none_iff.mpr h] at hsplit
  obtain ⟨-, hnone⟩ | ⟨_, _, _, _, _, hsome, -⟩ := hsplit
  · unfold evaluate
    simp only [hnone]
    rfl
  · cases hsome

/-- A condition means what its own text says before it is padded, as far as its parts are harmless:
its two sides compared at its first comparison, or its truth if there is none. -/
theorem evaluate_unpadded (t : Text) (vars : Table Value) (draws : Draws) :
    (∀ left op right, FirstCut t left op right → Harmless vars left → Harmless vars right →
      (evaluate t vars draws).toOption = (compared vars left op right draws).toOption) ∧
    ((∀ left op right, ¬ Cuts false true t left op right) → Harmless vars t →
      (evaluate t vars draws).toOption = (truthOf vars t draws).toOption) := by
  refine ⟨fun left op right hcut hleft hright => ?_, fun hnone hharmless => ?_⟩
  · obtain ⟨left', right', hl, hr, hmeaning⟩ := exists_compared hcut
    rw [hmeaning]
    unfold compared
    simp only [toOption_bind, congrFun (evaluate_harmless hleft hl),
      congrFun (evaluate_harmless hright hr)]
  · have hloose := Loosened.of_padded false false t
    rw [evaluate_uncut hnone]
    unfold truthOf
    simp only [toOption_bind, congrFun (evaluate_harmless hharmless hloose)]

theorem evaluate_unpadded_words :
    (evaluate "x == 0 or 1".toList ((∅ : Table Value).insert "x" (.integer 1)) (.ofSeed 0)).toOption =
        some (true, .ofSeed 0) ∧
      (evaluate "0 or 1".toList ((∅ : Table Value).insert "x" (.integer 1)) (.ofSeed 0)).toOption =
        some (true, .ofSeed 0) := by
  have hvars : WithoutWords ((∅ : Table Value).insert "x" (.integer 1)) :=
    withoutWords_empty.insert (by decide) (by decide)
  have hcut : FirstCut "x == 0 or 1".toList "x ".toList .eq " 0 or 1".toList :=
    split_eq_some_iff.mp rfl
  constructor
  · refine ((evaluate_unpadded _ _ _).1 _ _ _ hcut (.inr ⟨by decide, hvars⟩)
      (.inr ⟨by decide, hvars⟩)).trans ?_
    cbv
  · refine ((evaluate_unpadded _ _ _).2 (split_eq_none_iff.mp rfl)
      (.inr ⟨by decide, hvars⟩)).trans ?_
    cbv

/-- Blanks are set in a string in single quotes, too, and it gets longer. -/
theorem padding_alters_string :
    FirstCut "len('or') == 2".toList "len('or') ".toList .eq " 2".toList ∧
      (compared ∅ "len('or') ".toList .eq " 2".toList (.ofSeed 0)).toOption =
        some (true, .ofSeed 0) ∧
      (evaluate "len('or') == 2".toList ∅ (.ofSeed 0)).toOption = some (false, .ofSeed 0) := by
  refine ⟨split_eq_some_iff.mp rfl, ?_, ?_⟩
  · cbv
  · cbv

end LineScript.Condition
