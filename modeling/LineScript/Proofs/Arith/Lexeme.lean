import LineScript.Arith.Evaluate
import Mathlib.Tactic.Common

/-!
# Lexemes: how tokens are written

A lexeme is a token as it stands in a text: a numeral with its very digits, a string in its quotes,
a word, or signs.  A text that has lexemes in it one after the other, apart where they would run
together (`Spread`), is cut into the tokens that they stand for (`ofText?_spread`).
-/

namespace LineScript.Arith

/-! ## The lexemes -/

structure Exponent where
  capital : Bool
  sign : Option Bool
  digits : Text
  nonempty : digits ≠ []
  areDigits : ∀ c ∈ digits, c.isDigit = true

def Exponent.signText (x : Exponent) : Text :=
  match x.sign with
  | none => []
  | some true => ['-']
  | some false => ['+']

def Exponent.text (x : Exponent) : Text :=
  (if x.capital then 'E' else 'e') :: (x.signText ++ x.digits)

def Exponent.value (x : Exponent) : Int :=
  let n := Decimal.exponentFrom 0 x.digits
  if x.sign = some true then -(n : Int) else n

/-- A numeral: digits, then a point with digits after it if any, then an exponent if any.  It starts
with a digit, or with a point and a digit. -/
structure Numeral where
  whole : Text
  fraction : Option Text
  exponent : Option Exponent
  wholeDigits : ∀ c ∈ whole, c.isDigit = true
  fractionDigits : ∀ c ∈ fraction.getD [], c.isDigit = true
  starts : whole ++ fraction.getD [] ≠ []

def Numeral.fractionText (n : Numeral) : Text :=
  match n.fraction with
  | none => []
  | some digits => '.' :: digits

def Numeral.exponentText (n : Numeral) : Text :=
  match n.exponent with
  | none => []
  | some x => x.text

def Numeral.text (n : Numeral) : Text := n.whole ++ n.fractionText ++ n.exponentText

def Numeral.isWhole (n : Numeral) : Bool := n.fraction.isNone && n.exponent.isNone

def Numeral.float (n : Numeral) : Float :=
  let digits := n.fraction.getD []
  Decimal.ofDigits (n.whole ++ digits) (n.exponent.elim 0 Exponent.value - digits.length)

/-- The value of a numeral; none if it is an integer of more than 64 bits. -/
def Numeral.value? (n : Numeral) : Option Value :=
  if n.isWhole then (Integer.ofInt? (Integer.natOfDigits n.whole)).map .integer
  else some (.float n.float)

structure Quoted where
  double : Bool
  body : Text
  closed : (if double then '"' else '\x27') ∉ body

def Quoted.quote (q : Quoted) : Char := if q.double then '"' else '\x27'

def Quoted.text (q : Quoted) : Text := q.quote :: (q.body ++ [q.quote])

structure Identifier where
  first : Char
  rest : Text
  starts : (Text.isAlphabetic first || first == '_') = true
  continues : ∀ c ∈ rest, Text.isWordChar c = true

def Identifier.text (w : Identifier) : Text := w.first :: w.rest

def Identifier.name (w : Identifier) : String := String.ofList w.text

def Sign.text : Sign → Text
  | power => ['*', '*']
  | floorDivide => ['/', '/']
  | compare op => op.symbol.toList
  | plus => ['+']
  | minus => ['-']
  | times => ['*']
  | divide => ['/']
  | percent => ['%']

inductive Lexeme where
  | numeral (n : Numeral)
  | string (q : Quoted)
  | word (w : Identifier)
  | sign (s : Sign)
  | leftParen
  | rightParen
  | comma
  | dot

def Lexeme.text : Lexeme → Text
  | numeral n => n.text
  | string q => q.text
  | word w => w.text
  | sign s => s.text
  | leftParen => ['(']
  | rightParen => [')']
  | comma => [',']
  | dot => ['.']

/-- Whether a lexeme stands for a token: an integer of more than 64 bits does not. -/
def Lexeme.fits : Lexeme → Bool
  | numeral n => n.value?.isSome
  | _ => true

def Numeral.token (n : Numeral) : Token :=
  if n.isWhole then .integer (Int64.ofInt (Integer.natOfDigits n.whole)) else .float n.float

def Lexeme.token : Lexeme → Token
  | numeral n => n.token
  | string q => .string (String.ofList q.body)
  | word w => .word w.name
  | sign s => .sign s
  | leftParen => .leftParen
  | rightParen => .rightParen
  | comma => .comma
  | dot => .dot

def isMark (c : Char) : Bool := c == '(' || c == ')' || c == ','

/-- Whether a character that is no blank may stand right behind a lexeme. -/
def Lexeme.allows : Lexeme → Char → Bool
  | leftParen, _ | rightParen, _ | comma, _ => true
  | dot, c => isMark c || Text.isAlphabetic c || c == '_'
  | word _, c => isMark c || c == '.'
  | _, c => isMark c

def Lexeme.Ends (a : Lexeme) (rest : Text) : Prop :=
  ∀ c ∈ rest.head?, (Text.isBlank c || a.allows c) = true

/-- A text with these lexemes in it, in order: before, between and behind them there are blanks, any
number of them, and at least one where two lexemes would run together. -/
inductive Spread : List Lexeme → Text → Prop
  | nil {gap : Text} (hgap : ∀ c ∈ gap, Text.isBlank c = true) : Spread [] gap
  | cons {a : Lexeme} {as : List Lexeme} {gap rest : Text}
      (hgap : ∀ c ∈ gap, Text.isBlank c = true)
      (hends : a.Ends rest) (hrest : Spread as rest) : Spread (a :: as) (gap ++ (a.text ++ rest))

/-! ## Characters -/

def blankCodes : List Nat :=
  [0x09, 0x0A, 0x0B, 0x0C, 0x0D, 0x20, 0x85, 0xA0, 0x1680, 0x2000, 0x2001, 0x2002, 0x2003, 0x2004,
   0x2005, 0x2006, 0x2007, 0x2008, 0x2009, 0x200A, 0x2028, 0x2029, 0x202F, 0x205F, 0x3000]

theorem toNat_mem_blankCodes {c : Char} (h : Text.isBlank c = true) : c.toNat ∈ blankCodes := by
  simp only [Text.isBlank, Bool.or_eq_true, Bool.and_eq_true, decide_eq_true_eq, beq_iff_eq] at h
  generalize c.toNat = n at h
  rcases h with ((((((((((h | h) | h) | h) | h) | h) | h) | h) | h) | h) | h)
  · have hn : n = 0x09 ∨ n = 0x0A ∨ n = 0x0B ∨ n = 0x0C ∨ n = 0x0D := by omega
    rcases hn with rfl | rfl | rfl | rfl | rfl <;> decide
  · rw [h]; decide
  · rw [h]; decide
  · rw [h]; decide
  · rw [h]; decide
  · obtain ⟨k, hk⟩ := Nat.exists_eq_add_of_le h.1
    have hmem : ∀ k ∈ List.range 11, 0x2000 + k ∈ blankCodes := by decide
    rw [hk]
    exact hmem k (List.mem_range.mpr (by omega))
  · rw [h]; decide
  · rw [h]; decide
  · rw [h]; decide
  · rw [h]; decide
  · rw [h]; decide

theorem of_isBlank {p : Char → Bool} (hall : ∀ n ∈ blankCodes, p (Char.ofNat n) = true) {c : Char}
    (h : Text.isBlank c = true) : p c = true := by
  rw [← Char.ofNat_toNat c]
  exact hall _ (toNat_mem_blankCodes h)

theorem of_isDigit {p : Char → Bool} (hall : ∀ n ∈ List.range 10, p (Char.ofNat (n + 48)) = true)
    {c : Char} (h : c.isDigit = true) : p c = true := by
  simp only [Char.isDigit, Bool.and_eq_true, decide_eq_true_eq] at h
  have hlow : 48 ≤ c.toNat := UInt32.le_iff_toNat_le.mp h.1
  have hhigh : c.toNat ≤ 57 := UInt32.le_iff_toNat_le.mp h.2
  have hnat : c.toNat - 48 + 48 = c.toNat := by omega
  rw [← Char.ofNat_toNat c, ← hnat]
  exact hall _ (List.mem_range.mpr (by omega))

def isEnd (c : Char) : Bool := Text.isBlank c || isMark c

theorem of_isEnd {p : Char → Bool} (hblank : ∀ n ∈ blankCodes, p (Char.ofNat n) = true)
    (hmark : p '(' = true ∧ p ')' = true ∧ p ',' = true) {c : Char} (h : isEnd c = true) :
    p c = true := by
  rcases Bool.or_eq_true_iff.mp h with hc | hc
  · exact of_isBlank hblank hc
  · simp only [isMark, Bool.or_eq_true, beq_iff_eq] at hc
    obtain ⟨hopen, hclose, hcomma⟩ := hmark
    rcases hc with (rfl | rfl) | rfl
    · exact hopen
    · exact hclose
    · exact hcomma

theorem ne_of_starts {c d : Char} (h : (Text.isAlphabetic c || c == '_') = true)
    (hd : (Text.isAlphabetic d || d == '_') = false) : c ≠ d := by
  rintro rfl
  rw [hd] at h
  cases h

theorem not_isDigit_of_starts {c : Char} (h : (Text.isAlphabetic c || c == '_') = true) :
    c.isDigit = false := by
  rw [← Bool.not_eq_true]
  intro hdigit
  have hsmall : c.toNat < 0x80 := by
    have hcode := of_isDigit (p := fun c => decide (c.toNat < 0x80)) (by decide) hdigit
    exact of_decide_eq_true hcode
  rw [Text.isAlphabetic, if_pos hsmall] at h
  have hnot := of_isDigit (p := fun c => !(c.isAlpha || c == '_')) (by decide) hdigit
  rw [h] at hnot
  cases hnot

theorem isWordChar_of_starts {c : Char} (h : (Text.isAlphabetic c || c == '_') = true) :
    Text.isWordChar c = true := by
  rcases Bool.or_eq_true_iff.mp h with hc | hc
  · simp [Text.isWordChar, Text.isAlphanumeric, hc]
  · simp [Text.isWordChar, hc]

theorem not_inRanges_of_isBlank {c : Char} (h : Text.isBlank c = true) {ranges : List (Nat × Nat)}
    (hranges : ∀ r ∈ ranges, r ∈ Text.alphabeticRanges ++ Text.numeralRanges) :
    Text.inRanges ranges c.toNat = false := by
  have hall : (blankCodes.all fun n => (Text.alphabeticRanges ++ Text.numeralRanges).all
      fun r => Nat.blt n r.1 || Nat.blt r.2 n) = true := by
    decide +kernel
  have houtside := List.all_eq_true.mp (List.all_eq_true.mp hall _ (toNat_mem_blankCodes h))
  refine List.any_eq_false.mpr fun r hr => ?_
  have hr := houtside r (hranges r hr)
  simp only [Bool.or_eq_true, Nat.blt_eq] at hr
  simp only [Bool.and_eq_true, decide_eq_true_eq]
  omega

theorem not_isWordChar_of_isBlank {c : Char} (h : Text.isBlank c = true) :
    Text.isWordChar c = false := by
  have hletters : Text.inRanges Text.alphabeticRanges c.toNat = false :=
    not_inRanges_of_isBlank h fun _ => List.mem_append_left _
  have hnumerals : Text.inRanges Text.numeralRanges c.toNat = false :=
    not_inRanges_of_isBlank h fun _ => List.mem_append_right _
  have hascii := of_isBlank (p := fun c => !c.isAlpha && (!c.isDigit && !(c == '_')))
    (by decide) h
  simp only [Bool.and_eq_true, Bool.not_eq_true'] at hascii
  obtain ⟨halpha, hdigit, hunderscore⟩ := hascii
  simp [Text.isWordChar, Text.isAlphanumeric, Text.isAlphabetic, Text.isNumeral, hletters,
    hnumerals, halpha, hdigit, hunderscore]

/-! ## Cutting at the end of a stretch -/

section Stretch

variable {p : Char → Bool} {t rest : Text}

theorem takeWhile_stretch (ht : ∀ c ∈ t, p c = true) (hrest : ∀ c ∈ rest.head?, p c = false) :
    (t ++ rest).takeWhile p = t := by
  rw [List.takeWhile_append_of_pos ht]
  cases rest with
  | nil => simp
  | cons c cs => rw [List.takeWhile_cons_of_neg (by simp [hrest c rfl]), List.append_nil]

theorem dropWhile_stretch (ht : ∀ c ∈ t, p c = true) (hrest : ∀ c ∈ rest.head?, p c = false) :
    (t ++ rest).dropWhile p = rest := by
  rw [List.dropWhile_append_of_pos ht]
  cases rest with
  | nil => rfl
  | cons c cs => exact List.dropWhile_cons_of_neg (by simp [hrest c rfl])

theorem splitFirst_stretch {c : Char} (ht : c ∉ t) :
    Text.splitFirst c (t ++ c :: rest) = some (t, rest) := by
  induction t with
  | nil => simp [Text.splitFirst]
  | cons d ds ih =>
    rw [List.mem_cons, not_or] at ht
    rw [List.cons_append, Text.splitFirst, if_neg (Ne.symm ht.1), ih ht.2]
    rfl

end Stretch

/-! ## Numerals -/

def Ended (rest : Text) : Prop := ∀ c ∈ rest.head?, isEnd c = true

section Numerals

variable {rest : Text}

theorem Ended.nil : Ended [] := by simp [Ended]

theorem Ended.not_isDigit (h : Ended rest) : ∀ c ∈ rest.head?, c.isDigit = false := by
  intro c hc
  have hnot := of_isEnd (p := fun c => !c.isDigit) (by decide) (by decide) (h c hc)
  simpa using hnot

theorem Exponent.exists_digit (x : Exponent) :
    ∃ c cs, x.digits = c :: cs ∧ c.isDigit = true := by
  cases hdigits : x.digits with
  | nil => exact absurd hdigits x.nonempty
  | cons c cs => exact ⟨c, cs, rfl, x.areDigits c (by rw [hdigits]; exact List.mem_cons_self)⟩

theorem Numeral.mem_text {n : Numeral} {c : Char} (h : c ∈ n.text) : c.isDigit = true ∨ c = '.' ∨
    ∃ x ∈ n.exponent, c = (if x.capital then 'E' else 'e') ∨ c ∈ x.signText := by
  rw [text, List.mem_append, List.mem_append] at h
  rcases h with (hwhole | hfraction) | hexponent
  · exact .inl (n.wholeDigits c hwhole)
  · unfold fractionText at hfraction
    split at hfraction
    · cases hfraction
    · next digits hdigits =>
      rcases List.mem_cons.mp hfraction with hpoint | hdigit
      · exact .inr (.inl hpoint)
      · exact .inl (n.fractionDigits c (by rwa [hdigits]))
  · unfold exponentText at hexponent
    split at hexponent
    · cases hexponent
    · next x hx =>
      rw [Exponent.text, List.mem_cons, List.mem_append] at hexponent
      rcases hexponent with hmark | hsign | hdigit
      · exact .inr (.inr ⟨x, hx, .inl hmark⟩)
      · exact .inr (.inr ⟨x, hx, .inr hsign⟩)
      · exact .inl (x.areDigits c hdigit)

theorem Exponent.cutSign_eq (x : Exponent) (rest : Text) :
    cutSign (x.signText ++ (x.digits ++ rest)) = (x.signText, x.digits ++ rest) := by
  unfold signText
  split
  · -- without a sign the text starts with a digit, which is no sign
    obtain ⟨c, cs, hdigits, hdigit⟩ := x.exists_digit
    rw [hdigits, List.nil_append, List.cons_append]
    unfold cutSign
    split
    · next hc => cases hc; cases hdigit
    · next hc => cases hc; cases hdigit
    · rfl
  · rfl
  · rfl

theorem Numeral.cutExponent_eq (n : Numeral) (h : Ended rest) :
    cutExponent (n.exponentText ++ rest) = (n.exponentText, rest) := by
  unfold exponentText
  split
  · -- what ends the numeral is no mark of an exponent
    rw [List.nil_append]
    cases rest with
    | nil => rfl
    | cons c cs =>
      have hnot := of_isEnd (p := fun c => !(c == 'e' || c == 'E')) (by decide)
        (by decide) (h c rfl)
      simp only [Bool.not_eq_true'] at hnot
      simp [cutExponent, hnot]
  · next x _ =>
    have hmark : ((if x.capital then 'E' else 'e') == 'e' ||
        (if x.capital then 'E' else 'e') == 'E') = true := by
      cases x.capital <;> rfl
    have hhead : (x.digits ++ rest).head?.any Char.isDigit = true := by
      obtain ⟨c, cs, hdigits, hdigit⟩ := x.exists_digit
      rw [hdigits]
      exact hdigit
    rw [Exponent.text, List.cons_append, List.append_assoc]
    simp only [cutExponent, x.cutSign_eq, hmark, hhead, Bool.and_self, if_true,
      takeWhile_stretch x.areDigits h.not_isDigit, dropWhile_stretch x.areDigits h.not_isDigit,
      List.cons_append]

theorem Numeral.exponentText_head (n : Numeral) (h : ∀ c ∈ rest.head?, c.isDigit = false) :
    ∀ c ∈ (n.exponentText ++ rest).head?, c.isDigit = false := by
  unfold exponentText
  split
  · exact h
  · next x _ =>
    intro c hc
    rw [Exponent.text, List.cons_append, List.head?_cons, Option.mem_some_iff] at hc
    subst hc
    cases x.capital <;> rfl

theorem Numeral.exponentText_ne_point (n : Numeral) (h : Ended rest) (t : Text) :
    n.exponentText ++ rest ≠ '.' :: t := by
  intro hpoint
  unfold exponentText at hpoint
  split at hpoint
  · rw [List.nil_append] at hpoint
    subst hpoint
    cases (of_isEnd (p := (· != '.')) (by decide) (by decide) (h '.' rfl))
  · next x _ =>
    rw [Exponent.text, List.cons_append] at hpoint
    have hmark := (List.cons.inj hpoint).1
    cases hcapital : x.capital <;> rw [hcapital] at hmark <;> cases hmark

theorem Numeral.cutFraction_eq (n : Numeral) (h : Ended rest) :
    cutFraction (n.fractionText ++ (n.exponentText ++ rest)) =
      (n.fractionText, n.exponentText ++ rest) := by
  have hdigits := n.fractionDigits
  unfold fractionText
  split
  · rw [List.nil_append]
    unfold cutFraction
    split
    · next after hafter => exact absurd hafter (n.exponentText_ne_point h after)
    · rfl
  · next digits hfraction =>
    rw [hfraction, Option.getD_some] at hdigits
    simp only [List.cons_append, cutFraction,
      takeWhile_stretch hdigits (n.exponentText_head h.not_isDigit),
      dropWhile_stretch hdigits (n.exponentText_head h.not_isDigit)]

theorem Numeral.fractionText_head (n : Numeral) (h : ∀ c ∈ rest.head?, c.isDigit = false) :
    ∀ c ∈ (n.fractionText ++ (n.exponentText ++ rest)).head?, c.isDigit = false := by
  unfold fractionText
  split
  · exact n.exponentText_head h
  · intro c hc
    rw [List.cons_append, List.head?_cons, Option.mem_some_iff] at hc
    subst hc
    rfl

theorem Exponent.splitSign_eq (x : Exponent) (rest : Text) :
    Integer.splitSign (x.signText ++ (x.digits ++ rest)) =
      (x.sign == some true, x.digits ++ rest) := by
  unfold signText
  split
  · next hsign =>
    obtain ⟨c, cs, hdigits, hdigit⟩ := x.exists_digit
    rw [hsign, hdigits, List.nil_append, List.cons_append]
    unfold Integer.splitSign
    split
    · next hc => cases hc; cases hdigit
    · next hc => cases hc; cases hdigit
    · rfl
  · next hsign => rw [hsign]; rfl
  · next hsign => rw [hsign]; rfl

theorem Exponent.read_eq (x : Exponent) :
    Decimal.exponent? (x.signText ++ x.digits) = some x.value := by
  have hsplit := x.splitSign_eq []
  rw [List.append_nil] at hsplit
  have hdigits : (x.digits.isEmpty || !x.digits.all Char.isDigit) = false := by
    have hall : x.digits.all Char.isDigit = true := List.all_eq_true.mpr x.areDigits
    simp [hall, x.nonempty]
  unfold Decimal.exponent? value
  rw [hsplit]
  simp only [hdigits, Bool.false_eq_true, if_false, beq_iff_eq]
  rfl

theorem Numeral.exponentPart_eq (n : Numeral) :
    Decimal.exponentPart? n.exponentText = some (n.exponent.elim 0 Exponent.value) := by
  unfold exponentText
  cases n.exponent with
  | none => rfl
  | some x =>
    have hmark : ((if x.capital then 'E' else 'e') == 'e' ||
        (if x.capital then 'E' else 'e') == 'E') = true := by
      cases x.capital <;> rfl
    simp only [Exponent.text, Decimal.exponentPart?, hmark, if_true, x.read_eq, Option.elim_some]

theorem Numeral.startsNumber_text (n : Numeral) (rest : Text) :
    startsNumber (n.text ++ rest) = true := by
  unfold text fractionText
  have hstarts := n.starts
  cases hwhole : n.whole with
  | cons c cs =>
    have hdigit : c.isDigit = true :=
      n.wholeDigits c (by rw [hwhole]; exact List.mem_cons_self)
    simp only [List.cons_append]
    unfold startsNumber
    split
    · next hc => cases hc; cases hdigit
    · next hc => cases hc; exact hdigit
    · next hc => cases hc
  | nil =>
    cases hfraction : n.fraction with
    | none => simp [hwhole, hfraction] at hstarts
    | some digits =>
      cases hdigits : digits with
      | nil => simp [hwhole, hfraction, hdigits] at hstarts
      | cons d ds =>
        exact n.fractionDigits d (by rw [hfraction, hdigits]; exact List.mem_cons_self)

theorem splitSign_of_startsNumber {t : Text} (h : startsNumber t = true) :
    Integer.splitSign t = (false, t) := by
  unfold Integer.splitSign
  split
  · cases h
  · cases h
  · rfl

/-- No number is written like the words for those that have no digits. -/
theorem special?_of_startsNumber {t : Text} (h : startsNumber t = true) :
    Decimal.special? t = none := by
  -- such a text starts with a point or a digit, and the words do not
  have hhead : ∀ c ∈ t.head?, c.toLower ≠ 'i' ∧ c.toLower ≠ 'n' := by
    intro c hc
    unfold startsNumber at h
    split at h
    · rw [List.head?_cons, Option.mem_some_iff] at hc
      subst hc
      decide
    · rw [List.head?_cons, Option.mem_some_iff] at hc
      subst hc
      have hnot := of_isDigit (p := fun c => c.toLower != 'i' && c.toLower != 'n')
        (by decide) h
      simpa using hnot
    · cases h
  have hword : ∀ {w : String}, w.toList.head? = some 'i' ∨ w.toList.head? = some 'n' →
      (Text.lower t == w.toList) = false := by
    intro w hw
    rw [beq_eq_false_iff_ne]
    intro heq
    rw [← heq, Text.lower, List.head?_map] at hw
    cases hc : t.head? with
    | none => simp [hc] at hw
    | some c =>
      obtain ⟨hi, hn⟩ := hhead c hc
      simp [hc, hi, hn] at hw
  unfold Decimal.special?
  simp only [hword (w := "inf") (.inl rfl), hword (w := "infinity") (.inl rfl),
    hword (w := "nan") (.inr rfl), Bool.or_self, Bool.false_eq_true, if_false]

theorem Numeral.magnitude_eq (n : Numeral) : Decimal.magnitude? n.text = some n.float := by
  have hwhole := n.wholeDigits
  have hhead := n.fractionText_head Ended.nil.not_isDigit
  have hexponent := n.exponentText_head Ended.nil.not_isDigit
  have hdigits : (n.whole ++ n.fraction.getD []).isEmpty = false := by
    simpa using n.starts
  rw [List.append_nil] at hhead hexponent
  unfold Decimal.magnitude? text
  rw [List.append_assoc, takeWhile_stretch hwhole hhead, dropWhile_stretch hwhole hhead]
  unfold fractionText float
  -- where there is no point, the exponent must not be taken for one
  cases hfraction : n.fraction with
  | none =>
    rw [hfraction] at hdigits
    have hpoint : ∀ r, n.exponentText ≠ '.' :: r := by
      intro r hr
      exact n.exponentText_ne_point Ended.nil r ((List.append_nil _).trans hr)
    simp only [List.nil_append]
    split
    · next hempty =>
      rw [Option.getD_none, hempty] at hdigits
      cases hdigits
    · rw [n.exponentPart_eq]
      rfl
  | some digits =>
    have hfractionDigits := n.fractionDigits
    rw [hfraction, Option.getD_some] at hfractionDigits hdigits
    simp only [List.cons_append, takeWhile_stretch hfractionDigits hexponent,
      dropWhile_stretch hfractionDigits hexponent, hdigits, Bool.false_eq_true, if_false,
      n.exponentPart_eq, Option.getD_some]
    rfl

theorem Numeral.read_eq (n : Numeral) : Decimal.read? n.text = some n.float := by
  have hstarts := n.startsNumber_text []
  rw [List.append_nil] at hstarts
  unfold Decimal.read?
  simp only [splitSign_of_startsNumber hstarts, special?_of_startsNumber hstarts, n.magnitude_eq]
  rfl

theorem Numeral.read?_whole {n : Numeral} (h : n.isWhole = true) :
    Integer.read? n.whole = Integer.ofInt? (Integer.natOfDigits n.whole) := by
  have htext : n.text = n.whole := by
    unfold isWhole at h
    obtain ⟨hfraction, hexponent⟩ := Bool.and_eq_true_iff.mp h
    rw [Option.isNone_iff_eq_none] at hfraction hexponent
    simp [text, fractionText, exponentText, hfraction, hexponent]
  have hstarts := n.startsNumber_text []
  rw [List.append_nil, htext] at hstarts
  have hnonempty : n.whole.isEmpty = false := by
    cases hwhole : n.whole with
    | nil => rw [hwhole] at hstarts; cases hstarts
    | cons c cs => rfl
  have hnatural : Integer.natural? n.whole = some (Integer.natOfDigits n.whole) := by
    have hall : n.whole.all Char.isDigit = true := List.all_eq_true.mpr n.wholeDigits
    simp [Integer.natural?, hnonempty, hall]
  rw [Integer.read?_eq, splitSign_of_startsNumber hstarts, hnatural]
  rfl

theorem Numeral.number?_text (n : Numeral) (h : Ended rest) :
    number? (n.text ++ rest) = if n.value?.isSome then some (n.token, rest) else none := by
  have hcut : n.text ++ rest = n.whole ++ (n.fractionText ++ (n.exponentText ++ rest)) := by
    simp only [text, List.append_assoc]
  have hwhole := takeWhile_stretch n.wholeDigits (n.fractionText_head h.not_isDigit)
  have hafter := dropWhile_stretch n.wholeDigits (n.fractionText_head h.not_isDigit)
  have hparts : (n.fractionText.isEmpty && n.exponentText.isEmpty) = n.isWhole := by
    unfold fractionText exponentText isWhole
    cases n.fraction <;> cases n.exponent <;> rfl
  unfold number?
  rw [hcut]
  simp only [hwhole, hafter, n.cutFraction_eq h, n.cutExponent_eq h, hparts]
  unfold value? token
  cases hw : n.isWhole with
  | false =>
    have hread := n.read_eq
    rw [text] at hread
    simp only [Bool.false_eq_true, if_false, hread, Option.map_some, Option.isSome_some, if_true]
  | true =>
    simp only [if_true, Numeral.read?_whole hw, Integer.ofInt?]
    split
    · rfl
    · rfl

/-! ## Lexemes are read as their tokens -/

theorem Identifier.first?_text (w : Identifier) (h : ∀ c ∈ rest.head?, Text.isWordChar c = false) :
    Token.first? (w.text ++ rest) = some (.word w.name, rest) := by
  have hstarts := w.starts
  have hnumber : startsNumber (w.text ++ rest) = false := by
    rw [text, List.cons_append]
    unfold startsNumber
    split
    · next hc => exact absurd (List.cons.inj hc).1 (ne_of_starts hstarts (by decide))
    · next hc => rw [← (List.cons.inj hc).1]; exact not_isDigit_of_starts hstarts
    · rfl
  unfold Token.first?
  rw [hnumber, text, List.cons_append]
  simp only [Bool.false_eq_true, if_false]
  -- none of the characters that start other lexemes starts a word
  split
  · next hc => exact absurd (List.cons.inj hc).1 (ne_of_starts hstarts (by decide))
  · next hc => exact absurd (List.cons.inj hc).1 (ne_of_starts hstarts (by decide))
  · next hc => exact absurd (List.cons.inj hc).1 (ne_of_starts hstarts (by decide))
  · next hc => exact absurd (List.cons.inj hc).1 (ne_of_starts hstarts (by decide))
  · next hc => exact absurd (List.cons.inj hc).1 (ne_of_starts hstarts (by decide))
  · next hc => exact absurd (List.cons.inj hc).1 (ne_of_starts hstarts (by decide))
  · next hc =>
    obtain ⟨rfl, rfl⟩ := List.cons.inj hc
    rw [if_pos hstarts, takeWhile_stretch w.continues h, dropWhile_stretch w.continues h]
    rfl
  · next hc => cases hc

theorem Quoted.first?_text (q : Quoted) (rest : Text) :
    Token.first? (q.text ++ rest) = some (.string (String.ofList q.body), rest) := by
  have hclosed := q.closed
  have hcut : q.text ++ rest = q.quote :: (q.body ++ q.quote :: rest) := by
    simp [text]
  rw [hcut]
  unfold quote
  cases hdouble : q.double with
  | true =>
    rw [hdouble, if_pos rfl] at hclosed
    show string? '"' (q.body ++ '"' :: rest) = _
    unfold string?
    rw [splitFirst_stretch hclosed]
    rfl
  | false =>
    rw [hdouble, if_neg Bool.false_ne_true] at hclosed
    show string? '\x27' (q.body ++ '\x27' :: rest) = _
    unfold string?
    rw [splitFirst_stretch hclosed]
    rfl

theorem Sign.take?_text (s : Sign) (h : ∀ c ∈ rest.head?, c ≠ '*' ∧ c ≠ '/' ∧ c ≠ '=') :
    Sign.take? (s.text ++ rest) = some (s, rest) := by
  cases rest with
  | nil =>
    cases s with
    | compare op => cases op <;> rfl
    | _ => rfl
  | cons c cs =>
    obtain ⟨htimes, hdivide, hequals⟩ := h c rfl
    cases s with
    | compare op => cases op <;> simp [text, Comparison.symbol, take?, Comparison.take?, hequals]
    | _ => simp [text, take?, htimes, hdivide]

theorem Sign.first?_eq (s : Sign) (rest : Text) :
    Token.first? (s.text ++ rest) = (Sign.take? (s.text ++ rest)).map fun (s, rest) =>
      (.sign s, rest) := by
  cases s with
  | compare op => cases op <;> rfl
  | _ => rfl

theorem Sign.first?_text (s : Sign) (h : Ended rest) :
    Token.first? (s.text ++ rest) = some (.sign s, rest) := by
  have hnext : ∀ c ∈ rest.head?, c ≠ '*' ∧ c ≠ '/' ∧ c ≠ '=' := by
    intro c hc
    have hnot := of_isEnd (p := fun c => c != '*' && (c != '/' && c != '=')) (by decide)
      (by decide) (h c hc)
    simpa using hnot
  rw [Sign.first?_eq, Sign.take?_text s hnext]
  rfl

end Numerals

/-- A lexeme that is written out is read as its token, or as none if it does not fit. -/
theorem Lexeme.first?_text (a : Lexeme) {rest : Text} (h : a.Ends rest) :
    Token.first? (a.text ++ rest) = if a.fits then some (a.token, rest) else none := by
  cases a with
  | numeral n =>
    show Token.first? (n.text ++ rest) = _
    unfold Token.first?
    rw [n.startsNumber_text rest, if_pos rfl]
    exact n.number?_text h
  | string q => exact q.first?_text rest
  | word w =>
    refine w.first?_text fun c hc => ?_
    rcases Bool.or_eq_true_iff.mp (h c hc) with hblank | hallows
    · exact not_isWordChar_of_isBlank hblank
    · simp only [allows, isMark, Bool.or_eq_true, beq_iff_eq] at hallows
      rcases hallows with ((rfl | rfl) | rfl) | rfl
      · decide
      · decide
      · decide
      · decide
  | sign s => exact s.first?_text h
  | leftParen => rfl
  | rightParen => rfl
  | comma => rfl
  | dot =>
    -- no digit follows, so the point starts no number
    have hdigit : ¬ rest.head?.any Char.isDigit = true := by
      cases hrest : rest.head? with
      | none => simp
      | some c =>
        have hc := h c hrest
        have hnot : (Text.isBlank c || dot.allows c) = true → c.isDigit = false := by
          intro hc
          rw [← Bool.not_eq_true]
          intro hdigit
          have hnot := of_isDigit (p := fun c => !(Text.isBlank c || dot.allows c))
            (by decide) hdigit
          rw [hc] at hnot
          cases hnot
        simp [hnot hc]
    show (if rest.head?.any Char.isDigit then number? ('.' :: rest) else some (.dot, rest)) = _
    rw [if_neg hdigit]
    rfl

theorem Lexeme.exists_text (a : Lexeme) :
    ∃ c t, a.text = c :: t ∧ Text.isBlank c = false := by
  have hdigit : ∀ {c : Char}, c.isDigit = true → Text.isBlank c = false := by
    intro c hc
    have hnot := of_isDigit (p := fun c => !Text.isBlank c) (by decide) hc
    simpa using hnot
  cases a with
  | numeral n =>
    have hstarts := n.startsNumber_text []
    rw [List.append_nil] at hstarts
    unfold startsNumber at hstarts
    split at hstarts
    · next t ht => exact ⟨'.', t, ht, by decide⟩
    · next c t _ ht => exact ⟨c, t, ht, hdigit hstarts⟩
    · cases hstarts
  | string q =>
    refine ⟨q.quote, q.body ++ [q.quote], rfl, ?_⟩
    unfold Quoted.quote
    cases q.double <;> decide
  | word w =>
    refine ⟨w.first, w.rest, rfl, ?_⟩
    rw [← Bool.not_eq_true]
    -- no character of a word is blank
    intro hblank
    have hword := isWordChar_of_starts w.starts
    rw [not_isWordChar_of_isBlank hblank] at hword
    cases hword
  | sign s =>
    cases s with
    | compare op => cases op <;> exact ⟨_, _, rfl, by decide⟩
    | _ => exact ⟨_, _, rfl, by decide⟩
  | leftParen => exact ⟨_, _, rfl, by decide⟩
  | rightParen => exact ⟨_, _, rfl, by decide⟩
  | comma => exact ⟨_, _, rfl, by decide⟩
  | dot => exact ⟨_, _, rfl, by decide⟩

/-! ## The tokens of a text -/

theorem toOption_tokensFrom_cons (text : Text) (c : Char) (t : Text) :
    (tokensFrom text (c :: t)).toOption =
      if Text.isBlank c then (tokensFrom text t).toOption
      else (Token.first? (c :: t)).bind fun (token, rest) =>
        (tokensFrom text rest).toOption.map (token :: ·) := by
  rw [tokensFrom.eq_def text (c :: t)]
  simp only
  by_cases hblank : Text.isBlank c = true
  · rw [if_pos hblank, if_pos hblank]
  · rw [if_neg hblank, if_neg hblank]
    split
    · next hnone =>
      rw [hnone]
      rfl
    · next token rest hsome =>
      rw [hsome, Option.bind_some]
      cases tokensFrom text rest <;> rfl

/-- The text that a fault would quote says nothing about the tokens. -/
theorem toOption_tokensFrom (text t : Text) : (tokensFrom text t).toOption = Token.ofText? t := by
  have hany : ∀ other, (tokensFrom text t).toOption = (tokensFrom other t).toOption := by
    intro other
    induction t using tokensFrom.induct with
    | case1 =>
      rw [tokensFrom, tokensFrom]
    | case2 c t hblank ih =>
      rw [toOption_tokensFrom_cons, toOption_tokensFrom_cons, if_pos hblank, if_pos hblank, ih]
    | case3 c t hblank hfirst =>
      rw [toOption_tokensFrom_cons, toOption_tokensFrom_cons, if_neg hblank, if_neg hblank, hfirst]
      rfl
    | case4 c t hblank token rest hfirst _ ih =>
      rw [toOption_tokensFrom_cons, toOption_tokensFrom_cons, if_neg hblank, if_neg hblank, hfirst]
      exact congrArg (Option.map (token :: ·)) ih
  exact hany t

theorem ofText?_nil : Token.ofText? [] = some [] := by
  rw [← toOption_tokensFrom [], tokensFrom]
  rfl

theorem ofText?_cons (c : Char) (t : Text) : Token.ofText? (c :: t) =
    if Text.isBlank c then Token.ofText? t
    else (Token.first? (c :: t)).bind fun (token, rest) => (Token.ofText? rest).map (token :: ·) := by
  have hcons := toOption_tokensFrom_cons [] c t
  simpa only [toOption_tokensFrom] using hcons

theorem ofText?_minus (t : Text) :
    Token.ofText? ('-' :: t) = (Token.ofText? t).map (.sign .minus :: ·) := by
  rw [ofText?_cons, if_neg (by decide)]
  rfl

theorem ofText?_gap {gap : Text} (hgap : ∀ c ∈ gap, Text.isBlank c = true) (t : Text) :
    Token.ofText? (gap ++ t) = Token.ofText? t := by
  induction gap with
  | nil => rfl
  | cons c cs ih =>
    rw [List.cons_append, ofText?_cons, if_pos (hgap c List.mem_cons_self)]
    exact ih fun d hd => hgap d (List.mem_cons_of_mem c hd)

theorem ofText?_lexeme (a : Lexeme) {rest : Text} (h : a.Ends rest) :
    Token.ofText? (a.text ++ rest) =
      if a.fits then (Token.ofText? rest).map (a.token :: ·) else none := by
  obtain ⟨c, t, htext, hblank⟩ := a.exists_text
  have hfirst := a.first?_text h
  rw [htext, List.cons_append] at hfirst
  rw [htext, List.cons_append, ofText?_cons, if_neg (by simp [hblank]), hfirst]
  by_cases hfits : a.fits = true
  · rw [if_pos hfits, if_pos hfits]
    rfl
  · rw [if_neg hfits, if_neg hfits]
    rfl

/-- A text with lexemes in it is cut into their tokens, if all of them fit. -/
theorem ofText?_spread {as : List Lexeme} {t : Text} (h : Spread as t) :
    Token.ofText? t = if as.all Lexeme.fits then some (as.map Lexeme.token) else none := by
  induction h with
  | @nil gap hgap =>
    have hcut := ofText?_gap hgap []
    rw [List.append_nil] at hcut
    rw [hcut, ofText?_nil]
    rfl
  | @cons a as gap rest hgap hends _ ih =>
    rw [ofText?_gap hgap, ofText?_lexeme a hends, ih]
    cases ha : a.fits with
    | false => simp [ha]
    | true => cases has : as.all Lexeme.fits <;> simp [ha, has]

end LineScript.Arith
