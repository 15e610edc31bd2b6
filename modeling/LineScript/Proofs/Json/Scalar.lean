import LineScript.Proofs.Number.Reread
import LineScript.Value.Data

/-!
# Scalars in JSON text

A string or an integer is read back as it was written, whatever follows it.  What the text of a
floating-point number is read as is another matter, but it depends on that text alone
(`valueWith_float`).
-/

namespace LineScript.Json

open Arith (Numeral takeWhile_stretch dropWhile_stretch)

/-! ## Strings -/

theorem codePoint_control {c : Char} (h : c.toNat < 0x20) (rest : Text) :
    codePoint ('0' :: '0' :: Hexadecimal.small (c.toNat / 16) ::
      Hexadecimal.small (c.toNat % 16) :: rest) = .ok (c, rest) := by
  have hzero : Hexadecimal.value? '0' = some 0 := by decide
  have hhigh := Hexadecimal.value?_small (n := c.toNat / 16) (by omega)
  have hlow := Hexadecimal.value?_small (n := c.toNat % 16) (by omega)
  have hsum : ((0 * 16 + 0) * 16 + c.toNat / 16) * 16 + c.toNat % 16 = c.toNat := by omega
  have hfour : hexFour ('0' :: '0' :: Hexadecimal.small (c.toNat / 16) ::
      Hexadecimal.small (c.toNat % 16) :: rest) = .ok (c.toNat, rest) := by
    simp only [hexFour, hzero, hhigh, hlow, hsum]
  have hnotLow : (0xDC00 ≤ c.toNat && c.toNat ≤ 0xDFFF) = false := by simp; omega
  have hnotHigh : (0xD800 ≤ c.toNat && c.toNat ≤ 0xDBFF) = false := by simp; omega
  simp [codePoint, hfour, hnotLow, hnotHigh, Char.ofNat_toNat]

theorem stringFrom_escape (seen : List Char) (c : Char) (rest : Text) :
    stringFrom seen (escape c ++ rest) = stringFrom (c :: seen) rest := by
  unfold escape
  split
  -- characters without an escape of their own: controls are written by their code, others plainly
  case h_8 =>
    split
    · next hcontrol =>
      have hescaped : escaped ('u' :: '0' :: '0' :: Hexadecimal.small (c.toNat / 16) ::
          Hexadecimal.small (c.toNat % 16) :: rest) = .ok (c, rest) := codePoint_control hcontrol rest
      simp only [List.cons_append, List.nil_append]
      rw [stringFrom]
      split
      · next stop hstop => rw [hescaped] at hstop; cases hstop
      · next d more hmore => rw [hescaped] at hmore; cases hmore; rfl
    · next hquote hslash _ _ _ _ _ hplain =>
      rw [List.singleton_append, stringFrom.eq_4 seen c rest hquote hslash,
        if_neg hplain]
  all_goals
    simp only [List.cons_append, List.nil_append]
    rw [stringFrom]
    rfl

theorem stringFrom_escapes (seen cs : List Char) (rest : Text) :
    stringFrom seen (cs.flatMap escape ++ '"' :: rest) =
      .ok (String.ofList (seen.reverse ++ cs), rest) := by
  induction cs generalizing seen with
  | nil =>
    rw [List.append_nil]
    show stringFrom seen ('"' :: rest) = _
    rw [stringFrom]
  | cons c cs ih =>
    rw [List.flatMap_cons, List.append_assoc, stringFrom_escape, ih, List.reverse_cons,
      List.append_assoc]
    rfl

theorem stringFrom_quoted (s : String) (rest : Text) :
    stringFrom [] (s.toList.flatMap escape ++ '"' :: rest) = .ok (s, rest) := by
  rw [stringFrom_escapes, List.reverse_nil, List.nil_append, String.ofList_toList]

/-! ## Integers -/

theorem gather_eq {limit n : Nat} {digits : Text} (h : Integer.appendDigits n digits ≤ limit) :
    gather limit n digits = (Integer.appendDigits n digits, 0) := by
  induction digits generalizing n with
  | nil => rfl
  | cons c rest ih =>
    have hrest : Integer.appendDigits (10 * n + (c.toNat - '0'.toNat)) rest ≤ limit := h
    have hnext := Nat.le_trans (Decimal.le_appendDigits _ rest) hrest
    rw [gather, if_pos hnext]
    exact ih hrest

def Ended (rest : Text) : Prop :=
  ∀ c ∈ rest.head?, c.isDigit = false ∧ c ≠ '.' ∧ c ≠ 'e' ∧ c ≠ 'E'

theorem Ended.nil : Ended [] := fun _ hc => by cases hc

theorem Ended.not_isDigit {rest : Text} (h : Ended rest) : ∀ c ∈ rest.head?, c.isDigit = false :=
  fun c hc => (h c hc).1

def behind (negative : Bool) (n leftOver : Nat) : Text → Except Stop (Json × Text)
  | '.' :: rest => fraction negative n leftOver rest
  | 'e' :: rest | 'E' :: rest => exponent negative n leftOver rest
  | rest =>
    if leftOver = 0 then .ok (ofInteger negative n, rest) else scaled negative n leftOver rest

def IsWhole (digits : Text) : Prop := digits ≠ [] ∧ (digits.head? = some '0' → digits.tail = [])

section Wholes

variable {digits t rest : Text}

theorem number_of_isWhole (negative : Bool) (h : IsWhole digits)
    (hdigits : ∀ c ∈ digits, c.isDigit = true) (ht : ∀ c ∈ t.head?, c.isDigit = false) :
    number negative (digits ++ t) = behind negative (gather significandLimit 0 digits).1
      (gather significandLimit 0 digits).2 t := by
  obtain ⟨hne, hzero⟩ := h
  unfold number
  simp only [takeWhile_stretch hdigits ht, dropWhile_stretch hdigits ht]
  split
  · next heq => exact absurd (List.append_eq_nil_iff.mp heq).1 hne
  · exact absurd rfl hne
  · exact absurd (hzero rfl) (List.cons_ne_nil _ _)
  · rfl

theorem number_of_not_isWhole (negative : Bool) (h : ¬ IsWhole digits)
    (hdigits : ∀ c ∈ digits, c.isDigit = true) (ht : ∀ c ∈ t.head?, c.isDigit = false) :
    ∃ stop, number negative (digits ++ t) = .error stop := by
  unfold number
  simp only [takeWhile_stretch hdigits ht, dropWhile_stretch hdigits ht]
  match digits with
  | [] => cases t <;> exact ⟨_, rfl⟩
  | [c] => exact absurd ⟨List.cons_ne_nil c [], fun _ => rfl⟩ h
  | c :: d :: ds =>
    -- more digits may stand before the point only where the first of them is no zero
    by_cases hc : c = '0'
    · subst hc
      exact ⟨_, rfl⟩
    · exact absurd ⟨List.cons_ne_nil c _, fun heq => absurd (Option.some.inj heq) hc⟩ h

theorem behind_of_ended (negative : Bool) (n leftOver : Nat) (h : Ended rest) :
    behind negative n leftOver rest =
      if leftOver = 0 then .ok (ofInteger negative n, rest)
      else scaled negative n leftOver rest := by
  cases rest with
  | nil => rfl
  | cons c cs =>
    obtain ⟨-, hpoint, hsmall, hcapital⟩ := h c rfl
    unfold behind
    split
    · next heq => exact absurd (List.cons.inj heq).1 hpoint
    · next heq => exact absurd (List.cons.inj heq).1 hsmall
    · next heq => exact absurd (List.cons.inj heq).1 hcapital
    · rfl

end Wholes

theorem isWhole_toDigits (n : Nat) : IsWhole (Nat.toDigits 10 n) := by
  -- zero is the one number whose digits start with a zero, and it is a single digit
  refine ⟨Nat.toDigits_ne_nil, fun hhead => ?_⟩
  by_cases hzero : n = 0
  · subst hzero
    rfl
  · exact absurd hhead (Integer.head?_toDigits hzero)

theorem number_digits (negative : Bool) {n : Nat} (hn : n ≤ significandLimit) {rest : Text}
    (hrest : Ended rest) :
    number negative (Nat.toDigits 10 n ++ rest) = .ok (ofInteger negative n, rest) := by
  have hdigits : ∀ c ∈ Nat.toDigits 10 n, c.isDigit = true :=
    fun c hc => Integer.isDigit_of_mem_toDigits hc
  have hvalue : Integer.appendDigits 0 (Nat.toDigits 10 n) = n := Integer.natOfDigits_toDigits n
  have hgather : gather significandLimit 0 (Nat.toDigits 10 n) = (n, 0) := by
    rw [gather_eq (by rw [hvalue]; exact hn), hvalue]
  rw [number_of_isWhole negative (isWhole_toDigits n) hdigits hrest.not_isDigit, hgather,
    behind_of_ended negative n 0 hrest, if_pos rfl]

theorem valueWith_digits (count : Nat) (inner : Option (Reader Json)) {c : Char}
    (hc : c.isDigit = true) (t : Text) :
    valueWith count inner (c :: t) = number false (c :: t) := by
  have hnot := Arith.of_isDigit (p := fun c => !isSpace c && (c != 'n' && (c != 't' && (c != 'f' &&
    (c != '-' && (c != '"' && (c != '[' && c != '\x7b')))))))
    (by decide) hc
  simp only [Bool.and_eq_true, bne_iff_ne, Bool.not_eq_true'] at hnot
  obtain ⟨hspace, hn, ht, hf, hminus, hquote, hbracket, hbrace⟩ := hnot
  have hskip : skipSpace (c :: t) = c :: t :=
    List.dropWhile_cons_of_neg (by rw [hspace]; exact Bool.false_ne_true)
  simp only [valueWith, hskip]
  -- a digit is none of the characters that other values start with
  split <;> simp_all

theorem valueWith_minus (count : Nat) (inner : Option (Reader Json)) (t : Text) :
    valueWith count inner ('-' :: t) = number true t := by
  cases inner <;> rfl

theorem valueWith_integer (count : Nat) (inner : Option (Reader Json)) (n : Int64) {rest : Text}
    (hrest : Ended rest) :
    valueWith count inner ((toString n.toInt).toList ++ rest) = .ok (.integer n.toInt, rest) := by
  have hlow := Int64.minValue_le_toInt n
  have hhigh := Int64.toInt_le n
  have hmin : Int64.minValue.toInt = -0x8000000000000000 := by decide
  have hmax : Int64.maxValue.toInt = 0x7FFFFFFFFFFFFFFF := by decide
  -- by the sign of the number, which decides whether a minus is written
  generalize n.toInt = i at hlow hhigh
  have hlimit : significandLimit = 0xFFFFFFFFFFFFFFFF := rfl
  cases i with
  | ofNat m =>
    have htext : (toString (Int.ofNat m)).toList = Nat.toDigits 10 m := Nat.toList_repr
    have hm : m ≤ significandLimit := by
      have hcast : (m : Int) ≤ Int64.maxValue.toInt := hhigh
      omega
    have hnumber := number_digits false hm hrest
    rw [htext]
    cases hdigits : Nat.toDigits 10 m with
    | nil => exact absurd hdigits Nat.toDigits_ne_nil
    | cons c cs =>
      have hc : c.isDigit = true :=
        Integer.isDigit_of_mem_toDigits (n := m) (by rw [hdigits]; exact List.mem_cons_self)
      rw [List.cons_append, valueWith_digits count inner hc, ← List.cons_append, ← hdigits, hnumber]
      rfl
  | negSucc m =>
    rw [Layout.toList_negSucc, List.cons_append, valueWith_minus, number_digits true (by omega) hrest]
    have hsmall : m + 1 ≤ 0x8000000000000000 := by omega
    simp [ofInteger, hsmall, Int.negSucc_eq]

/-! ## Floating-point numbers -/

/-- A reader of a text before any rest: what it reads does not depend on the rest. -/
def Steady (f : Text → Except Stop (Json × Text)) : Prop :=
  ∃ r : Option Json, ∀ rest, Ended rest → (f rest).toOption = r.map (·, rest)

section Steady

variable {f g : Text → Except Stop (Json × Text)}

theorem Steady.congr (h : Steady f) (heq : ∀ rest, Ended rest → g rest = f rest) : Steady g := by
  obtain ⟨r, hr⟩ := h
  exact ⟨r, fun rest hrest => by rw [heq rest hrest, hr rest hrest]⟩

theorem steady_error (stop : Text → Stop) : Steady fun rest => .error (stop rest) :=
  ⟨none, fun _ _ => rfl⟩

theorem steady_ok (j : Json) : Steady fun rest => .ok (j, rest) := ⟨some j, fun _ _ => rfl⟩

theorem Steady.ite {c : Prop} [Decidable c] (hf : Steady f) (hg : Steady g) :
    Steady fun rest => if c then f rest else g rest := by
  by_cases hc : c
  · exact hf.congr fun rest _ => if_pos hc
  · exact hg.congr fun rest _ => if_neg hc

theorem steady_of_error (h : ∀ rest, Ended rest → ∃ stop, f rest = .error stop) : Steady f := by
  refine ⟨none, fun rest hrest => ?_⟩
  obtain ⟨stop, hstop⟩ := h rest hrest
  rw [hstop]
  rfl

theorem steady_scaled (negative : Bool) (n : Nat) (e : Int) : Steady (scaled negative n e) := by
  unfold scaled
  simp only
  split
  · exact steady_ok _
  · exact steady_error _

theorem steady_exponent (negative : Bool) (n : Nat) (e : Int) (x : Arith.Exponent) :
    Steady fun rest => exponent negative n e (x.signText ++ (x.digits ++ rest)) := by
  have hne : ∀ rest, x.digits ++ rest ≠ [] :=
    fun rest h => x.nonempty (List.append_eq_nil_iff.mp h).1
  have hempty : x.digits.isEmpty = false := by
    obtain ⟨c, cs, hdigits, -⟩ := x.exists_digit
    rw [hdigits]
    rfl
  have hparts := Steady.ite (c := (gather exponentLimit 0 x.digits).2 = 0)
    (steady_scaled negative n (if x.sign == some true then
      e - (gather exponentLimit 0 x.digits).1 else e + (gather exponentLimit 0 x.digits).1))
    (Steady.ite (c := (decide (n ≠ 0) && !(x.sign == some true)) = true)
      (steady_error fun rest => ⟨.numberOutOfRange,
        Text.byteCount rest + (gather exponentLimit 0 x.digits).2 - 1⟩)
      (steady_ok (.float (if negative then -0.0 else 0.0))))
  refine hparts.congr fun rest hrest => ?_
  unfold exponent
  simp only [x.splitSign_eq, takeWhile_stretch x.areDigits hrest.not_isDigit,
    dropWhile_stretch x.areDigits hrest.not_isDigit, hempty]
  -- digits follow the sign, so the text does not end there
  split
  · next hnil => exact absurd hnil (hne rest)
  · rfl

theorem steady_afterDigits (negative : Bool) (n : Nat) (e : Int) (m : Numeral) :
    Steady fun rest => afterDigits negative n e (m.exponentText ++ rest) := by
  unfold Numeral.exponentText
  split
  · -- neither `e` nor `E` ends a numeral
    refine (steady_scaled negative n e).congr fun rest hrest => ?_
    cases rest with
    | nil => rfl
    | cons c cs =>
      obtain ⟨-, -, hsmall, hcapital⟩ := hrest c rfl
      unfold afterDigits
      split
      · next heq => exact absurd (List.cons.inj heq).1 hsmall
      · next heq => exact absurd (List.cons.inj heq).1 hcapital
      · rfl
  · next x _ =>
    refine (steady_exponent negative n e x).congr fun rest _ => ?_
    rw [Arith.Exponent.text, List.cons_append, List.append_assoc]
    cases x.capital <;> rfl

theorem steady_behind (negative : Bool) (n leftOver : Nat) (m : Numeral) :
    Steady fun rest => behind negative n leftOver (m.fractionText ++ (m.exponentText ++ rest)) := by
  unfold Numeral.fractionText
  split
  · unfold Numeral.exponentText
    split
    · exact (Steady.ite (steady_ok _) (steady_scaled _ _ _)).congr
        fun rest hrest => behind_of_ended negative n leftOver hrest
    · next x _ =>
      refine (steady_exponent negative n leftOver x).congr fun rest _ => ?_
      rw [Arith.Exponent.text, List.nil_append, List.cons_append, List.append_assoc]
      cases x.capital <;> rfl
  · next digits hfraction =>
    have hdigits : ∀ c ∈ digits, c.isDigit = true := by
      have hall := m.fractionDigits
      rw [hfraction] at hall
      exact hall
    -- a digit behind the point would be taken up, so what ends the number matters
    have htake : ∀ rest, Ended rest →
        (digits ++ (m.exponentText ++ rest)).takeWhile Char.isDigit = digits :=
      fun rest hrest => takeWhile_stretch hdigits (m.exponentText_head hrest.not_isDigit)
    have hdrop : ∀ rest, Ended rest →
        (digits ++ (m.exponentText ++ rest)).dropWhile Char.isDigit = m.exponentText ++ rest :=
      fun rest hrest => dropWhile_stretch hdigits (m.exponentText_head hrest.not_isDigit)
    by_cases hempty : digits.isEmpty = true
    · refine steady_of_error fun rest hrest => ?_
      rw [List.cons_append]
      simp only [behind, fraction, htake rest hrest, hempty, if_true]
      exact ⟨_, rfl⟩
    · refine (steady_afterDigits negative (gather significandLimit n digits).1
        (leftOver - (digits.length - (gather significandLimit n digits).2 : Nat)) m).congr
        fun rest hrest => ?_
      rw [List.cons_append]
      simp only [behind, fraction, htake rest hrest, hdrop rest hrest]
      rw [if_neg hempty]

theorem steady_number (negative : Bool) (m : Numeral) :
    Steady fun rest => number negative (m.text ++ rest) := by
  have htext : ∀ rest, m.text ++ rest = m.whole ++ (m.fractionText ++ (m.exponentText ++ rest)) := by
    intro rest
    rw [Numeral.text, List.append_assoc, List.append_assoc]
  by_cases hwhole : IsWhole m.whole
  · refine (steady_behind negative (gather significandLimit 0 m.whole).1
      (gather significandLimit 0 m.whole).2 m).congr fun rest hrest => ?_
    rw [htext]
    exact number_of_isWhole negative hwhole m.wholeDigits (m.fractionText_head hrest.not_isDigit)
  · refine steady_of_error fun rest hrest => ?_
    rw [htext]
    exact number_of_not_isWhole negative hwhole m.wholeDigits (m.fractionText_head hrest.not_isDigit)

end Steady

/-! ## The text of a floating-point number -/

/-- A text in front of any rest that is read as one number, or is not, whatever the rest. -/
def SteadyText (t : Text) : Prop :=
  ∃ r : Option Json, ∀ count inner rest, Ended rest →
    (valueWith count inner (t ++ rest)).toOption = r.map (·, rest)

theorem steadyText_numeral {m : Numeral} (h : m.whole ≠ []) : SteadyText m.text := by
  obtain ⟨r, hr⟩ := steady_number false m
  refine ⟨r, fun count inner rest hrest => ?_⟩
  refine Eq.trans ?_ (hr rest hrest)
  cases hwhole : m.whole with
  | nil => exact absurd hwhole h
  | cons c cs =>
    have hc : c.isDigit = true := m.wholeDigits c (by rw [hwhole]; exact List.mem_cons_self)
    have htext : m.text ++ rest = c :: (cs ++ m.fractionText ++ m.exponentText ++ rest) := by
      rw [Numeral.text, hwhole]
      rfl
    show _ = (number false (m.text ++ rest)).toOption
    rw [htext, valueWith_digits count inner hc]

theorem steadyText_minus {m : Numeral} : SteadyText ('-' :: m.text) := by
  obtain ⟨r, hr⟩ := steady_number true m
  refine ⟨r, fun count inner rest hrest => ?_⟩
  rw [← hr rest hrest, List.cons_append, valueWith_minus]

theorem steadyText_signed (s : Float.Model.UnpackedFloat.Sign) {m : Numeral} (h : m.whole ≠ []) :
    SteadyText (Layout.sign s ++ m.text) := by
  cases s with
  | positive => exact steadyText_numeral h
  | negative => exact steadyText_minus

theorem steadyText_float {x : Float} (hx : x.isFinite = true) :
    SteadyText (Layout.interchange.text x).toList := by
  obtain ⟨s, m, htext, hspells, -⟩ := Layout.exists_signed (show Layout.interchange.Near by decide) hx
  rw [htext, String.toList_ofList]
  exact steadyText_signed s hspells.whole

/-- The text of a floating-point number is read in any place as it is read on its own. -/
theorem valueWith_float (count : Nat) (inner : Option (Reader Json)) {x : Float}
    (hx : x.isFinite = true) {rest : Text} (hrest : Ended rest) :
    (valueWith count inner ((Layout.interchange.text x).toList ++ rest)).toOption =
      (Json.read (Layout.interchange.text x)).toOption.map (·, rest) := by
  obtain ⟨r, hr⟩ := steadyText_float hx
  have halone : (value (Layout.interchange.text x).toList.length maxDepth
      (Layout.interchange.text x).toList).toOption = r.map (·, []) := by
    -- on its own it is read with nothing behind
    have hend := hr (Layout.interchange.text x).toList.length
      (some (value (Layout.interchange.text x).toList.length 126)) [] Ended.nil
    rw [List.append_nil] at hend
    exact hend
  have hread : (Json.read (Layout.interchange.text x)).toOption = r := by
    unfold Json.read
    simp only
    cases hvalue : value (Layout.interchange.text x).toList.length maxDepth
        (Layout.interchange.text x).toList with
    | error stop =>
      rw [hvalue] at halone
      cases r with
      | none => rfl
      | some j => cases halone
    | ok result =>
      obtain ⟨j, after⟩ := result
      rw [hvalue] at halone
      cases r with
      | none => cases halone
      | some j' =>
        cases halone
        rfl
  rw [hr count inner rest hrest, hread]

end LineScript.Json
