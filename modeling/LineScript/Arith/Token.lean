import LineScript.Comparison
import LineScript.Number.Reader

/-!
Tokens of arithmetic: the words, numbers, strings and signs that an expression is made of.
-/

namespace LineScript.Arith

inductive Sign where
  | power
  | floorDivide
  | compare (op : Comparison)
  | plus
  | minus
  | times
  | divide
  | percent
deriving DecidableEq

def Sign.symbol : Sign → String
  | power => "**"
  | floorDivide => "//"
  | compare op => op.symbol
  | plus => "+"
  | minus => "-"
  | times => "*"
  | divide => "/"
  | percent => "%"

inductive Token where
  | integer (n : Int64)
  | float (x : Float)
  | string (s : String)
  | word (name : String)
  | sign (s : Sign)
  | leftParen
  | rightParen
  | comma
  | dot
deriving DecidableEq

/-- The operator that a text starts with, the longer where two do, and the text after it. -/
def Sign.take? : Text → Option (Sign × Text)
  | '*' :: '*' :: rest => some (power, rest)
  | '/' :: '/' :: rest => some (floorDivide, rest)
  | '+' :: rest => some (plus, rest)
  | '-' :: rest => some (minus, rest)
  | '*' :: rest => some (times, rest)
  | '/' :: rest => some (divide, rest)
  | '%' :: rest => some (percent, rest)
  | t => (Comparison.take? t).map fun (op, rest) => (compare op, rest)

abbrev Cut := Text × Text

def cutFraction : Text → Cut
  | '.' :: rest => ('.' :: rest.takeWhile Char.isDigit, rest.dropWhile Char.isDigit)
  | t => ([], t)

def cutSign : Text → Cut
  | '+' :: rest => (['+'], rest)
  | '-' :: rest => (['-'], rest)
  | t => ([], t)

def cutExponent (t : Text) : Cut :=
  match t with
  | c :: rest =>
    let (sign, digits) := cutSign rest
    if (c == 'e' || c == 'E') && digits.head?.any Char.isDigit then
      (c :: sign ++ digits.takeWhile Char.isDigit, digits.dropWhile Char.isDigit)
    else ([], t)
  | [] => ([], t)

def number? (t : Text) : Option (Token × Text) :=
  let whole := t.takeWhile Char.isDigit
  let (fraction, afterFraction) := cutFraction (t.dropWhile Char.isDigit)
  let (exponent, rest) := cutExponent afterFraction
  if fraction.isEmpty && exponent.isEmpty then
    (Integer.read? whole).map fun n => (.integer n, rest)
  else (Decimal.read? (whole ++ fraction ++ exponent)).map fun x => (.float x, rest)

def string? (quote : Char) (t : Text) : Option (Token × Text) :=
  (Text.splitFirst quote t).map fun (body, rest) => (.string (String.ofList body), rest)

def startsNumber : Text → Bool
  | '.' :: rest => rest.head?.any Char.isDigit
  | c :: _ => c.isDigit
  | [] => false

/-- The token that a text without leading blanks starts with, and the text after it. -/
def Token.first? (t : Text) : Option (Token × Text) :=
  if startsNumber t then number? t
  else
    match t with
    | '"' :: rest => string? '"' rest
    | '\x27' :: rest => string? '\x27' rest
    | '(' :: rest => some (leftParen, rest)
    | ')' :: rest => some (rightParen, rest)
    | ',' :: rest => some (comma, rest)
    | '.' :: rest => some (dot, rest)
    | c :: rest =>
      if Text.isAlphabetic c || c == '_' then
        some (word (String.ofList (c :: rest.takeWhile Text.isWordChar)),
          rest.dropWhile Text.isWordChar)
      else (Sign.take? t).map fun (s, rest) => (sign s, rest)
    | [] => none

/-! ## A token takes up text -/

theorem cutFraction_append (t : Text) : (cutFraction t).1 ++ (cutFraction t).2 = t := by
  unfold cutFraction
  split
  · simp [List.takeWhile_append_dropWhile]
  · rfl

theorem cutSign_append (t : Text) : (cutSign t).1 ++ (cutSign t).2 = t := by
  unfold cutSign
  split <;> rfl

theorem cutExponent_append (t : Text) : (cutExponent t).1 ++ (cutExponent t).2 = t := by
  unfold cutExponent
  split
  · next c rest =>
    simp only
    split
    · simp [List.takeWhile_append_dropWhile, cutSign_append]
    · rfl
  · rfl

theorem length_dropWhile_le (p : Char → Bool) (t : Text) : (t.dropWhile p).length ≤ t.length :=
  (List.dropWhile_sublist p).length_le

theorem rest_of_number? {t rest : Text} {token : Token} (h : number? t = some (token, rest)) :
    rest = (cutExponent (cutFraction (t.dropWhile Char.isDigit)).2).2 := by
  unfold number? at h
  simp only at h
  split at h
  all_goals
    obtain ⟨_, _, he⟩ := Option.map_eq_some_iff.mp h
    simp only [Prod.mk.injEq] at he
    exact he.2.symm

theorem length_number? {t rest : Text} {token : Token} (start : startsNumber t = true)
    (h : number? t = some (token, rest)) : rest.length < t.length := by
  have left := congrArg List.length (cutFraction_append (t.dropWhile Char.isDigit))
  have right := congrArg List.length (cutExponent_append (cutFraction (t.dropWhile Char.isDigit)).2)
  rw [List.length_append] at left right
  rw [rest_of_number? h]
  unfold startsNumber at start
  split at start
  · next r =>
    have fraction : (cutFraction (('.' :: r).dropWhile Char.isDigit)).2.length < ('.' :: r).length := by
      have := length_dropWhile_le Char.isDigit r
      simp only [List.dropWhile_cons, show Char.isDigit '.' = false from rfl, Bool.false_eq_true,
        if_false, cutFraction, List.length_cons]
      omega
    omega
  · next c r _ =>
    have whole : ((c :: r).dropWhile Char.isDigit).length < (c :: r).length := by
      have := length_dropWhile_le Char.isDigit r
      simp only [List.dropWhile_cons, start, if_true, List.length_cons]
      omega
    omega
  · cases start

theorem length_splitFirst {c : Char} {t before after : Text}
    (h : Text.splitFirst c t = some (before, after)) : after.length < t.length := by
  induction t generalizing before with
  | nil => simp [Text.splitFirst] at h
  | cons d ds ih =>
    rw [Text.splitFirst] at h
    split at h
    · simp only [Option.some.injEq, Prod.mk.injEq] at h
      rw [← h.2]
      simp
    · obtain ⟨⟨x, y⟩, hxy, he⟩ := Option.map_eq_some_iff.mp h
      simp only [Prod.mk.injEq] at he
      have := ih (he.2 ▸ hxy)
      simp only [List.length_cons]
      omega

theorem length_string? {quote : Char} {t rest : Text} {token : Token}
    (h : string? quote t = some (token, rest)) : rest.length < t.length := by
  obtain ⟨⟨body, after⟩, hcut, he⟩ := Option.map_eq_some_iff.mp h
  simp only [Prod.mk.injEq] at he
  exact length_splitFirst (he.2 ▸ hcut)

theorem length_comparison_take? {t rest : Text} {op : Comparison}
    (h : Comparison.take? t = some (op, rest)) : rest.length < t.length := by
  unfold Comparison.take? at h
  split at h <;> simp only [Option.some.injEq, Prod.mk.injEq, reduceCtorEq] at h <;>
    rw [← h.2] <;> simp only [List.length_cons] <;> omega

theorem length_sign_take? {t rest : Text} {s : Sign} (h : Sign.take? t = some (s, rest)) :
    rest.length < t.length := by
  unfold Sign.take? at h
  split at h
  case h_8 =>
    obtain ⟨⟨op, after⟩, hcut, he⟩ := Option.map_eq_some_iff.mp h
    simp only [Prod.mk.injEq] at he
    exact length_comparison_take? (he.2 ▸ hcut)
  all_goals
    simp only [Option.some.injEq, Prod.mk.injEq] at h
    rw [← h.2]
    simp only [List.length_cons]
    omega

theorem length_first? {t rest : Text} {token : Token} (h : Token.first? t = some (token, rest)) :
    rest.length < t.length := by
  unfold Token.first? at h
  split at h
  · next start => exact length_number? start h
  · split at h
    case h_1 | h_2 =>
      have := length_string? h
      simp only [List.length_cons]
      omega
    case h_3 | h_4 | h_5 | h_6 =>
      simp only [Option.some.injEq, Prod.mk.injEq] at h
      rw [← h.2]
      simp
    case h_7 =>
      split at h
      · simp only [Option.some.injEq, Prod.mk.injEq] at h
        rw [← h.2, List.length_cons]
        exact Nat.lt_succ_of_le (length_dropWhile_le _ _)
      · obtain ⟨⟨s, after⟩, hcut, he⟩ := Option.map_eq_some_iff.mp h
        simp only [Prod.mk.injEq] at he
        exact length_sign_take? (he.2 ▸ hcut)
    case h_8 => cases h

end LineScript.Arith
