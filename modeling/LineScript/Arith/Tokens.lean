import LineScript.Arith.Fault

/-!
The tokens of arithmetic text, or why something in it is no token.
-/

namespace LineScript.Arith

def numberRefusal (t : Text) : Fault :=
  let whole := t.takeWhile Char.isDigit
  let (fraction, afterFraction) := cutFraction (t.dropWhile Char.isDigit)
  let (exponent, _) := cutExponent afterFraction
  let literal := String.ofList (whole ++ fraction ++ exponent)
  if fraction.isEmpty && exponent.isEmpty then .outOfRange literal else .badNumber literal

/-- Why no token can be read at `t`, a place in `text` where something stands. -/
def refusal (text t : Text) : Fault :=
  if startsNumber t then numberRefusal t
  else
    match t with
    | '"' :: _ | '\x27' :: _ | [] => .unclosed (String.ofList text)
    | c :: _ => .stray c

def tokensFrom (text : Text) : (t : Text) → Result (List Token)
  | [] => .ok []
  | c :: rest =>
    if Text.isBlank c then tokensFrom text rest
    else
      match h : Token.first? (c :: rest) with
      | none => .error (refusal text (c :: rest))
      | some (token, after) =>
        have := length_first? h
        (tokensFrom text after).map (token :: ·)
termination_by t => t.length
decreasing_by all_goals (simp only [List.length_cons] at *; omega)

def Token.ofText (t : Text) : Result (List Token) := tokensFrom t t

def Token.ofText? (t : Text) : Option (List Token) := (ofText t).toOption

end LineScript.Arith
