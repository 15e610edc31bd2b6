import LineScript.Number.Shortest

/-!
Number text: how the shortest digits of a floating-point number are laid out.

A layout is a record of the decisions that a format makes; `display` is the one for values that a
program shows, `interchange` the one for data that it stores.
-/

namespace LineScript

structure Layout where
  /-- The least exponent of the leading digit that is written positionally. -/
  plainFrom : Int
  plainBelow : Int
  exponentPlus : Bool
  tie : Shortest.Tie

namespace Layout

/-- Values on display: positional from 0.0001 up to but not including 1e16. -/
def display : Layout := ⟨-4, 16, false, .up⟩

/-- Values in stored data: positional from 0.00001 up to but not including 1e16. -/
def interchange : Layout := ⟨-5, 16, true, .toEven⟩

def significant (n : Nat) : List Char :=
  ((toString n).toList.reverse.dropWhile (· == '0')).reverse

/-- Digits with a point after the first `whole` of them, and a zero where a side would be empty. -/
def positional (digits : List Char) (lead : Int) : List Char :=
  if lead < 0 then '0' :: '.' :: List.replicate (-lead - 1).toNat '0' ++ digits
  else
    let whole := lead.toNat + 1
    let fraction := digits.drop whole
    digits.take whole ++ List.replicate (whole - digits.length) '0' ++
      '.' :: (if fraction.isEmpty then ['0'] else fraction)

def scientific (layout : Layout) (digits : List Char) (lead : Int) : List Char :=
  let fraction := digits.drop 1
  digits.take 1 ++ (if fraction.isEmpty then [] else '.' :: fraction) ++
    'e' :: (if layout.exponentPlus && 0 ≤ lead then ['+'] else []) ++ (toString lead).toList

def decimal (layout : Layout) (d : Shortest.Decimal) : List Char :=
  let digits := significant d.digits
  let lead := d.exponent + ((toString d.digits).length : Int) - 1
  if layout.plainFrom ≤ lead ∧ lead < layout.plainBelow then positional digits lead
  else layout.scientific digits lead

def sign : Float.Model.UnpackedFloat.Sign → List Char
  | .positive => []
  | .negative => ['-']

def text (layout : Layout) (x : Float) : String :=
  match x.toModel.unpack with
  | .notANumber => "NaN"
  | .infinity s => String.ofList (sign s ++ "inf".toList)
  | .zero s => String.ofList (sign s ++ "0.0".toList)
  | .finite s m q _ => String.ofList (sign s ++ layout.decimal (Shortest.ofBinary layout.tie m q))

example : display.text 0.1 = "0.1" := by decide +kernel
example : display.text (0.1 + 0.2) = "0.30000000000000004" := by decide +kernel
example : display.text 1e16 = "1e16" ∧ interchange.text 1e16 = "1e+16" := by decide +kernel
example : display.text 1e-5 = "1e-5" ∧ interchange.text 1e-5 = "0.00001" := by decide +kernel

end Layout

end LineScript
