/-!
Exact operations on floating-point numbers.

A finite number is `± m * 2 ^ q`. Rounding to an integer and the remainder of a division are
computed on `m` and `q` as integers, so that they have a meaning for proofs and do not depend on
a mathematical library.
-/

namespace LineScript.Binary64

open Float.Model.UnpackedFloat (Sign)

/-- The number nearest to `± m * 2 ^ q`, ties to the even significand; a zero keeps its sign. -/
def ofBinary (sign : Sign) (m : Nat) (q : Int) : Float :=
  if m = 0 then .ofModel (.pack (.zero sign))
  else .ofModel (.pack (Float.Model.UnpackedFloat.round .binary64 sign m q))

def ofDecimal (m : Nat) (e : Int) : Float := Float.ofScientific m (e < 0) e.natAbs

def ofInt (n : Int) : Float := ofBinary (if n < 0 then .negative else .positive) n.natAbs 0

def truncate? (x : Float) : Option Int :=
  match x.toModel.unpack with
  | .zero _ => some 0
  | .finite sign m q _ =>
    let n : Nat := if 0 ≤ q then m <<< q.toNat else m >>> (-q).toNat
    some (match sign with
      | .positive => n
      | .negative => -n)
  | _ => none

/-- How a magnitude between two integers is brought to one of them: given the integer below, twice
the rest and the whole that the rest is a part of. -/
abbrev Rounding := (below rest whole : Nat) → Nat

/-- The integral number that `rounding` picks for `x`, with the sign of `x`. Infinities, zeros and
integral numbers stay. -/
def roundWith (rounding : Sign → Rounding) (x : Float) : Float :=
  match x.toModel.unpack with
  | .finite sign m q _ =>
    if 0 ≤ q then x
    else
      let whole := Nat.pow 2 (-q).toNat
      ofBinary sign (rounding sign (m / whole) (2 * (m % whole)) whole) 0
  | _ => x

def floor (x : Float) : Float :=
  roundWith (fun
    | .positive => fun below _ _ => below
    | .negative => fun below rest _ => if rest = 0 then below else below + 1) x

def ceil (x : Float) : Float :=
  roundWith (fun
    | .positive => fun below rest _ => if rest = 0 then below else below + 1
    | .negative => fun below _ _ => below) x

def roundTiesEven (x : Float) : Float :=
  roundWith (fun _ below rest whole =>
    match compare rest whole with
    | .lt => below
    | .eq => below + below % 2
    | .gt => below + 1) x

/-- The remainder of `x` divided by `y`, with the sign of `x`: exact, and undefined for infinite `x`
and for `y = 0`. -/
def remainder (x y : Float) : Float :=
  match x.toModel.unpack, y.toModel.unpack with
  | .finite sign m q _, .finite _ n r _ =>
    let unit := min q r
    ofBinary sign ((m <<< (q - unit).toNat) % (n <<< (r - unit).toNat)) unit
  | .zero _, .finite .. => x
  | .zero _, .infinity _ => x
  | .finite .., .infinity _ => x
  | _, _ => 0.0 / 0.0

def powFrom (acc base : Float) (n : Nat) : Float :=
  let acc := if n % 2 = 1 then acc * base else acc
  if h : n / 2 = 0 then acc
  else powFrom acc (base * base) (n / 2)
termination_by n
decreasing_by omega

/-- `10 ^ n` by repeated squaring; for negative `n` the reciprocal of the positive power. -/
def powerOfTen (n : Int) : Float :=
  let p := powFrom 1.0 10.0 n.natAbs
  if n < 0 then 1.0 / p else p

end LineScript.Binary64
