/-!
Shortest decimals: the fewest digits that read back as the same floating-point number.

The numbers that round to `m * 2 ^ q` form an interval, its ends included exactly when `m` is even.
On each decimal grid `10 ^ k`, from the coarsest that can matter downwards, the two grid points next
to the number are tested against that interval; the first grid with a point inside gives the digits.
All comparisons are between naturals.
-/

namespace LineScript.Shortest

inductive Tie where
  | toEven
  | up
deriving DecidableEq

structure Decimal where
  digits : Nat
  exponent : Int
deriving DecidableEq

def leastExponent : Int := -1074

/-- Whether the gap below `m * 2 ^ q` is half the gap above: so at the powers of two. -/
def narrowBelow (m : Nat) (q : Int) : Bool := m == 0x10000000000000 && leastExponent < q

/-- Whether `n * unit` lies in the closed interval, or in the open one if the ends are not
included. -/
def inside (closed : Bool) (low high unit n : Nat) : Bool :=
  if closed then low ≤ n * unit && n * unit ≤ high else low < n * unit && n * unit < high

/-- The point of the grid `10 ^ k` that reads back as `m * 2 ^ q`, if one of the two next to it does;
of two the nearer. -/
def onGrid (tie : Tie) (m : Nat) (q k : Int) : Option Nat :=
  -- quarters of the last place of `m`, and the grid's step, in a common unit
  let quarter := Nat.pow 2 (q - 2).toNat * Nat.pow 10 (-k).toNat
  let unit := Nat.pow 10 k.toNat * Nat.pow 2 (2 - q).toNat
  let value := 4 * m * quarter
  let low := (if narrowBelow m q then 4 * m - 1 else 4 * m - 2) * quarter
  let high := (4 * m + 2) * quarter
  let closed := m % 2 == 0
  let n := value / unit
  match inside closed low high unit n, inside closed low high unit (n + 1) with
  | true, false => some n
  | false, true => some (n + 1)
  | false, false => none
  | true, true =>
    match compare (2 * (value % unit)) unit, tie with
    | .lt, _ => some n
    | .gt, _ => some (n + 1)
    | .eq, .up => some (n + 1)
    | .eq, .toEven => some (n + n % 2)

def topExponent (m : Nat) (q : Int) : Int := ((m.log2 : Int) + 1 + q) * 30103 / 100000 + 1

def search (tie : Tie) (m : Nat) (q : Int) : (steps : Nat) → (k : Int) → Option Decimal
  | 0, _ => none
  | steps + 1, k =>
    match onGrid tie m q k with
    | some n => some ⟨n, k⟩
    | none => search tie m q steps (k - 1)

/-- The shortest decimal that reads back as `m * 2 ^ q`, the nearest one of that length. Seventeen
digits always suffice, and the search starts at most two grids too high. -/
def ofBinary (tie : Tie) (m : Nat) (q : Int) : Decimal :=
  (search tie m q 20 (topExponent m q)).getD ⟨0, 0⟩

end LineScript.Shortest
