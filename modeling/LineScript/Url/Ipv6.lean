import LineScript.Number.Hexadecimal
import LineScript.Number.Integer
import LineScript.Text.Words

/-!
Addresses of eight groups of sixteen bits.

Groups are hexadecimal with colons between them. Two colons stand, once, for as many zeros as are
missing, one at least; the last two groups may be four decimal numbers with points between them. An
address is written with two colons for the first of its longest runs of zeros, if there are two in
a row.
-/

namespace LineScript

structure Ipv6 where
  groups : List Nat
  length_groups : groups.length = 8
deriving DecidableEq

namespace Ipv6

def group? (t : Text) : Option Nat := if t.length ≤ 4 then Hexadecimal.natural? t else none

def byte? (t : Text) : Option Nat := do
  let n ← Integer.natural? t
  if n < 256 ∧ (t.head? ≠ some '0' ∨ t = ['0']) then some n else none

def decimalGroups? (t : Text) : Option (List Nat) := do
  match ← (Text.pieces (· == '.') t).mapM byte? with
  | [a, b, c, d] => some [256 * a + b, 256 * c + d]
  | _ => none

def lastGroups? : List Text → Option (List Nat)
  | [] => some []
  | [t] => if t.contains '.' then decimalGroups? t else (group? t).map ([·])
  | t :: u :: rest => do return (← group? t) :: (← lastGroups? (u :: rest))

def pieces (t : Text) : List Text := if t.isEmpty then [] else Text.pieces (· == ':') t

def splitGap : Text → Option (Text × Text)
  | [] => none
  | ':' :: ':' :: rest => some ([], rest)
  | c :: rest => (splitGap rest).map fun (before, after) => (c :: before, after)

/-- The groups that a text lists, with zeros for those that are missing. -/
def groups? (t : Text) : Option (List Nat) := do
  match splitGap t with
  | none => lastGroups? (pieces t)
  | some (before, after) =>
    let first ← (pieces before).mapM group?
    let last ← lastGroups? (pieces after)
    let missing := 8 - (first.length + last.length)
    if missing = 0 then none else return first ++ List.replicate missing 0 ++ last

def read? (t : Text) : Option Ipv6 := do
  let groups ← groups? t
  if h : groups.length = 8 then some ⟨groups, h⟩ else none

def zeros (groups : List Nat) : Nat := (groups.takeWhile (· == 0)).length

def longestRun : List Nat → Nat
  | [] => 0
  | g :: rest => max (zeros (g :: rest)) (longestRun rest)

def splitRun (length : Nat) : List Nat → List Nat × List Nat
  | [] => ([], [])
  | g :: rest =>
    if zeros (g :: rest) = length then ([], (g :: rest).drop length)
    else
      let (before, after) := splitRun length rest
      (g :: before, after)

def join (groups : List Nat) : Text := List.intercalate [':'] (groups.map (Nat.toDigits 16))

def text (a : Ipv6) : Text :=
  let run := longestRun a.groups
  if run < 2 then join a.groups
  else
    let (before, after) := splitRun run a.groups
    join before ++ ':' :: ':' :: join after

example : (read? "::FFFF:1.2.3.4".toList).map text = some "::ffff:102:304".toList := by
  decide +kernel

example : (read? "1:0:0:2:0:0:0:3".toList).map text = some "1:0:0:2::3".toList := by
  decide +kernel

end Ipv6

end LineScript
