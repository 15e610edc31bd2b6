import LineScript.Text.Blank

/-!
Punycode: text written in ASCII letters, digits and hyphens.

The ASCII characters come first, and a hyphen after them if there are any. The others follow as
insertions, by code and place, and each insertion as one number: the steps from the last one, where
a step goes one place on, and after the last place to the first place of the next code. A number is
written with the lowest digit first; each digit has a threshold of its own, below which it ends
the number.
-/

namespace LineScript.Punycode

def base : Nat := 36

def digit (n : Nat) : Char := Char.ofNat (if n < 26 then 0x61 + n else 0x16 + n)

def value? (c : Char) : Option Nat :=
  if c.isDigit then some (c.toNat - 0x16)
  else if 'a' ≤ c && c ≤ 'z' then some (c.toNat - 0x61)
  else if 'A' ≤ c && c ≤ 'Z' then some (c.toNat - 0x41)
  else none

/-- The threshold of a digit. The place of the first digit is `base`, and each one after it is
`base` further on. -/
def threshold (bias place : Nat) : Nat := max 1 (min 26 (place - bias))

theorem one_le_threshold (bias place : Nat) : 1 ≤ threshold bias place := Nat.le_max_left ..

/-! ## Numbers -/

def number (bias place n : Nat) : Text :=
  let t := threshold bias place
  if n < t then [digit n]
  else digit (t + (n - t) % (base - t)) :: number bias (place + base) ((n - t) / (base - t))
termination_by n
decreasing_by
  have := one_le_threshold bias place
  exact Nat.lt_of_le_of_lt (Nat.div_le_self ..) (by omega)

def number? (bias place weight : Nat) : Text → Option (Nat × Text)
  | [] => none
  | c :: rest => do
    let n ← value? c
    let t := threshold bias place
    if n < t then return (n * weight, rest)
    let (more, rest) ← number? bias (place + base) (weight * (base - t)) rest
    return (n * weight + more, rest)

theorem length_number? {bias place weight n : Nat} {t rest : Text}
    (h : number? bias place weight t = some (n, rest)) : rest.length < t.length := by
  induction t generalizing place weight n rest with
  | nil => simp [number?] at h
  | cons c t ih =>
    simp only [number?, Option.bind_eq_bind, Option.bind_eq_some_iff] at h
    obtain ⟨d, _, h⟩ := h
    split at h
    · simp only [Option.pure_def, Option.some.injEq, Prod.mk.injEq] at h
      simp [← h.2]
    · obtain ⟨⟨more, left⟩, hmore, h⟩ := Option.bind_eq_some_iff.mp h
      simp only [Option.pure_def, Option.some.injEq, Prod.mk.injEq] at h
      have := ih hmore
      simp only [List.length_cons, ← h.2]
      omega

/-! ## Insertions -/

structure Insertion where
  code : Nat
  place : Nat
deriving DecidableEq

/-- How far the insertions have come: the code and the place of the next step, the characters so
far, and the bias of the next number. -/
structure Progress where
  code : Nat
  place : Nat
  length : Nat
  bias : Nat
  isFirst : Bool

def Progress.start (length : Nat) : Progress := ⟨0x80, 0, length, 72, true⟩

/-- The bias after a number of about so many steps, from a bias on: the longer the number, the more
places have the least threshold. -/
def biasFrom (bias steps : Nat) : Nat :=
  if 455 < steps then biasFrom (bias + base) (steps / 35)
  else bias + base * steps / (steps + 38)
termination_by steps
decreasing_by exact Nat.div_lt_self (by omega) (by decide)

def Progress.insert (p : Progress) (i : Insertion) (steps : Nat) : Progress :=
  let part := steps / (if p.isFirst then 700 else 2)
  ⟨i.code, i.place + 1, p.length + 1, biasFrom 0 (part + part / (p.length + 1)), false⟩

def Progress.steps (p : Progress) (i : Insertion) : Nat :=
  (i.code - p.code) * (p.length + 1) + i.place - p.place

def Progress.insertion (p : Progress) (steps : Nat) : Insertion :=
  ⟨p.code + (p.place + steps) / (p.length + 1), (p.place + steps) % (p.length + 1)⟩

def isAscii (c : Char) : Bool := c.toNat < 0x80

/-- The insertions for the rest of a text, in its order; `before` is what comes before. When a
character is inserted, those before it with a lower code or the same one are there. -/
def insertionsFrom (before : Text) : Text → List Insertion
  | [] => []
  | c :: rest =>
    let later := insertionsFrom (c :: before) rest
    if isAscii c then later else ⟨c.toNat, before.countP (·.toNat ≤ c.toNat)⟩ :: later

def insertions (t : Text) : List Insertion :=
  (insertionsFrom [] t).mergeSort fun i j => i.code ≤ j.code

def numbers (p : Progress) : List Insertion → Text
  | [] => []
  | i :: rest => number p.bias base (p.steps i) ++ numbers (p.insert i (p.steps i)) rest

def encode (t : Text) : Text :=
  let ascii := t.filter isAscii
  let start := if ascii.isEmpty then [] else ascii ++ ['-']
  start ++ numbers (.start ascii.length) (insertions t)

def insertAll (p : Progress) (seen : Text) (t : Text) : Option Text :=
  if t.isEmpty then some seen
  else
    match h : number? p.bias base 1 t with
    | none => none
    | some (steps, rest) =>
      have := length_number? h
      let i := p.insertion steps
      if i.code.isValidChar then
        insertAll (p.insert i steps) (seen.insertIdx i.place (Char.ofNat i.code)) rest
      else none
termination_by t.length
decreasing_by assumption

def decode? (t : Text) : Option Text :=
  let last := (t.reverse.takeWhile (· != '-')).reverse
  let ascii := t.take (t.length - last.length - 1)
  if ascii.all isAscii then
    insertAll (.start ascii.length) ascii (if ascii.isEmpty then t else last)
  else none

example : encode "b\u00fccher".toList = "bcher-kva".toList := by decide +kernel

example : decode? "bcher-kva".toList = some "b\u00fccher".toList := by decide +kernel

end LineScript.Punycode
