/-!
Random draws: a stream of 64-bit words of which a program takes one after the other.

What a computation has taken is gone, whether the computation succeeds or fails.
-/

namespace LineScript

structure Draws where
  word : Nat → UInt64
  taken : Nat

namespace Draws

def next (d : Draws) : UInt64 × Draws := (d.word d.taken, { d with taken := d.taken + 1 })

def unit (d : Draws) : Float × Draws :=
  let (w, d) := d.next
  ((w >>> 11).toFloat / 9007199254740992.0, d)

/-- An integer from `low` up to and including `high`; `low` if there is none. -/
def between (low high : Int) (d : Draws) : Int × Draws :=
  let (w, d) := d.next
  (low + (w.toNat : Int) % max 1 (high - low + 1), d)

def mix (w : UInt64) : UInt64 :=
  let w := (w ^^^ (w >>> 30)) * 0xBF58476D1CE4E5B9
  let w := (w ^^^ (w >>> 27)) * 0x94D049BB133111EB
  w ^^^ (w >>> 31)

def ofSeed (seed : UInt64) : Draws :=
  ⟨fun i => mix (seed + (UInt64.ofNat i + 1) * 0x9E3779B97F4A7C15), 0⟩

end Draws

/-- A computation that may take random draws. It has a value or fails, and leaves the draws to come either
way. -/
abbrev Drawn (ε α : Type) := StateT Draws (Except (ε × Draws)) α

namespace Drawn

variable {ε α : Type}

def fail (e : ε) : Drawn ε α := fun draws => .error (e, draws)

def ofExcept : Except ε α → Drawn ε α
  | .ok a => pure a
  | .error e => fail e

/-- A result takes no draw. -/
instance : MonadLift (Except ε) (Drawn ε) := ⟨ofExcept⟩

end Drawn

end LineScript
