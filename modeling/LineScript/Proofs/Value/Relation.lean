import LineScript.Comparison
import LineScript.Proofs.Number.Nearest

/-!
# How two values stand to each other

Exchanging two values turns their relation around and does nothing else to it (`Value.relate_swap`): numbers
are compared by one function whichever comes first, and equality part by part is symmetric
(`Value.same_comm`). Which relations can come up is settled by the kinds (`Value.relate_eq_unrelated_iff`)
and by whether one of two numbers is not a number (`Value.relate_eq_unordered_iff`).
-/

namespace LineScript

open Float.Model (UnpackedFloat)

/-! ## Floating-point numbers -/

namespace Binary64

theorem unpacked_swap (u v : UnpackedFloat) : v.compare u = (u.compare v).map Ordering.swap := by
  have hmagnitude : ∀ (m n : Nat) (q r : Int),
      (compare r q).then (compare n m) = ((compare q r).then (compare m n)).swap := by
    intro m n q r
    rw [Ordering.swap_then, ← Std.OrientedOrd.eq_swap, ← Std.OrientedOrd.eq_swap]
  -- by the forms of both; only two finite numbers of one sign compare by magnitude
  cases u with
  | notANumber => cases v <;> rfl
  | infinity s =>
    cases v with
    | notANumber => cases s <;> rfl
    | infinity t => cases s <;> cases t <;> rfl
    | zero t => cases s <;> rfl
    | finite t n r hn => cases s <;> cases t <;> rfl
  | zero s =>
    cases v with
    | notANumber => rfl
    | infinity t => cases t <;> rfl
    | zero t => rfl
    | finite t n r hn => cases t <;> rfl
  | finite s m q hm =>
    cases v with
    | notANumber => cases s <;> rfl
    | infinity t => cases s <;> cases t <;> rfl
    | zero t => cases s <;> rfl
    | finite t n r hn =>
      cases s with
      | positive =>
        cases t with
        | positive => exact congrArg some (hmagnitude m n q r)
        | negative => rfl
      | negative =>
        cases t with
        | positive => rfl
        | negative => exact congrArg some (congrArg Ordering.swap (hmagnitude m n q r))

theorem unpacked_eq_none_iff (u v : UnpackedFloat) :
    u.compare v = none ↔ u.isNaN = true ∨ v.isNaN = true := by
  cases u with
  | notANumber => cases v <;> exact iff_of_true rfl (.inl rfl)
  | infinity s => cases s <;> cases v <;> simp [UnpackedFloat.compare, UnpackedFloat.isNaN]
  | zero s =>
    cases v with
    | infinity t => cases t <;> simp [UnpackedFloat.compare, UnpackedFloat.isNaN]
    | notANumber => exact iff_of_true rfl (.inr rfl)
    | zero t => simp [UnpackedFloat.compare, UnpackedFloat.isNaN]
    | finite t n r hn => cases t <;> simp [UnpackedFloat.compare, UnpackedFloat.isNaN]
  | finite s m q hm =>
    cases v with
    | infinity t => cases s <;> cases t <;> simp [UnpackedFloat.compare, UnpackedFloat.isNaN]
    | notANumber => cases s <;> exact iff_of_true rfl (.inr rfl)
    | zero t => cases s <;> simp [UnpackedFloat.compare, UnpackedFloat.isNaN]
    | finite t n r hn => cases s <;> cases t <;> simp [UnpackedFloat.compare, UnpackedFloat.isNaN]

theorem compare_swap_iff (x y : Float) (o : Ordering) :
    y.toModel.compare x.toModel = some o ↔ x.toModel.compare y.toModel = some o.swap := by
  rw [Float.Model.compare, unpacked_swap x.toModel.unpack, Float.Model.compare]
  cases x.toModel.unpack.compare y.toModel.unpack with
  | none => simp only [Option.map_none, reduceCtorEq]
  | some p => rw [Option.map_some, Option.some.injEq, Option.some.injEq, Ordering.swap_eq_iff_eq_swap]

theorem compare_eq_none_iff (x y : Float) :
    x.toModel.compare y.toModel = none ↔ x.isNaN = true ∨ y.isNaN = true :=
  unpacked_eq_none_iff x.toModel.unpack y.toModel.unpack

theorem isNaN_of_isFinite {x : Float} (hx : x.isFinite) : x.isNaN = false := by
  change x.toModel.unpack.isFinite = true at hx
  show x.toModel.unpack.isNaN = false
  cases hunpack : x.toModel.unpack with
  | notANumber => rw [hunpack] at hx; cases hx
  | _ => rfl

theorem lt_iff (x y : Float) : x < y ↔ x.toModel.compare y.toModel = some .lt := by
  have hlt : x < y ↔ (x.toModel.compare y.toModel == some .lt) = true := decide_eq_true_iff
  rw [hlt, beq_iff_eq]

theorem beq_iff (x y : Float) : (x == y) = true ↔ x.toModel.compare y.toModel = some .eq := by
  have hbeq : (x == y) = (x.toModel.compare y.toModel == some .eq) := rfl
  rw [hbeq, beq_iff_eq]

theorem beq_comm (x y : Float) : (x == y) = (y == x) := by
  rw [Bool.eq_iff_iff, beq_iff, beq_iff, compare_swap_iff]
  rfl

end Binary64

def Relation.ofOrder? : Option Ordering → Relation
  | some o => .ordered o
  | none => .unordered

def Relation.swap : Relation → Relation
  | ordered o => ordered o.swap
  | unordered => unordered
  | unrelated => unrelated

namespace Value

variable {a b : Value} {x y : Float}

theorem relateFloats_eq (x y : Float) : relateFloats x y = .ofOrder? (x.toModel.compare y.toModel) := by
  have hgreater : y < x ↔ x.toModel.compare y.toModel = some .gt := by
    rw [Binary64.lt_iff, Binary64.compare_swap_iff]
    rfl
  unfold relateFloats
  simp only [Binary64.lt_iff x y, Binary64.beq_iff, hgreater]
  cases x.toModel.compare y.toModel with
  | none => simp [Relation.ofOrder?]
  | some o => cases o <;> simp [Relation.ofOrder?]

theorem relateFloats_swap (x y : Float) : relateFloats y x = (relateFloats x y).swap := by
  rw [relateFloats_eq, relateFloats_eq]
  cases h : x.toModel.compare y.toModel with
  | none =>
    rw [(Binary64.compare_eq_none_iff y x).mpr ((Binary64.compare_eq_none_iff x y).mp h).symm]
    rfl
  | some o =>
    rw [(Binary64.compare_swap_iff x y o.swap).mpr (by rw [h, Ordering.swap_swap])]
    rfl

theorem relateFloats_ne_unrelated (x y : Float) : relateFloats x y ≠ .unrelated := by
  rw [relateFloats_eq]
  cases x.toModel.compare y.toModel <;> exact nofun

theorem relateFloats_eq_unordered_iff (x y : Float) :
    relateFloats x y = .unordered ↔ x.isNaN = true ∨ y.isNaN = true := by
  rw [relateFloats_eq, ← Binary64.compare_eq_none_iff]
  cases x.toModel.compare y.toModel <;> simp [Relation.ofOrder?]

/-! ## Values -/

mutual

theorem same_comm : ∀ a b : Value, a.same b = b.same a
  | null, b => by cases b <;> rfl
  | boolean p, b => by
    cases b with
    | boolean q => exact BEq.comm
    | _ => rfl
  | integer m, b => by
    cases b with
    | integer n => exact BEq.comm
    | _ => rfl
  | float x, b => by
    cases b with
    | float y => exact Binary64.beq_comm x y
    | _ => rfl
  | string s, b => by
    cases b with
    | string t => exact BEq.comm
    | _ => rfl
  | object xs, b => by
    cases b with
    | object ys => exact sameFields_comm xs ys
    | _ => rfl
termination_by structural a => a

theorem sameFields_comm : ∀ xs ys : List (String × Value), sameFields xs ys = sameFields ys xs
  | [], [] => rfl
  | [], _ :: _ => rfl
  | _ :: _, [] => rfl
  | (k, v) :: rest, (k', v') :: rest' => by
    rw [sameFields, sameFields, same_comm v v', sameFields_comm rest rest', BEq.comm]
termination_by structural xs => xs

end

def isNumber : Value → Bool
  | integer _ | float _ => true
  | _ => false

def isNaN : Value → Bool
  | float x => x.isNaN
  | _ => false

/-- Whether there is an order between the kinds of two values: they are numbers, or both strings, both
booleans or both null. -/
def Comparable (a b : Value) : Prop :=
  (a.isNumber = true ∧ b.isNumber = true) ∨ (a.kind = b.kind ∧ a.kind ∈ [.string, .boolean, .null])

theorem relate_swap (a b : Value) : b.relate a = (a.relate b).swap := by
  cases a with
  | null => cases b <;> rfl
  | object xs => cases b <;> rfl
  | boolean p =>
    cases b with
    | boolean q => exact congrArg Relation.ordered Std.OrientedOrd.eq_swap
    | _ => rfl
  | integer m =>
    cases b with
    | integer n => exact congrArg Relation.ordered Std.OrientedOrd.eq_swap
    | float y => exact relateFloats_swap _ y
    | _ => rfl
  | float x =>
    cases b with
    | integer n => exact relateFloats_swap x _
    | float y => exact relateFloats_swap x y
    | _ => rfl
  | string s =>
    cases b with
    | string t =>
      have hswap : compare t s = (compare s t).swap := Std.OrientedOrd.eq_swap
      exact congrArg Relation.ordered hswap
    | _ => rfl

theorem relate_eq_unrelated_iff (a b : Value) : a.relate b = .unrelated ↔ ¬ Comparable a b := by
  cases a <;> cases b <;> simp [relate, Comparable, isNumber, kind, relateFloats_ne_unrelated]

theorem natAbs_toInt_le (n : Int64) : n.toInt.natAbs ≤ 2 ^ 63 := by
  have hlow := Int64.le_toInt n
  have hhigh := Int64.toInt_lt n
  omega

/-- Two values are out of order exactly if they are numbers and one of them is not a number. -/
theorem relate_eq_unordered_iff (a b : Value) :
    a.relate b = .unordered ↔ Comparable a b ∧ (a.isNaN = true ∨ b.isNaN = true) := by
  have hint : ∀ n : Int64, (Binary64.ofInt n.toInt).isNaN ≠ true := fun n => by
    rw [Binary64.isNaN_of_isFinite (Binary64.ofInt_spec (natAbs_toInt_le n)).1]
    exact nofun
  constructor
  · intro h
    have hcomparable : Comparable a b := by
      by_contra hne
      rw [(relate_eq_unrelated_iff a b).mpr hne] at h
      cases h
    refine ⟨hcomparable, ?_⟩
    -- only a pair with a floating-point number in it can be out of order, and an integer never is the reason
    cases a with
    | integer m =>
      cases b with
      | float y => exact .inr (((relateFloats_eq_unordered_iff _ y).mp h).resolve_left (hint m))
      | _ => cases h
    | float x =>
      cases b with
      | integer n => exact .inl (((relateFloats_eq_unordered_iff x _).mp h).resolve_right (hint n))
      | float y => exact (relateFloats_eq_unordered_iff x y).mp h
      | _ => cases h
    | _ => cases b <;> cases h
  · rintro ⟨hcomparable, hnan⟩
    cases a with
    | integer m =>
      cases b with
      | float y => exact (relateFloats_eq_unordered_iff _ y).mpr (.inr (hnan.resolve_left nofun))
      | _ => rcases hnan with h | h <;> cases h
    | float x =>
      cases b with
      | integer n => exact (relateFloats_eq_unordered_iff x _).mpr (.inl (hnan.resolve_right nofun))
      | float y => exact (relateFloats_eq_unordered_iff x y).mpr hnan
      | _ => rcases hcomparable with ⟨-, h⟩ | ⟨h, -⟩ <;> cases h
    | _ =>
      cases b with
      | float y => rcases hcomparable with ⟨h, -⟩ | ⟨h, -⟩ <;> cases h
      | _ => rcases hnan with h | h <;> cases h

theorem exists_order (h : Comparable a b) (ha : a.isNaN = false) (hb : b.isNaN = false) :
    ∃ o, a.relate b = .ordered o := by
  cases hrelate : a.relate b with
  | ordered o => exact ⟨o, rfl⟩
  | unordered =>
    rcases ((relate_eq_unordered_iff a b).mp hrelate).2 with hnan | hnan
    · rw [ha] at hnan
      cases hnan
    · rw [hb] at hnan
      cases hnan
  | unrelated => exact absurd h ((relate_eq_unrelated_iff a b).mp hrelate)

theorem same_eq_false_of_isNaN (h : a.isNaN = true) (b : Value) : a.same b = false := by
  cases a with
  | float x =>
    cases b with
    | float y =>
      rw [same, ← Bool.not_eq_true, Binary64.beq_iff, (Binary64.compare_eq_none_iff x y).mpr (.inl h)]
      exact nofun
    | _ => rfl
  | _ => cases h

end Value

end LineScript
