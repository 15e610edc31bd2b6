import LineScript.Proofs.Json.Order
import Mathlib

/-!
# The items of arrays

An array stands for an object with one entry for each item, under the decimal text of its position, and no
others (`exists_itemsOf`). So a path of positions and keys leads to the same place in JSON data and in its
value (`Json.At.follow`).
-/

namespace LineScript

namespace Entries

variable {α : Type} {es : List (String × α)}

theorem get?_ofList_iff (hkeys : es.Pairwise fun a b => a.1 ≠ b.1) {key : String} {v : α} :
    (ofList es).get? key = some v ↔ (key, v) ∈ es := by
  rw [(ordered_ofList es).get?_eq_some_iff, mem_ofList_iff hkeys]

theorem length_ofList (hkeys : es.Pairwise fun a b => a.1 ≠ b.1) : (ofList es).length = es.length := by
  rw [ofList, Std.TreeMap.length_toList, Std.TreeMap.size_ofList (apart_of_keys hkeys)]

end Entries

theorem natText_inj {m n : Nat} : toString m = toString n ↔ m = n := Nat.repr_inj

namespace Value

theorem ofItems_eq (start : Nat) (items : List Json) :
    ofItems start items = items.mapIdx fun i j => (toString (start + i), ofJson j) := by
  induction items generalizing start with
  | nil => rfl
  | cons j items ih =>
    rw [ofItems, ih, List.mapIdx_cons]
    simp only [Nat.add_zero, Nat.add_assoc, Nat.add_comm 1]

theorem ofJson_array (items : List Json) :
    ofJson (.array items) =
      object (Entries.ofList (items.mapIdx fun i j => (toString i, ofJson j))) := by
  rw [ofJson, ofItems_eq]
  simp only [Nat.zero_add]

theorem keys_differ (items : List Json) :
    (items.mapIdx fun i j => (toString i, ofJson j)).Pairwise fun a b => a.1 ≠ b.1 := by
  refine List.pairwise_iff_getElem.mpr fun i k hi hk hlt => ?_
  rw [List.getElem_mapIdx, List.getElem_mapIdx]
  exact fun heq => Nat.ne_of_lt hlt (natText_inj.mp heq)

/-- An object's fields are the values of items, each under the decimal text of its position. -/
structure ItemsOf (items : List Json) (fields : Entries Value) : Prop where
  ordered : fields.Ordered
  length : fields.length = items.length
  get?_iff : ∀ key v, fields.get? key = some v ↔
    ∃ i, ∃ h : i < items.length, key = toString i ∧ v = ofJson items[i]

theorem exists_itemsOf (items : List Json) :
    ∃ fields, ofJson (.array items) = object fields ∧ ItemsOf items fields := by
  refine ⟨_, ofJson_array items, Entries.ordered_ofList _, ?_, fun key v => ?_⟩
  · rw [Entries.length_ofList (keys_differ items), List.length_mapIdx]
  · rw [Entries.get?_ofList_iff (keys_differ items), List.mem_mapIdx]
    simp only [Prod.mk.injEq]
    exact exists_congr fun i => exists_congr fun _ => and_congr eq_comm eq_comm

end Value

/-! ## Paths -/

/-- What JSON data holds at the end of a path of positions of arrays and keys of objects. -/
inductive Json.At : List String → Json → Json → Prop
  | here (j : Json) : At [] j j
  | item {items : List Json} {i : Nat} (h : i < items.length) {path : List String} {k : Json}
      (hpath : At path items[i] k) : At (toString i :: path) (.array items) k
  | member {members : Entries Json} {key : String} {j : Json} (h : members.get? key = some j)
      {path : List String} {k : Json} (hpath : At path j k) : At (key :: path) (.object members) k

/-- The value of data holds at the end of a path the value of what the data holds there. -/
theorem Json.At.follow {path : List String} {j k : Json} (h : Json.At path j k) :
    (Value.ofJson j).follow path = Value.ofJson k := by
  induction h with
  | here j => rfl
  | @item items i hi path k _ ih =>
    obtain ⟨fields, hfields, hitems⟩ := Value.exists_itemsOf items
    have hfield : (Value.ofJson (.array items)).field (toString i) = Value.ofJson items[i] := by
      rw [hfields, Value.field, (hitems.get?_iff _ _).mpr ⟨i, hi, rfl, rfl⟩, Option.getD_some]
    rw [Value.follow, List.foldl_cons, hfield]
    exact ih
  | @member members key j hget path k _ ih =>
    have hfield : (Value.ofJson (.object members)).field key = Value.ofJson j := by
      rw [Value.ofJson, Value.field, Value.get?_ofMembers, hget, Option.map_some, Option.getD_some]
    rw [Value.follow, List.foldl_cons, hfield]
    exact ih

end LineScript
