import LineScript.Value.Data

/-!
# Objects come in the order of their keys

Whatever text is read, the objects in the data have their members in the order of their keys
(`inOrder_of_read`), and so have the objects in the value that the data stands for.
-/

namespace LineScript

theorem Entries.mem_insert {α : Type} {key : String} {v : α} {es : Entries α} {e : String × α}
    (h : e ∈ es.insert key v) : e = (key, v) ∨ e ∈ es := by
  induction es with
  | nil => exact .inl (List.mem_singleton.mp h)
  | cons d rest ih =>
    obtain ⟨k, w⟩ := d
    rw [Entries.insert] at h
    split at h
    · exact List.mem_cons.mp h
    · split at h
      · rcases List.mem_cons.mp h with h | h
        · exact .inl h
        · exact .inr (List.mem_cons_of_mem _ h)
      · rcases List.mem_cons.mp h with h | h
        · exact .inr (h ▸ List.mem_cons_self)
        · exact (ih h).imp_right (List.mem_cons_of_mem _)

theorem Entries.mem_ofList {α : Type} {es : List (String × α)} {e : String × α}
    (h : e ∈ Entries.ofList es) : e ∈ es := by
  have hfold : ∀ (es : List (String × α)) (start : Entries α),
      e ∈ es.foldl (fun acc e => acc.insert e.1 e.2) start → e ∈ start ∨ e ∈ es := by
    intro es
    induction es with
    | nil => exact fun start h => .inl h
    | cons d es ih =>
      intro start h
      rcases ih _ h with h | h
      · rcases Entries.mem_insert h with h | h
        · exact .inr (h ▸ List.mem_cons_self)
        · exact .inl h
      · exact .inr (List.mem_cons_of_mem d h)
  rw [Entries.ofList_eq] at h
  exact (hfold es [] h).resolve_left List.not_mem_nil

theorem Entries.apart_of_keys {α : Type} {es : List (String × α)}
    (hkeys : es.Pairwise fun a b => a.1 ≠ b.1) : es.Pairwise fun a b => ¬ compare a.1 b.1 = .eq :=
  hkeys.imp fun hne heq => hne (Std.LawfulEqCmp.eq_of_compare heq)

theorem Entries.mem_ofList_iff {α : Type} {es : List (String × α)}
    (hkeys : es.Pairwise fun a b => a.1 ≠ b.1) {e : String × α} : e ∈ Entries.ofList es ↔ e ∈ es := by
  refine ⟨Entries.mem_ofList, fun he => ?_⟩
  exact Std.TreeMap.mem_toList_iff_getElem?_eq_some.mpr
    (Std.TreeMap.getElem?_ofList_of_mem Std.ReflCmp.compare_self (Entries.apart_of_keys hkeys) he)

theorem Entries.insert_last {α : Type} {es : Entries α} {key : String} (h : ∀ e ∈ es, e.1 < key) (v : α) :
    es.insert key v = es ++ [(key, v)] := by
  induction es with
  | nil => rfl
  | cons e es ih =>
    have hlt : e.1 < key := h e List.mem_cons_self
    have hnot : ¬ key < e.1 := fun hgt => String.lt_irrefl key (String.lt_trans hgt hlt)
    have hne : key ≠ e.1 := fun heq => String.lt_irrefl key (heq ▸ hlt)
    rw [Entries.insert, if_neg hnot, if_neg hne,
      ih fun d hd => h d (List.mem_cons_of_mem e hd), List.cons_append]

theorem Entries.Ordered.of_keys {α β : Type} {es : Entries α} {fs : Entries β} (h : es.Ordered)
    (hkeys : fs.map (·.1) = es.map (·.1)) : fs.Ordered := by
  have hrising : (es.map (·.1)).Pairwise (· < ·) := List.pairwise_map.mpr h
  rw [← hkeys] at hrising
  exact List.pairwise_map.mp hrising

namespace Value

mutual

/-- A value all of whose parts, itself included, have a property. -/
def Each (p : Value → Prop) : Value → Prop
  | object fields => p (object fields) ∧ EachField p fields
  | null => p null
  | boolean b => p (boolean b)
  | integer n => p (integer n)
  | float x => p (float x)
  | string s => p (string s)
termination_by structural v => v

def EachField (p : Value → Prop) : List (String × Value) → Prop
  | [] => True
  | (_, v) :: rest => v.Each p ∧ EachField p rest
termination_by structural fields => fields

end

theorem eachField_iff {p : Value → Prop} {fields : List (String × Value)} :
    EachField p fields ↔ ∀ e ∈ fields, e.2.Each p := by
  induction fields with
  | nil => simp [EachField]
  | cons e rest ih => rw [EachField, ih, List.forall_mem_cons]

/-- A value that is no object, or whose fields are in the order of their keys. -/
def InOrder : Value → Prop
  | object fields => Entries.Ordered fields
  | _ => True

end Value

namespace Json

mutual

/-- JSON data whose objects, at all levels, have their members in the order of their keys. -/
def InOrder : Json → Prop
  | array items => ItemsInOrder items
  | object members => Entries.Ordered members ∧ MembersInOrder members
  | _ => True
termination_by structural j => j

def ItemsInOrder : List Json → Prop
  | [] => True
  | j :: rest => j.InOrder ∧ ItemsInOrder rest
termination_by structural items => items

def MembersInOrder : List (String × Json) → Prop
  | [] => True
  | (_, j) :: rest => j.InOrder ∧ MembersInOrder rest
termination_by structural members => members

end

theorem itemsInOrder_iff {items : List Json} : ItemsInOrder items ↔ ∀ j ∈ items, j.InOrder := by
  induction items with
  | nil => simp [ItemsInOrder]
  | cons j rest ih => rw [ItemsInOrder, ih, List.forall_mem_cons]

theorem membersInOrder_iff {members : List (String × Json)} :
    MembersInOrder members ↔ ∀ m ∈ members, m.2.InOrder := by
  induction members with
  | nil => simp [MembersInOrder]
  | cons m rest ih => rw [MembersInOrder, ih, List.forall_mem_cons]

/-! ## What readers give -/

def Orderly (r : Reader Json) : Prop := ∀ t j rest, r t = .ok (j, rest) → j.InOrder

theorem inOrder_of_scaled {negative : Bool} {n : Nat} {e : Int} : Orderly (scaled negative n e) := by
  intro t j rest h
  unfold scaled at h
  simp only at h
  split at h
  · cases h
    trivial
  · cases h

theorem inOrder_of_exponent {negative : Bool} {n : Nat} {e : Int} :
    Orderly (exponent negative n e) := by
  intro t j rest h
  unfold exponent at h
  simp only at h
  split at h
  · cases h
  · split at h
    · cases h
    · split at h
      · exact inOrder_of_scaled _ _ _ h
      · split at h
        · cases h
        · cases h
          trivial

theorem inOrder_of_fraction {negative : Bool} {n : Nat} {e : Int} :
    Orderly (fraction negative n e) := by
  intro t j rest h
  unfold fraction afterDigits at h
  simp only at h
  split at h
  · cases h
  · split at h
    · exact inOrder_of_exponent _ _ _ h
    · exact inOrder_of_exponent _ _ _ h
    · exact inOrder_of_scaled _ _ _ h

theorem inOrder_of_number {negative : Bool} : Orderly (number negative) := by
  intro t j rest h
  unfold number at h
  simp only at h
  split at h
  · cases h
  · cases h
  · cases h
  · split at h
    · exact inOrder_of_fraction _ _ _ h
    · exact inOrder_of_exponent _ _ _ h
    · exact inOrder_of_exponent _ _ _ h
    · split at h
      · cases h
        unfold ofInteger
        split
        · trivial
        · split
          · trivial
          · split <;> trivial
      · exact inOrder_of_scaled _ _ _ h

theorem wordRest_eq {v j : Json} {expected : List Char} {t rest : Text}
    (h : wordRest v expected t = .ok (j, rest)) : j = v := by
  induction expected generalizing t with
  | nil => cases h; rfl
  | cons e expected ih =>
    cases t with
    | nil => cases h
    | cons c t =>
      rw [wordRest] at h
      split at h
      · exact ih h
      · cases h

section Nested

variable {item : Reader Json}

theorem orderly_items (hitem : Orderly item) (count : Nat) {seen : List Json}
    (hseen : ∀ j ∈ seen, j.InOrder) : Orderly (items item seen count) := by
  induction count generalizing seen with
  | zero => intro t j rest h; cases h
  | succ count ih =>
    intro t j rest h
    rw [items] at h
    split at h
    · cases h
    · next v after hv =>
      have hnext : ∀ j ∈ v :: seen, j.InOrder :=
        List.forall_mem_cons.mpr ⟨hitem _ _ _ hv, hseen⟩
      split at h
      · cases h
      · cases h
        exact itemsInOrder_iff.mpr fun j hj => hnext j (List.mem_reverse.mp hj)
      · split at h
        · cases h
        · cases h
        · exact ih hnext _ _ _ h
      · cases h

theorem inOrder_of_member (hitem : Orderly item) {t rest : Text} {key : String} {j : Json}
    (h : member item t = .ok ((key, j), rest)) : j.InOrder := by
  unfold member at h
  split at h
  · split at h
    · cases h
    · split at h
      · cases h
      · split at h
        · cases h
        · next hv =>
          cases h
          exact hitem _ _ _ hv
      · cases h
  · cases h

theorem orderly_members (hitem : Orderly item) (count : Nat) {seen : Entries Json}
    (hordered : seen.Ordered) (hseen : ∀ m ∈ seen, m.2.InOrder) :
    Orderly (members item seen count) := by
  induction count generalizing seen with
  | zero => intro t j rest h; cases h
  | succ count ih =>
    intro t j rest h
    rw [members] at h
    split at h
    · cases h
    · next key v after hv =>
      -- of two members under one key the later takes the place, and the order is kept
      have hnext : ∀ m ∈ seen.insert key v, m.2.InOrder := by
        intro m hm
        rcases Entries.mem_insert hm with rfl | hm
        · exact inOrder_of_member hitem hv
        · exact hseen m hm
      simp only at h
      split at h
      · cases h
      · cases h
        exact ⟨hordered.insert key v, membersInOrder_iff.mpr hnext⟩
      · split at h
        · cases h
        · cases h
        · exact ih (hordered.insert key v) hnext _ _ _ h
      · cases h

theorem orderly_valueWith (count : Nat) {inner : Option (Reader Json)}
    (hinner : ∀ item, inner = some item → Orderly item) : Orderly (valueWith count inner) := by
  intro t j rest h
  unfold valueWith at h
  split at h
  · cases h
  · rw [wordRest_eq h]; trivial
  · rw [wordRest_eq h]; trivial
  · rw [wordRest_eq h]; trivial
  · exact inOrder_of_number _ _ _ h
  · next after _ =>
    cases hstring : stringFrom [] after with
    | error stop => rw [hstring] at h; cases h
    | ok result =>
      rw [hstring] at h
      cases h
      trivial
  · next item _ =>
    unfold arrayFrom at h
    split at h
    · cases h
    · cases h
      trivial
    · -- the items and members read so far are none, and each one that is read is in order itself
      exact orderly_items (hinner item rfl) count (fun j hj => absurd hj List.not_mem_nil) _ _ _ h
  · next item _ =>
    unfold objectFrom at h
    split at h
    · cases h
    · cases h
      exact ⟨Entries.ordered_nil, trivial⟩
    · exact orderly_members (hinner item rfl) count Entries.ordered_nil
        (fun m hm => absurd hm List.not_mem_nil) _ _ _ h
  · cases h
  · cases h
  · split at h
    · exact inOrder_of_number _ _ _ h
    · cases h

theorem orderly_value (count depth : Nat) : Orderly (value count depth) := by
  induction depth with
  | zero => exact orderly_valueWith count fun item hitem => nomatch hitem
  | succ depth ih =>
    refine orderly_valueWith count fun item hitem => ?_
    cases hitem
    exact ih

end Nested

theorem inOrder_of_read {s : String} {j : Json} (h : Json.read s = .ok j) : j.InOrder := by
  unfold Json.read at h
  simp only at h
  split at h
  · cases h
  · next hvalue =>
    split at h
    · cases h
      exact orderly_value _ _ _ _ _ hvalue
    · cases h

end Json

namespace Value

/-! ## Values of data -/

theorem keys_ofMembers (members : List (String × Json)) :
    (ofMembers members).map (·.1) = members.map (·.1) := by
  induction members with
  | nil => rfl
  | cons m members ih => exact congrArg (m.1 :: ·) ih

theorem ordered_ofMembers {members : List (String × Json)} (h : Entries.Ordered members) :
    Entries.Ordered (ofMembers members) := h.of_keys (keys_ofMembers members)

theorem get?_ofMembers (members : List (String × Json)) (key : String) :
    Entries.get? key (ofMembers members) = (Entries.get? key members).map ofJson := by
  induction members with
  | nil => rfl
  | cons m members ih =>
    obtain ⟨k, j⟩ := m
    rw [ofMembers, Entries.get?, Entries.get?]
    split
    · rfl
    · exact ih

mutual

theorem inOrder_ofJson : ∀ j : Json, j.InOrder → (ofJson j).Each InOrder
  | .null, _ => trivial
  | .boolean b, _ => trivial
  | .integer n, _ => by
    rw [ofJson]
    split <;> trivial
  | .float x, _ => trivial
  | .string s, _ => trivial
  | .array items, h =>
    ⟨Entries.ordered_ofList _, eachField_iff.mpr fun e he =>
      eachField_iff.mp (inOrder_ofItems items 0 h) e (Entries.mem_ofList he)⟩
  | .object members, h => ⟨ordered_ofMembers h.1, inOrder_ofMembers members h.2⟩
termination_by structural j => j

theorem inOrder_ofItems : ∀ (items : List Json) (i : Nat), Json.ItemsInOrder items →
    EachField InOrder (ofItems i items)
  | [], _, _ => trivial
  | j :: rest, i, h => ⟨inOrder_ofJson j h.1, inOrder_ofItems rest (i + 1) h.2⟩
termination_by structural items => items

theorem inOrder_ofMembers : ∀ members : List (String × Json), Json.MembersInOrder members →
    EachField InOrder (ofMembers members)
  | [], _ => trivial
  | (_, j) :: rest, h => ⟨inOrder_ofJson j h.1, inOrder_ofMembers rest h.2⟩
termination_by structural members => members

end

end Value

end LineScript
