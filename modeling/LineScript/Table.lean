import Std.Data.TreeMap

/-!
Tables: entries under text keys, kept in the order of the keys.

`Entries` are the plain lists that nested data is built from; a `Table` is a list of entries that is
known to be in order, so that two tables with the same look-ups are the same table. Keys are ordered
by code point, which is also the order of their UTF-8 bytes.
-/

namespace LineScript

abbrev Entries (α : Type u) := List (String × α)

namespace Entries

variable {α : Type u}

def get? (key : String) : Entries α → Option α
  | [] => none
  | (k, v) :: rest => if k = key then some v else get? key rest

def insert (key : String) (value : α) : Entries α → Entries α
  | [] => [(key, value)]
  | (k, v) :: rest =>
    if key < k then (key, value) :: (k, v) :: rest
    else if key = k then (key, value) :: rest
    else (k, v) :: insert key value rest

/-- The entries of a list in order; of two under one key the later. -/
def ofList (entries : List (String × α)) : Entries α := (Std.TreeMap.ofList entries compare).toList

def Ordered (entries : Entries α) : Prop := entries.Pairwise fun a b => a.1 < b.1

theorem get?_insert_self (key : String) (value : α) (es : Entries α) :
    (insert key value es).get? key = some value := by
  induction es with
  | nil => simp [insert, get?]
  | cons e rest ih =>
    obtain ⟨k, v⟩ := e
    rw [insert]
    split
    · simp [get?]
    · split
      · simp [get?]
      · next hne => simp [get?, Ne.symm hne, ih]

theorem get?_insert_of_ne {key other : String} (h : other ≠ key) (value : α) (es : Entries α) :
    (insert key value es).get? other = es.get? other := by
  induction es with
  | nil => simp [insert, get?, Ne.symm h]
  | cons e rest ih =>
    obtain ⟨k, v⟩ := e
    rw [insert]
    split
    · simp [get?, Ne.symm h]
    · split
      · next heq => subst heq; simp [get?, Ne.symm h]
      · simp only [get?, ih]

theorem key_of_mem_insert {key : String} {value : α} {es : Entries α} {e : String × α}
    (h : e ∈ insert key value es) : e.1 = key ∨ e ∈ es := by
  induction es with
  | nil => simp only [insert, List.mem_singleton] at h; exact .inl (by rw [h])
  | cons d rest ih =>
    obtain ⟨k, v⟩ := d
    rw [insert] at h
    split at h
    · rcases List.mem_cons.mp h with h | h
      · exact .inl (by rw [h])
      · exact .inr h
    · split at h
      · rcases List.mem_cons.mp h with h | h
        · exact .inl (by rw [h])
        · exact .inr (List.mem_cons_of_mem _ h)
      · rcases List.mem_cons.mp h with h | h
        · exact .inr (h ▸ List.mem_cons_self)
        · exact (ih h).imp_right (List.mem_cons_of_mem _)

theorem ordered_nil : Ordered ([] : Entries α) := List.Pairwise.nil

theorem Ordered.insert {es : Entries α} (h : es.Ordered) (key : String) (value : α) :
    (es.insert key value).Ordered := by
  induction es with
  | nil => simp [Entries.insert, Ordered]
  | cons e rest ih =>
    obtain ⟨k, v⟩ := e
    obtain ⟨hk, hrest⟩ := List.pairwise_cons.mp h
    rw [Entries.insert]
    split
    · next hlt =>
      exact List.pairwise_cons.mpr ⟨fun x hx => by
        rcases List.mem_cons.mp hx with hx | hx
        · exact hx ▸ hlt
        · exact String.lt_trans hlt (hk x hx), h⟩
    · split
      · next heq =>
        exact List.pairwise_cons.mpr ⟨fun x hx => heq ▸ hk x hx, hrest⟩
      · next hge hne =>
        refine List.pairwise_cons.mpr ⟨fun x hx => ?_, ih hrest⟩
        rcases key_of_mem_insert hx with hx | hx
        · rw [hx]
          exact Decidable.byContradiction fun hle =>
            hne (String.le_antisymm (String.not_lt.mp hle) (String.not_lt.mp hge))
        · exact hk x hx

theorem get?_eq_none_of_lt {key : String} {es : Entries α} (h : ∀ e ∈ es, key < e.1) :
    es.get? key = none := by
  induction es with
  | nil => rfl
  | cons e rest ih =>
    have hne : e.1 ≠ key := fun he => String.lt_irrefl key (he ▸ h e List.mem_cons_self)
    rw [get?, if_neg hne]
    exact ih fun d hd => h d (List.mem_cons_of_mem e hd)

theorem Ordered.get?_eq_some_iff {es : Entries α} (h : es.Ordered) {key : String} {value : α} :
    es.get? key = some value ↔ (key, value) ∈ es := by
  induction es with
  | nil => simp [get?]
  | cons e rest ih =>
    obtain ⟨hk, hrest⟩ := List.pairwise_cons.mp h
    rw [get?, List.mem_cons]
    split
    · next heq =>
      subst heq
      have notLater : (e.1, value) ∉ rest := fun hm => String.lt_irrefl e.1 (hk (e.1, value) hm)
      simp only [Option.some.injEq, notLater, or_false, Prod.ext_iff, true_and]
      exact eq_comm
    · next hne =>
      rw [ih hrest]
      refine ⟨.inr, fun hm => hm.resolve_left fun he => hne ?_⟩
      rw [← he]

theorem Ordered.ext {es fs : Entries α} (he : es.Ordered) (hf : fs.Ordered)
    (h : ∀ key, es.get? key = fs.get? key) : es = fs := by
  induction es generalizing fs with
  | nil =>
    cases fs with
    | nil => rfl
    | cons f fs => simpa [get?] using h f.1
  | cons e es ih =>
    cases fs with
    | nil => simpa [get?] using h e.1
    | cons f fs =>
      obtain ⟨hek, hes⟩ := List.pairwise_cons.mp he
      obtain ⟨hfk, hfs⟩ := List.pairwise_cons.mp hf
      have he0 : (e.1, e.2) ∈ f :: fs := hf.get?_eq_some_iff.mp (by rw [← h e.1]; simp [get?])
      have hf0 : (f.1, f.2) ∈ e :: es := he.get?_eq_some_iff.mp (by rw [h f.1]; simp [get?])
      have head : e = f := by
        rcases List.mem_cons.mp he0 with he0 | he0
        · exact he0
        · rcases List.mem_cons.mp hf0 with hf0 | hf0
          · exact hf0.symm
          · exact absurd (String.lt_trans (hfk _ he0) (hek _ hf0)) (String.lt_irrefl _)
      subst head
      refine congrArg (e :: ·) (ih hes hfs fun key => ?_)
      by_cases hkey : e.1 = key
      · subst hkey
        rw [get?_eq_none_of_lt hek, get?_eq_none_of_lt hfk]
      · have := h key
        simpa only [get?, if_neg hkey] using this

theorem ordered_ofList (es : List (String × α)) : Ordered (ofList es) := by
  have rising : (ofList es).Pairwise fun a b => compare a.1 b.1 = .lt :=
    Std.TreeMap.ordered_keys_toList
  exact rising.imp fun h => compareOfLessAndEq_eq_lt.mp h

/-- Entries put in one after the other are found like those of a map that they are put into. -/
theorem get?_foldl_insert {es : List (String × α)} {start : Entries α}
    {map : Std.TreeMap String α compare} (h : ∀ key, start.get? key = map[key]?) (key : String) :
    (es.foldl (fun acc e => insert e.1 e.2 acc) start).get? key = (map.insertMany es)[key]? := by
  induction es generalizing start map with
  | nil => simpa using h key
  | cons e es ih =>
    rw [List.foldl_cons, Std.TreeMap.insertMany_cons]
    refine ih fun k => ?_
    rw [Std.TreeMap.getElem?_insert]
    by_cases hk : e.1 = k
    · subst hk
      simp [get?_insert_self]
    · rw [get?_insert_of_ne (Ne.symm hk), h k, if_neg]
      simpa using hk

theorem Ordered.foldl_insert {start : Entries α} (h : start.Ordered) (es : List (String × α)) :
    (es.foldl (fun acc e => Entries.insert e.1 e.2 acc) start).Ordered := by
  induction es generalizing start with
  | nil => exact h
  | cons e es ih => exact ih (h.insert e.1 e.2)

/-- The entries of a list are those that come from putting them in one after the other. -/
theorem ofList_eq (es : List (String × α)) :
    ofList es = es.foldl (fun acc e => insert e.1 e.2 acc) [] := by
  refine (ordered_ofList es).ext (ordered_nil.foldl_insert es) fun key => ?_
  have start : ∀ k, get? k [] = (∅ : Std.TreeMap String α compare)[k]? := fun k => by simp [get?]
  rw [get?_foldl_insert start]
  refine Option.ext fun value => ?_
  rw [(ordered_ofList es).get?_eq_some_iff, ofList, Std.TreeMap.mem_toList_iff_getElem?_eq_some,
    Std.TreeMap.ofList_eq_insertMany_empty]

end Entries

structure Table (α : Type u) where
  entries : Entries α
  ordered : entries.Ordered

namespace Table

variable {α : Type u}

instance : EmptyCollection (Table α) := ⟨⟨[], Entries.ordered_nil⟩⟩

instance : Inhabited (Table α) := ⟨∅⟩

def get? (t : Table α) (key : String) : Option α := t.entries.get? key

def insert (t : Table α) (key : String) (value : α) : Table α :=
  ⟨t.entries.insert key value, t.ordered.insert key value⟩

/-- The table with all of `entries` put in, one after the other. -/
def insertAll (t : Table α) (entries : Entries α) : Table α :=
  entries.foldl (fun t e => t.insert e.1 e.2) t

@[simp] theorem get?_insert_self (t : Table α) (key : String) (value : α) :
    (t.insert key value).get? key = some value :=
  Entries.get?_insert_self key value t.entries

theorem get?_insert_of_ne {key other : String} (h : other ≠ key) (t : Table α) (value : α) :
    (t.insert key value).get? other = t.get? other :=
  Entries.get?_insert_of_ne h value t.entries

end Table

end LineScript
