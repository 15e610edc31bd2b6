import LineScript.Proofs.Json.Keys
import LineScript.Proofs.Run.Saved
import LineScript.Proofs.Run.Twin
import LineScript.Proofs.Text.Utf8

/-!
# Saved text depends on the bindings alone

The variables of a session may come listed in any order, which tells of the order in which they came about.
What is saved is collected from such a list in the order of the names, so that it is one text for all lists
of the same bindings (`savedText_eq`).  Two sessions in which the same stands under every name save the
same text, in which each name is a key of the outermost object, once, and the keys of every object come in
the order of their bytes (`saved_canonical`).
-/

namespace LineScript

/-- A list of what stands in a table, each key once, in any order. -/
def Table.ListedBy {α : Type} (t : Table α) (listing : List (String × α)) : Prop :=
  (listing.map (·.1)).Nodup ∧ ∀ key v, (key, v) ∈ listing ↔ t.get? key = some v

theorem Table.listedBy_of_perm {α : Type} {t : Table α} {listing : List (String × α)}
    (h : listing.Perm t.entries) : t.ListedBy listing := by
  have hrising : (t.entries.map (·.1)).Pairwise (· < ·) := List.pairwise_map.mpr t.ordered
  have hne : ∀ {key key' : String}, key < key' → key ≠ key' := by
    rintro key _ hlt rfl
    exact String.lt_irrefl key hlt
  have hnodup : (t.entries.map (·.1)).Nodup := hrising.imp hne
  refine ⟨(h.map (·.1)).nodup_iff.mpr hnodup, fun key v => ?_⟩
  exact h.mem_iff.trans t.ordered.get?_eq_some_iff.symm

namespace Value

theorem toMembers_eq (fields : List (String × Value)) :
    toMembers fields = fields.map fun e => (e.1, e.2.toJson) := by
  induction fields with
  | nil => rfl
  | cons e fields ih => exact congrArg ((e.1, e.2.toJson) :: ·) ih

def savedText (listing : List (String × Value)) : String :=
  (Json.object (Entries.ofList (toMembers listing))).pretty

/-- However variables are listed, they are collected in the order of their names. -/
theorem ofList_of_listedBy {t : Table Value} {listing : List (String × Value)} (h : t.ListedBy listing) :
    Entries.ofList (toMembers listing) = toMembers t.entries := by
  have hkeys : ∀ fields, (toMembers fields).map (·.1) = fields.map (·.1) := by
    intro fields
    rw [toMembers_eq, List.map_map]
    rfl
  have hordered : Entries.Ordered (toMembers t.entries) := t.ordered.of_keys (hkeys _)
  have hdistinct : ((toMembers listing).map (·.1)).Nodup := by
    rw [hkeys]
    exact h.1
  have hmem : ∀ e, e ∈ toMembers listing ↔ e ∈ toMembers t.entries := by
    intro e
    have hentry : ∀ key v, (key, v) ∈ listing ↔ (key, v) ∈ t.entries :=
      fun key v => (h.2 key v).trans t.ordered.get?_eq_some_iff
    simp only [toMembers_eq, List.mem_map, Prod.exists, hentry]
  refine (Entries.ordered_ofList _).ext hordered fun key => Option.ext fun j => ?_
  rw [(Entries.ordered_ofList _).get?_eq_some_iff, hordered.get?_eq_some_iff,
    Entries.mem_ofList_iff (List.pairwise_map.mp hdistinct), hmem]

theorem savedText_eq {t : Table Value} {listing : List (String × Value)} (h : t.ListedBy listing) :
    savedText listing = (object t.entries).toJson.pretty := by
  rw [savedText, ofList_of_listedBy h]
  rfl

end Value

namespace Session

/-- Whatever line of a session saves under whatever name, it succeeds just if the text can be written to
the file of that name, and then the file holds its bytes. -/
def Saves (s : Session) (text : String) : Prop :=
  ∀ line name, Statement.read line = .ok (.save name) →
    let path := s.options.resolve (Statement.fileName name)
    (∀ files, (∃ t, Run.statement line s = (.ok (), t) ∧ t.world.files = files) ↔
      s.world.files.writeText path text = .ok files) ∧
    ∀ t, Run.statement line s = (.ok (), t) → t.world.files.read path = .ok text.toUTF8

variable {s : Session}

theorem saves_of_listedBy {listing : List (String × Value)} (h : s.vars.ListedBy listing) :
    s.Saves (Value.savedText listing) := by
  intro line name hline
  have hstatement : Run.statement line s = Run.change (·.save name) s := Run.statement_of_ok hline s
  have htext : (Json.object (Value.toMembers s.vars.entries)).pretty = Value.savedText listing :=
    (Value.savedText_eq h).symm
  -- a save that succeeds has written the text, and one whose text can be written succeeds
  have hwritten : ∀ t, Run.statement line s = (.ok (), t) →
      s.world.files.writeText (s.options.resolve (Statement.fileName name)) (Value.savedText listing) =
        .ok t.world.files := by
    intro t ht
    rw [hstatement, change_eq_ok_iff] at ht
    unfold save at ht
    simp only [htext] at ht
    split at ht
    · next files hwrite =>
      cases ht
      exact hwrite
    · cases ht
  refine ⟨fun files => ⟨?_, fun hwrite => ?_⟩, fun t ht => ?_⟩
  · rintro ⟨t, ht, rfl⟩
    exact hwritten t ht
  · refine ⟨({ s with world := { s.world with files } }.emit
      s!"💾 Variables saved to {Statement.fileName name}"), ?_, rfl⟩
    rw [hstatement, change_eq_ok_iff]
    unfold save
    simp only [htext, hwrite]
  · exact Files.read_of_writeText (hwritten t ht)

/-- What saving writes depends on the bindings alone. Two sessions in which the same stands under every
name, in whatever way they came about and whatever maps they were given at first, save one text, and it is
the one that their variables have listed in any order. The keys of its outermost object, which ends last,
are the names of the variables, each once, and in every object the bytes of the keys rise strictly. -/
theorem saved_canonical {first s s' : Session} (hfirst : first.InOrder) (hreach : first.Reachable s)
    (hsame : ∀ name, s.vars.get? name = s'.vars.get? name) :
    ∃ text : String,
      (∀ u ∈ [s, s'], u.Saves text ∧
        ∀ listing, u.vars.ListedBy listing → Value.savedText listing = text) ∧
      (∃ inner names, Json.keysFrom [] text.toList = inner ++ [names] ∧ names.Nodup ∧
        ∀ name, name ∈ names ↔ ∃ v, s.vars.get? name = some v) ∧
      ∀ keys ∈ Json.keysFrom [] text.toList,
        keys.Pairwise fun key key' => Text.utf8 key < Text.utf8 key' := by
  -- a table is in order, so that its look-ups determine it
  have hvars : s'.vars = s.vars := (Table.eq_of_get? hsame).symm
  have hlisted : s.vars.ListedBy s.vars.entries := Table.listedBy_of_perm (.refl _)
  have horder := hfirst.reachable hreach
  have hkeys : Json.keysFrom [] (Value.savedText s.vars.entries).toList =
      Value.fieldKeys s.vars.entries ++ [s.vars.entries.map (·.1)] := by
    rw [Value.savedText_eq hlisted, Json.keysFrom_pretty]
    rfl
  refine ⟨Value.savedText s.vars.entries, fun u hu => ?_, ?_, ?_⟩
  · have huvars : u.vars = s.vars := by
      rcases List.mem_pair.mp hu with rfl | rfl
      · rfl
      · exact hvars
    refine ⟨saves_of_listedBy (huvars ▸ hlisted), fun listing hlisting => ?_⟩
    rw [Value.savedText_eq hlisting, Value.savedText_eq hlisted, huvars]
  · refine ⟨_, _, hkeys, hlisted.1, fun name => ?_⟩
    simp only [List.mem_map, Prod.exists, exists_and_right, exists_eq_right, hlisted.2]
  · rw [Value.savedText_eq hlisted, Json.keysFrom_pretty]
    intro keys hmem
    have hrising := Value.rising_objectKeys (.object s.vars.entries) ⟨s.vars.ordered, horder⟩ keys hmem
    exact hrising.imp Text.utf8_lt

/-- Two names that took their texts from the input, one of them twice, in another order than that of their
bytes. -/
theorem saved_canonical_accent :
    let s := ((fresh ["1", "2"]).takeInput "é").takeInput "z"
    let s' := (((fresh ["0", "1", "2"]).takeInput "z").takeInput "é").takeInput "z"
    (fresh ["1", "2"]).Reachable s ∧ (fresh ["0", "1", "2"]).Reachable s' ∧
      ∀ u ∈ [s, s'], u.Saves "\x7b\n  \"z\": \"2\",\n  \"é\": \"1\"\n\x7d" := by
  intro s s'
  have hinput : ∀ {t u : Session} {line name : String}, Statement.read line.toList = .ok (.input name) →
      t.Reachable u → t.Reachable (u.takeInput name) := by
    intro t u line name hline hu
    have hstep := Reachable.line hu line.toList
    rw [Run.statement_of_ok hline] at hstep
    exact hstep
  have hfirst : Statement.read "input é".toList = .ok (.input "é") := by decide +kernel
  have hsecond : Statement.read "input z".toList = .ok (.input "z") := by decide +kernel
  have hreach : (fresh ["1", "2"]).Reachable s := hinput hsecond (hinput hfirst .start)
  have hreach' : (fresh ["0", "1", "2"]).Reachable s' :=
    hinput hsecond (hinput hfirst (hinput hsecond .start))
  have hvars : s.vars = s'.vars := Table.ext rfl
  obtain ⟨text, hsaves, -⟩ :=
    saved_canonical (inOrder_start _ _ _) hreach fun name => congrArg (·.get? name) hvars
  have htext := (hsaves s List.mem_cons_self).2 [("é", .string "1"), ("z", .string "2")]
    (Table.listedBy_of_perm (.swap _ _ []))
  have hspelled : Value.savedText [("é", .string "1"), ("z", .string "2")] =
      "\x7b\n  \"z\": \"2\",\n  \"é\": \"1\"\n\x7d" := by decide +kernel
  rw [← hspelled, htext]
  exact ⟨hreach, hreach', fun u hu => (hsaves u hu).1⟩

end Session

end LineScript
