import LineScript.Proofs.Json.Restored
import LineScript.Proofs.Run.Order
import LineScript.Proofs.Text.OneLine
import LineScript.Proofs.World.Files

/-!
# Saved variables

What a session saves, a fresh session loads: the same variables with the same values exactly if no
value nests more than 126 objects deep, since all of them stand in one more object and the reader goes
127 deep, and if every floating-point number in them is read back from its own text
(`load_restores_iff`).
-/

namespace LineScript

/-! ## The lines that save and load -/

def Statement.fileLine (verb : String) (name : String) : Text :=
  verb.toList ++ ' ' :: '"' :: (name.toList ++ ['"'])

def Statement.saveLine (name : String) : Text := fileLine "save" name

def Statement.loadLine (name : String) : Text := fileLine "load" name

theorem Text.splitLast_end {p : Char → Bool} {c : Char} (hc : p c = true) (t : Text) :
    splitLast p (t ++ [c]) = some (t, []) := by
  induction t with
  | nil => simp [splitLast, hc]
  | cons d t ih => rw [List.cons_append, splitLast, ih]

namespace Statement

theorem trim_quoted (before : Text) (hbefore : ∀ c ∈ before.head?, Text.isBlank c = false)
    (name : Text) : Text.trim (before ++ '"' :: (name ++ ['"'])) = before ++ '"' :: (name ++ ['"']) := by
  refine Text.trim_eq_self (fun c hc => ?_) (fun c hc => ?_)
  · cases before with
    | nil => cases hc; decide
    | cons d before => exact hbefore c hc
  · have hlast : before ++ '"' :: (name ++ ['"']) = (before ++ '"' :: name) ++ ['"'] := by simp
    rw [hlast, List.getLast?_concat] at hc
    cases hc
    decide

theorem splitWord_fileLine {verb : String} (hverb : ∀ c ∈ verb.toList, (!Text.isBlank c) = true)
    (hne : verb.toList ≠ []) (name : String) :
    Text.splitWord (fileLine verb name) = (verb.toList, '"' :: (name.toList ++ ['"'])) := by
  have hline : fileLine verb name =
      (verb.toList ++ [' ']) ++ '"' :: (name.toList ++ ['"']) := by simp [fileLine]
  have hhead : ∀ c ∈ (verb.toList ++ [' ']).head?, Text.isBlank c = false := by
    intro c hc
    cases hparts : verb.toList with
    | nil => exact absurd hparts hne
    | cons d ds =>
      rw [hparts] at hc hverb
      cases hc
      exact (Bool.not_eq_true' _).mp (hverb _ List.mem_cons_self)
  -- the line starts with the verb and ends with a quote, so that trimming takes nothing
  have hwhole : Text.trim (fileLine verb name) = fileLine verb name := by
    rw [hline]
    exact trim_quoted _ hhead name.toList
  have hblank : Text.trim (' ' :: '"' :: (name.toList ++ ['"'])) = '"' :: (name.toList ++ ['"']) := by
    have hstart : Text.trim (' ' :: '"' :: (name.toList ++ ['"'])) =
        Text.trim ('"' :: (name.toList ++ ['"'])) := rfl
    rw [hstart]
    exact trim_quoted [] (fun c hc => nomatch hc) name.toList
  have hstop : ∀ c ∈ (' ' :: '"' :: (name.toList ++ ['"'])).head?, (!Text.isBlank c) = false := by
    intro c hc
    cases hc
    decide
  unfold Text.splitWord
  simp only [hwhole]
  rw [fileLine, Arith.takeWhile_stretch hverb hstop, Arith.dropWhile_stretch hverb hstop, hblank]

theorem quoted?_name (name : String) : quoted? ('"' :: (name.toList ++ ['"'])) = some name := by
  rw [quoted?, Text.splitLast_end (by decide), Option.map_some]
  exact congrArg some String.ofList_toList

theorem read_saveLine (name : String) : read (saveLine name) = .ok (.save name) := by
  have hverb : verbs.lookup (String.ofList (Text.lower "save".toList)) =
      some (readFile .save .save) := rfl
  unfold read saveLine
  rw [splitWord_fileLine (List.all_eq_true.mp (by decide)) (by decide)]
  simp only [hverb, readFile, quoted?_name]

theorem read_loadLine (name : String) : read (loadLine name) = .ok (.load name) := by
  have hverb : verbs.lookup (String.ofList (Text.lower "load".toList)) =
      some (readFile .load .load) := rfl
  unfold read loadLine
  rw [splitWord_fileLine (List.all_eq_true.mp (by decide)) (by decide)]
  simp only [hverb, readFile, quoted?_name]

end Statement

/-! ## Tables -/

theorem Table.ext {α : Type} {t u : Table α} (h : t.entries = u.entries) : t = u := by
  obtain ⟨es, hes⟩ := t
  obtain ⟨fs, hfs⟩ := u
  cases h
  rfl

theorem Table.entries_insertAll {α : Type} {t : Table α} {es : Entries α} (hes : es.Ordered)
    (hlater : ∀ a ∈ t.entries, ∀ b ∈ es, a.1 < b.1) :
    (t.insertAll es).entries = t.entries ++ es := by
  induction es generalizing t with
  | nil => exact (List.append_nil _).symm
  | cons e es ih =>
    obtain ⟨hkeys, hes⟩ := List.pairwise_cons.mp hes
    have hinsert : (t.insert e.1 e.2).entries = t.entries ++ [e] :=
      Entries.insert_last (fun a ha => hlater a ha e List.mem_cons_self) e.2
    have hnext : ∀ a ∈ (t.insert e.1 e.2).entries, ∀ b ∈ es, a.1 < b.1 := by
      intro a ha b hb
      rw [hinsert] at ha
      rcases List.mem_append.mp ha with ha | ha
      · exact hlater a ha b (List.mem_cons_of_mem e hb)
      · rw [List.mem_singleton.mp ha]
        exact hkeys b hb
    show ((t.insert e.1 e.2).insertAll es).entries = _
    rw [ih hes hnext, hinsert, List.append_assoc]
    rfl

theorem Table.insertAll_empty {α : Type} {es : Entries α} (hes : es.Ordered) :
    ((∅ : Table α).insertAll es).entries = es :=
  Table.entries_insertAll hes fun _ ha => absurd ha List.not_mem_nil

/-! ## Saving and loading -/

theorem Value.keys_of_rereadFields? {levels : Nat} {fields : List (String × Value)}
    {members : List (String × Json)} (h : rereadFields? levels fields = some members) :
    members.map (·.1) = fields.map (·.1) := by
  induction fields generalizing members with
  | nil => cases h; rfl
  | cons e fields ih =>
    rw [rereadFields?] at h
    cases hv : e.2.reread? levels with
    | none => rw [hv] at h; cases h
    | some j =>
      rw [hv] at h
      cases hrest : rereadFields? levels fields with
      | none => rw [hrest] at h; cases h
      | some js =>
        rw [hrest] at h
        cases h
        exact congrArg (e.1 :: ·) (ih hrest)

namespace Session

variable {s t u : Session} {name : String}

/-- What the file of a session that was saved holds, as a session that looks for it in the same place
reads it. -/
theorem savedMembers_of_save (hs : s.InOrder) (hsave : s.save name = .ok t)
    (hdirectory : u.options.directory = s.options.directory)
    (hfiles : u.world.files = t.world.files) :
    (u.savedMembers (Statement.fileName name)).toOption =
      Value.rereadFields? 126 s.vars.entries := by
  have hpath : u.options.resolve (Statement.fileName name) =
      s.options.resolve (Statement.fileName name) := by
    unfold Options.resolve
    rw [hdirectory]
  -- the file holds the text that was written, and this is read as the values are read back
  have hread := Json.read_pretty s.vars.ordered hs
  unfold save at hsave
  simp only at hsave
  split at hsave
  · next files hwrite =>
    cases hsave
    have hfiles : u.world.files = files := hfiles
    obtain ⟨hhas, htext⟩ := Files.readText_of_writeText hwrite
    unfold savedMembers
    simp only [hpath, hfiles, hhas, htext, Bool.not_true, Bool.false_eq_true, if_false]
    cases hmembers : Value.rereadFields? 126 s.vars.entries with
    | none =>
      rw [hmembers] at hread
      obtain ⟨cause, hcause⟩ := error_of_toOption hread
      rw [hcause]
      rfl
    | some members =>
      rw [hmembers] at hread
      rw [ok_of_toOption hread]
      rfl
  · cases hsave

theorem load_of_save_iff (hs : s.InOrder) (hsave : s.save name = .ok t)
    (hdirectory : u.options.directory = s.options.directory)
    (hfiles : u.world.files = t.world.files) (hfresh : u.vars = ∅) :
    (∃ v, u.load name = .ok v ∧ v.vars = s.vars) ↔
      ∀ e ∈ s.vars.entries, e.2.depth ≤ 126 ∧ e.2.Each Value.ReadBack := by
  have hmembers := savedMembers_of_save hs hsave hdirectory hfiles
  have hload : u.load name = (u.savedMembers (Statement.fileName name)).map fun members =>
      (u.setAll (Value.ofMembers members)).emit
        s!"📂 Variables loaded from {Statement.fileName name}" := rfl
  rw [← Value.rereadFields?_eq_self_iff]
  cases hread : Value.rereadFields? 126 s.vars.entries with
  | none =>
    rw [hread] at hmembers
    obtain ⟨cause, hcause⟩ := error_of_toOption hmembers
    rw [hload, hcause]
    exact ⟨fun ⟨v, hv, _⟩ => (nomatch hv), fun h => (nomatch h)⟩
  | some members =>
    rw [hread] at hmembers
    have hordered := Value.ordered_ofMembers
      (s.vars.ordered.of_keys (Value.keys_of_rereadFields? hread))
    have hentries : (u.setAll (Value.ofMembers members)).vars.entries =
        Value.ofMembers members := by
      show (u.vars.insertAll (Value.ofMembers members)).entries = _
      rw [hfresh]
      exact Table.insertAll_empty hordered
    rw [hload, ok_of_toOption hmembers]
    -- nothing was in the table before, so that it holds just what was loaded
    constructor
    · rintro ⟨v, hv, hvars⟩
      cases hv
      rw [Option.map_some, ← hentries]
      exact congrArg (fun table : Table Value => some table.entries) hvars
    · intro h
      refine ⟨_, rfl, Table.ext ?_⟩
      show (u.setAll (Value.ofMembers members)).vars.entries = s.vars.entries
      rw [hentries]
      exact Option.some.inj h

/-! ## Lines -/

theorem statement_saveLine (s : Session) (name : String) :
    Run.statement (Statement.saveLine name) s = Run.change (·.save name) s :=
  Run.statement_of_ok (Statement.read_saveLine name) s

theorem statement_loadLine (s : Session) (name : String) :
    Run.statement (Statement.loadLine name) s = Run.change (·.load name) s :=
  Run.statement_of_ok (Statement.read_loadLine name) s

theorem change_eq_ok_iff {f : Session → Except Error Session} {a : Unit} :
    Run.change f s = (.ok a, t) ↔ f s = .ok t := by
  cases hf : f s with
  | error e =>
    rw [Run.change_error hf]
    exact ⟨fun h => (nomatch h), fun h => (nomatch h)⟩
  | ok u =>
    rw [Run.change_ok hf]
    exact ⟨fun h => by cases h; rfl, fun h => by cases h; rfl⟩

theorem save_of_noFiles (hdirectory : s.options.directory = none) (hhere : s.world.files.here = [])
    (hnodes : s.world.files.nodes = []) : ∃ t, s.save "state" = .ok t := by
  have hfiles : s.world.files = ⟨[], []⟩ := by
    cases hparts : s.world.files
    rw [hparts] at hhere hnodes
    cases hhere
    cases hnodes
    rfl
  have hlocate : Files.locate ⟨[], []⟩ "state.json" = .ok ["state.json"] := by
    unfold Files.locate
    rw [String.contains_char_eq]
    decide +kernel
  have hwrite : ∀ text, Files.writeText ⟨[], []⟩ "state.json" text =
      .ok (Files.put ⟨[], []⟩ ["state.json"] (.file text.toUTF8)) := by
    intro text
    unfold Files.writeText
    rw [hlocate]
    rfl
  have hpath : s.options.resolve (Statement.fileName "state") = "state.json" := by
    unfold Options.resolve
    rw [hdirectory]
    rfl
  unfold save
  simp only [hpath, hfiles, hwrite]
  exact ⟨_, rfl⟩

theorem inOrder_start (options : Options) (input : List String) (world : World) :
    (start options input world).InOrder := trivial

/-! ## Depth -/

/-- A session without files before its first step. -/
def fresh (input : List String) : Session := .start .standard input ⟨⟨[], []⟩, .silent, .ofSeed 0⟩

def brackets (n : Nat) (rest : Text) : Text :=
  match n with
  | 0 => '[' :: ']' :: rest
  | n + 1 => '[' :: brackets n (']' :: rest)

def nested : Nat → Json
  | 0 => .array []
  | n + 1 => .array [nested n]

theorem head?_brackets (n : Nat) (rest : Text) : ∃ t, brackets n rest = '[' :: t := by
  cases n <;> exact ⟨_, rfl⟩

theorem le_length_brackets (n : Nat) (rest : Text) : n < (brackets n rest).length := by
  induction n generalizing rest with
  | zero => exact Nat.zero_lt_succ _
  | succ n ih => exact Nat.succ_lt_succ (ih _)

theorem value_brackets {count n depth : Nat} (hcount : 0 < count) (hdepth : n < depth) (rest : Text) :
    Json.value count depth (brackets n rest) = .ok (nested n, rest) := by
  -- on the brackets, each of which takes one level of the reader
  induction n generalizing depth rest with
  | zero =>
    obtain ⟨depth, rfl⟩ : ∃ d, depth = d + 1 := ⟨depth - 1, by omega⟩
    rfl
  | succ n ih =>
    obtain ⟨depth, rfl⟩ : ∃ d, depth = d + 1 := ⟨depth - 1, by omega⟩
    obtain ⟨count, rfl⟩ : ∃ c, count = c + 1 := ⟨count - 1, by omega⟩
    have hinner := ih (Nat.lt_of_succ_lt_succ hdepth) (']' :: rest)
    obtain ⟨t, ht⟩ := head?_brackets n (']' :: rest)
    show Json.arrayFrom (count + 1) (Json.value (count + 1) depth) (brackets n (']' :: rest)) = _
    have hskip : Json.skipSpace ('[' :: t) = '[' :: t := Json.skipSpace_of_head (by decide) t
    have hclose : Json.skipSpace (']' :: rest) = ']' :: rest := Json.skipSpace_of_head (by decide) rest
    have hitems : Json.items (Json.value (count + 1) depth) [] (count + 1)
        (brackets n (']' :: rest)) = .ok (.array [nested n], rest) := by
      unfold Json.items
      simp only [hinner, hclose]
      rfl
    rw [ht] at hitems ⊢
    unfold Json.arrayFrom
    simp only [hskip]
    exact hitems

theorem read_brackets {n : Nat} (hn : n < 127) :
    Json.read (String.ofList (brackets n [])) = .ok (nested n) := by
  have hvalue := value_brackets (Nat.zero_lt_of_lt (le_length_brackets n [])) hn []
  unfold Json.read
  simp only [String.toList_ofList]
  rw [show Json.maxDepth = 127 from rfl, hvalue]
  rfl

theorem depth_nested (n : Nat) : (Value.ofJson (nested n)).depth = n + 1 := by
  induction n with
  | zero => rfl
  | succ n ih =>
    show max (Value.ofJson (nested n)).depth 0 + 1 = _
    rw [ih, Nat.max_zero]

theorem each_nested {P : Value → Prop} (hobject : ∀ fields, P (.object fields)) (n : Nat) :
    (Value.ofJson (nested n)).Each P := by
  induction n with
  | zero => exact ⟨hobject _, trivial⟩
  | succ n ih => exact ⟨hobject _, ih, trivial⟩

/-- The program that takes a text from its input and reads it comes to hold a value as deep as the
reader goes, in which there are no numbers. -/
theorem exists_reachable_depth {n : Nat} (hn : n < 127) (options : Options) (world : World) :
    ∃ s, (start options [String.ofList (brackets n [])] world).Reachable s ∧
      s.options = options ∧ s.world = world ∧
      s.vars.entries = [("deep", Value.ofJson (nested n)),
        ("text", .string (String.ofList (brackets n [])))] := by
  have hinput : Statement.read "input text".toList = .ok (.input "text") := by decide +kernel
  have hjson : Statement.read "json load text to deep".toList = .ok (.readJson "text" "deep") := by
    decide +kernel
  -- the session at the start, with the text, and with the value of the text
  let first := start options [String.ofList (brackets n [])] world
  let second := first.takeInput "text"
  have htaken : Run.statement "input text".toList first = (.ok (), second) := by
    rw [Run.statement_of_ok hinput]
    rfl
  have hvalue : second.jsonValue "text" = .ok (Value.ofJson (nested n)) := by
    have hget : second.vars.get? "text" = some (.string (String.ofList (brackets n []))) := rfl
    unfold jsonValue
    rw [hget]
    show (Value.read (String.ofList (brackets n []))).mapError _ = _
    unfold Value.read
    rw [read_brackets hn]
    rfl
  obtain ⟨line, hline⟩ : ∃ line, second.readJson "text" "deep" =
      .ok ((second.set "deep" (Value.ofJson (nested n))).emit line) := by
    unfold readJson
    rw [hvalue]
    exact ⟨_, rfl⟩
  let third := (second.set "deep" (Value.ofJson (nested n))).emit line
  have hread : Run.statement "json load text to deep".toList second = (.ok (), third) := by
    rw [Run.statement_of_ok hjson]
    exact change_eq_ok_iff.mpr hline
  have hreach : first.Reachable third := by
    have hstep := Reachable.line (.line (.start (s := first)) "input text".toList)
      "json load text to deep".toList
    rw [htaken, hread] at hstep
    exact hstep
  exact ⟨third, hreach, rfl, rfl, rfl⟩

/-- Saved variables cannot be loaded if one of them nests too deep, although they were saved. -/
theorem load_error_of_depth (hs : s.InOrder) (hsave : s.save name = .ok t)
    (hdirectory : u.options.directory = s.options.directory)
    (hfiles : u.world.files = t.world.files) (hdeep : ∃ e ∈ s.vars.entries, 126 < e.2.depth) :
    ∃ cause, u.load name = .error cause := by
  have hmembers := savedMembers_of_save hs hsave hdirectory hfiles
  cases hread : Value.rereadFields? 126 s.vars.entries with
  | none =>
    rw [hread] at hmembers
    obtain ⟨cause, hcause⟩ := error_of_toOption hmembers
    refine ⟨cause, ?_⟩
    unfold load
    simp only [hcause]
    rfl
  | some members =>
    obtain ⟨e, he, hdepth⟩ := hdeep
    have hle := Value.depthOfFields_le_iff.mp (Value.depthOfFields_le_of_reread _ _ hread) e he
    omega

/-- An array inside 126 others is read from JSON text and saved, but what was saved is not loaded. -/
theorem load_refuses_brackets : ∃ s t,
    (fresh [String.ofList (brackets 126 [])]).Reachable s ∧
    (∀ e ∈ s.vars.entries, e.2.Each Value.Finite) ∧
    Run.statement (Statement.saveLine "state") s = (.ok (), t) ∧
    ∃ failure, (Run.statement (Statement.loadLine "state") (start .standard [] t.world)).1 =
      .error failure := by
  obtain ⟨s, hreach, hoptions, hworld, hentries⟩ :=
    exists_reachable_depth (by decide : 126 < 127) .standard ⟨⟨[], []⟩, .silent, .ofSeed 0⟩
  obtain ⟨t, hsave⟩ := @save_of_noFiles s (by rw [hoptions]; rfl) (by rw [hworld]) (by rw [hworld])
  have hdeep : ∃ e ∈ s.vars.entries, 126 < e.2.depth := by
    rw [hentries]
    exact ⟨_, List.mem_cons_self, by rw [depth_nested]; decide⟩
  obtain ⟨cause, hload⟩ := load_error_of_depth (u := start .standard [] t.world)
    ((inOrder_start _ _ _).reachable hreach) hsave (by rw [hoptions]; rfl) rfl hdeep
  refine ⟨s, t, hreach, ?_, by rw [statement_saveLine, change_eq_ok_iff, hsave], ?_⟩
  · rw [hentries]
    refine List.forall_mem_cons.mpr ⟨each_nested (fun _ => trivial) 126, ?_⟩
    exact List.forall_mem_singleton.mpr trivial
  · rw [statement_loadLine, Run.change_error hload]
    exact ⟨_, rfl⟩

/-! ## Numbers -/

def isFloat (x : Float) : Value → Bool
  | .float y => decide (y = x)
  | _ => false

theorem eq_of_isFloat {x : Float} {v : Value} (h : isFloat x v = true) : v = .float x := by
  cases v with
  | float y => rw [of_decide_eq_true h]
  | _ => cases h

theorem entries_of_isFloat {es : Entries Value} {key : String} {x : Float}
    (h : es.map (fun e => (e.1, isFloat x e.2)) = [(key, true)]) : es = [(key, .float x)] := by
  cases es with
  | nil => cases h
  | cons e es =>
    cases es with
    | nil =>
      obtain ⟨k, v⟩ := e
      simp only [List.map_cons, List.map_nil, List.cons.injEq, Prod.mk.injEq, and_true] at h
      obtain ⟨rfl, hv⟩ := h
      rw [eq_of_isFloat hv]
    | cons d es => exact absurd (congrArg List.length h) (by simp)

theorem readBack_iff {x : Float} : (Value.float x).ReadBack ↔
    (Value.read (Layout.interchange.text x)).toOption.any (isFloat x) = true := by
  show Value.read (Layout.interchange.text x) = .ok (.float x) ↔ _
  cases Value.read (Layout.interchange.text x) with
  | error e => simp [Except.toOption]
  | ok v =>
    constructor
    · intro h
      cases h
      simp [Except.toOption, isFloat]
    · intro h
      rw [eq_of_isFloat h]

def holding (text : String) : Session :=
  (Run.lines [("var ratio = " ++ text).toList] 1 (fresh [])).2

theorem reachable_holding (text : String) : (fresh []).Reachable (holding text) := .lines .start _ 1

theorem save_holding {text : String}
    (h : (holding text).options.directory = none ∧ (holding text).world.files.here = [] ∧
      (holding text).world.files.nodes = []) :
    ∃ t, Run.statement (Statement.saveLine "state") (holding text) = (.ok (), t) := by
  obtain ⟨hdirectory, hhere, hnodes⟩ := h
  obtain ⟨t, ht⟩ := save_of_noFiles hdirectory hhere hnodes
  exact ⟨t, by rw [statement_saveLine, change_eq_ok_iff, ht]⟩

/-! ## What is restored -/

/-- If a session, whatever lines it came about by, saves its variables, then a fresh session that
looks for files in the same directory loads just these variables with the same values if and only if
no value nests more than 126 objects deep and every floating-point number in them is read back from
the text it was written as. -/
theorem load_restores_iff {options : Options} {input : List String} {world : World}
    {s t : Session} {name : String} (hreach : (start options input world).Reachable s)
    (hsave : Run.statement (Statement.saveLine name) s = (.ok (), t))
    (options' : Options) (input' : List String) (world' : World)
    (hdirectory : options'.directory = s.options.directory)
    (hfiles : world'.files = t.world.files) :
    (∃ u, Run.statement (Statement.loadLine name) (start options' input' world') = (.ok (), u) ∧
      u.vars = s.vars) ↔
    ∀ e ∈ s.vars.entries, e.2.depth ≤ 126 ∧ e.2.Each Value.ReadBack := by
  rw [statement_saveLine, change_eq_ok_iff] at hsave
  rw [← load_of_save_iff ((inOrder_start options input world).reachable hreach) hsave
    (u := start options' input' world') hdirectory hfiles rfl]
  simp only [statement_loadLine, change_eq_ok_iff]

/-- One half survives: it is written as `0.5` and read back from that. -/
theorem load_restores_half : ∃ s t u, (fresh []).Reachable s ∧ s.vars.entries = [("ratio", .float 0.5)] ∧
    Run.statement (Statement.saveLine "state") s = (.ok (), t) ∧
    Run.statement (Statement.loadLine "state") (start .standard [] t.world) = (.ok (), u) ∧
    u.vars = s.vars := by
  obtain ⟨t, hsave⟩ := @save_holding "0.5" (by decide +kernel)
  have hentries : (holding "0.5").vars.entries = [("ratio", .float 0.5)] :=
    entries_of_isFloat (by decide +kernel)
  have hrestored : ∀ e ∈ (holding "0.5").vars.entries, e.2.depth ≤ 126 ∧ e.2.Each Value.ReadBack := by
    rw [hentries]
    intro e he
    rw [List.mem_singleton.mp he]
    exact ⟨Nat.zero_le _, readBack_iff.mpr (by decide +kernel)⟩
  obtain ⟨u, hload, hvars⟩ := (load_restores_iff (reachable_holding "0.5") hsave .standard []
    t.world (by decide +kernel) rfl).mpr hrestored
  exact ⟨_, t, u, reachable_holding "0.5", hentries, hsave, hload, hvars⟩

/-- A number of sixteen digits that does not: the text that it is written as is read as the next
number above it. -/
theorem load_alters_number : ∃ s t, (fresh []).Reachable s ∧
    s.vars.entries = [("ratio", .float 0.9452706955539223)] ∧
    (∀ e ∈ s.vars.entries, e.2.Each Value.Finite) ∧
    Run.statement (Statement.saveLine "state") s = (.ok (), t) ∧
    ¬ ∃ u, Run.statement (Statement.loadLine "state") (start .standard [] t.world) = (.ok (), u) ∧
      u.vars = s.vars := by
  obtain ⟨t, hsave⟩ := @save_holding "0.9452706955539223" (by decide +kernel)
  have hentries : (holding "0.9452706955539223").vars.entries =
      [("ratio", .float 0.9452706955539223)] := entries_of_isFloat (by decide +kernel)
  refine ⟨_, t, reachable_holding _, hentries, ?_, hsave, ?_⟩
  · rw [hentries]
    intro e he
    rw [List.mem_singleton.mp he]
    show (0.9452706955539223 : Float).isFinite = true
    decide +kernel
  · rintro ⟨u, hload, hvars⟩
    have hsaved := hsave
    rw [statement_saveLine, change_eq_ok_iff] at hsaved
    rw [statement_loadLine, change_eq_ok_iff] at hload
    have horder := (inOrder_start .standard [] (fresh []).world).reachable
      (reachable_holding "0.9452706955539223")
    have hdirectory : Options.standard.directory =
        (holding "0.9452706955539223").options.directory := by decide +kernel
    have hrestored := (load_of_save_iff horder hsaved (u := start .standard [] t.world) hdirectory
      rfl rfl).mp ⟨u, hload, hvars⟩
    rw [hentries] at hrestored
    have hread := readBack_iff.mp (hrestored _ List.mem_cons_self).2
    exact absurd hread (by decide +kernel)

end Session

end LineScript
