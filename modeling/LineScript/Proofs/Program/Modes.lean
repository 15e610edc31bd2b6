import LineScript.Proofs.Block.Separated
import LineScript.Proofs.Program.Layout

/-!
# Programs that run alike in both modes

The mode of searching is looked at where lines are cut into blocks, and nowhere else.  So two runs that
differ in the mode alone go the same way as long as all the lines they cut are without nesting of one
kind: the lines of the program, and the bodies of stored functions, which are stretches of it.  The
two runs go side by side (`Run.Indifferent`): they have the same result, and they leave sessions that
differ in the mode alone.
-/

namespace LineScript

open Block Run

def Session.withScan (s : Session) (scan : Scan) : Session :=
  { s with options := { s.options with scan } }

/-- The bodies of all stored functions are without nesting of one kind. -/
def Session.Separated (s : Session) : Prop :=
  ∀ name f, s.functions.get? name = some f → Block.Separated f.body

/-- In sessions whose functions are without nesting of one kind, and which it leaves so, a step does
the same whatever the mode. -/
def Run.Indifferent {α : Type} (scan : Scan) (m : Run α) : Prop :=
  ∀ s : Session, s.Separated →
    m (s.withScan scan) = ((m s).1, (m s).2.withScan scan) ∧ (m s).2.Separated

def SeparatedRows (lines lines' : List Text) : Prop := lines = lines' ∧ Block.Separated lines

/-! ## Trees without nesting of one kind -/

theorem separated_of_block {opener closer : Text} {lines rest : List Text}
    (h : Block.Separated (opener :: (lines ++ closer :: rest))) :
    Block.Separated lines ∧ Block.Separated rest := by
  constructor
  · exact h.part ⟨[opener], closer :: rest, by simp⟩
  · exact h.part ⟨opener :: (lines ++ [closer]), [], by simp⟩

theorem like_of_separated {b : Block} (hb : Block.Separated b.lines) : Like SeparatedRows b b := by
  -- on the tree: its parts are stretches of its lines
  induction b with
  | done => exact .done
  | line text rest ihrest => exact .line rfl (ihrest (hb.part (List.suffix_cons _ _).isInfix))
  | func opener body closer rest _ ihrest =>
    have hlines : Block.Separated (opener :: (body.lines ++ closer :: rest.lines)) := hb
    obtain ⟨hbody, hrest⟩ := separated_of_block hlines
    exact .func rfl ⟨rfl, hbody⟩ rfl (ihrest hrest)
  | branch opener yes closer rest ihyes ihrest =>
    have hlines : Block.Separated (opener :: (yes.lines ++ closer :: rest.lines)) := hb
    obtain ⟨hyes, hrest⟩ := separated_of_block hlines
    exact .branch rfl (ihyes hyes) (ihrest hrest)
  | divided opener yes divider no closer rest ihyes ihno ihrest =>
    have hlines : Block.Separated
        (opener :: ((yes.lines ++ divider :: no.lines) ++ closer :: rest.lines)) := by
      simpa [Block.lines] using hb
    obtain ⟨hgroups, hrest⟩ := separated_of_block hlines
    have hyes : Block.Separated yes.lines := hgroups.part (List.prefix_append _ _).isInfix
    have hno : Block.Separated no.lines :=
      hgroups.part ((List.suffix_cons divider _).trans (List.suffix_append _ _)).isInfix
    exact .divided rfl (ihyes hyes) (ihno hno) (ihrest hrest)
  | loop opener body closer rest ihbody ihrest =>
    have hlines : Block.Separated (opener :: (body.lines ++ closer :: rest.lines)) := hb
    obtain ⟨hbody, hrest⟩ := separated_of_block hlines
    exact .loop rfl (ihbody hbody) (ihrest hrest)
  | unclosed kind opener remainder => exact .unclosed kind rfl

theorem cutAlike_separated (scan scan' : Scan) : CutAlike SeparatedRows scan scan' := by
  rintro lines _ ⟨rfl, h⟩
  have hsame : ofLines scan lines = ofLines scan' lines :=
    (ofLines_eq_flat scan h).trans (ofLines_eq_flat scan' h).symm
  have hblock : Block.Separated (ofLines scan' lines).lines := by
    rw [lines_ofLines]
    exact h
  rw [hsame]
  exact like_of_separated hblock

/-! ## Sessions that differ in the mode -/

theorem Session.Separated.twins {s : Session} (hs : s.Separated) (scan : Scan) :
    Session.Twins SeparatedRows s.options.scan scan s (s.withScan scan) := by
  refine ⟨rfl, rfl, fun name => ?_⟩
  show Option.Rel _ (s.functions.get? name) (s.functions.get? name)
  cases hf : s.functions.get? name with
  | none => exact .none
  | some f => exact .some ⟨rfl, rfl, hs name f hf⟩

theorem Session.Twins.withScan {scan scan' : Scan} {s t : Session}
    (h : Session.Twins SeparatedRows scan scan' s t) :
    t = s.withScan scan' ∧ s.Separated := by
  constructor
  · -- rows in the relation are equal, so that only the mode is left to differ
    have hfunctions : t.functions = s.functions := by
      apply Table.eq_of_get?
      intro name
      have hstored := h.functions name
      cases hf : s.functions.get? name with
      | none =>
        rw [hf] at hstored
        exact eq_none_of_rel_none hstored
      | some f =>
        rw [hf] at hstored
        obtain ⟨f', hf', hfirst, hbody, -⟩ := exists_of_rel_some hstored
        rw [hf']
        cases f
        cases f'
        cases hfirst
        cases hbody
        rfl
    rw [h.code, hfunctions]
    rfl
  · intro name f hf
    have hstored := h.functions name
    rw [hf] at hstored
    obtain ⟨f', -, hlike⟩ := exists_of_rel_some hstored
    exact hlike.body.2

theorem Run.Indifferent.of_twin {α : Type} {m : Run α} {scan : Scan}
    (h : ∀ before, Run.Twin (Session.Twins SeparatedRows before scan) m m) :
    Run.Indifferent scan m := by
  intro s hs
  obtain ⟨hresult, hleft⟩ := h s.options.scan s (s.withScan scan) (hs.twins scan)
  obtain ⟨hsession, hseparated⟩ := hleft.withScan
  exact ⟨Prod.ext hresult hsession, hseparated⟩

namespace Program

variable {source : String} {rest : List Text}

theorem plain_of_isSilent {line : Text} (h : isSilent line = true) : Plain line := by
  intro mark
  rw [← Bool.not_eq_true]
  intro hmarks
  -- a keyword would be in front, and none starts as a comment does
  have hpositive : ∀ m ∈ Mark.all, 0 < m.keyword.length ∧
      (Text.lower m.keyword)[0]? ≠ some '#' := by decide
  obtain ⟨hlength, hstart⟩ := hpositive mark mark.mem_all
  have hfirst := getElem?_of_isKeywordLine hmarks hlength
  unfold isSilent at h
  split at h
  · next hblank =>
    rw [hblank] at hfirst
    have hnone : (Text.lower mark.keyword)[0]? = none := hfirst.symm
    rw [List.getElem?_eq_none_iff, Text.length_lower] at hnone
    omega
  · next c rest htrim =>
    obtain rfl : c = '#' := by simpa using h
    rw [htrim] at hfirst
    exact hstart hfirst.symm

theorem separated_of_body (h : Block.Separated (Text.lines source.toList))
    (hbody : body source = .ok rest) : Block.Separated rest := by
  obtain ⟨first, hlines⟩ := lines_of_body hbody
  -- what is left out of a source separates no openers
  have hseparated : Block.Separated (Program.lines source) := by
    apply h.filter
    intro line _ hsilent
    exact plain_of_isSilent (by simpa using hsilent)
  rw [hlines] at hseparated
  exact hseparated.part (List.suffix_cons first rest).isInfix

theorem indifferent_run (h : Block.Separated (Text.lines source.toList)) (scan : Scan) :
    Run.Indifferent scan (run source) := by
  apply Run.Indifferent.of_twin
  intro before
  apply twin_run (cutAlike_separated before scan)
  cases hbody : body source with
  | error e => exact .inl ⟨e, rfl, rfl⟩
  | ok rest => exact .inr ⟨rest, rest, rfl, rfl, rfl, separated_of_body h hbody⟩

/-- If between any two openers of one kind in a source stands a closer of that kind, then its run puts
out the same lines, or fails with the same failure, in both modes; and the sessions that it leaves
differ in the mode alone. -/
theorem execute_flat_eq_nested (h : Block.Separated (Text.lines source.toList)) (options : Options)
    (input : List String) (world : World) :
    execute { options with scan := .flat } input world source =
      ((execute { options with scan := .nested } input world source).1,
        (execute { options with scan := .nested } input world source).2.withScan .flat) := by
  -- nothing is stored at the start
  have hstart : (Session.start { options with scan := .nested } input world).Separated := by
    intro name f hf
    cases hf
  have hrun := (indifferent_run h .flat _ hstart).1
  unfold execute
  have hflat : Session.start { options with scan := .flat } input world =
      (Session.start { options with scan := .nested } input world).withScan .flat := rfl
  rw [hflat, hrun]
  rfl

/-- A source in which a function is called that holds a branch with a divider, a loop with its closer
in the one group and a loop without in the other. -/
def alternating : String :=
  "linex init project\nfunc f begin\nif 1 == 2 begin\nloop 2 begin\nend loop\nelse\n" ++
    "loop 1 begin\nend if\nend func\ncall f\n"

/-- The loop without a closer fails in flat mode as it does in nested mode, in the branch and in the
call. -/
theorem execute_alternating :
    Block.Separated (Text.lines alternating.toList) ∧
      (execute { Options.standard with scan := .flat } [] ⟨⟨[], []⟩, .silent, .ofSeed 0⟩
        alternating).1 = .error ⟨.unclosedBlock .loop, [6, 2, 9]⟩ := by
  have hseparated : Block.Separated (Text.lines alternating.toList) := by decide +kernel
  refine ⟨hseparated, ?_⟩
  rw [execute_flat_eq_nested hseparated]
  decide +kernel

end Program

end LineScript
