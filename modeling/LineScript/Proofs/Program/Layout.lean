import LineScript.Proofs.Program.Annotations
import LineScript.Proofs.Run.Twin

/-!
# Layout

Two sources have one layout-free text when the lines of them that say something are the same but for
outer blanks: they may differ in indentation, in the ends of lines, and in blank lines and comments
anywhere.  Their runs are the same (`execute_of_sameText`), though a stored function holds its lines
with the blanks that they stand with, and they are cut and read again at each call.
-/

namespace LineScript.Program

open Block

theorem twin_run {a b : String} {rows : List Text → List Text → Prop} {scan scan' : Scan}
    (hcut : CutAlike rows scan scan')
    (hbodies : (∃ e, body a = .error e ∧ body b = .error e) ∨
      ∃ rest rest', body a = .ok rest ∧ body b = .ok rest' ∧ rows rest rest') :
    Run.Twin (Session.Twins rows scan scan') (run a) (run b) := by
  intro s t hst
  rcases hbodies with ⟨e, hbody, hbody'⟩ | ⟨rest, rest', hbody, hbody', hrest⟩
  · rw [run_of_no_body hbody, run_of_no_body hbody']
    exact ⟨rfl, hst⟩
  · rw [run_of_body hbody, run_of_body hbody']
    have hstarted := (Run.Twin.of_codeFree (.emit startMark) s t hst).2
    have hlines := Run.Twin.lines hcut hrest 1
    exact (hlines.bind fun _ => .of_codeFree (.emit endMark)) _ _ hstarted

/-- The lines of two sources that say something are the same but for outer blanks. -/
def SameText (a b : String) : Prop := (lines a).map Text.trim = (lines b).map Text.trim

instance (a b : String) : Decidable (SameText a b) :=
  inferInstanceAs (Decidable ((lines a).map Text.trim = (lines b).map Text.trim))

variable {a b : String}

theorem SameText.rows (h : SameText a b) : SameRows (lines a) (lines b) := by
  have htrimmed : List.Forall₂ (· = ·) ((lines a).map Text.trim) ((lines b).map Text.trim) := by
    rw [List.forall₂_eq_eq_eq]
    exact h
  rw [List.forall₂_map_left_iff, List.forall₂_map_right_iff] at htrimmed
  exact htrimmed

theorem SameText.body_cases (h : SameText a b) :
    (∃ e, body a = .error e ∧ body b = .error e) ∨
      ∃ rest rest', body a = .ok rest ∧ body b = .ok rest' ∧ SameRows rest rest' := by
  have hrows := h.rows
  unfold body
  generalize lines a = la at hrows ⊢
  generalize lines b = lb at hrows ⊢
  cases hrows with
  | nil => exact .inl ⟨_, rfl, rfl⟩
  | @cons first first' rest rest' hfirst hrest =>
    have hdirective : Text.trim first = Text.trim first' := hfirst
    simp only [hdirective]
    split
    · exact .inr ⟨rest, rest', rfl, rfl, hrest⟩
    · exact .inl ⟨_, rfl, rfl⟩

theorem execute_eq (options : Options) (input : List String) (world : World) (source : String) :
    execute options input world source =
      ((run source (.start options input world)).1.map fun _ =>
        (run source (.start options input world)).2.output.toList,
        (run source (.start options input world)).2) := rfl

/-- Runs of sources that differ in layout alone put out the same lines or fail with the same
failure, the lines that it names included.  They leave sessions that are the same, their files too,
but for the blanks around the lines of stored functions. -/
theorem execute_of_sameText (h : SameText a b) (options : Options) (input : List String)
    (world : World) :
    (execute options input world a).1 = (execute options input world b).1 ∧
    (execute options input world a).2.world = (execute options input world b).2.world ∧
    Session.Twins SameRows options.scan options.scan (execute options input world a).2
      (execute options input world b).2 := by
  -- nothing is stored at the start
  have hstart : Session.Twins SameRows options.scan options.scan (.start options input world)
      (.start options input world) := ⟨rfl, rfl, fun _ => .none⟩
  obtain ⟨hresult, hleft⟩ := twin_run (cutAlike_same options.scan) h.body_cases _ _ hstart
  have houtput : (run b (.start options input world)).2.output =
      (run a (.start options input world)).2.output := by
    rw [hleft.code]
    rfl
  have hworld : (run b (.start options input world)).2.world =
      (run a (.start options input world)).2.world := by
    rw [hleft.code]
    rfl
  refine ⟨?_, hworld.symm, hleft⟩
  rw [execute_eq, execute_eq, hresult, houtput]

/-- A source in which a function reads an input and then calls a function that is missing. -/
def bare : String :=
  "linex init project\nfunc f begin\nif 1 == 1 begin\ninput y\ncall g\nend if\nend func\n" ++
    "input x\ncall f"

/-- The same indented, with other ends of lines and with comments and blank lines in the function. -/
def laidOut : String :=
  "# a program\r\n\r\n  linex init project\r\n" ++
    "func f begin \r\n\t# read\r\n\tif 1 == 1 begin\r\n\r\n\t\tinput y\t\r\n    call g\r\n" ++
    "\t# done\r\n  end if\r\nend func\r\n\r\ninput x  \r\n  call f\r\n\r\n"

/-- Blank lines and comments in the function move none of the lines that the failure names. -/
theorem execute_laidOut :
    SameText bare laidOut ∧
      (execute .standard [] ⟨⟨[], []⟩, .silent, .ofSeed 0⟩ laidOut).1 =
        .error ⟨.undefinedFunction "g", [4, 2, 8]⟩ := by
  have hsame : SameText bare laidOut := by decide +kernel
  refine ⟨hsame, ?_⟩
  rw [← (execute_of_sameText hsame .standard [] ⟨⟨[], []⟩, .silent, .ofSeed 0⟩).1]
  decide +kernel

end LineScript.Program
