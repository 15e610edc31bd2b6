import LineScript.Proofs.Program.Annotations
import LineScript.Proofs.Run.Trace

/-!
# How deep a run goes

A run ends, and at each of its points the rows of lines that are running one inside the other are
bounded by the length of the program and the greatest number of active calls (`depth_bounded`).  A
row is at least two lines shorter than the row around it, unless it is the body of a function; and
that is shorter than the program.
-/

namespace LineScript.Point

open Block

/-- How many rows of lines are running, one inside the other. -/
def activations (p : Point) : Nat := p.waiting.length + 1

def callsIn (ws : List Waiting) : Nat := (ws.filterMap (·.reason.span?)).countP Span.isCall

/-- A row that has `size` lines to run fits between the header and the closer of the line that waits
for it, and so on outwards; the body of a function has no more than `n` lines, and neither have the
outermost lines. -/
def Fits (n : Nat) : List Waiting → Nat → Prop
  | [], size => size ≤ n
  | ⟨_, .branch, rest, _⟩ :: ws, size => Fits n ws (size + 2 + rest.size)
  | ⟨_, .loop body _, rest, _⟩ :: ws, size =>
    size ≤ body.size ∧ Fits n ws (body.size + 2 + rest.size)
  | ⟨_, .call _, rest, _⟩ :: ws, size => size ≤ n ∧ Fits n ws (rest.size + 1)

variable {n size size' : Nat} {ws : List Waiting} {p q : Point} {rest : Block}

theorem Fits.mono (h : Fits n ws size) (hsize : size' ≤ size) : Fits n ws size' := by
  induction ws generalizing size size' with
  | nil => exact Nat.le_trans hsize h
  | cons w ws ih =>
    obtain ⟨line, reason, rest, next⟩ := w
    cases reason with
    | branch => exact ih h (by omega)
    | loop body turns => exact ⟨Nat.le_trans hsize h.1, h.2⟩
    | call name => exact ⟨Nat.le_trans hsize h.1, h.2⟩

theorem callsIn_call (line next : Nat) (name : String) (rest : Block) (ws : List Waiting) :
    callsIn (⟨line, .call name, rest, next⟩ :: ws) = callsIn ws + 1 := Span.countP_call name _

/-- Between two calls each row takes two lines more than the one inside it. -/
theorem Fits.activations_le (h : Fits n ws size) :
    ws.length + 1 + size / 2 ≤ (callsIn ws + 1) * (n / 2 + 1) := by
  -- on the lines that wait, from the innermost outwards
  induction ws generalizing size with
  | nil =>
    have hsize : size ≤ n := h
    show 0 + 1 + size / 2 ≤ (0 + 1) * (n / 2 + 1)
    omega
  | cons w ws ih =>
    obtain ⟨line, reason, rest, next⟩ := w
    rw [List.length_cons]
    cases reason with
    | branch =>
      have hrow : ws.length + 1 + (size + 2 + rest.size) / 2 ≤ (callsIn ws + 1) * (n / 2 + 1) :=
        ih h
      show ws.length + 1 + 1 + size / 2 ≤ (callsIn ws + 1) * (n / 2 + 1)
      omega
    | loop body turns =>
      obtain ⟨hbody, hrow⟩ := h
      have hrow := ih hrow
      show ws.length + 1 + 1 + size / 2 ≤ (callsIn ws + 1) * (n / 2 + 1)
      omega
    | call name =>
      -- the row that is called makes up for the one call more
      obtain ⟨hbody, hrow⟩ := h
      have hrow := ih hrow
      rw [callsIn_call, Nat.add_mul, Nat.one_mul]
      omega

theorem Fits.lines_le (h : Fits n ws size) :
    ws.length + (size + 1) / 2 ≤ (callsIn ws + 1) * ((n + 1) / 2) := by
  induction ws generalizing size with
  | nil =>
    have hsize : size ≤ n := h
    show 0 + (size + 1) / 2 ≤ (0 + 1) * ((n + 1) / 2)
    omega
  | cons w ws ih =>
    obtain ⟨line, reason, rest, next⟩ := w
    rw [List.length_cons]
    -- a row inside a branch or a loop has two lines less; inside a call there is a function's body again
    cases reason with
    | branch =>
      have hrow : ws.length + (size + 2 + rest.size + 1) / 2 ≤ (callsIn ws + 1) * ((n + 1) / 2) :=
        ih h
      show ws.length + 1 + (size + 1) / 2 ≤ (callsIn ws + 1) * ((n + 1) / 2)
      omega
    | loop body turns =>
      obtain ⟨hbody, hrow⟩ := h
      have hrow := ih hrow
      show ws.length + 1 + (size + 1) / 2 ≤ (callsIn ws + 1) * ((n + 1) / 2)
      omega
    | call name =>
      obtain ⟨hbody, hrow⟩ := h
      have hrow := ih hrow
      rw [callsIn_call, Nat.add_mul, Nat.one_mul]
      omega

/-! ## Steps -/

theorem fits_resume {w : Waiting} {block : Block} {number : Nat} {s : Session}
    (h : Fits n (w :: ws) size) :
    Fits n (Point.resume ⟨block, number, w :: ws, s⟩ w ws).waiting
      (Point.resume ⟨block, number, w :: ws, s⟩ w ws).block.size := by
  obtain ⟨line, reason, rest, next⟩ := w
  cases reason with
  | branch => exact Fits.mono h (Nat.le_add_left _ _)
  | loop body turns =>
    cases turns with
    | zero => exact Fits.mono h.2 (Nat.le_add_left _ _)
    | succ turns => exact ⟨Nat.le_refl _, h.2⟩
  | call name => exact Fits.mono h.2 (Nat.le_succ _)

theorem fits_obey {st : Statement} (h : Fits n p.waiting (rest.size + 1))
    (hstored : ∀ name f, p.session.functions.get? name = some f → f.body.length ≤ n)
    (hstep : p.obey rest st = .goes q) : Fits n q.waiting q.block.size := by
  rcases goes_of_obey hstep with ⟨name, f, -, hf, -, rfl⟩ | ⟨t, -, -, rfl⟩
  · -- the body need not fit into the row that calls it, but it is a stored one
    refine ⟨?_, h⟩
    show (ofLines _ f.body).size ≤ n
    rw [← length_lines, lines_ofLines]
    exact hstored name f (Run.get?_of_function hf)
  · exact h.mono (Nat.le_succ _)

theorem Fits.step (h : Fits n p.waiting p.block.size)
    (hstored : ∀ name f, p.session.functions.get? name = some f → f.body.length ≤ n)
    (hstep : p.step = .goes q) : Fits n q.waiting q.block.size := by
  -- the header of a block and its closer are two lines that the row inside has less
  cases goes_of_step hstep with
  | resumed => exact fits_resume h
  | silent => exact Fits.mono h (Nat.le_succ _)
  | obeyed _ _ hobey => exact fits_obey h hstored hobey
  | @stored opener body closer rest number ws =>
    have hrow : Fits n ws (body.size + rest.size + 2) := h
    exact hrow.mono (show rest.size ≤ _ by omega)
  | @chosen opener yes closer rest number ws =>
    have hrow : Fits n ws (yes.size + rest.size + 2) := h
    exact hrow.mono (show yes.size + 2 + rest.size ≤ _ by omega)
  | @passed opener yes closer rest number ws =>
    have hrow : Fits n ws (yes.size + rest.size + 2) := h
    exact hrow.mono (show rest.size ≤ _ by omega)
  | @chosen_yes opener yes divider no closer rest number ws =>
    have hrow : Fits n ws (yes.size + no.size + rest.size + 3) := h
    exact hrow.mono (show yes.size + 2 + rest.size ≤ _ by omega)
  | @chosen_no opener yes divider no closer rest number ws =>
    have hrow : Fits n ws (yes.size + no.size + rest.size + 3) := h
    exact hrow.mono (show no.size + 2 + rest.size ≤ _ by omega)
  | @idle opener body closer rest number ws =>
    have hrow : Fits n ws (body.size + rest.size + 2) := h
    exact hrow.mono (show rest.size ≤ _ by omega)
  | @turning opener body closer rest number ws =>
    have hrow : Fits n ws (body.size + rest.size + 2) := h
    exact ⟨Nat.le_refl _, hrow.mono (show body.size + 2 + rest.size ≤ _ by omega)⟩

theorem Reaches.exists_walk (h : p.Reaches q) : ∃ steps, p.walk steps = q := by
  induction h with
  | here => exact ⟨0, rfl⟩
  | next _ hstep ih =>
    obtain ⟨steps, rfl⟩ := ih
    refine ⟨steps + 1, ?_⟩
    unfold walk
    rw [hstep]

end LineScript.Point

namespace LineScript.Program

open Block Point

variable {options : Options} {input : List String} {world : World} {source : String} {p : Point}

def bodyLength (source : String) : Nat := (lines source).length - 1

theorem bodyLength_of_body {rest : List Text} (h : body source = .ok rest) :
    bodyLength source = rest.length := by
  obtain ⟨first, hlines⟩ := lines_of_body h
  unfold bodyLength
  rw [hlines, List.length_cons, Nat.add_sub_cancel]

theorem StoredFrom.length_le {scan : Scan} {all : List Text} {name : String} {f : Function}
    (h : StoredFrom scan all name f) : f.body.length ≤ all.length - 1 := by
  obtain ⟨closer, after, hcloser, -⟩ := h.closer
  have hlt := lt_length_of_getElem? hcloser
  omega

theorem Passes.fits (h : Passes options input world source p) :
    Fits (bodyLength source) p.waiting p.block.size := by
  obtain ⟨rest, hbody, hreach⟩ := h
  induction hreach with
  | here =>
    have hsize : (ofLines options.scan rest).size = bodyLength source := by
      rw [← length_lines, lines_ofLines, bodyLength_of_body hbody]
    exact Nat.le_of_eq hsize
  | next hq hstep ih =>
    have hknows := (Passes.sound ⟨rest, hbody, hq⟩).knows
    exact ih.step (fun name f hf => (hknows.stored name f hf).length_le) hstep

theorem Passes.callsIn_le (h : Passes options input world source p) :
    callsIn p.waiting ≤ options.maxCalls := by
  obtain ⟨rest, -, hreach⟩ := h
  have hfirst := marked_first ((Session.start options input world).emit startMark) rest 1
  exact (hfirst.reaches hreach).countP_le

/-- Every run of a program ends, with or without a failure, after some number of steps.  At each of
its points no more rows of lines are running one inside the other than there may be active calls and
one, times half the lines of the program and one; and a failure that is not for want of the
directive names no more lines than there may be active calls and one, times half the lines of the
program. -/
theorem depth_bounded (options : Options) (input : List String) (world : World) (source : String) :
    Ended options input world source (execute options input world source).1
        (execute options input world source).2 ∧
      (∀ rest, body source = .ok rest →
        ∃ steps, ((start options input world rest).walk steps).Final) ∧
      (∀ p, Passes options input world source p →
        p.activations ≤ (options.maxCalls + 1) * (bodyLength source / 2 + 1)) ∧
      ∀ failure, (execute options input world source).1 = .error failure →
        failure.error.kind ≠ .directive →
        failure.lines.length ≤ (options.maxCalls + 1) * ((bodyLength source + 1) / 2) := by
  have hended := ended_execute options input world source
  refine ⟨hended, ?_, ?_, ?_⟩
  · intro rest hbody
    generalize (execute options input world source).1 = r at hended
    generalize (execute options input world source).2 = s at hended
    have hfinal : ∃ p, Passes options input world source p ∧ p.Final := by
      cases hended with
      | undirected herror => cases hbody.symm.trans herror
      | done hpasses hstep => exact ⟨_, hpasses, fun q hq => by rw [hstep] at hq; cases hq⟩
      | failed hpasses hstep => exact ⟨_, hpasses, .of_fails hstep⟩
    obtain ⟨p, ⟨rest', hbody', hreach⟩, hp⟩ := hfinal
    obtain rfl : rest' = rest := Except.ok.inj (hbody'.symm.trans hbody)
    obtain ⟨steps, rfl⟩ := hreach.exists_walk
    exact ⟨steps, hp⟩
  · intro p hpasses
    have hrows := hpasses.fits.activations_le
    have hcalls := Nat.mul_le_mul_right (bodyLength source / 2 + 1)
      (Nat.add_le_add_right hpasses.callsIn_le 1)
    exact Nat.le_trans (Nat.le_trans (Nat.le_add_right _ _) hrows) hcalls
  · intro failure hfailure hkind
    rw [hfailure] at hended
    generalize (execute options input world source).2 = s at hended
    cases hended with
    | undirected hbody =>
      obtain rfl := body_error hbody
      exact absurd rfl hkind
    | @failed p e t hpasses hstep =>
      -- the line that fails is in the innermost row
      obtain ⟨hsize, -⟩ := hpasses.sound.line_of_fails hstep
      have hrows := hpasses.fits.lines_le
      have hcalls := Nat.mul_le_mul_right ((bodyLength source + 1) / 2)
        (Nat.add_le_add_right hpasses.callsIn_le 1)
      rw [List.length_cons, List.length_map]
      omega

end LineScript.Program
