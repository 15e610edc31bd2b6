import LineScript.Proofs.Program.Lines
import LineScript.Proofs.Run.Moves
import Mathlib.Tactic.Common

/-!
# The lines that a failure names

A run of a program goes through points that are in the program (`Lines`), and if it fails, it fails at
one of them.  So the first line that the failure names is the one that was about to run, and each
further one encloses the line before it.
-/

namespace LineScript.Program

open Block

variable {scan : Scan} {all : List Text} {options : Options} {input : List String} {world : World}
  {source : String} {rest : List Text}

/-! ## Where a point is -/

/-- Line numbers as a failure lists them: each is behind the directive, and each but the first is that
of a line which encloses the line before it. -/
structure Traced (scan : Scan) (all : List Text) (numbers : List Nat) : Prop where
  lines : ∀ n ∈ numbers, 1 ≤ n ∧ n < all.length
  chain : numbers.IsChain fun inner outer => Encloses scan all outer inner

theorem traced_of_nested {ws : List Waiting} {n high : Nat} (hpositive : 1 ≤ n)
    (hlength : n < all.length) (hhigh : n < high) (h : Nested scan all ws n high) :
    Traced scan all (n :: ws.map Waiting.line) := by
  -- from the innermost line outwards: the line that waits next encloses the one before
  induction ws generalizing n high with
  | nil =>
    refine ⟨fun k hk => ?_, List.IsChain.singleton n⟩
    obtain rfl := List.mem_singleton.mp hk
    exact ⟨hpositive, hlength⟩
  | cons w ws ih =>
    obtain ⟨hencloses, hwaits, hnested⟩ := h
    have hlater : w.line < w.next + w.rest.size :=
      Nat.lt_of_lt_of_le hwaits.later (Nat.le_add_right _ _)
    obtain ⟨hlines, hchain⟩ := ih hwaits.positive hwaits.line hlater hnested
    refine ⟨fun k hk => ?_, List.isChain_cons_cons.mpr ⟨hencloses n (Nat.le_refl n) hhigh, hchain⟩⟩
    cases hk with
    | head => exact ⟨hpositive, hlength⟩
    | tail _ hk => exact hlines k hk

theorem Sound.line_of_fails {p : Point} {e : Error} {t : Session} (h : Sound scan all p)
    (hstep : p.step = .fails e t) :
    0 < p.block.size ∧ ∃ text, p.block.lines.head? = some text ∧ all[p.number]? = some text := by
  obtain ⟨b, n, ws, s⟩ := p
  have hfront : b.lines <+: all.drop n := h.placed.lines
  have hsize : b.lines.length = b.size := length_lines b
  cases hlines : b.lines with
  | nil =>
    -- without lines the block is done, and its end does not fail
    cases b with
    | done => cases ws <;> cases hstep
    | _ => cases hlines
  | cons text more =>
    rw [hlines] at hfront hsize
    refine ⟨?_, text, ?_, getElem?_of_front hfront⟩
    · show 0 < b.size
      rw [← hsize]
      exact Nat.succ_pos _
    · rfl

theorem Sound.traced {p : Point} {e : Error} {t : Session} (h : Sound scan all p)
    (hstep : p.step = .fails e t) : Traced scan all (p.number :: p.waiting.map Waiting.line) := by
  obtain ⟨hsize, text, -, htext⟩ := h.line_of_fails hstep
  exact traced_of_nested h.placed.positive (lt_length_of_getElem? htext)
    (Nat.lt_add_of_pos_right hsize) h.nested

theorem sameFunctions_of_fails {p : Point} {e : Error} {t : Session} (hstep : p.step = .fails e t) :
    SameFunctions p.session t := (Point.leaves_of_fails hstep).of_frame sameFunctions_frame

theorem sameFunctions_leave (s : Session) (ws : List Waiting) :
    SameFunctions s (Point.leave s ws) := by
  have hleave : ∀ t, SameFunctions s t → SameFunctions s t.leaveCall := fun _ h => h
  exact Point.leave_keeps hleave ws ⟨rfl, rfl⟩

/-! ## Runs of a program -/

/-- The point at which the lines behind the directive start. -/
def start (options : Options) (input : List String) (world : World) (rest : List Text) : Point :=
  ⟨ofLines options.scan rest, 1, [], (Session.start options input world).emit startMark⟩

/-- A run of a program comes to a point. -/
def Passes (options : Options) (input : List String) (world : World) (source : String)
    (p : Point) : Prop :=
  ∃ rest, body source = .ok rest ∧ (start options input world rest).Reaches p

theorem lines_of_body (h : body source = .ok rest) : ∃ first, lines source = first :: rest := by
  unfold body at h
  split at h
  · cases h
  · next first more hlines =>
    split at h
    · cases h
      exact ⟨first, hlines⟩
    · cases h

theorem sound_start (h : body source = .ok rest) :
    Sound options.scan (lines source) (start options input world rest) := by
  obtain ⟨first, hlines⟩ := lines_of_body h
  refine ⟨⟨Nat.zero_lt_one, cut_ofLines _ rest, ?_⟩, trivial, rfl, fun name f hf => ?_⟩
  · show (ofLines options.scan rest).lines <+: (lines source).drop 1
    rw [hlines, lines_ofLines]
    exact List.prefix_refl rest
  · -- nothing is stored at the start
    cases hf

theorem Passes.sound {p : Point} (h : Passes options input world source p) :
    Sound options.scan (lines source) p := by
  obtain ⟨rest, hbody, hreach⟩ := h
  exact (sound_start hbody).reaches hreach

theorem run_of_body (h : body source = .ok rest) (s : Session) :
    run source s = (Run.lines rest 1 >>= fun _ => Run.emit endMark) (s.emit startMark) := by
  unfold run
  rw [h]
  rfl

theorem run_of_no_body {e : Error} (h : body source = .error e) (s : Session) :
    run source s = (.error (.of e), s) := by
  unfold run
  rw [h]
  rfl

theorem comes_start {r : Except Failure Unit} {t : Session}
    (h : Run.lines rest 1 ((Session.start options input world).emit startMark) = (r, t)) :
    (start options input world rest).Comes r t :=
  Point.follows _ _ [] rfl h

/-- How a run of a program ends: without a directive, behind its last line, or at a line that
fails. -/
inductive Ended (options : Options) (input : List String) (world : World) (source : String) :
    Except Failure (List String) → Session → Prop
  | undirected {e : Error} (hbody : body source = .error e) :
      Ended options input world source (.error (.of e)) (.start options input world)
  | done {p : Point} (hpasses : Passes options input world source p) (hstep : p.step = .ends) :
      Ended options input world source (.ok (p.session.emit endMark).output.toList)
        (p.session.emit endMark)
  | failed {p : Point} {e : Error} {t : Session} (hpasses : Passes options input world source p)
      (hstep : p.step = .fails e t) :
      Ended options input world source (.error ⟨e, p.number :: p.waiting.map Waiting.line⟩)
        (Point.leave t p.waiting)

theorem ended_execute (options : Options) (input : List String) (world : World) (source : String) :
    Ended options input world source (execute options input world source).1
      (execute options input world source).2 := by
  unfold execute
  cases hbody : body source with
  | error e =>
    rw [run_of_no_body hbody]
    exact .undirected hbody
  | ok rest =>
    rw [run_of_body hbody]
    cases hrun : (Run.lines rest 1 >>= fun _ => Run.emit endMark)
        ((Session.start options input world).emit startMark) with
    | mk r s =>
      rcases Run.bind_cases hrun with ⟨f, hlines, rfl⟩ | ⟨a, t, hlines, hemit⟩
      · obtain ⟨p, inner, e, u, hreach, hstep, hwaiting, rfl, rfl⟩ := comes_start hlines
        obtain rfl : p.waiting = inner := hwaiting.trans (List.append_nil inner)
        exact .failed ⟨rest, hbody, hreach⟩ hstep
      · obtain ⟨number, hreach⟩ := comes_start hlines
        cases hemit
        exact .done ⟨rest, hbody, hreach⟩ rfl

/-! ## The report -/

theorem foldl_append (g : Nat → String) (s : String) (ns : List Nat) :
    ns.foldl (fun s n => s ++ g n) s = s ++ String.join (ns.map g) := by
  have hjoin : ∀ (parts : List String) (s : String),
      parts.foldl (· ++ ·) s = s ++ String.join parts := by
    intro parts
    induction parts with
    | nil => intro s; exact (String.append_empty (s := s)).symm
    | cons part parts ih =>
      intro s
      rw [String.join, List.foldl_cons, List.foldl_cons, ih, ih, String.empty_append,
        String.append_assoc]
  rw [← hjoin, List.foldl_map]

theorem message_eq (f : Failure) :
    f.message = f.error.message ++ String.join (f.lines.map fun n => s!" (line {n})") :=
  foldl_append _ _ _

theorem body_error {e : Error} (h : body source = .error e) : e = .missingDirective := by
  unfold body at h
  split at h
  · cases h
    rfl
  · split at h
    · cases h
    · cases h
      rfl

/-- At every point of a run, and at its end, the stored functions are the lines of the program under
their numbers.  A run that fails, but not for want of the directive, fails at the line that its
failure names first; each line named is one of the program behind the directive, and the further ones
enclose the one before; and they stand in this order at the end of the message. -/
theorem failure_lines_traced (options : Options) (input : List String) (world : World)
    (source : String) :
    (∀ p, Passes options input world source p → ∀ name f, p.session.functions.get? name = some f →
      StoredFrom options.scan (lines source) name f) ∧
    (∀ name f, (execute options input world source).2.functions.get? name = some f →
      StoredFrom options.scan (lines source) name f) ∧
    (∀ output, (execute options input world source).1 = .ok output →
      ∃ p, Passes options input world source p ∧ p.step = .ends) ∧
    ∀ failure, (execute options input world source).1 = .error failure →
      failure.error.kind ≠ .directive →
      ∃ p t text, Passes options input world source p ∧ p.step = .fails failure.error t ∧
        p.block.lines.head? = some text ∧ (lines source)[p.number]? = some text ∧
        failure.lines = p.number :: p.waiting.map Waiting.line ∧
        Traced options.scan (lines source) failure.lines ∧
        failure.message =
          failure.error.message ++ String.join (failure.lines.map fun n => s!" (line {n})") := by
  have hended := ended_execute options input world source
  generalize (execute options input world source).1 = r at hended ⊢
  generalize (execute options input world source).2 = s at hended ⊢
  refine ⟨fun p hpasses => hpasses.sound.knows.stored, ?_, ?_, ?_⟩
  · -- a line that fails stores nothing, and neither does leaving the calls
    cases hended with
    | undirected hbody => intro name f hf; cases hf
    | done hpasses hstep => exact hpasses.sound.knows.stored
    | @failed p e t hpasses hstep =>
      have hsame := sameFunctions_frame.trans (sameFunctions_of_fails hstep)
        (sameFunctions_leave t p.waiting)
      exact (hpasses.sound.knows.of_same hsame).stored
  · intro output houtput
    rw [houtput] at hended
    cases hended with
    | done hpasses hstep => exact ⟨_, hpasses, hstep⟩
  · intro failure hfailure hkind
    rw [hfailure] at hended
    cases hended with
    | undirected hbody =>
      obtain rfl := body_error hbody
      exact absurd rfl hkind
    | failed hpasses hstep =>
      obtain ⟨-, text, hhead, htext⟩ := hpasses.sound.line_of_fails hstep
      exact ⟨_, _, text, hpasses, hstep, hhead, htext, rfl, hpasses.sound.traced hstep,
        message_eq _⟩

end LineScript.Program
