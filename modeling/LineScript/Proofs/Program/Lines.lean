import LineScript.Program
import LineScript.Proofs.Block.Cut
import LineScript.Proofs.Run.Machine

/-!
# Where a run is in its program

At every point of a run the block that runs, what follows the lines that wait, and the body of every
stored function are stretches of the lines of the program, under their own numbers (`Sound`).  One
step keeps this (`Sound.step`), so that it holds of all the points that a run comes to.
-/

namespace LineScript.Program

open Block

variable {scan : Scan} {kind : Kind} {all : List Text}

/-- Line `inner` stands strictly between a header, line `outer`, and the closer of its block. -/
structure Inside (scan : Scan) (kind : Kind) (all : List Text) (outer inner : Nat) : Prop where
  header : ∃ header, all[outer]? = some header ∧ kind.opens header = true
  closer : ∃ f, closer? scan kind 0 (all.drop (outer + 1)) = some f ∧ outer < inner ∧
    inner < outer + 1 + f.before.length

/-- What line `outer` has to do with line `inner` when a failure passes the one after the other: it is
the header of a branch or a loop around it, or it calls a function whose body has it. -/
inductive Encloses (scan : Scan) (all : List Text) (outer inner : Nat) : Prop
  | block (kind : Kind) (hkind : kind ≠ .func) (hinside : Inside scan kind all outer inner)
  | call (text header : Text) (name : String) (definition : Nat) (htext : all[outer]? = some text)
      (hcall : Statement.read text = .ok (.call name)) (hheader : all[definition]? = some header)
      (hname : funcName (headerOf header) = .ok name)
      (hinside : Inside scan .func all definition inner)

/-- A function whose body is the lines of the program from its first line on, between the header that
defines it and the closer of that. -/
structure StoredFrom (scan : Scan) (all : List Text) (name : String) (f : Function) : Prop where
  later : 1 < f.firstLine
  header : ∃ header, all[f.firstLine - 1]? = some header ∧ Kind.func.opens header = true ∧
    funcName (headerOf header) = .ok name
  body : (all.drop f.firstLine).take f.body.length = f.body
  closer : ∃ closer after, all[f.firstLine + f.body.length]? = some closer ∧
    Kind.func.closes closer = true ∧
    closer? scan .func 0 (all.drop f.firstLine) = some ⟨f.body, closer, after⟩

/-! ## Stretches of lines -/

theorem prefix_left {xs ys : List Text} {n : Nat} (h : xs ++ ys <+: all.drop n) :
    xs <+: all.drop n :=
  (List.prefix_append xs ys).trans h

theorem prefix_right {xs ys : List Text} {n : Nat} (h : xs ++ ys <+: all.drop n) :
    ys <+: all.drop (n + xs.length) := by
  obtain ⟨more, hmore⟩ := h
  rw [← List.drop_drop, ← hmore, List.append_assoc, List.drop_left]
  exact List.prefix_append ys more

theorem prefix_tail {line : Text} {rest : List Text} {n : Nat} (h : line :: rest <+: all.drop n) :
    rest <+: all.drop (n + 1) := by
  have hsplit : [line] ++ rest <+: all.drop n := h
  exact prefix_right hsplit

theorem getElem?_of_front {line : Text} {rest : List Text} {n : Nat}
    (h : line :: rest <+: all.drop n) : all[n]? = some line := by
  obtain ⟨more, hmore⟩ := h
  rw [← Nat.add_zero n, ← List.getElem?_drop, ← hmore]
  rfl

theorem lt_length_of_getElem? {line : Text} {n : Nat} (h : all[n]? = some line) :
    n < all.length := by
  obtain ⟨hlt, -⟩ := List.getElem?_eq_some_iff.mp h
  exact hlt

theorem inside_of_front {opener closer : Text} {lines rest : List Text} {n : Nat}
    (hopens : kind.opens opener = true)
    (hcut : closer? scan kind 0 (lines ++ closer :: rest) = some ⟨lines, closer, rest⟩)
    (hfront : opener :: (lines ++ closer :: rest) <+: all.drop n) {k : Nat} (hlow : n < k)
    (hhigh : k < n + 1 + lines.length) : Inside scan kind all n k := by
  obtain ⟨more, hmore⟩ := prefix_tail hfront
  have hfound := closer?_append hcut more
  rw [hmore] at hfound
  exact ⟨⟨opener, getElem?_of_front hfront, hopens⟩, ⟨_, hfound, hlow, hhigh⟩⟩

structure Placed (scan : Scan) (all : List Text) (n : Nat) (b : Block) : Prop where
  positive : 0 < n
  cut : b.Cut scan
  lines : b.lines <+: all.drop n

theorem storedFrom_of_func {opener closer : Text} {body rest : Block} {n : Nat} {name : String}
    (h : Placed scan all n (.func opener body closer rest))
    (hname : funcName (headerOf opener) = .ok name) :
    StoredFrom scan all name ⟨body.lines, n + 1⟩ := by
  obtain ⟨hopens, hcut, -, -⟩ := h.cut
  have hfront : opener :: (body.lines ++ closer :: rest.lines) <+: all.drop n := h.lines
  have hbehind := prefix_tail hfront
  have hcloser := prefix_right hbehind
  obtain ⟨more, hmore⟩ := hbehind
  have hfound := closer?_append hcut more
  rw [hmore] at hfound
  refine ⟨Nat.succ_lt_succ h.positive, ⟨opener, getElem?_of_front hfront, hopens, hname⟩, ?_,
    ⟨closer, rest.lines ++ more, getElem?_of_front hcloser, closes_of_closer? hcut, hfound⟩⟩
  show (all.drop (n + 1)).take body.lines.length = body.lines
  rw [← hmore, List.append_assoc, List.take_left]

theorem StoredFrom.inside {name : String} {f : Function} (h : StoredFrom scan all name f) {k : Nat}
    (hlow : f.firstLine ≤ k) (hhigh : k < f.firstLine + f.body.length) :
    Inside scan .func all (f.firstLine - 1) k := by
  obtain ⟨header, hheader, hopens, -⟩ := h.header
  obtain ⟨closer, after, -, -, hfound⟩ := h.closer
  have hlater := h.later
  have hnext : f.firstLine - 1 + 1 = f.firstLine := by omega
  exact ⟨⟨header, hheader, hopens⟩, ⟨_, by rw [hnext]; exact hfound, by omega, by
    show k < f.firstLine - 1 + 1 + f.body.length
    omega⟩⟩

theorem StoredFrom.placed {name : String} {f : Function} (h : StoredFrom scan all name f) :
    Placed scan all f.firstLine (ofLines scan f.body) := by
  refine ⟨Nat.lt_trans Nat.zero_lt_one h.later, cut_ofLines scan f.body, ?_⟩
  rw [lines_ofLines]
  have hbody := h.body
  rw [← hbody]
  exact List.take_prefix _ _

/-! ## Points -/

theorem placed_first {opener : Text} {b : Block} {more : List Text} {n : Nat} (hcut : b.Cut scan)
    (h : opener :: (b.lines ++ more) <+: all.drop n) : Placed scan all (n + 1) b :=
  ⟨Nat.succ_pos n, hcut, prefix_left (prefix_tail h)⟩

theorem placed_behind {opener closer : Text} {lines : List Text} {rest : Block} {n k : Nat}
    (hcut : rest.Cut scan) (h : opener :: (lines ++ closer :: rest.lines) <+: all.drop n)
    (hk : k = lines.length + 2) : Placed scan all (n + k) rest := by
  have hrest := prefix_tail (prefix_right (prefix_tail h))
  refine ⟨by omega, hcut, ?_⟩
  rw [hk, show n + (lines.length + 2) = n + 1 + lines.length + 1 by omega]
  exact hrest

structure Knows (scan : Scan) (all : List Text) (s : Session) : Prop where
  mode : s.options.scan = scan
  stored : ∀ name f, s.functions.get? name = some f → StoredFrom scan all name f

structure Waits (scan : Scan) (all : List Text) (w : Waiting) : Prop where
  positive : 0 < w.line
  line : w.line < all.length
  later : w.line < w.next
  rest : Placed scan all w.next w.rest
  turns : ∀ body turns, w.reason = .loop body turns → Placed scan all (w.line + 1) body ∧
    ∀ k, w.line < k → k < w.line + 1 + body.size → Encloses scan all w.line k

/-- The lines from `low` up to `high` run while others wait: the innermost of these encloses them all,
and is itself among the lines that run while the others wait. -/
def Nested (scan : Scan) (all : List Text) : List Waiting → Nat → Nat → Prop
  | [], _, _ => True
  | w :: ws, low, high =>
    (∀ k, low ≤ k → k < high → Encloses scan all w.line k) ∧ Waits scan all w ∧
      Nested scan all ws w.line (w.next + w.rest.size)

theorem Nested.mono {ws : List Waiting} {low low' high high' : Nat}
    (h : Nested scan all ws low high) (hlow : low ≤ low') (hhigh : high' ≤ high) :
    Nested scan all ws low' high' := by
  cases ws with
  | nil => trivial
  | cons w ws =>
    obtain ⟨hencloses, hrest⟩ := h
    exact ⟨fun k hk hk' => hencloses k (Nat.le_trans hlow hk) (Nat.lt_of_lt_of_le hk' hhigh), hrest⟩

/-- A point of a run that is where the program says it is. -/
structure Sound (scan : Scan) (all : List Text) (p : Point) : Prop where
  placed : Placed scan all p.number p.block
  nested : Nested scan all p.waiting p.number (p.number + p.block.size)
  knows : Knows scan all p.session

def SameFunctions (s t : Session) : Prop := t.functions = s.functions ∧ t.options = s.options

theorem Knows.of_same {s t : Session} (h : Knows scan all s) (hsame : SameFunctions s t) :
    Knows scan all t := by
  refine ⟨?_, ?_⟩
  · rw [hsame.2]
    exact h.mode
  · rw [hsame.1]
    exact h.stored

theorem sameFunctions_frame : Session.Frame SameFunctions where
  refl _ := ⟨rfl, rfl⟩
  trans h h' := ⟨h'.1.trans h.1, h'.2.trans h.2⟩
  emit _ _ := ⟨rfl, rfl⟩
  draw _ _ := ⟨rfl, rfl⟩
  request _ _ := ⟨rfl, rfl⟩
  write _ _ := ⟨rfl, rfl⟩
  takeInput s name := by
    unfold Session.takeInput Session.nextInput
    cases s.input[s.taken]? <;> exact ⟨rfl, rfl⟩
  assign _ _ := ⟨rfl, rfl⟩
  load _ := ⟨rfl, rfl⟩
  readJson _ _ := ⟨rfl, rfl⟩
  page _ _ _ := ⟨rfl, rfl⟩
  noPage _ _ := ⟨rfl, rfl⟩

section Steps

variable {p : Point} {s : Session} {rest b : Block} {n k : Nat}

theorem Sound.skip (h : Sound scan all p) (hrest : Placed scan all (p.number + n) rest)
    (hsize : n + rest.size = p.block.size) (hknows : Knows scan all s) :
    Sound scan all (p.skip rest n s) := by
  refine ⟨hrest, ?_, hknows⟩
  have hhigh : p.number + n + rest.size ≤ p.number + p.block.size := by omega
  exact h.nested.mono (Nat.le_add_right _ n) hhigh

theorem Sound.enter {reason : Reason} {line : Text} {more : List Text} (h : Sound scan all p)
    (hline : line :: more <+: all.drop p.number) (hb : Placed scan all k b)
    (hencloses : ∀ i, k ≤ i → i < k + b.size → Encloses scan all p.number i)
    (hrest : Placed scan all (p.number + n) rest) (hn : 0 < n)
    (hsize : n + rest.size = p.block.size)
    (hturns : ∀ body turns, reason = .loop body turns → Placed scan all (p.number + 1) body ∧
      ∀ i, p.number < i → i < p.number + 1 + body.size → Encloses scan all p.number i)
    (hknows : Knows scan all s) : Sound scan all (p.enter b k reason rest n s) := by
  refine ⟨hb, ⟨hencloses, ?_, ?_⟩, hknows⟩
  · have hlt := lt_length_of_getElem? (getElem?_of_front hline)
    exact ⟨h.placed.positive, hlt, Nat.lt_add_of_pos_right hn, hrest, hturns⟩
  · have hhigh : p.number + n + rest.size ≤ p.number + p.block.size := by omega
    exact h.nested.mono (Nat.le_refl _) hhigh

theorem encloses_of_front {opener closer : Text} {lines rest : List Text} {i : Nat}
    (hkind : kind ≠ .func) (hopens : kind.opens opener = true)
    (hcut : closer? scan kind 0 (lines ++ closer :: rest) = some ⟨lines, closer, rest⟩)
    (hfront : opener :: (lines ++ closer :: rest) <+: all.drop n) (hlow : n < i)
    (hhigh : i < n + 1 + lines.length) : Encloses scan all n i :=
  .block kind hkind (inside_of_front hopens hcut hfront hlow hhigh)

end Steps

section Parts

variable {p q : Point} {ws : List Waiting} {s : Session} {n : Nat} {rest : Block}

theorem sound_resume {w : Waiting} (h : Sound scan all ⟨.done, n, w :: ws, s⟩) :
    Sound scan all (Point.resume ⟨.done, n, w :: ws, s⟩ w ws) := by
  obtain ⟨-, hwaits, hnested⟩ := h.nested
  have hbehind : Nested scan all ws w.next (w.next + w.rest.size) :=
    hnested.mono (Nat.le_of_lt hwaits.later) (Nat.le_refl _)
  unfold Point.resume
  split
  · exact ⟨hwaits.rest, hbehind, h.knows⟩
  · next body turns hreason =>
    -- a loop with turns to come waits for its body once more
    obtain ⟨hbody, hencloses⟩ := hwaits.turns body _ hreason
    refine ⟨hbody, ⟨fun k hlow hhigh => hencloses k hlow hhigh, ?_, hnested⟩, h.knows⟩
    refine ⟨hwaits.positive, hwaits.line, hwaits.later, hwaits.rest, fun body' turns' heq => ?_⟩
    cases heq
    exact ⟨hbody, hencloses⟩
  · exact ⟨hwaits.rest, hbehind, h.knows.of_same ⟨rfl, rfl⟩⟩
  · exact ⟨hwaits.rest, hbehind, h.knows.of_same ⟨rfl, rfl⟩⟩

theorem sound_obey {text : Text} {st : Statement} (h : Sound scan all ⟨.line text rest, n, ws, s⟩)
    (hread : Statement.read text = .ok st)
    (hstep : Point.obey ⟨.line text rest, n, ws, s⟩ rest st = .goes q) : Sound scan all q := by
  have hfront : text :: rest.lines <+: all.drop n := h.placed.lines
  have hrest : Placed scan all (n + 1) rest :=
    ⟨Nat.succ_pos n, h.placed.cut, prefix_tail hfront⟩
  have hsize : 1 + rest.size = (line text rest).size := Nat.add_comm 1 rest.size
  -- a call goes on in the stored body, which is a stretch of the program; other statements store
  -- nothing
  rcases Point.goes_of_obey hstep with ⟨name, f, rfl, hf, -, rfl⟩ | ⟨t, hno, hrun, rfl⟩
  · have hstored : StoredFrom scan all name f := h.knows.stored name f (Run.get?_of_function hf)
    obtain ⟨header, hheader, -, hname⟩ := hstored.header
    have hmode : s.options.scan = scan := h.knows.mode
    have hbody : Placed scan all f.firstLine (ofLines s.options.scan f.body) := by
      rw [hmode]
      exact hstored.placed
    refine h.enter hfront hbody (fun i hlow hhigh => ?_) hrest Nat.zero_lt_one hsize ?_
      (h.knows.of_same ⟨rfl, rfl⟩)
    · rw [← length_lines, lines_ofLines] at hhigh
      exact .call text header name _ (getElem?_of_front hfront) hread hheader hname
        (hstored.inside hlow hhigh)
    · intro body turns heq
      cases heq
  · exact h.skip hrest hsize (h.knows.of_same (sameFunctions_frame.of_run hno hrun))

theorem sound_line {text : Text} (h : Sound scan all ⟨.line text rest, n, ws, s⟩)
    (hgoes : Point.Goes ⟨.line text rest, n, ws, s⟩ q) : Sound scan all q := by
  cases hgoes with
  | silent =>
    have hfront : text :: rest.lines <+: all.drop n := h.placed.lines
    exact h.skip ⟨Nat.succ_pos n, h.placed.cut, prefix_tail hfront⟩ (Nat.add_comm 1 rest.size)
      h.knows
  | obeyed _ hread hobey => exact sound_obey h hread hobey

theorem sound_func {opener closer : Text} {body : Block}
    (h : Sound scan all ⟨.func opener body closer rest, n, ws, s⟩)
    (hgoes : Point.Goes ⟨.func opener body closer rest, n, ws, s⟩ q) : Sound scan all q := by
  obtain ⟨-, -, -, hrest⟩ := h.placed.cut
  have hfront : opener :: (body.lines ++ closer :: rest.lines) <+: all.drop n := h.placed.lines
  cases hgoes with
  | @stored _ _ _ _ _ _ _ name hname =>
    have hbehind := placed_behind hrest hfront (by rw [length_lines])
    refine h.skip hbehind (by simp only [size]; omega) ⟨h.knows.mode, fun key f hf => ?_⟩
    -- the function that was just stored, or one that was stored before
    by_cases hkey : key = name
    · subst hkey
      have hnew : some ⟨body.lines, n + 1⟩ = some f :=
        (Table.get?_insert_self s.functions key _).symm.trans hf
      cases hnew
      exact storedFrom_of_func h.placed hname
    · have hold : s.functions.get? key = some f :=
        (Table.get?_insert_of_ne hkey s.functions _).symm.trans hf
      exact h.knows.stored key f hold

theorem sound_branch {opener closer : Text} {yes : Block}
    (h : Sound scan all ⟨.branch opener yes closer rest, n, ws, s⟩)
    (hgoes : Point.Goes ⟨.branch opener yes closer rest, n, ws, s⟩ q) : Sound scan all q := by
  obtain ⟨hopens, hcut, hyes, hrest⟩ := h.placed.cut
  have hfront : opener :: (yes.lines ++ closer :: rest.lines) <+: all.drop n := h.placed.lines
  have hbehind := placed_behind hrest hfront (by rw [length_lines] : yes.size + 2 = _)
  have hsize : yes.size + 2 + rest.size = (branch opener yes closer rest).size := by
    simp only [size]
    omega
  cases hgoes with
  | chosen hdecision =>
    refine h.enter hfront (placed_first hyes hfront) (fun i hlow hhigh => ?_) hbehind
      (Nat.succ_pos _) hsize (fun body turns heq => ?_)
      (h.knows.of_same (sameFunctions_frame.of_chosen hdecision))
    · rw [← length_lines] at hhigh
      exact encloses_of_front (by decide) hopens hcut hfront hlow hhigh
    · cases heq
  | passed hdecision =>
    exact h.skip hbehind hsize (h.knows.of_same (sameFunctions_frame.of_chosen hdecision))

theorem sound_divided {opener divider closer : Text} {yes no : Block}
    (h : Sound scan all ⟨.divided opener yes divider no closer rest, n, ws, s⟩)
    (hgoes : Point.Goes ⟨.divided opener yes divider no closer rest, n, ws, s⟩ q) :
    Sound scan all q := by
  obtain ⟨hopens, hcut, hyes, hno, hrest⟩ := h.placed.cut
  have hfront : opener :: ((yes.lines ++ divider :: no.lines) ++ closer :: rest.lines) <+:
      all.drop n := h.placed.lines
  have hlength : (yes.lines ++ divider :: no.lines).length = yes.size + no.size + 1 := by
    simp only [List.length_append, List.length_cons, length_lines]
    omega
  -- the two groups, and the lines behind the closer, are stretches of the program
  have hbehind := placed_behind hrest hfront (by omega : yes.size + no.size + 3 = _)
  have hsize : yes.size + no.size + 3 + rest.size =
      (divided opener yes divider no closer rest).size := by
    simp only [size]
    omega
  have hencloses : ∀ i, n < i → i < n + 1 + (yes.size + no.size + 1) → Encloses scan all n i := by
    intro i hlow hhigh
    rw [← hlength] at hhigh
    exact encloses_of_front (by decide) hopens hcut hfront hlow hhigh
  cases hgoes with
  | chosen_yes hdecision =>
    have hgroup : opener :: (yes.lines ++ (divider :: no.lines ++ closer :: rest.lines)) <+:
        all.drop n := by
      rw [← List.append_assoc]
      exact hfront
    exact h.enter hfront (placed_first hyes hgroup)
      (fun i hlow hhigh => hencloses i hlow (by omega)) hbehind (Nat.succ_pos _) hsize
      (fun body turns heq => by cases heq)
      (h.knows.of_same (sameFunctions_frame.of_chosen hdecision))
  | chosen_no hdecision =>
    have hgroup : Placed scan all (n + yes.size + 2) no := by
      have hinner := prefix_tail (prefix_right (prefix_left (prefix_tail hfront)))
      refine ⟨by omega, hno, ?_⟩
      rw [show n + yes.size + 2 = n + 1 + yes.lines.length + 1 by rw [length_lines]; omega]
      exact hinner
    exact h.enter hfront hgroup (fun i hlow hhigh => hencloses i (by omega) (by omega)) hbehind
      (Nat.succ_pos _) hsize (fun body turns heq => by cases heq)
      (h.knows.of_same (sameFunctions_frame.of_chosen hdecision))

theorem sound_loop {opener closer : Text} {body : Block}
    (h : Sound scan all ⟨.loop opener body closer rest, n, ws, s⟩)
    (hgoes : Point.Goes ⟨.loop opener body closer rest, n, ws, s⟩ q) : Sound scan all q := by
  obtain ⟨hopens, hcut, hbody, hrest⟩ := h.placed.cut
  have hfront : opener :: (body.lines ++ closer :: rest.lines) <+: all.drop n := h.placed.lines
  have hbehind := placed_behind hrest hfront (by rw [length_lines] : body.size + 2 = _)
  have hsize : body.size + 2 + rest.size = (loop opener body closer rest).size := by
    simp only [size]
    omega
  have hencloses : ∀ i, n < i → i < n + 1 + body.size → Encloses scan all n i := by
    intro i hlow hhigh
    rw [← length_lines] at hhigh
    exact encloses_of_front (by decide) hopens hcut hfront hlow hhigh
  cases hgoes with
  | idle => exact h.skip hbehind hsize (h.knows.of_same ⟨rfl, rfl⟩)
  | turning =>
    refine h.enter hfront (placed_first hbody hfront) (fun i hlow hhigh => hencloses i hlow hhigh)
      hbehind (Nat.succ_pos _) hsize (fun body' turns' heq => ?_) (h.knows.of_same ⟨rfl, rfl⟩)
    cases heq
    exact ⟨placed_first hbody hfront, hencloses⟩

end Parts

/-- A step leads from one place in the program to another one. -/
theorem Sound.step {p q : Point} (h : Sound scan all p) (hstep : p.step = .goes q) :
    Sound scan all q := by
  have hgoes := Point.goes_of_step hstep
  obtain ⟨b, n, ws, s⟩ := p
  cases b with
  | done =>
    cases hgoes with
    | resumed => exact sound_resume h
  | line text rest => exact sound_line h hgoes
  | func opener body closer rest => exact sound_func h hgoes
  | branch opener yes closer rest => exact sound_branch h hgoes
  | divided opener yes divider no closer rest => exact sound_divided h hgoes
  | loop opener body closer rest => exact sound_loop h hgoes
  | unclosed kind opener remainder => cases hgoes

theorem Sound.reaches {p q : Point} (h : Sound scan all p) (hreach : p.Reaches q) :
    Sound scan all q := by
  induction hreach with
  | here => exact h
  | next _ hstep ih => exact ih.step hstep

end LineScript.Program
