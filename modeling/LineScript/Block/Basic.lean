import LineScript.Block.Scan

/-!
Blocks: the trees that the lines of a program form.

A tree keeps every line just as it is, so its lines are the lines it was made from. Which lines a
block holds is settled by the lines alone, before anything runs; an opener without a closer is a
tree too, and fails only when it is run.
-/

namespace LineScript

/-- Lines in order, some of which are blocks. -/
inductive Block where
  | done
  | line (text : Text) (rest : Block)
  | func (opener : Text) (body : Block) (closer : Text) (rest : Block)
  | branch (opener : Text) (yes : Block) (closer : Text) (rest : Block)
  | divided (opener : Text) (yes : Block) (divider : Text) (no : Block) (closer : Text)
      (rest : Block)
  | loop (opener : Text) (body : Block) (closer : Text) (rest : Block)
  /-- An opener without a closer, and the lines after it. -/
  | unclosed (kind : Block.Kind) (opener : Text) (remainder : List Text)
deriving Inhabited

namespace Block

def lines : Block → List Text
  | done => []
  | line t rest => t :: rest.lines
  | func opener body closer rest => opener :: body.lines ++ closer :: rest.lines
  | branch opener yes closer rest => opener :: yes.lines ++ closer :: rest.lines
  | divided opener yes divider no closer rest =>
    opener :: yes.lines ++ divider :: no.lines ++ closer :: rest.lines
  | loop opener body closer rest => opener :: body.lines ++ closer :: rest.lines
  | unclosed _ opener remainder => opener :: remainder

def size : Block → Nat
  | done => 0
  | line _ rest => rest.size + 1
  | func _ body _ rest => body.size + rest.size + 2
  | branch _ yes _ rest => yes.size + rest.size + 2
  | divided _ yes _ no _ rest => yes.size + no.size + rest.size + 3
  | loop _ body _ rest => body.size + rest.size + 2
  | unclosed _ _ remainder => remainder.length + 1

def ofLines (scan : Scan) : List Text → Block
  | [] => done
  | l :: rest =>
    match header? l with
    | none => line l (ofLines scan rest)
    | some (kind, _) =>
      match h : closer? scan kind 0 rest with
      | none => unclosed kind l rest
      | some f =>
        have := length_of_closer? h
        match kind with
        | .func => func l (ofLines scan f.before) f.line (ofLines scan f.after)
        | .loop => loop l (ofLines scan f.before) f.line (ofLines scan f.after)
        | .branch =>
          match h' : divider? scan 0 f.before with
          | none => branch l (ofLines scan f.before) f.line (ofLines scan f.after)
          | some g =>
            have := length_of_divider? h'
            divided l (ofLines scan g.before) g.line (ofLines scan g.after) f.line
              (ofLines scan f.after)
termination_by ls => ls.length
decreasing_by all_goals (simp only [List.length_cons]; omega)

theorem length_lines (b : Block) : b.lines.length = b.size := by
  induction b <;> simp_all [lines, size] <;> omega

/-- A tree has the lines it was made from. -/
theorem lines_ofLines (scan : Scan) (ls : List Text) : (ofLines scan ls).lines = ls := by
  fun_induction ofLines scan ls with
  | case1 => rfl
  | case2 l rest _ ih => simp [lines, ih]
  | case3 => rfl
  | case4 l rest _ f _ _ h _ ih₁ ih₂ => simp [lines, ih₁, ih₂, append_of_closer? h]
  | case5 l rest _ f _ _ h _ ih₁ ih₂ => simp [lines, ih₁, ih₂, append_of_closer? h]
  | case6 l rest _ f _ _ _ h _ ih₁ ih₂ => simp [lines, ih₁, ih₂, append_of_closer? h]
  | case7 l rest _ f _ g h' _ _ h _ ih₃ ih₂ ih₁ =>
    simp [lines, ih₁, ih₂, ih₃, ← append_of_closer? h, ← append_of_divider? h']

end Block

end LineScript
