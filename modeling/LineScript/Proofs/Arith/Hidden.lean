import LineScript.Proofs.Arith.Rules

/-!
# Objects are hidden from arithmetic

Arithmetic looks at the variables through the values of names only, and a variable that holds an object
has no more of a value than a name that stands for nothing. So arithmetic text has the same value, or the
same fault, without the variables that hold objects, and no object comes up on the way (`objects_hidden`).
-/

namespace LineScript

/-- The variables that hold no object. -/
def Table.withoutObjects (vars : Table Value) : Table Value :=
  ⟨vars.entries.filter fun e => e.2.kind != .object, vars.ordered.filter _⟩

theorem Table.get?_withoutObjects (vars : Table Value) (name : String) :
    vars.withoutObjects.get? name = (vars.get? name).filter fun v => v.kind != .object := by
  refine Option.ext fun v => ?_
  rw [Option.filter_eq_some_iff, Table.get?, vars.withoutObjects.ordered.get?_eq_some_iff, Table.get?,
    vars.ordered.get?_eq_some_iff]
  exact List.mem_filter

namespace Arith

variable {vars vars' : Table Value}

theorem lookup_withoutObjects (vars : Table Value) (name : String) :
    lookup vars.withoutObjects name = lookup vars name := by
  unfold lookup
  rw [Table.get?_withoutObjects]
  cases constant? name with
  | some x => rfl
  | none =>
    cases vars.get? name with
    | none => rfl
    | some v => cases v <;> rfl

/-! ## Trees -/

mutual

/-- An expression looks at the variables through the values of names only. -/
theorem eval_of_lookup (h : ∀ name, lookup vars name = lookup vars' name) :
    ∀ e : Expr, e.eval vars = e.eval vars'
  | .literal l => rfl
  | .name n => by rw [Expr.eval, Expr.eval, h]
  | .unary op e => by rw [Expr.eval, Expr.eval, eval_of_lookup h e]
  | .binary op l r => by rw [Expr.eval, Expr.eval, eval_of_lookup h l, eval_of_lookup h r]
  | .chain first more => by
    have hmore : ∀ left, evalChain vars left more = evalChain vars' left more := fun left =>
      evalChain_of_lookup h left more
    rw [Expr.eval, Expr.eval, eval_of_lookup h first]
    simp only [hmore]
  | .call f arguments => by rw [Expr.eval, Expr.eval, evalAll_of_lookup h arguments]
termination_by structural e => e

theorem evalChain_of_lookup (h : ∀ name, lookup vars name = lookup vars' name) (left : Value) :
    ∀ more : List (Comparison × Expr), evalChain vars left more = evalChain vars' left more
  | [] => rfl
  | (op, e) :: more => by
    have hmore : ∀ right, evalChain vars right more = evalChain vars' right more := fun right =>
      evalChain_of_lookup h right more
    rw [evalChain, evalChain, eval_of_lookup h e]
    simp only [hmore]
termination_by structural more => more

theorem evalAll_of_lookup (h : ∀ name, lookup vars name = lookup vars' name) :
    ∀ es : List Expr, evalAll vars es = evalAll vars' es
  | [] => rfl
  | e :: es => by rw [evalAll, evalAll, eval_of_lookup h e, evalAll_of_lookup h es]
termination_by structural es => es

end

theorem gives_scalars (vars : Table Value) (arguments : List Expr) :
    Gives (fun vs => ∀ v ∈ vs, v.Scalar) (evalAll vars arguments) := by
  have hgives : Gives (fun vs => ∀ v ∈ vs, v.ScalarWith fun _ => True) (evalAll vars arguments) :=
    gives_evalAll (fun _ _ => trivial) (fun _ _ _ => trivial) arguments fun _ _ _ _ => trivial
  exact fun draws vs draws' h v hv => (hgives draws vs draws' h v hv).scalar

/-! ## Rules -/

section Rules

variable (h : ∀ name, lookup vars name = lookup vars' name)
include h

theorem named_of_lookup (inner : Reader Value) (name : String) :
    Reader.named vars inner name = Reader.named vars' inner name := by
  funext ts
  unfold Reader.named
  split
  · rfl
  · rw [h]

theorem atom_of_lookup (inner : Reader Value) : Reader.atom vars inner = Reader.atom vars' inner := by
  have hworded : ∀ w, Reader.worded vars inner w = Reader.worded vars' inner w := by
    intro w
    funext ts
    unfold Reader.worded
    simp only [named_of_lookup h]
  funext ts
  unfold Reader.atom
  simp only [hworded]

/-- Faults included, what a rule does on a row of tokens depends on the values of names only. -/
theorem operand_of_lookup (depth : Nat) : Reader.operand vars depth = Reader.operand vars' depth := by
  induction depth with
  | zero => rfl
  | succ depth ih =>
    unfold Reader.operand Reader.factor
    rw [ih, atom_of_lookup h]

end Rules

theorem evaluate_withoutObjects (vars : Table Value) (t : Text) :
    evaluate vars.withoutObjects t = evaluate vars t := by
  unfold evaluate
  simp only [operand_of_lookup (lookup_withoutObjects vars)]

theorem rules_withoutObjects (vars : Table Value) (depth : Nat) :
    rules vars.withoutObjects depth = rules vars depth := by
  have hlookup := lookup_withoutObjects vars
  simp only [rules, Reader.factor, operand_of_lookup hlookup, atom_of_lookup hlookup]

theorem gives_scalar_of_makes {rule : Reader Value} (h : Makes (fun _ => True) rule) (ts : List Token) :
    Gives (fun result => result.1.Scalar) (rule ts) :=
  fun draws result last hresult => (h ts (fun _ _ => trivial) draws result last hresult).1.scalar

theorem gives_scalars_of_arguments (vars : Table Value) (depth : Nat) (ts : List Token) :
    Gives (fun result => ∀ v ∈ result.1, v.Scalar)
      (Reader.arguments (Reader.expression (Reader.operand vars depth)) ts) := by
  have hgives : Gives (fun result => ∀ v ∈ result.1, v.ScalarWith fun _ => True)
      (Reader.arguments (Reader.expression (Reader.operand vars depth)) ts) :=
    gives_arguments (fun _ _ => trivial) (fun _ _ _ => trivial) depth fun _ _ => trivial
  exact fun draws result last h v hv => (hgives draws result last h v hv).scalar

/-- Arithmetic text has the same value, or the same fault, and takes the same draws without the variables
that hold objects, and its value is no object; a fault has the same kind and the same words. So it is with
every rule on every row of tokens, whether or not the text goes on to have a value: no rule comes to an
object, no row of operators has one on its left, and no function is given one. So it is, too, with every
part of an expression and with every row of arguments in it. -/
theorem objects_hidden (vars : Table Value) :
    (∀ t, evaluate vars.withoutObjects t = evaluate vars t ∧ Gives Value.Scalar (evaluate vars t)) ∧
      (∀ depth, rules vars.withoutObjects depth = rules vars depth ∧
        (∀ rule ∈ rules vars depth, ∀ ts, Gives (fun result => result.1.Scalar) (rule ts) ∧
          ∀ operator? count left, left.Scalar →
            Gives (fun result => result.1.Scalar) (Reader.leftTail operator? rule count left ts)) ∧
        ∀ ts, Gives (fun result => ∀ v ∈ result.1, v.Scalar)
          (Reader.arguments (Reader.expression (Reader.operand vars depth)) ts)) ∧
      (∀ e a : Expr, a.Part e →
        a.eval vars.withoutObjects = a.eval vars ∧ Gives Value.Scalar (a.eval vars)) ∧
      ∀ arguments, Gives (fun vs => ∀ v ∈ vs, v.Scalar) (evalAll vars arguments) := by
  refine ⟨fun t => ⟨evaluate_withoutObjects vars t, fun _ _ _ => scalar_of_evaluate⟩, fun depth => ?_,
    fun _ a _ => ⟨eval_of_lookup (lookup_withoutObjects vars) a, gives_scalar vars a⟩,
    gives_scalars vars⟩
  refine ⟨rules_withoutObjects vars depth, fun rule hrule ts => ?_,
    gives_scalars_of_arguments vars depth⟩
  have hmakes : Makes (fun _ => True) rule :=
    makes_of_mem_rules (fun _ _ => trivial) (fun _ _ _ => trivial) hrule
  refine ⟨gives_scalar_of_makes hmakes ts, fun operator? count left hleft => ?_⟩
  exact gives_scalar_of_makes (hmakes.leftTail (fun _ _ => trivial) operator? count hleft.scalarWith) ts

/-- An object and a number. -/
def mixedVars : Table Value :=
  ((∅ : Table Value).insert "o" (.object [("a", .integer 1)])).insert "n" (.integer 2)

/-- A function that takes objects is not given one, and what stands behind the name of an object does
not matter. -/
theorem objects_hidden_length :
    Expr.Part (.name "o") (.chain (.name "n") [(.lt, .call "len" [.name "o"])]) ∧
      mixedVars.withoutObjects.get? "o" = none ∧
      (∀ draws, (Expr.name "o").eval mixedVars draws = .error (.undefined "o", draws) ∧
        evaluate mixedVars "n < len(o)".toList draws = .error (.undefined "o", draws) ∧
        evaluate mixedVars "len(o) 2 )".toList draws = .error (.undefined "o", draws)) ∧
      ∀ plain, (Fault.undefined "o").error plain = .stated .nameError "name 'o' is not defined" := by
  obtain ⟨htext, -, hpart, -⟩ := objects_hidden mixedVars
  have hname : Expr.Part (.name "o") (.chain (.name "n") [(.lt, .call "len" [.name "o"])]) :=
    .later List.mem_cons_self (.argument List.mem_cons_self .self)
  refine ⟨hname, rfl, fun draws => ⟨?_, ?_, ?_⟩, fun plain => ?_⟩
  · rw [← (hpart _ _ hname).1]
    rfl
  · have htokens : Token.ofText "n < len(o)".toList = .ok
        [.word "n", .sign (.compare .lt), .word "len", .leftParen, .word "o", .rightParen] := by
      decide +kernel
    rw [← (htext _).1, evaluate, htokens]
    rfl
  · have htokens : Token.ofText "len(o) 2 )".toList = .ok
        [.word "len", .leftParen, .word "o", .rightParen, .integer 2, .rightParen] := by
      decide +kernel
    rw [← (htext _).1, evaluate, htokens]
    rfl
  · rfl

end Arith

end LineScript
