import LineScript.Proofs.Arith.Lexeme

/-!
# Expression trees: their meaning, and how they are written

A tree of the grammar of arithmetic has one node for each construct.  Its value is plain recursion
(`Tree.value?`): all operands are evaluated, and a construct has no value where one of its operands
has none.  It is written with parentheses around an operand exactly where the operand is of a looser
construct than its place admits (`Tree.lexemes`).

Constructs have ranks, from the tightest to the loosest: 0 for what stands alone, 1 for powers, 2 for
signs, 3 for products, 4 for sums, 5 for comparisons, 6 for `not`, 7 for `and` and 8 for `or`.
-/

namespace LineScript.Arith

inductive Constant where
  | yes
  | no
  | nothing

def Constant.value : Constant → Value
  | yes => .boolean true
  | no => .boolean false
  | nothing => .null

def Constant.word (c : Constant) (python : Bool) : Identifier :=
  match c, python with
  | yes, false => ⟨'t', "rue".toList, by decide, List.all_eq_true.mp (by decide)⟩
  | yes, true => ⟨'T', "rue".toList, by decide, List.all_eq_true.mp (by decide)⟩
  | no, false => ⟨'f', "alse".toList, by decide, List.all_eq_true.mp (by decide)⟩
  | no, true => ⟨'F', "alse".toList, by decide, List.all_eq_true.mp (by decide)⟩
  | nothing, false => ⟨'n', "ull".toList, by decide, List.all_eq_true.mp (by decide)⟩
  | nothing, true => ⟨'N', "one".toList, by decide, List.all_eq_true.mp (by decide)⟩

def reserved : List String :=
  ["or", "and", "not", "true", "True", "false", "False", "null", "None"]

/-- A name: a word that is not reserved, or any word qualified by `math`. -/
inductive Name where
  | plain (w : Identifier) (hfree : w.name ∉ reserved)
  | math (member : Identifier)

def Name.full : Name → String
  | plain w _ => w.name
  | math member => "math" ++ "." ++ member.name

def word_math : Identifier := ⟨'m', "ath".toList, by decide, List.all_eq_true.mp (by decide)⟩

def word_or : Identifier := ⟨'o', "r".toList, by decide, List.all_eq_true.mp (by decide)⟩

def word_and : Identifier := ⟨'a', "nd".toList, by decide, List.all_eq_true.mp (by decide)⟩

def word_not : Identifier := ⟨'n', "ot".toList, by decide, List.all_eq_true.mp (by decide)⟩

def Name.lexemes : Name → List Lexeme
  | plain w _ => [.word w]
  | math member => [.word word_math, .dot, .word member]

inductive Tree where
  | numeral (n : Numeral)
  | string (q : Quoted)
  | constant (c : Constant) (python : Bool)
  | name (n : Name)
  | parens (e : Tree)
  | unary (op : Unary) (operand : Tree)
  | binary (op : Binary) (left right : Tree)
  | chain (first : Tree) (op : Comparison) (second : Tree) (more : List (Comparison × Tree))
  | call (f : Name) (arguments : List Tree)

/-- To show something of all trees: each construct has it if its parts have it. -/
@[elab_as_elim, induction_eliminator]
theorem Tree.induct {P : Tree → Prop} (numeral : ∀ n, P (.numeral n)) (string : ∀ q, P (.string q))
    (constant : ∀ c python, P (.constant c python)) (name : ∀ n, P (.name n))
    (parens : ∀ e, P e → P (.parens e)) (unary : ∀ op e, P e → P (.unary op e))
    (binary : ∀ op left right, P left → P right → P (.binary op left right))
    (chain : ∀ first op second more, P first → P second → (∀ link ∈ more, P link.2) →
      P (.chain first op second more))
    (call : ∀ f arguments, (∀ e ∈ arguments, P e) → P (.call f arguments)) (e : Tree) : P e :=
  @Tree.rec P (fun more => ∀ link ∈ more, P link.2) (fun arguments => ∀ e ∈ arguments, P e)
    (fun link => P link.2) numeral string constant name parens unary binary chain call
    (fun _ h => absurd h List.not_mem_nil)
    (fun _ _ hhead htail _ h => (List.mem_cons.mp h).elim (fun he => he ▸ hhead) (htail _))
    (fun _ h => absurd h List.not_mem_nil)
    (fun _ _ hhead htail _ h => (List.mem_cons.mp h).elim (fun he => he ▸ hhead) (htail _))
    (fun _ _ h => h) e

/-! ## The meaning of a tree -/

/-- Whether each value stands as asked to the one before it, the first to `left`; none if some
comparison asks for an order where there is none. -/
def agree? (left : Value) : List (Comparison × Value) → Option Bool
  | [] => some true
  | (op, right) :: more =>
    match left.compare? op right, agree? right more with
    | some holds, some others => some (holds && others)
    | _, _ => none

def Binary.value? (op : Binary) (left right : Value) : Option Value :=
  match op with
  | or => some (if left.truth then left else right)
  | and => some (if left.truth then right else left)
  | op => (op.apply left right).toOption

def Name.value? (vars : Table Value) (n : Name) : Option Value := (lookup vars n.full).toOption

def Name.call? (f : Name) (arguments : List Value) : Option Value :=
  (builtins.lookup f.full).bind fun b => (b.value arguments).toOption

mutual

def Tree.value? (vars : Table Value) : Tree → Option Value
  | .numeral n => n.value?
  | .string q => some (.string (String.ofList q.body))
  | .constant c _ => some c.value
  | .name n => n.value? vars
  | .parens e => e.value? vars
  | .unary op e => (e.value? vars).bind fun v => (op.apply v).toOption
  | .binary op left right =>
    (left.value? vars).bind fun l => (right.value? vars).bind fun r => op.value? l r
  | .chain first op second more =>
    (first.value? vars).bind fun l => (second.value? vars).bind fun r =>
      (linkValues? vars more).bind fun rs => (agree? l ((op, r) :: rs)).map .boolean
  | .call f arguments => (values? vars arguments).bind f.call?
termination_by structural e => e

def linkValues? (vars : Table Value) :
    List (Comparison × Tree) → Option (List (Comparison × Value))
  | [] => some []
  | (op, e) :: more =>
    (e.value? vars).bind fun v => (linkValues? vars more).map ((op, v) :: ·)
termination_by structural more => more

def values? (vars : Table Value) : List Tree → Option (List Value)
  | [] => some []
  | e :: es => (e.value? vars).bind fun v => (values? vars es).map (v :: ·)
termination_by structural es => es

end

/-! ## Writing a tree -/

def Unary.rank : Unary → Nat
  | not => 6
  | minus | plus => 2

def Unary.lexeme : Unary → Lexeme
  | not => .word word_not
  | minus => .sign .minus
  | plus => .sign .plus

def Binary.rank : Binary → Nat
  | or => 8
  | and => 7
  | add | subtract => 4
  | multiply | divide | floorDivide | modulo => 3
  | power => 1

/-- The loosest rank that the left operand may have: operators group to the left, but powers. -/
def Binary.leftRank : Binary → Nat
  | power => 0
  | op => op.rank

/-- The loosest rank that the right operand may have; that of a power may have signs. -/
def Binary.rightRank : Binary → Nat
  | power => 2
  | op => op.rank - 1

def Binary.lexeme : Binary → Lexeme
  | or => .word word_or
  | and => .word word_and
  | add => .sign .plus
  | subtract => .sign .minus
  | multiply => .sign .times
  | divide => .sign .divide
  | floorDivide => .sign .floorDivide
  | modulo => .sign .percent
  | power => .sign .power

def chainRank : Nat := 5

def topRank : Nat := 8

def Tree.rank : Tree → Nat
  | unary op _ => op.rank
  | binary op _ _ => op.rank
  | chain .. => chainRank
  | _ => 0

/-- What is written for an operand of a rank where at most the rank `most` may stand. -/
def enclosed (most rank : Nat) (as : List Lexeme) : List Lexeme :=
  if rank ≤ most then as else .leftParen :: (as ++ [Lexeme.rightParen])

mutual

def Tree.lexemes : Tree → List Lexeme
  | .numeral n => [.numeral n]
  | .string q => [.string q]
  | .constant c python => [.word (c.word python)]
  | .name n => n.lexemes
  | .parens e => .leftParen :: (e.lexemes ++ [Lexeme.rightParen])
  | .unary op e => op.lexeme :: enclosed op.rank e.rank e.lexemes
  | .binary op left right =>
    enclosed op.leftRank left.rank left.lexemes ++
      op.lexeme :: enclosed op.rightRank right.rank right.lexemes
  | .chain first op second more =>
    enclosed (chainRank - 1) first.rank first.lexemes ++
      .sign (.compare op) :: (enclosed (chainRank - 1) second.rank second.lexemes ++
        linkLexemes more)
  | .call f [] => f.lexemes ++ [Lexeme.leftParen, Lexeme.rightParen]
  | .call f (e :: es) =>
    f.lexemes ++ Lexeme.leftParen :: (e.lexemes ++ (furtherLexemes es ++ [Lexeme.rightParen]))
termination_by structural e => e

def linkLexemes : List (Comparison × Tree) → List Lexeme
  | [] => []
  | (op, e) :: more =>
    .sign (.compare op) :: (enclosed (chainRank - 1) e.rank e.lexemes ++ linkLexemes more)
termination_by structural more => more

def furtherLexemes : List Tree → List Lexeme
  | [] => []
  | e :: es => .comma :: (e.lexemes ++ furtherLexemes es)
termination_by structural es => es

end

def Tree.within (most : Nat) (e : Tree) : List Lexeme := enclosed most e.rank e.lexemes

/-- A text that a tree is written as: its lexemes in order, with blanks between them. -/
def Tree.WrittenAs (e : Tree) (t : Text) : Prop := Spread e.lexemes t

end LineScript.Arith
