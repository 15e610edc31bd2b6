import LineScript.Proofs.Arith.Grammar
import LineScript.Proofs.Arith.Tree

/-!
# Trees are read back from their tokens

The readers of the grammar form a tower, one for each rank, each made from the one below it
(`reader`).  The tokens of a tree are read back as the tree by the reader of its rank, and then by
all readers above it, whatever stands behind them that is not a part of it (`reads`); in parentheses
they are read by the reader at the bottom.
-/

namespace LineScript.Arith

mutual

def Tree.expr : Tree → Expr
  | .numeral n =>
    .literal (if n.isWhole then .integer (Int64.ofInt (Integer.natOfDigits n.whole))
      else .float n.float)
  | .string q => .literal (.string (String.ofList q.body))
  | .constant c _ =>
    match c with
    | .yes => .literal (.boolean true)
    | .no => .literal (.boolean false)
    | .nothing => .literal .null
  | .name n => .name n.full
  | .parens e => e.expr
  | .unary op e => .unary op e.expr
  | .binary op left right => .binary op left.expr right.expr
  | .chain first op second more => .chain first.expr ((op, second.expr) :: linkExprs more)
  | .call f arguments => .call f.full (exprs arguments)
termination_by structural e => e

def linkExprs : List (Comparison × Tree) → List (Comparison × Expr)
  | [] => []
  | (op, e) :: more => (op, e.expr) :: linkExprs more
termination_by structural more => more

def exprs : List Tree → List Expr
  | [] => []
  | e :: es => e.expr :: exprs es
termination_by structural es => es

end

def tokens (as : List Lexeme) : List Token := as.map Lexeme.token

@[simp] theorem tokens_nil : tokens [] = [] := rfl

@[simp] theorem tokens_cons (a : Lexeme) (as : List Lexeme) :
    tokens (a :: as) = a.token :: tokens as := rfl

@[simp] theorem tokens_append (as bs : List Lexeme) :
    tokens (as ++ bs) = tokens as ++ tokens bs := List.map_append

/-! ## The tower of readers -/

def groupOperator? : Nat → Token → Option Binary
  | 3 => productOperator?
  | 4 => sumOperator?
  | 7 => andOperator?
  | 8 => orOperator?
  | _ => fun _ => none

def layer (depth : Nat) (below : Parser) : Nat → Parser
  | 1 => powered below (operand depth)
  | 2 => signed below
  | 5 => chained below
  | 6 => negated below
  | rank => leftGrouped (groupOperator? rank) below

def reader (depth : Nat) : Nat → Parser
  | 0 => atom (expression (operand depth))
  | rank + 1 => layer depth (reader depth rank) (rank + 1)

theorem reader_signed (depth : Nat) : reader depth 2 = operand (depth + 1) := rfl

theorem reader_top (depth : Nat) : reader depth topRank = expression (operand (depth + 1)) := rfl

/-- The rank of the construct that goes on with a token; none goes on with a token of rank 9. -/
def Token.joins : Token → Nat
  | .leftParen | .dot => 0
  | .sign .power => 1
  | .sign .times | .sign .divide | .sign .floorDivide | .sign .percent => 3
  | .sign .plus | .sign .minus => 4
  | .sign (.compare _) => chainRank
  | .word w => if w = "and" then 7 else if w = "or" then 8 else 9
  | _ => 9

/-- The rank of the construct that a token starts; no construct starts with a token of rank 9. -/
def Token.leads : Token → Nat
  | .word w => if w = "not" then 6 else 0
  | .sign .minus | .sign .plus => 2
  | .rightParen => 9
  | _ => 0

def Stops (most : Nat) (ts : List Token) : Prop := ∀ t ∈ ts.head?, most < t.joins

theorem Stops.nil (most : Nat) : Stops most [] := by simp [Stops]

theorem Stops.cons {most : Nat} {t : Token} (h : most < t.joins) (ts : List Token) :
    Stops most (t :: ts) := by
  intro u hu
  cases hu
  exact h

theorem Stops.mono {least most : Nat} {ts : List Token} (h : Stops most ts) (hle : least ≤ most) :
    Stops least ts := fun t ht => Nat.lt_of_le_of_lt hle (h t ht)

def IsGroup (rank : Nat) : Prop := rank = 3 ∨ rank = 4 ∨ rank = 7 ∨ rank = 8

theorem reader_group {rank : Nat} (h : IsGroup rank) (depth : Nat) :
    reader depth rank = leftGrouped (groupOperator? rank) (reader depth (rank - 1)) := by
  rcases h with rfl | rfl | rfl | rfl <;> rfl

theorem joins_of_groupOperator? {rank : Nat} (h : IsGroup rank) {t : Token} {op : Binary}
    (ht : groupOperator? rank t = some op) : t.joins = rank := by
  -- the four groups, each with a table of its own
  rcases h with rfl | rfl | rfl | rfl
  · change productOperator? t = some op at ht
    unfold productOperator? at ht
    split at ht <;> first | rfl | cases ht
  · change sumOperator? t = some op at ht
    unfold sumOperator? at ht
    split at ht <;> first | rfl | cases ht
  · change andOperator? t = some op at ht
    unfold andOperator? at ht
    split at ht
    · split at ht
      · next hw => subst hw; rfl
      · cases ht
    · cases ht
  · change orOperator? t = some op at ht
    unfold orOperator? at ht
    split at ht
    · split at ht
      · next hw => subst hw; rfl
      · cases ht
    · cases ht

section Layers

variable {operator? : Token → Option Binary} {operand base exponent : Parser} {us ts : List Token}
  {x : Expr} {count : Nat}

theorem leftTail_of_stop (h : ∀ t ∈ ts.head?, operator? t = none) :
    leftTail operator? operand count x ts = some (x, ts) := by
  cases count with
  | zero => rfl
  | succ count =>
    cases ts with
    | nil => rfl
    | cons t ts => rw [leftTail, h t rfl]

theorem leftGrouped_of_operand (h : operand us = some (x, ts)) :
    leftGrouped operator? operand us = leftTail operator? operand ts.length x ts := by
  unfold leftGrouped
  rw [h]

theorem signed_of_operand (h : ∀ t ∈ us.head?, t ≠ .sign .minus ∧ t ≠ .sign .plus) :
    signed operand us = operand us := by
  unfold signed
  split
  · exact absurd rfl (h _ rfl).1
  · exact absurd rfl (h _ rfl).2
  · rfl

theorem negated_of_operand (h : ∀ t ∈ us.head?, t ≠ .word "not") : negated operand us = operand us := by
  unfold negated
  split
  · split
    · next hw => exact absurd (congrArg Token.word hw) (h _ rfl)
    · rfl
  · rfl

theorem powered_of_base (h : base us = some (x, ts)) (hstop : ∀ t ∈ ts.head?, t ≠ .sign .power) :
    powered base exponent us = some (x, ts) := by
  unfold powered
  rw [h]
  split
  · next hbase => cases hbase; exact absurd rfl (hstop _ rfl)
  · rfl

theorem chainTail_of_stop (h : ∀ t ∈ ts.head?, ∀ op, t ≠ .sign (.compare op)) :
    chainTail operand count ts = some ([], ts) := by
  unfold chainTail
  split
  · exact absurd rfl (h _ rfl _)
  · rfl

theorem chained_of_operand (h : operand us = some (x, ts))
    (hstop : ∀ t ∈ ts.head?, ∀ op, t ≠ .sign (.compare op)) :
    chained operand us = some (x, ts) := by
  unfold chained
  rw [h]
  simp only [chainTail_of_stop hstop]

end Layers

/-- What a reader has read is read by the reader above it as well, unless that one knows more to do
with the tokens in front or behind. -/
theorem reader_succ {depth rank : Nat} {us ts : List Token} {x : Expr} (hrank : rank < topRank)
    (hread : reader depth rank us = some (x, ts)) (hleads : ∀ t ∈ us.head?, t.leads ≤ rank)
    (hjoins : ∀ t ∈ ts.head?, t.joins ≠ rank + 1) : reader depth (rank + 1) us = some (x, ts) := by
  by_cases hgroup : IsGroup (rank + 1)
  · rw [reader_group hgroup, Nat.add_sub_cancel, leftGrouped_of_operand hread]
    refine leftTail_of_stop fun t ht => ?_
    -- an operator of the row would go on with it, and the tokens behind do not
    cases hop : groupOperator? (rank + 1) t with
    | none => rfl
    | some op => exact absurd (joins_of_groupOperator? hgroup hop) (hjoins t ht)
  · -- the layers that are left, each of which looks for a token of its own in front or behind
    have hcases : rank = 0 ∨ rank = 1 ∨ rank = 4 ∨ rank = 5 := by
      unfold IsGroup at hgroup
      unfold topRank at hrank
      omega
    rcases hcases with rfl | rfl | rfl | rfl
    · refine powered_of_base hread fun t ht => ?_
      rintro rfl
      exact absurd rfl (hjoins _ ht)
    · refine (signed_of_operand fun t ht => ⟨?_, ?_⟩).trans hread
      · rintro rfl
        exact absurd (hleads _ ht) (by decide)
      · rintro rfl
        exact absurd (hleads _ ht) (by decide)
    · refine chained_of_operand hread fun t ht op => ?_
      rintro rfl
      exact absurd rfl (hjoins _ ht)
    · refine (negated_of_operand fun t ht => ?_).trans hread
      rintro rfl
      exact absurd (hleads _ ht) (by decide)

/-- A reader reads what a reader below it has read, if no reader in between goes on with the tokens
behind. -/
theorem reader_above {depth low high : Nat} {us ts : List Token} {x : Expr} (hle : low ≤ high)
    (hhigh : high ≤ topRank) (hread : reader depth low us = some (x, ts))
    (hleads : ∀ t ∈ us.head?, t.leads ≤ low)
    (hjoins : ∀ t ∈ ts.head?, t.joins ≤ low ∨ high < t.joins) :
    reader depth high us = some (x, ts) := by
  induction hle with
  | refl => exact hread
  | @step high hle ih =>
    have hle' : low ≤ high := hle
    have hbelow := ih (by omega) fun t ht => (hjoins t ht).imp_right (by omega)
    refine reader_succ (by omega) hbelow (fun t ht => Nat.le_trans (hleads t ht) hle') fun t ht => ?_
    have hne := hjoins t ht
    omega

theorem reader_mono {depth low high : Nat} {us ts : List Token} {x : Expr} (hle : low ≤ high)
    (hhigh : high ≤ topRank) (hread : reader depth low us = some (x, ts))
    (hleads : ∀ t ∈ us.head?, t.leads ≤ low) (hstops : Stops high ts) :
    reader depth high us = some (x, ts) :=
  reader_above hle hhigh hread hleads fun t ht => .inr (hstops t ht)

/-! ## How a tree starts -/

theorem rank_le_top (e : Tree) : e.rank ≤ topRank := by
  cases e with
  | unary op _ =>
    show op.rank ≤ topRank
    cases op <;> decide
  | binary op _ _ =>
    show op.rank ≤ topRank
    cases op <;> decide
  | chain =>
    show chainRank ≤ topRank
    decide
  | _ => exact Nat.zero_le topRank

theorem within_of_le {e : Tree} {most : Nat} (h : e.rank ≤ most) : e.within most = e.lexemes :=
  if_pos h

theorem within_of_lt {e : Tree} {most : Nat} (h : most < e.rank) :
    e.within most = .leftParen :: (e.lexemes ++ [Lexeme.rightParen]) := if_neg (Nat.not_le.mpr h)

def Starts (most : Nat) (as : List Lexeme) : Prop :=
  ∃ a bs, as = a :: bs ∧ a.token.leads ≤ most

theorem Starts.append {most : Nat} {as : List Lexeme} (h : Starts most as) (bs : List Lexeme) :
    Starts most (as ++ bs) := by
  obtain ⟨a, as', rfl, ha⟩ := h
  exact ⟨a, as' ++ bs, rfl, ha⟩

theorem Starts.mono {least most : Nat} {as : List Lexeme} (h : Starts least as)
    (hle : least ≤ most) : Starts most as := by
  obtain ⟨a, bs, has, ha⟩ := h
  exact ⟨a, bs, has, Nat.le_trans ha hle⟩

theorem Starts.leads {most : Nat} {as : List Lexeme} (h : Starts most as) (ts : List Token) :
    ∀ t ∈ (tokens as ++ ts).head?, t.leads ≤ most := by
  obtain ⟨a, bs, rfl, ha⟩ := h
  intro t ht
  cases ht
  exact ha

theorem starts_within {e : Tree} (h : Starts e.rank e.lexemes) (most : Nat) :
    Starts most (e.within most) := by
  by_cases hle : e.rank ≤ most
  · rw [within_of_le hle]
    exact h.mono hle
  · rw [within_of_lt (Nat.not_le.mp hle)]
    exact ⟨.leftParen, _, rfl, Nat.zero_le most⟩

theorem leads_of_free {w : Identifier} (h : w.name ∉ reserved) :
    (Token.word w.name).leads = 0 := by
  have hne : w.name ≠ "not" := fun hw => h (by rw [hw]; decide)
  exact if_neg hne

theorem Name.starts_lexemes (n : Name) : Starts 0 n.lexemes := by
  cases n with
  | plain w hfree => exact ⟨.word w, [], rfl, Nat.le_of_eq (leads_of_free hfree)⟩
  | math member => exact ⟨.word word_math, _, rfl, by decide⟩

theorem starts_lexemes (e : Tree) : Starts e.rank e.lexemes := by
  induction e with
  | numeral n =>
    refine ⟨.numeral n, [], rfl, Nat.le_of_eq ?_⟩
    show n.token.leads = 0
    unfold Numeral.token
    split <;> rfl
  | string q => exact ⟨.string q, [], rfl, Nat.le_refl 0⟩
  | constant c python =>
    refine ⟨.word (c.word python), [], rfl, ?_⟩
    show (Token.word (c.word python).name).leads ≤ 0
    cases c <;> cases python <;> decide
  | name n => exact n.starts_lexemes
  | parens e _ => exact ⟨.leftParen, _, rfl, Nat.le_refl 0⟩
  | unary op e _ =>
    refine ⟨op.lexeme, _, rfl, ?_⟩
    show op.lexeme.token.leads ≤ op.rank
    cases op <;> decide
  | binary op left right ihleft _ =>
    -- a row starts with its left operand, which may not be looser than the operator
    have hle : op.leftRank ≤ op.rank := by cases op <;> decide
    exact ((starts_within ihleft op.leftRank).append _).mono hle
  | chain first op second more ihfirst _ _ =>
    exact ((starts_within ihfirst (chainRank - 1)).append _).mono (Nat.pred_le chainRank)
  | call f arguments _ =>
    cases arguments with
    | nil => exact f.starts_lexemes.append _
    | cons e es => exact f.starts_lexemes.append _

/-! ## What is read of a tree -/

def Own (e : Tree) : Prop :=
  ∀ depth ts, e.lexemes.length ≤ depth + 1 → Stops e.rank ts →
    reader depth e.rank (tokens e.lexemes ++ ts) = some (e.expr, ts)

/-- The reader of a rank reads a tree that is written where that rank may stand. -/
def Reads (e : Tree) (most : Nat) : Prop :=
  ∀ depth ts, (e.within most).length ≤ depth + 1 → Stops most ts →
    reader depth most (tokens (e.within most) ++ ts) = some (e.expr, ts)

theorem atom_parens {e : Tree} (hown : Own e) {depth : Nat} (hdepth : e.lexemes.length ≤ depth + 1)
    (ts : List Token) :
    reader (depth + 1) 0 (.leftParen :: (tokens e.lexemes ++ Token.rightParen :: ts)) =
      some (e.expr, ts) := by
  have hstops : Stops topRank (.rightParen :: ts) := Stops.cons (by decide) ts
  have hread := hown depth (.rightParen :: ts) hdepth (hstops.mono (rank_le_top e))
  have hinner := reader_mono (rank_le_top e) (Nat.le_refl topRank) hread
    ((starts_lexemes e).leads _) hstops
  rw [reader_top] at hinner
  show atom (expression (operand (depth + 1))) _ = _
  simp only [atom, hinner]

theorem reads {e : Tree} (hown : Own e) {most : Nat} (hmost : most ≤ topRank) : Reads e most := by
  intro depth ts hdepth hstops
  by_cases hle : e.rank ≤ most
  · rw [within_of_le hle] at hdepth ⊢
    have hread := hown depth ts hdepth (hstops.mono hle)
    exact reader_mono hle hmost hread ((starts_lexemes e).leads ts) hstops
  · -- in parentheses, the tree is read one level further in, and then stands alone
    rw [within_of_lt (Nat.not_le.mp hle)] at hdepth ⊢
    simp only [List.length_cons, List.length_append, List.length_nil] at hdepth
    obtain ⟨inner, rfl⟩ : ∃ inner, depth = inner + 1 := ⟨depth - 1, by omega⟩
    have hread := atom_parens hown (by omega : e.lexemes.length ≤ inner + 1) ts
    have htokens : tokens (.leftParen :: (e.lexemes ++ [Lexeme.rightParen])) ++ ts =
        .leftParen :: (tokens e.lexemes ++ Token.rightParen :: ts) := by
      simp [Lexeme.token]
    rw [htokens]
    refine reader_mono (Nat.zero_le most) hmost hread (fun t ht => ?_) hstops
    cases ht
    exact Nat.le_refl 0

/-! ## Operators that group to the left -/

/-- The reader of a group reads a tree as far as the operators that follow it, and goes on with
these. -/
def ReadsRow (e : Tree) (rank : Nat) : Prop :=
  ∀ depth ts, (e.within rank).length ≤ depth + 1 → Stops (rank - 1) ts →
    ∃ count, ts.length ≤ count ∧ reader depth rank (tokens (e.within rank) ++ ts) =
      leftTail (groupOperator? rank) (reader depth (rank - 1)) count e.expr ts

theorem readsRow_of_ne {e : Tree} {rank : Nat} (hown : Own e) (hgroup : IsGroup rank)
    (hne : e.rank ≠ rank) : ReadsRow e rank := by
  have hbounds : 0 < rank ∧ rank ≤ topRank := by
    unfold IsGroup at hgroup
    unfold topRank
    omega
  have hsame : e.within rank = e.within (rank - 1) := by
    by_cases hle : e.rank ≤ rank
    · rw [within_of_le hle, within_of_le (by omega)]
    · rw [within_of_lt (by omega), within_of_lt (by omega)]
  intro depth ts hdepth hstops
  rw [hsame] at hdepth ⊢
  have hread := reads hown (by omega : rank - 1 ≤ topRank) depth ts hdepth hstops
  refine ⟨ts.length, Nat.le_refl _, ?_⟩
  rw [reader_group hgroup]
  exact leftGrouped_of_operand hread

theorem groupOperator?_lexeme {op : Binary} (h : IsGroup op.rank) :
    groupOperator? op.rank op.lexeme.token = some op ∧ op.leftRank = op.rank ∧
      op.rightRank = op.rank - 1 := by
  unfold IsGroup at h
  cases op with
  | power => simp [Binary.rank] at h
  | _ => exact ⟨rfl, rfl, rfl⟩

theorem joins_binary (op : Binary) : op.lexeme.token.joins = op.rank := by
  cases op <;> rfl

theorem readsRow_binary {op : Binary} {left right : Tree} (hgroup : IsGroup op.rank)
    (hleft : ReadsRow left op.rank) (hright : Own right) :
    ReadsRow (.binary op left right) op.rank := by
  obtain ⟨hoperator, hleftRank, hrightRank⟩ := groupOperator?_lexeme hgroup
  have hbounds : 0 < op.rank ∧ op.rank ≤ topRank := by
    unfold IsGroup at hgroup
    unfold topRank
    omega
  intro depth ts hdepth hstops
  have hlexemes : (Tree.binary op left right).within op.rank =
      left.within op.rank ++ op.lexeme :: right.within (op.rank - 1) := by
    rw [within_of_le (Nat.le_refl op.rank)]
    show enclosed op.leftRank _ _ ++ _ :: enclosed op.rightRank _ _ = _
    rw [hleftRank, hrightRank]
    rfl
  rw [hlexemes] at hdepth ⊢
  simp only [List.length_append, List.length_cons] at hdepth
  -- the row of the left operand goes on with this operator, and the reader of operands takes the right one
  obtain ⟨count, hcount, hrow⟩ := hleft depth
    (op.lexeme.token :: (tokens (right.within (op.rank - 1)) ++ ts)) (by omega)
    (Stops.cons (by rw [joins_binary]; omega) _)
  have hread := reads hright (by omega : op.rank - 1 ≤ topRank) depth ts (by omega) hstops
  simp only [List.length_cons, List.length_append] at hcount
  obtain ⟨count, rfl⟩ : ∃ n, count = n + 1 := ⟨count - 1, by omega⟩
  refine ⟨count, by omega, ?_⟩
  simp only [tokens_append, tokens_cons, List.append_assoc, List.cons_append]
  rw [hrow, leftTail, hoperator]
  simp only [hread]
  rfl

theorem own_of_readsRow {e : Tree} (hgroup : IsGroup e.rank) (hrow : ReadsRow e e.rank) : Own e := by
  intro depth ts hdepth hstops
  have hwithin : e.within e.rank = e.lexemes := within_of_le (Nat.le_refl _)
  obtain ⟨count, -, hread⟩ := hrow depth ts (by rw [hwithin]; exact hdepth)
    (hstops.mono (Nat.pred_le _))
  rw [hwithin] at hread
  rw [hread]
  refine leftTail_of_stop fun t ht => ?_
  cases hop : groupOperator? e.rank t with
  | none => rfl
  | some op =>
    have hjoins := joins_of_groupOperator? hgroup hop
    have hlt := hstops t ht
    omega

/-! ## The other constructs -/

theorem own_parens {e : Tree} (hown : Own e) : Own (.parens e) := by
  intro depth ts hdepth _
  have hlexemes : (Tree.parens e).lexemes = .leftParen :: (e.lexemes ++ [Lexeme.rightParen]) := rfl
  rw [hlexemes] at hdepth ⊢
  simp only [List.length_cons, List.length_append, List.length_nil] at hdepth
  obtain ⟨inner, rfl⟩ : ∃ inner, depth = inner + 1 := ⟨depth - 1, by omega⟩
  have hread := atom_parens hown (by omega : e.lexemes.length ≤ inner + 1) ts
  simp only [tokens_cons, tokens_append, tokens_nil, List.append_assoc, List.cons_append,
    List.nil_append, Lexeme.token]
  exact hread

theorem reader_unary (depth : Nat) (op : Unary) (us : List Token) :
    reader depth op.rank (op.lexeme.token :: us) =
      (reader depth op.rank us).map fun (e, rest) => (.unary op e, rest) := by
  cases op with
  | not =>
    show negated (reader depth 5) (.word word_not.name :: us) = _
    rw [negated, if_pos (by decide)]
    rfl
  | minus => rfl
  | plus => rfl

theorem own_unary {op : Unary} {e : Tree} (hown : Own e) : Own (.unary op e) := by
  intro depth ts hdepth hstops
  have hlexemes : (Tree.unary op e).lexemes = op.lexeme :: e.within op.rank := rfl
  have hrank : op.rank ≤ topRank := by cases op <;> decide
  rw [hlexemes] at hdepth ⊢
  simp only [List.length_cons] at hdepth
  have hread := reads hown hrank depth ts (by omega) hstops
  rw [tokens_cons, List.cons_append]
  show reader depth op.rank _ = _
  rw [reader_unary, hread]
  rfl

theorem own_power {base exponent : Tree} (hbase : Own base) (hexponent : Own exponent) :
    Own (.binary .power base exponent) := by
  intro depth ts hdepth hstops
  have hlexemes : (Tree.binary .power base exponent).lexemes =
      base.within 0 ++ Lexeme.sign .power :: exponent.within 2 := rfl
  rw [hlexemes] at hdepth ⊢
  simp only [List.length_append, List.length_cons] at hdepth
  -- the base has at least one lexeme, so a level is left for the exponent
  obtain ⟨a, as, hstart, -⟩ := starts_within (starts_lexemes base) 0
  rw [hstart, List.length_cons] at hdepth
  obtain ⟨inner, rfl⟩ : ∃ inner, depth = inner + 1 := ⟨depth - 1, by omega⟩
  have hpower : Stops 0 (.sign .power :: (tokens (exponent.within 2) ++ ts)) :=
    Stops.cons (by decide) _
  have hreadBase := reads hbase (Nat.zero_le topRank) (inner + 1) _
    (by rw [hstart, List.length_cons]; omega) hpower
  have hstops' : Stops 2 ts := by
    -- no token goes on with a construct of the rank of signs
    intro t ht
    have hlt : 1 < t.joins := hstops t ht
    have hne : t.joins ≠ 2 := by
      unfold Token.joins
      split <;> first | decide | (split; decide; split <;> decide)
    omega
  -- `operand` of one level is the reader of rank 2 of the level below
  have hreadExponent := reads hexponent (by decide : 2 ≤ topRank) inner ts (by omega) hstops'
  simp only [tokens_append, tokens_cons, List.append_assoc, List.cons_append]
  show powered (reader (inner + 1) 0) (operand (inner + 1))
    (tokens (base.within 0) ++ Token.sign .power :: (tokens (exponent.within 2) ++ ts)) = _
  unfold powered
  rw [hreadBase]
  rw [reader_signed] at hreadExponent
  simp only [hreadExponent]
  rfl

theorem length_tokens (as : List Lexeme) : (tokens as).length = as.length := List.length_map _

theorem chainTail_links {depth count : Nat} {more : List (Comparison × Tree)} {ts : List Token}
    (hown : ∀ link ∈ more, Own link.2) (hdepth : (linkLexemes more).length ≤ depth + 1)
    (hcount : (linkLexemes more).length ≤ count) (hstops : Stops chainRank ts) :
    chainTail (reader depth (chainRank - 1)) count (tokens (linkLexemes more) ++ ts) =
      some (linkExprs more, ts) := by
  induction more generalizing count with
  | nil =>
    refine chainTail_of_stop fun t ht op => ?_
    rintro rfl
    exact absurd (hstops _ ht) (Nat.lt_irrefl chainRank)
  | cons link more ih =>
    obtain ⟨op, e⟩ := link
    have hlexemes : linkLexemes ((op, e) :: more) =
        .sign (.compare op) :: (e.within (chainRank - 1) ++ linkLexemes more) := rfl
    rw [hlexemes] at hdepth hcount ⊢
    simp only [List.length_cons, List.length_append] at hdepth hcount
    obtain ⟨count, rfl⟩ : ∃ n, count = n + 1 := ⟨count - 1, by omega⟩
    -- behind an operand stands the next comparison, or what the chain stops at
    have hnext : Stops (chainRank - 1) (tokens (linkLexemes more) ++ ts) := by
      cases more with
      | nil => exact hstops.mono (Nat.pred_le chainRank)
      | cons link' more' => exact Stops.cons (show chainRank - 1 < chainRank by decide) _
    have he : Own e := hown (op, e) List.mem_cons_self
    have hread := reads he (by decide : chainRank - 1 ≤ topRank) depth _ (by omega) hnext
    have hmore := @ih count (fun link hlink => hown link (List.mem_cons_of_mem _ hlink))
      (by omega) (by omega)
    simp only [tokens_cons, tokens_append, List.cons_append, List.append_assoc]
    show chainTail _ (count + 1) (.sign (.compare op) :: _) = _
    rw [chainTail, hread]
    simp only [hmore]
    rfl

theorem own_chain {first second : Tree} {op : Comparison} {more : List (Comparison × Tree)}
    (hfirst : Own first) (hsecond : Own second) (hmore : ∀ link ∈ more, Own link.2) :
    Own (.chain first op second more) := by
  intro depth ts hdepth hstops
  have hlexemes : (Tree.chain first op second more).lexemes =
      first.within (chainRank - 1) ++ linkLexemes ((op, second) :: more) := rfl
  rw [hlexemes] at hdepth ⊢
  simp only [List.length_append] at hdepth
  have hlinks : ∀ link ∈ (op, second) :: more, Own link.2 := by
    intro link hlink
    rcases List.mem_cons.mp hlink with rfl | hlink
    · exact hsecond
    · exact hmore link hlink
  have hread := reads hfirst (by decide : chainRank - 1 ≤ topRank) depth
    (tokens (linkLexemes ((op, second) :: more)) ++ ts) (by omega)
    (Stops.cons (show chainRank - 1 < chainRank by decide) _)
  -- each turn of the loop takes a token at least, so that the turns suffice
  have hcount : (linkLexemes ((op, second) :: more)).length ≤
      (tokens (linkLexemes ((op, second) :: more)) ++ ts).length := by
    rw [List.length_append, length_tokens]
    omega
  have htail := chainTail_links hlinks
    (by omega : (linkLexemes ((op, second) :: more)).length ≤ depth + 1) hcount hstops
  rw [tokens_append, List.append_assoc]
  show chained (reader depth (chainRank - 1)) _ = _
  unfold chained
  rw [hread]
  simp only [htail]
  rfl

/-! ## Names and calls -/

theorem wordLiteral?_of_free {w : Identifier} (h : w.name ∉ reserved) :
    wordLiteral? w.name = none := by
  have hne : ∀ k ∈ reserved, w.name ≠ k := fun k hk hw => h (hw ▸ hk)
  unfold wordLiteral?
  rw [if_neg, if_neg, if_neg]
  · exact not_or.mpr ⟨hne "null" (by decide), hne "None" (by decide)⟩
  · exact not_or.mpr ⟨hne "false" (by decide), hne "False" (by decide)⟩
  · exact not_or.mpr ⟨hne "true" (by decide), hne "True" (by decide)⟩

theorem atom_name {inner : Parser} {n : Name} {ts : List Token} (h : ∀ t ∈ ts.head?, t ≠ .dot) :
    atom inner (tokens n.lexemes ++ ts) = named inner n.full ts := by
  cases n with
  | plain w hfree =>
    show worded inner w.name ts = _
    unfold worded
    rw [wordLiteral?_of_free hfree]
    split
    · next hsome => cases hsome
    · exact absurd rfl (h _ rfl)
    · rfl
  | math member => rfl

theorem own_name (n : Name) : Own (.name n) := by
  intro depth ts _ hstops
  have hdot : ∀ t ∈ ts.head?, t ≠ .dot := by
    intro t ht
    rintro rfl
    exact absurd (hstops _ ht) (Nat.lt_irrefl 0)
  show atom _ (tokens n.lexemes ++ ts) = _
  rw [atom_name hdot]
  unfold named
  split
  · exact absurd (hstops _ rfl) (Nat.lt_irrefl 0)
  · rfl

theorem argumentsFrom_further {depth count : Nat} {e : Tree} {es : List Tree}
    (hown : ∀ a ∈ e :: es, Own a)
    (hdepth : (e.lexemes ++ furtherLexemes es).length ≤ depth + 1)
    (hcount : (furtherLexemes es).length < count) (ts : List Token) :
    argumentsFrom (reader depth topRank) count
        (tokens e.lexemes ++ (tokens (furtherLexemes es) ++ Token.rightParen :: ts)) =
      some (exprs (e :: es), ts) := by
  rw [List.length_append] at hdepth
  have hwithin : e.within topRank = e.lexemes := within_of_le (rank_le_top e)
  obtain ⟨count, rfl⟩ : ∃ n, count = n + 1 := ⟨count - 1, by omega⟩
  have he : Own e := hown e List.mem_cons_self
  induction es generalizing e count with
  | nil =>
    -- the last argument ends at the parenthesis, the others at a comma
    have hread := reads he (Nat.le_refl topRank) depth (.rightParen :: ts) (by rw [hwithin]; omega)
      (Stops.cons (by decide) ts)
    rw [hwithin] at hread
    show argumentsFrom _ (count + 1) (tokens e.lexemes ++ Token.rightParen :: ts) = _
    rw [argumentsFrom, hread]
    rfl
  | cons e' es ih =>
    have hlexemes : furtherLexemes (e' :: es) = .comma :: (e'.lexemes ++ furtherLexemes es) := rfl
    rw [hlexemes] at hdepth hcount ⊢
    simp only [List.length_cons, List.length_append] at hdepth hcount
    have hread := reads he (Nat.le_refl topRank) depth
      (.comma :: (tokens e'.lexemes ++ (tokens (furtherLexemes es) ++ Token.rightParen :: ts)))
      (by rw [hwithin]; omega) (Stops.cons (by decide) _)
    rw [hwithin] at hread
    obtain ⟨count, rfl⟩ : ∃ n, count = n + 1 := ⟨count - 1, by omega⟩
    have hown' : ∀ a ∈ e' :: es, Own a := fun a ha => hown a (List.mem_cons_of_mem e ha)
    have hmore := ih hown' (by omega) (within_of_le (rank_le_top e')) count (by omega)
      (hown' e' List.mem_cons_self)
    simp only [tokens_cons, tokens_append, List.cons_append, List.append_assoc]
    show argumentsFrom _ (count + 1 + 1) (tokens e.lexemes ++ Token.comma :: _) = _
    rw [argumentsFrom, hread]
    simp only [hmore]
    rfl

theorem arguments_further {depth : Nat} {e : Tree} {es : List Tree} (hown : ∀ a ∈ e :: es, Own a)
    (hdepth : (e.lexemes ++ furtherLexemes es).length ≤ depth + 1) (ts : List Token) :
    arguments (reader depth topRank)
        (tokens e.lexemes ++ (tokens (furtherLexemes es) ++ Token.rightParen :: ts)) =
      some (exprs (e :: es), ts) := by
  obtain ⟨a, as, hstart, ha⟩ := starts_lexemes e
  have hcount : (furtherLexemes es).length <
      (tokens e.lexemes ++ (tokens (furtherLexemes es) ++ Token.rightParen :: ts)).length := by
    simp only [List.length_append, length_tokens, List.length_cons]
    omega
  unfold arguments
  split
  · next hclose =>
    rw [hstart] at hclose
    have hparen := (List.cons.inj hclose).1
    have hrank := rank_le_top e
    rw [hparen] at ha
    exact absurd (Nat.le_trans ha hrank) (by decide)
  · exact argumentsFrom_further hown hdepth hcount ts

theorem own_call {f : Name} {es : List Tree} (hown : ∀ e ∈ es, Own e) : Own (.call f es) := by
  intro depth ts hdepth _
  have hparen : ∀ us : List Token, ∀ t ∈ (Token.leftParen :: us).head?, t ≠ .dot := by
    intro us t ht
    cases ht
    decide
  cases es with
  | nil =>
    have hlexemes : (Tree.call f []).lexemes =
        f.lexemes ++ [Lexeme.leftParen, Lexeme.rightParen] := rfl
    rw [hlexemes, tokens_append, List.append_assoc]
    exact atom_name (hparen _)
  | cons e es =>
    have hlexemes : (Tree.call f (e :: es)).lexemes =
        f.lexemes ++ Lexeme.leftParen ::
          (e.lexemes ++ (furtherLexemes es ++ [Lexeme.rightParen])) := rfl
    rw [hlexemes] at hdepth ⊢
    -- the name in front of the arguments leaves a level for what stands in parentheses
    have hname : 0 < f.lexemes.length := by
      obtain ⟨b, bs, hf, -⟩ := f.starts_lexemes
      rw [hf]
      exact Nat.succ_pos _
    simp only [List.length_append, List.length_cons, List.length_nil] at hdepth
    obtain ⟨inner, rfl⟩ : ∃ inner, depth = inner + 1 := ⟨depth - 1, by omega⟩
    have hinner : (e.lexemes ++ furtherLexemes es).length ≤ inner + 1 := by
      rw [List.length_append]
      omega
    have htokens : tokens (f.lexemes ++ Lexeme.leftParen ::
          (e.lexemes ++ (furtherLexemes es ++ [Lexeme.rightParen]))) ++ ts =
        tokens f.lexemes ++ Token.leftParen ::
          (tokens e.lexemes ++ (tokens (furtherLexemes es) ++ Token.rightParen :: ts)) := by
      simp [Lexeme.token]
    rw [htokens]
    show atom (reader inner topRank) _ = _
    rw [atom_name (hparen _)]
    show (arguments _ _).map _ = _
    rw [arguments_further hown hinner]
    rfl

/-! ## Trees -/

theorem own_numeral (n : Numeral) : Own (.numeral n) := by
  intro depth ts _ _
  show atom _ (n.token :: ts) = _
  unfold Numeral.token Tree.expr
  cases n.isWhole <;> rfl

theorem own_constant (c : Constant) (python : Bool) : Own (.constant c python) := by
  intro depth ts _ _
  show worded _ (c.word python).name ts = _
  cases c <;> cases python <;> rfl

/-- Every tree is read by the reader of its rank, and as an operand of every group. -/
theorem own_and_readsRow (e : Tree) : Own e ∧ ∀ rank, IsGroup rank → ReadsRow e rank := by
  have hother : ∀ {e : Tree}, Own e → ¬ IsGroup e.rank →
      Own e ∧ ∀ rank, IsGroup rank → ReadsRow e rank := by
    intro e hown hnot
    exact ⟨hown, fun rank hrank => readsRow_of_ne hown hrank fun heq => hnot (heq ▸ hrank)⟩
  have hzero : ¬ IsGroup 0 := by unfold IsGroup; omega
  -- only operators that group to the left give rows; a power reads its exponent one level further in
  induction e with
  | numeral n => exact hother (own_numeral n) hzero
  | string q => exact hother (fun _ _ _ _ => rfl) hzero
  | constant c python => exact hother (own_constant c python) hzero
  | name n => exact hother (own_name n) hzero
  | parens e ih => exact hother (own_parens ih.1) hzero
  | unary op e ih =>
    refine hother (own_unary ih.1) ?_
    show ¬ IsGroup op.rank
    unfold IsGroup
    cases op <;> decide
  | binary op left right ihleft ihright =>
    by_cases hgroup : IsGroup op.rank
    · have hrow := readsRow_binary hgroup (ihleft.2 op.rank hgroup) ihright.1
      have hown : Own (.binary op left right) := own_of_readsRow hgroup hrow
      refine ⟨hown, fun rank hrank => ?_⟩
      by_cases heq : op.rank = rank
      · subst heq
        exact hrow
      · exact readsRow_of_ne hown hrank heq
    · have hpower : op = .power := by
        unfold IsGroup at hgroup
        cases op with
        | power => rfl
        | _ => simp [Binary.rank] at hgroup
      subst hpower
      exact hother (own_power ihleft.1 ihright.1) hgroup
  | chain first op second more ihfirst ihsecond ihmore =>
    refine hother (own_chain ihfirst.1 ihsecond.1 fun link hlink => (ihmore link hlink).1) ?_
    show ¬ IsGroup chainRank
    unfold IsGroup chainRank
    omega
  | call f arguments ih => exact hother (own_call fun e he => (ih e he).1) hzero

/-- The tokens of a tree are read as its expression. -/
theorem ofTokens?_lexemes (e : Tree) : Expr.ofTokens? (tokens e.lexemes) = some e.expr := by
  obtain ⟨a, as, hstart, -⟩ := starts_lexemes e
  have hlength : (tokens e.lexemes).length = as.length + 1 := by rw [length_tokens, hstart]; rfl
  have hwithin : e.within topRank = e.lexemes := within_of_le (rank_le_top e)
  have hread := reads (own_and_readsRow e).1 (Nat.le_refl topRank) as.length []
    (by rw [hwithin, hstart]; exact Nat.le_refl _) (Stops.nil topRank)
  rw [hwithin, List.append_nil, reader_top] at hread
  unfold Expr.ofTokens?
  rw [hlength, hread]

end LineScript.Arith
