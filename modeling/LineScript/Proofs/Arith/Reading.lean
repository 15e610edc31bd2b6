import LineScript.Proofs.Arith.Lexeme
import LineScript.Proofs.Arith.Part
import LineScript.Proofs.Except

/-!
# Evaluating while reading

The rules of arithmetic give the value of what they read as they read it. Each of them comes to the value of
the tree that the reader beside it reads, and to none where that reads nothing (`Evaluates`); so the value of
arithmetic text is that of the tree of its tokens (`evaluate_eq_ok_iff`).
-/

namespace LineScript.Arith

variable {vars : Table Value} {draws last : Draws} {v v' : Value} {ts rest : List Token}

/-! ## The values of trees -/

theorem eval_unary_eq_ok {op : Unary} {e : Expr} :
    (Expr.unary op e).eval vars draws = .ok (v, last) ↔
      ∃ x, e.eval vars draws = .ok (x, last) ∧ op.apply x = .ok v := by
  simp only [Expr.eval, Drawn.bind_eq_ok, liftM, Drawn.lift_eq_ok]
  constructor
  · rintro ⟨x, mid, he, hv, rfl⟩
    exact ⟨x, he, hv⟩
  · rintro ⟨x, he, hv⟩
    exact ⟨x, last, he, hv, rfl⟩

theorem eval_binary_eq_ok {op : Binary} {l r : Expr} :
    (Expr.binary op l r).eval vars draws = .ok (v, last) ↔
      ∃ x mid, l.eval vars draws = .ok (x, mid) ∧
        ∃ y, r.eval vars mid = .ok (y, last) ∧ op.apply x y = .ok v := by
  simp only [Expr.eval, Drawn.bind_eq_ok, liftM, Drawn.lift_eq_ok]
  constructor
  · rintro ⟨x, mid, hx, y, after, hy, hv, rfl⟩
    exact ⟨x, mid, hx, y, hy, hv⟩
  · rintro ⟨x, mid, hx, y, hy, hv⟩
    exact ⟨x, mid, hx, y, last, hy, hv, rfl⟩

/-! ## Rules and readers -/

/-- On a row of tokens a rule comes to what something that a reader reads there evaluates to, and leaves the
same tokens. -/
def Mirrors {σ α : Type} (eval : σ → Drawing α) (rule : Reader α)
    (read : List Token → Option (σ × List Token)) (ts : List Token) : Prop :=
  ∀ draws v rest last, rule ts draws = .ok ((v, rest), last) ↔
    ∃ e, read ts = some (e, rest) ∧ eval e draws = .ok (v, last)

def Evaluates (vars : Table Value) (rule : Reader Value) (read : Parser) : Prop :=
  ∀ ts, Mirrors (Expr.eval vars) rule read ts

section Mirrors

variable {σ α β : Type} {eval : σ → Drawing α} {rule : Reader α}
  {read : List Token → Option (σ × List Token)} {b : β}

theorem Mirrors.bind_eq_ok (h : Mirrors eval rule read ts) {next : α × List Token → Drawing β} :
    (rule ts >>= next) draws = .ok (b, last) ↔ ∃ e rest, read ts = some (e, rest) ∧
      ∃ v mid, eval e draws = .ok (v, mid) ∧ next (v, rest) mid = .ok (b, last) := by
  rw [Drawn.bind_eq_ok]
  constructor
  · rintro ⟨⟨v, rest⟩, mid, hv, hb⟩
    obtain ⟨e, he, hvalue⟩ := (h _ _ _ _).mp hv
    exact ⟨e, rest, he, v, mid, hvalue, hb⟩
  · rintro ⟨e, rest, he, v, mid, hv, hb⟩
    exact ⟨(v, rest), mid, (h _ _ _ _).mpr ⟨e, he, hv⟩, hb⟩

theorem Mirrors.bind_of_some (h : Mirrors eval rule read ts) {e : σ} (hread : read ts = some (e, rest))
    {next : α × List Token → Drawing β} : (rule ts >>= next) draws = .ok (b, last) ↔
      ∃ v mid, eval e draws = .ok (v, mid) ∧ next (v, rest) mid = .ok (b, last) := by
  rw [h.bind_eq_ok, hread]
  constructor
  · rintro ⟨_, _, heq, hv⟩
    cases heq
    exact hv
  · exact fun hv => ⟨e, rest, rfl, hv⟩

theorem Mirrors.bind_of_none (h : Mirrors eval rule read ts) (hread : read ts = none)
    {next : α × List Token → Drawing β} : (rule ts >>= next) draws ≠ .ok (b, last) := by
  intro hb
  obtain ⟨e, rest, he, -⟩ := h.bind_eq_ok.mp hb
  rw [hread] at he
  cases he

theorem Mirrors.map {τ : Type} {eval' : τ → Drawing β} {make : σ → τ} {next : α → Drawing β}
    (h : Mirrors eval rule read ts) (hmake : ∀ e, eval' (make e) = eval e >>= next) :
    Mirrors eval' (fun ts => do
      let (v, rest) ← rule ts
      return (← next v, rest)) (fun ts => (read ts).map fun (e, rest) => (make e, rest)) ts := by
  intro draws b rest last
  simp only [h.bind_eq_ok, Drawn.bind_eq_ok, Drawn.pure_eq_ok, Option.map_eq_some_iff, Prod.exists,
    Prod.mk.injEq]
  constructor
  · rintro ⟨e, after, hread, v, mid, hv, b', _, hb, ⟨rfl, rfl⟩, rfl⟩
    refine ⟨make e, ⟨e, _, hread, rfl, rfl⟩, ?_⟩
    rw [hmake, Drawn.bind_eq_ok]
    exact ⟨v, mid, hv, hb⟩
  · rintro ⟨d, ⟨e, after, hread, rfl, rfl⟩, hd⟩
    rw [hmake, Drawn.bind_eq_ok] at hd
    obtain ⟨v, mid, hv, hb⟩ := hd
    exact ⟨e, _, hread, v, mid, hv, b, last, hb, ⟨rfl, rfl⟩, rfl⟩

theorem mirrors_pure (eval : σ → Drawing α) (e : σ) {v : α} (h : eval e = pure v) (ts : List Token) :
    Mirrors eval (fun ts => pure (v, ts)) (fun ts => some (e, ts)) ts := by
  intro draws w rest last
  simp only [Drawn.pure_eq_ok, Prod.mk.injEq, Option.some.injEq]
  constructor
  · rintro ⟨⟨rfl, rfl⟩, rfl⟩
    exact ⟨e, ⟨rfl, rfl⟩, by rw [h]; rfl⟩
  · rintro ⟨d, ⟨rfl, rfl⟩, hd⟩
    rw [h, Drawn.pure_eq_ok] at hd
    exact ⟨⟨hd.1, rfl⟩, hd.2⟩

theorem none_iff {p : Prop} {v : α} (h : ¬ p) : p ↔
    ∃ e, (none : Option (σ × List Token)) = some (e, rest) ∧ eval e draws = .ok (v, last) :=
  iff_of_false h fun ⟨_, hnone, _⟩ => nomatch hnone

theorem fail_iff_none {fault : Fault} {v : α} :
    (Drawn.fail fault : Drawing (α × List Token)) draws = .ok ((v, rest), last) ↔
      ∃ e, (none : Option (σ × List Token)) = some (e, rest) ∧ eval e draws = .ok (v, last) :=
  none_iff Drawn.fail_ne_ok

theorem bind_fail_iff_none {τ γ : Type} {eval' : τ → Drawing γ} {e : τ} {fault : Fault} {v : α} :
    (∃ x mid, eval' e draws = .ok (x, mid) ∧
        (Drawn.fail fault : Drawing (α × List Token)) mid = .ok ((v, rest), last)) ↔
      ∃ e, (none : Option (σ × List Token)) = some (e, rest) ∧ eval e draws = .ok (v, last) :=
  none_iff fun ⟨_, _, _, hfail⟩ => Drawn.fail_ne_ok hfail

end Mirrors

section Rules

variable {rule base exponent inner : Reader Value} {read base' exponent' inner' : Parser}
  {operator? : Token → Option Binary}

theorem evaluates_pure (e : Expr) (ts : List Token) :
    (∃ v mid, e.eval vars draws = .ok (v, mid) ∧
        (pure (v, ts) : Drawing (Value × List Token)) mid = .ok ((v', rest), last)) ↔
      ∃ d, some (e, ts) = some (d, rest) ∧ d.eval vars draws = .ok (v', last) := by
  simp only [Drawn.pure_eq_ok]
  constructor
  · rintro ⟨v, mid, hv, heq, rfl⟩
    cases heq
    exact ⟨e, rfl, hv⟩
  · rintro ⟨d, heq, hd⟩
    cases heq
    exact ⟨_, _, hd, rfl, rfl⟩

/-- What has been evaluated so far is the value of what has been read so far. -/
theorem evaluates_leftTail (h : Evaluates vars rule read) (count : Nat) (left : Expr) (ts : List Token) :
    (∃ v mid, left.eval vars draws = .ok (v, mid) ∧
        Reader.leftTail operator? rule count v ts mid = .ok ((v', rest), last)) ↔
      ∃ e, leftTail operator? read count left ts = some (e, rest) ∧
        e.eval vars draws = .ok (v', last) := by
  induction count generalizing left ts with
  | zero => exact evaluates_pure left ts
  | succ count ih =>
    cases ts with
    | nil => exact evaluates_pure left []
    | cons t ts =>
      simp only [Reader.leftTail, leftTail]
      cases operator? t with
      | none => exact evaluates_pure left (t :: ts)
      | some op =>
        simp only [(h ts).bind_eq_ok]
        cases read ts with
        | none => simp
        | some p =>
          -- the operand is evaluated after the left one, and the operator is applied before more is read
          obtain ⟨right, after⟩ := p
          simp only [← ih, Option.some.injEq, Prod.mk.injEq, Drawn.bind_eq_ok, liftM, Drawn.lift_eq_ok,
            eval_binary_eq_ok]
          constructor
          · rintro ⟨v, mid, hv, _, _, ⟨rfl, rfl⟩, y, mid', hy, x, _, ⟨hx, rfl⟩, hrest⟩
            exact ⟨x, _, ⟨v, mid, hv, y, hy, hx⟩, hrest⟩
          · rintro ⟨x, mid, ⟨v, mid', hv, y, hy, hx⟩, hrest⟩
            exact ⟨v, mid', hv, right, after, ⟨rfl, rfl⟩, y, mid, hy, x, mid, ⟨hx, rfl⟩, hrest⟩

theorem evaluates_leftGrouped (h : Evaluates vars rule read) :
    Evaluates vars (Reader.leftGrouped operator? rule) (leftGrouped operator? read) := by
  intro ts draws w rest last
  simp only [Reader.leftGrouped, leftGrouped, (h ts).bind_eq_ok, evaluates_leftTail h]
  cases read ts with
  | none => simp
  | some p =>
    obtain ⟨left, after⟩ := p
    simp

theorem eval_unary (op : Unary) (e : Expr) :
    (Expr.unary op e).eval vars = e.eval vars >>= fun x => (liftM (op.apply x) : Drawing Value) := rfl

theorem evaluates_negated (h : Evaluates vars rule read) :
    Evaluates vars (Reader.negated rule) (negated read) := by
  intro ts
  induction ts with
  | nil => exact h []
  | cons t ts ih =>
    cases t with
    | word w =>
      by_cases hw : w = "not"
      · subst hw
        exact ih.map (eval_unary .not)
      · have hrule : Reader.negated rule (.word w :: ts) = rule (.word w :: ts) := if_neg hw
        have hread : negated read (.word w :: ts) = read (.word w :: ts) := if_neg hw
        unfold Mirrors
        rw [hrule, hread]
        exact h _
    | _ => exact h _

theorem evaluates_signed (h : Evaluates vars rule read) :
    Evaluates vars (Reader.signed rule) (signed read) := by
  intro ts
  induction ts with
  | nil => exact h []
  | cons t ts ih =>
    cases t with
    | sign s =>
      cases s with
      | minus => exact ih.map (eval_unary .minus)
      | plus => exact ih.map (eval_unary .plus)
      | _ => exact h _
    | _ => exact h _

theorem eval_chain_eq_ok {first : Expr} {more : List (Comparison × Expr)} :
    (Expr.chain first more).eval vars draws = .ok (v, last) ↔
      ∃ x mid, first.eval vars draws = .ok (x, mid) ∧
        ∃ holds, evalChain vars x more mid = .ok (holds, last) ∧ v = .boolean holds := by
  simp only [Expr.eval, Drawn.bind_eq_ok, Drawn.pure_eq_ok]
  constructor
  · rintro ⟨x, mid, hx, holds, _, hholds, hv, rfl⟩
    exact ⟨x, mid, hx, holds, hholds, hv⟩
  · rintro ⟨x, mid, hx, holds, hholds, hv⟩
    exact ⟨x, mid, hx, holds, last, hholds, hv, rfl⟩

theorem evalChain_cons_eq_ok {left : Value} {op : Comparison} {e : Expr} {more : List (Comparison × Expr)}
    {holds : Bool} : evalChain vars left ((op, e) :: more) draws = .ok (holds, last) ↔
      ∃ right mid, e.eval vars draws = .ok (right, mid) ∧ ∃ first, comparison left op right = .ok first ∧
        ∃ others, evalChain vars right more mid = .ok (others, last) ∧ holds = (first && others) := by
  simp only [evalChain, Drawn.bind_eq_ok, Drawn.pure_eq_ok, liftM, Drawn.lift_eq_ok]
  constructor
  · rintro ⟨right, mid, hright, first, _, ⟨hfirst, rfl⟩, others, _, hothers, hholds, rfl⟩
    exact ⟨right, _, hright, first, hfirst, others, hothers, hholds⟩
  · rintro ⟨right, mid, hright, first, hfirst, others, hothers, hholds⟩
    exact ⟨right, mid, hright, first, mid, ⟨hfirst, rfl⟩, others, last, hothers, hholds, rfl⟩

theorem chainRule_of_stop (count : Nat) (left : Value) (held : Bool)
    (h : ∀ op after, ts ≠ .sign (.compare op) :: after) :
    Reader.chainTail rule count left held ts = pure (held, ts) := by
  unfold Reader.chainTail
  split
  · exact absurd rfl (h _ _)
  · rfl

theorem chainReader_of_stop (count : Nat) (h : ∀ op after, ts ≠ .sign (.compare op) :: after) :
    chainTail read count ts = some ([], ts) := by
  unfold chainTail
  split
  · exact absurd rfl (h _ _)
  · rfl

theorem chainTail_stop_iff {left : Value} {held holds : Bool} :
    (pure (held, ts) : Drawing (Bool × List Token)) draws = .ok ((holds, rest), last) ↔
      ∃ more, some ([], ts) = some (more, rest) ∧
        ∃ others, evalChain vars left more draws = .ok (others, last) ∧ holds = (held && others) := by
  rw [Drawn.pure_eq_ok]
  constructor
  · rintro ⟨heq, rfl⟩
    cases heq
    exact ⟨[], rfl, true, rfl, (Bool.and_true held).symm⟩
  · rintro ⟨more, heq, others, hothers, rfl⟩
    cases heq
    obtain ⟨rfl, rfl⟩ := Drawn.pure_eq_ok.mp hothers
    exact ⟨by rw [Bool.and_true], rfl⟩

/-- Comparing while reading comes to the same as evaluating the operands of a row in order. -/
theorem chainTail_eq_ok_iff (h : Evaluates vars rule read) (count : Nat) {left : Value} {held holds : Bool} :
    Reader.chainTail rule count left held ts draws = .ok ((holds, rest), last) ↔
      ∃ more, chainTail read count ts = some (more, rest) ∧
        ∃ others, evalChain vars left more draws = .ok (others, last) ∧ holds = (held && others) := by
  -- on the turns: `held` stands for the comparisons already made, and `others` for those to come
  induction count generalizing left held ts draws with
  | zero => exact chainTail_stop_iff
  | succ count ih =>
    by_cases hmore : ∃ op after, ts = .sign (.compare op) :: after
    · obtain ⟨op, after, rfl⟩ := hmore
      simp only [Reader.chainTail, chainTail, (h after).bind_eq_ok, Drawn.bind_eq_ok, liftM,
        Drawn.lift_eq_ok, ih]
      cases read after with
      | none => simp
      | some p =>
        obtain ⟨e, behind⟩ := p
        simp only [Option.map_eq_some_iff]
        constructor
        · rintro ⟨_, _, heq, v, mid, hv, first, _, ⟨hfirst, rfl⟩, more, hread, others, hothers, rfl⟩
          cases heq
          refine ⟨(op, e) :: more, ⟨(more, rest), hread, rfl⟩, first && others, ?_, Bool.and_assoc _ _ _⟩
          exact evalChain_cons_eq_ok.mpr ⟨v, _, hv, first, hfirst, others, hothers, rfl⟩
        · rintro ⟨_, ⟨⟨more, _⟩, hread, heq⟩, _, hlinks, rfl⟩
          cases heq
          obtain ⟨v, mid, hv, first, hfirst, others, hothers, rfl⟩ := evalChain_cons_eq_ok.mp hlinks
          exact ⟨e, behind, rfl, v, mid, hv, first, mid, ⟨hfirst, rfl⟩, more, hread, others, hothers,
            (Bool.and_assoc _ _ _).symm⟩
    · have hnone : ∀ op after, ts ≠ .sign (.compare op) :: after := fun op after heq => hmore ⟨op, after, heq⟩
      rw [chainRule_of_stop _ _ _ hnone, chainReader_of_stop _ hnone]
      exact chainTail_stop_iff

theorem evaluates_row (h : Evaluates vars rule read) (first : Expr) (op : Comparison) (ts : List Token) :
    (∃ v mid, first.eval vars draws = .ok (v, mid) ∧
        (do
          let (holds, rest) ← Reader.chainTail rule (ts.length + 1) v true (.sign (.compare op) :: ts)
          return (.boolean holds, rest) : Drawing (Value × List Token)) mid = .ok ((v', rest), last)) ↔
      ∃ e, (match chainTail read (ts.length + 1) (.sign (.compare op) :: ts) with
          | none => none
          | some ([], rest) => some (first, rest)
          | some (more, rest) => some (.chain first more, rest)) = some (e, rest) ∧
        e.eval vars draws = .ok (v', last) := by
  simp only [Drawn.bind_eq_ok, Drawn.pure_eq_ok, Prod.exists, chainTail_eq_ok_iff h]
  cases hmore : chainTail read (ts.length + 1) (.sign (.compare op) :: ts) with
  | none => simp
  | some p =>
    obtain ⟨more, after⟩ := p
    -- a row that starts with a comparison has one, so that the tree is a chain
    have hne : more ≠ [] := by
      rintro rfl
      simp only [chainTail] at hmore
      split at hmore
      · cases hmore
      · obtain ⟨_, -, heq⟩ := Option.map_eq_some_iff.mp hmore
        cases heq
    obtain ⟨link, links, rfl⟩ := List.exists_cons_of_ne_nil hne
    constructor
    · rintro ⟨v, mid, hv, holds, _, _, ⟨_, heq, others, hothers, hholds⟩, hvalue, rfl⟩
      cases heq
      cases hvalue
      refine ⟨_, rfl, eval_chain_eq_ok.mpr ⟨v, mid, hv, holds, ?_, rfl⟩⟩
      rw [hholds]
      exact hothers
    · rintro ⟨_, heq, hvalue⟩
      cases heq
      obtain ⟨v, mid, hv, holds, hholds, rfl⟩ := eval_chain_eq_ok.mp hvalue
      exact ⟨v, mid, hv, holds, _, last, ⟨_, rfl, holds, hholds, rfl⟩, rfl, rfl⟩

theorem evaluates_chained (h : Evaluates vars rule read) :
    Evaluates vars (Reader.chained rule) (chained read) := by
  intro ts draws w rest last
  unfold Reader.chained chained
  cases hread : read ts with
  | none => exact none_iff ((h ts).bind_of_none hread)
  | some p =>
    obtain ⟨first, after⟩ := p
    rw [(h ts).bind_of_some hread]
    cases after with
    | nil => exact evaluates_pure first []
    | cons t behind =>
      cases t with
      | sign s =>
        cases s with
        | compare op => exact evaluates_row h first op behind
        | _ => exact evaluates_pure first _
      | _ => exact evaluates_pure first _

theorem evaluates_powered (hbase : Evaluates vars base base') (hexponent : Evaluates vars exponent exponent') :
    Evaluates vars (Reader.powered base exponent) (powered base' exponent') := by
  intro ts draws w rest last
  unfold Reader.powered powered
  cases hread : base' ts with
  | none => exact none_iff ((hbase ts).bind_of_none hread)
  | some p =>
    obtain ⟨b, after⟩ := p
    rw [(hbase ts).bind_of_some hread]
    -- only the sign of a power goes on; every other token is left where it is
    cases after with
    | nil => exact evaluates_pure b []
    | cons t behind =>
      cases t with
      | sign s =>
        cases s with
        | power =>
          simp only [(hexponent behind).bind_eq_ok, Drawn.bind_eq_ok, Drawn.pure_eq_ok, liftM,
            Drawn.lift_eq_ok, Option.map_eq_some_iff, Prod.exists]
          constructor
          · rintro ⟨x, mid, hx, d, _, hd, y, _, hy, z, _, ⟨hz, rfl⟩, hw, rfl⟩
            cases hw
            exact ⟨_, ⟨d, _, hd, rfl⟩, eval_binary_eq_ok.mpr ⟨x, mid, hx, y, hy, hz⟩⟩
          · rintro ⟨_, ⟨d, _, hd, heq⟩, hvalue⟩
            cases heq
            obtain ⟨x, mid, hx, y, hy, hz⟩ := eval_binary_eq_ok.mp hvalue
            exact ⟨x, mid, hx, d, _, hd, y, last, hy, w, last, ⟨hz, rfl⟩, rfl, rfl⟩
        | _ => exact evaluates_pure b _
      | _ => exact evaluates_pure b _

/-! ## Arguments -/

variable {read' : Parser}

theorem evalAll_cons_eq_ok {e : Expr} {es : List Expr} {vs : List Value} :
    evalAll vars (e :: es) draws = .ok (vs, last) ↔
      ∃ v mid, e.eval vars draws = .ok (v, mid) ∧
        ∃ others, evalAll vars es mid = .ok (others, last) ∧ vs = v :: others := by
  simp only [evalAll, Drawn.bind_eq_ok, Drawn.pure_eq_ok]
  constructor
  · rintro ⟨v, mid, hv, others, _, hothers, hvs, rfl⟩
    exact ⟨v, mid, hv, others, hothers, hvs⟩
  · rintro ⟨v, mid, hv, others, hothers, hvs⟩
    exact ⟨v, mid, hv, others, last, hothers, hvs, rfl⟩

theorem mirrors_argumentsFrom (h : Evaluates vars inner inner') (count : Nat) (ts : List Token) :
    Mirrors (evalAll vars) (Reader.argumentsFrom inner count) (argumentsFrom inner' count) ts := by
  induction count generalizing ts with
  | zero => exact fun _ _ _ _ => fail_iff_none
  | succ count ih =>
    intro draws vs rest last
    unfold Reader.argumentsFrom argumentsFrom
    cases hread : inner' ts with
    | none => exact none_iff ((h ts).bind_of_none hread)
    | some p =>
      obtain ⟨e, after⟩ := p
      rw [(h ts).bind_of_some hread]
      cases after with
      | nil => exact bind_fail_iff_none
      | cons t behind =>
        -- behind an argument stands a comma or the end, and everything else is a fault
        cases t with
        | comma =>
          simp only [(ih behind).bind_eq_ok, Drawn.pure_eq_ok, Option.map_eq_some_iff, Prod.exists]
          constructor
          · rintro ⟨v, mid, hv, es, _, hes, others, _, hothers, heq, rfl⟩
            cases heq
            exact ⟨_, ⟨es, _, hes, rfl⟩, evalAll_cons_eq_ok.mpr ⟨v, mid, hv, others, hothers, rfl⟩⟩
          · rintro ⟨_, ⟨es, _, hes, heq⟩, hvalues⟩
            cases heq
            obtain ⟨v, mid, hv, others, hothers, rfl⟩ := evalAll_cons_eq_ok.mp hvalues
            exact ⟨v, mid, hv, es, _, hes, others, last, hothers, rfl, rfl⟩
        | rightParen =>
          simp only [Drawn.pure_eq_ok]
          constructor
          · rintro ⟨v, mid, hv, heq, rfl⟩
            cases heq
            exact ⟨[e], rfl, evalAll_cons_eq_ok.mpr ⟨v, _, hv, [], rfl, rfl⟩⟩
          · rintro ⟨_, heq, hvalues⟩
            cases heq
            obtain ⟨v, mid, hv, others, hothers, rfl⟩ := evalAll_cons_eq_ok.mp hvalues
            obtain ⟨rfl, rfl⟩ := Drawn.pure_eq_ok.mp hothers
            exact ⟨v, _, hv, rfl, rfl⟩
        | _ => exact bind_fail_iff_none

theorem mirrors_arguments (h : Evaluates vars inner inner') (ts : List Token) :
    Mirrors (evalAll vars) (Reader.arguments inner) (arguments inner') ts := by
  cases ts with
  | nil => exact mirrors_argumentsFrom h 0 []
  | cons t ts =>
    cases t with
    | rightParen =>
      intro draws vs rest last
      exact mirrors_pure (evalAll vars) [] rfl ts draws vs rest last
    | _ => exact mirrors_argumentsFrom h _ _

/-! ## What stands alone -/

theorem mirrors_name (name : String) (ts : List Token) :
    Mirrors (Expr.eval vars) (fun ts => do return (← lookup vars name, ts))
      (fun ts => some (.name name, ts)) ts := by
  intro draws v rest last
  simp only [Drawn.bind_eq_ok, Drawn.pure_eq_ok, liftM, Drawn.lift_eq_ok]
  constructor
  · rintro ⟨_, _, ⟨hv, rfl⟩, heq, rfl⟩
    cases heq
    exact ⟨.name name, rfl, Drawn.lift_eq_ok.mpr ⟨hv, rfl⟩⟩
  · rintro ⟨_, heq, hname⟩
    cases heq
    obtain ⟨hv, rfl⟩ := Drawn.lift_eq_ok.mp hname
    exact ⟨v, _, ⟨hv, rfl⟩, rfl, rfl⟩

theorem evaluates_named (h : Evaluates vars inner inner') (name : String) :
    Evaluates vars (Reader.named vars inner name) (named inner' name) := by
  intro ts
  cases ts with
  | nil => exact mirrors_name name []
  | cons t ts =>
    cases t with
    | leftParen =>
      have hcall : ∀ es, (Expr.call name es).eval vars = evalAll vars es >>= call name := fun _ => rfl
      exact (mirrors_arguments h ts).map hcall
    | _ => exact mirrors_name name _

theorem mirrors_literal (l : Literal) (ts : List Token) :
    Mirrors (Expr.eval vars) (fun ts => pure (l.value, ts)) (fun ts => some (.literal l, ts)) ts :=
  mirrors_pure (Expr.eval vars) (.literal l) rfl ts

theorem evaluates_worded (h : Evaluates vars inner inner') (w : String) :
    Evaluates vars (Reader.worded vars inner w) (worded inner' w) := by
  intro ts draws v rest last
  unfold Reader.worded worded
  cases wordLiteral? w with
  | some l => exact mirrors_literal l ts draws v rest last
  | none =>
    cases ts with
    | nil => exact evaluates_named h w [] draws v rest last
    | cons t ts =>
      cases t with
      | dot =>
        simp only
        -- behind a dot a qualifier needs a name, and any other name has ended
        by_cases hqualifier : isQualifier w = true
        · rw [if_pos hqualifier, if_pos hqualifier]
          cases ts with
          | nil => exact fail_iff_none
          | cons t ts =>
            cases t with
            | word member => exact evaluates_named h _ ts draws v rest last
            | _ => exact fail_iff_none
        · rw [if_neg hqualifier, if_neg hqualifier]
          exact mirrors_name w _ draws v rest last
      | _ => exact evaluates_named h w _ draws v rest last

theorem evaluates_atom (h : Evaluates vars inner inner') :
    Evaluates vars (Reader.atom vars inner) (atom inner') := by
  intro ts
  cases ts with
  | nil => exact fun _ _ _ _ => fail_iff_none
  | cons t ts =>
    cases t with
    | integer n => exact mirrors_literal (.integer n) ts
    | float x => exact mirrors_literal (.float x) ts
    | string s => exact mirrors_literal (.string s) ts
    | word w => exact evaluates_worded h w ts
    -- only parentheses have a rule inside them, which leaves the one that closes
    | leftParen =>
      intro draws v' rest last
      simp only [Reader.atom, atom]
      cases hread : inner' ts with
      | none => exact none_iff ((h ts).bind_of_none hread)
      | some p =>
        obtain ⟨e, after⟩ := p
        rw [(h ts).bind_of_some hread]
        cases after with
        | nil => exact bind_fail_iff_none
        | cons t behind =>
          cases t with
          | rightParen => exact evaluates_pure e behind
          | _ => exact bind_fail_iff_none
    | _ => exact fun _ _ _ _ => fail_iff_none

theorem evaluates_expression (h : Evaluates vars rule read) :
    Evaluates vars (Reader.expression rule) (expression read) :=
  evaluates_leftGrouped <| evaluates_leftGrouped <| evaluates_negated <| evaluates_chained <|
    evaluates_leftGrouped <| evaluates_leftGrouped h

theorem evaluates_operand (depth : Nat) :
    Evaluates vars (Reader.operand vars depth) (operand depth) := by
  induction depth with
  | zero => exact fun _ _ _ _ _ => fail_iff_none
  | succ depth ih =>
    exact evaluates_signed (evaluates_powered (evaluates_atom (evaluates_expression ih)) ih)

end Rules

/-! ## Whole texts -/

theorem ofText?_eq_some_iff {t : Text} : Token.ofText? t = some ts ↔ Token.ofText t = .ok ts :=
  toOption_eq_some_iff

/-- Arithmetic text has the value of the tree of its tokens, and no other. -/
theorem evaluate_eq_ok_iff {t : Text} : evaluate vars t draws = .ok (v, last) ↔
    ∃ ts e, Token.ofText? t = some ts ∧ Expr.ofTokens? ts = some e ∧
      e.eval vars draws = .ok (v, last) := by
  have hread : ∀ ts, Mirrors (Expr.eval vars) _ _ ts := fun ts =>
    evaluates_expression (evaluates_operand ts.length) ts
  simp only [evaluate, Drawn.bind_eq_ok, liftM, Drawn.lift_eq_ok, (hread _).bind_eq_ok,
    ofText?_eq_some_iff, Expr.ofTokens?]
  constructor
  · -- what is left over is a fault, although there was a value
    rintro ⟨ts, _, ⟨hts, rfl⟩, e, after, he, x, mid, hx, hend⟩
    cases after with
    | nil =>
      obtain ⟨rfl, rfl⟩ := Drawn.pure_eq_ok.mp hend
      exact ⟨ts, e, hts, by rw [he], hx⟩
    | cons t behind => exact absurd hend Drawn.fail_ne_ok
  · rintro ⟨ts, e, hts, he, hx⟩
    refine ⟨ts, draws, ⟨hts, rfl⟩, e, [], ?_, v, last, hx, rfl⟩
    split at he
    · next hwhole =>
      cases he
      exact hwhole
    · cases he

theorem evaluate_eq_ok_iff_of_read {t : Text} {e : Expr}
    (h : (Token.ofText? t).bind Expr.ofTokens? = some e) :
    evaluate vars t draws = .ok (v, last) ↔ e.eval vars draws = .ok (v, last) := by
  obtain ⟨ts, hts, he⟩ := Option.bind_eq_some_iff.mp h
  rw [evaluate_eq_ok_iff]
  constructor
  · rintro ⟨us, d, hus, hd, hvalue⟩
    rw [hts] at hus
    cases hus
    rw [he] at hd
    cases hd
    exact hvalue
  · exact fun hvalue => ⟨ts, e, hts, he, hvalue⟩

/-- What there is of the value of arithmetic text is what there is of that of its tree. -/
theorem toOption_evaluate (vars : Table Value) (t : Text) (draws : Draws) :
    (evaluate vars t draws).toOption =
      ((Token.ofText? t).bind Expr.ofTokens?).bind fun e => (e.eval vars draws).toOption := by
  refine Option.ext fun result => ?_
  simp only [Option.bind_eq_some_iff, toOption_eq_some_iff]
  rw [show result = (result.1, result.2) from rfl, evaluate_eq_ok_iff]
  constructor
  · rintro ⟨ts, e, hts, he, hvalue⟩
    exact ⟨e, ⟨ts, hts, he⟩, hvalue⟩
  · rintro ⟨e, ⟨ts, hts, he⟩, hvalue⟩
    exact ⟨ts, e, hts, he, hvalue⟩

end LineScript.Arith
