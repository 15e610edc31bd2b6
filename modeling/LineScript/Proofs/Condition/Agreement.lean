import LineScript.Proofs.Arith.Meaning
import LineScript.Proofs.Condition.Padding
import LineScript.Proofs.Condition.Sides
import LineScript.Proofs.Expression.Origin

/-!
# A comparison as an expression and as a condition

The evaluator of arithmetic takes the tokens of a comparison as one tree; a condition is cut as text,
and each of its sides is an expression of its own, which may be a simple text and no arithmetic.  A
simple text that is written as a tree has the value of the tree (`simple?_of_tokens`), and the cut
falls on the operator of the tree, so that both come to the same (`evaluate_comparison`).
-/

namespace LineScript

/-! ## Numbers, strings and names as trees -/

namespace Arith

theorem Numeral.text_of_isWhole {n : Numeral} (h : n.isWhole = true) : n.text = n.whole := by
  unfold isWhole at h
  obtain ⟨hfraction, hexponent⟩ := Bool.and_eq_true_iff.mp h
  rw [Option.isNone_iff_eq_none] at hfraction hexponent
  rw [n.text_eq, hfraction, hexponent]
  simp

theorem exists_whole {t : Text} {k : Nat} (h : Integer.natural? t = some k) :
    ∃ n : Numeral, t = n.text ∧ n.value? = (Integer.ofInt? k).map .integer := by
  unfold Integer.natural? at h
  split at h
  · next hdigits =>
    simp only [Bool.and_eq_true, Bool.not_eq_true', List.isEmpty_eq_false_iff, List.all_eq_true]
      at hdigits
    obtain ⟨hne, hall⟩ := hdigits
    cases h
    refine ⟨⟨t, none, none, hall, List.forall_mem_nil _, by simpa using hne⟩, ?_, rfl⟩
    rw [Numeral.text_of_isWhole rfl]
  · cases h

theorem exists_decimal {t : Text} {x : Float} (hpoint : '.' ∈ t)
    (h : (Decimal.special? t <|> Decimal.magnitude? t) = some x) :
    ∃ n : Numeral, t = n.text ∧ n.value? = some (.float x) := by
  rw [special?_eq_none hpoint (by decide)] at h
  obtain ⟨n, rfl⟩ := exists_numeral h
  have hvalue : Decimal.magnitude? n.text = some x := h
  rw [n.magnitude_eq] at hvalue
  cases hvalue
  have hwhole : ¬ n.isWhole = true := by
    intro hwhole
    rw [Numeral.text_of_isWhole hwhole] at hpoint
    exact absurd (n.wholeDigits '.' hpoint) (by decide)
  refine ⟨n, rfl, ?_⟩
  unfold Numeral.value?
  rw [if_neg hwhole]

theorem read?_decimal (t : Text) : Decimal.read? t =
    (Decimal.special? (Integer.splitSign t).2 <|> Decimal.magnitude? (Integer.splitSign t).2).map
      fun x => if (Integer.splitSign t).1 then -x else x := by
  unfold Decimal.read?
  generalize Integer.splitSign t = parts
  show (_ >>= _) = _
  exact Option.map_eq_bind.symm

theorem exists_of_number? {t : Text} {v : Value} (h : Expression.number? t = some v)
    (hplus : '+' ∉ t.head?) : ∃ n : Numeral, (t = n.text ∧ n.value? = some v) ∨
      t = '-' :: n.text ∧ ∀ u, n.value? = some u → Unary.minus.apply u = .ok v := by
  unfold Expression.number? at h
  split at h
  · -- with a point it is a decimal
    next hpoint =>
    rw [List.contains_iff_mem] at hpoint
    obtain ⟨x, hx, rfl⟩ := Option.map_eq_some_iff.mp h
    rw [read?_decimal] at hx
    obtain ⟨y, hy, hxy⟩ := Option.map_eq_some_iff.mp hx
    rcases splitSign_cases t with ⟨r, rfl, hsign⟩ | ⟨r, rfl, -⟩ | hsign
    · rw [hsign] at hy hxy
      obtain ⟨n, rfl, hn⟩ := exists_decimal (List.mem_of_ne_of_mem (by decide) hpoint) hy
      refine ⟨n, .inr ⟨rfl, fun u hu => ?_⟩⟩
      rw [hn] at hu
      cases hu
      cases hxy
      rfl
    · -- a plus is no sign of a numeral
      exact absurd rfl hplus
    · rw [hsign] at hy hxy
      obtain ⟨n, rfl, hn⟩ := exists_decimal hpoint hy
      cases hxy
      exact ⟨n, .inl ⟨rfl, hn⟩⟩
  · obtain ⟨i, hi, rfl⟩ := Option.map_eq_some_iff.mp h
    rw [Integer.read?_eq] at hi
    obtain ⟨k, hk, hki⟩ := Option.bind_eq_some_iff.mp hi
    rcases splitSign_cases t with ⟨r, rfl, hsign⟩ | ⟨r, rfl, -⟩ | hsign
    · rw [hsign] at hk hki
      obtain ⟨n, rfl, hn⟩ := exists_whole hk
      refine ⟨n, .inr ⟨rfl, fun u hu => ?_⟩⟩
      rw [hn] at hu
      -- where the numeral fits without its minus, it is negated to the number
      obtain ⟨j, hj, rfl⟩ := Option.map_eq_some_iff.mp hu
      show exactly (-j.toInt) = _
      rw [Integer.toInt_of_ofInt? hj]
      unfold exactly
      rw [show Integer.ofInt? (-(k : Int)) = some i from hki]
      rfl
    · exact absurd rfl hplus
    · rw [hsign] at hk hki
      obtain ⟨n, rfl, hn⟩ := exists_whole hk
      rw [show Integer.ofInt? (k : Int) = some i from hki] at hn
      exact ⟨n, .inl ⟨rfl, hn⟩⟩

theorem Identifier.isWordChar_text (w : Identifier) : ∀ c ∈ w.text, Text.isWordChar c = true :=
  List.forall_mem_cons.mpr ⟨isWordChar_of_starts w.starts, w.continues⟩

theorem exists_of_quoted? {t : Text} {v : Value} (h : Expression.quoted? t = some v) :
    ∃ q : Quoted, t = q.text ∧ v = .string (String.ofList q.body) := by
  obtain ⟨body, ht, hfree, hv⟩ := Expression.string_of_quoted? h
  exact ⟨⟨true, body, hfree⟩, ht, hv⟩

end Arith

namespace Condition

open Arith

def unusable : List String :=
  ["true", "True", "false", "False", "null", "None", "math", "random", "and", "or", "not"]

/-- Whether all variables are called by words other than those. -/
def NamedByWords (vars : Table Value) : Prop :=
  ∀ n v, vars.get? n = some v → n ∉ unusable ∧ ∃ w : Identifier, w.name = n

theorem namedByWords_empty : NamedByWords ∅ := fun _ _ hget => (nomatch hget)

theorem NamedByWords.insert {vars : Table Value} (h : NamedByWords vars) {w : Identifier}
    (hname : w.name ∉ unusable) (v : Value) : NamedByWords (vars.insert w.name v) := by
  intro n u hget
  by_cases hn : n = w.name
  · exact ⟨hn ▸ hname, w, hn.symm⟩
  · rw [Table.get?_insert_of_ne hn] at hget
    exact h n u hget

theorem free_of_usable {n : String} (h : n ∉ unusable) : n ∉ reserved := by
  have hlist : ∀ k ∈ reserved, k ∈ unusable := by decide
  exact fun hn => h (hlist n hn)

theorem constant?_word (w : Identifier) : constant? w.name = none := by
  unfold constant?
  rw [List.lookup_eq_none_iff]
  intro entry hentry
  have hname : entry.1 ∈ ["math.pi", "math.e", "math.tau", "math.inf"] :=
    List.mem_map_of_mem (f := Prod.fst) hentry
  have hpoint : ∀ n ∈ ["math.pi", "math.e", "math.tau", "math.inf"], '.' ∈ n.toList := by decide
  rw [bne_iff_ne]
  intro heq
  have hmem : '.' ∈ w.text := by
    have hmem := hpoint _ (heq ▸ hname)
    rwa [show w.name.toList = w.text from String.toList_ofList] at hmem
  exact absurd (w.isWordChar_text '.' hmem) (by decide)

section Tokens

variable {vars : Table Value} {draws : Draws} {e : Tree} {t : Text} {v : Value}

theorem expr_eq_of_tokens (e' : Tree) (h : tokens e.lexemes = tokens e'.lexemes) : e.expr = e'.expr := by
  have hread := ofTokens?_lexemes e
  rw [h, ofTokens?_lexemes e'] at hread
  exact (Option.some.inj hread).symm

theorem eval_of_tokens (e' : Tree) (h : tokens e.lexemes = tokens e'.lexemes) (hvalue : e'.value? vars = some v)
    (draws : Draws) : (e.expr.eval vars draws).toOption = some (v, draws) := by
  rw [expr_eq_of_tokens e' h, eval_expr (fits_of_value? hvalue), hvalue]
  rfl

theorem ofText?_one (a : Lexeme) : Token.ofText? a.text = if a.fits then some [a.token] else none := by
  have hends : a.Ends [] := fun c hc => absurd hc (Option.not_mem_none c)
  have hone := ofText?_lexeme a hends
  rw [List.append_nil, ofText?_nil] at hone
  exact hone

/-- A point, or a number that starts with one, does not go on with a name. -/
theorem ofTokens?_point {w : Identifier} (hname : w.name ∉ unusable) {u : Token} {ts : List Token}
    (hu : u = .dot ∨ (∃ n, u = .integer n) ∨ ∃ x, u = .float x) :
    Expr.ofTokens? (.word w.name :: u :: ts) = none := by
  have hfree := free_of_usable hname
  have hqualifier : isQualifier w.name = false := by
    have hne : ∀ k ∈ ["math", "random"], w.name ≠ k := by
      have hlist : ∀ k ∈ ["math", "random"], k ∈ unusable := by decide
      exact fun k hk heq => hname (heq ▸ hlist k hk)
    unfold isQualifier
    rw [beq_false_of_ne (hne "math" (by decide)), beq_false_of_ne (hne "random" (by decide))]
    rfl
  have hjoins : u.joins ≤ 0 ∨ topRank < u.joins := by
    rcases hu with rfl | ⟨n, rfl⟩ | ⟨x, rfl⟩
    · exact .inl (Nat.le_refl 0)
    · exact .inr (show topRank < 9 by decide)
    · exact .inr (show topRank < 9 by decide)
  -- the name is read as a variable, and what follows can go on with no rule
  have hatom : reader (ts.length + 1) 0 (.word w.name :: u :: ts) = some (.name w.name, u :: ts) := by
    show worded _ w.name (u :: ts) = _
    unfold worded
    rw [wordLiteral?_of_free hfree]
    rcases hu with rfl | ⟨n, rfl⟩ | ⟨x, rfl⟩
    · simp only [hqualifier, Bool.false_eq_true, if_false]
    · rfl
    · rfl
  have hread := reader_above (Nat.zero_le topRank) (Nat.le_refl topRank) hatom
    (fun t ht => by
      cases ht
      exact Nat.le_of_eq (leads_of_free hfree))
    (fun t ht => by
      cases ht
      exact hjoins)
  rw [reader_top] at hread
  unfold Expr.ofTokens?
  rw [show (Token.word w.name :: u :: ts).length = ts.length + 1 + 1 from rfl, hread]

/-! ## Simple texts that are written as trees -/

theorem exists_word (hvars : NamedByWords vars) (h : vars.get? (String.ofList t) = some v) :
    ∃ w : Identifier, t = w.text ∧ w.name ∉ unusable ∧ vars.get? w.name = some v := by
  obtain ⟨hfree, w, hw⟩ := hvars _ _ h
  have htext : w.text = t := String.ofList_injective hw
  exact ⟨w, htext.symm, hw ▸ hfree, hw ▸ h⟩

theorem dotted?_of_tokens (hvars : NamedByWords vars)
    (h : Token.ofText? t = some (tokens e.lexemes)) : Expression.dotted? vars t = none := by
  unfold Expression.dotted?
  split
  · rfl
  · next name path hcut =>
    obtain ⟨rfl, -⟩ := splitFirst_eq_some hcut
    split
    · split
      · next fields hget =>
        -- the name is read as a word, and the point behind it as what cannot follow a word
        obtain ⟨w, rfl, hname, -⟩ := exists_word hvars hget
        rw [ofText?_word w rfl] at h
        obtain ⟨ts, hts, heq⟩ := Option.map_eq_some_iff.mp h
        have hread := ofTokens?_lexemes e
        rw [ofText?_cons, if_neg (by decide)] at hts
        obtain ⟨⟨u, rest⟩, hfirst, hmap⟩ := Option.bind_eq_some_iff.mp hts
        obtain ⟨us, -, rfl⟩ := Option.map_eq_some_iff.mp hmap
        have hu : u = .dot ∨ (∃ n, u = .integer n) ∨ ∃ x, u = .float x := by
          unfold Token.first? at hfirst
          split at hfirst
          · exact .inr (token_of_number? hfirst)
          · cases hfirst
            exact .inl rfl
        rw [← heq, ofTokens?_point hname hu] at hread
        cases hread
      · rfl
    · rfl

/-- A simple text that is written as a tree has the value of the tree, unless it is a variable that
holds an object. -/
theorem simple?_of_tokens (hvars : NamedByWords vars)
    (htokens : Token.ofText? t = some (tokens e.lexemes)) (hplus : '+' ∉ t.head?)
    (h : Expression.simple? vars t = some v) :
    (∀ draws, (e.expr.eval vars draws).toOption = some (v, draws)) ∨
      ∃ n, e.expr = .name n ∧ ∀ draws, (e.expr.eval vars draws).toOption = none := by
  have hone : ∀ a : Lexeme, t = a.text → a.fits = true ∧ tokens e.lexemes = [a.token] := by
    rintro a rfl
    rw [ofText?_one] at htokens
    split at htokens
    · next hfits => exact ⟨hfits, (Option.some.inj htokens).symm⟩
    · cases htokens
  rcases Expression.source_of_simple? h with hquoted | hnumber | hget | hdotted
  · obtain ⟨q, ht, rfl⟩ := exists_of_quoted? hquoted
    exact .inl (eval_of_tokens (.string q) (hone (.string q) ht).2 rfl)
  · obtain ⟨n, ⟨ht, hn⟩ | ⟨ht, hn⟩⟩ := exists_of_number? hnumber hplus
    · exact .inl (eval_of_tokens (.numeral n) (hone (.numeral n) ht).2 hn)
    · -- the minus is an operator to the tree
      subst ht
      rw [ofText?_minus, show n.text = (Lexeme.numeral n).text from rfl, ofText?_one] at htokens
      obtain ⟨ts, hts, htokens⟩ := Option.map_eq_some_iff.mp htokens
      split at hts
      · next hfits =>
        cases hts
        obtain ⟨u, hu⟩ := Option.isSome_iff_exists.mp (show n.value?.isSome = true from hfits)
        refine .inl (eval_of_tokens (.unary .minus (.numeral n)) htokens.symm ?_)
        show n.value?.bind _ = _
        rw [hu, Option.bind_some, hn u hu]
        rfl
      · cases hts
  · obtain ⟨w, ht, hname, hget⟩ := exists_word hvars hget
    have htokens' := (hone (.word w) ht).2
    have hfree := free_of_usable hname
    cases v with
    | object fields =>
      -- the evaluator of arithmetic takes no object
      have hexpr : e.expr = .name w.name :=
        expr_eq_of_tokens (.name (.plain w hfree)) htokens'
      refine .inr ⟨w.name, hexpr, fun draws => ?_⟩
      rw [hexpr]
      refine (toOption_lift (lookup vars w.name) draws).trans ?_
      unfold lookup
      rw [constant?_word, hget]
      rfl
    | _ =>
      refine .inl (eval_of_tokens (.name (.plain w hfree)) htokens' ?_)
      show (lookup vars w.name).toOption = _
      unfold lookup
      rw [constant?_word, hget]
      rfl
  · rw [dotted?_of_tokens hvars htokens] at hdotted
    cases hdotted

theorem toOption_arithmetic (htokens : Token.ofText? t = some (tokens e.lexemes)) :
    (Expression.arithmetic vars t draws).toOption = (e.expr.eval vars draws).toOption := by
  rw [Expression.toOption_arithmetic, htokens, Option.bind_some, ofTokens?_lexemes, Option.bind_some]

/-- An expression that is written as a tree and is one piece has the value of the tree, unless it is a
variable that holds an object. -/
theorem evaluate_of_tokens (hvars : NamedByWords vars)
    (htokens : Token.ofText? (Text.trim t) = some (tokens e.lexemes)) {x : Text}
    (hone : Expression.summands false (Text.trim t) = [x]) :
    (∀ draws, (Expression.evaluate t vars draws).toOption = (e.expr.eval vars draws).toOption) ∨
      ∃ n, e.expr = .name n ∧ ∀ draws, (e.expr.eval vars draws).toOption = none := by
  have hplus : '+' ∉ (Text.trim t).head? := by
    intro hhead
    obtain ⟨u, hu⟩ := exists_of_head hhead
    rw [hu] at hone
    exact Expression.summands_ne_nil false u (List.cons.inj hone).2
  cases hsimple : Expression.simple? vars (Text.trim t) with
  | some v =>
    refine (simple?_of_tokens hvars htokens hplus hsimple).imp_left fun heval draws => ?_
    unfold Expression.evaluate
    rw [heval draws]
    simp only [hsimple]
    rfl
  | none =>
    refine .inl fun draws => ?_
    unfold Expression.evaluate
    simp only [hsimple, hone]
    exact toOption_arithmetic htokens

/-! ## Comparisons -/

theorem tokens_chain {l r : Tree} (hl : l.rank < chainRank) (hr : r.rank < chainRank)
    (op : Comparison) : tokens (Tree.chain l op r []).lexemes =
      tokens l.lexemes ++ .sign (.compare op) :: tokens r.lexemes := by
  have hlexemes : (Tree.chain l op r []).lexemes = l.within (chainRank - 1) ++
      .sign (.compare op) :: (r.within (chainRank - 1) ++ []) := rfl
  rw [hlexemes, within_of_le (Nat.le_sub_one_of_lt hl), within_of_le (Nat.le_sub_one_of_lt hr),
    List.append_nil, tokens_append, tokens_cons]
  rfl

theorem toOption_chain (x y : Expr) (op : Comparison) :
    ((Expr.chain x [(op, y)]).eval vars draws).toOption =
      (x.eval vars draws).toOption.bind fun a => (y.eval vars a.2).toOption.bind fun b =>
        (a.1.compare? op b.1).map fun holds => (.boolean holds, b.2) := by
  show ((x.eval vars >>= fun left => evalChain vars left [(op, y)] >>= fun holds =>
    pure (Value.boolean holds)) draws).toOption = _
  rw [toOption_bind]
  refine congrArg _ (funext fun a => ?_)
  show (((y.eval vars >>= fun right => monadLift (comparison a.1 op right) >>= fun holds =>
    (pure true >>= fun others => pure (holds && others))) >>= fun holds =>
    pure (Value.boolean holds)) a.2).toOption = _
  rw [toOption_bind, toOption_bind, Option.bind_assoc]
  refine congrArg _ (funext fun b => ?_)
  rw [toOption_bind, toOption_lift, toOption_comparison]
  cases a.1.compare? op b.1 with
  | none => rfl
  | some holds => simp; rfl

theorem toOption_compared (left right : Text) (op : Comparison) :
    (compared vars left op right draws).toOption =
      (Expression.evaluate left vars draws).toOption.bind fun a =>
        (Expression.evaluate right vars a.2).toOption.bind fun b =>
          (a.1.compare? op b.1).map fun holds => (holds, b.2) := by
  unfold compared
  rw [toOption_bind]
  refine congrArg _ (funext fun a => ?_)
  rw [toOption_bind]
  refine congrArg _ (funext fun b => ?_)
  refine (toOption_lift (compare a.1 op b.1) b.2).trans ?_
  unfold compare
  cases a.1.compare? op b.1 <;> rfl

end Tokens

/-- A text that is written as an operand of a comparison, with no single quote and no plus sign outside
double quotes. -/
structure Operand (t : Text) (e : Tree) : Prop where
  written : Token.ofText? (Text.trim t) = some (tokens e.lexemes)
  rank : e.rank < chainRank
  noSingle : '\x27' ∉ unquoted false t
  noPlus : '+' ∉ unquoted false t

section Operands

variable {vars : Table Value} {draws : Draws} {t left right : Text} {e l r : Tree}

theorem Operand.starts (h : Operand t e) : ∃ c u, Text.trim t = c :: u ∧ c ∉ comparing := by
  have hread := ofTokens?_lexemes e
  cases hu : Text.trim t with
  | nil =>
    have hwritten := h.written
    rw [hu, ofText?_nil] at hwritten
    rw [← Option.some.inj hwritten] at hread
    cases hread
  | cons c u =>
    refine ⟨c, u, rfl, fun hc => ?_⟩
    have hwritten := h.written
    have hblank : ¬ Text.isBlank c = true := fun hblank => not_comparing_of_isBlank hblank hc
    rw [hu, ofText?_cons, if_neg hblank] at hwritten
    obtain ⟨⟨token, rest⟩, hfirst, hmap⟩ := Option.bind_eq_some_iff.mp hwritten
    obtain ⟨ts, -, hts⟩ := Option.map_eq_some_iff.mp hmap
    obtain ⟨op, rfl⟩ := exists_comparison hc hfirst
    rw [← hts] at hread
    cases hread

theorem Operand.trim_ne_nil (h : Operand t e) : Text.trim t ≠ [] := by
  obtain ⟨c, u, ht, -⟩ := h.starts
  rw [ht]
  exact List.cons_ne_nil c u

theorem Operand.not_equal (h : Operand t e) {gap : Text} (hgap : ∀ c ∈ gap, Text.isBlank c = true)
    (behind : Text) : '=' ∉ (gap ++ (Text.trim t ++ behind)).head? := by
  obtain ⟨c, u, ht, hc⟩ := h.starts
  rw [ht]
  cases gap with
  | nil =>
    rintro hequal
    cases hequal
    exact hc (by decide)
  | cons d gap =>
    rintro hequal
    cases hequal
    exact isBlank_ne (hgap '=' List.mem_cons_self) (by decide) rfl

theorem Operand.whole (h : Operand t e)
    (hno : ∀ op : Comparison, ¬ op.symbol.toList <:+: unquoted false t) :
    Whole t ∧ ∀ op, Token.sign (.compare op) ∉ tokens e.lexemes := by
  have hwithin := unquoted_trim t
  obtain ⟨hwhole, hfree⟩ := whole_of_no_symbol h.written (fun hmem => h.noSingle (hwithin.subset hmem))
    fun op hop => hno op (hop.trans hwithin)
  obtain ⟨before, behind, hbefore, hbehind, hstart, ht⟩ := Text.exists_gaps t
  rw [ht, hstart]
  exact ⟨(Whole.of_blank hbefore).append (hwhole.append (.of_blank hbehind)), hfree⟩

theorem written_comparison (hl : Operand left l) (hr : Operand right r)
    (hfree : ∀ op, Token.sign (.compare op) ∉ tokens l.lexemes) (op : Comparison) :
    Token.ofText? (Text.trim (left ++ (op.symbol.toList ++ right))) =
      some (tokens (Tree.chain l op r []).lexemes) := by
  obtain ⟨-, gap, -, hgap, hstart, -⟩ := Text.exists_gaps left
  obtain ⟨gap', -, hgap', -, -, hright⟩ := Text.exists_gaps right
  have hend : Text.trimEnd right = gap' ++ Text.trim right := by
    have hcut := Text.trimEnd_append gap' (Text.trimStart right)
    have hne : Text.trimEnd (Text.trimStart right) ≠ [] := hr.trim_ne_nil
    rwa [← hright, if_neg hne] at hcut
  have hequal := hr.not_equal hgap' []
  rw [List.append_nil] at hequal
  rw [Text.trim_between hl.trim_ne_nil hr.trim_ne_nil, hstart, hend, List.append_assoc,
    ofText?_append (breaks_symbol hgap op _) hl.written hfree, ofText?_gap hgap,
    ofText?_comparison op hequal, ofText?_gap hgap', hr.written, tokens_chain hl.rank hr.rank]
  rfl

theorem Operand.evaluate_eq (h : Operand t e) (hvars : NamedByWords vars) {p : Text}
    (hloose : Loosened false false t p) {result : Value × Draws}
    (heval : (e.expr.eval vars draws).toOption = some result) :
    (Expression.evaluate p vars draws).toOption = some result := by
  have hwithin := unquoted_trim t
  have hsingle : '\x27' ∉ unquoted false (Text.trim t) := fun hmem => h.noSingle (hwithin.subset hmem)
  have hplus : '+' ∉ unquoted false (Text.trim t) := fun hmem => h.noPlus (hwithin.subset hmem)
  have hwritten := hloose.trim.ofText?_eq hsingle
  rw [h.written] at hwritten
  obtain ⟨x, xs, y, ys, hx, hy, -, hrest⟩ := hloose.trim.summands
  rw [Expression.summands_of_no_plus hplus] at hx
  cases hx
  cases hrest
  rcases evaluate_of_tokens hvars hwritten hy with hsame | ⟨n, -, hnone⟩
  · rw [hsame, heval]
  · rw [hnone draws] at heval
    cases heval

/-- A comparison that has a value as an expression has the same truth as a condition. -/
theorem evaluate_comparison (hvars : NamedByWords vars) (hl : Operand left l) (hr : Operand right r)
    (hno : ∀ op : Comparison, ¬ op.symbol.toList <:+: unquoted false left) (op : Comparison)
    {v : Value} {draws' : Draws}
    (h : Expression.evaluate (left ++ (op.symbol.toList ++ right)) vars draws = .ok (v, draws')) :
    ∃ b, v = .boolean b ∧
      evaluate (left ++ (op.symbol.toList ++ right)) vars draws = .ok (b, draws') := by
  obtain ⟨hwhole, hfree⟩ := hl.whole hno
  -- as a condition, the text is cut at the operator
  have hne : left ≠ [] := fun hnil => hl.trim_ne_nil (by rw [hnil]; rfl)
  have hequal : '=' ∉ right.head? := by
    obtain ⟨gap, behind, hgap, -, hstart, hparts⟩ := Text.exists_gaps right
    have hequal := hr.not_equal hgap behind
    rwa [← hstart, ← hparts] at hequal
  obtain ⟨left', right', hleft, hright, hmeaning⟩ :=
    exists_compared (firstCut_of_whole op hwhole hne hequal hr.trim_ne_nil)
  -- as an expression, it is one tree
  have hplus : '+' ∉ unquoted false (left ++ (op.symbol.toList ++ right)) := by
    have hsymbol : inside false op.symbol.toList = false ∧ '+' ∉ unquoted false op.symbol.toList := by
      cases op <;> decide
    rw [unquoted_append, hwhole.1, unquoted_append, hsymbol.1, List.mem_append, List.mem_append]
    exact not_or.mpr ⟨hl.noPlus, not_or.mpr ⟨hsymbol.2, hr.noPlus⟩⟩
  have hone := Expression.summands_of_no_plus fun hmem => hplus ((unquoted_trim _).subset hmem)
  rcases evaluate_of_tokens hvars (written_comparison hl hr hfree op) hone with heval | ⟨n, hname, -⟩
  · have hvalue := (heval draws).symm
    rw [h, show (Tree.chain l op r []).expr = .chain l.expr [(op, r.expr)] from rfl,
      toOption_chain] at hvalue
    obtain ⟨a, ha, hvalue⟩ := Option.bind_eq_some_iff.mp hvalue
    obtain ⟨b, hb, hvalue⟩ := Option.bind_eq_some_iff.mp hvalue
    obtain ⟨holds, hholds, hresult⟩ := Option.map_eq_some_iff.mp hvalue
    cases hresult
    refine ⟨holds, rfl, ok_of_toOption ?_⟩
    rw [hmeaning, toOption_compared, hl.evaluate_eq hvars hleft ha, Option.bind_some,
      hr.evaluate_eq hvars hright hb, Option.bind_some, hholds]
    rfl
  · cases hname

end Operands

def word_len : Identifier := ⟨'l', "en".toList, by decide, List.all_eq_true.mp (by decide)⟩

theorem evaluate_comparison_length :
    evaluate ("len(\"a<b or c\")*2 ".toList ++ (Comparison.ge.symbol.toList ++ " (1 or 0)".toList))
      ((∅ : Table Value).insert word_len.name (.integer 1)) (.ofSeed 0) = .ok (true, .ofSeed 0) := by
  have hleft : Operand "len(\"a<b or c\")*2 ".toList
      (.binary .multiply (.call (.plain word_len (by decide)) [.string ⟨true, "a<b or c".toList, by decide⟩])
        (digits ['2'] (by decide) (by decide))) :=
    ⟨by cbv, by decide, by decide, by decide⟩
  have hright : Operand " (1 or 0)".toList
      (.parens (.binary .or (digits ['1'] (by decide) (by decide)) (digits ['0'] (by decide) (by decide)))) :=
    ⟨by cbv, by decide, by decide, by decide⟩
  have hno : ∀ op : Comparison,
      ¬ op.symbol.toList <:+: unquoted false "len(\"a<b or c\")*2 ".toList :=
    not_infix_of_free (of_all (by decide))
  have hvars : NamedByWords ((∅ : Table Value).insert word_len.name (.integer 1)) :=
    namedByWords_empty.insert (by decide) _
  have hvalue : Expression.evaluate
      ("len(\"a<b or c\")*2 ".toList ++ (Comparison.ge.symbol.toList ++ " (1 or 0)".toList))
      ((∅ : Table Value).insert word_len.name (.integer 1)) (.ofSeed 0) =
        .ok (.boolean true, .ofSeed 0) := by
    cbv
  obtain ⟨b, hb, heval⟩ := evaluate_comparison hvars hleft hright hno .ge hvalue
  cases hb
  exact heval

end Condition

end LineScript
