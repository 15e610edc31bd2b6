import LineScript.Proofs.Arith.Parse
import LineScript.Proofs.Arith.Reading

/-!
# The value of a tree as it is written

The evaluator, given a text that a tree is written as, comes to the value of the tree, and fails where
the tree has none (`evaluate_writtenAs`).  Which fault it fails with is left open: an integer that is
too large is refused before anything is evaluated, wherever it stands.
-/

namespace LineScript.Arith

variable {vars : Table Value} {draws : Draws}

def Tree.Fits (e : Tree) : Prop := e.lexemes.all Lexeme.fits = true

theorem all_fits_enclosed (most rank : Nat) (as : List Lexeme) :
    (enclosed most rank as).all Lexeme.fits = as.all Lexeme.fits := by
  unfold enclosed
  split
  · rfl
  · simp [Lexeme.fits]

theorem Name.all_fits (n : Name) : n.lexemes.all Lexeme.fits = true := by
  cases n <;> rfl

theorem fits_unary (op : Unary) : op.lexeme.fits = true := by cases op <;> rfl

theorem fits_binary (op : Binary) : op.lexeme.fits = true := by cases op <;> rfl

theorem fits_binary_iff {op : Binary} {left right : Tree} :
    (Tree.binary op left right).Fits ↔ left.Fits ∧ right.Fits := by
  simp [Tree.Fits, Tree.lexemes, all_fits_enclosed, fits_binary]

theorem fits_unary_iff {op : Unary} {e : Tree} : (Tree.unary op e).Fits ↔ e.Fits := by
  simp [Tree.Fits, Tree.lexemes, all_fits_enclosed, fits_unary]

theorem fits_parens_iff {e : Tree} : (Tree.parens e).Fits ↔ e.Fits := by
  simp [Tree.Fits, Tree.lexemes, Lexeme.fits]

theorem fits_links_iff {more : List (Comparison × Tree)} :
    (linkLexemes more).all Lexeme.fits = true ↔ ∀ link ∈ more, link.2.Fits := by
  induction more with
  | nil => simp [linkLexemes]
  | cons link more ih =>
    have hlexemes : linkLexemes (link :: more) = .sign (.compare link.1) ::
        (enclosed (chainRank - 1) link.2.rank link.2.lexemes ++ linkLexemes more) := rfl
    rw [hlexemes, List.all_cons, List.all_append, all_fits_enclosed]
    simp only [Lexeme.fits, Bool.true_and, Bool.and_eq_true, ih, List.forall_mem_cons]
    rfl

theorem fits_chain_iff {first second : Tree} {op : Comparison} {more : List (Comparison × Tree)} :
    (Tree.chain first op second more).Fits ↔
      first.Fits ∧ second.Fits ∧ ∀ link ∈ more, link.2.Fits := by
  rw [← fits_links_iff]
  simp [Tree.Fits, Tree.lexemes, all_fits_enclosed, Lexeme.fits]

theorem fits_further_iff {es : List Tree} :
    (furtherLexemes es).all Lexeme.fits = true ↔ ∀ e ∈ es, e.Fits := by
  induction es with
  | nil => simp [furtherLexemes]
  | cons e es ih =>
    have hlexemes : furtherLexemes (e :: es) = .comma :: (e.lexemes ++ furtherLexemes es) := rfl
    rw [hlexemes, List.all_cons, List.all_append]
    simp only [Lexeme.fits, Bool.true_and, Bool.and_eq_true, ih, List.forall_mem_cons]
    rfl

theorem fits_call_iff {f : Name} {es : List Tree} : (Tree.call f es).Fits ↔ ∀ e ∈ es, e.Fits := by
  cases es with
  | nil => simp [Tree.Fits, Tree.lexemes, f.all_fits, Lexeme.fits]
  | cons e es =>
    rw [List.forall_mem_cons, ← fits_further_iff]
    simp [Tree.Fits, Tree.lexemes, f.all_fits, Lexeme.fits]

/-! ## A tree that has a value fits -/

theorem fits_of_linkValues? {more : List (Comparison × Tree)} {vs : List (Comparison × Value)}
    (hmore : ∀ link ∈ more, ∀ v, link.2.value? vars = some v → link.2.Fits)
    (h : linkValues? vars more = some vs) : ∀ link ∈ more, link.2.Fits := by
  induction more generalizing vs with
  | nil => exact fun link hlink => absurd hlink List.not_mem_nil
  | cons link more ih =>
    obtain ⟨op, e⟩ := link
    obtain ⟨v, hv, hrest⟩ := Option.bind_eq_some_iff.mp h
    obtain ⟨ws, hws, -⟩ := Option.map_eq_some_iff.mp hrest
    refine List.forall_mem_cons.mpr ⟨hmore (op, e) List.mem_cons_self v hv, ?_⟩
    exact ih (fun link hlink => hmore link (List.mem_cons_of_mem _ hlink)) hws

theorem fits_of_values? {es : List Tree} {vs : List Value}
    (hes : ∀ e ∈ es, ∀ v, e.value? vars = some v → e.Fits) (h : values? vars es = some vs) :
    ∀ e ∈ es, e.Fits := by
  induction es generalizing vs with
  | nil => exact fun e he => absurd he List.not_mem_nil
  | cons e es ih =>
    obtain ⟨v, hv, hrest⟩ := Option.bind_eq_some_iff.mp h
    obtain ⟨ws, hws, -⟩ := Option.map_eq_some_iff.mp hrest
    refine List.forall_mem_cons.mpr ⟨hes e List.mem_cons_self v hv, ?_⟩
    exact ih (fun a ha => hes a (List.mem_cons_of_mem _ ha)) hws

theorem fits_of_value? {e : Tree} {v : Value} (h : e.value? vars = some v) : e.Fits := by
  induction e generalizing v with
  | numeral n =>
    -- only a numeral can fail to fit, and one that has a value does not
    have hsome : n.value?.isSome = true := by
      rw [show n.value? = some v from h]
      rfl
    show ([Lexeme.numeral n].all Lexeme.fits) = true
    simpa [Lexeme.fits] using hsome
  | string q => rfl
  | constant c python => rfl
  | name n => exact n.all_fits
  | parens e ih => exact fits_parens_iff.mpr (ih h)
  | unary op e ih =>
    obtain ⟨w, hw, -⟩ := Option.bind_eq_some_iff.mp h
    exact fits_unary_iff.mpr (ih hw)
  | binary op left right ihleft ihright =>
    obtain ⟨l, hl, hrest⟩ := Option.bind_eq_some_iff.mp h
    obtain ⟨r, hr, -⟩ := Option.bind_eq_some_iff.mp hrest
    exact fits_binary_iff.mpr ⟨ihleft hl, ihright hr⟩
  | chain first op second more ihfirst ihsecond ihmore =>
    obtain ⟨l, hl, hrest⟩ := Option.bind_eq_some_iff.mp h
    obtain ⟨r, hr, hrest⟩ := Option.bind_eq_some_iff.mp hrest
    obtain ⟨rs, hrs, -⟩ := Option.bind_eq_some_iff.mp hrest
    have hmore := fits_of_linkValues? (fun link hlink v hv => ihmore link hlink hv) hrs
    exact fits_chain_iff.mpr ⟨ihfirst hl, ihsecond hr, hmore⟩
  | call f arguments ih =>
    obtain ⟨vs, hvs, -⟩ := Option.bind_eq_some_iff.mp h
    exact fits_call_iff.mpr (fits_of_values? (fun e he v hv => ih e he hv) hvs)

/-! ## The evaluator on the expression of a tree -/

theorem value_literal_numeral {n : Numeral} (h : n.value?.isSome = true) :
    n.value? = some (Literal.value (if n.isWhole then
      .integer (Int64.ofInt (Integer.natOfDigits n.whole)) else .float n.float)) := by
  unfold Numeral.value? at h ⊢
  cases hwhole : n.isWhole with
  | false => rfl
  | true =>
    rw [hwhole, if_pos rfl] at h
    unfold Integer.ofInt? at h ⊢
    split at h
    · next hbounds =>
      rw [if_pos rfl, if_pos hbounds]
      rfl
    · cases h

theorem eval_binary (op : Binary) (left right : Value) :
    (op.apply left right).toOption = op.value? left right := by
  cases op <;> rfl

theorem toOption_comparison (left : Value) (op : Comparison) (right : Value) :
    (comparison left op right).toOption = left.compare? op right := by
  unfold comparison
  cases left.compare? op right <;> rfl

/-- Comparing as the operands are evaluated comes to the same as evaluating them all first. -/
theorem agree?_links {left v : Value} {op : Comparison}
    {links : Option (List (Comparison × Value))} :
    ((left.compare? op v).bind fun holds =>
        (links.bind fun rs => agree? v rs).bind fun others => some (holds && others)) =
      (links.map ((op, v) :: ·)).bind fun rs => agree? left rs := by
  cases links with
  | none => cases left.compare? op v <;> rfl
  | some rs =>
    simp only [Option.bind_some, Option.map_some, agree?]
    cases left.compare? op v <;> cases agree? v rs <;> rfl

theorem eval_links {more : List (Comparison × Tree)}
    (hmore : ∀ link ∈ more, (link.2.expr.eval vars draws).toOption =
      (link.2.value? vars).map fun v => (v, draws)) (left : Value) :
    (evalChain vars left (linkExprs more) draws).toOption =
      ((linkValues? vars more).bind fun rs => agree? left rs).map fun holds => (holds, draws) := by
  induction more generalizing left with
  | nil => rfl
  | cons link more ih =>
    obtain ⟨op, e⟩ := link
    have he := hmore (op, e) List.mem_cons_self
    have hrest := ih fun link hlink => hmore link (List.mem_cons_of_mem _ hlink)
    have hvalues : linkValues? vars ((op, e) :: more) =
        (e.value? vars).bind fun v => (linkValues? vars more).map ((op, v) :: ·) := rfl
    rw [hvalues, Option.bind_assoc]
    show ((e.expr.eval vars >>= _) draws).toOption = _
    refine toOption_bind_of_eq he fun v => ?_
    -- the evaluator compares before it goes on to the operands behind
    rw [← agree?_links, ← toOption_comparison]
    refine toOption_bind_of_eq (toOption_lift _ _) fun holds => ?_
    exact toOption_bind_of_eq (hrest v) fun others => rfl

theorem eval_arguments {es : List Tree}
    (hes : ∀ e ∈ es, (e.expr.eval vars draws).toOption =
      (e.value? vars).map fun v => (v, draws)) :
    (evalAll vars (exprs es) draws).toOption =
      (values? vars es).map fun vs => (vs, draws) := by
  induction es with
  | nil => rfl
  | cons e es ih =>
    have he := hes e List.mem_cons_self
    have hrest := ih fun a ha => hes a (List.mem_cons_of_mem _ ha)
    show ((e.expr.eval vars >>= _) draws).toOption = _
    have hvalues : ∀ v, (values? vars es).map (v :: ·) =
        (values? vars es).bind fun vs => some (v :: vs) := by
      intro v
      cases values? vars es <;> rfl
    refine toOption_bind_of_eq he fun v => ?_
    rw [hvalues]
    exact toOption_bind_of_eq hrest fun vs => rfl

def drawing : List Builtin := [.random, .randint, .uniform]

theorem apply_of_not_drawing {b : Builtin} (h : b ∉ drawing) (vs : List Value) :
    (b.apply vs draws).toOption = (b.value vs).toOption.map fun v => (v, draws) := by
  have happly : b.apply vs = monadLift (b.value vs) := by
    cases b with
    | random => exact absurd (by decide) h
    | randint => exact absurd (by decide) h
    | uniform => exact absurd (by decide) h
    | _ => rfl
  rw [happly]
  exact toOption_lift _ _

theorem not_drawing_of_lookup {f : Name} {b : Builtin} (h : builtins.lookup f.full = some b) :
    b ∉ drawing := by
  have hnames : ∀ entry ∈ builtins, entry.2 ∈ drawing →
      '.' ∈ entry.1.toList ∧ entry.1.toList.head? = some 'r' := by decide
  intro hdrawing
  -- the full name of such a function has a dot in it and starts with `r`: a plain name has no dot,
  -- and one qualified by `math` starts with `m`
  obtain ⟨before, after, hsplit, -⟩ := List.lookup_eq_some_iff.mp h
  have hmem : (f.full, b) ∈ builtins := by rw [hsplit]; simp
  obtain ⟨hdot, hfirst⟩ := hnames _ hmem hdrawing
  cases f with
  | plain w hfree =>
    have htext : w.name.toList = w.text := String.toList_ofList
    have hword : Text.isWordChar '.' = true := by
      have hdot' : '.' ∈ w.text := htext ▸ hdot
      rcases List.mem_cons.mp hdot' with heq | hrest
      · exact absurd heq.symm (ne_of_starts w.starts (by decide))
      · exact w.continues '.' hrest
    exact absurd hword (by decide)
  | math member =>
    have htext : (Name.math member).full.toList = 'm' :: "ath.".toList ++ member.name.toList := by
      show ("math" ++ "." ++ member.name).toList = _
      simp
    rw [htext] at hfirst
    cases hfirst

theorem eval_call (f : Name) (vs : List Value) :
    (call f.full vs draws).toOption = (f.call? vs).map fun v => (v, draws) := by
  unfold call Name.call?
  cases hb : builtins.lookup f.full with
  | none => rfl
  | some b => exact apply_of_not_drawing (not_drawing_of_lookup hb) vs

/-- The evaluator comes to the value of a tree that fits. -/
theorem eval_expr {e : Tree} (h : e.Fits) :
    (e.expr.eval vars draws).toOption = (e.value? vars).map fun v => (v, draws) := by
  induction e with
  | numeral n =>
    have hsome : n.value?.isSome = true := by
      have hall : ([Lexeme.numeral n].all Lexeme.fits) = true := h
      simpa [Lexeme.fits] using hall
    show some _ = n.value?.map _
    rw [value_literal_numeral hsome]
    rfl
  | string q => rfl
  | constant c python => cases c <;> rfl
  | name n => exact toOption_lift _ _
  | parens e ih => exact ih (fits_parens_iff.mp h)
  | unary op e ih =>
    show ((e.expr.eval vars >>= _) draws).toOption = _
    exact toOption_bind_of_eq (ih (fits_unary_iff.mp h)) fun v => toOption_lift _ _
  | binary op left right ihleft ihright =>
    obtain ⟨hleft, hright⟩ := fits_binary_iff.mp h
    show ((left.expr.eval vars >>= _) draws).toOption = _
    refine toOption_bind_of_eq (ihleft hleft) fun l => ?_
    refine toOption_bind_of_eq (ihright hright) fun r => ?_
    rw [← eval_binary]
    exact toOption_lift _ _
  | chain first op second more ihfirst ihsecond ihmore =>
    obtain ⟨hfirst, hsecond, hmore⟩ := fits_chain_iff.mp h
    -- the second operand is the first link of the chain
    have hlinks : ∀ link ∈ (op, second) :: more, (link.2.expr.eval vars draws).toOption =
        (link.2.value? vars).map fun v => (v, draws) :=
      List.forall_mem_cons.mpr
        ⟨ihsecond hsecond, fun link hlink => ihmore link hlink (hmore link hlink)⟩
    show ((first.expr.eval vars >>= _) draws).toOption = _
    refine toOption_bind_of_eq (ihfirst hfirst) fun l => ?_
    -- the tree has its second operand apart, the expression has it among the links
    have hvalues : ((second.value? vars).bind fun r => (linkValues? vars more).bind fun rs =>
          (agree? l ((op, r) :: rs)).map Value.boolean) =
        ((linkValues? vars ((op, second) :: more)).bind (agree? l)).bind fun holds =>
          some (Value.boolean holds) := by
      have hlinks : linkValues? vars ((op, second) :: more) = (second.value? vars).bind fun r =>
          (linkValues? vars more).map ((op, r) :: ·) := rfl
      rw [hlinks]
      cases second.value? vars with
      | none => rfl
      | some r =>
        cases linkValues? vars more with
        | none => rfl
        | some rs => exact Option.map_eq_bind
    rw [hvalues]
    exact toOption_bind_of_eq (eval_links hlinks l) fun holds => rfl
  | call f arguments ih =>
    have hes := fits_call_iff.mp h
    show ((evalAll vars (exprs arguments) >>= _) draws).toOption = _
    exact toOption_bind_of_eq (eval_arguments fun e he => ih e he (hes e he)) fun vs => eval_call f vs

/-! ## The evaluator on the text of a tree -/

/-- The value of a text that a tree is written as is the value of the tree, whatever the variables
are; there is none where the tree has none, and no draw is taken. -/
theorem evaluate_writtenAs {e : Tree} {t : Text} (h : e.WrittenAs t) (vars : Table Value)
    (draws : Draws) :
    (evaluate vars t draws).toOption = (e.value? vars).map fun v => (v, draws) := by
  have htokens := ofText?_spread h
  rw [toOption_evaluate]
  by_cases hfits : e.lexemes.all Lexeme.fits = true
  · rw [htokens, if_pos hfits, Option.bind_some]
    have hparse : Expr.ofTokens? (e.lexemes.map Lexeme.token) = some e.expr := ofTokens?_lexemes e
    rw [hparse, Option.bind_some]
    exact eval_expr hfits
  · -- some integer is too large, so that neither the text nor the tree has a value
    rw [htokens, if_neg hfits, Option.bind_none, Option.bind_none]
    cases hvalue : e.value? vars with
    | none => rfl
    | some v => exact absurd (fits_of_value? hvalue) hfits

def spaced : List Lexeme → Text
  | [] => []
  | a :: as => ' ' :: (a.text ++ spaced as)

theorem spread_spaced (as : List Lexeme) : Spread as (spaced as) := by
  induction as with
  | nil => exact @Spread.nil [] fun c hc => absurd hc List.not_mem_nil
  | cons a as ih =>
    refine @Spread.cons a as [' '] (spaced as) (List.forall_mem_singleton.mpr rfl) ?_ ih
    intro c hc
    cases as with
    | nil => cases hc
    | cons b bs =>
      cases hc
      rfl

theorem writtenAs_spaced (e : Tree) : e.WrittenAs (spaced e.lexemes) := spread_spaced e.lexemes

def digits (t : Text) (hdigits : t.all Char.isDigit = true) (hstarts : t ++ [] ≠ []) : Tree :=
  .numeral ⟨t, none, none, List.all_eq_true.mp hdigits, fun _ hc => absurd hc List.not_mem_nil, hstarts⟩

def name_x : Tree := .name (.plain ⟨'x', [], by decide, List.forall_mem_nil _⟩ (by decide))

def name_y : Tree := .name (.plain ⟨'y', [], by decide, List.forall_mem_nil _⟩ (by decide))

/-- A tree with a row of comparisons in it, whose operands are of many ranks. -/
def mixed : Tree :=
  .binary .or
    (.chain
      (.binary .add
        (.unary .minus (.binary .power name_x (digits ['2'] (by decide) (by decide))))
        (digits ['1', '0'] (by decide) (by decide)))
      .lt name_y
      [(.le, .binary .multiply
        (.binary .add (digits ['1'] (by decide) (by decide)) (digits ['1'] (by decide) (by decide)))
        name_y)])
    (.constant .no true)

theorem evaluate_mixed :
    (evaluate (((∅ : Table Value).insert "x" (.integer 3)).insert "y" (.integer 2))
        " - x ** 2 + 10 < y <= ( 1 + 1 ) * y or False".toList (.ofSeed 0)).toOption =
      some (.boolean true, .ofSeed 0) := by
  have htext : " - x ** 2 + 10 < y <= ( 1 + 1 ) * y or False".toList = spaced mixed.lexemes := by
    decide
  rw [htext]
  exact evaluate_writtenAs (writtenAs_spaced mixed) _ _

end LineScript.Arith
