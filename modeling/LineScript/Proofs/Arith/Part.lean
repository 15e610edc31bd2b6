import LineScript.Proofs.Arith.Grammar

/-!
# The parts of an expression

An expression is made of parts, down to literals and names. Each reader of the grammar leaves the end of
its tokens, and the strings that are written out in what it reads are among them (`writtenIn_of_ofTokens?`).
-/

namespace LineScript.Arith

/-- The expressions that an expression is made of, itself among them. -/
inductive Expr.Part (a : Expr) : Expr → Prop
  | self : Part a a
  | unary {op : Unary} {e : Expr} (h : Part a e) : Part a (.unary op e)
  | left {op : Binary} {l r : Expr} (h : Part a l) : Part a (.binary op l r)
  | right {op : Binary} {l r : Expr} (h : Part a r) : Part a (.binary op l r)
  | first {e : Expr} {more : List (Comparison × Expr)} (h : Part a e) : Part a (.chain e more)
  | later {first e : Expr} {more : List (Comparison × Expr)} {op : Comparison} (hmem : (op, e) ∈ more)
      (h : Part a e) : Part a (.chain first more)
  | argument {f : String} {arguments : List Expr} {e : Expr} (hmem : e ∈ arguments) (h : Part a e) :
      Part a (.call f arguments)

namespace Expr

theorem Part.trans {a b c : Expr} (hab : Part a b) (hbc : Part b c) : Part a c := by
  induction hbc with
  | self => exact hab
  | unary _ ih => exact .unary ih
  | left _ ih => exact .left ih
  | right _ ih => exact .right ih
  | first _ ih => exact .first ih
  | later hmem _ ih => exact .later hmem ih
  | argument hmem _ ih => exact .argument hmem ih

abbrev Writes (e : Expr) (s : String) : Prop := Part (.literal (.string s)) e

def WrittenIn (ts : List Token) (e : Expr) : Prop := ∀ s, e.Writes s → .string s ∈ ts

variable {ts us : List Token}

theorem WrittenIn.part {a e : Expr} (h : e.WrittenIn ts) (ha : a.Part e) : a.WrittenIn ts :=
  fun s hs => h s (hs.trans ha)

theorem WrittenIn.mono {e : Expr} (h : e.WrittenIn ts) (hts : ts ⊆ us) : e.WrittenIn us :=
  fun s hs => hts (h s hs)

theorem writtenIn_literal {l : Literal} (h : ∀ s, l = .string s → .string s ∈ ts) :
    (literal l).WrittenIn ts := by
  intro s hs
  cases hs
  exact h s rfl

theorem writtenIn_name (n : String) : (name n).WrittenIn ts := fun _ hs => nomatch hs

theorem WrittenIn.unary {e : Expr} (h : e.WrittenIn ts) (op : Unary) : (Expr.unary op e).WrittenIn ts := by
  intro s hs
  cases hs with
  | unary hs => exact h s hs

theorem WrittenIn.binary {l r : Expr} (hl : l.WrittenIn ts) (hr : r.WrittenIn ts) (op : Binary) :
    (Expr.binary op l r).WrittenIn ts := by
  intro s hs
  cases hs with
  | left hs => exact hl s hs
  | right hs => exact hr s hs

theorem WrittenIn.chain {e : Expr} {more : List (Comparison × Expr)} (he : e.WrittenIn ts)
    (hmore : ∀ link ∈ more, link.2.WrittenIn ts) : (Expr.chain e more).WrittenIn ts := by
  intro s hs
  cases hs with
  | first hs => exact he s hs
  | later hmem hs => exact hmore _ hmem s hs

theorem writtenIn_call {arguments : List Expr} (h : ∀ e ∈ arguments, e.WrittenIn ts) (f : String) :
    (call f arguments).WrittenIn ts := by
  intro s hs
  cases hs with
  | argument hmem hs => exact h _ hmem s hs

end Expr

/-! ## What the readers read -/

/-- A reader that is true to its tokens: it leaves the end of them, and the strings of its expression are
among them. -/
def Faithful (reader : Parser) : Prop :=
  ∀ {us ts rest : List Token} {e : Expr}, ts <:+ us → reader ts = some (e, rest) →
    rest <:+ us ∧ e.WrittenIn us

theorem faithful_of_self {reader : Parser} (h : ∀ {ts rest : List Token} {e : Expr},
    reader ts = some (e, rest) → rest <:+ ts ∧ e.WrittenIn ts) : Faithful reader := by
  intro us ts rest e hts hread
  obtain ⟨hrest, he⟩ := h hread
  exact ⟨hrest.trans hts, he.mono hts.subset⟩

section Readers

variable {operator? : Token → Option Binary} {operand base exponent inner : Parser}

theorem written_leftTail (h : Faithful operand) {us ts rest : List Token} {left e : Expr} (count : Nat)
    (hts : ts <:+ us) (hleft : left.WrittenIn us)
    (hread : leftTail operator? operand count left ts = some (e, rest)) :
    rest <:+ us ∧ e.WrittenIn us := by
  -- on the turns, with everything written in the left operand so far
  induction count generalizing ts left with
  | zero =>
    rw [leftTail] at hread
    · cases hread
      exact ⟨hts, hleft⟩
    · exact fun _ _ _ hzero => nomatch hzero
  | succ count ih =>
    cases ts with
    | nil =>
      cases hread
      exact ⟨hts, hleft⟩
    | cons t ts =>
      rw [leftTail] at hread
      split at hread
      · cases hread
        exact ⟨hts, hleft⟩
      · split at hread
        · cases hread
        · next hoperand =>
          obtain ⟨hafter, hright⟩ := h ((List.suffix_cons t ts).trans hts) hoperand
          exact ih hafter (hleft.binary hright _) hread

theorem faithful_leftGrouped (h : Faithful operand) : Faithful (leftGrouped operator? operand) := by
  intro us ts rest e hts hread
  unfold leftGrouped at hread
  split at hread
  · cases hread
  · next hoperand =>
    obtain ⟨hafter, hleft⟩ := h hts hoperand
    exact written_leftTail h _ hafter hleft hread

theorem faithful_marked {ts rest : List Token} {t : Token} {e : Expr} {op : Unary}
    {result : Option (Expr × List Token)}
    (ih : ∀ {rest e}, result = some (e, rest) → rest <:+ ts ∧ e.WrittenIn ts)
    (h : result.map (fun (e, rest) => (Expr.unary op e, rest)) = some (e, rest)) :
    rest <:+ t :: ts ∧ e.WrittenIn (t :: ts) := by
  obtain ⟨⟨d, after⟩, hread, hsome⟩ := Option.map_eq_some_iff.mp h
  cases hsome
  obtain ⟨hrest, hd⟩ := ih hread
  exact ⟨hrest.trans (List.suffix_cons t ts), (hd.unary op).mono (List.suffix_cons t ts).subset⟩

theorem faithful_negated (h : Faithful operand) : Faithful (negated operand) := by
  refine faithful_of_self fun {ts} => ?_
  induction ts with
  | nil => exact h List.suffix_rfl
  | cons t ts ih =>
    intro rest e hread
    cases t with
    | word w =>
      rw [negated] at hread
      split at hread
      · exact faithful_marked ih hread
      · exact h List.suffix_rfl hread
    | _ => exact h List.suffix_rfl hread

theorem faithful_signed (h : Faithful operand) : Faithful (signed operand) := by
  refine faithful_of_self fun {ts} => ?_
  induction ts with
  | nil => exact h List.suffix_rfl
  | cons t ts ih =>
    intro rest e hread
    unfold signed at hread
    split at hread
    · next hcons =>
      cases hcons
      exact faithful_marked ih hread
    · next hcons =>
      cases hcons
      exact faithful_marked ih hread
    · exact h List.suffix_rfl hread

theorem written_chainTail (h : Faithful operand) {us ts rest : List Token}
    {more : List (Comparison × Expr)} (count : Nat) (hts : ts <:+ us)
    (hread : chainTail operand count ts = some (more, rest)) :
    rest <:+ us ∧ ∀ link ∈ more, link.2.WrittenIn us := by
  induction count generalizing ts more with
  | zero =>
    cases hread
    exact ⟨hts, fun _ hlink => nomatch hlink⟩
  | succ count ih =>
    unfold chainTail at hread
    split at hread
    · next n op ts hcount =>
      cases hcount
      split at hread
      · cases hread
      · next right after hoperand =>
        obtain ⟨hafter, hright⟩ := h ((List.suffix_cons _ ts).trans hts) hoperand
        obtain ⟨⟨others, last⟩, hothers, hsome⟩ := Option.map_eq_some_iff.mp hread
        cases hsome
        obtain ⟨hrest, hlinks⟩ := ih hafter hothers
        exact ⟨hrest, List.forall_mem_cons.mpr ⟨hright, hlinks⟩⟩
    · cases hread
      exact ⟨hts, fun _ hlink => nomatch hlink⟩

theorem faithful_chained (h : Faithful operand) : Faithful (chained operand) := by
  intro us ts rest e hts hread
  unfold chained at hread
  split at hread
  · cases hread
  · next first after hoperand =>
    obtain ⟨hafter, hfirst⟩ := h hts hoperand
    split at hread
    · cases hread
    · next hmore =>
      cases hread
      exact ⟨(written_chainTail h _ hafter hmore).1, hfirst⟩
    · next hmore =>
      cases hread
      obtain ⟨hrest, hlinks⟩ := written_chainTail h _ hafter hmore
      exact ⟨hrest, hfirst.chain hlinks⟩

theorem faithful_powered (hbase : Faithful base) (hexponent : Faithful exponent) :
    Faithful (powered base exponent) := by
  intro us ts rest e hts hread
  unfold powered at hread
  split at hread
  · next b after hb =>
    obtain ⟨hafter, hwritten⟩ := hbase hts hb
    obtain ⟨⟨d, last⟩, hd, hsome⟩ := Option.map_eq_some_iff.mp hread
    cases hsome
    obtain ⟨hrest, hpower⟩ := hexponent ((List.suffix_cons _ after).trans hafter) hd
    exact ⟨hrest, hwritten.binary hpower _⟩
  · exact hbase hts hread

theorem written_argumentsFrom (h : Faithful inner) {us ts rest : List Token} {es : List Expr}
    (count : Nat) (hts : ts <:+ us) (hread : argumentsFrom inner count ts = some (es, rest)) :
    rest <:+ us ∧ ∀ e ∈ es, e.WrittenIn us := by
  induction count generalizing ts es with
  | zero => cases hread
  | succ count ih =>
    unfold argumentsFrom at hread
    split at hread
    · next e after he =>
      obtain ⟨hafter, hwritten⟩ := h hts he
      obtain ⟨⟨others, last⟩, hothers, hsome⟩ := Option.map_eq_some_iff.mp hread
      cases hsome
      obtain ⟨hrest, hes⟩ := ih ((List.suffix_cons _ after).trans hafter) hothers
      exact ⟨hrest, List.forall_mem_cons.mpr ⟨hwritten, hes⟩⟩
    · next e after he =>
      cases hread
      obtain ⟨hafter, hwritten⟩ := h hts he
      exact ⟨(List.suffix_cons _ rest).trans hafter, List.forall_mem_singleton.mpr hwritten⟩
    · cases hread

theorem written_arguments (h : Faithful inner) {us ts rest : List Token} {es : List Expr}
    (hts : ts <:+ us) (hread : arguments inner ts = some (es, rest)) :
    rest <:+ us ∧ ∀ e ∈ es, e.WrittenIn us := by
  unfold arguments at hread
  split at hread
  · cases hread
    exact ⟨(List.suffix_cons _ rest).trans hts, fun _ he => nomatch he⟩
  · exact written_argumentsFrom h _ hts hread

theorem faithful_named (h : Faithful inner) (name : String) : Faithful (named inner name) := by
  intro us ts rest e hts hread
  unfold named at hread
  split at hread
  · next ts =>
    obtain ⟨⟨es, after⟩, hes, hsome⟩ := Option.map_eq_some_iff.mp hread
    cases hsome
    obtain ⟨hrest, hwritten⟩ := written_arguments h ((List.suffix_cons _ ts).trans hts) hes
    exact ⟨hrest, Expr.writtenIn_call hwritten name⟩
  · cases hread
    exact ⟨hts, Expr.writtenIn_name name⟩

theorem wordLiteral?_ne_string {w : String} {l : Literal} (h : wordLiteral? w = some l) (s : String) :
    l ≠ .string s := by
  unfold wordLiteral? at h
  split at h
  · cases h
    exact Literal.noConfusion
  · split at h
    · cases h
      exact Literal.noConfusion
    · split at h
      · cases h
        exact Literal.noConfusion
      · cases h

theorem faithful_worded (h : Faithful inner) (w : String) : Faithful (worded inner w) := by
  intro us ts rest e hts hread
  unfold worded at hread
  split at hread
  · next l hl =>
    cases hread
    exact ⟨hts, Expr.writtenIn_literal fun s hs => absurd hs (wordLiteral?_ne_string hl s)⟩
  · split at hread
    · split at hread
      · next member after =>
        exact faithful_named h _ ((List.suffix_append [Token.dot, .word member] after).trans hts) hread
      · cases hread
    · cases hread
      exact ⟨hts, Expr.writtenIn_name w⟩
  · exact faithful_named h w hts hread

theorem faithful_atom (h : Faithful inner) : Faithful (atom inner) := by
  intro us ts rest e hts hread
  have hafter : ∀ {t : Token} {after : List Token}, t :: after <:+ us → after <:+ us :=
    fun {t after} hcons => (List.suffix_cons t after).trans hcons
  unfold atom at hread
  split at hread
  · cases hread
    exact ⟨hafter hts, Expr.writtenIn_literal fun _ hs => nomatch hs⟩
  · cases hread
    exact ⟨hafter hts, Expr.writtenIn_literal fun _ hs => nomatch hs⟩
  · next s after =>
    cases hread
    refine ⟨hafter hts, Expr.writtenIn_literal fun r hr => ?_⟩
    cases hr
    exact hts.subset List.mem_cons_self
  · exact faithful_worded h _ (hafter hts) hread
  · split at hread
    · next he =>
      cases hread
      obtain ⟨hrest, hwritten⟩ := h (hafter hts) he
      exact ⟨hafter hrest, hwritten⟩
    · cases hread
  · cases hread

theorem faithful_expression (h : Faithful operand) : Faithful (expression operand) :=
  faithful_leftGrouped <| faithful_leftGrouped <| faithful_negated <| faithful_chained <|
    faithful_leftGrouped <| faithful_leftGrouped h

theorem faithful_operand (depth : Nat) : Faithful (Arith.operand depth) := by
  induction depth with
  | zero =>
    intro _ _ _ _ _ hread
    cases hread
  | succ depth ih =>
    exact faithful_signed (faithful_powered (faithful_atom (faithful_expression ih)) ih)

end Readers

/-- The strings that are written out in the tree of a row of tokens are among the tokens. -/
theorem writtenIn_of_ofTokens? {ts : List Token} {e : Expr} (h : Expr.ofTokens? ts = some e) :
    e.WrittenIn ts := by
  unfold Expr.ofTokens? at h
  split at h
  · next hread =>
    cases h
    exact (faithful_expression (faithful_operand ts.length) List.suffix_rfl hread).2
  · cases h

end LineScript.Arith
