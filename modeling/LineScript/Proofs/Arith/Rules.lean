import LineScript.Proofs.Arith.Scalar

/-!
# What the rules come to

The rules of arithmetic are used at every place of a text, also of one that turns out to have no value. What
each of them comes to on a row of tokens is the value of an expression that is written there
(`Written.of_mem_rules`), so that it is no object, and has a property that all strings of the variables, of the
row and of a string's size have (`makes_of_mem_rules`).
-/

namespace LineScript.Arith

variable {p : String → Prop} {vars : Table Value} {depth : Nat} {rule : Reader Value}

/-- The rules from the loosest to the tightest, for operands of a depth. -/
def rules (vars : Table Value) (depth : Nat) : List (Reader Value) :=
  let operand := Reader.operand vars depth
  [Reader.expression operand, Reader.conjunction operand, Reader.negation operand,
   Reader.comparison operand, Reader.sum operand, Reader.product operand, operand,
   Reader.factor vars operand, Reader.atom vars (Reader.expression operand)]

/-- Beside a rule stands a reader that is true to its tokens. -/
def Written (vars : Table Value) (rule : Reader Value) : Prop :=
  ∃ read, Evaluates vars rule read ∧ Faithful read

namespace Written

variable {operand base exponent inner : Reader Value}

theorem leftGrouped {operator? : Token → Option Binary} (h : Written vars operand) :
    Written vars (Reader.leftGrouped operator? operand) := by
  obtain ⟨read, hread, hfaithful⟩ := h
  exact ⟨_, evaluates_leftGrouped hread, faithful_leftGrouped hfaithful⟩

theorem negated (h : Written vars operand) : Written vars (Reader.negated operand) := by
  obtain ⟨read, hread, hfaithful⟩ := h
  exact ⟨_, evaluates_negated hread, faithful_negated hfaithful⟩

theorem chained (h : Written vars operand) : Written vars (Reader.chained operand) := by
  obtain ⟨read, hread, hfaithful⟩ := h
  exact ⟨_, evaluates_chained hread, faithful_chained hfaithful⟩

theorem powered (hbase : Written vars base) (hexponent : Written vars exponent) :
    Written vars (Reader.powered base exponent) := by
  obtain ⟨base', hbase, hfaithful⟩ := hbase
  obtain ⟨exponent', hexponent, hfaithful'⟩ := hexponent
  exact ⟨_, evaluates_powered hbase hexponent, faithful_powered hfaithful hfaithful'⟩

theorem atom (h : Written vars inner) : Written vars (Reader.atom vars inner) := by
  obtain ⟨read, hread, hfaithful⟩ := h
  exact ⟨_, evaluates_atom hread, faithful_atom hfaithful⟩

theorem product (h : Written vars operand) : Written vars (Reader.product operand) := h.leftGrouped

theorem sum (h : Written vars operand) : Written vars (Reader.sum operand) := h.product.leftGrouped

theorem comparison (h : Written vars operand) : Written vars (Reader.comparison operand) := h.sum.chained

theorem negation (h : Written vars operand) : Written vars (Reader.negation operand) := h.comparison.negated

theorem conjunction (h : Written vars operand) : Written vars (Reader.conjunction operand) :=
  h.negation.leftGrouped

theorem expression (h : Written vars operand) : Written vars (Reader.expression operand) :=
  h.conjunction.leftGrouped

theorem factor (h : Written vars operand) : Written vars (Reader.factor vars operand) :=
  h.expression.atom.powered h

theorem of_depth (vars : Table Value) (depth : Nat) : Written vars (Reader.operand vars depth) :=
  ⟨_, evaluates_operand depth, faithful_operand depth⟩

theorem of_mem_rules (hrule : rule ∈ rules vars depth) : Written vars rule := by
  have h : Written vars (Reader.operand vars depth) := .of_depth vars depth
  have hall : ∀ rule ∈ rules vars depth, Written vars rule := by
    simp only [rules, List.forall_mem_cons]
    exact ⟨h.expression, h.conjunction, h.negation, h.comparison, h.sum, h.product, h, h.factor,
      h.expression.atom, List.forall_mem_nil _⟩
  exact hall rule hrule

end Written

/-- On a row whose strings have a property a rule leaves the end of the row, and comes to no object and to no
string without the property. -/
def Makes (p : String → Prop) (rule : Reader Value) : Prop :=
  ∀ ts : List Token, (∀ s, .string s ∈ ts → p s) →
    Gives (fun result => result.1.ScalarWith p ∧ result.2 <:+ ts) (rule ts)

theorem makes_of_mem_rules (hshort : OfShort p)
    (hvars : ∀ name s, vars.get? name = some (.string s) → p s) (hrule : rule ∈ rules vars depth) :
    Makes p rule := by
  obtain ⟨read, hread, hfaithful⟩ := Written.of_mem_rules hrule
  rintro ts hts draws ⟨v, rest⟩ last hv
  obtain ⟨e, he, hvalue⟩ := (hread ts draws v rest last).mp hv
  obtain ⟨hrest, hwritten⟩ := hfaithful List.suffix_rfl he
  exact ⟨gives_eval hshort hvars e (fun s hs => hts s (hwritten s hs)) draws v last hvalue, hrest⟩

/-- What stands to the left of the operators of a row, after any number of them. -/
theorem Makes.leftTail (hshort : OfShort p) (h : Makes p rule) (operator? : Token → Option Binary)
    (count : Nat) {left : Value} (hleft : left.ScalarWith p) :
    Makes p (Reader.leftTail operator? rule count left) := by
  intro ts hts
  -- on the turns: what has been evaluated so far is the left operand of the next operator
  induction count generalizing left ts with
  | zero => exact gives_pure ⟨hleft, List.suffix_rfl⟩
  | succ count ih =>
    cases ts with
    | nil => exact gives_pure ⟨hleft, List.suffix_rfl⟩
    | cons t ts =>
      unfold Reader.leftTail
      split
      · exact gives_pure ⟨hleft, List.suffix_rfl⟩
      · rename_i op _
        have hbehind : ∀ s, .string s ∈ ts → p s := fun s hs => hts s (List.mem_cons_of_mem t hs)
        refine gives_bind (h ts hbehind) fun result hresult => ?_
        obtain ⟨hright, hrest⟩ := hresult
        refine gives_bind (gives_lift (plain_binary hshort op hleft hright)) fun v hv => ?_
        have hnext := ih hv result.2 fun s hs => hbehind s (hrest.subset hs)
        exact fun draws a last ha => (hnext draws a last ha).imp_right fun hlast =>
          hlast.trans (hrest.trans (List.suffix_cons t ts))

theorem gives_arguments (hshort : OfShort p)
    (hvars : ∀ name s, vars.get? name = some (.string s) → p s) (depth : Nat) {ts : List Token}
    (hts : ∀ s, .string s ∈ ts → p s) : Gives (fun result => ∀ v ∈ result.1, v.ScalarWith p)
      (Reader.arguments (Reader.expression (Reader.operand vars depth)) ts) := by
  have hoperand : Evaluates vars _ _ := evaluates_operand depth
  have hread := mirrors_arguments (evaluates_expression hoperand) ts
  rintro draws ⟨vs, rest⟩ last hvs
  obtain ⟨es, hes, hvalues⟩ := (hread draws vs rest last).mp hvs
  have hwritten := (written_arguments (faithful_expression (faithful_operand depth)) List.suffix_rfl hes).2
  exact gives_evalAll hshort hvars es (fun e he s hs => hts s (hwritten e he s hs)) draws vs last hvalues

end LineScript.Arith
