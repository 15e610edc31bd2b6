import LineScript.Proofs.Arith.Rules

/-!
# Rules without bounds

The rules are built to a depth and their loops run a number of times at most, so that they are defined by
recursion over numbers. Neither bound is ever met: a rule leaves no more tokens than it was given, and between
two turns of a loop, and before parentheses or an exponent, at least one token goes. So there is one rule of
signed operands, which is made from itself (`operandRule_eq`), a loop goes on as long as there are operators
or commas (`leftTail_step`, `chainTail_step`, `argumentsFrom_step`), and arithmetic text is evaluated by these
rules (`evaluate_eq`).
-/

namespace LineScript.Arith

variable {α β : Type} {vars : Table Value} {n : Nat} {ts : List Token}

theorem bind_congr_of_gives {P : α → Prop} {m : Drawing α} (hm : Gives P m) {k k' : α → Drawing β}
    (h : ∀ a, P a → k a = k' a) : m >>= k = m >>= k' := by
  funext draws
  show (m draws >>= fun result => k result.1 result.2) =
    (m draws >>= fun result => k' result.1 result.2)
  cases hresult : m draws with
  | error f => rfl
  | ok result =>
    have hafter := h result.1 (hm draws result.1 result.2 hresult)
    exact congrFun hafter result.2

def Shrinks (rule : Reader α) : Prop :=
  ∀ ts, Gives (fun result => result.2.length ≤ ts.length) (rule ts)

theorem Written.shrinks {rule : Reader Value} (h : Written vars rule) : Shrinks rule := by
  obtain ⟨read, hread, hfaithful⟩ := h
  rintro ts draws ⟨v, rest⟩ last hv
  obtain ⟨e, he, -⟩ := (hread ts draws v rest last).mp hv
  exact (hfaithful List.suffix_rfl he).1.length_le

def Agree (n : Nat) (rule rule' : Reader α) : Prop :=
  ∀ ts : List Token, ts.length ≤ n → rule ts = rule' ts

section Agreement

variable {operand operand' base base' exponent exponent' inner inner' : Reader Value}
  {operator? : Token → Option Binary}

theorem agree_leftTail (h : Agree n operand operand') (hs : Shrinks operand) (count : Nat)
    (left : Value) : Agree n (Reader.leftTail operator? operand count left)
      (Reader.leftTail operator? operand' count left) := by
  induction count generalizing left with
  | zero => exact fun _ _ => rfl
  | succ count ih =>
    intro ts hts
    cases ts with
    | nil => rfl
    | cons t ts =>
      have hbehind : ts.length ≤ n := Nat.le_of_succ_le hts
      unfold Reader.leftTail
      rw [← h ts hbehind]
      split
      · rfl
      · refine bind_congr_of_gives (hs ts) fun result hresult => ?_
        refine bind_congr_of_gives (gives_any _) fun v _ => ?_
        exact ih v result.2 (hresult.trans hbehind)

theorem agree_leftGrouped (h : Agree n operand operand') (hs : Shrinks operand) :
    Agree n (Reader.leftGrouped operator? operand) (Reader.leftGrouped operator? operand') := by
  intro ts hts
  unfold Reader.leftGrouped
  rw [← h ts hts]
  refine bind_congr_of_gives (hs ts) fun result hresult => ?_
  exact agree_leftTail h hs _ _ result.2 (hresult.trans hts)

theorem agree_negated (h : Agree n operand operand') :
    Agree n (Reader.negated operand) (Reader.negated operand') := by
  intro ts hts
  induction ts with
  | nil => exact h [] hts
  | cons t ts ih =>
    unfold Reader.negated
    split
    · rename_i heq
      cases heq
      rw [ih (Nat.le_of_succ_le hts), h _ hts]
    · exact h _ hts

theorem agree_signed (h : Agree n operand operand') :
    Agree n (Reader.signed operand) (Reader.signed operand') := by
  intro ts hts
  induction ts with
  | nil => exact h [] hts
  | cons t ts ih =>
    unfold Reader.signed
    split
    · rename_i heq
      cases heq
      rw [ih (Nat.le_of_succ_le hts)]
    · rename_i heq
      cases heq
      rw [ih (Nat.le_of_succ_le hts)]
    · exact h _ hts

theorem agree_chainTail (h : Agree n operand operand') (hs : Shrinks operand) (count : Nat)
    (left : Value) (held : Bool) : Agree n (Reader.chainTail operand count left held)
      (Reader.chainTail operand' count left held) := by
  induction count generalizing left held with
  | zero => exact fun _ _ => rfl
  | succ count ih =>
    intro ts hts
    unfold Reader.chainTail
    split
    · rename_i heq
      cases heq
      have hbehind := Nat.le_of_succ_le hts
      rw [← h _ hbehind]
      refine bind_congr_of_gives (hs _) fun result hresult => ?_
      refine bind_congr_of_gives (gives_any _) fun holds _ => ?_
      exact ih result.1 _ result.2 (hresult.trans hbehind)
    · rfl

theorem agree_chained (h : Agree n operand operand') (hs : Shrinks operand) :
    Agree n (Reader.chained operand) (Reader.chained operand') := by
  intro ts hts
  unfold Reader.chained
  rw [← h ts hts]
  refine bind_congr_of_gives (hs ts) fun result hresult => ?_
  obtain ⟨left, rest⟩ := result
  have hrest : rest.length ≤ n := hresult.trans hts
  split
  · rename_i heq
    cases heq
    rw [agree_chainTail h hs _ _ _ _ hrest]
  · rfl

theorem agree_powered (hbase : Agree (n + 1) base base') (hs : Shrinks base)
    (hexponent : Agree n exponent exponent') :
    Agree (n + 1) (Reader.powered base exponent) (Reader.powered base' exponent') := by
  intro ts hts
  unfold Reader.powered
  rw [← hbase ts hts]
  refine bind_congr_of_gives (hs ts) fun result hresult => ?_
  obtain ⟨left, rest⟩ := result
  have hrest : rest.length ≤ n + 1 := hresult.trans hts
  split
  · rename_i heq
    cases heq
    rw [hexponent _ (Nat.le_of_succ_le_succ hrest)]
  · rfl

theorem agree_argumentsFrom (h : Agree n inner inner') (hs : Shrinks inner) (count : Nat) :
    Agree n (Reader.argumentsFrom inner count) (Reader.argumentsFrom inner' count) := by
  induction count with
  | zero => exact fun _ _ => rfl
  | succ count ih =>
    intro ts hts
    unfold Reader.argumentsFrom
    rw [← h ts hts]
    refine bind_congr_of_gives (hs ts) fun result hresult => ?_
    obtain ⟨v, rest⟩ := result
    have hrest : rest.length ≤ n := hresult.trans hts
    split
    · rename_i heq
      cases heq
      rw [ih _ (Nat.le_of_succ_le hrest)]
    · rfl
    · rfl

theorem agree_arguments (h : Agree n inner inner') (hs : Shrinks inner) :
    Agree n (Reader.arguments inner) (Reader.arguments inner') := by
  intro ts hts
  unfold Reader.arguments
  split
  · rfl
  · exact agree_argumentsFrom h hs _ _ hts

theorem agree_named (h : Agree n inner inner') (hs : Shrinks inner) (name : String) :
    Agree (n + 1) (Reader.named vars inner name) (Reader.named vars inner' name) := by
  intro ts hts
  unfold Reader.named
  split
  · rw [agree_arguments h hs _ (Nat.le_of_succ_le_succ hts)]
  · rfl

theorem agree_worded (h : Agree n inner inner') (hs : Shrinks inner) (w : String) :
    Agree (n + 1) (Reader.worded vars inner w) (Reader.worded vars inner' w) := by
  intro ts hts
  unfold Reader.worded
  split
  · rfl
  · split
    · split
      · rename_i member rest
        refine agree_named h hs _ rest ?_
        simp only [List.length_cons] at hts
        omega
      · rfl
    · exact agree_named h hs w _ hts
  · exact agree_named h hs w _ hts

theorem agree_atom (h : Agree n inner inner') (hs : Shrinks inner) :
    Agree (n + 1) (Reader.atom vars inner) (Reader.atom vars inner') := by
  intro ts hts
  unfold Reader.atom
  split
  · rfl
  · rfl
  · rfl
  · exact agree_worded h hs _ _ (Nat.le_of_succ_le hts)
  · rw [h _ (Nat.le_of_succ_le_succ hts)]
  · rfl

theorem agree_expression (h : Agree n operand operand') (hw : Written vars operand) :
    Agree n (Reader.expression operand) (Reader.expression operand') := by
  have hproduct : Agree n (Reader.product _) _ := agree_leftGrouped h hw.shrinks
  have hsum : Agree n (Reader.sum _) _ := agree_leftGrouped hproduct hw.product.shrinks
  have hcomparison : Agree n (Reader.comparison _) _ := agree_chained hsum hw.sum.shrinks
  have hnegation : Agree n (Reader.negation _) _ := agree_negated hcomparison
  have hconjunction : Agree n (Reader.conjunction _) _ := agree_leftGrouped hnegation hw.negation.shrinks
  exact agree_leftGrouped hconjunction hw.conjunction.shrinks

theorem agree_step (h : Agree n operand operand') (hw : Written vars operand) :
    Agree (n + 1) (Reader.signed (Reader.factor vars operand))
      (Reader.signed (Reader.factor vars operand')) := by
  have hatom : Agree (n + 1) (Reader.atom vars _) (Reader.atom vars _) :=
    agree_atom (agree_expression h hw) hw.expression.shrinks
  exact agree_signed (agree_powered hatom hw.expression.atom.shrinks h)

end Agreement

/-! ## The rule of signed operands -/

theorem agree_operand_succ (depth : Nat) :
    Agree depth (Reader.operand vars depth) (Reader.operand vars (depth + 1)) := by
  induction depth with
  | zero =>
    intro ts hts
    cases ts with
    | nil => rfl
    | cons t ts => cases hts
  | succ depth ih => exact agree_step ih (.of_depth vars depth)

def operandRule (vars : Table Value) : Reader Value := fun ts => Reader.operand vars ts.length ts

theorem written_operandRule (vars : Table Value) : Written vars (operandRule vars) :=
  ⟨fun ts => operand ts.length ts, fun ts => evaluates_operand ts.length ts,
    fun hts hread => faithful_operand _ hts hread⟩

theorem agree_operandRule (depth : Nat) : Agree depth (Reader.operand vars depth) (operandRule vars) := by
  intro ts hts
  unfold operandRule
  -- from the length of the row upwards, each level adds one that is not used
  induction depth, hts using Nat.le_induction with
  | base => rfl
  | succ depth hts ih => rw [← ih, agree_operand_succ depth ts hts]

/-- The rule of signed operands is made from itself. -/
theorem operandRule_eq (vars : Table Value) :
    operandRule vars = Reader.signed (Reader.factor vars (operandRule vars)) := by
  funext ts
  have hlevel : operandRule vars ts = Reader.operand vars (ts.length + 1) ts :=
    agree_operand_succ ts.length ts (Nat.le_refl _)
  have hstep := agree_step (agree_operandRule ts.length) (.of_depth vars ts.length)
  rw [hlevel]
  exact hstep ts (Nat.le_succ _)

/-- Arithmetic text is read by the rule of expressions, to its end. -/
theorem evaluate_eq (vars : Table Value) (t : Text) :
    evaluate vars t = (do
      let ts ← Token.ofText t
      match ← Reader.expression (operandRule vars) ts with
      | (v, []) => return v
      | (_, found :: _) => Drawn.fail (.leftOver found (String.ofList t))) := by
  have hrule : ∀ ts, Reader.expression (Reader.operand vars ts.length) ts =
      Reader.expression (operandRule vars) ts := fun ts =>
    agree_expression (agree_operandRule ts.length) (.of_depth vars ts.length) ts (Nat.le_refl _)
  unfold evaluate
  refine bind_congr_of_gives (gives_any _) fun ts _ => ?_
  exact congrArg (· >>= _) (hrule ts)

/-! ## Loops -/

section Loops

variable {operand inner : Reader Value} {operator? : Token → Option Binary} {count : Nat}

theorem leftTail_of_le (hs : Shrinks operand) (left : Value) (hts : ts.length ≤ count) :
    Reader.leftTail operator? operand count left ts =
      Reader.leftTail operator? operand ts.length left ts := by
  induction count using Nat.strong_induction_on generalizing left ts with
  | _ count ih =>
    cases ts with
    | nil => cases count <;> rfl
    | cons t ts =>
      obtain ⟨count, rfl⟩ := Nat.exists_eq_add_of_le' (Nat.le_trans (Nat.le_add_left 1 _) hts)
      have hbehind : ts.length ≤ count := Nat.le_of_succ_le_succ hts
      show _ = Reader.leftTail operator? operand (ts.length + 1) left (t :: ts)
      unfold Reader.leftTail
      split
      · rfl
      · refine bind_congr_of_gives (hs ts) fun result hresult => ?_
        refine bind_congr_of_gives (gives_any _) fun v _ => ?_
        -- both loops have no fewer turns to come than there are tokens left
        have hmore := ih count (Nat.lt_succ_self _) v (hresult.trans hbehind)
        have hless := ih ts.length (Nat.lt_succ_of_le hbehind) v hresult
        exact hmore.trans hless.symm

/-- A row grouped to the left goes on with every operator that stands there. -/
theorem leftTail_step (hs : Shrinks operand) (left : Value) (t : Token) (ts : List Token) :
    Reader.leftTail operator? operand (t :: ts).length left (t :: ts) =
      match operator? t with
      | none => pure (left, t :: ts)
      | some op => (do
        let (right, rest) ← operand ts
        Reader.leftTail operator? operand rest.length (← op.apply left right) rest) := by
  rw [List.length_cons, Reader.leftTail]
  cases operator? t with
  | none => rfl
  | some op =>
    refine bind_congr_of_gives (hs ts) fun result hresult => ?_
    exact bind_congr_of_gives (gives_any _) fun v _ => leftTail_of_le hs v hresult

theorem chainTail_of_le (hs : Shrinks operand) (left : Value) (held : Bool) (hts : ts.length ≤ count) :
    Reader.chainTail operand count left held ts = Reader.chainTail operand ts.length left held ts := by
  induction count using Nat.strong_induction_on generalizing left held ts with
  | _ count ih =>
    by_cases hmore : ∃ op after, ts = .sign (.compare op) :: after
    · obtain ⟨op, after, rfl⟩ := hmore
      obtain ⟨count, rfl⟩ := Nat.exists_eq_add_of_le' (Nat.le_trans (Nat.le_add_left 1 _) hts)
      have hbehind : after.length ≤ count := Nat.le_of_succ_le_succ hts
      rw [List.length_cons, Reader.chainTail, Reader.chainTail]
      refine bind_congr_of_gives (hs after) fun result hresult => ?_
      refine bind_congr_of_gives (gives_any _) fun holds _ => ?_
      have hmore := ih count (Nat.lt_succ_self _) result.1 (held && holds) (hresult.trans hbehind)
      have hless := ih after.length (Nat.lt_succ_of_le hbehind) result.1 (held && holds) hresult
      exact hmore.trans hless.symm
    · have hnone : ∀ op after, ts ≠ .sign (.compare op) :: after := fun op after heq =>
        hmore ⟨op, after, heq⟩
      rw [chainRule_of_stop _ _ _ hnone, chainRule_of_stop _ _ _ hnone]

theorem chainTail_step (hs : Shrinks operand) (left : Value) (held : Bool) (op : Comparison)
    (ts : List Token) :
    Reader.chainTail operand (ts.length + 1) left held (.sign (.compare op) :: ts) = (do
      let (right, rest) ← operand ts
      let holds ← comparison left op right
      Reader.chainTail operand rest.length right (held && holds) rest) := by
  rw [Reader.chainTail]
  refine bind_congr_of_gives (hs ts) fun result hresult => ?_
  exact bind_congr_of_gives (gives_any _) fun holds _ => chainTail_of_le hs _ _ hresult

theorem argumentsFrom_of_le (hs : Shrinks inner) (hnil : inner [] = Drawn.fail (.unexpected none))
    (hts : ts.length ≤ count) :
    Reader.argumentsFrom inner count ts = Reader.argumentsFrom inner ts.length ts := by
  induction count using Nat.strong_induction_on generalizing ts with
  | _ count ih =>
    cases ts with
    | nil =>
      cases count with
      | zero => rfl
      | succ count =>
        rw [Reader.argumentsFrom, hnil]
        rfl
    | cons t ts =>
      obtain ⟨count, rfl⟩ := Nat.exists_eq_add_of_le' (Nat.le_trans (Nat.le_add_left 1 _) hts)
      have hbehind : ts.length ≤ count := Nat.le_of_succ_le_succ hts
      rw [List.length_cons, Reader.argumentsFrom, Reader.argumentsFrom]
      refine bind_congr_of_gives (hs (t :: ts)) fun result hresult => ?_
      obtain ⟨v, rest⟩ := result
      split
      · rename_i heq
        cases heq
        have hrest := Nat.le_of_succ_le_succ hresult
        have hmore := ih count (Nat.lt_succ_self _) (hrest.trans hbehind)
        have hless := ih ts.length (Nat.lt_succ_of_le hbehind) hrest
        rw [hmore, hless]
      · rfl
      · rfl

/-- Arguments go on behind every comma; a row that has ended there has the fault of an operand. -/
theorem argumentsFrom_step (vars : Table Value) (t : Token) (ts : List Token) :
    Reader.argumentsFrom (Reader.expression (operandRule vars)) (t :: ts).length (t :: ts) = (do
      match ← Reader.expression (operandRule vars) (t :: ts) with
      | (v, .comma :: rest) => do
        let (vs, rest) ← Reader.argumentsFrom (Reader.expression (operandRule vars)) rest.length rest
        return (v :: vs, rest)
      | (v, .rightParen :: rest) => return ([v], rest)
      | (_, rest) => Drawn.fail (.unseparated rest.head?)) := by
  have hs := (written_operandRule vars).expression.shrinks
  rw [List.length_cons, Reader.argumentsFrom]
  refine bind_congr_of_gives (hs (t :: ts)) fun result hresult => ?_
  obtain ⟨v, rest⟩ := result
  cases rest with
  | nil => rfl
  | cons next rest =>
    cases next with
    | comma =>
      have hfewer := argumentsFrom_of_le hs rfl (Nat.le_of_succ_le_succ hresult)
      exact congrArg (· >>= fun others => pure (v :: others.1, others.2)) hfewer
    | _ => rfl

end Loops

end LineScript.Arith
