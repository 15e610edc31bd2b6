import LineScript.Proofs.Value.Coherence

/-!
# Integers compared with floating-point numbers

An integer is compared with a floating-point number as the floating-point number nearest to it. The answer is
that of the two numbers themselves, with one exception: the floating-point number that an integer becomes is
taken to be equal to it, also where it is another number (`Merged`). The integers of 53 bits stay what they
are, and among numbers that do the comparisons are transitive (`mixed_comparisons`).
-/

namespace LineScript

/-- An integer and the floating-point number that it becomes, where that is another number. -/
def Binary64.Merged (n : Int64) (x : Float) : Prop :=
  exact x = exact (ofInt n.toInt) ∧ exact x ≠ n.toInt

/-- The number that a value is, if it is one. -/
def Value.exact : Value → ℚ
  | .integer n => n.toInt
  | .float x => Binary64.exact x
  | _ => 0

/-- Whether a value is a finite number that becomes no other number in a comparison. -/
def Value.Kept : Value → Prop
  | .integer n => Binary64.exact (Binary64.ofInt n.toInt) = n.toInt
  | .float x => x.isFinite = true
  | _ => False

/-- Whether an operator holds between two rational numbers. -/
def Comparison.between (op : Comparison) (p q : ℚ) : Bool := op.holds (cmp p q)

namespace Condition

open Binary64 (exact ofInt Merged)

variable {a b c : Value} {n : Int64} {x y : Float}

theorem isFinite_ofInt (n : Int64) : (ofInt n.toInt).isFinite :=
  (Binary64.ofInt_spec (Value.natAbs_toInt_le n)).1

theorem nearest_ofInt (n : Int64) (hx : x.isFinite) :
    |exact (ofInt n.toInt) - n.toInt| ≤ |exact x - n.toInt| :=
  (Binary64.ofInt_spec (Value.natAbs_toInt_le n)).2 _ (Binary64.representable_exact hx)

theorem lt_of_merged (h : Merged n x) : 2 ^ 53 < n.toInt.natAbs := by
  by_contra hle
  refine h.2 (h.1.trans ?_)
  exact Binary64.exact_ofInt (Value.natAbs_toInt_le n) (Binary64.representable_int (not_lt.mp hle))

/-- No floating-point number lies between an integer and the one that it becomes. -/
theorem cmp_ofInt (hx : x.isFinite) (h : ¬ Merged n x) :
    cmp (exact (ofInt n.toInt)) (exact x) = cmp (n.toInt : ℚ) (exact x) := by
  have hnearest := nearest_ofInt n hx
  -- a number between the two would be nearer to the integer
  rcases lt_trichotomy (exact x) (exact (ofInt n.toInt)) with hlt | heq | hgt
  · have hn : exact x < n.toInt := by
      by_contra hge
      rw [abs_of_nonneg (by linarith), abs_of_nonneg (by linarith)] at hnearest
      linarith
    rw [(cmp_eq_gt_iff _ _).mpr hlt, (cmp_eq_gt_iff _ _).mpr hn]
  · have hn : exact x = n.toInt := not_ne_iff.mp fun hne => h ⟨heq, hne⟩
    rw [← heq, hn]
  · have hn : (n.toInt : ℚ) < exact x := by
      by_contra hge
      rw [abs_of_nonpos (by linarith), abs_of_nonpos (by linarith)] at hnearest
      linarith
    rw [(cmp_eq_lt_iff _ _).mpr hgt, (cmp_eq_lt_iff _ _).mpr hn]

theorem relateFloats_exact (hx : x.isFinite) (hy : y.isFinite) :
    Value.relateFloats x y = .ordered (cmp (exact x) (exact y)) := by
  rw [Value.relateFloats_eq, Binary64.compare_exact hx hy, cmp_eq_compare]
  rfl

theorem compare_mixed (n : Int64) (hx : x.isFinite) (op : Comparison) :
    compare (.integer n) op (.float x) = .ok (op.between (exact (ofInt n.toInt)) (exact x)) ∧
      compare (.float x) op (.integer n) = .ok (op.between (exact x) (exact (ofInt n.toInt))) := by
  have hleft : (Value.integer n).relate (.float x) = _ := relateFloats_exact (isFinite_ofInt n) hx
  have hright : (Value.float x).relate (.integer n) = _ := relateFloats_exact hx (isFinite_ofInt n)
  exact ⟨compare_of_ordered hleft op, compare_of_ordered hright op⟩

theorem compare_of_merged (hx : x.isFinite) (h : Merged n x) (op : Comparison) :
    compare (.integer n) op (.float x) = .ok (op.holds .eq) ∧
      compare (.float x) op (.integer n) = .ok (op.holds .eq) := by
  have hmixed := compare_mixed n hx op
  rwa [← h.1, Comparison.between, cmp_self_eq_eq] at hmixed

/-- The answers are those of the two numbers themselves exactly if the second is not another number that the
first becomes. -/
theorem truthful_iff (n : Int64) (hx : x.isFinite) :
    (∀ op, compare (.integer n) op (.float x) = .ok (op.between n.toInt (exact x)) ∧
      compare (.float x) op (.integer n) = .ok (op.between (exact x) n.toInt)) ↔ ¬ Merged n x := by
  constructor
  · intro htruth hmerged
    have heq := (htruth .eq).1
    rw [(compare_of_merged hx hmerged .eq).1, Except.ok.injEq] at heq
    rw [Comparison.between, Comparison.holds_eq] at heq
    exact hmerged.2 (of_decide_eq_true heq.symm).symm
  · intro h op
    have hcmp := cmp_ofInt hx h
    have hswap : cmp (exact x) (exact (ofInt n.toInt)) = cmp (exact x) n.toInt := by
      rw [← cmp_swap, hcmp, cmp_swap]
    have hmixed := compare_mixed n hx op
    rwa [Comparison.between, Comparison.between, hcmp, hswap] at hmixed

theorem compare_of_kept (ha : a.Kept) (hb : b.Kept) (op : Comparison) :
    compare a op b = .ok (op.between a.exact b.exact) := by
  have hother : ∀ {n : Int64} {x : Float}, (Value.integer n).Kept → ¬ Merged n x := fun hn hmerged =>
    hmerged.2 (hmerged.1.trans hn)
  -- two integers, two floating-point numbers, or one of each, which is not merged with the other
  cases a with
  | integer m =>
    cases b with
    | integer n =>
      have hcast : cmp (m.toInt : ℚ) n.toInt = Ord.compare m.toInt n.toInt :=
        (Int.cast_strictMono.cmp_map_eq _ _).trans (cmp_eq_compare _ _)
      rw [Comparison.between, Value.exact, Value.exact, hcast]
      exact compare_of_ordered rfl op
    | float y => exact ((truthful_iff m hb).mpr (hother ha) op).1
    | _ => exact hb.elim
  | float x =>
    cases b with
    | integer n => exact ((truthful_iff n ha).mpr (hother hb) op).2
    | float y =>
      have hrelate : (Value.float x).relate (.float y) = _ := relateFloats_exact ha hb
      exact compare_of_ordered hrelate op
    | _ => exact hb.elim
  | _ => exact ha.elim

theorem trans_of_kept (ha : a.Kept) (hb : b.Kept) (hc : c.Kept) {op : Comparison}
    (hop : op ∈ [Comparison.le, .eq]) (hab : compare a op b = .ok true)
    (hbc : compare b op c = .ok true) : compare a op c = .ok true := by
  rw [compare_of_kept ha hb, Except.ok.injEq] at hab
  rw [compare_of_kept hb hc, Except.ok.injEq] at hbc
  rw [compare_of_kept ha hc, Except.ok.injEq]
  simp only [List.mem_cons, List.not_mem_nil, or_false] at hop
  rcases hop with rfl | rfl
  · rw [Comparison.between, Comparison.holds_le, decide_eq_true_iff] at hab hbc ⊢
    exact hab.trans hbc
  · rw [Comparison.between, Comparison.holds_eq, decide_eq_true_iff] at hab hbc ⊢
    exact hab.trans hbc

/-- Between an integer and a finite floating-point number every operator has the answer of the two numbers
themselves, on either side, unless the second is another number that the first becomes; such two are taken to
be equal. What an integer becomes is nearest to it, and another number only beyond `2 ^ 53`.
Less or equal and equality are transitive over all numbers that become no other number. -/
theorem mixed_comparisons (n : Int64) (x : Float) (hx : x.isFinite) :
    ((∀ op, compare (.integer n) op (.float x) = .ok (op.between n.toInt (exact x)) ∧
      compare (.float x) op (.integer n) = .ok (op.between (exact x) n.toInt)) ↔ ¬ Merged n x) ∧
    (Merged n x → 2 ^ 53 < n.toInt.natAbs ∧
      ∀ op, compare (.integer n) op (.float x) = .ok (op.holds .eq) ∧
        compare (.float x) op (.integer n) = .ok (op.holds .eq)) ∧
    |exact (ofInt n.toInt) - n.toInt| ≤ |exact x - n.toInt| ∧
    ∀ a b c : Value, a.Kept → b.Kept → c.Kept → ∀ op ∈ [Comparison.le, .eq],
      compare a op b = .ok true → compare b op c = .ok true → compare a op c = .ok true :=
  ⟨truthful_iff n hx, fun h => ⟨lt_of_merged h, compare_of_merged hx h⟩, nearest_ofInt n hx,
    fun _ _ _ ha hb hc _ => trans_of_kept ha hb hc⟩

theorem merged_first : Merged 9007199254740993 9007199254740992.0 := by
  have hbefore : (9007199254740992.0 : Float) = ofInt 9007199254740992 :=
    congrArg Float.ofModel (by decide +kernel)
  have hafter : (9007199254740992.0 : Float) = ofInt (9007199254740993 : Int64).toInt :=
    congrArg Float.ofModel (by decide +kernel)
  refine ⟨congrArg exact hafter, ?_⟩
  have hexact : exact (ofInt 9007199254740992) = (9007199254740992 : ℤ) :=
    Binary64.exact_ofInt (by decide) (Binary64.representable_int (by decide))
  have hint : (9007199254740993 : Int64).toInt = 9007199254740993 := by decide
  rw [hbefore, hexact, hint]
  decide

/-- The greater of two numbers is not taken to be greater; small numbers are ordered as they should be. -/
theorem mixed_comparisons_merged :
    compare (.integer 9007199254740993) .gt (.float 9007199254740992.0) = .ok false ∧
      compare (.integer 1) .le (.integer 2) = .ok true := by
  obtain ⟨-, hmerged, -, htrans⟩ :=
    mixed_comparisons 9007199254740993 9007199254740992.0 (by decide +kernel)
  have hkept : ∀ n : Int64, n.toInt.natAbs ≤ 2 ^ 53 → (Value.integer n).Kept := fun n hn =>
    Binary64.exact_ofInt (Value.natAbs_toInt_le n) (Binary64.representable_int hn)
  have hfinite : (1.5 : Float).isFinite = true := by decide +kernel
  refine ⟨((hmerged merged_first).2 .gt).1, ?_⟩
  exact htrans _ (.float 1.5) _ (hkept 1 (by decide)) hfinite (hkept 2 (by decide)) .le
    (by decide) (by decide +kernel) (by decide +kernel)

/-- Equality with a floating-point number goes from an integer to the next, which it is not equal to. -/
theorem integers_merged :
    exact 9007199254740992.0 ≠ (9007199254740993 : Int64).toInt ∧
      compare (.integer 9007199254740993) .eq (.float 9007199254740992.0) = .ok true ∧
      compare (.float 9007199254740992.0) .eq (.integer 9007199254740992) = .ok true ∧
      compare (.integer 9007199254740993) .eq (.integer 9007199254740992) = .ok false ∧
      compare (.integer 9007199254740993) .le (.float 9007199254740992.0) = .ok true ∧
      compare (.float 9007199254740992.0) .le (.integer 9007199254740992) = .ok true ∧
      compare (.integer 9007199254740993) .le (.integer 9007199254740992) = .ok false :=
  ⟨merged_first.2, by decide +kernel, by decide +kernel, by decide +kernel, by decide +kernel,
    by decide +kernel, by decide +kernel⟩

end Condition

end LineScript
