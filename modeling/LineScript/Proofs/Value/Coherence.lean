import LineScript.Arith.Builtin
import LineScript.Condition
import LineScript.Proofs.Value.Relation

/-!
# The comparisons agree with each other

The six operators read one relation between two values, so what one of them says settles the others
(`Condition.coherent`). On integers, on strings and on booleans the relation is a total order
(`Keyed.isLinearOrder`), and a minimum or maximum of such values is the first of those that no other one
beats (`Keyed.extremes`). All is put together in `Condition.comparisons_coherent`.
-/

namespace LineScript

def Comparison.converse : Comparison → Comparison
  | eq => eq
  | ne => ne
  | lt => gt
  | gt => lt
  | le => ge
  | ge => le

theorem Comparison.holds_converse (op : Comparison) (o : Ordering) :
    op.converse.holds o.swap = op.holds o := by
  cases op <;> cases o <;> rfl

section Cmp

variable {α : Type} [LinearOrder α]

theorem Comparison.holds_le (x y : α) : le.holds (cmp x y) = decide (x ≤ y) := by
  rw [holds, Bool.eq_iff_iff, bne_iff_ne, Ne, cmp_eq_gt_iff, not_lt, decide_eq_true_iff]

theorem Comparison.holds_lt (x y : α) : lt.holds (cmp x y) = decide (x < y) := by
  rw [holds, Bool.eq_iff_iff, beq_iff_eq, cmp_eq_lt_iff, decide_eq_true_iff]

theorem Comparison.holds_gt (x y : α) : gt.holds (cmp x y) = decide (y < x) := by
  rw [holds, Bool.eq_iff_iff, beq_iff_eq, cmp_eq_gt_iff, decide_eq_true_iff]

theorem Comparison.holds_eq (x y : α) : eq.holds (cmp x y) = decide (x = y) := by
  rw [holds, Bool.eq_iff_iff, beq_iff_eq, cmp_eq_eq_iff, decide_eq_true_iff]

end Cmp

namespace Condition

variable {a b : Value}

/-! ## What an operator reads -/

theorem compare_of_ordered {o : Ordering} (h : a.relate b = .ordered o) (op : Comparison) :
    compare a op b = .ok (op.holds o) := by
  simp only [compare, Value.compare?, h]

theorem compare_of_unordered (h : a.relate b = .unordered) (op : Comparison) :
    compare a op b = .ok (op == .ne) := by
  simp only [compare, Value.compare?, h]

theorem compare_of_unrelated (h : a.relate b = .unrelated) (op : Comparison) :
    compare a op b =
      match op with
      | .eq => .ok (a.same b)
      | .ne => .ok (!a.same b)
      | op => .error (.noOrder op a.kind b.kind) := by
  cases op <;> simp only [compare, Value.compare?, h]

theorem compare_converse (a b : Value) (op : Comparison) :
    (compare b op.converse a).toOption = (compare a op b).toOption := by
  have hswap := Value.relate_swap a b
  cases hrelate : a.relate b with
  | ordered o =>
    rw [hrelate] at hswap
    rw [compare_of_ordered hrelate, compare_of_ordered hswap, Comparison.holds_converse]
  | unordered =>
    rw [hrelate] at hswap
    rw [compare_of_unordered hrelate, compare_of_unordered hswap]
    cases op <;> rfl
  | unrelated =>
    rw [hrelate] at hswap
    rw [compare_of_unrelated hrelate, compare_of_unrelated hswap, Value.same_comm b a]
    cases op <;> rfl

/-- How the six operators between two values depend on each other. -/
structure Coherent (a b : Value) : Prop where
  /-- Equality always has an answer, the same from either side, and inequality has the other one. -/
  equality : ∃ e, compare a .eq b = .ok e ∧ compare b .eq a = .ok e ∧
    compare a .ne b = .ok (!e) ∧ compare b .ne a = .ok (!e)
  /-- Less from one side is greater from the other. -/
  less : (compare a .lt b).toOption = (compare b .gt a).toOption
  /-- At most from one side is at least from the other. -/
  atMost : (compare a .le b).toOption = (compare b .ge a).toOption
  /-- Between kinds with an order every operator has an answer. -/
  ordered : a.Comparable b → ∀ op, ∃ r, compare a op b = .ok r
  /-- Elsewhere the four operators that ask for an order fail, with an error of type. -/
  unordered : ¬ a.Comparable b →
    ∀ op, op ≠ .eq → op ≠ .ne → ∃ e, compare a op b = .error e ∧ e.kind = .typeError
  /-- Exactly one of less, equal and greater holds, and the last two operators join two of these. -/
  trichotomy : a.Comparable b → a.isNaN = false → b.isNaN = false →
    ∃ l e g, compare a .lt b = .ok l ∧ compare a .eq b = .ok e ∧ compare a .gt b = .ok g ∧
      [l, e, g].count true = 1 ∧ compare a .le b = .ok (l || e) ∧ compare a .ge b = .ok (g || e)
  /-- With what is not a number only inequality holds. -/
  notNumber : a.isNaN = true ∨ b.isNaN = true → ∀ op, compare a op b = .ok true ↔ op = .ne

theorem coherent (a b : Value) : Coherent a b where
  equality := by
    have hswap := Value.relate_swap a b
    cases hrelate : a.relate b with
    | ordered o =>
      rw [hrelate] at hswap
      simp only [compare_of_ordered hrelate, compare_of_ordered hswap]
      exact ⟨_, rfl, by cases o <;> rfl, by cases o <;> rfl, by cases o <;> rfl⟩
    | unordered =>
      rw [hrelate] at hswap
      simp only [compare_of_unordered hrelate, compare_of_unordered hswap]
      exact ⟨_, rfl, rfl, rfl, rfl⟩
    | unrelated =>
      rw [hrelate] at hswap
      simp only [compare_of_unrelated hrelate, compare_of_unrelated hswap, Value.same_comm b a]
      exact ⟨_, rfl, rfl, rfl, rfl⟩
  less := (compare_converse a b .lt).symm
  atMost := (compare_converse a b .le).symm
  ordered := by
    intro h op
    cases hrelate : a.relate b with
    | ordered o => exact ⟨_, compare_of_ordered hrelate op⟩
    | unordered => exact ⟨_, compare_of_unordered hrelate op⟩
    | unrelated => exact absurd h ((a.relate_eq_unrelated_iff b).mp hrelate)
  unordered := by
    intro h op heq hne
    rw [compare_of_unrelated ((a.relate_eq_unrelated_iff b).mpr h)]
    cases op with
    | eq => exact absurd rfl heq
    | ne => exact absurd rfl hne
    | _ => exact ⟨_, rfl, rfl⟩
  trichotomy := by
    intro h ha hb
    obtain ⟨o, hrelate⟩ := Value.exists_order h ha hb
    simp only [compare_of_ordered hrelate]
    refine ⟨_, _, _, rfl, rfl, rfl, ?_⟩
    cases o <;> exact ⟨rfl, rfl, rfl⟩
  notNumber := by
    intro hnan op
    by_cases h : a.Comparable b
    · rw [compare_of_unordered ((a.relate_eq_unordered_iff b).mpr ⟨h, hnan⟩)]
      cases op <;> decide
    · have hrelate := (a.relate_eq_unrelated_iff b).mpr h
      -- equality part by part fails on either side
      have hsame : a.same b = false := by
        rcases hnan with ha | hb
        · exact Value.same_eq_false_of_isNaN ha b
        · rw [Value.same_comm]
          exact Value.same_eq_false_of_isNaN hb a
      rw [compare_of_unrelated hrelate, hsame]
      cases op with
      | eq => exact iff_of_false nofun nofun
      | ne => exact iff_of_true rfl rfl
      | _ => exact iff_of_false nofun nofun

/-! ## Total orders -/

def codePoints (s : String) : List Nat := s.toList.map Char.toNat

theorem codePoints_strictMono : StrictMono codePoints := fun _ _ h =>
  List.map_lt (fun _ _ hlt => hlt) (String.lt_iff_toList_lt.mp h)

/-- A key that the values of a kind are told apart by and compared by. -/
structure Keyed {α : Type} [LinearOrder α] (kind : Value.Kind) (key : Value → α) : Prop where
  relate : ∀ {a b : Value}, a.kind = kind → b.kind = kind →
    a.relate b = .ordered (cmp (key a) (key b))
  injective : ∀ {a b : Value}, a.kind = kind → b.kind = kind → key a = key b → a = b

def integerKey : Value → Int
  | .integer n => n.toInt
  | _ => 0

def stringKey : Value → List Nat
  | .string s => codePoints s
  | _ => []

def booleanKey : Value → Bool
  | .boolean p => p
  | _ => false

theorem keyed_integer : Keyed .integer integerKey where
  relate := by
    intro a b ha hb
    cases a <;> cases ha
    cases b <;> cases hb
    exact congrArg Relation.ordered (cmp_eq_compare _ _).symm
  injective := by
    intro a b ha hb hkey
    cases a <;> cases ha
    cases b <;> cases hb
    exact congrArg Value.integer (Int64.toInt_inj.mp hkey)

theorem keyed_string : Keyed .string stringKey where
  relate := by
    intro a b ha hb
    cases a <;> cases ha
    cases b <;> cases hb
    next s t =>
    rw [stringKey, stringKey, codePoints_strictMono.cmp_map_eq, cmp_eq_compareOfLessAndEq]
    rfl
  injective := by
    intro a b ha hb hkey
    cases a <;> cases ha
    cases b <;> cases hb
    exact congrArg Value.string (codePoints_strictMono.injective hkey)

theorem keyed_boolean : Keyed .boolean booleanKey where
  relate := by
    intro a b ha hb
    cases a <;> cases ha
    cases b <;> cases hb
    next p q => cases p <;> cases q <;> rfl
  injective := by
    intro a b ha hb hkey
    cases a <;> cases ha
    cases b <;> cases hb
    exact congrArg Value.boolean hkey

section Keyed

variable {α : Type} [LinearOrder α] {kind : Value.Kind} {key : Value → α}

theorem Keyed.compare_le (h : Keyed kind key) (ha : a.kind = kind) (hb : b.kind = kind) :
    compare a .le b = .ok (decide (key a ≤ key b)) := by
  rw [compare_of_ordered (h.relate ha hb), Comparison.holds_le]

theorem Keyed.compare_lt (h : Keyed kind key) (ha : a.kind = kind) (hb : b.kind = kind) :
    compare a .lt b = .ok (decide (key a < key b)) := by
  rw [compare_of_ordered (h.relate ha hb), Comparison.holds_lt]

theorem Keyed.compare_gt (h : Keyed kind key) (ha : a.kind = kind) (hb : b.kind = kind) :
    compare a .gt b = .ok (decide (key b < key a)) := by
  rw [compare_of_ordered (h.relate ha hb), Comparison.holds_gt]

theorem Keyed.isLinearOrder (h : Keyed kind key) :
    IsLinearOrder {v : Value // v.kind = kind} fun a b => compare a.1 .le b.1 = .ok true := by
  have hle : ∀ a b : {v : Value // v.kind = kind},
      compare a.1 .le b.1 = .ok true ↔ key a.1 ≤ key b.1 := by
    intro a b
    rw [h.compare_le a.2 b.2, Except.ok.injEq, decide_eq_true_iff]
  exact
    { refl := fun a => (hle a a).mpr le_rfl
      trans := fun a b c hab hbc => (hle a c).mpr (((hle a b).mp hab).trans ((hle b c).mp hbc))
      antisymm := fun a b hab hba =>
        Subtype.ext (h.injective a.2 b.2 (((hle a b).mp hab).antisymm ((hle b a).mp hba)))
      total := fun a b => (le_total (key a.1) (key b.1)).imp (hle a b).mpr (hle b a).mpr }

/-! ## Minimum and maximum -/

/-- A value is the first of the arguments that no other one is better than in the sense of `op`. -/
def FirstBest (op : Comparison) (arguments : List Value) (v : Value) : Prop :=
  ∃ before after, arguments = before ++ v :: after ∧
    (∀ w ∈ arguments, compare w op v = .ok false) ∧
    ∀ w ∈ before, ∃ u ∈ arguments, compare u op w = .ok true

theorem comparison_of_compare {op : Comparison} {r : Bool} (h : compare a op b = .ok r) :
    Arith.comparison a op b = .ok r := by
  rw [Arith.comparison]
  unfold compare at h
  cases hcompare : a.compare? op b with
  | some r' => rw [hcompare] at h; cases h; rfl
  | none => rw [hcompare] at h; cases h

theorem best_spec {op : Comparison} (hop : ∀ {a b : Value}, a.kind = kind → b.kind = kind →
      compare a op b = .ok (decide (key a < key b))) {first : Value} {rest : List Value}
    (hfirst : first.kind = kind) (hrest : ∀ v ∈ rest, v.kind = kind) :
    ∃ before v after, first :: rest = before ++ v :: after ∧ Arith.best op first rest = .ok v ∧
      (∀ w ∈ before, key v < key w) ∧ ∀ w ∈ after, key v ≤ key w := by
  -- on the arguments to come, for every first one: it is the best of those that were passed
  induction rest generalizing first with
  | nil => exact ⟨[], first, [], rfl, rfl, nofun, nofun⟩
  | cons u rest ih =>
    have hu := hrest u List.mem_cons_self
    have hrest := fun v hv => hrest v (List.mem_cons_of_mem u hv)
    have hstep : Arith.best op first (u :: rest) =
        if key u < key first then Arith.best op u rest else Arith.best op first rest := by
      rw [Arith.best, comparison_of_compare (hop hu hfirst)]
      by_cases hlt : key u < key first <;> simp [hlt, bind, Except.bind]
    rw [hstep]
    by_cases hlt : key u < key first
    · -- the better one is found from here on, so it is better than all that was passed
      obtain ⟨before, v, after, hsplit, hbest, hbefore, hafter⟩ := ih hu hrest
      have hle : key v ≤ key u := by
        have hmem : u ∈ before ++ v :: after := hsplit ▸ List.mem_cons_self
        rcases List.mem_append.mp hmem with hmem | hmem
        · exact (hbefore u hmem).le
        · rcases List.mem_cons.mp hmem with rfl | hmem
          · exact le_rfl
          · exact hafter u hmem
      refine ⟨first :: before, v, after, by rw [hsplit, List.cons_append], by rw [if_pos hlt, hbest], ?_,
        hafter⟩
      rintro w (_ | ⟨_, hw⟩)
      · exact hle.trans_lt hlt
      · exact hbefore w hw
    · obtain ⟨before, v, after, hsplit, hbest, hbefore, hafter⟩ := ih hfirst hrest
      rw [if_neg hlt]
      cases before with
      | nil =>
        obtain ⟨rfl, rfl⟩ := List.cons.inj hsplit
        refine ⟨[], first, u :: rest, rfl, hbest, nofun, ?_⟩
        rintro w (_ | ⟨_, hw⟩)
        · exact not_lt.mp hlt
        · exact hafter w hw
      | cons w before =>
        obtain ⟨rfl, rfl⟩ := List.cons.inj hsplit
        refine ⟨first :: u :: before, v, after, rfl, hbest, ?_, hafter⟩
        have hless := hbefore first List.mem_cons_self
        rintro w (_ | ⟨_, _ | ⟨_, hw⟩⟩)
        · exact hless
        · exact hless.trans_le (not_lt.mp hlt)
        · exact hbefore w (List.mem_cons_of_mem first hw)

theorem best_firstBest {op : Comparison} (hop : ∀ {a b : Value}, a.kind = kind → b.kind = kind →
      compare a op b = .ok (decide (key a < key b))) {first : Value} {rest : List Value}
    (hkind : ∀ v ∈ first :: rest, v.kind = kind) :
    ∃ v, FirstBest op (first :: rest) v ∧ Arith.best op first rest = .ok v := by
  obtain ⟨before, v, after, hsplit, hbest, hbefore, hafter⟩ :=
    best_spec hop (hkind first List.mem_cons_self) fun v hv => hkind v (List.mem_cons_of_mem first hv)
  have hv : v ∈ first :: rest := by
    rw [hsplit]
    exact List.mem_append_right before List.mem_cons_self
  -- nothing beats the one found, and each one before it is beaten, by this one at least
  have hmem : ∀ w ∈ before, w ∈ first :: rest := by
    intro w hw
    rw [hsplit]
    exact List.mem_append_left _ hw
  refine ⟨v, ⟨before, after, hsplit, fun w hw => ?_, fun w hw => ⟨v, hv, ?_⟩⟩, hbest⟩
  · rw [hop (hkind w hw) (hkind v hv), decide_eq_false]
    rw [hsplit] at hw
    rcases List.mem_append.mp hw with hw | hw
    · exact (hbefore w hw).not_gt
    · rcases List.mem_cons.mp hw with rfl | hw
      · exact lt_irrefl _
      · exact (hafter w hw).not_gt
  · rw [hop (hkind v hv) (hkind w (hmem w hw)), decide_eq_true (hbefore w hw)]

/-- Of arguments of one kind the minimum is the first that none is less than, and the maximum the first that
none is greater than. -/
theorem Keyed.extremes (h : Keyed kind key) {arguments : List Value} (hne : arguments ≠ [])
    (hkind : ∀ v ∈ arguments, v.kind = kind) (draws : Draws) :
    (∃ v, FirstBest .lt arguments v ∧ (Arith.Builtin.min.apply arguments).run draws = .ok (v, draws)) ∧
      ∃ v, FirstBest .gt arguments v ∧ (Arith.Builtin.max.apply arguments).run draws = .ok (v, draws) := by
  obtain ⟨first, rest, rfl⟩ := List.exists_cons_of_ne_nil hne
  obtain ⟨least, hleast, hmin⟩ := best_firstBest h.compare_lt hkind
  -- the greatest is the least in the other direction
  have hgreater : ∀ {a b : Value}, a.kind = kind → b.kind = kind →
      compare a .gt b = .ok (decide (OrderDual.toDual (key a) < OrderDual.toDual (key b))) :=
    h.compare_gt
  obtain ⟨greatest, hgreatest, hmax⟩ := best_firstBest hgreater hkind
  refine ⟨⟨least, hleast, ?_⟩, greatest, hgreatest, ?_⟩
  · show (monadLift (Arith.best .lt first rest) : Arith.Drawing Value) draws = .ok (least, draws)
    rw [hmin]
    rfl
  · show (monadLift (Arith.best .gt first rest) : Arith.Drawing Value) draws = .ok (greatest, draws)
    rw [hmax]
    rfl

end Keyed

/-- The comparisons agree with each other between any two values, less or equal is a total order of the
integers, of the strings by their code points and of the booleans, and the minimum and the maximum of
arguments of one of these kinds are the first that no other one is less or greater than. -/
theorem comparisons_coherent :
    (∀ a b : Value, Coherent a b) ∧
      (∀ kind ∈ [Value.Kind.integer, .string, .boolean],
        (IsLinearOrder {v : Value // v.kind = kind} fun a b => compare a.1 .le b.1 = .ok true) ∧
        ∀ arguments : List Value, arguments ≠ [] → (∀ v ∈ arguments, v.kind = kind) → ∀ draws,
          (∃ v, FirstBest .lt arguments v ∧
            (Arith.Builtin.min.apply arguments).run draws = .ok (v, draws)) ∧
          ∃ v, FirstBest .gt arguments v ∧
            (Arith.Builtin.max.apply arguments).run draws = .ok (v, draws)) ∧
      (∀ m n : Int64, compare (.integer m) .le (.integer n) = .ok (decide (m.toInt ≤ n.toInt))) ∧
      (∀ s t : String,
        compare (.string s) .le (.string t) = .ok (decide (codePoints s ≤ codePoints t))) ∧
      ∀ p q : Bool, compare (.boolean p) .le (.boolean q) = .ok (decide (p ≤ q)) := by
  refine ⟨coherent, ?_, fun m n => keyed_integer.compare_le rfl rfl,
    fun s t => keyed_string.compare_le rfl rfl, fun p q => keyed_boolean.compare_le rfl rfl⟩
  intro kind hkind
  simp only [List.mem_cons, List.not_mem_nil, or_false] at hkind
  rcases hkind with rfl | rfl | rfl
  · exact ⟨keyed_integer.isLinearOrder, fun _ => keyed_integer.extremes⟩
  · exact ⟨keyed_string.isLinearOrder, fun _ => keyed_string.extremes⟩
  · exact ⟨keyed_boolean.isLinearOrder, fun _ => keyed_boolean.extremes⟩

/-- A string and a number have no order, and a capital letter comes before a small one. -/
theorem comparisons_coherent_words :
    (∃ e, compare (.string "1") .lt (.integer 1) = .error e ∧ e.kind = .typeError) ∧
      (∃ l e g, compare (.integer 2) .lt (.float 2.5) = .ok l ∧
        compare (.integer 2) .eq (.float 2.5) = .ok e ∧ compare (.integer 2) .gt (.float 2.5) = .ok g ∧
        [l, e, g].count true = 1 ∧
        compare (.integer 2) .le (.float 2.5) = .ok (l || e) ∧
        compare (.integer 2) .ge (.float 2.5) = .ok (g || e)) ∧
      ∀ draws, ∃ v, FirstBest .lt [.string "b", .string "B", .string "a"] v ∧
        (Arith.Builtin.min.apply [.string "b", .string "B", .string "a"]).run draws = .ok (v, draws) := by
  obtain ⟨hcoherent, hkinds, -⟩ := comparisons_coherent
  refine ⟨(hcoherent _ _).unordered ?_ .lt nofun nofun, (hcoherent _ _).trichotomy ?_ rfl ?_,
    fun draws => ?_⟩
  · rintro (⟨hnumber, -⟩ | ⟨hkind, -⟩)
    · cases hnumber
    · cases hkind
  · exact .inl ⟨rfl, rfl⟩
  · decide +kernel
  · have hwords := (hkinds .string (by decide)).2 [.string "b", .string "B", .string "a"]
    exact (hwords nofun (by simp [Value.kind]) draws).1

end Condition

end LineScript
