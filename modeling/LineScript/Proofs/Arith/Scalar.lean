import LineScript.Proofs.Arith.Reading
import LineScript.Proofs.Arith.Strings
import LineScript.Proofs.Number.Brief

/-!
# What arithmetic yields

The value of an arithmetic expression is null, a boolean, a number or a string (`scalar_of_evaluate`): a
variable that holds an object has no value in arithmetic, and no operator and no function makes one. Its
strings are those of the variables, those written out in it, and strings that are made and fit a string:
what holds of all of these holds of the strings of every part of it (`gives_eval`).
-/

namespace LineScript

namespace Value

/-- A value that is no object and, if it is a string, has a property. -/
def ScalarWith (p : String → Prop) : Value → Prop
  | object _ => False
  | string s => p s
  | _ => True

def Scalar : Value → Prop
  | object _ => False
  | _ => True

theorem ScalarWith.scalar {p : String → Prop} {v : Value} (h : v.ScalarWith p) : v.Scalar := by
  cases v with
  | object fields => exact h
  | _ => trivial

theorem Scalar.scalarWith {v : Value} (h : v.Scalar) : v.ScalarWith fun _ => True := by
  cases v with
  | object fields => exact h
  | _ => trivial

end Value

namespace Arith

def OfShort (p : String → Prop) : Prop := ∀ s : String, s.utf8ByteSize ≤ maxStringBytes → p s

variable {p : String → Prop}

/-! ## Results -/

/-- A result that is no object and no string without the property, if there is one. -/
def Plain (p : String → Prop) (r : Result Value) : Prop := ∀ v, r = .ok v → v.ScalarWith p

section Results

variable {α : Type} {r : Result Value} {m : Result α}

theorem plain_ok {v : Value} (h : v.ScalarWith p) : Plain p (.ok v) := by
  intro w hw
  cases hw
  exact h

theorem plain_error (f : Fault) : Plain p (.error f) := fun _ h => nomatch h

theorem plain_bind {k : α → Result Value} (hk : ∀ a, Plain p (k a)) : Plain p (m >>= k) := by
  cases m with
  | error f => exact plain_error f
  | ok a => exact hk a

theorem plain_map {k : α → Value} (hk : ∀ a, (k a).ScalarWith p) : Plain p (m.map k) := by
  cases m with
  | error f => exact plain_error f
  | ok a => exact plain_ok (hk a)

theorem plain_ite {c : Prop} [Decidable c] {r' : Result Value} (hr : Plain p r) (hr' : Plain p r') :
    Plain p (if c then r else r') := by
  split
  · exact hr
  · exact hr'

end Results

/-! ## Operators -/

theorem plain_exactly (n : Int) : Plain p (exactly n) := plain_map fun _ => trivial

theorem plain_numeric {op : Binary} {ints : Int64 → Int64 → Result Value}
    {floats : Float → Float → Result Value} (hints : ∀ a b, Plain p (ints a b))
    (hfloats : ∀ x y, Plain p (floats x y)) (left right : Value) :
    Plain p (numeric op ints floats left right) := by
  unfold numeric
  split
  · exact hints _ _
  · split
    · exact hfloats _ _
    · exact plain_error _

theorem plain_real (f : Float → Float → Float) (x y : Float) : Plain p (real f x y) := plain_ok trivial

section Strings

variable (hshort : OfShort p)
include hshort

theorem plain_add (left right : Value) : Plain p (add left right) := by
  unfold add
  split
  · split
    · next hfits =>
      refine plain_ok (hshort _ ?_)
      rw [String.utf8ByteSize_append]
      exact fitsString_iff.mp hfits
    · exact plain_error _
  · exact plain_numeric (fun _ _ => plain_exactly _) (plain_real _) _ _

theorem plain_repeated (s : String) (n : Int64) : Plain p (repeated s n) := by
  rw [repeated_eq]
  split
  · next hfits =>
    refine plain_ok (hshort _ ?_)
    rwa [bytes_copies]
  · exact plain_error _

theorem plain_multiply (left right : Value) : Plain p (multiply left right) := by
  unfold multiply
  split
  · exact plain_repeated hshort _ _
  · exact plain_repeated hshort _ _
  · exact plain_numeric (fun _ _ => plain_exactly _) (plain_real _) _ _

end Strings

theorem plain_divide (left right : Value) : Plain p (divide left right) := by
  unfold divide
  split
  · exact plain_ite (plain_error _) (plain_ok trivial)
  · exact plain_error _

theorem plain_floorDivideInts (a b : Int64) : Plain p (floorDivideInts a b) :=
  plain_ite (plain_error _) (plain_exactly _)

theorem plain_floorDivide (left right : Value) : Plain p (floorDivide left right) :=
  plain_numeric plain_floorDivideInts
    (fun _ _ => plain_ite (plain_error _) (plain_ok (v := .float _) trivial)) _ _

theorem plain_modulo (left right : Value) : Plain p (modulo left right) := by
  refine plain_numeric (fun a b => ?_)
    (fun _ _ => plain_ite (plain_error _) (plain_ok (v := .float _) trivial)) _ _
  unfold moduloInts
  refine plain_ite (plain_error _) ?_
  split
  · exact plain_error _
  · exact plain_exactly _

theorem plain_power (left right : Value) : Plain p (power left right) := by
  have hints : ∀ a n, Plain p (powerInts a n) := fun a n =>
    plain_ite (plain_error _) (plain_ite (plain_exactly _) (plain_ite (plain_exactly _)
      (plain_error _)))
  unfold power
  extract_lets floats
  have hfloats : Plain p floats := by
    subst floats
    split
    · exact plain_ok trivial
    · exact plain_error _
  split
  · exact plain_ite (hints _ _) hfloats
  · exact hfloats

theorem plain_binary (hshort : OfShort p) (op : Binary)
    {left right : Value} (hleft : left.ScalarWith p) (hright : right.ScalarWith p) :
    Plain p (op.apply left right) := by
  cases op with
  | or => exact plain_ok (by split <;> assumption)
  | and => exact plain_ok (by split <;> assumption)
  | add => exact plain_add hshort _ _
  | subtract => exact plain_numeric (fun _ _ => plain_exactly _) (plain_real _) _ _
  | multiply => exact plain_multiply hshort _ _
  | divide => exact plain_divide _ _
  | floorDivide => exact plain_floorDivide _ _
  | modulo => exact plain_modulo _ _
  | power => exact plain_power _ _

theorem plain_unary (op : Unary) (v : Value) : Plain p (op.apply v) := by
  unfold Unary.apply
  split
  · exact plain_ok trivial
  · exact plain_ok trivial
  · exact plain_ok trivial
  · exact plain_bind fun _ => plain_exactly _
  · exact plain_bind fun _ => plain_ok trivial

/-! ## Functions -/

theorem plain_best (op : Comparison) {first : Value} (hfirst : first.ScalarWith p) {vs : List Value}
    (hvs : ∀ v ∈ vs, v.ScalarWith p) : Plain p (best op first vs) := by
  induction vs generalizing first with
  | nil => exact plain_ok hfirst
  | cons v rest ih =>
    have hrest : ∀ w ∈ rest, w.ScalarWith p := fun w hw => hvs w (List.mem_cons_of_mem v hw)
    refine plain_bind fun exceeds => ?_
    exact plain_ite (ih (hvs v List.mem_cons_self) hrest) (ih hfirst hrest)

theorem plain_ofNumber (f : Builtin) (map : Float → Float) (v : Value) : Plain p (ofNumber f map v) :=
  plain_bind fun _ => plain_ok trivial

theorem plain_ofPositive (f : Builtin) (map : Float → Float) (v : Value) :
    Plain p (ofPositive f map v) :=
  plain_bind fun _ => plain_ite (plain_error _) (plain_ok trivial)

theorem plain_truncated (x : Float) : Plain p (truncated x) := plain_map fun _ => trivial

theorem plain_integral (f : Builtin) (map : Float → Float) (v : Value) :
    Plain p (integral f map v) := by
  unfold integral
  split
  · exact plain_ok trivial
  · exact plain_bind fun _ => plain_truncated _

theorem plain_toInteger (v : Value) : Plain p (toInteger v) := by
  unfold toInteger
  split
  · exact plain_ok trivial
  · exact plain_ok trivial
  · exact plain_truncated _
  · exact plain_map fun _ => trivial
  · exact plain_error _

theorem plain_toFloat (v : Value) : Plain p (toFloat v) := by
  unfold toFloat
  split <;> exact plain_map fun _ => trivial

theorem plain_absolute (v : Value) : Plain p (absolute v) := by
  unfold absolute
  split
  · exact plain_exactly _
  · exact plain_ofNumber _ _ _

theorem property_text (hshort : OfShort p) {v : Value}
    (h : v.ScalarWith p) : p v.text := by
  cases v with
  | string s => exact h
  | object fields => exact h.elim
  | _ => exact hshort _ (Value.bytes_text_le Value.Kind.noConfusion Value.Kind.noConfusion)

/-- A function makes no object of arguments that are none, and no string without the property. -/
theorem plain_value (hshort : OfShort p) (f : Builtin)
    {vs : List Value} (hvs : ∀ v ∈ vs, v.ScalarWith p) :
    Plain p (f.value vs) := by
  -- a case for each line of the table; only `str`, `min` and `max` hand on what they are given
  unfold Builtin.value
  split
  · exact plain_ok trivial
  · exact plain_ok trivial
  · exact plain_error _
  · next v => exact plain_ok (property_text hshort (hvs v List.mem_cons_self))
  · exact plain_toInteger _
  · exact plain_toFloat _
  · exact plain_ok trivial
  · exact plain_absolute _
  · exact plain_integral _ _ _
  · exact plain_bind fun _ => plain_bind fun _ => plain_ok trivial
  · next v rest =>
    exact plain_best _ (hvs v List.mem_cons_self) fun w hw => hvs w (List.mem_cons_of_mem v hw)
  · next v rest =>
    exact plain_best _ (hvs v List.mem_cons_self) fun w hw => hvs w (List.mem_cons_of_mem v hw)
  · exact plain_bind fun _ => plain_ite (plain_error _) (plain_ok trivial)
  · exact plain_bind fun _ => plain_bind fun _ => plain_ok trivial
  · exact plain_integral _ _ _
  · exact plain_integral _ _ _
  · exact plain_ofNumber _ _ _
  · exact plain_ofNumber _ _ _
  · exact plain_ofPositive _ _ _
  · next v base =>
    refine plain_bind fun x => ?_
    have hlog : Plain p (do return .float (x.log / (← numberOf .log base).log)) :=
      plain_bind fun _ => plain_ok trivial
    exact plain_ite (plain_bind fun _ => hlog) hlog
  · exact plain_ofPositive _ _ _
  · exact plain_ofPositive _ _ _
  · exact plain_ofNumber _ _ _
  · exact plain_ofNumber _ _ _
  · exact plain_ofNumber _ _ _
  · exact plain_error _

/-! ## Expressions -/

/-- A computation all of whose results have a property. -/
def Gives {α : Type} (P : α → Prop) (m : Drawing α) : Prop :=
  ∀ draws a draws', m draws = .ok (a, draws') → P a

section Computations

variable {α β : Type} {P : α → Prop} {Q : β → Prop}

theorem gives_pure {a : α} (h : P a) : Gives P (pure a) := by
  intro draws b draws' hb
  cases hb
  exact h

theorem gives_bind {m : Drawing α} {k : α → Drawing β} (hm : Gives P m)
    (hk : ∀ a, P a → Gives Q (k a)) : Gives Q (m >>= k) := by
  intro draws b draws' hb
  have hb : (m draws >>= fun result => k result.1 result.2) = .ok (b, draws') := hb
  cases hmd : m draws with
  | error f => rw [hmd] at hb; cases hb
  | ok result =>
    rw [hmd] at hb
    exact hk result.1 (hm draws result.1 result.2 hmd) result.2 b draws' hb

theorem gives_any (m : Drawing α) : Gives (fun _ => True) m := fun _ _ _ _ => trivial

theorem gives_fail (f : Fault) : Gives P (Drawn.fail f) := fun _ _ _ h => absurd h Drawn.fail_ne_ok

theorem gives_ite {c : Prop} [Decidable c] {m m' : Drawing α} (hm : Gives P m)
    (hm' : Gives P m') : Gives P (if c then m else m') := by
  split
  · exact hm
  · exact hm'

theorem gives_lift {r : Result Value} (h : Plain p r) :
    Gives (Value.ScalarWith p) (monadLift r : Drawing Value) := by
  intro draws v draws' hv
  cases r with
  | error f => cases hv
  | ok w =>
    cases hv
    exact h v rfl

end Computations

theorem gives_apply (hshort : OfShort p) (f : Builtin)
    {vs : List Value} (hvs : ∀ v ∈ vs, v.ScalarWith p) :
    Gives (Value.ScalarWith p) (f.apply vs) := by
  unfold Builtin.apply
  split
  · exact gives_bind (gives_any _) fun _ _ => gives_pure trivial
  · refine gives_bind (gives_any _) fun low _ => gives_bind (gives_any _) fun high _ => ?_
    exact gives_ite (gives_fail _) (gives_bind (gives_any _) fun _ _ => gives_pure trivial)
  · exact gives_bind (gives_any _) fun _ _ => gives_bind (gives_any _) fun _ _ =>
      gives_bind (gives_any _) fun _ _ => gives_pure trivial
  · exact gives_lift (plain_value hshort f hvs)

theorem gives_call (hshort : OfShort p) (name : String)
    {vs : List Value} (hvs : ∀ v ∈ vs, v.ScalarWith p) :
    Gives (Value.ScalarWith p) (call name vs) := by
  unfold call
  split
  · exact gives_apply hshort _ hvs
  · exact gives_fail _

theorem plain_lookup {vars : Table Value} (hvars : ∀ name s, vars.get? name = some (.string s) → p s)
    (name : String) : Plain p (lookup vars name) := by
  unfold lookup
  split
  · exact plain_ok trivial
  · exact plain_error _
  · next v hobject _ hget =>
    refine plain_ok ?_
    cases v with
    | object fields => exact (hobject fields rfl).elim
    | string s => exact hvars name s hget
    | _ => trivial
  · exact plain_error _

mutual

/-- The value of an expression is no object. It is no string without the property if no variable is, no
string written out in the expression is, and none that fits a string is. -/
theorem gives_eval (hshort : OfShort p) {vars : Table Value}
    (hvars : ∀ name s, vars.get? name = some (.string s) → p s) :
    ∀ e : Expr, (∀ s, e.Writes s → p s) → Gives (Value.ScalarWith p) (e.eval vars)
  | .literal l, hwritten => by
    refine gives_pure ?_
    cases l with
    | string s => exact hwritten s .self
    | _ => trivial
  | .name n, _ => gives_lift (plain_lookup hvars n)
  | .unary op e, hwritten =>
    gives_bind (gives_eval hshort hvars e fun s hs => hwritten s (.unary hs)) fun v _ =>
      gives_lift (plain_unary op v)
  | .binary op l r, hwritten =>
    gives_bind (gives_eval hshort hvars l fun s hs => hwritten s (.left hs)) fun _ hleft =>
      gives_bind (gives_eval hshort hvars r fun s hs => hwritten s (.right hs)) fun _ hright =>
        gives_lift (plain_binary hshort op hleft hright)
  | .chain first more, _ =>
    gives_bind (gives_any _) fun _ _ => gives_bind (gives_any _) fun _ _ => gives_pure trivial
  | .call f arguments, hwritten =>
    gives_bind (gives_evalAll hshort hvars arguments fun e he s hs => hwritten s (.argument he hs))
      fun _ hvs => gives_call hshort f hvs
termination_by structural e => e

theorem gives_evalAll (hshort : OfShort p)
    {vars : Table Value} (hvars : ∀ name s, vars.get? name = some (.string s) → p s) :
    ∀ es : List Expr, (∀ e ∈ es, ∀ s, e.Writes s → p s) →
      Gives (fun vs => ∀ v ∈ vs, v.ScalarWith p) (evalAll vars es)
  | [], _ => gives_pure fun _ hv => nomatch hv
  | e :: es, hwritten =>
    gives_bind (gives_eval hshort hvars e (hwritten e List.mem_cons_self)) fun _ hv =>
      gives_bind (gives_evalAll hshort hvars es fun d hd => hwritten d (List.mem_cons_of_mem e hd))
        fun _ hvs => gives_pure (List.forall_mem_cons.mpr ⟨hv, hvs⟩)
termination_by structural es => es

end

theorem gives_scalar (vars : Table Value) (e : Expr) : Gives Value.Scalar (e.eval vars) := by
  have hgives : Gives (Value.ScalarWith fun _ => True) (e.eval vars) :=
    gives_eval (fun _ _ => trivial) (fun _ _ _ => trivial) e fun _ _ => trivial
  exact fun draws v draws' h => (hgives draws v draws' h).scalar

theorem scalar_of_evaluate {vars : Table Value} {t : Text} {draws draws' : Draws} {v : Value}
    (h : evaluate vars t draws = .ok (v, draws')) : v.Scalar := by
  obtain ⟨ts, e, -, -, he⟩ := evaluate_eq_ok_iff.mp h
  exact gives_scalar vars e draws v draws' he

end Arith

end LineScript
