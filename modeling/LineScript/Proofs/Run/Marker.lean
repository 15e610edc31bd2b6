import Mathlib.Data.List.Basic
import Mathlib.Tactic.Common
import LineScript.Text.Blank

/-!
# Markers in the output

Calls and loops put out a line when they start and another one when they finish.  These lines are read
here from the output alone (`Marker.read?`), and a row of them is well nested if every finish closes
the span that was started last and is still open (`Marker.WellNested`).
-/

namespace LineScript

/-- What a run goes through between two markers: the body of a function, or the turns of a loop. -/
inductive Span where
  | call (name : String)
  | loop
deriving DecidableEq

def Span.isCall : Span → Bool
  | call _ => true
  | loop => false

theorem Span.countP_call (name : String) (spans : List Span) :
    (call name :: spans).countP isCall = spans.countP isCall + 1 := List.countP_cons_of_pos rfl

inductive Marker where
  | start (span : Span)
  | finish (span : Span)
deriving DecidableEq

namespace Marker

/-! ## Reading a line -/

def between? (first last line : String) : Option String := do
  let rest ← line.toList.dropPrefix? first.toList
  let middle ← rest.dropSuffix? last.toList
  return String.ofList middle

def read? (line : String) : Option Marker :=
  if let some name := between? "➡️ Calling function '" "'..." line then some (.start (.call name))
  else if let some name := between? "⬅️ Finished function '" "'." line then
    some (.finish (.call name))
  else if (between? "🔄 Starting loop for " " iterations..." line).isSome then some (.start .loop)
  else if line = "✅ Loop finished." then some (.finish .loop)
  else none

theorem between?_eq_some_iff {first last line middle : String} :
    between? first last line = some middle ↔ line = first ++ middle ++ last := by
  unfold between?
  simp only [Option.bind_eq_bind, Option.bind_eq_some_iff, List.dropPrefix?_eq_some_iff,
    List.dropSuffix?_eq_some_iff, beq_iff_eq]
  constructor
  · rintro ⟨rest, ⟨_, hline, rfl⟩, text, ⟨_, rfl, rfl⟩, hmiddle⟩
    cases hmiddle
    apply String.ext
    simpa using hline
  · rintro rfl
    exact ⟨middle.toList ++ last.toList, ⟨_, by simp, rfl⟩, middle.toList, ⟨_, rfl, rfl⟩, by simp⟩

-- what starts with the one of two such texts does not start with the other
def Apart (first heading : String) : Prop :=
  ¬ first.toList <+: heading.toList ∧ ¬ heading.toList <+: first.toList

instance (first heading : String) : Decidable (Apart first heading) :=
  inferInstanceAs (Decidable (_ ∧ _))

theorem Apart.ne {first heading : String} (h : Apart first heading) (more more' : String) :
    heading ++ more ≠ first ++ more' := by
  intro hsame
  have hlists : heading.toList ++ more.toList = first.toList ++ more'.toList := by
    rw [← String.toList_append, hsame, String.toList_append]
  have hheading : heading.toList <+: first.toList ++ more'.toList := ⟨_, hlists⟩
  rcases List.prefix_or_prefix_of_prefix hheading (List.prefix_append _ _) with h' | h'
  · exact h.2 h'
  · exact h.1 h'

theorem between?_of_apart {first heading : String} (h : Apart first heading)
    (last more : String) : between? first last (heading ++ more) = none := by
  rw [Option.eq_none_iff_forall_ne_some]
  intro middle hmiddle
  rw [between?_eq_some_iff, String.append_assoc] at hmiddle
  exact h.ne more _ hmiddle

def openings : List String :=
  ["➡️ Calling function '", "⬅️ Finished function '", "🔄 Starting loop for ", "✅ Loop finished."]

theorem read?_eq_none {heading : String} (h : ∀ first ∈ openings, Apart first heading)
    (more : String) : read? (heading ++ more) = none := by
  simp only [openings, List.forall_mem_cons] at h
  obtain ⟨hcall, hfinished, hloop, hend, -⟩ := h
  have hne : heading ++ more ≠ "✅ Loop finished." := by
    have hne := hend.ne more ""
    rwa [String.append_empty] at hne
  unfold read?
  rw [between?_of_apart hcall, between?_of_apart hfinished, between?_of_apart hloop]
  exact if_neg hne

theorem read?_start_call (name : String) :
    read? ("➡️ Calling function '" ++ name ++ "'...") = some (.start (.call name)) := by
  unfold read?
  rw [between?_eq_some_iff.mpr rfl]

theorem read?_finish_call (name : String) :
    read? ("⬅️ Finished function '" ++ name ++ "'.") = some (.finish (.call name)) := by
  have hcall : Apart "➡️ Calling function '" "⬅️ Finished function '" := by decide +kernel
  have hnone := between?_of_apart hcall "'..." (name ++ "'.")
  rw [← String.append_assoc] at hnone
  unfold read?
  rw [hnone, between?_eq_some_iff.mpr rfl]

theorem read?_start_loop (turns : String) :
    read? ("🔄 Starting loop for " ++ turns ++ " iterations...") = some (.start .loop) := by
  have hcall : Apart "➡️ Calling function '" "🔄 Starting loop for " := by decide +kernel
  have hfinished : Apart "⬅️ Finished function '" "🔄 Starting loop for " := by decide +kernel
  have hcall := between?_of_apart hcall "'..." (turns ++ " iterations...")
  have hfinished := between?_of_apart hfinished "'." (turns ++ " iterations...")
  rw [← String.append_assoc] at hcall hfinished
  unfold read?
  rw [hcall, hfinished, between?_eq_some_iff.mpr rfl]
  rfl

theorem read?_finish_loop : read? "✅ Loop finished." = some (.finish .loop) := by decide +kernel

/-! ## Rows of markers -/

def among (lines : List String) : List Marker := lines.filterMap read?

/-- The spans that are open after a marker, the innermost first; a finish has to be that of the
innermost one. -/
def after (spans : List Span) : Marker → Option (List Span)
  | start span => some (span :: spans)
  | finish span =>
    match spans with
    | [] => none
    | inner :: outer => if inner = span then some outer else none

def opened (ms : List Marker) : Option (List Span) := ms.foldlM after []

/-- Every finish closes the span that was started last and is still open, and none stays open. -/
def WellNested (ms : List Marker) : Prop := opened ms = some []

instance (ms : List Marker) : Decidable (WellNested ms) := inferInstanceAs (Decidable (_ = _))

/-- A row of markers leaves some spans open, and along the way no more than a number of calls were open
at once. -/
structure Opens (limit : Nat) (ms : List Marker) (spans : List Span) : Prop where
  opened : opened ms = some spans
  within : ∀ before, before <+: ms →
    ∃ still, Marker.opened before = some still ∧ still.countP Span.isCall ≤ limit

variable {limit : Nat} {ms ms' : List Marker} {m : Marker} {spans spans' : List Span} {span : Span}

theorem opened_append (h : opened ms = some spans) :
    opened (ms ++ ms') = ms'.foldlM after spans := by
  unfold opened at h ⊢
  rw [List.foldlM_append, h]
  rfl

theorem opens_nil (limit : Nat) : Opens limit [] [] where
  opened := rfl
  within before h := by
    rw [List.prefix_nil.mp h]
    exact ⟨[], rfl, Nat.zero_le _⟩

theorem Opens.concat (h : Opens limit ms spans) (hm : after spans m = some spans')
    (hlimit : spans'.countP Span.isCall ≤ limit) : Opens limit (ms ++ [m]) spans' := by
  have hopened : Marker.opened (ms ++ [m]) = some spans' := by
    rw [opened_append h.opened]
    show after spans m >>= pure = some spans'
    rw [hm]
    rfl
  refine ⟨hopened, fun before hbefore => ?_⟩
  rcases List.prefix_concat_iff.mp hbefore with rfl | hbefore
  · exact ⟨spans', hopened, hlimit⟩
  · exact h.within before hbefore

theorem Opens.start (h : Opens limit ms spans)
    (hlimit : (span :: spans).countP Span.isCall ≤ limit) :
    Opens limit (ms ++ [.start span]) (span :: spans) :=
  h.concat rfl hlimit

theorem Opens.countP_le (h : Opens limit ms spans) : spans.countP Span.isCall ≤ limit := by
  obtain ⟨still, hopened, hlimit⟩ := h.within ms (List.prefix_refl ms)
  rw [h.opened] at hopened
  cases hopened
  exact hlimit

theorem Opens.finish (h : Opens limit ms (span :: spans)) :
    Opens limit (ms ++ [.finish span]) spans := by
  apply h.concat
  · show (if span = span then some spans else none) = some spans
    rw [if_pos rfl]
  · exact Nat.le_trans (List.Sublist.countP_le (List.sublist_cons_self span spans)) h.countP_le

theorem foldlM_finish (spans : List Span) : (spans.map finish).foldlM after spans = some [] := by
  induction spans with
  | nil => rfl
  | cons span spans ih =>
    rw [List.map_cons, List.foldlM_cons]
    show (if span = span then some spans else none) >>= _ = some []
    rw [if_pos rfl]
    exact ih

theorem exists_wellNested (h : opened ms = some spans) : ∃ more, WellNested (ms ++ more) := by
  -- the spans that are open are closed, from the innermost one outwards
  refine ⟨spans.map finish, ?_⟩
  show opened _ = some []
  rw [opened_append h, foldlM_finish]

end Marker

end LineScript
