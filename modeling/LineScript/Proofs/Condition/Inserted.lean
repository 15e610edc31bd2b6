import LineScript.Proofs.Condition.Loosened

/-!
# What padding puts in

Padding only puts spaces in, and none inside double quotes: an account of it marks the characters that
were put in, and without them the text is there again (`exists_account`). The tokens of the text stay the
same, whatever stands next to a word (`padding_unseen`).
-/

namespace LineScript.Condition

/-- An account of how a text came about: its characters, each with whether it was put in. -/
abbrev Account := List (Char × Bool)

namespace Account

/-- The text with the characters that were put in. -/
def result (a : Account) : Text := a.map (·.1)

/-- The text without them. -/
def original (a : Account) : Text := (a.filter (!·.2)).map (·.1)

def kept (t : Text) : Account := t.map fun c => (c, false)

theorem result_append (a b : Account) : result (a ++ b) = result a ++ result b := List.map_append

theorem original_append (a b : Account) : original (a ++ b) = original a ++ original b := by
  rw [original, List.filter_append, List.map_append]
  rfl

theorem result_kept (t : Text) : result (kept t) = t := by
  rw [result, kept, List.map_map]
  exact List.map_id t

theorem original_kept (t : Text) : original (kept t) = t := by
  have hall : (kept t).filter (!·.2) = kept t := by
    refine List.filter_eq_self.mpr fun e he => ?_
    obtain ⟨c, -, rfl⟩ := List.mem_map.mp he
    rfl
  rw [original, hall]
  exact result_kept t

/-- Every character that was put in is a space outside double quotes; `inQuotes` tells whether the text
starts inside them. -/
def Outside (inQuotes : Bool) (a : Account) : Prop :=
  ∀ before c behind, a = before ++ (c, true) :: behind → c = ' ' ∧ inside inQuotes (result before) = false

theorem outside_nil (q : Bool) : Outside q [] := by
  intro before c behind h
  cases before <;> cases h

theorem outside_kept (q : Bool) (t : Text) : Outside q (kept t) := by
  intro before c behind h
  have hmem : (c, true) ∈ kept t := by
    rw [h]
    exact List.mem_append_right _ List.mem_cons_self
  obtain ⟨d, -, hd⟩ := List.mem_map.mp hmem
  cases hd

theorem outside_space : Outside false [(' ', true)] := by
  intro before c behind h
  cases before with
  | nil =>
    cases h
    exact ⟨rfl, rfl⟩
  | cons e before => exact absurd (List.cons.inj h).2 (by simp)

theorem Outside.append {q : Bool} {a b : Account} (ha : Outside q a)
    (hb : Outside (inside q (result a)) b) : Outside q (a ++ b) := by
  intro before c behind h
  rcases List.append_eq_append_iff.mp h with ⟨more, rfl, hrest⟩ | ⟨more, rfl, hrest⟩
  · obtain ⟨hc, hinside⟩ := hb more c behind hrest
    rw [result_append, inside_append]
    exact ⟨hc, hinside⟩
  · cases more with
    | nil =>
      obtain ⟨hc, hinside⟩ := hb [] c behind hrest.symm
      rw [List.append_nil] at hinside
      exact ⟨hc, hinside⟩
    | cons e more =>
      obtain ⟨rfl, -⟩ := List.cons.inj hrest
      exact ha before c more rfl

end Account

open Account

structure Padding (q : Bool) (t p : Text) (a : Account) : Prop where
  result : a.result = p
  original : a.original = t
  outside : a.Outside q

namespace Padding

variable {q : Bool} {t p : Text} {a : Account}

theorem keep {c : Char} (h : Padding (q != (c == '"')) t p a) :
    Padding q (c :: t) (c :: p) ((c, false) :: a) where
  result := congrArg (c :: ·) h.result
  original := congrArg (c :: ·) h.original
  outside := (outside_kept q [c]).append h.outside

theorem setApart {k : Text} (hk : k ∈ keywords) (h : Padding false t p a) :
    Padding false (k ++ t) (' ' :: (k ++ ' ' :: p)) ((' ', true) :: (kept k ++ (' ', true) :: a)) := by
  have hquote : '"' ∉ k := fun hmem => of_keyword (P := (· ≠ '"')) (of_all (by decide)) hk _ hmem rfl
  have hinside : inside false k = false := inside_of_no_quote hquote
  refine ⟨?_, ?_, ?_⟩
  · show ' ' :: Account.result (kept k ++ ([(' ', true)] ++ a)) = _
    rw [result_append, result_append, result_kept, h.result]
    rfl
  · show Account.original (kept k ++ ([(' ', true)] ++ a)) = _
    rw [original_append, original_append, original_kept, h.original]
    rfl
  · refine outside_space.append ((outside_kept false k).append ?_)
    rw [result_kept, hinside]
    exact outside_space.append h.outside

end Padding

theorem exists_account (q w : Bool) (t : Text) : ∃ a, Padding q t (padded q w t) a := by
  fun_induction padded q w t with
  | case1 q w rest hset ih =>
    simp only [Bool.and_eq_true, Bool.not_eq_true'] at hset
    obtain ⟨⟨rfl, -⟩, -⟩ := hset
    obtain ⟨a, ha⟩ := ih
    exact ⟨_, ha.setApart (k := "and".toList) (by decide)⟩
  | case2 q w rest _ ih =>
    obtain ⟨a, ha⟩ := ih
    exact ⟨_, Padding.keep (by rwa [show ('a' == '"') = false from rfl, Bool.bne_false])⟩
  | case3 q w rest hset ih =>
    simp only [Bool.and_eq_true, Bool.not_eq_true'] at hset
    obtain ⟨⟨rfl, -⟩, -⟩ := hset
    obtain ⟨a, ha⟩ := ih
    exact ⟨_, ha.setApart (k := "or".toList) (by decide)⟩
  | case4 q w rest _ ih =>
    obtain ⟨a, ha⟩ := ih
    exact ⟨_, Padding.keep (by rwa [show ('o' == '"') = false from rfl, Bool.bne_false])⟩
  | case5 q w c rest _ _ ih =>
    obtain ⟨a, ha⟩ := ih
    exact ⟨_, ha.keep⟩
  | case6 => exact ⟨[], rfl, rfl, outside_nil _⟩

/-- A text without single quotes has the same tokens padded as it has by itself, or none either way. Of
every text padding is the text with characters put in: without just these it is the text again, each of
them is a space, and none of them stands behind a double quote that is open. -/
theorem padding_unseen (t : Text) :
    ('\x27' ∉ t → Arith.Token.ofText? (padded false false t) = Arith.Token.ofText? t) ∧
      ∃ a : Account, a.result = padded false false t ∧ a.original = t ∧
        ∀ before c behind, a = before ++ (c, true) :: behind →
          c = ' ' ∧ inside false (Account.result before) = false := by
  constructor
  · intro hsingle
    exact (Loosened.of_padded false false t).ofText?_eq fun hmem => hsingle (mem_of_mem_unquoted hmem)
  · obtain ⟨a, hresult, horiginal, houtside⟩ := exists_account false false t
    exact ⟨a, hresult, horiginal, houtside⟩

/-- A word right behind a point, one right behind an exponent that has no digits, and one in quotes: only
the first two are set apart, and the tokens are the same. -/
theorem padding_unseen_tight :
    padded false false "1.and 2e+or\"x or\"".toList = "1. and  2e+ or \"x or\"".toList ∧
      Arith.Token.ofText? "1. and  2e+ or \"x or\"".toList =
        Arith.Token.ofText? "1.and 2e+or\"x or\"".toList := by
  have hpadded : padded false false "1.and 2e+or\"x or\"".toList = "1. and  2e+ or \"x or\"".toList := by
    decide +kernel
  refine ⟨hpadded, ?_⟩
  rw [← hpadded]
  exact (padding_unseen "1.and 2e+or\"x or\"".toList).1 (by decide)

end LineScript.Condition
