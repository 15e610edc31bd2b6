import LineScript.Arith.Operator
import Mathlib.Algebra.GroupWithZero.Nat

/-!
# Sums and products of strings

Two strings are joined exactly if they fit a string together, and a string is repeated exactly if so many
copies of it fit one (`add_strings_iff`, `repeated_iff`). Lengths are natural numbers here, so the
product of a length and a count is the exact one whatever the count.
-/

namespace LineScript

theorem bytes_join (strings : List String) :
    (String.join strings).utf8ByteSize = (strings.map String.utf8ByteSize).sum := by
  induction strings with
  | nil => rfl
  | cons s rest ih => rw [String.join_cons, String.utf8ByteSize_append, ih, List.map_cons, List.sum_cons]

namespace Arith

theorem fitsString_iff {bytes : Nat} : fitsString bytes = true ↔ bytes ≤ maxStringBytes :=
  decide_eq_true_iff

theorem add_strings (s t : String) : add (.string s) (.string t) =
    if s.utf8ByteSize + t.utf8ByteSize ≤ maxStringBytes then .ok (.string (s ++ t))
    else .error (.tooLong .add) := by
  rw [add]
  simp only [fitsString_iff]

/-! ## Copies -/

def copies (s : String) (n : Nat) : String := String.join (List.replicate n s)

theorem copies_succ (s : String) (n : Nat) : copies s (n + 1) = s ++ copies s n := by
  rw [copies, List.replicate_succ, String.join_cons, copies]

theorem copiesAfter_eq (acc s : String) (n : Nat) : copiesAfter acc s n = acc ++ copies s n := by
  induction n generalizing acc with
  | zero => exact (String.append_empty).symm
  | succ n ih => rw [copiesAfter, ih, copies_succ, String.append_assoc]

theorem bytes_copies (s : String) (n : Nat) : (copies s n).utf8ByteSize = s.utf8ByteSize * n := by
  rw [copies, bytes_join, List.map_replicate, List.sum_replicate_nat, Nat.mul_comm]

theorem copies_empty (n : Nat) : copies "" n = "" := by
  induction n with
  | zero => rfl
  | succ n ih => rw [copies_succ, ih, String.append_empty]

theorem repeated_eq (s : String) (n : Int64) : repeated s n =
    if s.utf8ByteSize * n.toInt.toNat ≤ maxStringBytes then .ok (.string (copies s n.toInt.toNat))
    else .error (.tooLong .multiply) := by
  have hcopies : (if s.isEmpty then "" else copiesAfter "" s n.toInt.toNat) = copies s n.toInt.toNat := by
    split
    · next hempty => rw [String.isEmpty_iff.mp hempty, copies_empty]
    · rw [copiesAfter_eq, String.empty_append]
  rw [repeated, hcopies]
  simp only [fitsString_iff]

/-! ## When there is a result -/

theorem ite_eq_ok_iff {c : Prop} [Decidable c] {v w : Value} {f : Fault} :
    (if c then .ok v else .error f : Result Value) = .ok w ↔ c ∧ w = v := by
  split
  · next hc => exact ⟨fun h => ⟨hc, (Except.ok.inj h).symm⟩, fun h => h.2 ▸ rfl⟩
  · next hc => exact iff_of_false (fun h => nomatch h) fun h => hc h.1

/-- Two strings have a sum exactly if their bytes together are no more than those of a string. -/
theorem add_strings_iff {s t : String} {v : Value} : add (.string s) (.string t) = .ok v ↔
    s.utf8ByteSize + t.utf8ByteSize ≤ maxStringBytes ∧ v = .string (s ++ t) := by
  rw [add_strings, ite_eq_ok_iff]

/-- A string and an integer have a product exactly if so many times its bytes are no more than those of a
string. -/
theorem repeated_iff {s : String} {n : Int64} {v : Value} : repeated s n = .ok v ↔
    s.utf8ByteSize * n.toInt.toNat ≤ maxStringBytes ∧ v = .string (copies s n.toInt.toNat) := by
  rw [repeated_eq, ite_eq_ok_iff]

theorem repeated_of_nonpos (s : String) {n : Int64} (h : n.toInt ≤ 0) :
    repeated s n = .ok (.string "") := by
  have hcount : n.toInt.toNat = 0 := Int.toNat_eq_zero.mpr h
  rw [repeated_eq, hcount, Nat.mul_zero, if_pos (Nat.zero_le _)]
  rfl

end Arith

end LineScript
