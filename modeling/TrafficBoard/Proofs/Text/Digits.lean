import Mathlib.Logic.Function.Basic

/-!
# Numbers in digits

A number is written in the digits below its base, and an integer with a sign before them if it is
negative.  Different numbers are written differently.
-/

namespace TrafficBoard.Text

/-- A number is written in the digits below the base. -/
theorem exists_digit_of_mem_toDigits {base value : Nat} (positive : 1 < base) {c : Char}
    (member : c ∈ Nat.toDigits base value) : ∃ digit < base, c = digit.digitChar := by
  induction value using Nat.strongRecOn with
  | _ value ih =>
      rw [Nat.toDigits_eq_if positive] at member
      split at member
      · next single => exact ⟨value, single, List.mem_singleton.1 member⟩
      · next several =>
          rcases List.mem_append.1 member with front | last
          · exact ih _ (Nat.div_lt_self (by omega) positive) front
          · exact ⟨value % base, Nat.mod_lt _ (by omega), List.mem_singleton.1 last⟩

theorem toDigits_injective : Function.Injective (Nat.toDigits 10) := by
  intro count other same
  have values := congrArg (fun digits => Nat.ofDigitChars 10 digits 0) same
  simpa only [Nat.ofDigitChars_ten_toDigits] using values

theorem isDigit_of_mem_toString_nat {count : Nat} {c : Char}
    (member : c ∈ (toString count).toList) : c.isDigit := by
  rw [Nat.toString_eq_repr, Nat.toList_repr] at member
  exact Nat.isDigit_of_mem_toDigits (by decide) (by decide) member

section NoDigit

variable {c : Char} (noDigit : c.isDigit = false)

include noDigit

theorem notMem_toDigits (count : Nat) : c ∉ Nat.toDigits 10 count := by
  intro member
  have digit := Nat.isDigit_of_mem_toDigits (by decide) (by decide) member
  cases noDigit.symm.trans digit

theorem notMem_toString_nat (count : Nat) : c ∉ (toString count).toList := by
  intro member
  cases noDigit.symm.trans (isDigit_of_mem_toString_nat member)

theorem notMem_toString_int (noSign : c ≠ '-') (value : Int) : c ∉ (toString value).toList := by
  cases value with
  | ofNat count => exact notMem_toString_nat noDigit count
  | negSucc count =>
      have written : toString (Int.negSucc count) = "-" ++ toString (count + 1) := rfl
      rw [written, String.toList_append, List.mem_append, not_or]
      exact ⟨fun sign => noSign (List.mem_singleton.1 sign), notMem_toString_nat noDigit _⟩

end NoDigit

theorem toString_nat_injective : Function.Injective (toString : Nat → String) := by
  intro count other same
  rw [Nat.toString_eq_repr, Nat.toString_eq_repr] at same
  apply toDigits_injective
  rw [← Nat.toList_repr, ← Nat.toList_repr, same]

/-- Different integers have different texts. -/
theorem toString_int_injective : Function.Injective (toString : Int → String) := by
  intro value other same
  have unsigned (count negative : Nat) : toString count ≠ "-" ++ toString (negative + 1) := by
    intro signed
    apply notMem_toString_nat (by decide : '-'.isDigit = false) count
    rw [signed, String.toList_append]
    exact List.mem_append_left _ (List.mem_singleton.2 rfl)
  cases value with
  | ofNat count =>
      cases other with
      | ofNat otherCount => rw [toString_nat_injective same]
      | negSucc otherCount => exact absurd same (unsigned count otherCount)
  | negSucc count =>
      cases other with
      | ofNat otherCount => exact absurd same.symm (unsigned otherCount count)
      | negSucc otherCount =>
          have digits : toString (count + 1) = toString (otherCount + 1) :=
            (String.append_right_inj "-").1 same
          rw [Nat.succ.inj (toString_nat_injective digits)]

end TrafficBoard.Text
