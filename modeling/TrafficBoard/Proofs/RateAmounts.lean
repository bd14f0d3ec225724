import Mathlib.Algebra.Order.Field.Rat
import Mathlib.Tactic.FieldSimp
import Mathlib.Tactic.Ring
import TrafficBoard.Proofs.CountRates
import TrafficBoard.Proofs.Text.Digits
import TrafficBoard.Proofs.Text.Pieces

/-!
# What rates denote

The text of a rate is a decimal number and the name of a unit, so it denotes an amount of bytes.
A larger count never denotes less.  In one unit this is because rounding keeps order.  A count that
rounds up at the end of its unit reaches the start of the next one, and does not pass it.
-/

namespace TrafficBoard

namespace Rate

/-! ## Reading texts -/

/-- The natural number that decimal digits denote. -/
def natural? (text : List Char) : Option Nat :=
  if text ≠ [] ∧ text.all Char.isDigit then some (Nat.ofDigitChars 10 text 0) else none

/-- The number that decimal digits denote, with or without a point between them. -/
def decimal? (text : List Char) : Option ℚ :=
  match Text.divide? ['.'] text with
  | none => (natural? text).map fun number => (number : ℚ)
  | some (whole, places) =>
      match natural? whole, natural? places with
      | some units, some fraction => some (units + fraction / 10 ^ places.length)
      | _, _ => none

/-- How many bytes the name of a unit stands for. -/
def bytesIn? : String → Option Nat
  | "Bps" => some 1
  | "KBps" => some 1000
  | "MBps" => some 1000000
  | "GBps" => some 1000000000
  | _ => none

/-- Whether a character belongs to a decimal number. -/
def isDecimal (c : Char) : Bool := c.isDigit || c = '.'

/-- The bytes that a text denotes: its decimal number times the unit behind it. -/
def amount? (text : String) : Option ℚ :=
  match decimal? (text.toList.takeWhile isDecimal),
    bytesIn? (String.ofList (text.toList.dropWhile isDecimal)) with
  | some number, some size => some (number * size)
  | _, _ => none

/-- Digits denote the same number behind zeros. -/
theorem natural?_zeros_append (zeros count : Nat) :
    natural? (List.replicate zeros '0' ++ (toString count).toList) = some count := by
  have nonempty : List.replicate zeros '0' ++ (toString count).toList ≠ [] := by
    rw [Nat.toString_eq_repr, Nat.toList_repr]
    exact List.append_ne_nil_of_right_ne_nil _ Nat.toDigits_ne_nil
  have digits : (List.replicate zeros '0' ++ (toString count).toList).all Char.isDigit := by
    rw [List.all_append, Bool.and_eq_true, List.all_eq_true, List.all_eq_true]
    refine ⟨fun c member => ?_, fun c => Text.isDigit_of_mem_toString_nat⟩
    rw [(List.mem_replicate.1 member).2]
    decide
  rw [natural?, if_pos ⟨nonempty, digits⟩, Nat.ofDigitChars_append, Nat.ofDigitChars_replicate_zero,
    Nat.mul_zero, Nat.toString_eq_repr, Nat.toList_repr, Nat.ofDigitChars_ten_toDigits]

theorem natural?_repr (count : Nat) : natural? (toString count).toList = some count := by
  simpa using natural?_zeros_append 0 count

theorem decimal?_repr (count : Nat) : decimal? (toString count).toList = some (count : ℚ) := by
  rw [decimal?, Text.divide?_of_notMem (Text.notMem_toString_nat (by decide) count), natural?_repr]
  rfl

/-- A count of decimal places denotes its part of the whole. -/
theorem decimal?_pointedText {places : Nat} (positive : 0 < places) (count : Nat) :
    decimal? (pointedText places count).toList = some (count / 10 ^ places : ℚ) := by
  have fraction : (toString (count % 10 ^ places)).length ≤ places :=
    (Nat.length_repr_le_iff positive).2 (Nat.mod_lt count (Nat.pow_pos (by decide)))
  let zeros := places - (toString (count % 10 ^ places)).length
  have parts : (pointedText places count).toList = (toString (count / 10 ^ places)).toList ++ '.' ::
      ([] ++ (List.replicate zeros '0' ++ (toString (count % 10 ^ places)).toList)) := by
    simp [pointedText, zeros]
  have filled : (List.replicate zeros '0' ++ (toString (count % 10 ^ places)).toList).length =
      places := by
    rw [List.length_append, List.length_replicate, String.length_toList]
    omega
  rw [decimal?, parts, Text.divide?_front (Text.notMem_toString_nat (by decide) _)]
  simp only [natural?_repr, natural?_zeros_append, filled]
  have split := congrArg (Nat.cast (R := ℚ)) (Nat.div_add_mod count (10 ^ places))
  push_cast at split
  rw [← split]
  field_simp

/-- A decimal number and the name of a unit denote their product. -/
theorem amount?_append {number label : String} {value : ℚ} {size : Nat}
    (decimals : ∀ c ∈ number.toList, isDecimal c) (denotes : decimal? number.toList = some value)
    (named : bytesIn? label = some size) (letter : label.toList.head?.any isDecimal = false) :
    amount? (number ++ label) = some (value * size) := by
  have noMore : label.toList.takeWhile isDecimal = [] := by
    cases letters : label.toList with
    | nil => rfl
    | cons c rest =>
        rw [letters, List.head?_cons, Option.any_some] at letter
        rw [List.takeWhile_cons, letter, if_neg Bool.false_ne_true]
  have rest : label.toList.dropWhile isDecimal = label.toList := by
    have both := List.takeWhile_append_dropWhile (p := isDecimal) (l := label.toList)
    rwa [noMore, List.nil_append] at both
  rw [amount?, String.toList_append, List.takeWhile_append_of_pos decimals,
    List.dropWhile_append_of_pos decimals, noMore, rest, List.append_nil, denotes,
    String.ofList_toList, named]

theorem isDecimal_of_mem_repr {count : Nat} {c : Char} (member : c ∈ (toString count).toList) :
    isDecimal c := by
  rw [isDecimal, Text.isDigit_of_mem_toString_nat member, Bool.true_or]

theorem isDecimal_of_mem_pointedText {places count : Nat} {c : Char}
    (member : c ∈ (pointedText places count).toList) : isDecimal c := by
  simp only [pointedText, String.toList_append, String.toList_ofList, List.mem_append,
    List.mem_replicate] at member
  rcases member with ((whole | point) | ⟨-, rfl⟩) | fraction
  · exact isDecimal_of_mem_repr whole
  · rw [List.mem_singleton.1 point]
    decide
  · decide
  · exact isDecimal_of_mem_repr fraction

theorem amount?_text_bytes (count : Nat) : amount? (bytes count).text = some (count : ℚ) := by
  have denotes : amount? (toString count ++ "Bps") = some (count * (1 : Nat) : ℚ) :=
    amount?_append (fun _ => isDecimal_of_mem_repr) (decimal?_repr count) rfl (by decide)
  rw [Nat.cast_one, mul_one] at denotes
  exact denotes

theorem amount?_text_scaled (unit : RateUnit) (hundredths : Nat) :
    amount? (scaled unit hundredths).text = some (hundredths / 10 ^ 2 * unit.size : ℚ) := by
  apply amount?_append (fun _ => isDecimal_of_mem_pointedText)
    (decimal?_pointedText (by decide) hundredths)
  · cases unit <;> rfl
  · cases unit <;> decide

/-- The point belongs to the number, and the unit starts at the first letter. -/
example : amount? "12.50KBps" = some 12500 := by decide +kernel

/-! ## The amounts of counts -/

/-- The bytes that the rate of a count denotes. -/
def shownAmount (count : Nat) : Nat :=
  match unitOf count with
  | some unit => unit.shownHundredths count * (unit.size / 100)
  | none => count

theorem amount?_text_shown (count : Nat) :
    amount? (shown count).text = some (shownAmount count : ℚ) := by
  rw [shown, shownAmount]
  cases unitOf count with
  | none => exact amount?_text_bytes count
  | some unit =>
      have hundredths : (unit.size : ℚ) = (unit.size / 100 : ℕ) * 10 ^ 2 := by
        cases unit <;> norm_num [RateUnit.size]
      simp only [amount?_text_scaled, hundredths]
      push_cast
      field_simp

theorem shownAmount_of_unit {unit : RateUnit} {count : Nat} (chosen : unitOf count = some unit) :
    shownAmount count = unit.shownHundredths count * (unit.size / 100) := by
  rw [shownAmount, chosen]

theorem shownAmount_of_le {count : Nat} (le : count ≤ 999) : shownAmount count = count := by
  rw [shownAmount, unitOf_eq_none_iff.2 le]

/-- A count is shown as at least one of its unit. -/
theorem size_le_shownAmount {unit : RateUnit} {count : Nat} (chosen : unitOf count = some unit) :
    unit.size ≤ shownAmount count := by
  rw [shownAmount_of_unit chosen]
  calc
    unit.size = 100 * (unit.size / 100) := by cases unit <;> rfl
    _ ≤ unit.shownHundredths count * (unit.size / 100) :=
      Nat.mul_le_mul_right _
        (RateUnit.hundred_le_shownHundredths (unitOf_eq_some_iff.1 chosen).1)

/-- A count below a thousand of its unit is shown as at most a thousand of it. -/
theorem shownAmount_le {unit : RateUnit} {count : Nat} (chosen : unitOf count = some unit)
    (lt : count < 1000 * unit.size) : shownAmount count ≤ 1000 * unit.size := by
  rw [shownAmount_of_unit chosen]
  calc
    unit.shownHundredths count * (unit.size / 100) ≤ 100000 * (unit.size / 100) :=
      Nat.mul_le_mul_right _ (RateUnit.shownHundredths_le lt)
    _ = 1000 * unit.size := by cases unit <;> rfl

/-- A larger count that is shown in another unit is shown in one that is at least a thousand times
as large. -/
theorem thousand_mul_size_le {unit other : RateUnit} {count larger : Nat} (le : count ≤ larger)
    (chosen : unitOf count = some unit) (otherChosen : unitOf larger = some other)
    (different : unit ≠ other) : count < 1000 * unit.size ∧ 1000 * unit.size ≤ other.size := by
  have first := unitOf_eq_some_iff.1 chosen
  have second := unitOf_eq_some_iff.1 otherChosen
  revert first second different
  cases unit <;> cases other <;> simp only [RateUnit.size] <;> grind

/-- A larger count is never shown as less: in one unit rounding keeps order, and between two units
lies the start of the larger one. -/
theorem shownAmount_mono : Monotone shownAmount := by
  intro count larger le
  cases chosen : unitOf count with
  | none =>
      have small := unitOf_eq_none_iff.1 chosen
      rw [shownAmount_of_le small]
      cases otherChosen : unitOf larger with
      | none =>
          rw [shownAmount_of_le (unitOf_eq_none_iff.1 otherChosen)]
          exact le
      | some other =>
          have thousand : 1000 ≤ other.size := by cases other <;> decide
          exact Nat.le_trans (Nat.le_trans small (Nat.le_of_succ_le thousand))
            (size_le_shownAmount otherChosen)
  | some unit =>
      cases otherChosen : unitOf larger with
      | none =>
          have large := (unitOf_eq_some_iff.1 chosen).1
          have thousand : 1000 ≤ unit.size := by cases unit <;> decide
          have small := unitOf_eq_none_iff.1 otherChosen
          omega
      | some other =>
          by_cases same : unit = other
          · subst same
            rw [shownAmount_of_unit chosen, shownAmount_of_unit otherChosen]
            exact Nat.mul_le_mul_right _ (unit.shownHundredths_mono le)
          · obtain ⟨below, above⟩ := thousand_mul_size_le le chosen otherChosen same
            calc
              shownAmount count ≤ 1000 * unit.size := shownAmount_le chosen below
              _ ≤ other.size := above
              _ ≤ shownAmount larger := size_le_shownAmount otherChosen

end Rate

end TrafficBoard
