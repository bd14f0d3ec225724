import TrafficBoard.Address.Basic
import TrafficBoard.Proofs.Attempts
import TrafficBoard.Proofs.Text.Digits
import TrafficBoard.Proofs.Text.Pieces
import TrafficBoard.Text.Display
import TrafficBoard.Traffic.Volume

/-!
# Texts of basic Latin

Numbers, rates and addresses are written in visible characters of basic Latin and spaces.
None of these is a line feed, a joiner or a control.
-/

namespace TrafficBoard

namespace Text

/-- Whether a character is a visible one of basic Latin, or a space. -/
def IsBasicChar (c : Char) : Prop := 0x20 ≤ c.toNat ∧ c.toNat < 0x7f
  deriving Decidable

/-- Whether all characters of a text are of basic Latin. -/
def IsBasic (text : List Char) : Prop := ∀ c ∈ text, IsBasicChar c

instance (text : List Char) : Decidable (IsBasic text) := List.decidableBAll IsBasicChar text

theorem isBasic_append {text other : List Char} :
    IsBasic (text ++ other) ↔ IsBasic text ∧ IsBasic other :=
  List.forall_mem_append

theorem isBasic_replicate {c : Char} (basic : IsBasicChar c) (count : Nat) :
    IsBasic (List.replicate count c) := by
  intro d member
  rw [(List.mem_replicate.1 member).2]
  exact basic

theorem IsBasic.notMem {text : List Char} (basic : IsBasic text) {c : Char}
    (other : ¬IsBasicChar c) : c ∉ text :=
  fun member => other (basic c member)

theorem isDropped_of_isBasicChar {c : Char} (basic : IsBasicChar c) : isDropped c = false := by
  rw [isDropped, List.contains_eq_mem, decide_eq_false_iff_not]
  simp only [List.mem_cons, List.not_mem_nil, or_false]
  rintro (rfl | rfl | rfl | rfl | rfl) <;> exact absurd basic (by decide)

/-- The first character of a text that is displayed is no joiner. -/
def StartsWithoutJoiner (text : List Char) : Prop := (dropControls text).head? ≠ some joiner
  deriving Decidable

theorem startsWithoutJoiner_nil : StartsWithoutJoiner [] := by decide

theorem startsWithoutJoiner_cons {c : Char} (basic : IsBasicChar c) (rest : List Char) :
    StartsWithoutJoiner (c :: rest) := by
  have kept : (!isDropped c) = true := by rw [isDropped_of_isBasicChar basic, Bool.not_false]
  have notJoiner : c ≠ joiner := by
    rintro rfl
    exact absurd basic (by decide)
  rw [StartsWithoutJoiner, dropControls, List.filter_cons, if_pos kept, List.head?_cons]
  exact fun same => notJoiner (Option.some.inj same)

theorem startsWithoutJoiner_of_isBasic {text : List Char} (basic : IsBasic text) :
    StartsWithoutJoiner text := by
  cases text with
  | nil => exact startsWithoutJoiner_nil
  | cons c rest => exact startsWithoutJoiner_cons (basic c List.mem_cons_self) rest

theorem startsWithoutJoiner_append {text other : List Char} (front : StartsWithoutJoiner text)
    (behind : StartsWithoutJoiner other) : StartsWithoutJoiner (text ++ other) := by
  rw [StartsWithoutJoiner, dropControls, List.filter_append, List.head?_append]
  intro joined
  rcases Option.or_eq_some_iff.1 joined with first | ⟨-, second⟩
  · exact front first
  · exact behind second

theorem isBasic_intercalate {separator : List Char} (basic : IsBasic separator)
    {parts : List (List Char)} (each : ∀ part ∈ parts, IsBasic part) :
    IsBasic (separator.intercalate parts) := by
  intro c member
  rcases mem_of_mem_intercalate member with inSeparator | ⟨part, found, inPart⟩
  · exact basic c inSeparator
  · exact each part found c inPart

/-! ## Digits -/

theorem isBasicChar_digitChar {digit : Nat} (small : digit < 16) :
    IsBasicChar digit.digitChar := by
  revert digit
  decide

/-- The digits of a number are basic. -/
theorem isBasic_toDigits {base : Nat} (positive : 1 < base) (small : base ≤ 16) (value : Nat) :
    IsBasic (Nat.toDigits base value) := by
  intro c member
  obtain ⟨digit, below, rfl⟩ := exists_digit_of_mem_toDigits positive member
  exact isBasicChar_digitChar (Nat.lt_of_lt_of_le below small)

theorem isBasic_repr (value : Nat) : IsBasic value.repr.toList := by
  rw [Nat.toList_repr]
  exact isBasic_toDigits (by decide) (by decide) value

theorem isBasic_toString_nat (value : Nat) : IsBasic (toString value).toList := by
  rw [Nat.toString_eq_repr]
  exact isBasic_repr value

theorem isBasic_toString_int (value : Int) : IsBasic (toString value).toList := by
  rw [Int.toString_eq_repr, Int.repr_eq_if]
  split
  · exact isBasic_repr _
  · rw [String.toList_append]
    exact isBasic_append.2 ⟨by decide, isBasic_repr _⟩

end Text

open Text

/-! ## Rates -/

theorem isBasic_pointedText (places count : Nat) : IsBasic (pointedText places count).toList := by
  simp only [pointedText, String.toList_append, String.toList_ofList, isBasic_append]
  exact ⟨⟨⟨isBasic_toString_nat _, by decide⟩, isBasic_replicate (by decide) _⟩,
    isBasic_toString_nat _⟩

theorem Rate.isBasic_text (rate : Rate) : IsBasic rate.text.toList := by
  cases rate with
  | bytes count =>
      rw [text, String.toList_append]
      exact isBasic_append.2 ⟨isBasic_toString_int count, by decide⟩
  | scaled unit hundredths =>
      rw [text, String.toList_append]
      refine isBasic_append.2 ⟨isBasic_pointedText 2 hundredths, ?_⟩
      cases unit <;> decide
  | unbounded => decide

theorem Volume.isBasic_rateText {volume : Volume} {text : String}
    (done : volume.rateText = .ok text) : IsBasic text.toList := by
  obtain ⟨upload, -, rest⟩ := Attempt.bind_eq_ok_iff.1 done
  obtain ⟨download, -, same⟩ := Attempt.bind_eq_ok_iff.1 rest
  cases same
  rw [String.toList_append, String.toList_append]
  exact isBasic_append.2
    ⟨isBasic_append.2 ⟨upload.isBasic_text, by decide⟩, download.isBasic_text⟩

/-! ## Addresses -/

namespace Address

theorem isBasic_octetText (octet : UInt8) : IsBasic (octetText octet) :=
  isBasic_toDigits (by decide) (by decide) octet.toNat

theorem isBasic_groupsText (groups : List UInt16) : IsBasic (groupsText groups) := by
  have colon : IsBasic [':'] := by decide
  apply isBasic_intercalate colon
  intro part member
  obtain ⟨group, -, rfl⟩ := List.mem_map.1 member
  exact isBasic_toDigits (by decide) (by decide) group.toNat

theorem isBasic_compressedText (groups : List UInt16) : IsBasic (compressedText groups) := by
  simp only [compressedText]
  split
  · exact isBasic_groupsText groups
  · refine isBasic_append.2 ⟨isBasic_groupsText _, ?_⟩
    have colon : IsBasicChar ':' := by decide
    exact List.forall_mem_cons.2 ⟨colon, List.forall_mem_cons.2 ⟨colon, isBasic_groupsText _⟩⟩

/-- Only the scope of an address can hold other characters, and a sign stands before it. -/
theorem startsWithoutJoiner_characters (address : Address) :
    StartsWithoutJoiner address.characters := by
  cases address with
  | four first second third fourth =>
      have point : IsBasic ['.'] := by decide
      refine startsWithoutJoiner_of_isBasic (isBasic_intercalate point ?_)
      simp only [List.forall_mem_cons]
      exact ⟨isBasic_octetText first, isBasic_octetText second, isBasic_octetText third,
        isBasic_octetText fourth, List.forall_mem_nil _⟩
  | six groups scope =>
      refine startsWithoutJoiner_append
        (startsWithoutJoiner_of_isBasic (isBasic_compressedText groups.values)) ?_
      cases scope with
      | none => exact startsWithoutJoiner_nil
      | some name => exact startsWithoutJoiner_cons (by decide) name.toList

end Address

end TrafficBoard
