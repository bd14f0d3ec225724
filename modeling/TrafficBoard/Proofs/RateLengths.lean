import TrafficBoard.Proofs.CountRates

/-!
# How long rates are

A count is shown in the unit that it exceeds, but its hundredths are rounded afterwards.  So a
count just below the next unit is shown as a thousand of its own unit, with a character more
than the numbers below it.
-/

namespace TrafficBoard

namespace RateUnit

/-- The hundredths of a unit that a count comes to, rounded to a double first. -/
def hundredths (unit : RateUnit) (count : Nat) : Nat :=
  Double.fixedCount 2 (Double.roundUnits (count * Double.one) unit.size)

theorem hundredths_mono (unit : RateUnit) : Monotone unit.hundredths := by
  intro count larger le
  apply Double.fixedCount_mono
  apply Double.roundUnits_mono unit.size_pos
  exact Nat.mul_le_mul_right Double.one le

theorem shownHundredths_of_lt (unit : RateUnit) {count : Nat} (small : count < 2 ^ 53) :
    unit.shownHundredths count = unit.hundredths count := by
  rw [shownHundredths, Double.roundUnits_of_lt small, hundredths]

/-- Where the hundredths reach a bound is told by two neighbouring counts. -/
theorem le_hundredths_iff {unit : RateUnit} {bound below count : Nat}
    (short : unit.hundredths below < bound) (reached : bound ≤ unit.hundredths (below + 1)) :
    bound ≤ unit.hundredths count ↔ below < count := by
  constructor
  · intro le
    by_contra small
    have order := unit.hundredths_mono (Nat.not_lt.1 small)
    exact Nat.lt_irrefl _ (Nat.lt_of_lt_of_le short (Nat.le_trans le order))
  · intro above
    exact Nat.le_trans reached (unit.hundredths_mono above)

end RateUnit

namespace Rate

/-- The rate of a natural count that is a double itself. -/
def ofNat (count : Nat) : Rate :=
  match unitOf count with
  | some unit => .scaled unit (unit.hundredths count)
  | none => .bytes count

theorem shown_of_lt {count : Nat} (small : count < 2 ^ 53) : shown count = ofNat count := by
  rw [shown, ofNat]
  cases unitOf count with
  | none => rfl
  | some unit => simp only [unit.shownHundredths_of_lt small]

theorem ofCount_of_lt {count : Nat} (small : count < 2 ^ 53) :
    ofCount count = .ok (ofNat count) := by
  have below : count < Double.overflow := Nat.lt_trans small (by decide +kernel)
  rw [ofCount_natural below, shown_of_lt small]

/-! ## Lengths of texts -/

/-- The places after the point are filled with zeros, so only the digits before it count. -/
theorem length_pointedText {places : Nat} (positive : 0 < places) (count : Nat) :
    (pointedText places count).length = (toString (count / 10 ^ places)).length + 1 + places := by
  have fraction : (toString (count % 10 ^ places)).length ≤ places :=
    (Nat.length_repr_le_iff positive).2 (Nat.mod_lt count (Nat.pow_pos (by decide)))
  simp only [pointedText, Nat.pow_eq, String.length_append, String.length_ofList,
    List.length_replicate]
  have point : ".".length = 1 := rfl
  omega

theorem length_label (unit : RateUnit) : unit.label.length = 4 := by
  cases unit <;> rfl

theorem length_text_scaled_le_iff {unit : RateUnit} {digits count : Nat} (positive : 0 < digits) :
    (scaled unit count).text.length ≤ digits + 7 ↔ count < 10 ^ digits * 100 := by
  have number : (toString (count / 10 ^ 2)).length ≤ digits ↔ count / 10 ^ 2 < 10 ^ digits :=
    Nat.length_repr_le_iff positive
  have hundredths : count / 10 ^ 2 < 10 ^ digits ↔ count < 10 ^ digits * 100 :=
    Nat.div_lt_iff_lt_mul (by decide)
  rw [text, String.length_append, length_pointedText (by decide), length_label, ← hundredths,
    ← number]
  omega

/-- A count has another digit than the counts up to some bound if its hundredths do. -/
theorem lt_length_text_iff {unit : RateUnit} {digits below count : Nat} (positive : 0 < digits)
    (short : unit.hundredths below < 10 ^ digits * 100)
    (reached : 10 ^ digits * 100 ≤ unit.hundredths (below + 1)) :
    digits + 7 < (scaled unit (unit.hundredths count)).text.length ↔ below < count := by
  rw [← Nat.not_le, length_text_scaled_le_iff positive, Nat.not_lt]
  exact RateUnit.le_hundredths_iff short reached

theorem length_text_bytes_le {count : Nat} (small : count ≤ 999) :
    (bytes count).text.length ≤ 6 := by
  have number : (toString count).length ≤ 3 :=
    (Nat.length_repr_le_iff (by decide)).2 (Nat.lt_succ_of_le small)
  have written : toString (count : Int) = toString count := rfl
  have label : "Bps".length = 3 := rfl
  rw [text, String.length_append, written]
  omega

/-- The last counts that a unit shows with two, three and four digits before the point. -/
structure HasDigitsUpTo (unit : RateUnit) (two three four : Nat) : Prop where
  two_lt : unit.hundredths two < 10 ^ 2 * 100
  three_le : 10 ^ 2 * 100 ≤ unit.hundredths (two + 1)
  three_lt : unit.hundredths three < 10 ^ 3 * 100
  four_le : 10 ^ 3 * 100 ≤ unit.hundredths (three + 1)
  four_lt : unit.hundredths four < 10 ^ 4 * 100

theorem hasDigitsUpTo_kilo : HasDigitsUpTo .kilo 99994 999994 999999 := by
  constructor <;> decide +kernel

theorem hasDigitsUpTo_mega : HasDigitsUpTo .mega 99994999 999994999 999999999 := by
  constructor <;> decide +kernel

theorem hasDigitsUpTo_giga : HasDigitsUpTo .giga 99994999999 999994999999 999999999999 := by
  constructor <;> decide +kernel

/-- Whether a count is shown as a hundred or more of its unit. -/
def ReachesHundred (count : Int) : Prop :=
  99995 ≤ count ∧ count ≤ 999999 ∨ 99995000 ≤ count ∧ count ≤ 999999999 ∨ 99995000000 ≤ count
  deriving Decidable

/-- Whether a count below the largest unit is rounded up to a thousand of its own. -/
def ReachesThousand (count : Int) : Prop :=
  999995 ≤ count ∧ count ≤ 999999 ∨ 999995000 ≤ count ∧ count ≤ 999999999
  deriving Decidable

/-- What the length of the text of a rate tells about its count. -/
structure IsMeasured (count : Int) (length : Nat) : Prop where
  ten_le_iff : 10 ≤ length ↔ ReachesHundred count
  eleven_le_iff : 11 ≤ length ↔ ReachesThousand count
  le_eleven : length ≤ 11

theorem HasDigitsUpTo.isMeasured {unit : RateUnit} {two three four count : Nat}
    (digits : HasDigitsUpTo unit two three four) (le : count ≤ four)
    (hundred : two < count ↔ ReachesHundred count)
    (thousand : three < count ↔ ReachesThousand count) :
    IsMeasured count (scaled unit (unit.hundredths count)).text.length where
  ten_le_iff := (lt_length_text_iff (by decide) digits.two_lt digits.three_le).trans hundred
  eleven_le_iff := (lt_length_text_iff (by decide) digits.three_lt digits.four_le).trans thousand
  le_eleven := (length_text_scaled_le_iff (by decide)).2
    (Nat.lt_of_le_of_lt (unit.hundredths_mono le) digits.four_lt)

theorem isMeasured_bytes {count : Nat} (small : count ≤ 999) :
    IsMeasured count (bytes count).text.length := by
  have short := length_text_bytes_le small
  constructor
  · rw [ReachesHundred]
    omega
  · rw [ReachesThousand]
    omega
  · omega

theorem isMeasured_ofNat {count : Nat} (bound : count ≤ 999000000000) :
    IsMeasured count (ofNat count).text.length := by
  rw [ofNat, unitOf]
  by_cases giga : 999999999 < count
  · rw [if_pos giga]
    exact hasDigitsUpTo_giga.isMeasured (by omega) (by rw [ReachesHundred]; omega)
      (by rw [ReachesThousand]; omega)
  rw [if_neg giga]
  by_cases mega : 999999 < count
  · rw [if_pos mega]
    exact hasDigitsUpTo_mega.isMeasured (by omega) (by rw [ReachesHundred]; omega)
      (by rw [ReachesThousand]; omega)
  rw [if_neg mega]
  by_cases kilo : 999 < count
  · rw [if_pos kilo]
    exact hasDigitsUpTo_kilo.isMeasured (by omega) (by rw [ReachesHundred]; omega)
      (by rw [ReachesThousand]; omega)
  rw [if_neg kilo]
  exact isMeasured_bytes (Nat.not_lt.1 kilo)

/-- How long the two rates of counts are together, with the separator between them. -/
theorem exists_pairText {up down : Int} (upNonneg : 0 ≤ up) (upBound : up ≤ 999000000000)
    (downNonneg : 0 ≤ down) (downBound : down ≤ 999000000000) :
    ∃ text, pairText up down = .ok text ∧ text.length ≤ 25 ∧
      (text.length ≤ 23 ↔ ¬(ReachesThousand up ∧ ReachesHundred down ∨
        ReachesHundred up ∧ ReachesThousand down)) := by
  obtain ⟨upload, rfl⟩ := Int.eq_ofNat_of_zero_le upNonneg
  obtain ⟨download, rfl⟩ := Int.eq_ofNat_of_zero_le downNonneg
  have uploadMeasured := @isMeasured_ofNat upload (by omega)
  have downloadMeasured := @isMeasured_ofNat download (by omega)
  have uploadDone : ofCount upload = .ok (ofNat upload) := ofCount_of_lt (by omega)
  have downloadDone : ofCount download = .ok (ofNat download) := ofCount_of_lt (by omega)
  refine ⟨(ofNat upload).text ++ " / " ++ (ofNat download).text,
    Attempt.bind_eq_ok_iff.2 ⟨_, uploadDone, Attempt.bind_eq_ok_iff.2 ⟨_, downloadDone, rfl⟩⟩, ?_⟩
  have separator : " / ".length = 3 := rfl
  rw [String.length_append, String.length_append, separator, ← uploadMeasured.ten_le_iff,
    ← uploadMeasured.eleven_le_iff, ← downloadMeasured.ten_le_iff,
    ← downloadMeasured.eleven_le_iff]
  have first := uploadMeasured.le_eleven
  have second := downloadMeasured.le_eleven
  omega

end Rate

end TrafficBoard
