import TrafficBoard.Proofs.Text.Shortening

/-!
# Where the marker stands

A text that is shortened may itself hold brackets and points, next to the marker too.  Still the
marker can be told from them: its first character does not come again in it, so that two places
where it stands are the same or do not overlap.  A second place in a shortened text would therefore
lie in one of the ends that are kept, and so in the text.
-/

namespace TrafficBoard

namespace Text

section Places

variable {α : Type} {first : α} {rest before after front back : List α}

/-- Two places of a part whose first entry does not come again are the same, or the second one
lies behind the first. -/
theorem eq_or_exists_gap (fresh : first ∉ rest)
    (same : before ++ first :: (rest ++ after) = front ++ first :: (rest ++ back))
    (le : before.length ≤ front.length) :
    before = front ∨ ∃ gap, front = before ++ first :: (rest ++ gap) := by
  obtain ⟨between, rfl⟩ : before <+: front :=
    List.prefix_of_prefix_length_le ⟨_, same⟩ ⟨_, rfl⟩ le
  rw [List.append_assoc, List.append_cancel_left_eq] at same
  cases between with
  | nil => exact .inl (List.append_nil before).symm
  | cons entry between =>
      rw [List.cons_append, List.cons.injEq] at same
      obtain ⟨rfl, same⟩ := same
      rcases List.append_eq_append_iff.1 same with ⟨gap, rfl, -⟩ | ⟨overlap, parts, reached⟩
      · exact .inr ⟨gap, rfl⟩
      · -- what the second place would share with the first one starts with the first entry
        cases overlap with
        | nil =>
            rw [List.append_nil] at parts
            exact .inr ⟨[], by rw [parts, List.append_nil]⟩
        | cons entry overlap =>
            rw [List.cons_append, List.cons.injEq] at reached
            apply absurd _ fresh
            rw [parts, reached.1]
            exact List.mem_append_right between List.mem_cons_self

/-- Between two texts without a part, the part stands once. -/
theorem place_unique (fresh : first ∉ rest) (inFront : ¬first :: rest <:+: front)
    (inBack : ¬first :: rest <:+: back)
    (same : before ++ first :: (rest ++ after) = front ++ first :: (rest ++ back)) :
    before = front ∧ after = back := by
  have equal : before = front := by
    rcases Nat.le_total before.length front.length with le | ge
    · refine (eq_or_exists_gap fresh same le).resolve_right ?_
      rintro ⟨gap, rfl⟩
      exact inFront ⟨before, gap, by simp⟩
    · refine ((eq_or_exists_gap fresh same.symm ge).resolve_right ?_).symm
      rintro ⟨gap, rfl⟩
      have behind : gap ++ first :: (rest ++ after) = back := by simpa using same
      exact inBack ⟨gap, after, by simpa using behind⟩
  refine ⟨equal, ?_⟩
  simpa [equal] using same

end Places

/-- A part stands in a text behind a number of characters. -/
def StandsAt (part text : String) (place : Nat) : Prop :=
  ∃ before after, text = before ++ part ++ after ∧ before.length = place

theorem exists_standsAt_iff {part text : String} :
    (∃ place, StandsAt part text place) ↔ part.toList <:+: text.toList := by
  constructor
  · rintro ⟨place, before, after, rfl, -⟩
    exact ⟨before.toList, after.toList, by simp⟩
  · rintro ⟨before, after, parts⟩
    refine ⟨_, String.ofList before, String.ofList after, ?_, rfl⟩
    apply String.toList_injective
    simpa using parts.symm

/-- A text that is too long, and does not hold the marker, is shown with the marker at one place
only, whatever characters stand next to it.  Before it stands the start of the text, and behind it
the end. -/
theorem marker_stands_once (text : String) (width : Int)
    (absent : ¬∃ place, StandsAt "[..]" text place) (marked : 6 ≤ width)
    (long : width < text.length) :
    (∀ place : Nat, StandsAt "[..]" (shorten text width) place ↔ (place : Int) = width / 2 - 2) ∧
    ∀ before after, shorten text width = before ++ "[..]" ++ after →
      (∃ rest, text = before ++ rest) ∧ ∃ start, text = start ++ after := by
  obtain ⟨front, middle, back, ends⟩ := exists_keepsEnds long marked
  have once : ∀ before after, shorten text width = before ++ "[..]" ++ after →
      before = front ∧ after = back := by
    intro before after shown
    rw [exists_standsAt_iff, ends.parts] at absent
    have inFront : ¬marker <:+: front.toList := by
      intro held
      apply absent
      exact held.trans ⟨[], (middle ++ back).toList, by simp⟩
    have inBack : ¬marker <:+: back.toList := by
      intro held
      apply absent
      exact held.trans ⟨(front ++ middle).toList, [], by simp⟩
    have places := congrArg String.toList (shown.symm.trans ends.shown)
    simp only [String.toList_append, List.append_assoc] at places
    obtain ⟨sameFront, sameBack⟩ := place_unique (by decide) inFront inBack places
    exact ⟨String.toList_injective sameFront, String.toList_injective sameBack⟩
  refine ⟨fun place => ⟨?_, fun same => ?_⟩, fun before after shown => ?_⟩
  · rintro ⟨before, after, shown, rfl⟩
    obtain ⟨rfl, -⟩ := once before after shown
    exact ends.length_front
  · exact ⟨front, back, ends.shown, Int.ofNat.inj (ends.length_front.trans same.symm)⟩
  · obtain ⟨rfl, rfl⟩ := once before after shown
    exact ⟨⟨middle ++ after, by rw [ends.parts, String.append_assoc]⟩, before ++ middle, ends.parts⟩

/-- Next to the marker stand parts of it that belong to the text. -/
theorem marker_stands_once_between_fragments :
    (¬∃ place, StandsAt "[..]" "x[..abcdef..]y" place) ∧
      shorten "x[..abcdef..]y" 12 = "x[..[..]..]y" ∧
      ∀ place : Nat, StandsAt "[..]" "x[..[..]..]y" place ↔ (place : Int) = 12 / 2 - 2 := by
  have shown : shorten "x[..abcdef..]y" 12 = "x[..[..]..]y" := by decide
  have absent : ¬∃ place, StandsAt "[..]" "x[..abcdef..]y" place := by
    rw [exists_standsAt_iff]
    decide +kernel
  obtain ⟨places, -⟩ :=
    marker_stands_once "x[..abcdef..]y" 12 absent (by decide) (by decide)
  rw [shown] at places
  exact ⟨absent, shown, places⟩

end Text

end TrafficBoard
