import TrafficBoard.Text.Pieces

/-!
# Where a text is divided

Parts that do not hold the separator are what a joined text is divided into.  A longer separator
is looked for only where its first character stands, so a part without that character is passed
over.
-/

namespace TrafficBoard.Text

variable {separator first : Char} {piece front rest text : List Char}

/-- A joined text holds nothing but its parts and the separator. -/
theorem mem_of_mem_intercalate {c : Char} {joint : List Char} {parts : List (List Char)}
    (member : c ∈ joint.intercalate parts) : c ∈ joint ∨ ∃ part ∈ parts, c ∈ part := by
  induction parts with
  | nil => cases member
  | cons part parts ih =>
      cases parts with
      | nil =>
          rw [List.intercalate_singleton] at member
          exact .inr ⟨part, List.mem_cons_self, member⟩
      | cons next more =>
          rw [List.intercalate_cons_cons, List.mem_append, List.mem_append] at member
          rcases member with (inPart | inJoint) | behind
          · exact .inr ⟨part, List.mem_cons_self, inPart⟩
          · exact .inl inJoint
          · refine (ih behind).imp_right ?_
            rintro ⟨other, found, inOther⟩
            exact ⟨other, List.mem_cons_of_mem part found, inOther⟩

theorem pieces_append_cons (absent : separator ∉ piece) (rest : List Char) :
    pieces separator (piece ++ separator :: rest) = piece :: pieces separator rest := by
  induction piece with
  | nil => rw [List.nil_append, pieces, if_pos rfl]
  | cons c piece ih =>
      rw [List.mem_cons, not_or] at absent
      rw [List.cons_append, pieces, if_neg (Ne.symm absent.1), ih absent.2]

/-- A joined text is divided into its parts. -/
theorem pieces_intercalate {parts : List (List Char)} (nonempty : parts ≠ [])
    (absent : ∀ part ∈ parts, separator ∉ part) :
    pieces separator ([separator].intercalate parts) = parts := by
  induction parts with
  | nil => exact absurd rfl nonempty
  | cons part parts ih =>
      rw [List.forall_mem_cons] at absent
      cases parts with
      | nil => rw [List.intercalate_singleton, pieces_of_not_mem absent.1]
      | cons next more =>
          rw [List.intercalate_cons_cons, List.append_assoc, List.singleton_append,
            pieces_append_cons absent.1, ih (List.cons_ne_nil next more) absent.2]

theorem divide?_cons_of_ne {c : Char} (other : c ≠ first) (rest text : List Char) :
    divide? (first :: rest) (c :: text) =
      (divide? (first :: rest) text).map fun parts => (c :: parts.1, parts.2) := by
  have absent : (first :: rest).isPrefixOf (c :: text) = false := by
    rw [List.isPrefixOf, beq_false_of_ne (Ne.symm other), Bool.false_and]
  rw [divide?, absent, if_neg Bool.false_ne_true]

/-- What does not hold the first character of a separator stands before it. -/
theorem divide?_append_of_notMem (absent : first ∉ front) (rest text : List Char) :
    divide? (first :: rest) (front ++ text) =
      (divide? (first :: rest) text).map fun parts => (front ++ parts.1, parts.2) := by
  induction front with
  | nil => simp
  | cons c front ih =>
      rw [List.mem_cons, not_or] at absent
      rw [List.cons_append, divide?_cons_of_ne (Ne.symm absent.1), ih absent.2, Option.map_map]
      rfl

theorem divide?_of_notMem (absent : first ∉ text) (rest : List Char) :
    divide? (first :: rest) text = none := by
  have divided := divide?_append_of_notMem absent rest []
  rw [List.append_nil] at divided
  rw [divided]
  rfl

theorem divide?_separator (first : Char) (rest text : List Char) :
    divide? (first :: rest) (first :: (rest ++ text)) = some ([], text) := by
  have present : (first :: rest).isPrefixOf (first :: (rest ++ text)) = true := by
    rw [List.isPrefixOf_iff_prefix]
    exact List.prefix_append (first :: rest) text
  rw [divide?, present, if_pos rfl, ← List.cons_append, List.drop_left]

/-- A text is divided at a separator whose first character does not stand before it. -/
theorem divide?_front (absent : first ∉ front) (rest text : List Char) :
    divide? (first :: rest) (front ++ first :: (rest ++ text)) = some (front, text) := by
  rw [divide?_append_of_notMem absent, divide?_separator, Option.map_some, List.append_nil]

variable {otherFront otherRest : List Char}

/-- What stands before the first one of a character is told by the text. -/
theorem eq_of_first (absent : first ∉ front) (otherAbsent : first ∉ otherFront)
    (same : front ++ first :: rest = otherFront ++ first :: otherRest) :
    front = otherFront ∧ rest = otherRest := by
  have divided : divide? [first] (front ++ first :: rest) = some (front, rest) :=
    divide?_front absent [] rest
  have otherDivided : divide? [first] (otherFront ++ first :: otherRest) =
      some (otherFront, otherRest) := divide?_front otherAbsent [] otherRest
  rw [same, otherDivided, Option.some.injEq, Prod.mk.injEq] at divided
  exact ⟨divided.1.symm, divided.2.symm⟩

/-- What stands behind the last one of a character is told by the text. -/
theorem eq_of_last (absent : first ∉ rest) (otherAbsent : first ∉ otherRest)
    (same : front ++ first :: rest = otherFront ++ first :: otherRest) :
    front = otherFront ∧ rest = otherRest := by
  have backwards : rest.reverse ++ first :: front.reverse =
      otherRest.reverse ++ first :: otherFront.reverse := by
    simpa using congrArg List.reverse same
  rw [← List.mem_reverse] at absent otherAbsent
  obtain ⟨rests, fronts⟩ := eq_of_first absent otherAbsent backwards
  exact ⟨List.reverse_inj.1 fronts, List.reverse_inj.1 rests⟩

end TrafficBoard.Text
