import TrafficBoard.Proofs.Text.Cropping
import TrafficBoard.Proofs.Text.Narrow
import TrafficBoard.Table.Panel

/-!
# Titles in the upper edge

The title stands in the upper edge between two spaces, cut to the room that the edge has for it.
It is cut as a whole but measured in parts, one behind each tab.  The parts take the cells of the
title: a part ends in the spaces that lead to its tab stop, so what stands behind it is measured
as it is alone.

A joiner undoes this, since it shows the space behind it as one with what stands before it.  A
title without tabs is a single part, and may have joiners.  In both cases the upper edge is as wide
as the panel, however long the title is.
-/

namespace TrafficBoard

namespace Drawing

open Text

/-! ## Parts of a title -/

/-- Whether each part of a text ends in a space, or has nothing but spaces behind it. -/
def Spaced : List (List Char) → Prop
  | [] => True
  | part :: rest =>
      ((∃ front, part = front ++ [' ']) ∨ ∃ count, rest.flatten = blank count) ∧ Spaced rest

theorem exists_toTabStop_eq (part : List Char) : ∃ front, toTabStop part = front ++ [' '] := by
  rw [toTabStop]
  cases (tabWidth - cells (part ++ [' ']) % tabWidth) % tabWidth with
  | zero => exact ⟨part, List.append_nil _⟩
  | succ count =>
      rw [blank, List.replicate_succ', ← List.append_assoc]
      exact ⟨_, rfl⟩

theorem spaced_toTabStops (parts : List (List Char)) :
    Spaced (toTabStops parts ++ [[' ']]) := by
  have last : Spaced [[' ']] := ⟨.inl ⟨[], rfl⟩, trivial⟩
  fun_induction toTabStops parts with
  | case1 => exact last
  | case2 => exact last
  | case3 part _ => exact ⟨.inr ⟨1, rfl⟩, last⟩
  | case4 part rest _ ih => exact ⟨.inl (exists_toTabStop_eq part), ih⟩

/-- What is known of the parts of a title that is not empty: they consist of its characters and
spaces, do not start with a joiner, and are one unless the title has tabs. -/
structure AreParts (title : String) (parts : List (List Char)) : Prop where
  head : parts.flatten.head? ≠ some joiner
  mem : ∀ c ∈ parts.flatten, c ∈ title.toList ∨ c = ' '
  divided : (∃ part, parts = [part]) ∨ ('\t' ∈ title.toList ∧ Spaced parts)

theorem titleParts_cases (title : String) :
    titleParts title = [] ∨ AreParts title (titleParts title) := by
  have inside : ∀ c ∈ (dropControls title.toList).map (fun c => if c = '\n' then ' ' else c),
      c ∈ title.toList ∨ c = ' ' := by
    refine List.forall_mem_map.2 fun c member => ?_
    split
    · exact .inr rfl
    · exact .inl (List.mem_filter.1 member).1
  have space : some ' ' ≠ some joiner := by decide
  unfold titleParts
  split
  · exact .inl rfl
  · right
    split
    · next tabs =>
        have tab : '\t' ∈ title.toList := by
          rcases inside '\t' (List.contains_iff_mem.1 tabs) with member | wrong
          · exact member
          · exact absurd wrong (by decide)
        refine ⟨space, fun c member => ?_, .inr ⟨tab, .inl ⟨[], rfl⟩, spaced_toTabStops _⟩⟩
        rw [List.flatten_cons, List.flatten_append, List.flatten_singleton] at member
        rcases List.mem_append.1 member with first | others
        · exact .inr (List.mem_singleton.1 first)
        · rcases List.mem_append.1 others with part | last
          · exact (mem_expandTabs part).elim (inside c) .inr
          · exact .inr (List.mem_singleton.1 last)
    · refine ⟨space, fun c member => ?_, .inl ⟨_, rfl⟩⟩
      rw [List.flatten_singleton] at member
      rcases List.mem_cons.1 member with first | others
      · exact .inr first
      · rcases List.mem_append.1 others with part | last
        · exact inside c part
        · exact .inr (List.mem_singleton.1 last)

/-! ## Cells of the parts -/

theorem mem_of_mem_splitAlong {parts : List (List Char)} {text piece : List Char} {c : Char}
    (member : piece ∈ splitAlong parts text) (inside : c ∈ piece) : c ∈ text := by
  induction parts generalizing text with
  | nil => cases member
  | cons part rest ih =>
      unfold splitAlong at member
      split at member
      · cases member
      · rcases List.mem_cons.1 member with rfl | later
        · exact List.mem_of_mem_take inside
        · exact List.mem_of_mem_drop (ih later)

/-- A single part is not divided. -/
theorem splitAlong_singleton {part text : List Char} (fits : text.length ≤ part.length) :
    splitAlong [part] text = if text.isEmpty then [] else [text] := by
  rw [splitAlong, List.take_of_length_le fits, splitAlong]

/-- Pieces of a title, in one style. -/
def runs (style : Style) (pieces : List (List Char)) : Line :=
  pieces.map fun piece => ⟨piece, style⟩

/-- The pieces of a cut title without joiners take the cells of what is left of it. -/
theorem cells_splitAlong {parts : List (List Char)} {front back : List Char} {filling : Nat}
    (divided : parts.flatten = front ++ back) (spaced : Spaced parts)
    (absent : joiner ∉ parts.flatten) (room : filling ≤ back.length) (style : Style) :
    Line.cells (runs style (splitAlong parts (front ++ blank filling))) =
      Text.cells (front ++ blank filling) := by
  induction parts generalizing front back filling with
  | nil =>
      obtain ⟨rfl, rfl⟩ := List.append_eq_nil_iff.1 divided.symm
      obtain rfl := Nat.le_zero.1 room
      rfl
  | cons part rest ih =>
      rw [List.flatten_cons] at divided absent
      obtain ⟨partAbsent, restAbsent⟩ := not_or.1 (mt List.mem_append.2 absent)
      unfold splitAlong
      split
      · next empty =>
          rw [List.isEmpty_iff.1 empty]
          rfl
      · rw [runs, List.map_cons, Line.cells_cons, Run.cells]
        rcases List.append_eq_append_iff.1 divided with
          ⟨later, rfl, behind⟩ | ⟨later, rfl, behind⟩
        · -- The whole part is left, and the cut is behind it.
          rw [List.append_assoc, List.take_left, List.drop_left]
          have others := ih behind spaced.2 restAbsent room
          rw [runs] at others
          rw [others]
          rcases spaced.1 with ⟨text, rfl⟩ | ⟨count, blanks⟩
          · have textAbsent : joiner ∉ text := fun member =>
              partAbsent (List.mem_append_left _ member)
            rw [List.append_assoc, (standsAlone_space []).cells_append textAbsent,
              List.singleton_append, (standsAlone_space _).cells_append textAbsent, cells_space,
              cells_space, cells_nil]
            omega
          · rw [behind] at blanks
            obtain ⟨-, laterBlank, -⟩ := List.append_eq_replicate_iff.1 blanks
            have all : later ++ blank filling = blank (later.length + filling) := by
              rw [laterBlank, blank, blank, List.replicate_append_replicate]
              simp
            rw [all, (standsAlone_blank _).cells_append partAbsent]
        · -- The cut is in the part, so only spaces can be left behind it.
          have frontAbsent : joiner ∉ front := fun member =>
            partAbsent (List.mem_append_left _ member)
          have kept : (front ++ blank filling).take (front ++ later).length =
              front ++ blank (min later.length filling) := by
            rw [List.length_append, List.take_length_add_append, blank, List.take_replicate]
            rfl
          have left : (front ++ blank filling).drop (front ++ later).length =
              [] ++ blank (filling - later.length) := by
            rw [List.length_append, List.drop_length_add_append, blank, List.drop_replicate]
            rfl
          have more : filling - later.length ≤ rest.flatten.length := by
            rw [behind, List.length_append] at room
            omega
          have others := ih (List.nil_append rest.flatten).symm spaced.2 restAbsent more
          rw [runs, ← left] at others
          rw [kept, others, left, List.nil_append,
            (standsAlone_blank _).cells_append frontAbsent,
            (standsAlone_blank _).cells_append frontAbsent, cells_blank, cells_blank, cells_blank]
          omega

/-! ## Cut titles -/

section Cuttable

variable {allowed : Char → Prop} {title : String}

/-- The parts of a title are cut to the room for them, and the pieces that are left take the
cells of what is left of the title. -/
theorem AreParts.exists_crop {parts : List (List Char)} (are : AreParts title parts)
    (tabs : '\t' ∈ title.toList → joiner ∉ title.toList) (mem : ∀ c ∈ title.toList, allowed c)
    (allows : AllowsNarrow allowed) (style : Style) (room : Nat) :
    ∃ shown, crop room parts.flatten = .ok shown ∧ Text.cells shown ≤ room ∧
      (runs style (splitAlong parts shown)).Fills allowed (Text.cells shown) := by
  have cuttable : IsCuttable allowed parts.flatten := by
    refine ⟨are.head, fun c member => ?_⟩
    rcases are.mem c member with inside | rfl
    · exact mem c inside
    · exact allows.space
  obtain ⟨shown, done, kept, measured⟩ := cuttable.exists_crop allows.space room
  obtain ⟨other, otherDone, cropped⟩ := exists_isCropped are.head room
  obtain rfl := Except.ok.inj (done.symm.trans otherDone)
  obtain ⟨front, back, filling, divided, rfl, fits⟩ := cropped.exists_front
  refine ⟨_, done, measured ▸ Nat.min_le_left _ _, ?_⟩
  rcases are.divided with ⟨part, rfl⟩ | ⟨tab, spaced⟩
  · rw [List.flatten_singleton] at divided
    have short : (front ++ blank filling).length ≤ part.length := by
      rw [divided, List.length_append, List.length_append, blank, List.length_replicate]
      exact Nat.add_le_add_left fits _
    rw [splitAlong_singleton short]
    split
    · next empty =>
        rw [List.isEmpty_iff.1 empty]
        exact ⟨Line.isCuttable_nil, rfl⟩
    · exact ⟨Line.isCuttable_singleton.2 kept, Nat.add_zero _⟩
  · have absent : joiner ∉ parts.flatten := fun member => by
      rcases are.mem joiner member with inside | wrong
      · exact tabs tab inside
      · exact absurd wrong (by decide)
    have shownAbsent : joiner ∉ front ++ blank filling := by
      intro member
      rcases List.mem_append.1 member with inside | blanks
      · exact absent (divided ▸ List.mem_append_left back inside)
      · exact absurd (List.mem_replicate.1 blanks).2 (by decide)
    refine ⟨List.forall_mem_map.2 fun piece member => ⟨fun first => ?_, fun c inside => ?_⟩,
      cells_splitAlong divided spaced absent fits style⟩
    · exact shownAbsent (mem_of_mem_splitAlong member (List.mem_of_head? first))
    · exact kept.mem c (mem_of_mem_splitAlong member inside)

end Cuttable

end Drawing

end TrafficBoard
