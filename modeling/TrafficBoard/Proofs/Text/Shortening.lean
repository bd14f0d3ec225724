import TrafficBoard.Table.Shortening

/-!
# Shortened texts

A text that does not fit is shown by its two ends, of equal length, with the marker between
them.  The ends are parts of the text that do not overlap, and at least five characters
between them are lost.  Columns too narrow for that show the start of the text alone.

Shortening again gives what shortening once to the narrower width gives, because the ends that
the narrower width keeps are ends of the ends kept before.  That needs both widths to be on one
side of the least width with a marker.
-/

namespace TrafficBoard

namespace Text

variable {text front middle back : List Char} {width narrow wide : Int}

/-! ## The three ways to show a text -/

theorem shortenChars_of_length_le (fits : (text.length : Int) ≤ width) :
    shortenChars text width = text :=
  if_pos fits

/-- Without room for the marker, the start of a text is shown, which may be all of it. -/
theorem shortenChars_of_unmarked (unmarked : width < markedWidth) :
    shortenChars text width = text.take width.toNat := by
  unfold shortenChars
  split
  · next fits => rw [List.take_of_length_le (by omega)]
  · rfl

/-- With room for the marker, it stands between the two ends of the text that are kept. -/
theorem shortenChars_of_marked (long : width < (front ++ (middle ++ back)).length)
    (marked : markedWidth ≤ width) (frontLength : front.length = keptAt width)
    (backLength : back.length = keptAt width) :
    shortenChars (front ++ (middle ++ back)) width = front ++ marker ++ back := by
  have start : (front ++ (middle ++ back)).take (keptAt width) = front := by
    rw [← frontLength, List.take_left]
  have rest : (front ++ (middle ++ back)).drop
      ((front ++ (middle ++ back)).length - keptAt width) = back := by
    have before : (front ++ (middle ++ back)).length - keptAt width = (front ++ middle).length := by
      simp only [List.length_append]
      omega
    rw [before, ← List.append_assoc, List.drop_left]
  rw [shortenChars, if_neg (Int.not_le.2 long), if_neg (Int.not_lt.2 marked), start, rest]

/-- A text that is too long consists of the ends that are kept and the middle that is lost. -/
theorem exists_ends (long : width < text.length) (marked : markedWidth ≤ width) :
    ∃ front middle back : List Char, text = front ++ (middle ++ back) ∧
      front.length = keptAt width ∧ back.length = keptAt width ∧ 5 ≤ middle.length := by
  have kept : (2 * keptAt width : Int) ≤ width - 4 := by
    unfold keptAt markedWidth at *
    omega
  refine ⟨text.take (keptAt width),
    (text.drop (keptAt width)).take (text.length - 2 * keptAt width),
    (text.drop (keptAt width)).drop (text.length - 2 * keptAt width), ?_, ?_, ?_, ?_⟩
  · rw [List.take_append_drop, List.take_append_drop]
  all_goals
    simp only [List.length_take, List.length_drop]
    omega

/-! ## Lengths -/

theorem length_shortenChars (text : List Char) (width : Int) :
    (shortenChars text width).length =
      if (text.length : Int) ≤ width then text.length
      else if width < markedWidth then min width.toNat text.length
      else 2 * keptAt width + 4 := by
  split
  · next fits => rw [shortenChars_of_length_le fits]
  · next long =>
      split
      · next unmarked => rw [shortenChars_of_unmarked unmarked, List.length_take]
      · next marked =>
          rw [Int.not_le] at long
          rw [Int.not_lt] at marked
          obtain ⟨front, middle, back, rfl, frontLength, backLength, -⟩ := exists_ends long marked
          rw [shortenChars_of_marked long marked frontLength backLength]
          simp only [List.length_append, frontLength, backLength, marker, List.length_cons,
            List.length_nil]
          omega

/-- A shortened text fits, and without any width nothing is shown. -/
theorem length_shortenChars_le_max (text : List Char) (width : Int) :
    ((shortenChars text width).length : Int) ≤ max width 0 := by
  rw [length_shortenChars]
  unfold keptAt markedWidth
  repeat' split
  all_goals omega

/-- A text that does not fit gets shorter, but by no more than an odd width makes it. -/
theorem length_shortenChars_of_long (long : width < text.length) (nonempty : text ≠ []) :
    (shortenChars text width).length < text.length ∧
      width - 1 ≤ (shortenChars text width).length := by
  have positive := List.length_pos_iff.2 nonempty
  rw [length_shortenChars, if_neg (Int.not_le.2 long)]
  unfold keptAt markedWidth
  split
  all_goals omega

theorem length_shortenChars_mono (text : List Char) (le : narrow ≤ wide) :
    (shortenChars text narrow).length ≤ (shortenChars text wide).length := by
  rw [length_shortenChars, length_shortenChars]
  unfold keptAt markedWidth
  repeat' split
  all_goals omega

theorem shortenChars_eq_self_iff :
    shortenChars text width = text ↔ (text.length : Int) ≤ width ∨ text = [] := by
  constructor
  · intro same
    by_cases fits : (text.length : Int) ≤ width
    · exact .inl fits
    · right
      apply Decidable.byContradiction
      intro nonempty
      have shorter := (length_shortenChars_of_long (Int.not_le.1 fits) nonempty).1
      rw [same] at shorter
      exact Nat.lt_irrefl _ shorter
  · rintro (fits | rfl)
    · exact shortenChars_of_length_le fits
    · apply List.eq_nil_of_length_eq_zero
      rw [length_shortenChars, List.length_nil]
      unfold markedWidth
      repeat' split
      all_goals omega

/-! ## Shortening again -/

/-- Of longer ends, the outer parts are kept, whatever stands between them. -/
theorem shortenChars_of_longer_ends (long : width < (front ++ (middle ++ back)).length)
    (marked : markedWidth ≤ width) (frontLength : keptAt width ≤ front.length)
    (backLength : keptAt width ≤ back.length) :
    shortenChars (front ++ (middle ++ back)) width =
      front.take (keptAt width) ++ marker ++ back.drop (back.length - keptAt width) := by
  have split : front ++ (middle ++ back) = front.take (keptAt width) ++
      ((front.drop (keptAt width) ++ middle ++ back.take (back.length - keptAt width)) ++
        back.drop (back.length - keptAt width)) := by
    simp only [List.append_assoc, List.take_append_drop]
    rw [← List.append_assoc (front.take (keptAt width)), List.take_append_drop]
  rw [split] at long ⊢
  apply shortenChars_of_marked long marked
  · exact List.length_take_of_le frontLength
  · rw [List.length_drop, Nat.sub_sub_self backLength]

/-- Of a text that was shortened with a marker, a narrower width keeps what it keeps of the text
itself. -/
theorem shortenChars_shortenChars_of_marked (le : narrow ≤ wide) (marked : markedWidth ≤ narrow)
    (long : wide < text.length) :
    shortenChars (shortenChars text wide) narrow = shortenChars text narrow := by
  have wideMarked := Int.le_trans marked le
  obtain ⟨front, middle, back, rfl, frontLength, backLength, -⟩ := exists_ends long wideMarked
  have shown := shortenChars_of_marked long wideMarked frontLength backLength
  by_cases fits : ((shortenChars (front ++ (middle ++ back)) wide).length : Int) ≤ narrow
  · -- the narrower width is at most one less, and keeps the same ends
    have same : keptAt narrow = keptAt wide := by
      rw [length_shortenChars, if_neg (Int.not_le.2 long),
        if_neg (Int.not_lt.2 wideMarked)] at fits
      unfold keptAt at *
      omega
    rw [shortenChars_of_length_le fits, shown,
      shortenChars_of_marked (Int.lt_of_le_of_lt le long) marked (frontLength.trans same.symm)
        (backLength.trans same.symm)]
  · -- the ends that are kept now are ends of those kept before
    have fewer : keptAt narrow ≤ keptAt wide := by
      unfold keptAt
      omega
    have frontFewer : keptAt narrow ≤ front.length := frontLength ▸ fewer
    have backFewer : keptAt narrow ≤ back.length := backLength ▸ fewer
    rw [Int.not_le, shown, List.append_assoc] at fits
    rw [shown, List.append_assoc, shortenChars_of_longer_ends fits marked frontFewer backFewer,
      shortenChars_of_longer_ends (Int.lt_of_le_of_lt le long) marked frontFewer backFewer]

/-- Shortening again is the same as shortening once to the narrower width, if both widths have
room for the marker or neither does. -/
theorem shortenChars_shortenChars (le : narrow ≤ wide)
    (sameSide : markedWidth ≤ narrow ∨ wide < markedWidth) :
    shortenChars (shortenChars text wide) narrow = shortenChars text narrow := by
  rcases sameSide with marked | unmarked
  · by_cases fits : (text.length : Int) ≤ wide
    · rw [shortenChars_of_length_le fits]
    · exact shortenChars_shortenChars_of_marked le marked (Int.not_le.1 fits)
  · rw [shortenChars_of_unmarked unmarked,
      shortenChars_of_unmarked (Int.lt_of_le_of_lt le unmarked),
      shortenChars_of_unmarked (Int.lt_of_le_of_lt le unmarked), List.take_take,
      Nat.min_eq_left (Int.toNat_le_toNat le)]

/-- A wider column shows a shortened text as it is. -/
theorem shortenChars_shortenChars_of_le (le : narrow ≤ wide) (nonneg : 0 ≤ narrow) :
    shortenChars (shortenChars text narrow) wide = shortenChars text narrow := by
  apply shortenChars_of_length_le
  exact Int.le_trans (length_shortenChars_le_max text narrow)
    (Int.max_le.2 ⟨le, Int.le_trans nonneg le⟩)

/-- Of several widths with room for the marker, only the least one is seen. -/
theorem foldl_shortenChars (text : List Char) (width : Int) (widths : List Int)
    (marked : ∀ other ∈ width :: widths, markedWidth ≤ other) :
    (width :: widths).foldl shortenChars text = shortenChars text (widths.foldl min width) := by
  rw [List.foldl_cons]
  induction widths generalizing width with
  | nil => rfl
  | cons next rest ih =>
      obtain ⟨widthMarked, nextMarked, restMarked⟩ : markedWidth ≤ width ∧ markedWidth ≤ next ∧
          ∀ other ∈ rest, markedWidth ≤ other := by simpa using marked
      have together : shortenChars (shortenChars text width) next =
          shortenChars text (min width next) := by
        rcases Int.le_total next width with le | le
        · rw [Int.min_eq_right le, shortenChars_shortenChars le (.inl nextMarked)]
        · rw [Int.min_eq_left le, shortenChars_shortenChars_of_le le]
          exact Int.le_trans (by decide) widthMarked
      have least : ∀ other ∈ min width next :: rest, markedWidth ≤ other :=
        List.forall_mem_cons.2 ⟨Int.le_min.2 ⟨widthMarked, nextMarked⟩, restMarked⟩
      rw [List.foldl_cons, List.foldl_cons, together, ih _ least]

/-! ## Texts -/

@[simp] theorem toList_shorten (text : String) (width : Int) :
    (shorten text width).toList = shortenChars text.toList width :=
  String.toList_ofList

theorem length_shorten (text : String) (width : Int) :
    (shorten text width).length = (shortenChars text.toList width).length := by
  rw [← String.length_toList, toList_shorten]

/-- A shortened text consists of characters of the text and of the marker. -/
theorem mem_shorten {c : Char} {text : String} {width : Int}
    (member : c ∈ (shorten text width).toList) : c ∈ text.toList ∨ c ∈ marker := by
  rw [toList_shorten] at member
  unfold shortenChars at member
  split at member
  · exact .inl member
  · split at member
    · exact .inl (List.mem_of_mem_take member)
    · rcases List.mem_append.1 member with front | back
      · exact (List.mem_append.1 front).imp List.mem_of_mem_take id
      · exact .inl (List.mem_of_mem_drop back)

theorem notMem_shorten {c : Char} {text : String} (absent : c ∉ text.toList)
    (notMarker : c ∉ marker) (width : Int) : c ∉ (shorten text width).toList :=
  fun member => (mem_shorten member).elim absent notMarker

/-- A shortened text fits into its column, and a column without width shows nothing. -/
theorem length_shorten_le_max (text : String) (width : Int) :
    ((shorten text width).toList.length : Int) ≤ max width 0 := by
  rw [toList_shorten]
  exact length_shortenChars_le_max text.toList width

theorem length_shorten_le (text : String) {width : Int} (nonneg : 0 ≤ width) :
    ((shorten text width).toList.length : Int) ≤ width :=
  Int.le_trans (length_shorten_le_max text width) (Int.max_le.2 ⟨Int.le_refl width, nonneg⟩)

theorem shorten_shorten (text : String) {narrow wide : Int} (le : narrow ≤ wide)
    (sameSide : markedWidth ≤ narrow ∨ wide < markedWidth) :
    shorten (shorten text wide) narrow = shorten text narrow := by
  apply String.toList_injective
  rw [toList_shorten, toList_shorten, toList_shorten, shortenChars_shortenChars le sameSide]

theorem shorten_eq_self_iff {text : String} {width : Int} :
    shorten text width = text ↔ (text.length : Int) ≤ width ∨ text = "" := by
  rw [← String.toList_inj, toList_shorten, shortenChars_eq_self_iff, String.length_toList,
    String.toList_eq_nil_iff]

theorem toList_foldl_shorten (text : String) (widths : List Int) :
    (widths.foldl shorten text).toList = widths.foldl shortenChars text.toList := by
  induction widths generalizing text with
  | nil => rfl
  | cons width rest ih => rw [List.foldl_cons, List.foldl_cons, ih, toList_shorten]

/-- A text that is too long for a width consists of its two ends that are shown around the
marker, equally long, and the middle that is lost. -/
structure KeepsEnds (text : String) (width : Int) (front middle back : String) : Prop where
  parts : text = front ++ middle ++ back
  shown : shorten text width = front ++ "[..]" ++ back
  front_ne : front ≠ ""
  length_front : (front.length : Int) = width / 2 - 2
  length_back : (back.length : Int) = width / 2 - 2
  lost : 5 ≤ middle.length

theorem exists_keepsEnds {text : String} {width : Int} (long : width < text.length)
    (marked : markedWidth ≤ width) :
    ∃ front middle back, KeepsEnds text width front middle back := by
  rw [← String.length_toList] at long
  obtain ⟨front, middle, back, parts, frontLength, backLength, lost⟩ := exists_ends long marked
  obtain ⟨kept, positive⟩ : (keptAt width : Int) = width / 2 - 2 ∧ 0 < keptAt width := by
    unfold keptAt markedWidth at *
    omega
  refine ⟨String.ofList front, String.ofList middle, String.ofList back, ?_, ?_, ?_, ?_, ?_, ?_⟩
  · rw [← String.ofList_append, ← String.ofList_append, List.append_assoc, ← parts,
      String.ofList_toList]
  · apply String.toList_injective
    rw [parts] at long
    rw [toList_shorten, parts, shortenChars_of_marked long marked frontLength backLength]
    simp [marker]
  · intro empty
    rw [String.ofList_eq_empty_iff.1 empty, List.length_nil] at frontLength
    exact Nat.ne_of_lt positive frontLength
  · rw [String.length_ofList, frontLength, kept]
  · rw [String.length_ofList, backLength, kept]
  · rw [String.length_ofList]
    exact lost

/-- A shortened text fits its column, and is the text itself wherever that fits.  Otherwise it is
shorter than the text, but leaves at most one character of the column free, and it never gets
shorter in a wider column.  With room for the marker, the marker stands between two ends of the
text; without, the start of the text is shown. -/
theorem shorten_keeps_both_ends (text : String) :
    (∀ width : Int, ((shorten text width).length : Int) ≤ max width 0 ∧
      (shorten text width = text ↔ (text.length : Int) ≤ width ∨ text = "") ∧
      (shorten text width ≠ text →
        (shorten text width).length < text.length ∧ width - 1 ≤ (shorten text width).length)) ∧
    (∀ narrow wide : Int, narrow ≤ wide →
      (shorten text narrow).length ≤ (shorten text wide).length) ∧
    (∀ width : Int, 6 ≤ width → width < text.length →
      ∃ front middle back, KeepsEnds text width front middle back) ∧
    ∀ width : Int, width < 6 → width < text.length → ∃ rest, text = shorten text width ++ rest := by
  refine ⟨fun width => ⟨?_, shorten_eq_self_iff, fun other => ?_⟩, fun narrow wide le => ?_,
    fun width marked long => exists_keepsEnds long marked, fun width unmarked long => ?_⟩
  · rw [← String.length_toList]
    exact length_shorten_le_max text width
  · rw [Ne, shorten_eq_self_iff, not_or, Int.not_le, ← String.length_toList] at other
    rw [length_shorten, ← String.length_toList]
    apply length_shortenChars_of_long other.1
    intro empty
    exact other.2 (String.toList_eq_nil_iff.1 empty)
  · rw [length_shorten, length_shorten]
    exact length_shortenChars_mono _ le
  · refine ⟨String.ofList (text.toList.drop width.toNat), ?_⟩
    apply String.toList_injective
    rw [String.toList_append, toList_shorten, shortenChars_of_unmarked unmarked,
      String.toList_ofList, List.take_append_drop]

/-- Three characters at each end of a text of sixteen are kept at a width of ten. -/
theorem shorten_keeps_both_ends_sixteen :
    shorten "1234567890abcdef" 10 = "123[..]def" ∧
      ∃ front middle back, KeepsEnds "1234567890abcdef" 10 front middle back := by
  obtain ⟨-, -, ends, -⟩ := shorten_keeps_both_ends "1234567890abcdef"
  exact ⟨by decide, ends 10 (by decide) (by decide)⟩

/-- Shortening again is the same as shortening once to the narrower width, as long as the marker
has room at both widths or at neither.  So shortening twice to one width does nothing more, and
of any widths that have room for the marker only the narrowest is seen in the end. -/
theorem shortening_again_is_shortening_once (text : String) :
    (∀ narrow wide : Int, narrow ≤ wide → 6 ≤ narrow ∨ wide < 6 →
      shorten (shorten text wide) narrow = shorten text narrow) ∧
    (∀ width : Int, shorten (shorten text width) width = shorten text width) ∧
    ∀ (widths : List Int) (narrowest : Int), (∀ width ∈ widths, 6 ≤ width) →
      widths.min? = some narrowest → widths.foldl shorten text = shorten text narrowest := by
  refine ⟨fun narrow wide le sameSide => shorten_shorten text le sameSide, fun width => ?_,
    fun widths narrowest marked least => ?_⟩
  · have sameSide : markedWidth ≤ width ∨ width < markedWidth := by omega
    exact shorten_shorten text (Int.le_refl width) sameSide
  · cases widths with
    | nil => cases least
    | cons width rest =>
        rw [List.min?_cons', Option.some.injEq] at least
        apply String.toList_injective
        rw [toList_foldl_shorten, foldl_shortenChars _ _ _ marked, least, toList_shorten]

/-- The widths twelve and nine have room for the marker. -/
theorem shortening_again_is_shortening_once_nine :
    shorten (shorten "1234567890abcdef" 12) 9 = shorten "1234567890abcdef" 9 ∧
      [12, 9, 14].foldl shorten "1234567890abcdef" = "12[..]ef" := by
  obtain ⟨twice, -, chain⟩ := shortening_again_is_shortening_once "1234567890abcdef"
  exact ⟨twice 9 12 (by decide) (by decide),
    (chain [12, 9, 14] 9 (by decide) (by decide)).trans (by decide)⟩

/-- A text with a marker is cut through the marker by a width that has no room for it. -/
example : shorten (shorten "12345678" 6) 5 ≠ shorten "12345678" 5 := by decide

end Text

end TrafficBoard
