import Mathlib.Data.List.TakeDrop
import TrafficBoard.Dashboard.Banner
import TrafficBoard.Proofs.Text.Narrow

/-!
# Banners on the screen

The first line of a wrapped text consists of characters of the text.  Both banners are written
in narrow characters, so each of them is drawn as one line of the width of its region.
-/

namespace TrafficBoard.Banner

/-! ## Wrapped texts -/

theorem subset_of_span_eq {property : Char → Bool} {text front behind : List Char}
    (divided : text.span property = (front, behind)) : front ⊆ text ∧ behind ⊆ text := by
  rw [List.span_eq_takeWhile_dropWhile] at divided
  cases divided
  exact ⟨(List.takeWhile_prefix property).subset, (List.dropWhile_suffix property).subset⟩

theorem subset_of_mem_wordsFrom {fuel : Nat} {text word : List Char}
    (member : word ∈ wordsFrom fuel text) : word ⊆ text := by
  induction fuel generalizing text with
  | zero => cases member
  | succ fuel ih =>
      cases first : text.span Text.isBlank with
      | mk before afterBefore =>
          cases second : afterBefore.span fun c => !Text.isBlank c with
          | mk inner afterInner =>
              cases third : afterInner.span Text.isBlank with
              | mk after rest =>
                  obtain ⟨beforeInside, afterBeforeInside⟩ := subset_of_span_eq first
                  obtain ⟨innerInside, afterInnerInside⟩ := subset_of_span_eq second
                  obtain ⟨afterInside, restInside⟩ := subset_of_span_eq third
                  have inside := List.Subset.trans innerInside afterBeforeInside
                  have behind := List.Subset.trans afterInnerInside afterBeforeInside
                  simp only [wordsFrom, first, second, third] at member
                  split at member
                  · cases member
                  · rcases List.mem_cons.1 member with rfl | later
                    · exact List.append_subset.2 ⟨List.append_subset.2
                        ⟨beforeInside, inside⟩, List.Subset.trans afterInside behind⟩
                    · exact List.Subset.trans (ih later) (List.Subset.trans restInside behind)

theorem takeWords_subset {text : List Char} {words : List (List Char)}
    (each : ∀ word ∈ words, word ⊆ text) (width : Nat) : takeWords width words ⊆ text := by
  induction words generalizing width with
  | nil => exact List.nil_subset text
  | cons word rest ih =>
      obtain ⟨first, others⟩ := List.forall_mem_cons.1 each
      unfold takeWords
      split
      · exact List.append_subset.2 ⟨first, ih others _⟩
      · exact List.nil_subset text

/-- The first line of a wrapped text consists of characters of the text. -/
theorem firstLine_subset (width : Nat) (text : List Char) : firstLine width text ⊆ text := by
  simp only [firstLine]
  split
  · exact List.take_subset width text
  · next line _ =>
      exact takeWords_subset (fun _ member => subset_of_mem_wordsFrom member) width

/-- A banner of narrow characters is drawn as a line of the width of its region. -/
theorem exists_draw {allowed : Char → Prop} {banner : Banner}
    (narrow : Text.IsNarrow banner.line.characters) (allows : Text.AllowsNarrow allowed)
    (width : Nat) :
    ∃ line, banner.draw width = .ok line ∧ line.Fills allowed width := by
  have shown : Text.IsNarrow (firstLine width banner.line.characters) :=
    fun c member => narrow c (firstLine_subset width _ member)
  have cuttable : Line.IsCuttable allowed [⟨firstLine width banner.line.characters, .plain⟩] :=
    Line.isCuttable_singleton.2 (shown.isCuttable allows)
  exact cuttable.exists_fit allows.space .plain width

/-! ## The two banners -/

theorem isNarrow_header {theme : Theme} {total : Volume} {banner : Banner}
    (made : header theme total = .ok banner) : Text.IsNarrow banner.line.characters := by
  obtain ⟨up, -, rest⟩ := Attempt.bind_eq_ok_iff.1 made
  obtain ⟨down, -, same⟩ := Attempt.bind_eq_ok_iff.1 rest
  cases same
  have space : Text.IsNarrow [' '] := by decide +kernel
  have start : Text.IsNarrow "Total Rate Up / Down:".toList := by decide +kernel
  have between : Text.IsNarrow " / ".toList := by decide +kernel
  simp only [Line.characters, List.flatMap_cons, List.flatMap_nil, Text.isNarrow_append]
  exact ⟨space, start, space, up.isBasic_text.isNarrow, between, down.isBasic_text.isNarrow,
    List.forall_mem_nil _⟩

theorem isNarrow_resolutionText {resolver : Option Resolver} {text : String}
    (given : resolutionText? resolver = some text) : Text.IsNarrow text.toList := by
  have off : Text.IsNarrow "│ hostname resolution off".toList := by decide +kernel
  cases resolver with
  | none =>
      cases given
      exact off
  | some resolver =>
      simp only [resolutionText?] at given
      split at given
      · cases given
        exact off
      · split at given
        · cases given
        · next count _ =>
            cases given
            have before : Text.IsNarrow "│ resolving ".toList := by decide +kernel
            have behind : Text.IsNarrow " hostnames...".toList := by decide +kernel
            simp only [String.toList_append, Text.isNarrow_append]
            exact ⟨⟨before, (Text.isBasic_toString_nat _).isNarrow⟩, behind⟩

theorem isNarrow_footer (theme : Theme) (resolver : Option Resolver) :
    Text.IsNarrow (footer theme resolver).line.characters := by
  have start : Text.IsNarrow (' ' :: "Press <Ctrl+C> to quit".toList) := by decide +kernel
  rw [footer, Line.characters, List.flatMap_append]
  refine Text.isNarrow_append.2 ⟨start, ?_⟩
  split
  · exact List.forall_mem_nil _
  · next text given =>
      have gap : Text.IsNarrow "  ".toList := by decide +kernel
      simp only [List.flatMap_cons, List.flatMap_nil, Text.isNarrow_append]
      exact ⟨gap, isNarrow_resolutionText given, List.forall_mem_nil _⟩

end TrafficBoard.Banner
