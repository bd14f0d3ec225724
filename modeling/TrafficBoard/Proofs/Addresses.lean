import Mathlib.Data.List.TakeWhile
import Mathlib.Data.Nat.Digits.Defs
import TrafficBoard.Address.Reading
import TrafficBoard.Proofs.Text.BasicLatin
import TrafficBoard.Proofs.Text.Pieces

/-!
# Texts of addresses

Eight groups are read back from their text, although a run of zero groups is left out of it: the
double colon stands between groups that are written in full, and the number of those tells how
long the run is.  So different addresses have different texts.  A colon tells eight groups from
four octets, and the first percent sign is where a scope begins.
-/

namespace TrafficBoard.Address

open Text

/-! ## Groups -/

theorem hexValue?_digitChar {digit : Nat} (small : digit < 16) :
    hexValue? digit.digitChar = some digit := by
  revert digit
  decide

theorem notMem_groupText {c : Char} (other : hexValue? c = none) (group : UInt16) :
    c ∉ groupText group := by
  intro member
  obtain ⟨digit, small, rfl⟩ := exists_digit_of_mem_toDigits (by decide) member
  cases other.symm.trans (hexValue?_digitChar small)

theorem groupText_ne_nil (group : UInt16) : groupText group ≠ [] := Nat.toDigits_ne_nil

/-- The values of hexadecimal digits are put together to the number that they were taken from. -/
theorem exists_mapM_hexValue? (value : Nat) : ∃ digits,
    (hexDigits value).mapM hexValue? = some digits ∧
      digits.foldl (fun value digit => 16 * value + digit) 0 = value := by
  induction value using Nat.strongRecOn with
  | _ value ih =>
      rw [hexDigits, Nat.toDigits_eq_if (by decide)]
      split
      · next single =>
          refine ⟨[value], ?_, by simp⟩
          simp [hexValue?_digitChar single]
      · next several =>
          obtain ⟨digits, read, total⟩ := ih (value / 16) (Nat.div_lt_self (by omega) (by decide))
          refine ⟨digits ++ [value % 16], ?_, ?_⟩
          · have last := hexValue?_digitChar (Nat.mod_lt value (by decide : 0 < 16))
            rw [hexDigits] at read
            simp [List.mapM_append, read, last]
          · rw [List.foldl_append, total]
            exact Nat.div_add_mod value 16

/-- A group is read back from its digits. -/
theorem group?_groupText (group : UInt16) : group? (groupText group) = some group := by
  obtain ⟨digits, read, total⟩ := exists_mapM_hexValue? group.toNat
  have few : (groupText group).length ≤ 4 :=
    Nat.toDigits_length 16 group.toNat 4 (by decide) group.toNat_lt
  have accepted : ((groupText group).isEmpty || decide (4 < (groupText group).length)) = false := by
    rw [Bool.or_eq_false_iff, decide_eq_false_iff_not, List.isEmpty_eq_false_iff]
    exact ⟨groupText_ne_nil group, Nat.not_lt.2 few⟩
  rw [group?, accepted, if_neg Bool.false_ne_true, groupText, read, Option.map_some, total,
    UInt16.ofNat_toNat]

theorem groupPieces?_map_groupText {groups : List UInt16} :
    groupPieces? (groups.map groupText) = some groups := by
  induction groups with
  | nil => rfl
  | cons group rest ih =>
      cases rest with
      | nil =>
          rw [List.map_singleton, groupPieces?, if_neg (notMem_groupText (by decide) group),
            group?_groupText]
          rfl
      | cons next more =>
          rw [List.map_cons, groupPieces?]
          · rw [group?_groupText, ih]
          · intro none
            cases none

/-! ## Groups between colons -/

theorem groupsText_cons_cons (group next : UInt16) (groups : List UInt16) :
    groupsText (group :: next :: groups) =
      groupText group ++ ':' :: groupsText (next :: groups) := by
  simp [groupsText, List.intercalate_cons_cons]

/-- The text of groups starts with a digit. -/
theorem exists_groupsText_cons (group : UInt16) (groups : List UInt16) :
    ∃ c rest, groupsText (group :: groups) = c :: rest ∧ c ≠ ':' := by
  obtain ⟨c, digits, shown⟩ := List.exists_cons_of_ne_nil (groupText_ne_nil group)
  have digit : c ≠ ':' := by
    rintro rfl
    have member : ':' ∈ groupText group := by
      rw [shown]
      exact List.mem_cons_self
    exact notMem_groupText (by decide) group member
  cases groups with
  | nil => exact ⟨c, digits, by simp [groupsText, shown], digit⟩
  | cons next more =>
      exact ⟨c, digits ++ ':' :: groupsText (next :: more), by
        rw [groupsText_cons_cons, shown, List.cons_append], digit⟩

theorem groupList?_groupsText (groups : List UInt16) :
    groupList? (groupsText groups) = some groups := by
  cases groups with
  | nil => rfl
  | cons group rest =>
      have nonempty : (groupsText (group :: rest)).isEmpty = false := by
        obtain ⟨c, digits, shown, -⟩ := exists_groupsText_cons group rest
        rw [shown]
        rfl
      have divided : pieces ':' (groupsText (group :: rest)) = (group :: rest).map groupText := by
        apply pieces_intercalate
        · exact List.cons_ne_nil _ _
        · intro part member
          obtain ⟨shown, -, rfl⟩ := List.mem_map.1 member
          exact notMem_groupText (by decide) shown
      rw [groupList?, nonempty, if_neg Bool.false_ne_true, divided, groupPieces?_map_groupText]

/-- No two colons stand next to each other in the text of groups. -/
theorem divide?_groupsText_append (groups : List UInt16) (text : List Char) :
    divide? [':', ':'] (groupsText groups ++ text) =
      (divide? [':', ':'] text).map fun parts => (groupsText groups ++ parts.1, parts.2) := by
  induction groups with
  | nil => simp [groupsText]
  | cons group groups ih =>
      have digits := notMem_groupText (by decide : hexValue? ':' = none) group
      cases groups with
      | nil =>
          have alone : groupsText [group] = groupText group := by simp [groupsText]
          rw [alone, divide?_append_of_notMem digits]
      | cons next more =>
          obtain ⟨c, rest, shown, digit⟩ := exists_groupsText_cons next more
          have single : [':', ':'].isPrefixOf (':' :: (groupsText (next :: more) ++ text)) =
              false := by
            rw [shown, List.cons_append, List.isPrefixOf, List.isPrefixOf,
              beq_false_of_ne (Ne.symm digit), Bool.false_and, Bool.and_false]
          rw [groupsText_cons_cons, List.append_assoc, List.cons_append,
            divide?_append_of_notMem digits, divide?, single, if_neg Bool.false_ne_true, ih,
            Option.map_map, Option.map_map]
          simp only [Function.comp_def, List.append_assoc, List.cons_append]

theorem notMem_groupsText {c : Char} (other : hexValue? c = none) (noColon : c ≠ ':')
    (groups : List UInt16) : c ∉ groupsText groups := by
  intro member
  rcases mem_of_mem_intercalate member with colon | ⟨part, found, inPart⟩
  · exact noColon (List.mem_singleton.1 colon)
  · obtain ⟨group, -, rfl⟩ := List.mem_map.1 found
    exact notMem_groupText other group inPart

/-! ## The longest run of zeros -/

theorem replicate_zeroRun_append (groups : List UInt16) :
    List.replicate (zeroRun groups) 0 ++ groups.drop (zeroRun groups) = groups := by
  have zeros : groups.takeWhile (· = 0) = List.replicate (zeroRun groups) 0 := by
    rw [List.eq_replicate_iff]
    refine ⟨rfl, fun group member => ?_⟩
    simpa using List.mem_takeWhile_imp member
  have parts := List.takeWhile_append_dropWhile (p := (· = 0)) (l := groups)
  have rest : groups.drop (zeroRun groups) = groups.dropWhile (· = 0) := by
    calc
      groups.drop (zeroRun groups) =
          (groups.takeWhile (· = 0) ++ groups.dropWhile (· = 0)).drop (zeroRun groups) := by
        rw [parts]
      _ = groups.dropWhile (· = 0) := List.drop_left
  rw [rest, ← zeros, parts]

/-- The groups that are left out are zeros. -/
theorem take_append_of_longestZeroRun {groups : List UInt16} {start length : Nat}
    (found : longestZeroRun groups = (start, length)) :
    groups.take start ++ (List.replicate length 0 ++ groups.drop (start + length)) = groups := by
  induction groups generalizing start length with
  | nil =>
      cases found
      rfl
  | cons group rest ih =>
      rw [longestZeroRun] at found
      cases later : longestZeroRun rest with
      | mk laterStart laterLength =>
          rw [later] at found
          by_cases longer : laterLength ≤ zeroRun (group :: rest)
          · simp only [if_pos longer, Prod.mk.injEq] at found
            obtain ⟨rfl, rfl⟩ := found
            rw [List.take_zero, List.nil_append, Nat.zero_add]
            exact replicate_zeroRun_append (group :: rest)
          · simp only [if_neg longer, Prod.mk.injEq] at found
            obtain ⟨rfl, rfl⟩ := found
            rw [List.take_succ_cons, List.cons_append, Nat.succ_add, List.drop_succ_cons,
              ih later]

/-- Eight groups are read back from their text. -/
theorem groups?_compressedText (groups : Groups) :
    groups? (compressedText groups.values) = some groups := by
  have accepted : eight? groups.values = some groups := by
    rw [eight?, dif_pos groups.length_values]
  cases found : longestZeroRun groups.values with
  | mk start length =>
      have parts := take_append_of_longestZeroRun found
      rw [compressedText, found]
      by_cases short : length < 2
      · have undivided : divide? [':', ':'] (groupsText groups.values) = none := by
          have divided := divide?_groupsText_append groups.values []
          rw [List.append_nil] at divided
          rw [divided]
          rfl
        simp only [if_pos short]
        rw [groups?, undivided]
        simp only [groupList?_groupsText, Option.bind_some, accepted]
      · have divided : divide? [':', ':'] (groupsText (groups.values.take start) ++
            ':' :: ':' :: groupsText (groups.values.drop (start + length))) =
              some (groupsText (groups.values.take start),
                groupsText (groups.values.drop (start + length))) := by
          have colons : divide? [':', ':'] (':' :: ':' ::
              groupsText (groups.values.drop (start + length))) =
                some ([], groupsText (groups.values.drop (start + length))) :=
            divide?_separator ':' [':'] _
          rw [divide?_groupsText_append, colons, Option.map_some, List.append_nil]
        have skipped : 8 - ((groups.values.take start).length +
            (groups.values.drop (start + length)).length) = length := by
          have total := congrArg List.length parts
          rw [groups.length_values, List.length_append, List.length_append,
            List.length_replicate] at total
          omega
        have nonzero : length ≠ 0 := by omega
        simp only [if_neg short]
        rw [groups?, divided]
        simp only [groupList?_groupsText, skipped, if_neg nonzero]
        rw [if_neg (notMem_groupsText (by decide) (by decide) _), List.append_assoc, parts,
          accepted]

/-- Four octets inside of eight groups are written as groups, too. -/
example : compressedText [0, 0, 0, 0, 0, 0xffff, 0x102, 0x304] = "::ffff:102:304".toList := by
  decide

theorem compressedText_injective {groups other : Groups}
    (same : compressedText groups.values = compressedText other.values) : groups = other := by
  have read := groups?_compressedText groups
  rw [same, groups?_compressedText] at read
  exact (Option.some.inj read).symm

theorem notMem_compressedText {c : Char} (other : hexValue? c = none) (noColon : c ≠ ':')
    (groups : List UInt16) : c ∉ compressedText groups := by
  simp only [compressedText]
  split
  · exact notMem_groupsText other noColon groups
  · rw [List.mem_append, List.mem_cons, List.mem_cons, not_or, not_or, not_or]
    exact ⟨notMem_groupsText other noColon _, noColon, noColon, notMem_groupsText other noColon _⟩

theorem colon_mem_compressedText (groups : Groups) : ':' ∈ compressedText groups.values := by
  obtain ⟨values, eight⟩ := groups
  simp only [compressedText]
  split
  · obtain ⟨first, second, rest, rfl⟩ : ∃ first second rest, values = first :: second :: rest := by
      rcases values with _ | ⟨first, _ | ⟨second, rest⟩⟩
      · cases eight
      · cases eight
      · exact ⟨first, second, rest, rfl⟩
    rw [groupsText_cons_cons]
    exact List.mem_append_right _ List.mem_cons_self
  · exact List.mem_append_right _ List.mem_cons_self

/-! ## Addresses -/

theorem octetText_injective {octet other : UInt8} (same : octetText octet = octetText other) :
    octet = other :=
  UInt8.toNat_inj.1 (toDigits_injective same)

variable {first second third fourth : UInt8}

/-- Four octets are the pieces of their text between the points. -/
theorem pieces_characters_four :
    pieces '.' (four first second third fourth).characters =
      [octetText first, octetText second, octetText third, octetText fourth] := by
  apply pieces_intercalate (List.cons_ne_nil _ _)
  simp only [List.forall_mem_cons]
  have point : '.'.isDigit = false := by decide
  exact ⟨notMem_toDigits point _, notMem_toDigits point _, notMem_toDigits point _,
    notMem_toDigits point _, List.forall_mem_nil _⟩

/-- A colon tells addresses of eight groups from those of four octets. -/
theorem colon_mem_characters_iff {address : Address} :
    ':' ∈ address.characters ↔ address.version = 6 := by
  cases address with
  | four first second third fourth =>
      have notSix : (four first second third fourth).version ≠ 6 := (by decide : 4 ≠ 6)
      refine iff_of_false (fun member => ?_) notSix
      rcases mem_of_mem_intercalate member with point | ⟨part, found, inPart⟩
      · exact absurd point (by decide)
      · simp only [List.mem_cons, List.not_mem_nil, or_false] at found
        have colon : ':'.isDigit = false := by decide
        rcases found with rfl | rfl | rfl | rfl <;> exact notMem_toDigits colon _ inPart
  | six groups scope =>
      exact iff_of_true (List.mem_append_left _ (colon_mem_compressedText groups)) rfl

/-- The scope follows the first percent sign, if there is one. -/
theorem divide?_characters_six (groups : Groups) (scope : Option String) :
    divide? ['%'] (six groups scope).characters =
      scope.map fun name => (compressedText groups.values, name.toList) := by
  have absent : '%' ∉ compressedText groups.values :=
    notMem_compressedText (by decide) (by decide) groups.values
  cases scope with
  | none =>
      rw [characters, List.append_nil, divide?_of_notMem absent]
      rfl
  | some name => exact divide?_front absent [] name.toList

theorem characters_ne_nil (address : Address) : address.characters ≠ [] := by
  intro nothing
  cases address with
  | four first second third fourth =>
      have parts : pieces '.' (four first second third fourth).characters = [[]] := by
        rw [nothing, pieces]
      rw [pieces_characters_four] at parts
      simp at parts
  | six groups scope =>
      have colon := colon_mem_characters_iff.2 (rfl : (six groups scope).version = 6)
      rw [nothing] at colon
      exact List.not_mem_nil colon

theorem text_ne_empty (address : Address) : address.text ≠ "" := by
  intro nothing
  apply characters_ne_nil address
  simpa [text] using nothing

/-- Different addresses have different texts, whatever their scopes are. -/
theorem characters_injective : Function.Injective characters := by
  intro address other same
  have sameVersion : address.version = 6 ↔ other.version = 6 := by
    rw [← colon_mem_characters_iff, ← colon_mem_characters_iff, same]
  have notSix : 4 ≠ 6 := by decide
  cases address with
  | four first second third fourth =>
      cases other with
      | four =>
          have parts := congrArg (pieces '.') same
          rw [pieces_characters_four, pieces_characters_four] at parts
          simp only [List.cons.injEq, and_true] at parts
          obtain ⟨firstSame, secondSame, thirdSame, fourthSame⟩ := parts
          rw [octetText_injective firstSame, octetText_injective secondSame,
            octetText_injective thirdSame, octetText_injective fourthSame]
      | six => exact absurd (sameVersion.2 rfl) notSix
  | six groups scope =>
      cases other with
      | four => exact absurd (sameVersion.1 rfl) notSix
      | six otherGroups otherScope =>
          have parts := congrArg (divide? ['%']) same
          rw [divide?_characters_six, divide?_characters_six] at parts
          cases scope with
          | none =>
              cases otherScope with
              | none =>
                  rw [characters, characters, List.append_nil, List.append_nil] at same
                  rw [compressedText_injective same]
              | some otherName => cases parts
          | some name =>
              cases otherScope with
              | none => cases parts
              | some otherName =>
                  simp only [Option.map_some, Option.some.injEq, Prod.mk.injEq] at parts
                  rw [compressedText_injective parts.1, String.toList_injective parts.2]

theorem text_injective : Function.Injective text := fun _ _ same =>
  characters_injective (String.ofList_injective same)

end TrafficBoard.Address
