import Mathlib.Data.List.Forall2

/-!
# Attempts

A computation that can fail succeeds exactly when each of its parts does.
-/

namespace TrafficBoard.Attempt

universe u v w

variable {ε : Type u} {α : Type v} {β : Type v}

theorem bind_eq_ok_iff {attempt : Except ε α} {next : α → Except ε β} {result : β} :
    attempt >>= next = .ok result ↔ ∃ value, attempt = .ok value ∧ next value = .ok result := by
  cases attempt with
  | error error =>
      constructor
      · intro failed
        cases failed
      · rintro ⟨value, failed, -⟩
        cases failed
  | ok value =>
      constructor
      · intro succeeded
        exact ⟨value, rfl, succeeded⟩
      · rintro ⟨_, same, succeeded⟩
        cases same
        exact succeeded

theorem map_eq_ok_iff {attempt : Except ε α} {change : α → β} {result : β} :
    attempt.map change = .ok result ↔ ∃ value, attempt = .ok value ∧ change value = result := by
  cases attempt with
  | error error => simp [Except.map]
  | ok value => simp [Except.map]

/-- Attempts for all entries of a list succeed if each of them does. -/
theorem mapM_eq_ok_iff {ι : Type w} {entries : List ι} {attempt : ι → Except ε α}
    {results : List α} :
    entries.mapM attempt = .ok results ↔
      List.Forall₂ (fun entry result => attempt entry = .ok result) entries results := by
  induction entries generalizing results with
  | nil =>
      rw [List.mapM_nil, List.forall₂_nil_left_iff]
      constructor
      · intro same
        cases same
        rfl
      · rintro rfl
        rfl
  | cons entry rest ih =>
      rw [List.mapM_cons, List.forall₂_cons_left_iff]
      simp only [bind_eq_ok_iff]
      constructor
      · rintro ⟨first, done, others, restDone, same⟩
        cases same
        exact ⟨first, others, done, ih.1 restDone, rfl⟩
      · rintro ⟨first, others, done, restDone, rfl⟩
        exact ⟨first, done, others, ih.2 restDone, rfl⟩

/-- Attempts for all entries of a list fail with the fault of one of them, if no other
fault can come before it. -/
theorem mapM_eq_error {ι : Type w} {entries : List ι} {attempt : ι → Except ε α} {fault : ε}
    (only : ∀ entry ∈ entries, attempt entry = .error fault ∨ ∃ value, attempt entry = .ok value)
    {failing : ι} (member : failing ∈ entries) (fails : attempt failing = .error fault) :
    entries.mapM attempt = .error fault := by
  induction entries with
  | nil => cases member
  | cons entry rest ih =>
      rw [List.mapM_cons]
      rcases only entry List.mem_cons_self with failed | ⟨value, done⟩
      · rw [failed]
        rfl
      · have later : failing ∈ rest := by
          rcases List.mem_cons.1 member with rfl | later
          · rw [done] at fails
            cases fails
          · exact later
        have behind := fun other otherMember => only other (List.mem_cons_of_mem _ otherMember)
        rw [done, ih behind later]
        rfl

/-- Partners for all entries of a list, if each of them has one. -/
theorem exists_forall₂ {ι : Type u} {κ : Type v} {partners : ι → κ → Prop} {entries : List ι}
    (each : ∀ entry ∈ entries, ∃ partner, partners entry partner) :
    ∃ found, List.Forall₂ partners entries found := by
  induction entries with
  | nil => exact ⟨[], .nil⟩
  | cons entry rest ih =>
      obtain ⟨partner, first⟩ := each entry List.mem_cons_self
      obtain ⟨found, others⟩ := ih fun other member => each other (List.mem_cons_of_mem _ member)
      exact ⟨partner :: found, .cons first others⟩

/-- Partners of partners. -/
theorem forall₂_trans {ι : Type u} {κ : Type v} {μ : Type w} {first : ι → κ → Prop}
    {second : κ → μ → Prop} {entries : List ι} {middles : List κ} {others : List μ}
    (front : List.Forall₂ first entries middles) (back : List.Forall₂ second middles others) :
    List.Forall₂ (fun entry other => ∃ middle, first entry middle ∧ second middle other)
      entries others := by
  induction front generalizing others with
  | nil =>
      cases back
      exact .nil
  | cons pair _ ih =>
      cases back with
      | cons other back => exact .cons ⟨_, pair, other⟩ (ih back)

theorem exists_of_mem_right {ι : Type u} {κ : Type v} {partners : ι → κ → Prop}
    {entries : List ι} {found : List κ} (paired : List.Forall₂ partners entries found)
    {partner : κ} (member : partner ∈ found) : ∃ entry ∈ entries, partners entry partner := by
  induction paired with
  | nil => cases member
  | @cons entry first rest others pair paired ih =>
      rcases List.mem_cons.1 member with rfl | later
      · exact ⟨entry, List.mem_cons_self, pair⟩
      · obtain ⟨other, otherMember, otherPair⟩ := ih later
        exact ⟨other, List.mem_cons_of_mem _ otherMember, otherPair⟩

theorem exists_of_mem_left {ι : Type u} {κ : Type v} {partners : ι → κ → Prop}
    {entries : List ι} {found : List κ} (paired : List.Forall₂ partners entries found)
    {entry : ι} (member : entry ∈ entries) : ∃ partner ∈ found, partners entry partner :=
  exists_of_mem_right paired.flip member

/-- Attempts for all entries of a list succeed with results of a kind, if each of them does. -/
theorem exists_mapM {ι : Type v} {entries : List ι} {attempt : ι → Except ε α}
    {property : α → Prop}
    (each : ∀ entry ∈ entries, ∃ result, attempt entry = .ok result ∧ property result) :
    ∃ results, entries.mapM attempt = .ok results ∧ results.length = entries.length ∧
      ∀ result ∈ results, property result := by
  obtain ⟨results, paired⟩ := exists_forall₂ each
  refine ⟨results, mapM_eq_ok_iff.2 (paired.imp fun _ _ => And.left), paired.length_eq.symm, ?_⟩
  intro result member
  obtain ⟨_, -, -, holds⟩ := exists_of_mem_right paired member
  exact holds

end TrafficBoard.Attempt
