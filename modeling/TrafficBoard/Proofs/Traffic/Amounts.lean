import TrafficBoard.Proofs.Keyed.Reordered
import TrafficBoard.Proofs.Rates
import TrafficBoard.Proofs.Traffic.Interval

/-!
# The amounts of an interval

A sine between minus one and one keeps the factor of every flow between zero and a
bound.  No flow moves less than nothing then, and none moves so much that its rate could
not be shown.
-/

namespace TrafficBoard

/-- A volume of counts, none of which exceeds a bound. -/
structure Volume.IsAtMost (bound : Nat) (volume : Volume) : Prop where
  count : volume.IsCount
  up : volume.up ≤ bound
  down : volume.down ≤ bound

namespace Volume.IsAtMost

theorem sum {bound : Nat} {volumes : List Volume}
    (each : ∀ volume ∈ volumes, volume.IsAtMost bound) :
    volumes.sum.IsAtMost (volumes.length * bound) := by
  induction volumes with
  | nil => exact ⟨isCount_zero, by simp, by simp⟩
  | cons volume rest ih =>
      have first := each volume List.mem_cons_self
      have others := ih fun other member => each other (List.mem_cons_of_mem _ member)
      rw [List.sum_cons, List.length_cons, Nat.succ_mul, Nat.add_comm]
      exact ⟨first.count.add others.count, by push_cast; exact Int.add_le_add first.up others.up,
        by push_cast; exact Int.add_le_add first.down others.down⟩

theorem hasRates {bound : Nat} {volume : Volume} (atMost : volume.IsAtMost bound)
    (small : bound ≤ 2 ^ 1023) : volume.HasRates := by
  apply hasRates_of_natAbs_le
  · apply le_trans _ small
    have := atMost.up
    have := atMost.count.1
    omega
  · apply le_trans _ small
    have := atMost.down
    have := atMost.count.2
    omega

end Volume.IsAtMost

/-- A sine that is a number between minus one and one at every finite phase. -/
def Double.IsSineLike (sine : Double → Double) : Prop :=
  ∀ phase : Double, phase.IsFinite → ∃ negative, (sine phase).Within negative 1074

namespace Simulator

open Double

variable {sine : Double → Double} {simulator : Simulator}

/-! ## Factors and amounts -/

/-- The wave of a flow swings between zero and two. -/
theorem within_of_wave (sineLike : IsSineLike sine) {ticks : Int} {index : Nat} {swing : Double}
    (done : wave sine ticks index = .ok swing) : swing.Within false 1075 := by
  obtain ⟨phase, counted, sum⟩ := Attempt.bind_eq_ok_iff.1 done
  rw [← Except.ok.inj sum]
  have finite : (phase.divNat 4).IsFinite := (isFinite_of_ofCount counted).divNat (by decide)
  obtain ⟨negative, bounded⟩ := sineLike _ finite
  have half : (ofRatio false 1 2).Within false (1074 + 0) := by
    rw [ofRatio]
    apply within_round _ (by decide) _ (by decide)
    decide +kernel
  have product := (half.mul bounded (by decide)).mono (by decide : 0 + 1074 ≤ 1074)
  exact product.one_add

/-- The factor of a flow is at least zero, also in a burst. -/
theorem within_of_factor (sineLike : IsSineLike sine) {index : Nat} {factor : Double}
    (done : simulator.factor sine index = .ok factor) : factor.Within false 1080 := by
  obtain ⟨swing, waveDone, done⟩ := Attempt.bind_eq_ok_iff.1 done
  have bounded := within_of_wave sineLike waveDone
  cases scenario : simulator.scenario with
  | steady =>
      rw [scenario] at done
      cases done
      exact bounded.mono (by decide)
  | idle =>
      rw [scenario] at done
      cases done
      exact bounded.mono (by decide)
  | burst =>
      rw [scenario] at done
      cases done
      have rise : (if (index : Int) = spiking simulator.ticks then ofInt 20
          else ofRatio false 1 5).Within false 1079 := by
        split
        · exact (within_ofInt (by decide : (20 : Int).natAbs ≤ 2 ^ 5) (by decide)).mono (by decide)
        · rw [ofRatio]
          apply within_round _ (by decide) _ (by decide)
          decide +kernel
      exact Within.mul (show swing.Within false (1074 + 1) from bounded) rise (by decide)

/-- A base rate times a factor is a count that is not too large. -/
theorem exists_amount {rate : Int} (positive : 0 ≤ rate) (small : rate.natAbs ≤ 2 ^ 21)
    {factor : Double} (bounded : factor.Within false 1080) :
    ∃ count : Nat, amount rate factor = .ok (count : Int) ∧ count ≤ 2 ^ 27 := by
  have sign : decide (rate < 0) = false := decide_eq_false (Int.not_lt.2 positive)
  have base : (ofInt rate).Within false (1074 + 21) := sign ▸ within_ofInt small (by decide)
  have product : ((ofInt rate).mul factor).Within false (1074 + 27) := base.mul bounded (by decide)
  exact product.truncate

/-! ## Observations -/

theorem rates_active {scenario : Scenario} {numbered : Nat × Flow}
    (member : numbered ∈ Flow.active scenario) :
    numbered.1 ≤ 8 ∧ numbered.2.rates.IsCount ∧
      numbered.2.rates.up.natAbs ≤ 2 ^ 21 ∧ numbered.2.rates.down.natAbs ≤ 2 ^ 21 := by
  revert numbered
  cases scenario <;> decide

/-- What a flow moves in an interval is a count and not too large. -/
theorem isAtMost_of_observe (sineLike : IsSineLike sine) {numbered : Nat × Flow}
    (member : numbered ∈ Flow.active simulator.scenario) {observation : Observation}
    (done : simulator.observe sine numbered.1 numbered.2 = .ok observation) :
    observation.volume.IsAtMost (2 ^ 27) := by
  obtain ⟨-, -, -, factor, factorDone, upDone, downDone⟩ := observe_eq_ok_iff.1 done
  obtain ⟨-, count, upSmall, downSmall⟩ := rates_active member
  have bounded := within_of_factor sineLike factorDone
  obtain ⟨up, upSame, upBound⟩ := exists_amount count.1 upSmall bounded
  obtain ⟨down, downSame, downBound⟩ := exists_amount count.2 downSmall bounded
  constructor
  · rw [Volume.IsCount, Except.ok.inj (upDone.symm.trans upSame),
      Except.ok.inj (downDone.symm.trans downSame)]
    exact ⟨Int.natCast_nonneg up, Int.natCast_nonneg down⟩
  · rw [Except.ok.inj (upDone.symm.trans upSame)]
    exact Int.ofNat_le.2 upBound
  · rw [Except.ok.inj (downDone.symm.trans downSame)]
    exact Int.ofNat_le.2 downBound

/-- The phase of a flow is a double as long as not too many intervals have passed. -/
theorem exists_factor (sine : Double → Double) {index : Nat} (close : index ≤ 8)
    (early : simulator.ticks.natAbs ≤ 2 ^ 1022) :
    ∃ factor, simulator.factor sine index = .ok factor := by
  have phase : (simulator.ticks + index * 3).natAbs ≤ 2 ^ 1023 := by
    have far : 2 ^ 1022 + 24 ≤ 2 ^ 1023 := by decide +kernel
    exact le_trans (by omega) far
  obtain ⟨swing, swingDone⟩ : ∃ swing, wave sine simulator.ticks index = .ok swing :=
    ⟨_, Attempt.bind_eq_ok_iff.2 ⟨_, ofCount_of_natAbs_le phase (by decide), rfl⟩⟩
  simp only [factor, Attempt.bind_eq_ok_iff]
  cases simulator.scenario with
  | burst => exact ⟨_, swing, swingDone, rfl⟩
  | steady => exact ⟨_, swing, swingDone, rfl⟩
  | idle => exact ⟨_, swing, swingDone, rfl⟩

/-- All flows can be observed as long as not too many intervals have passed. -/
theorem exists_observeAll (simulator : Simulator) (sineLike : IsSineLike sine)
    (early : simulator.ticks.natAbs ≤ 2 ^ 1022) :
    ∃ observations,
      simulator.observeAll sine (Flow.active simulator.scenario) = .ok observations := by
  simp only [observeAll, Attempt.mapM_eq_ok_iff]
  apply Attempt.exists_forall₂
  intro numbered member
  obtain ⟨close, count, upSmall, downSmall⟩ := rates_active member
  obtain ⟨factor, factorDone⟩ := exists_factor sine close early
  have bounded := within_of_factor sineLike factorDone
  obtain ⟨up, upDone, -⟩ := exists_amount count.1 upSmall bounded
  obtain ⟨down, downDone, -⟩ := exists_amount count.2 downSmall bounded
  refine ⟨⟨numbered.2.connection, numbered.2.process, numbered.2.interface, ⟨up, down⟩⟩, ?_⟩
  exact observe_eq_ok_iff.2 ⟨rfl, rfl, rfl, factor, factorDone, upDone, downDone⟩

/-- With a sine between minus one and one no flow moves less than nothing. -/
theorem movesCounts_of_isSineLike (sineLike : IsSineLike sine) (simulator : Simulator) :
    simulator.MovesCounts sine :=
  fun _ member _ done => (isAtMost_of_observe sineLike member done).count

end Simulator

/-- A group shows the bytes of its members. -/
theorem Ledger.IsGrouping.volume_eq {κ : Type} [DecidableEq κ]
    {key : Connection × ConnectionUse → κ} {entries : List (Connection × ConnectionUse)}
    {groups : Keyed κ GroupUse} (grouping : IsGrouping key entries groups) {group : κ × GroupUse}
    (member : group ∈ groups.entries) :
    group.2.volume = ((entries.filter (key · = group.1)).map (·.2.volume)).sum := by
  have named : group.1 ∈ entries.map key := by
    rw [← List.mem_eraseDups, ← grouping.keys]
    exact List.mem_map_of_mem member
  have found := Keyed.find?_eq_some_iff.2 member
  rw [grouping.uses _ named] at found
  rw [← Option.some.inj found]

namespace Snapshot.ShowsInterval

variable {sine : Double → Double} {simulator : Simulator} {snapshot : Snapshot}

theorem isAtMost_of_mem (shows : snapshot.ShowsInterval sine simulator)
    (sineLike : Double.IsSineLike sine) {entry : Connection × ConnectionUse}
    (member : entry ∈ snapshot.connections.entries) : entry.2.volume.IsAtMost (2 ^ 27) := by
  obtain ⟨numbered, active, shown⟩ := Attempt.exists_of_mem_right shows.connections member
  have observed : simulator.observe sine numbered.1 numbered.2 =
      .ok ⟨entry.1, entry.2.process, entry.2.interface, entry.2.volume⟩ :=
    Simulator.observe_eq_ok_iff.2
      ⟨shown.connection, shown.process, shown.interface, shown.volume⟩
  exact Simulator.isAtMost_of_observe sineLike active observed

/-- Some of the connections of an interval have rates together. -/
theorem hasRates_sum (shows : snapshot.ShowsInterval sine simulator)
    (sineLike : Double.IsSineLike sine) {part : List (Connection × ConnectionUse)}
    (sublist : part.Sublist snapshot.connections.entries) :
    Volume.HasRates (part.map (·.2.volume)).sum := by
  have few : (Flow.active simulator.scenario).length ≤ 9 := by
    cases simulator.scenario <;> decide
  have sum : Volume.IsAtMost ((part.map (·.2.volume)).length * 2 ^ 27)
      (part.map (·.2.volume)).sum := by
    apply Volume.IsAtMost.sum
    intro volume member
    obtain ⟨entry, entryMember, rfl⟩ := List.mem_map.1 member
    exact shows.isAtMost_of_mem sineLike (sublist.subset entryMember)
  apply sum.hasRates
  calc
    (part.map (·.2.volume)).length * 2 ^ 27 ≤ 9 * 2 ^ 27 := by
      apply Nat.mul_le_mul_right
      rw [List.length_map]
      exact le_trans sublist.length_le (shows.connections.length_eq ▸ few)
    _ ≤ 2 ^ 1023 := by decide +kernel

/-- Everything that an interval shows has rates. -/
theorem hasRates (shows : snapshot.ShowsInterval sine simulator)
    (sineLike : Double.IsSineLike sine) : snapshot.HasRates where
  connections entry member :=
    (shows.isAtMost_of_mem sineLike member).hasRates (by decide +kernel)
  processes group member := by
    rw [shows.processes.volume_eq member]
    exact shows.hasRates_sum sineLike List.filter_sublist
  remotes group member := by
    rw [shows.remotes.volume_eq member]
    exact shows.hasRates_sum sineLike List.filter_sublist
  total := by
    rw [shows.total]
    exact shows.hasRates_sum sineLike (List.Sublist.refl _)

end Snapshot.ShowsInterval

end TrafficBoard
