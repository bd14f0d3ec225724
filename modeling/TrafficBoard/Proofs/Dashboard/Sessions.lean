import TrafficBoard.Proofs.Dashboard.Frames
import TrafficBoard.Proofs.Lookup.Kept
import TrafficBoard.Proofs.Traffic.History

/-!
# Names on the screen

A session does anything to a board, in any order: its ledger is used, intervals of traffic
are made, frames are shown, and lookups are requested and completed.  The name service may
answer differently each time.

Every frame is made of the names known before it.  A name that was known once stays, so
what is drawn for an address changes at most once, from its text to its hostname.
-/

namespace TrafficBoard

namespace Board

/-- What happens in a session.  The name service has its answers at each time. -/
inductive Event where
  | ledger (operation : Ledger.Operation)
  | tick
  | frame (answers : Address → LookupOutcome)
  | lookups (answers : Address → LookupOutcome) (event : LookupService.Event)

/-- A frame that a session showed, or tried to show: the board right before it, and what
came of it. -/
structure Showing where
  before : Board
  outcome : Outcome Frame

variable (sine : Double → Double) (theme : Theme)

/-- The board after an event, and the frame that was shown, if any. -/
def perform (board : Board) : Event → Board × Option Showing
  | .ledger operation => ({ board with ledger := (board.ledger.perform operation).1 }, none)
  | .tick => ((board.tick sine).1, none)
  | .frame answers =>
      let outcome := board.frame theme answers
      (outcome.board, some ⟨board, outcome⟩)
  | .lookups answers event =>
      ({ board with lookups := board.lookups.map (·.handle answers event) }, none)

/-- The frames of a session, first to last. -/
def showings (board : Board) : List Event → List Showing
  | [] => []
  | event :: rest =>
      let (next, shown) := board.perform sine theme event
      shown.toList ++ next.showings rest

/-- What a session shows are frames of boards. -/
theorem exists_frame_of_mem_showings {board : Board} {events : List Event} {showing : Showing}
    (member : showing ∈ board.showings sine theme events) :
    ∃ answers, showing.outcome = showing.before.frame theme answers := by
  induction events generalizing board with
  | nil => cases member
  | cons event rest ih =>
      rcases List.mem_append.1 member with shown | later
      · cases event with
        | frame answers =>
            cases List.mem_singleton.1 shown
            exact ⟨answers, rfl⟩
        | ledger | tick | lookups => cases shown
      · exact ih later

/-- What holds of the first board and is kept by each event holds before every frame. -/
theorem holds_of_mem_showings (property : Board → Prop) {events : List Event}
    (keeps : ∀ board, ∀ event ∈ events,
      property board → property (board.perform sine theme event).1)
    {board : Board} (holds : property board) {showing : Showing}
    (member : showing ∈ board.showings sine theme events) : property showing.before := by
  induction events generalizing board with
  | nil => cases member
  | cons event rest ih =>
      rcases List.mem_append.1 member with shown | later
      · cases event with
        | frame answers =>
            cases List.mem_singleton.1 shown
            exact holds
        | ledger | tick | lookups => cases shown
      · have next := keeps board event List.mem_cons_self holds
        apply ih _ next later
        intro other event inRest
        exact keeps other event (List.mem_cons_of_mem _ inRest)

/-! ## Names are kept -/

/-- Whether the lookup service of a board, if there is one, was used as intended. -/
def HasReachableLookups (board : Board) : Prop := ∀ service ∈ board.lookups, service.Reachable

/-- The hostnames known to one board are known to a later one. -/
def NamesKept (earlier later : Board) : Prop :=
  ∀ address host, earlier.hostnames.find? address = some host →
    later.hostnames.find? address = some host

theorem NamesKept.trans {earlier later last : Board} (first : earlier.NamesKept later)
    (second : later.NamesKept last) : earlier.NamesKept last :=
  fun address host known => second address host (first address host known)

variable {board next : Board}

theorem namesKept_of_lookups_eq (same : next.lookups = board.lookups) : board.NamesKept next := by
  intro address host known
  rw [hostnames, same]
  exact known

/-- Names are kept by whatever the lookup service does. -/
theorem namesKept_of_lookups_handle {answers : Address → LookupOutcome}
    {event : LookupService.Event} (reachable : board.HasReachableLookups)
    (handled : next.lookups = board.lookups.map (·.handle answers event)) :
    next.HasReachableLookups ∧ board.NamesKept next := by
  cases found : board.lookups with
  | none =>
      rw [found] at handled
      constructor
      · intro service member
        rw [handled] at member
        cases member
      · exact namesKept_of_lookups_eq (handled.trans found.symm)
  | some service =>
      rw [found] at handled
      obtain ⟨reached, kept⟩ := (reachable service found).handle answers event
      constructor
      · intro later member
        rw [handled] at member
        cases member
        exact reached
      · intro address host known
        rw [hostnames, found] at known
        rw [hostnames, handled]
        exact kept.name address host known

/-- A frame requests the addresses of its snapshot. -/
theorem lookups_frame (answers : Address → LookupOutcome) :
    (board.frame theme answers).board.lookups =
      board.lookups.map (·.handle answers (.request board.snapshot.remotes.keys)) := by
  simp only [Board.frame, Board.tables, Board.request]
  cases found : board.lookups with
  | none => exact found
  | some service => rfl

/-- Every event keeps the names. -/
theorem namesKept_perform (reachable : board.HasReachableLookups) (event : Event) :
    (board.perform sine theme event).1.HasReachableLookups ∧
      board.NamesKept (board.perform sine theme event).1 := by
  cases event with
  | ledger operation => exact ⟨reachable, namesKept_of_lookups_eq rfl⟩
  | tick => exact ⟨reachable, namesKept_of_lookups_eq rfl⟩
  | frame answers => exact namesKept_of_lookups_handle reachable (lookups_frame theme answers)
  | lookups answers event => exact namesKept_of_lookups_handle reachable rfl

theorem namesKept_of_mem_showings {events : List Event} (reachable : board.HasReachableLookups)
    {showing : Showing} (member : showing ∈ board.showings sine theme events) :
    board.NamesKept showing.before := by
  have both := holds_of_mem_showings sine theme
    (fun later => later.HasReachableLookups ∧ board.NamesKept later)
    (fun later event _ already => by
      obtain ⟨reached, kept⟩ := namesKept_perform sine theme already.1 event
      exact ⟨reached, already.2.trans kept⟩)
    ⟨reachable, namesKept_of_lookups_eq rfl⟩ member
  exact both.2

/-- Each frame of a session keeps the names of all earlier ones. -/
theorem pairwise_showings (events : List Event) (reachable : board.HasReachableLookups) :
    (board.showings sine theme events).Pairwise fun earlier later =>
      earlier.before.NamesKept later.before := by
  induction events generalizing board with
  | nil => exact .nil
  | cons event rest ih =>
      obtain ⟨reached, kept⟩ := namesKept_perform sine theme reachable event
      refine List.pairwise_append.2 ⟨?_, ih reached, ?_⟩
      · cases event with
        | frame answers => exact List.pairwise_singleton _ _
        | ledger | tick | lookups => exact .nil
      · intro showing shown later member
        cases event with
        | frame answers =>
            cases List.mem_singleton.1 shown
            exact kept.trans (namesKept_of_mem_showings sine theme reached member)
        | ledger | tick | lookups => cases shown

/-- If later members of a list keep the value of earlier ones, then the value appears at one
place at most, and from there on it is the same. -/
theorem exists_change_of_pairwise {α β : Type} [Inhabited β] (value : α → Option β)
    {items : List α}
    (kept : items.Pairwise fun earlier later =>
      ∀ found, value earlier = some found → value later = some found) :
    ∃ (change : Nat) (found : β), ∀ (index : Nat) (item : α), items[index]? = some item →
      value item = if index < change then none else some found := by
  induction items with
  | nil => exact ⟨0, default, fun _ _ member => by cases member⟩
  | cons first rest ih =>
      obtain ⟨fromFirst, later⟩ := List.pairwise_cons.1 kept
      cases start : value first with
      | some found =>
          refine ⟨0, found, fun index item member => ?_⟩
          rcases List.mem_cons.1 (List.mem_of_getElem? member) with rfl | inRest
          · exact start
          · exact fromFirst item inRest found start
      | none =>
          obtain ⟨change, found, shape⟩ := ih later
          refine ⟨change + 1, found, fun index item member => ?_⟩
          cases index with
          | zero =>
              cases member
              exact start
          | succ index =>
              rw [shape index item member]
              simp only [Nat.add_lt_add_iff_right]

/-- Whatever a session does, its frames are made of their own snapshots and of the
hostnames known before them; a frame shows one name for each address; an address that a
frame shows by its hostname has this hostname in all later frames; and the name of an
address changes at most once, from its text to one hostname. -/
theorem names_never_flip (scenario : Scenario) {lookups : Option LookupService}
    (fresh : ∀ service ∈ lookups, service.IsFresh) (events : List Event) :
    let showings := (start scenario lookups).showings sine theme events
    (∀ showing ∈ showings, ∀ frame, showing.outcome.result = .ok frame ↔
      Utilization.processes showing.before.snapshot = .ok frame.tables.processes ∧
      Utilization.connections showing.before.snapshot showing.before.hostnames =
        .ok frame.tables.connections ∧
      Utilization.remotes showing.before.snapshot showing.before.hostnames =
        .ok frame.tables.remotes ∧
      Banner.header theme showing.before.snapshot.total = .ok frame.header ∧
      frame.footer = showing.outcome.board.footer theme) ∧
    (∀ showing ∈ showings, ∀ frame, showing.outcome.result = .ok frame →
      ∀ address, frame.tables.DrawAs showing.before.snapshot address
        (address.display showing.before.hostnames)) ∧
    (showings.Pairwise fun earlier later => ∀ address host,
      earlier.before.hostnames.find? address = some host →
        later.before.hostnames.find? address = some host ∧
        ∀ frame, later.outcome.result = .ok frame →
          frame.tables.DrawAs later.before.snapshot address host) ∧
    ∀ address, ∃ (change : Nat) (host : String), ∀ (index : Nat) (showing : Showing),
      showings[index]? = some showing →
        showing.before.hostnames.find? address = (if index < change then none else some host) ∧
        ∀ frame, showing.outcome.result = .ok frame →
          frame.tables.DrawAs showing.before.snapshot address
            (if index < change then address.text else host) := by
  intro showings
  have reachable : (start scenario lookups).HasReachableLookups :=
    fun service member => (fresh service member).reachable
  have kept := pairwise_showings sine theme events reachable
  have frames : ∀ showing ∈ showings, ∀ frame, showing.outcome.result = .ok frame ↔
      Tables.ofSnapshot showing.before.snapshot showing.before.hostnames = .ok frame.tables ∧
        Banner.header theme showing.before.snapshot.total = .ok frame.header ∧
        frame.footer = showing.outcome.board.footer theme := by
    intro showing member frame
    obtain ⟨answers, same⟩ := exists_frame_of_mem_showings sine theme member
    rw [same]
    exact frame_eq_ok_iff
  have drawn : ∀ showing ∈ showings, ∀ frame, showing.outcome.result = .ok frame →
      ∀ address, frame.tables.DrawAs showing.before.snapshot address
        (address.display showing.before.hostnames) :=
    fun showing member frame shown => Tables.drawAs_display ((frames showing member frame).1 shown).1
  refine ⟨?_, drawn, ?_, ?_⟩
  · intro showing member frame
    rw [frames showing member frame, Tables.ofSnapshot_eq_ok_iff, and_assoc, and_assoc]
  · refine kept.imp_of_mem fun earlierMember laterMember namesKept address host known => ?_
    have still := namesKept address host known
    refine ⟨still, fun frame shown => ?_⟩
    have name := drawn _ laterMember frame shown address
    rw [Address.display, still] at name
    exact name
  · intro address
    obtain ⟨change, host, shape⟩ := exists_change_of_pairwise
      (fun showing : Showing => showing.before.hostnames.find? address)
      (kept.imp fun namesKept => namesKept address)
    refine ⟨change, host, fun index showing member => ⟨shape index showing member, ?_⟩⟩
    intro frame shown
    have name := drawn showing (List.mem_of_getElem? member) frame shown address
    rw [Address.display, shape index showing member] at name
    split at name
    · next early =>
        rw [if_pos early]
        exact name
    · next late =>
        rw [if_neg late]
        exact name

/-- Lookups that run at once find a name while the first frame is made.  It still shows the
address, and only the second one shows the hostname. -/
theorem names_never_flip_inline :
    let address : Address := .four 10 0 0 1
    let seen : Observation := ⟨⟨address, 443, .tcp, 50000⟩, "ssh", "eth0", ⟨0, 0⟩⟩
    let service := LookupService.withExecutor .immediate true
    let events : List Event := [.ledger (.record seen),
      .frame fun _ => .name "one.example.", .frame fun _ => .name "two.example."]
    ∃ first second : Showing,
      (start .idle (some service)).showings id .orange events = [first, second] ∧
      (∃ frame, first.outcome.result = .ok frame ∧
        frame.tables.DrawAs first.before.snapshot address "10.0.0.1") ∧
      ∃ frame, second.outcome.result = .ok frame ∧
        frame.tables.DrawAs second.before.snapshot address "one.example" := by
  intro address seen service events
  have fresh : ∀ given ∈ some service, given.IsFresh := by
    intro given member
    cases member
    exact ⟨rfl, rfl, rfl⟩
  obtain ⟨-, drawn, -⟩ := names_never_flip id .orange .idle fresh events
  have zero : (⟨0, 0⟩ : Volume).HasRates := ⟨"0Bps / 0Bps", by decide +kernel⟩
  have rates : (Ledger.empty.add seen).snapshot.HasRates := by
    constructor
    · intro entry member
      cases List.mem_singleton.1 member
      exact zero
    · intro entry member
      cases List.mem_singleton.1 member
      exact zero
    · intro entry member
      cases List.mem_singleton.1 member
      exact zero
    · exact zero
  refine ⟨_, _, rfl, ?_, ?_⟩
  · obtain ⟨frame, shown⟩ := exists_frame .orange (fun _ => .name "one.example.")
      ⟨Ledger.empty.add seen, .start .idle, some service⟩ rates
    exact ⟨frame, shown, drawn _ List.mem_cons_self frame shown address⟩
  · obtain ⟨frame, shown⟩ := exists_frame .orange (fun _ => .name "two.example.")
      ⟨Ledger.empty.add seen, .start .idle, _⟩ rates
    exact ⟨frame, shown, drawn _ (List.mem_cons_of_mem _ List.mem_cons_self) frame shown address⟩

end Board

end TrafficBoard
