import TrafficBoard.Proofs.Addresses
import TrafficBoard.Proofs.Dashboard.Sessions
import TrafficBoard.Proofs.Lookup.Abandoned
import TrafficBoard.Proofs.Lookup.Origins

/-!
# Addresses stay on the screen

An address is shown by its own text, which is never empty, until its hostname is known.  The
hostname is what an answer leaves without its last dots, so it is empty exactly if the answer
has no label: then it consists of dots, like the name of the root.

Such an answer is the only way for an address to vanish.  The tables then have an empty cell for
it, and the texts of its connections have nothing between the arrow and the colon of the port.
-/

namespace TrafficBoard

/-- The answer is a name without labels, so that it consists of dots. -/
def LookupOutcome.HasNoLabel : LookupOutcome → Prop
  | .name text => ∀ c ∈ text.toList, c = '.'
  | .failure _ => False
  | .surprise _ => False

/-- A lookup finds the empty hostname exactly if its answer has no label. -/
theorem Resolver.hostname?_eq_some_empty_iff {outcome : LookupOutcome} :
    hostname? outcome = some "" ↔ outcome.HasNoLabel := by
  cases outcome with
  | name text => simp [hostname?, LookupOutcome.HasNoLabel, List.rdropWhile_eq_nil_iff]
  | failure reason | surprise reason => simp [hostname?, LookupOutcome.HasNoLabel]

/-- The empty hostname comes from an answer without label. -/
theorem Resolver.RecordsFrom.exists_hasNoLabel {possible : Address → LookupOutcome → Prop}
    {resolver : Resolver} (records : resolver.RecordsFrom possible) {address : Address}
    (empty : resolver.cache.find? address = some "") :
    ∃ outcome, possible address outcome ∧ outcome.HasNoLabel := by
  obtain ⟨outcome, may, name⟩ := records.cached address "" empty
  exact ⟨outcome, may, hostname?_eq_some_empty_iff.1 name⟩

/-- An address is shown by nothing exactly if it is known by the empty hostname. -/
theorem Address.display_eq_empty_iff {address : Address} {hostnames : Hostnames} :
    address.display hostnames = "" ↔ hostnames.find? address = some "" := by
  cases found : hostnames.find? address with
  | none => simp [display, found, text_ne_empty]
  | some host => simp [display, found]

/-- Whatever is shown with these hostnames, an address is shown by a name that is not empty: in
the texts of its connections, in its row among the remote addresses, and in the rows of its
connections. -/
structure Hostnames.Shows (hostnames : Hostnames) (address : Address) : Prop where
  hostname : ∀ host, hostnames.find? address = some host → host ≠ ""
  text : ∀ (connection : Connection) (interface : String), connection.address = address →
    ∃ name, name ≠ "" ∧
      connection.display hostnames interface = connection.displayAs name interface
  remotes : ∀ snapshot table, Utilization.remotes snapshot hostnames = .ok table →
    List.Forall₂
      (fun entry cells => entry.1 = address → ∃ name, name ≠ "" ∧ cells.head? = some name)
      (busiestFirst (·.2.volume) snapshot.remotes.entries) table.rows
  connections : ∀ snapshot table, Utilization.connections snapshot hostnames = .ok table →
    List.Forall₂
      (fun entry cells => entry.1.address = address →
        ∃ name, name ≠ "" ∧ cells.head? = some (entry.1.displayAs name entry.2.interface))
      (busiestFirst (·.2.volume) snapshot.connections.entries) table.rows

/-- An address is shown unless it is known by the empty hostname. -/
theorem Hostnames.shows_iff {hostnames : Hostnames} {address : Address} :
    hostnames.Shows address ↔ hostnames.find? address ≠ some "" := by
  constructor
  · intro shows empty
    exact shows.hostname "" empty rfl
  · intro notEmpty
    have named : address.display hostnames ≠ "" := by
      intro nothing
      exact notEmpty (Address.display_eq_empty_iff.1 nothing)
    constructor
    · intro host found empty
      rw [found, empty] at notEmpty
      exact notEmpty rfl
    · intro connection interface same
      refine ⟨_, named, ?_⟩
      rw [Connection.display_eq, same]
    · intro snapshot table made
      obtain ⟨rows, listed, rfl⟩ := Utilization.remotes_eq_ok_iff.1 made
      refine (Tables.forall₂_head?_cells listed).imp ?_
      intro entry cells shown same
      exact ⟨_, named, same ▸ shown⟩
    · intro snapshot table made
      obtain ⟨rows, listed, rfl⟩ := Utilization.connections_eq_ok_iff.1 made
      refine (Tables.forall₂_head?_cells listed).imp ?_
      intro entry cells shown same
      refine ⟨_, named, ?_⟩
      rw [shown, Connection.display_eq, same]

/-! ## All runs of the lookups -/

namespace Lookup.Interrupted

variable {possible : Address → LookupOutcome → Prop} {interrupted next : Interrupted}

/-- Refusals and shutdowns record nothing. -/
theorem origins_step (origins : Origins possible interrupted.state)
    (step : Step possible interrupted next) : Origins possible next.state := by
  cases step with
  | work step => exact origins.step step
  | refuse caller => exact ⟨origins.records, origins.answered⟩
  | shutdown => exact ⟨origins.records, origins.answered⟩

theorem origins_of_steps {enabled : Bool} (run : Steps possible (.start enabled) interrupted) :
    Origins possible interrupted.state := by
  induction run with
  | refl => exact .start enabled
  | tail _ step ih => exact origins_step ih step

/-- Requests, lookups, refusals and shutdowns may interleave in any way.  If the name service has
one answer for each address, then at every moment an address is shown, unless it is cached and
its answer has no label.  Whatever answers are possible, an address is shown at every moment of
every run exactly if each answer that is possible for it has a label. -/
theorem address_is_shown_unless_answer_has_no_label (address : Address) :
    (∀ (answers : Address → LookupOutcome) (enabled : Bool) (interrupted : Interrupted),
      Steps (AnswersOf answers) (.start enabled) interrupted →
        (interrupted.state.resolver.cache.Shows address ↔
          (address ∈ interrupted.state.resolver.cache.keys → ¬(answers address).HasNoLabel))) ∧
    ∀ possible : Address → LookupOutcome → Prop,
      (∀ (enabled : Bool) (interrupted : Interrupted),
        Steps possible (.start enabled) interrupted →
          interrupted.state.resolver.cache.Shows address) ↔
        ∀ outcome, possible address outcome → ¬outcome.HasNoLabel := by
  constructor
  · intro answers enabled interrupted run
    have records := (origins_of_steps run).records
    rw [Hostnames.shows_iff]
    constructor
    · intro notEmpty cached noLabel
      obtain ⟨host, found⟩ := Option.isSome_iff_exists.1 (Keyed.find?_isSome_iff.2 cached)
      obtain ⟨outcome, rfl, name⟩ := records.cached address host found
      rw [found, ← name] at notEmpty
      exact notEmpty (Resolver.hostname?_eq_some_empty_iff.2 noLabel)
    · intro labelled empty
      obtain ⟨outcome, rfl, noLabel⟩ := records.exists_hasNoLabel empty
      refine labelled ?_ noLabel
      rw [← Keyed.find?_isSome_iff, empty]
      rfl
  · intro possible
    constructor
    · intro always outcome may noLabel
      obtain ⟨state, run, empty⟩ :=
        exists_steps_cached may (Resolver.hostname?_eq_some_empty_iff.2 noLabel)
      have shown := always true ⟨state, [], []⟩ (steps_work run [] [])
      exact Hostnames.shows_iff.1 shown empty
    · intro labelled enabled interrupted run
      rw [Hostnames.shows_iff]
      intro empty
      obtain ⟨outcome, may, noLabel⟩ := (origins_of_steps run).records.exists_hasNoLabel empty
      exact labelled outcome may noLabel

end Lookup.Interrupted

namespace LookupService

/-- A service is told the name of the root.  It keeps the empty hostname, with which the text of
a connection has no host and the row of the address begins with an empty cell. -/
theorem root_name_hides_address :
    let address : Address := .four 10 0 0 1
    let connection : Connection := ⟨address, 443, .tcp, 5000⟩
    let snapshot := (Ledger.empty.add ⟨connection, "ssh", "eth0", ⟨1, 1⟩⟩).snapshot
    let service := ((withExecutor .immediate true).request (fun _ => .name ".") [address]).1
    service.hostnames.find? address = some "" ∧
      ¬service.hostnames.Shows address ∧
      connection.display service.hostnames "eth0" = "<eth0>:5000 => :443 (tcp)" ∧
      ∃ table, Utilization.remotes snapshot service.hostnames = .ok table ∧
        table.rows = [["", "1", "1Bps / 1Bps"]] := by
  intro address connection snapshot service
  have empty : service.hostnames.find? address = some "" := by decide
  have rates : (⟨1, 1⟩ : Volume).rateText = .ok "1Bps / 1Bps" := by decide +kernel
  have listed : Utilization.Lists (fun entry => entry.1.display service.hostnames)
      (fun entry => toString entry.2.connections) (·.2.volume)
      (busiestFirst (·.2.volume) snapshot.remotes.entries) [⟨"", "1", "1Bps / 1Bps"⟩] := by
    have one : busiestFirst (·.2.volume) snapshot.remotes.entries = [(address, ⟨⟨1, 1⟩, 1⟩)] :=
      List.mergeSort_singleton _
    rw [one]
    exact .cons ⟨(Address.display_eq_empty_iff.2 empty).symm, by decide, rates⟩ .nil
  refine ⟨empty, ?_, by decide, _, Utilization.remotes_eq_ok_iff.2 ⟨_, listed, rfl⟩, rfl⟩
  intro shown
  exact Hostnames.shows_iff.1 shown empty

/-! ## Frames of a session -/

variable {possible : Address → LookupOutcome → Prop} {service : LookupService}

/-- What a service records on an event are outcomes that are possible. -/
theorem Reachable.recordsFrom_handle (reachable : service.Reachable)
    (records : service.resolver.RecordsFrom possible) {answers : Address → LookupOutcome}
    (may : ∀ address, possible address (answers address)) (event : Event) :
    (service.handle answers event).resolver.RecordsFrom possible := by
  obtain ⟨enabled, requested, state, run, represents, idle⟩ := reachable
  have distinct := represents.queue ▸ (Lookup.consistent_of_steps run).queue_nodup
  obtain ⟨later, more, laterRepresents, -⟩ :=
    Lookup.exists_steps_handle answers represents idle distinct event
  have origins : Lookup.Origins possible state := by
    constructor
    · rw [represents.resolver]
      exact records
    · intro address outcome member
      rw [represents.workers] at member
      cases member
  have given : ∀ address outcome,
      Lookup.AnswersOf answers address outcome → possible address outcome := by
    rintro address outcome rfl
    exact may address
  rw [← laterRepresents.resolver]
  exact (origins.steps (Lookup.Steps.mono given more)).records

end LookupService

namespace Board

/-- Whether the answers of the name service at an event are possible. -/
def Event.AnswersFrom (possible : Address → LookupOutcome → Prop) : Event → Prop
  | .frame answers => ∀ address, possible address (answers address)
  | .lookups answers _ => ∀ address, possible address (answers address)
  | .ledger _ => True
  | .tick => True

/-- The lookup service of a board, if there is one, was used as intended and was given possible
outcomes. -/
def LooksUpFrom (possible : Address → LookupOutcome → Prop) (board : Board) : Prop :=
  ∀ service ∈ board.lookups, service.Reachable ∧ service.resolver.RecordsFrom possible

variable {possible : Address → LookupOutcome → Prop} {board : Board}
variable (sine : Double → Double) (theme : Theme)

theorem looksUpFrom_of_lookups_handle {next : Board} {answers : Address → LookupOutcome}
    {event : LookupService.Event} (looksUp : board.LooksUpFrom possible)
    (may : ∀ address, possible address (answers address))
    (handled : next.lookups = board.lookups.map (·.handle answers event)) :
    next.LooksUpFrom possible := by
  intro later member
  rw [handled] at member
  obtain ⟨service, found, rfl⟩ := Option.map_eq_some_iff.1 member
  obtain ⟨reachable, records⟩ := looksUp service found
  exact ⟨(reachable.handle answers event).1, reachable.recordsFrom_handle records may event⟩

theorem looksUpFrom_perform (looksUp : board.LooksUpFrom possible) {event : Event}
    (may : event.AnswersFrom possible) :
    (board.perform sine theme event).1.LooksUpFrom possible := by
  cases event with
  | ledger operation => exact looksUp
  | tick => exact looksUp
  | frame answers => exact looksUpFrom_of_lookups_handle looksUp may (lookups_frame theme answers)
  | lookups answers event => exact looksUpFrom_of_lookups_handle looksUp may rfl

/-- If the name service gives no answer without label for an address in a session, then the
address never vanishes: every frame names it by its text or by a hostname that is not empty. -/
theorem frames_show_labelled_address (scenario : Scenario) {lookups : Option LookupService}
    (fresh : ∀ service ∈ lookups, service.IsFresh) {events : List Event} {address : Address}
    (labelled : ∀ event ∈ events,
      event.AnswersFrom fun other outcome => other = address → ¬outcome.HasNoLabel)
    {showing : Showing} (member : showing ∈ (start scenario lookups).showings sine theme events)
    {frame : Frame} (shown : showing.outcome.result = .ok frame) :
    ∃ name, name ≠ "" ∧ frame.tables.DrawAs showing.before.snapshot address name := by
  have first : (start scenario lookups).LooksUpFrom
      fun other outcome => other = address → ¬outcome.HasNoLabel := by
    intro service found
    refine ⟨(fresh service found).reachable, ?_⟩
    rw [(fresh service found).resolver]
    exact .start _
  have looksUp := holds_of_mem_showings sine theme (LooksUpFrom _)
    (fun _ event inSession holds => looksUpFrom_perform sine theme holds (labelled event inSession))
    first member
  have named : address.display showing.before.hostnames ≠ "" := by
    intro nothing
    have empty := Address.display_eq_empty_iff.1 nothing
    cases found : showing.before.lookups with
    | none =>
        rw [hostnames, found] at empty
        cases empty
    | some service =>
        rw [hostnames, found] at empty
        obtain ⟨outcome, hasLabel, noLabel⟩ := (looksUp service found).2.exists_hasNoLabel empty
        exact hasLabel rfl noLabel
  obtain ⟨answers, same⟩ := exists_frame_of_mem_showings sine theme member
  rw [same] at shown
  exact ⟨_, named, Tables.drawAs_display (frame_eq_ok_iff.1 shown).1 address⟩

end Board

end TrafficBoard
