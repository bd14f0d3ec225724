import TrafficBoard.Dashboard.Board
import TrafficBoard.Proofs.Table.Listing

/-!
# What a frame is made of

A frame shows the tables of one snapshot, made with the hostnames of one moment, so it
shows one name for each address.  It can be made whenever every volume of the snapshot
has its rates.
-/

namespace TrafficBoard

/-- The text of a connection on an interface, with a name for its address. -/
def Connection.displayAs (connection : Connection) (name interface : String) : String :=
  "<" ++ interface ++ ">:" ++ toString connection.localPort ++ " => " ++ name ++ ":" ++
    toString connection.port ++ " (" ++ connection.protocol.text ++ ")"

theorem Connection.display_eq (connection : Connection) (hostnames : Hostnames)
    (interface : String) :
    connection.display hostnames interface =
      connection.displayAs (connection.address.display hostnames) interface := rfl

namespace Tables

/-- Wherever the tables of a snapshot show an address, they show this name for it. -/
structure DrawAs (tables : Tables) (snapshot : Snapshot) (address : Address) (name : String) :
    Prop where
  connections :
    List.Forall₂ (fun entry cells => entry.1.address = address →
        cells.head? = some (entry.1.displayAs name entry.2.interface))
      (busiestFirst (·.2.volume) snapshot.connections.entries) tables.connections.rows
  remotes :
    List.Forall₂ (fun entry cells => entry.1 = address → cells.head? = some name)
      (busiestFirst (·.2.volume) snapshot.remotes.entries) tables.remotes.rows

theorem ofSnapshot_eq_ok_iff {snapshot : Snapshot} {hostnames : Hostnames} {tables : Tables} :
    ofSnapshot snapshot hostnames = .ok tables ↔
      Utilization.processes snapshot = .ok tables.processes ∧
        Utilization.connections snapshot hostnames = .ok tables.connections ∧
        Utilization.remotes snapshot hostnames = .ok tables.remotes := by
  simp only [ofSnapshot, Attempt.bind_eq_ok_iff]
  constructor
  · rintro ⟨processes, processesDone, connections, connectionsDone, remotes, remotesDone, same⟩
    cases same
    exact ⟨processesDone, connectionsDone, remotesDone⟩
  · rintro ⟨processesDone, connectionsDone, remotesDone⟩
    exact ⟨_, processesDone, _, connectionsDone, _, remotesDone, rfl⟩

/-- The rows of listed entries begin with the first texts of the entries. -/
theorem forall₂_head?_cells {α : Type} {first second : α → String} {volume : α → Volume}
    {entries : List α} {rows : List Utilization.Row}
    (listed : Utilization.Lists first second volume entries rows) :
    List.Forall₂ (fun entry cells => cells.head? = some (first entry)) entries
      (rows.map Utilization.Row.cells) := by
  rw [List.forall₂_map_right_iff]
  exact listed.imp fun _ _ shown => congrArg some shown.1

/-- The tables made with some hostnames show each address by the name it has there. -/
theorem drawAs_display {snapshot : Snapshot} {hostnames : Hostnames} {tables : Tables}
    (made : ofSnapshot snapshot hostnames = .ok tables) (address : Address) :
    tables.DrawAs snapshot address (address.display hostnames) := by
  obtain ⟨-, connectionsDone, remotesDone⟩ := ofSnapshot_eq_ok_iff.1 made
  obtain ⟨connectionRows, connectionsListed, connectionsSame⟩ :=
    Utilization.connections_eq_ok_iff.1 connectionsDone
  obtain ⟨remoteRows, remotesListed, remotesSame⟩ := Utilization.remotes_eq_ok_iff.1 remotesDone
  constructor
  · rw [connectionsSame]
    refine (forall₂_head?_cells connectionsListed).imp fun entry cells shown same => ?_
    rw [shown, Connection.display_eq, same]
  · rw [remotesSame]
    refine (forall₂_head?_cells remotesListed).imp fun entry cells shown same => ?_
    rw [shown, same]

end Tables

theorem Tables.exists_ofSnapshot {snapshot : Snapshot} (rates : snapshot.HasRates)
    (hostnames : Hostnames) : ∃ tables, ofSnapshot snapshot hostnames = .ok tables := by
  obtain ⟨processes, processesListed⟩ :=
    Utilization.exists_lists snapshot.processes.entries (·.1)
      (fun entry => toString entry.2.connections) (·.2.volume) rates.processes
  obtain ⟨connections, connectionsListed⟩ :=
    Utilization.exists_lists snapshot.connections.entries
      (fun entry => entry.1.display hostnames entry.2.interface) (·.2.process) (·.2.volume)
      rates.connections
  obtain ⟨remotes, remotesListed⟩ :=
    Utilization.exists_lists snapshot.remotes.entries
      (fun entry => entry.1.display hostnames) (fun entry => toString entry.2.connections)
      (·.2.volume) rates.remotes
  have processesDone := Utilization.processes_eq_ok_iff.2 ⟨processes, processesListed, rfl⟩
  have connectionsDone :=
    Utilization.connections_eq_ok_iff.2 ⟨connections, connectionsListed, rfl⟩
  have remotesDone := Utilization.remotes_eq_ok_iff.2 ⟨remotes, remotesListed, rfl⟩
  exact ⟨⟨_, _, _⟩, ofSnapshot_eq_ok_iff.2 ⟨processesDone, connectionsDone, remotesDone⟩⟩

theorem Banner.exists_header (theme : Theme) {total : Volume} (rates : total.HasRates) :
    ∃ banner, header theme total = .ok banner := by
  obtain ⟨text, done⟩ := rates
  obtain ⟨up, upDone, rest⟩ := Attempt.bind_eq_ok_iff.1 done
  obtain ⟨down, downDone, -⟩ := Attempt.bind_eq_ok_iff.1 rest
  exact ⟨_, Attempt.bind_eq_ok_iff.2 ⟨up, upDone, Attempt.bind_eq_ok_iff.2 ⟨down, downDone, rfl⟩⟩⟩

theorem Banner.hasRates_of_header {theme : Theme} {total : Volume} {banner : Banner}
    (made : header theme total = .ok banner) : total.HasRates := by
  obtain ⟨up, upDone, rest⟩ := Attempt.bind_eq_ok_iff.1 made
  obtain ⟨down, downDone, -⟩ := Attempt.bind_eq_ok_iff.1 rest
  exact ⟨_, Attempt.bind_eq_ok_iff.2 ⟨up, upDone, Attempt.bind_eq_ok_iff.2 ⟨down, downDone, rfl⟩⟩⟩

namespace Board

/-- A frame is made of the snapshot and the hostnames of its moment; only the footer
is made after the lookups of the frame were requested. -/
theorem frame_eq_ok_iff {theme : Theme} {answers : Address → LookupOutcome} {board : Board}
    {frame : Frame} :
    (board.frame theme answers).result = .ok frame ↔
      Tables.ofSnapshot board.snapshot board.hostnames = .ok frame.tables ∧
        Banner.header theme board.snapshot.total = .ok frame.header ∧
        frame.footer = (board.frame theme answers).board.footer theme := by
  simp only [Board.frame, Board.tables, Board.header, Attempt.bind_eq_ok_iff]
  constructor
  · rintro ⟨tables, tablesDone, header, headerDone, same⟩
    cases same
    exact ⟨tablesDone, headerDone, rfl⟩
  · rintro ⟨tablesDone, headerDone, footer⟩
    refine ⟨_, tablesDone, _, headerDone, ?_⟩
    rw [← footer]
    rfl

/-- The frame of a snapshot can be made if all its volumes have rates. -/
theorem exists_frame (theme : Theme) (answers : Address → LookupOutcome) (board : Board)
    (rates : board.snapshot.HasRates) :
    ∃ frame, (board.frame theme answers).result = .ok frame := by
  obtain ⟨tables, tablesDone⟩ := Tables.exists_ofSnapshot rates board.hostnames
  obtain ⟨header, headerDone⟩ := Banner.exists_header theme rates.total
  exact ⟨⟨header, _, tables⟩, frame_eq_ok_iff.2 ⟨tablesDone, headerDone, rfl⟩⟩

end Board

end TrafficBoard
