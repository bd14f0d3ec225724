import TrafficBoard.Dashboard.Frame
import TrafficBoard.Lookup.Service
import TrafficBoard.Traffic.Simulator
import TrafficBoard.Settings.Basic

/-!
# The board

The board joins the ledger, the generator of its traffic and the lookup service.
A frame takes one snapshot of the ledger. It uses the hostnames known before it
asks for those of its own addresses, so a name that it causes to be found
appears in a later frame.
-/

namespace TrafficBoard

/-- The appearance that settings ask for. -/
def Settings.appearance (settings : Settings) : Appearance where
  theme := Theme.ofName settings.theme
  limits := ⟨settings.heightBreakpoint, settings.widthBreakpoint, settings.wideBreakpoint⟩

/-- Everything that changes while the dashboard runs. -/
structure Board where
  ledger : Ledger
  simulator : Simulator
  lookups : Option LookupService

namespace Board

/-- A board before its first interval. -/
def start (scenario : Scenario) (lookups : Option LookupService) : Board :=
  ⟨.empty, .start scenario, lookups⟩

/-- The snapshot of this moment. -/
def snapshot (board : Board) : Snapshot := board.ledger.snapshot

/-- The hostnames known at this moment. -/
def hostnames (board : Board) : Hostnames :=
  match board.lookups with
  | some service => service.hostnames
  | none => .empty

/-- Ask for the hostnames of addresses. -/
def request (answers : Address → LookupOutcome) (board : Board) (addresses : List Address) :
    Board × List LogNote :=
  match board.lookups with
  | some service =>
      let (service, notes) := service.request answers addresses
      ({ board with lookups := some service }, notes)
  | none => (board, [])

/-- Run the lookups that wait. -/
def completeLookups (answers : Address → LookupOutcome) (board : Board) : Board × List LogNote :=
  match board.lookups with
  | some service =>
      let (service, notes) := service.completeAll answers
      ({ board with lookups := some service }, notes)
  | none => (board, [])

/-- Something that was done to a board: what came of it, the board afterwards and
the log notes. The board changes even where nothing came of it. -/
structure Outcome (α : Type) where
  result : Except NumberError α
  board : Board
  notes : List LogNote

/-- The tables of this moment. The hostnames of their addresses are asked for after
the known ones are read. -/
def tables (answers : Address → LookupOutcome) (board : Board) : Outcome Tables :=
  let snapshot := board.snapshot
  let hostnames := board.hostnames
  let (board, notes) := board.request answers snapshot.remotes.keys
  ⟨Tables.ofSnapshot snapshot hostnames, board, notes⟩

/-- The first line of the dashboard at this moment. -/
def header (theme : Theme) (board : Board) : Except NumberError Banner :=
  Banner.header theme board.ledger.total

/-- The last line of the dashboard at this moment. -/
def footer (theme : Theme) (board : Board) : Banner :=
  Banner.footer theme (board.lookups.map (·.resolver))

/-- The frame of this moment. -/
def frame (theme : Theme) (answers : Address → LookupOutcome) (board : Board) : Outcome Frame :=
  let outcome := board.tables answers
  let result := do
    let tables ← outcome.result
    let header ← board.header theme
    return { header := header, footer := outcome.board.footer theme, tables := tables }
  ⟨result, outcome.board, outcome.notes⟩

/-- Make one interval of traffic. -/
def tick (sine : Double → Double) (board : Board) : Board × Option Simulator.Error :=
  let (simulator, ledger, error) := board.simulator.tick sine board.ledger
  ({ board with simulator := simulator, ledger := ledger }, error)

/-- Clear the counters. -/
def reset (board : Board) : Board := { board with ledger := board.ledger.reset }

end Board

end TrafficBoard
