import TrafficBoard.Dashboard.Banner
import TrafficBoard.Dashboard.Tiling
import TrafficBoard.Table.Panel
import TrafficBoard.Table.Utilization

/-!
# Frames

A frame shows one snapshot: the header, as many of the three tables as the size
of the terminal allows, each drawn for its region, and the footer.
-/

namespace TrafficBoard

/-- How the dashboard looks. -/
structure Appearance where
  theme : Theme
  limits : SizeLimits
  deriving DecidableEq, Repr

/-- The tables of a snapshot in the order in which they are shown. -/
structure Tables where
  processes : Table
  connections : Table
  remotes : Table

namespace Tables

/-- The tables of a snapshot, with the hostnames known for its addresses. -/
def ofSnapshot (snapshot : Snapshot) (hostnames : Hostnames) : Except NumberError Tables := do
  let processes ← Utilization.processes snapshot
  let connections ← Utilization.connections snapshot hostnames
  let remotes ← Utilization.remotes snapshot hostnames
  return ⟨processes, connections, remotes⟩

/-- The tables in order. -/
def toList (tables : Tables) : List Table := [tables.processes, tables.connections, tables.remotes]

end Tables

/-- What a frame shows. -/
structure Frame where
  header : Banner
  footer : Banner
  tables : Tables

namespace Frame

/-- What a region of the terminal shows. -/
inductive Content where
  | table (table : Table)
  | banner (banner : Banner)

/-- A region of the terminal and what it shows. -/
structure Tile where
  region : Region
  content : Content

/-- The lines of a table in its region, cut or filled to the size of the region. -/
def tableLines (theme : Theme) (table : Table) (region : Region) :
    Except Text.CutError (List Line) := do
  let drawing ← table.draw theme region.width region.width (some region.height)
  let lines ← (drawing.lines.take region.height).mapM (Line.fit .plain region.width)
  return lines ++ List.replicate (region.height - lines.length) [.blank .plain region.width]

/-- The lines of a tile. -/
def Tile.lines (theme : Theme) (tile : Tile) : Except Text.CutError (List Line) :=
  match tile.content with
  | .table table => tableLines theme table tile.region
  | .banner banner => (banner.draw tile.region.width).map fun line => [line]

/-- The tables shown on a terminal of a size, with their regions. -/
def placed (appearance : Appearance) (frame : Frame) (width height : Nat) :
    List (Table × Region) :=
  let divisions := appearance.limits.divisions width height
  frame.tables.toList.zip ((Region.body width height).tile divisions)

/-- The tiles of a frame in the order in which they are drawn. One that starts where
another does is drawn after those that were divided off later. -/
def tiles (appearance : Appearance) (frame : Frame) (width height : Nat) : List Tile :=
  let tables := (frame.placed appearance width height).map fun (table, region) =>
    (⟨region, .table table⟩ : Tile)
  let footer : Tile := ⟨Region.footer width height, .banner frame.footer⟩
  let header : Tile := ⟨Region.header width, .banner frame.header⟩
  (footer :: (tables.reverse ++ [header])).mergeSort fun tile other =>
    tile.region.drawnBefore other.region

/-- The part of a screen line that the lines of a region draw. -/
def part (row : Nat) (region : Region) (lines : List Line) : Line :=
  if row < region.y then [] else (lines[row - region.y]?).getD []

/-- The lines of a frame on a terminal of a size. A terminal without width shows none. -/
def draw (appearance : Appearance) (frame : Frame) (width height : Nat) :
    Except Text.CutError (List String) :=
  if width = 0 then .ok []
  else do
    let drawn ← (frame.tiles appearance width height).mapM fun tile =>
      (tile.lines appearance.theme).map fun lines => (tile.region, lines)
    (List.range height).mapM fun row =>
      (Line.crop width (drawn.flatMap fun (region, lines) => part row region lines)).map Line.text

/-- What drawing a frame tells the log. -/
def notes (appearance : Appearance) (frame : Frame) (width height : Nat) : List LogNote :=
  (frame.placed appearance width height).flatMap fun (table, region) =>
    table.drawNotes region.width (some region.height)

end Frame

end TrafficBoard
