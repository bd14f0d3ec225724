import TrafficBoard.Address.Basic
import TrafficBoard.Address.Reading
import TrafficBoard.CommandLine.Help
import TrafficBoard.CommandLine.Launch
import TrafficBoard.CommandLine.Options
import TrafficBoard.Connection
import TrafficBoard.Dashboard.Banner
import TrafficBoard.Dashboard.Board
import TrafficBoard.Dashboard.Frame
import TrafficBoard.Dashboard.Loop
import TrafficBoard.Dashboard.Tiling
import TrafficBoard.Keyed
import TrafficBoard.Log
import TrafficBoard.Lookup.Resolver
import TrafficBoard.Lookup.Service
import TrafficBoard.Main
import TrafficBoard.Number.Decimal
import TrafficBoard.Number.Double
import TrafficBoard.Number.Literal
import TrafficBoard.Number.Rounding
import TrafficBoard.Number.Sine
import TrafficBoard.Rate
import TrafficBoard.Settings.Basic
import TrafficBoard.Settings.EnvFile
import TrafficBoard.Settings.Field
import TrafficBoard.Settings.Report
import TrafficBoard.Table.Basic
import TrafficBoard.Table.Columns
import TrafficBoard.Table.Grid
import TrafficBoard.Table.Panel
import TrafficBoard.Table.Shortening
import TrafficBoard.Table.Utilization
import TrafficBoard.Table.Widths
import TrafficBoard.Text.Blank
import TrafficBoard.Text.CellWidth
import TrafficBoard.Text.Cells
import TrafficBoard.Text.Display
import TrafficBoard.Text.Line
import TrafficBoard.Text.Pieces
import TrafficBoard.Text.Printable
import TrafficBoard.Text.Quoted
import TrafficBoard.Theme
import TrafficBoard.Traffic.Ledger
import TrafficBoard.Traffic.Scenario
import TrafficBoard.Traffic.Simulator
import TrafficBoard.Traffic.Snapshot
import TrafficBoard.Traffic.Volume
import TrafficBoard.Proofs.Keyed.Groups
import TrafficBoard.Proofs.Traffic.History
import TrafficBoard.Proofs.Traffic.Views
import TrafficBoard.Proofs.Traffic.Writers
import TrafficBoard.Proofs.Lookup.Abandoned
import TrafficBoard.Proofs.Lookup.AtMostOnce
import TrafficBoard.Proofs.Lookup.Sessions
import TrafficBoard.Proofs.Table.Listing
import TrafficBoard.Proofs.Dashboard.Sessions
import TrafficBoard.Proofs.Number.Magnitude
import TrafficBoard.Proofs.Traffic.Interval
import TrafficBoard.Proofs.Traffic.Amounts
import TrafficBoard.Proofs.Dashboard.Redraw
import TrafficBoard.Proofs.Text.BasicLatin
import TrafficBoard.Proofs.Text.Shortening
import TrafficBoard.Proofs.Text.Cutting
import TrafficBoard.Proofs.Table.Rows
import TrafficBoard.Proofs.Table.Edges
import TrafficBoard.Proofs.Table.ShortRegion
import TrafficBoard.Proofs.Settings.Loading
import TrafficBoard.Proofs.Number.Overflow
import TrafficBoard.Proofs.Number.Monotone
import TrafficBoard.Proofs.RateLengths
import TrafficBoard.Proofs.Traffic.Ranking
import TrafficBoard.Proofs.Table.Tabulated
import TrafficBoard.Proofs.Text.Narrow
import TrafficBoard.Proofs.Table.Sharing
import TrafficBoard.Proofs.Table.LaidOut
import TrafficBoard.Proofs.Table.WholeCells
import TrafficBoard.Proofs.Dashboard.Tiling
import TrafficBoard.Proofs.Dashboard.Banners
import TrafficBoard.Proofs.Dashboard.Screen
import TrafficBoard.Proofs.Dashboard.Terminal
import TrafficBoard.Proofs.Text.Cropping
import TrafficBoard.Proofs.Table.Choosing
import TrafficBoard.Proofs.Table.Acceptance
import TrafficBoard.Proofs.Table.Titles
import TrafficBoard.Proofs.Table.ThreeColumns
import TrafficBoard.Proofs.Table.FullRegion
import TrafficBoard.Proofs.Table.RateCells
import TrafficBoard.Proofs.Text.Pieces
import TrafficBoard.Proofs.Text.Digits
import TrafficBoard.Proofs.Text.Marker
import TrafficBoard.Proofs.CountRates
import TrafficBoard.Proofs.RateAmounts
import TrafficBoard.Proofs.Table.FallingRates
import TrafficBoard.Proofs.Addresses
import TrafficBoard.Proofs.ConnectionTexts
import TrafficBoard.Proofs.Lookup.Origins
import TrafficBoard.Proofs.Dashboard.ShownAddresses
