import PenPlotter.CommandLine.Arguments
import PenPlotter.CommandLine.Command
import PenPlotter.CommandLine.Execution
import PenPlotter.Console.Display
import PenPlotter.Console.Input
import PenPlotter.Console.Loop
import PenPlotter.Console.Panel
import PenPlotter.Console.Rehearsal
import PenPlotter.Console.Scroll
import PenPlotter.Decimal.Basic
import PenPlotter.Decimal.Binary
import PenPlotter.Decimal.Shortest
import PenPlotter.Device.Access
import PenPlotter.Device.Call
import PenPlotter.Device.Interface
import PenPlotter.Device.Status
import PenPlotter.Drawing.Basic
import PenPlotter.Drawing.Svg
import PenPlotter.Event.Basic
import PenPlotter.Event.Bus
import PenPlotter.Event.Json
import PenPlotter.Failure
import PenPlotter.Files.Location
import PenPlotter.Files.System
import PenPlotter.Json.Basic
import PenPlotter.Json.Numeral
import PenPlotter.Json.Printer
import PenPlotter.Json.Reading
import PenPlotter.Json.Token
import PenPlotter.Json.Tree
import PenPlotter.Main
import PenPlotter.Paper
import PenPlotter.Plane.Box
import PenPlotter.Plane.Point
import PenPlotter.Preview.Plot
import PenPlotter.Preview.Renderer
import PenPlotter.Preview.State
import PenPlotter.Proofs.Console.Collapsing
import PenPlotter.Proofs.Console.Dispatch
import PenPlotter.Proofs.Console.Following
import PenPlotter.Proofs.Console.Mirror
import PenPlotter.Proofs.Console.Paging
import PenPlotter.Proofs.Console.PanelActions
import PenPlotter.Proofs.Decimal.Binary
import PenPlotter.Proofs.Decimal.Digits
import PenPlotter.Proofs.Decimal.Shortest
import PenPlotter.Proofs.Decimal.Text
import PenPlotter.Proofs.Device.Addressing
import PenPlotter.Proofs.Device.Outcomes
import PenPlotter.Proofs.Double.Bits
import PenPlotter.Proofs.Double.Division
import PenPlotter.Proofs.Double.Magnitude
import PenPlotter.Proofs.Double.Nearest
import PenPlotter.Proofs.Double.Numeral
import PenPlotter.Proofs.Double.Order
import PenPlotter.Proofs.Double.Rounding
import PenPlotter.Proofs.Drawing.Elements
import PenPlotter.Proofs.Drawing.Svg
import PenPlotter.Proofs.Event.Delivery
import PenPlotter.Proofs.Event.Json
import PenPlotter.Proofs.Files.Writing
import PenPlotter.Proofs.Json.Grammar
import PenPlotter.Proofs.Json.Numeral
import PenPlotter.Proofs.Json.Printer
import PenPlotter.Proofs.Json.Quoted
import PenPlotter.Proofs.Json.Reader
import PenPlotter.Proofs.Json.Record
import PenPlotter.Proofs.Json.Scan
import PenPlotter.Proofs.Json.Value
import PenPlotter.Proofs.Json.Written
import PenPlotter.Proofs.Plane.Exact
import PenPlotter.Proofs.Plane.Extent
import PenPlotter.Proofs.Plane.Fitting
import PenPlotter.Proofs.Plane.Grabbing
import PenPlotter.Proofs.Plane.Inverse
import PenPlotter.Proofs.Plane.ZoomAtPoint
import PenPlotter.Proofs.Preview.Caching
import PenPlotter.Proofs.Preview.Dragging
import PenPlotter.Proofs.Preview.Fitting
import PenPlotter.Proofs.Preview.Observers
import PenPlotter.Proofs.Preview.Picture
import PenPlotter.Proofs.Preview.Plotting
import PenPlotter.Proofs.Preview.ZoomRange
import PenPlotter.Proofs.Session.Actions
import PenPlotter.Proofs.Session.Barrier
import PenPlotter.Proofs.Session.Connection
import PenPlotter.Proofs.Session.Decoding
import PenPlotter.Proofs.Session.Deduplication
import PenPlotter.Proofs.Session.FirstArrivals
import PenPlotter.Proofs.Session.KeyQueue
import PenPlotter.Proofs.Session.Lifecycle
import PenPlotter.Proofs.Session.Log
import PenPlotter.Proofs.Session.Noninterference
import PenPlotter.Proofs.Session.Operations
import PenPlotter.Proofs.Session.Publishing
import PenPlotter.Proofs.Session.Reception
import PenPlotter.Proofs.Session.Reconnecting
import PenPlotter.Proofs.Session.Reloading
import PenPlotter.Proofs.Session.Reordering
import PenPlotter.Proofs.Session.SeenKeys
import PenPlotter.Proofs.Session.Story
import PenPlotter.Proofs.Session.Turns
import PenPlotter.Proofs.Settings.Addresses
import PenPlotter.Proofs.Settings.Json
import PenPlotter.Proofs.Settings.Layers
import PenPlotter.Proofs.Settings.Merging
import PenPlotter.Proofs.Settings.Reading
import PenPlotter.Proofs.Settings.Safekeeping
import PenPlotter.Proofs.Settings.Saving
import PenPlotter.Proofs.Settings.Toml
import PenPlotter.Proofs.Text.Spans
import PenPlotter.Proofs.Text.Utf8
import PenPlotter.Proofs.Text.WellFormed
import PenPlotter.Proofs.Toml.Document
import PenPlotter.Proofs.Toml.Numeral
import PenPlotter.Proofs.Toml.Quoted
import PenPlotter.Proofs.Toml.Value
import PenPlotter.Proofs.Toolpath.Bounds
import PenPlotter.Proofs.Toolpath.Coordinates
import PenPlotter.Proofs.Toolpath.LetterCase
import PenPlotter.Proofs.Toolpath.Path
import PenPlotter.Proofs.Toolpath.Printing
import PenPlotter.Proofs.Toolpath.Reference
import PenPlotter.Proofs.Toolpath.Refinement
import PenPlotter.Proofs.Toolpath.Rewriting
import PenPlotter.Proofs.Toolpath.Skipping
import PenPlotter.Proofs.Url.Agreement
import PenPlotter.Proofs.Url.Authority
import PenPlotter.Proofs.Url.Continued
import PenPlotter.Proofs.Url.Path
import PenPlotter.Proofs.Url.Percent
import PenPlotter.Proofs.Url.StreamGrammar
import PenPlotter.Proofs.View.Json
import PenPlotter.Record
import PenPlotter.Scalar
import PenPlotter.Session.Client
import PenPlotter.Session.Dispatcher
import PenPlotter.Session.Entry
import PenPlotter.Session.EntryJson
import PenPlotter.Session.Log
import PenPlotter.Session.SeenKeys
import PenPlotter.Session.Simulation
import PenPlotter.Session.StreamFrame
import PenPlotter.Session.StreamMessage
import PenPlotter.Session.System
import PenPlotter.Settings.Basic
import PenPlotter.Settings.Format
import PenPlotter.Settings.Store
import PenPlotter.Text.Basic
import PenPlotter.Text.SipHash
import PenPlotter.Text.Utf8
import PenPlotter.Text.Word
import PenPlotter.Time.Timestamp
import PenPlotter.Toml.Basic
import PenPlotter.Toml.Document
import PenPlotter.Toml.Moment
import PenPlotter.Toml.Numeral
import PenPlotter.Toml.Quoted
import PenPlotter.Toml.Table
import PenPlotter.Toml.Value
import PenPlotter.Toolpath.Basic
import PenPlotter.Toolpath.Cache
import PenPlotter.Toolpath.Program
import PenPlotter.Trouble
import PenPlotter.Unicode.CombiningClass
import PenPlotter.Unicode.Decomposition
import PenPlotter.Unicode.Direction
import PenPlotter.Unicode.Joining
import PenPlotter.Unicode.Mark
import PenPlotter.Unicode.Normal
import PenPlotter.Unicode.Ranges
import PenPlotter.Unicode.Run
import PenPlotter.Url.Basic
import PenPlotter.Url.Domain.Allowed
import PenPlotter.Url.Domain.Mapping
import PenPlotter.Url.Domain.Name
import PenPlotter.Url.Host
import PenPlotter.Url.Percent
import PenPlotter.Url.Punycode
import PenPlotter.Url.StreamAddress
import PenPlotter.View.Json
import PenPlotter.View.Projector
import PenPlotter.View.Transform
