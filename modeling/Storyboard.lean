import Storyboard.Album.Basic
import Storyboard.Album.Operation
import Storyboard.Album.Shared
import Storyboard.Canvas.Dots
import Storyboard.Canvas.Sampling
import Storyboard.Color
import Storyboard.CommandLine.Interaction
import Storyboard.CommandLine.Options
import Storyboard.CommandLine.Run
import Storyboard.Display.Basic
import Storyboard.Display.Cell
import Storyboard.Display.Frame
import Storyboard.Display.Palette
import Storyboard.Display.Text
import Storyboard.Log.Filter
import Storyboard.Log.Record
import Storyboard.Main
import Storyboard.Number.Binary64
import Storyboard.Number.Bounds
import Storyboard.Number.Decimal
import Storyboard.Number.Numeral
import Storyboard.Number.Power
import Storyboard.Number.Printed
import Storyboard.Pattern
import Storyboard.Pattern.Bracket
import Storyboard.Pattern.CharSet
import Storyboard.Pattern.Cursor
import Storyboard.Pattern.Escape
import Storyboard.Pattern.Fault
import Storyboard.Pattern.Matcher
import Storyboard.Pattern.Meaning
import Storyboard.Pattern.Node
import Storyboard.Pattern.Reader
import Storyboard.Pattern.Size
import Storyboard.Proofs.Album.Atomicity
import Storyboard.Proofs.Album.Clients
import Storyboard.Proofs.Album.Gallery
import Storyboard.Proofs.Album.OwnedNames
import Storyboard.Proofs.Album.Swapping
import Storyboard.Proofs.Album.Validity
import Storyboard.Proofs.Canvas.DotGrid
import Storyboard.Proofs.Canvas.Layers
import Storyboard.Proofs.Canvas.Progress
import Storyboard.Proofs.Canvas.Sampling
import Storyboard.Proofs.Canvas.Overhang
import Storyboard.Proofs.Canvas.Visibility
import Storyboard.Proofs.CommandLine.FileSystem
import Storyboard.Proofs.CommandLine.Options
import Storyboard.Proofs.CommandLine.Outcome
import Storyboard.Proofs.Display.Drawing
import Storyboard.Proofs.Display.Places
import Storyboard.Proofs.Except
import Storyboard.Proofs.Number.Arithmetic
import Storyboard.Proofs.Number.Bits
import Storyboard.Proofs.Number.Characters
import Storyboard.Proofs.Number.Digits
import Storyboard.Proofs.Number.Errors
import Storyboard.Proofs.Number.Gaps
import Storyboard.Proofs.Number.Middles
import Storyboard.Proofs.Number.Nearest
import Storyboard.Proofs.Number.Order
import Storyboard.Proofs.Number.Packing
import Storyboard.Proofs.Number.Ranks
import Storyboard.Proofs.Number.ReadBack
import Storyboard.Proofs.Number.Rounding
import Storyboard.Proofs.Number.Truncation
import Storyboard.Proofs.Number.Values
import Storyboard.Proofs.Report.Attributes
import Storyboard.Proofs.Report.DescribedLines
import Storyboard.Proofs.Report.Filling
import Storyboard.Proofs.Report.ListingFormat
import Storyboard.Proofs.Report.PageFormat
import Storyboard.Proofs.Scene.Part
import Storyboard.Proofs.Scene.Swapping
import Storyboard.Proofs.Scene.Validity
import Storyboard.Proofs.Script.Atomicity
import Storyboard.Proofs.Script.Bookkeeping
import Storyboard.Proofs.Script.Captures
import Storyboard.Proofs.Script.Concatenation
import Storyboard.Proofs.Script.Descriptions
import Storyboard.Proofs.Script.Effect
import Storyboard.Proofs.Script.Finite
import Storyboard.Proofs.Script.IssuedIds
import Storyboard.Proofs.Script.LastWriter
import Storyboard.Proofs.Script.Listings
import Storyboard.Proofs.Script.Productions
import Storyboard.Proofs.Script.Pruning
import Storyboard.Proofs.Script.Reached
import Storyboard.Proofs.Script.Reclocking
import Storyboard.Proofs.Script.Refusals
import Storyboard.Proofs.Script.Rewriting
import Storyboard.Proofs.Script.Slots
import Storyboard.Proofs.Shape.Validity
import Storyboard.Proofs.Sheet
import Storyboard.Proofs.Snapshot.Alignment
import Storyboard.Proofs.Snapshot.ClockText
import Storyboard.Proofs.Snapshot.FirstFree
import Storyboard.Proofs.Snapshot.Growth
import Storyboard.Proofs.Snapshot.IdOrder
import Storyboard.Proofs.Snapshot.Identity
import Storyboard.Proofs.Snapshot.Naming
import Storyboard.Proofs.Snapshot.Navigation
import Storyboard.Proofs.Snapshot.OwnIds
import Storyboard.Proofs.Snapshot.Reissue
import Storyboard.Proofs.Snapshot.Shelf
import Storyboard.Proofs.Text.Format
import Storyboard.Proofs.Text.Lines
import Storyboard.Proofs.Text.Spacing
import Storyboard.Proofs.Text.Trimming
import Storyboard.Proofs.Text.Words
import Storyboard.Proofs.Viewer.DetailsPane
import Storyboard.Proofs.Viewer.DrawingPane
import Storyboard.Proofs.Viewer.ListPane
import Storyboard.Proofs.Viewer.Panes
import Storyboard.Proofs.Viewer.Prompt
import Storyboard.Proofs.Viewer.Selection
import Storyboard.Proofs.Viewer.Session
import Storyboard.Proofs.Viewer.Slideshow
import Storyboard.Proofs.Viewer.Windows
import Storyboard.Refusal
import Storyboard.Report.Drawing
import Storyboard.Report.Listing
import Storyboard.Report.Page
import Storyboard.Scene
import Storyboard.Script.Command
import Storyboard.Script.Fault
import Storyboard.Script.Grammar
import Storyboard.Script.Run
import Storyboard.Shape.Basic
import Storyboard.Shape.Kind
import Storyboard.Sheet
import Storyboard.Snapshot.Archive
import Storyboard.Snapshot.Basic
import Storyboard.Snapshot.Cursor
import Storyboard.Snapshot.Instant
import Storyboard.Text.Blank
import Storyboard.Text.Break
import Storyboard.Text.EscapeCode
import Storyboard.Text.Grapheme
import Storyboard.Text.Hidden
import Storyboard.Text.Letter
import Storyboard.Text.Markup
import Storyboard.Text.Quoted
import Storyboard.Text.Ranges
import Storyboard.Text.Width
import Storyboard.Text.Width.Classes
import Storyboard.Viewer.DetailsPane
import Storyboard.Viewer.Draw
import Storyboard.Viewer.DrawingPane
import Storyboard.Viewer.Layout
import Storyboard.Viewer.ListPane
import Storyboard.Viewer.State
import Storyboard.Viewer.StatusBar
import Storyboard.Viewer.Terminal
