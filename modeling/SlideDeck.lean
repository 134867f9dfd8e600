import SlideDeck.Body
import SlideDeck.CommandLine.Disk
import SlideDeck.CommandLine.Flags
import SlideDeck.CommandLine.Path
import SlideDeck.CommandLine.Program
import SlideDeck.Decimal.Binary
import SlideDeck.Decimal.Fixed
import SlideDeck.Decimal.Literal
import SlideDeck.Decimal.Nearest
import SlideDeck.Decimal.Notation
import SlideDeck.Decimal.Shortest
import SlideDeck.Document
import SlideDeck.Drawing.Board
import SlideDeck.Drawing.Content
import SlideDeck.Drawing.Op
import SlideDeck.Drawing.Presentation
import SlideDeck.Drawing.Remote
import SlideDeck.Drawing.Request
import SlideDeck.Drawing.Slide
import SlideDeck.Edit.Selection
import SlideDeck.Edit.Slides
import SlideDeck.Edit.Text
import SlideDeck.Fault
import SlideDeck.Geometry.Align
import SlideDeck.Geometry.Canvas
import SlideDeck.Geometry.Measure
import SlideDeck.Geometry.Regions
import SlideDeck.Json.Document
import SlideDeck.Json.Drawing
import SlideDeck.Json.Layout
import SlideDeck.Json.Number
import SlideDeck.Json.Path
import SlideDeck.Json.Printer
import SlideDeck.Json.Settings
import SlideDeck.Json.Theme
import SlideDeck.Json.Value
import SlideDeck.Json5.Reading
import SlideDeck.Json5.Syntax
import SlideDeck.Json5.Term
import SlideDeck.Layout.Descriptor
import SlideDeck.Layout.Overview
import SlideDeck.Layout.Slide
import SlideDeck.Layout.Table
import SlideDeck.Layout.Text
import SlideDeck.Layout.Width
import SlideDeck.Layout.Wrap
import SlideDeck.Main
import SlideDeck.Markup.Bold
import SlideDeck.Markup.Deck
import SlideDeck.Markup.Heading
import SlideDeck.Markup.Slide
import SlideDeck.Markup.Table
import SlideDeck.Proofs.Body.Lines
import SlideDeck.Proofs.Body.Runs
import SlideDeck.Proofs.Text.Spans
import SlideDeck.Proofs.Text.Stretches
import SlideDeck.Reading.Document
import SlideDeck.Reading.Fields
import SlideDeck.Reading.Json
import SlideDeck.Reading.Misfit
import SlideDeck.Reading.Settings
import SlideDeck.Reading.Source
import SlideDeck.Reading.Theme
import SlideDeck.Service
import SlideDeck.Settings
import SlideDeck.Settings.File
import SlideDeck.Svg.Bitmap
import SlideDeck.Svg.Element
import SlideDeck.Svg.Escape
import SlideDeck.Svg.Reader
import SlideDeck.Svg.Slide
import SlideDeck.Text.Blank
import SlideDeck.Text.Bytes
import SlideDeck.Text.Letter
import SlideDeck.Text.Lines
import SlideDeck.Text.Number
import SlideDeck.Text.Quoted
import SlideDeck.Text.Ranges
import SlideDeck.Text.Units
import SlideDeck.Theme.Basic
import SlideDeck.Theme.Builtin
import SlideDeck.Theme.Color
import SlideDeck.Theme.Registry
import SlideDeck.Proofs.Drawing.Objects
import SlideDeck.Proofs.Drawing.Body
import SlideDeck.Proofs.Layout.Nodes
import SlideDeck.Proofs.Drawing.Looks
import SlideDeck.Proofs.Parity.Weight
import SlideDeck.Proofs.Drawing.Groups
import SlideDeck.Proofs.Parity.Text
import SlideDeck.Proofs.Drawing.Presentation
import SlideDeck.Proofs.Drawing.Playable
import SlideDeck.Proofs.Drawing.Replay
import SlideDeck.Proofs.Drawing.Styles
import SlideDeck.Proofs.Edit.Session
import SlideDeck.Proofs.Svg.Picture
import SlideDeck.Proofs.Markup.Stretches
import SlideDeck.Proofs.Json.Path
import SlideDeck.Proofs.Drawing.Board
import SlideDeck.Proofs.Drawing.Updates
import SlideDeck.Proofs.Drawing.Remote
import SlideDeck.Proofs.Drawing.Sending
import SlideDeck.Proofs.Markup.Padding
import SlideDeck.Proofs.Theme.Registry
import SlideDeck.Proofs.Settings.Precedence
import SlideDeck.Proofs.Layout.Words
import SlideDeck.Proofs.Layout.Glyphs
import SlideDeck.Proofs.Markup.Bold
import SlideDeck.Proofs.Body.Bullets
import SlideDeck.Proofs.Drawing.Bullets
import SlideDeck.Proofs.Edit.Return
import SlideDeck.Proofs.Parity.Bullets
import SlideDeck.Proofs.Markup.Table
import SlideDeck.Proofs.Markup.WellFormed
import SlideDeck.Proofs.Theme.Color
import SlideDeck.Proofs.Edit.Heading
import SlideDeck.Proofs.Edit.Span
import SlideDeck.Proofs.Layout.Table
import SlideDeck.Proofs.Markup.Origin
import SlideDeck.Proofs.Layout.Texts
import SlideDeck.Proofs.Svg.Characters
import SlideDeck.Proofs.Svg.Deck
import SlideDeck.Proofs.Json.Carried
import SlideDeck.Proofs.Reading.Records
import SlideDeck.Proofs.Json5.Quoted
import SlideDeck.Proofs.Reading.Carried
import SlideDeck.Proofs.Settings.Options
import SlideDeck.Proofs.Json.Number
import SlideDeck.Proofs.Reading.Document
import SlideDeck.Proofs.Reading.Dumps
