import SketchPreview.Bytes
import SketchPreview.Call.Arguments
import SketchPreview.Call.Extract
import SketchPreview.Call.Nesting
import SketchPreview.Call.Scan
import SketchPreview.Call.Verb
import SketchPreview.Canvas.Basic
import SketchPreview.Canvas.Blend
import SketchPreview.Canvas.Circle
import SketchPreview.Canvas.Line
import SketchPreview.Canvas.Rect
import SketchPreview.Canvas.Zoom
import SketchPreview.Checked
import SketchPreview.CommandLine.Host
import SketchPreview.CommandLine.Options
import SketchPreview.CommandLine.Run
import SketchPreview.Compile
import SketchPreview.Compile.Json
import SketchPreview.Crc32
import SketchPreview.Decimal.Binary64
import SketchPreview.Decimal.Number
import SketchPreview.Decimal.Shortest
import SketchPreview.Diagnostic
import SketchPreview.Dimensions
import SketchPreview.Expr.Accessor
import SketchPreview.Expr.Eval
import SketchPreview.Expr.Lexer
import SketchPreview.Expr.Postfix
import SketchPreview.Expr.Stack
import SketchPreview.Expr.Token
import SketchPreview.Font.Bdf
import SketchPreview.Font.Bitmap
import SketchPreview.Font.Builtin
import SketchPreview.Font.Candidate
import SketchPreview.Font.Json
import SketchPreview.Font.Name
import SketchPreview.Font.Repository
import SketchPreview.Font.Resolver
import SketchPreview.Font.Size
import SketchPreview.Font.Source
import SketchPreview.Json.Decode
import SketchPreview.Json.Numeral
import SketchPreview.Json.Parser
import SketchPreview.Json.Printer
import SketchPreview.Json.Quoted
import SketchPreview.Json.Value
import SketchPreview.Main
import SketchPreview.Moment
import SketchPreview.Operation
import SketchPreview.Operation.Json
import SketchPreview.Proofs.Expr.Grammar
import SketchPreview.Proofs.Expr.Value
import SketchPreview.Proofs.Expr.Yard
import SketchPreview.Render.Frame
import SketchPreview.Render.Rasterizer
import SketchPreview.Render.Request
import SketchPreview.Render.Request.Json
import SketchPreview.Render.State
import SketchPreview.Render.Text
import SketchPreview.Saturating
import SketchPreview.Settings.Basic
import SketchPreview.Settings.Json
import SketchPreview.SizeHint
import SketchPreview.SortedMap
import SketchPreview.Storage.Disk
import SketchPreview.Storage.FileError
import SketchPreview.Storage.FilePath
import SketchPreview.Storage.FileSystem
import SketchPreview.Storage.Trim
import SketchPreview.Symbols.Define
import SketchPreview.Symbols.Definition
import SketchPreview.Symbols.Table
import SketchPreview.Terminal.HalfBlocks
import SketchPreview.Terminal.Style
import SketchPreview.Text.Blank
import SketchPreview.Text.CodeTable
import SketchPreview.Text.Composition
import SketchPreview.Text.Composition.Table
import SketchPreview.Text.Direction
import SketchPreview.Text.Find
import SketchPreview.Text.Joining
import SketchPreview.Text.Line
import SketchPreview.Text.Lowercase
import SketchPreview.Text.Lowercase.Table
import SketchPreview.Text.Mark
import SketchPreview.Text.Slice
import SketchPreview.Text.Word
import SketchPreview.Url.Basic
import SketchPreview.Url.Domain
import SketchPreview.Url.Domain.Table
import SketchPreview.Url.Fault
import SketchPreview.Url.Host
import SketchPreview.Url.Ipv4
import SketchPreview.Url.Ipv6
import SketchPreview.Url.Label
import SketchPreview.Url.Parser
import SketchPreview.Url.Path
import SketchPreview.Url.Percent
import SketchPreview.Url.Punycode
import SketchPreview.Proofs.Expr.Kept
import SketchPreview.Proofs.Expr.Alternation
import SketchPreview.Proofs.Expr.Accepted
import SketchPreview.Proofs.Expr.Unknown
import SketchPreview.Proofs.Expr.Pieces
import SketchPreview.Proofs.Expr.Rewrite
import SketchPreview.Proofs.Canvas.Midpoint
import SketchPreview.Proofs.Canvas.Circle
import SketchPreview.Proofs.Canvas.View
import SketchPreview.Proofs.Canvas.Magnified
import SketchPreview.Proofs.Render.Magnified
import SketchPreview.Proofs.Render.Cropped
import SketchPreview.Proofs.Render.Inverted
import SketchPreview.Proofs.Render.Invariant
import SketchPreview.Proofs.Canvas.Clipped
import SketchPreview.Proofs.SortedMap
import SketchPreview.Proofs.Text
import SketchPreview.Proofs.Font.Search
import SketchPreview.Proofs.Font.Memory
import SketchPreview.Proofs.Font.Session
import SketchPreview.Proofs.Expr.Stray
import SketchPreview.Proofs.Compile.Call
import SketchPreview.Proofs.Compile.Definitions
import SketchPreview.Proofs.Compile.Accounts
import SketchPreview.Proofs.Compile.Swap
import SketchPreview.Proofs.Json.Layout
import SketchPreview.Proofs.Json.Number
import SketchPreview.Proofs.Json.Reading
import SketchPreview.Proofs.Json.Decoding
import SketchPreview.Proofs.Json.RoundTrip
import SketchPreview.Proofs.Font.Selection
import SketchPreview.Proofs.Bdf.Block
import SketchPreview.Proofs.Bdf.Shape
import SketchPreview.Proofs.Bdf.RoundTrip
import SketchPreview.Proofs.Bdf.Broken
import SketchPreview.Proofs.Font.Candidate
import SketchPreview.Proofs.Font.Asked
import SketchPreview.Proofs.Program
import SketchPreview.Proofs.Storage.Way
import SketchPreview.Proofs.Storage.Disk
import SketchPreview.Proofs.Storage.Surplus
import SketchPreview.Proofs.Storage.Copy
import SketchPreview.Proofs.Font.World
import SketchPreview.Proofs.Font.Folder
import SketchPreview.Proofs.Font.Refetch
import SketchPreview.Proofs.Terminal.Screen
import SketchPreview.Proofs.LineEnding
import SketchPreview.Proofs.Compile.Clock
import SketchPreview.Proofs.Call.Literal
import SketchPreview.Proofs.Canvas.Outline
import SketchPreview.Proofs.Render.Rectangle
import SketchPreview.Proofs.Canvas.Loop
import SketchPreview.Proofs.Call.Escape
import SketchPreview.Proofs.Render.Shapes
import SketchPreview.Proofs.Render.Cursor
import SketchPreview.Proofs.Call.Span
import SketchPreview.Proofs.Call.Tightened
import SketchPreview.Proofs.Call.Rejoin
import SketchPreview.Proofs.Bdf.Places
import SketchPreview.Proofs.Canvas.Enlarged
import SketchPreview.Proofs.Storage.Listing
import SketchPreview.Proofs.Storage.Trim
import SketchPreview.Proofs.Font.Limit
import SketchPreview.Proofs.Search
import SketchPreview.Proofs.WordSearch
import SketchPreview.Proofs.Symbols.Comment
import SketchPreview.Proofs.Symbols.Assignment
import SketchPreview.Proofs.SizeHint.Comment
import SketchPreview.Proofs.SizeHint.Hint
import SketchPreview.Proofs.Font.Size
import SketchPreview.Proofs.Distinct
import SketchPreview.Proofs.Lowercase
import SketchPreview.Proofs.Canvas.Correction
import SketchPreview.Proofs.Font.Preference
