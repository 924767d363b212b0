import ColumnMap.App.Basic
import ColumnMap.App.Desk
import ColumnMap.App.Form
import ColumnMap.App.Session
import ColumnMap.CommandLine.Basic
import ColumnMap.CommandLine.Grammar
import ColumnMap.CommandLine.Stop
import ColumnMap.Config.Basic
import ColumnMap.Config.Environment
import ColumnMap.Config.File
import ColumnMap.Console.Key
import ColumnMap.DataSource
import ColumnMap.Decimal.Double
import ColumnMap.Decimal.Nearest
import ColumnMap.Decimal.Shortest
import ColumnMap.Decimal.Text
import ColumnMap.Editor.Basic
import ColumnMap.Editor.Schedule
import ColumnMap.Editor.Traffic
import ColumnMap.Editor.World
import ColumnMap.Json.Basic
import ColumnMap.Json.Fault
import ColumnMap.Json.Printer
import ColumnMap.Json.Reader
import ColumnMap.Json.Record
import ColumnMap.Json.Skip
import ColumnMap.Json.Token
import ColumnMap.Log.Buffer
import ColumnMap.Log.Filter
import ColumnMap.Log.Line
import ColumnMap.Lookup.Backend
import ColumnMap.Lookup.Basic
import ColumnMap.Lookup.Demo
import ColumnMap.Main
import ColumnMap.Mapping.Basic
import ColumnMap.Mapping.File
import ColumnMap.Program.Basic
import ColumnMap.Program.Configuration
import ColumnMap.Program.Editing
import ColumnMap.Program.Host
import ColumnMap.Program.Logging
import ColumnMap.Program.Lookup
import ColumnMap.Program.Sitting
import ColumnMap.Proofs.App.Clipboard
import ColumnMap.Proofs.App.Cursor
import ColumnMap.Proofs.App.Desk
import ColumnMap.Proofs.App.Display
import ColumnMap.Proofs.App.Highlight
import ColumnMap.Proofs.App.Keyboard
import ColumnMap.Proofs.App.Layers
import ColumnMap.Proofs.App.Session
import ColumnMap.Proofs.App.Typing
import ColumnMap.Proofs.CommandLine.Run
import ColumnMap.Proofs.CommandLine.Spelling
import ColumnMap.Proofs.Config.File
import ColumnMap.Proofs.Editor.Accounts
import ColumnMap.Proofs.Editor.Changes
import ColumnMap.Proofs.Editor.Entries
import ColumnMap.Proofs.Editor.History
import ColumnMap.Proofs.Editor.Identity
import ColumnMap.Proofs.Editor.Interleaving
import ColumnMap.Proofs.Editor.Loading
import ColumnMap.Proofs.Editor.Noninterference
import ColumnMap.Proofs.Editor.Parent
import ColumnMap.Proofs.Editor.Refusal
import ColumnMap.Proofs.Editor.Requests
import ColumnMap.Proofs.Editor.Selection
import ColumnMap.Proofs.Editor.Suggestions
import ColumnMap.Proofs.Editor.Tokens
import ColumnMap.Proofs.Editor.Tracking
import ColumnMap.Proofs.Editor.Traffic
import ColumnMap.Proofs.Json.Characters
import ColumnMap.Proofs.Json.Determined
import ColumnMap.Proofs.Json.Form
import ColumnMap.Proofs.Json.Grammar
import ColumnMap.Proofs.Json.Layout
import ColumnMap.Proofs.Json.Numeral
import ColumnMap.Proofs.Json.NumeralReading
import ColumnMap.Proofs.Json.Printing
import ColumnMap.Proofs.Json.RecordText
import ColumnMap.Proofs.Json.Scalar
import ColumnMap.Proofs.Json.Spelling
import ColumnMap.Proofs.Log.Buffer
import ColumnMap.Proofs.Lookup.Address
import ColumnMap.Proofs.Lookup.Response
import ColumnMap.Proofs.Lookup.Values
import ColumnMap.Proofs.Mapping.File
import ColumnMap.Proofs.Mapping.Reading
import ColumnMap.Proofs.Program.Arguments
import ColumnMap.Proofs.Program.Editing
import ColumnMap.Proofs.Program.Files
import ColumnMap.Proofs.Screen.Canvas
import ColumnMap.Proofs.Screen.Overlays
import ColumnMap.Proofs.Toml.Document
import ColumnMap.Proofs.Toml.Integer
import ColumnMap.Proofs.Toml.Quoted
import ColumnMap.Proofs.Toml.Value
import ColumnMap.Proofs.Url.Encoding
import ColumnMap.Proofs.Url.Path
import ColumnMap.Screen.Area
import ColumnMap.Screen.Canvas
import ColumnMap.Screen.Frame
import ColumnMap.Screen.Panels
import ColumnMap.Screen.Popover
import ColumnMap.Screen.Widget
import ColumnMap.Text.Blank
import ColumnMap.Text.Cluster
import ColumnMap.Text.Lossy
import ColumnMap.Text.Property.Breaking
import ColumnMap.Text.Property.Case
import ColumnMap.Text.Property.Printing
import ColumnMap.Text.Property.Width
import ColumnMap.Text.Quoted
import ColumnMap.Text.Ranges
import ColumnMap.Text.Similarity
import ColumnMap.Text.Width
import ColumnMap.Toml.Basic
import ColumnMap.Toml.Number
import ColumnMap.Toml.Reader
import ColumnMap.Toml.Table
import ColumnMap.Toml.Token
import ColumnMap.Trouble
import ColumnMap.Url.Basic
import ColumnMap.Url.Encode
import ColumnMap.Url.Host
import ColumnMap.Url.Label
import ColumnMap.Url.Path
import ColumnMap.Url.Reader
import ColumnMap.Value
