import Screensaver.Geometry
import Screensaver.Fault
import Screensaver.Color
import Screensaver.Screen
import Screensaver.Terminal
import Screensaver.Buffer
import Screensaver.Random.Table
import Screensaver.Random
import Screensaver.Picker
import Screensaver.RunSettings
import Screensaver.Log
import Screensaver.Loop
import Screensaver.Loop.Run
import Screensaver.Stage
import Screensaver.Console
import Screensaver.Text.Ranges
import Screensaver.Text.Printable
import Screensaver.Text.CellClasses
import Screensaver.Text.Width
import Screensaver.Styled
import Screensaver.Session
import Screensaver.Text.Quoted
import Screensaver.Text.ByteText
import Screensaver.Number.Integer
import Screensaver.Number.Double
import Screensaver.Duration
import Screensaver.Log.Line
import Screensaver.Text.Utf8
import Screensaver.FileTree
import Screensaver.Settings
import Screensaver.Settings.Load
import Screensaver.Registry
import Screensaver.Tables
import Screensaver.Yaml.Source
import Screensaver.Yaml.Cursor
import Screensaver.Yaml.ScalarText
import Screensaver.Yaml.Token
import Screensaver.Yaml.Scanner
import Screensaver.Yaml.Timestamp
import Screensaver.Yaml.Value
import Screensaver.Yaml.Node
import Screensaver.Settings.Decode
import Screensaver.Options
import Screensaver.Saver
import Screensaver.Backends
import Screensaver.CommandLine.Help
import Screensaver.CommandLine
import Screensaver.Console.Ansi
import Screensaver.Main
import Screensaver.Proofs.Cells
import Screensaver.Proofs.Strokes
import Screensaver.Proofs.Painting
import Screensaver.Proofs.Histories
import Screensaver.Proofs.Coupling
import Screensaver.Proofs.Restoring
import Screensaver.Proofs.Drivers
import Screensaver.Proofs.Displays
import Screensaver.Proofs.Arrivals
import Screensaver.Proofs.Ticks
import Screensaver.Proofs.Stopping
import Screensaver.Proofs.Rendering
import Screensaver.Proofs.Characters
import Screensaver.Proofs.Edits
import Screensaver.Proofs.Sources
import Screensaver.Proofs.Files
import Screensaver.Proofs.Launching
import Screensaver.Proofs.Handover
import Screensaver.Proofs.Registrations
import Screensaver.Proofs.Reproducing
import Screensaver.Proofs.Overlays
import Screensaver.Proofs.Draws
import Screensaver.Proofs.Coverage
import Screensaver.Proofs.Wrapping
import Screensaver.Proofs.Canvas
import Screensaver.Proofs.Margins
import Screensaver.Proofs.Stretches
import Screensaver.Proofs.Edges
import Screensaver.Proofs.Alignment
import Screensaver.Proofs.Accounting
