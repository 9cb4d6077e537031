import Compositor.Action
import Compositor.App.Folders
import Compositor.App.Identity
import Compositor.App.Launch
import Compositor.App.Log
import Compositor.App.Path
import Compositor.Command.Build
import Compositor.Command.Graph
import Compositor.Command.Text
import Compositor.CopyFlag
import Compositor.Defaults
import Compositor.Document
import Compositor.Document.Canvas
import Compositor.Document.Change
import Compositor.Document.Layers
import Compositor.Document.Pointer
import Compositor.Export
import Compositor.Fault
import Compositor.Geometry
import Compositor.Handle
import Compositor.Layer
import Compositor.Layer.Box
import Compositor.Main
import Compositor.Notice
import Compositor.Numeral
import Compositor.Panel.CanvasForm
import Compositor.Panel.CommandPanel
import Compositor.Panel.Commit
import Compositor.Panel.Form
import Compositor.Panel.LayerForm
import Compositor.Panel.Rows
import Compositor.Panel.SidePanel
import Compositor.Proofs.Command.Escape
import Compositor.Proofs.Command.Files
import Compositor.Proofs.Command.Layout
import Compositor.Proofs.Command.Looks
import Compositor.Proofs.Command.Script
import Compositor.Proofs.Command.Shell
import Compositor.Proofs.Command.Stages
import Compositor.Proofs.Command.Wiring
import Compositor.Proofs.Command.Words
import Compositor.Proofs.Document.Bounds
import Compositor.Proofs.Document.Confined
import Compositor.Proofs.Document.Copy
import Compositor.Proofs.Document.Entry
import Compositor.Proofs.Document.Frame
import Compositor.Proofs.Document.Gesture
import Compositor.Proofs.Document.Growth
import Compositor.Proofs.Document.Heights
import Compositor.Proofs.Document.Hover
import Compositor.Proofs.Document.Ids
import Compositor.Proofs.Document.Inside
import Compositor.Proofs.Document.Lock
import Compositor.Proofs.Document.Origin
import Compositor.Proofs.Document.Outcome
import Compositor.Proofs.Document.References
import Compositor.Proofs.Document.Restack
import Compositor.Proofs.Document.Return
import Compositor.Proofs.Document.Same
import Compositor.Proofs.Document.Sides
import Compositor.Proofs.Document.Stays
import Compositor.Proofs.Geometry.Drag
import Compositor.Proofs.Geometry.Exact
import Compositor.Proofs.Geometry.Handles
import Compositor.Proofs.Geometry.Inside
import Compositor.Proofs.Geometry.Locked
import Compositor.Proofs.Geometry.Nearest
import Compositor.Proofs.Geometry.OnGrid
import Compositor.Proofs.Geometry.Pull
import Compositor.Proofs.Geometry.Snapped
import Compositor.Proofs.Geometry.Span
import Compositor.Proofs.Panel.Leave
import Compositor.Proofs.Panel.Lines
import Compositor.Proofs.Panel.Rows
import Compositor.Proofs.Scalar.Order
import Compositor.Proofs.Scalar.Shown
import Compositor.Proofs.Session.Bounds
import Compositor.Proofs.Session.CopyFlag
import Compositor.Proofs.Session.Followers
import Compositor.Proofs.Session.Run
import Compositor.Proofs.Settings.Kept
import Compositor.Proofs.Settings.Limits
import Compositor.Proofs.Settings.Restart
import Compositor.Proofs.Stacking
import Compositor.Proofs.Stacking.Neighbours
import Compositor.Proofs.Text.Spelling
import Compositor.Proofs.View.Grid
import Compositor.Proofs.View.Placement
import Compositor.Proofs.View.Strokes
import Compositor.Proofs.View.Topmost
import Compositor.Proofs.Window.Deeds
import Compositor.Proofs.Window.Refresh
import Compositor.Raw
import Compositor.Resize
import Compositor.Scalar
import Compositor.Scalar.Binary
import Compositor.Scalar.Exact
import Compositor.Scalar.Rounding
import Compositor.Session
import Compositor.Settings
import Compositor.Snap
import Compositor.Stacking
import Compositor.Text.Blank
import Compositor.Text.CaseTable
import Compositor.Text.Digit
import Compositor.Text.LowerCase
import Compositor.Text.Reading
import Compositor.Theme
import Compositor.Toggle
import Compositor.View.Mapping
import Compositor.View.Mouse
import Compositor.View.Paint
import Compositor.Window
import Compositor.Window.Deed
import Compositor.Window.Effect
import Compositor.Window.Outline
