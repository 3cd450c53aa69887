import Vvmux.Layout.Closing
import Vvmux.Layout.FloatingRuns
import Vvmux.Session.ZoomRuns
import Vvmux.Session.BracketedPaste
import Vvmux.Screen.Repaint
import Vvmux.Terminal.Reset
import Vvmux.Screen.Overlap
import Vvmux.Terminal.CombiningMarks
import Vvmux.Media.LossReports
import Vvmux.Media.Damage
import Vvmux.Media.RejectedRecords
import Vvmux.Media.RasterRuns
import Vvmux.Media.KeyframeRuns
import Vvmux.Media.Quotas
import Vvmux.Media.Tickets
import Vvmux.Media.Revocation
import Vvmux.Automation.CopyPosition
import Vvmux.Automation.Deltas
import Vvmux.Projection.Nodes
import Vvmux.Projection.Fragments
import Vvmux.Rendering.Window
import Vvmux.Rendering.Bases
import Vvmux.Bridge.Correlation
import Vvmux.Bridge.CreditRuns
import Vvmux.Bridge.Answers
import Vvmux.Bridge.Barriers
import Vvmux.Gateway.Attachment
import Vvmux.Media.Integrity
import Vvmux.Session.RejectedAttach
import Vvmux.Session.BackgroundClose
import Vvmux.Session.BorderDrag
import Vvmux.Relay.Deliveries
import Vvmux.Terminal.Anchors
import Vvmux.Terminal.Markers
import Vvmux.Client.Splitting
import Vvmux.Transport.Parts
import Vvmux.Pty.InputLaws
import Vvmux.Server.StaleCleanup
import Vvmux.Automation.Deadlines
import Vvmux.Ipc.Automation
import Vvmux.Client.FloatEdit
import Vvmux.Media.Diagnostics
import Vvmux.Projection.Coalescing
import Vvmux.Automation.CopyScroll
import Vvmux.Terminal.AlternateScreen
