import Trigger6.Lib.Program
import Trigger6.Lib.RelyGuarantee
import Trigger6.Lib.Pool
import Trigger6.Lib.Trace
import Trigger6.Lib.RateLimit
import Trigger6.Controller.Policy
import Trigger6.Controller.Host
import Trigger6.Controller.Operations
import Trigger6.Controller.Frames
import Trigger6.Controller.Rules
import Trigger6.Controller.Runs
import Trigger6.Controller.Budget
import Trigger6.Controller.CrashSafety
import Trigger6.Controller.FailedStop
import Trigger6.Controller.Quiesce
import Trigger6.Controller.Handshake
import Trigger6.Controller.Watcher
import Trigger6.Controller.Sleep
import Trigger6.Driver.Types
import Trigger6.Lib.Framing
import Trigger6.Lib.Protocol
import Trigger6.Driver.Queue
import Trigger6.Driver.Calls
import Trigger6.Driver.Damage
import Trigger6.Driver.Usb
import Trigger6.Driver.Send
import Trigger6.Driver.Work
import Trigger6.Driver.Display
import Trigger6.Driver.Lifecycle
import Trigger6.Driver.Runs
import Trigger6.Driver.Bus
import Trigger6.Driver.LatchProtocol
import Trigger6.Controller.ExactStop
import Trigger6.Controller.Insertion
import Trigger6.Driver.Latch
import Trigger6.Diagnostics.TimingQuery
import Trigger6.Lib.Regex
import Trigger6.Diagnostics.TimingLog
import Trigger6.Diagnostics.TimingRoundTrip
import Trigger6.Diagnostics.Metrics
import Trigger6.Diagnostics.MetricsAgreement
import Trigger6.Controller.Ledger
import Trigger6.Lib.Answers
import Trigger6.Controller.ReadBack
import Trigger6.Driver.SendRules
import Trigger6.Driver.Sending
import Trigger6.Controller.LatchedCause
import Trigger6.Driver.DamageRuns
import Trigger6.Driver.BulkWrite
import Trigger6.Codec.Nv12Coverage
import Trigger6.Driver.CommandRing
import Trigger6.Driver.RingBounds
import Trigger6.Controller.Debounce
import Trigger6.Probe.Probe
import Trigger6.Probe.QueryTraffic
import Trigger6.Driver.RefreshWatch
import Trigger6.Driver.RefreshRules
import Trigger6.Driver.RefreshSteps
import Trigger6.Driver.RefreshWorker
import Trigger6.Driver.IdleRefresh
import Trigger6.Codec.JpegBits
import Trigger6.Codec.JpegBlocks
import Trigger6.Codec.JpegHuffman
import Trigger6.Codec.JpegEntropy
import Trigger6.Codec.Jpeg
import Trigger6.Codec.JpegDecode
import Trigger6.Codec.JpegRoundTrip
import Trigger6.Controller.Settling
import Trigger6.Lib.FileTree
import Trigger6.Packaging.Setup
import Trigger6.Packaging.Scope
import Trigger6.Packaging.Tamper
import Trigger6.Packaging.Collected
import Trigger6.Diagnostics.Capture
import Trigger6.Diagnostics.CapturePairing
import Trigger6.Probe.AllOrNothing
import Trigger6.Driver.BlobMemory
import Trigger6.Driver.BlobCache
import Trigger6.Driver.SendPrograms
import Trigger6.Driver.SendThreads
import Trigger6.Driver.Wire
import Trigger6.Driver.Framed
import Trigger6.Driver.Regions
import Trigger6.Driver.ScreenMirror
