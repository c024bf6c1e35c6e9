/-
This file puts the driver's threads into one pool. A work item or timer can be
started whenever it is pending, which takes the pending flag; an entry of the
display subsystem, of the USB core or of a process is started on its own thread.
Which entries may occur is a parameter, so that a result can say what it
excludes.
-/

import Trigger6.Driver.Lifecycle
import Trigger6.Lib.Pool

namespace Trigger6.Driver

open Bytes Interaction

variable {c : Config}

/-- The entries into the driver other than its own work items and timers. -/
inductive Entry
  | crtcEnable (head : HeadId)
  | crtcDisable (head : HeadId)
  | planeUpdate (head : HeadId) (fb : Framebuffer)
  | jpegWrite (head : HeadId) (ppos : Nat) (data : List Byte)
  | suspend
  | resume
  | disconnect (active : HeadId → Bool)

/-- Whether an entry is made on a thread. -/
def Entry.on : Entry → Thread → Bool
  | .crtcEnable head, .commit own => head = own
  | .crtcDisable head, .commit own => head = own
  | .planeUpdate head _, .commit own => head = own
  | .jpegWrite _ _ _, .writer _ => true
  | .suspend, .bus => true
  | .resume, .bus => true
  | .disconnect _, .bus => true
  | _, _ => false

def Entry.program : Entry → Prog c Unit
  | .crtcEnable head => crtcAtomicEnable head
  | .crtcDisable head => crtcAtomicDisable (.commit head) head
  | .planeUpdate head fb => planeAtomicUpdate head fb
  | .jpegWrite head ppos data => do
    let _ ← (jpegMiscWrite head ppos data).run
  | .suspend => usbSuspend
  | .resume => usbResume
  | .disconnect active => usbDisconnect active

def workProgram (head : HeadId) : Work → Prog c Unit
  | .txWork => frameWork head
  | .txDeferWork => frameDeferWork head
  | .keepaliveTimer => keepaliveTimeout head
  | .bootKeepaliveWork => bootKeepaliveFn head

/-- What can be started: a work item or timer of a head, or an entry. -/
inductive Task
  | work (head : HeadId) (work : Work)
  | entry (entry : Entry)

def startTask (allowed : Entry → Bool) (thread : Thread) (task : Task) (dev : Dev c) :
    Option (Dev c × Prog c Unit) :=
  match task with
  | .work head work =>
    if work.thread head = thread ∧ ((dev.heads head).jobs work).pending = true then
      some (dev.setJob head work fun _ => { pending := false, running := true },
        workProgram head work)
    else none
  | .entry entry =>
    if entry.on thread && allowed entry then some (dev, entry.program) else none

/-- The end of a work item or timer callback. -/
def retireTask (thread : Thread) (dev : Dev c) : Dev c :=
  let idle := fun head work => dev.setJob head work fun job => { job with running := false }
  match thread with
  | .worker head => idle head .txWork
  | .deferred head => idle head .txDeferWork
  | .timer head => idle head .keepaliveTimer
  | .boot head => idle head .bootKeepaliveWork
  | _ => dev

/-- The driver's threads, with the entries that may occur. -/
def driver (c : Config) (allowed : Entry → Bool) :
    Pool (calls c) (Dev c) Env Thread Task where
  exec := exec
  start := startTask allowed
  retire := retireTask

/-- A choice of the scheduler among the driver's threads. -/
abbrev DriverChoice := Pool.Choice Thread Task Env

/-- The configuration a run of the driver leads to from a device with no code running. -/
def runDriver (allowed : Entry → Bool) (start : Dev c) (choices : List DriverChoice) :
    Pool.Config (calls c) (Dev c) Thread :=
  (driver c allowed).run (Pool.Config.idle start) choices

/-! ### The device the probe leaves -/

def FrameQueue.probed (c : Config) : FrameQueue c where
  contents := fun _ => { frame := .zeroed c.frameSize, serial := 0 }
  txFront := .first
  txBack := .second
  fbExport := .third
  distinct := by decide
  allocated := true
  txLen := 0
  txStride := 0
  txPending := false
  txQueuedNs := 0
  fbExportLen := 0
  fbExportSeq := 0
  queuedFrames := 0
  coalescedOverwrites := 0
  stagings := 0

def Sender.probed (c : Config) (head : HeadId) : Sender c where
  frameSeq := 0
  fbSlotIndex := if 1 < fbSlotCount c head then 1 else 0
  cmdCursorAddr := cmdBaseAddr head
  txLastJiffies := 0
  rawLastSentJiffies := 0
  jpegAdaptiveQuality := 0
  videoStaging := c.transport head == .raw
  jpegStaging := if c.transport head = .raw then none else some (.zeroed jpegStagingSize)
  cache := .empty
  metrics := {}

/-- The transports whose heads keep a reference copy of the last frame sent. -/
def Transport.keepsReference : Transport → Bool
  | .raw | .nv12 => true
  | .jpegCmd | .userJpeg => false

def HeadState.probed (c : Config) (head : HeadId) : HeadState c where
  queue := .probed c
  jobs := fun _ => { pending := false, running := false }
  keepaliveDue := false
  scanoutActive := false
  ioFaulted := false
  ioLastError := none
  lastSentFrame := if (c.transport head).keepsReference then some (.zeroed c.frameSize) else none
  lastSentValid := false
  sender := .probed c head

/-- The active device, with no code running on it yet. -/
def Dev.probed (c : Config) : Dev c where
  heads := HeadState.probed c
  ioFaulted := false
  ioLastError := none
  ioLock := none
  unplugged := false
  sections := 0
  wq := true
  bulkChunk := true
  intfdata := true
  txNextHead := .primary
  metrics := {}
  traffic := []
  trace := []

/-- A tiny raw primary head, for examples. -/
def sampleConfig : Config where
  width := 2
  height := 2
  fits := by rw [ramMb_mebibyte]; decide
  hz := 250
  manualOnly := false
  queryOnly := false
  queryTimings := false
  queryTimingPage1 := false
  rawIdleRefresh := true
  finalMonitorOff := true
  secondaryFrameMinIntervalMs := 0
  jpegQuality := 85
  selected := .primary
  connected := fun head => head == .primary
  connected_selected := fun head connected => by cases head <;> first | rfl | cases connected
  status := fun head => if head = .primary then 1 else 0
  edidValid := fun head => head == .primary
  profileMatches := true
  pathMatches := true
  secondaryTransport := .nv12
  jpegEncodeXrgb8888 := fun _ _ _ => .error .invalid

end Trigger6.Driver
