/-
**What the library and the program tell their user.**

A `Notice` is an event worth a line in the log. Its level and its source decide whether the line is
shown; `Notice.message` is the only place where the wording lives.
-/
import Playout.Binary32.Decimal
import Playout.Config
import Playout.Geometry
import Playout.Stats

namespace Playout

/-- How much a notice matters. -/
inductive Level where
  | error
  | warn
  | info
  | debug
  | trace
deriving DecidableEq, Repr

namespace Level

/-- The rank of a level: the more detailed, the higher. -/
def detail : Level → Nat
  | .error => 1
  | .warn => 2
  | .info => 3
  | .debug => 4
  | .trace => 5

/-- The name of a level in a log line. -/
def name : Level → String
  | .error => "ERROR"
  | .warn => "WARN"
  | .info => "INFO"
  | .debug => "DEBUG"
  | .trace => "TRACE"

end Level

/-- The part of the system that a notice comes from. -/
inductive Source where
  | program
  | ring
  | session
  | memoryDevice
deriving DecidableEq, Repr

/-- The path by which log filters name a source. -/
def Source.path : Source → String
  | .program => "cadence"
  | .ring => "cadence_audio::playback"
  | .session => "cadence_audio::session"
  | .memoryDevice => "cadence_audio::memory"

/-- An event worth a line in the log. -/
inductive Notice where
  /-- The program begins. -/
  | starting (version : String)
  /-- The program plays under this configuration. -/
  | configured (config : Config)
  /-- There is no output device to play on. -/
  | noDeviceOutput
  /-- Playback of a tone begins. The frequency and the length are 32-bit binary numbers. -/
  | playing (frequency seconds : UInt32) (blockMs targetMs : Nat)
  /-- A block of the tone did not fit. -/
  | blockDropped
  /-- A block of the tone found no device. -/
  | retrying (blockMs : Nat)
  /-- How a playback is getting on. -/
  | progress (queuedMs : Nat) (isPlaying : Bool) (stats : Stats)
  /-- Playback of a tone has ended. -/
  | done (stats : Stats)
  /-- A ring was made. -/
  | ringCreated (geometry : Geometry)
  /-- A playing ring ran dry. -/
  | underrun
  /-- A playing ring holds more than its limit. -/
  | overrun (queued limit : Nat)
  /-- Frames were discarded. -/
  | framesDropped (count : Nat)
  /-- The device could not be stopped. -/
  | stopFailed (device : String) (error : Error)
  /-- The device was started. -/
  | started (device : String)
  /-- The device took frames. -/
  | framesWritten (count : Nat) (device : String)
  /-- A session was opened. -/
  | opened (device : String) (format : Format) (config : Config)
  /-- The device did not tell its backlog. -/
  | backlogUnknown (error : Error)
  /-- The device reported that it ran dry. -/
  | deviceUnderrun (device : String)
  /-- The device failed in a way that opening it anew does not mend. -/
  | deviceFailed (error : Error)
  /-- The device failed and is opened anew. -/
  | reopening (error : Error) (device : String)
  /-- The device was opened anew. -/
  | reopened (device : String) (attempt : Nat)
  /-- An attempt to open the device anew failed. -/
  | reopenFailed (attempt : Nat) (error : Error)
  /-- No attempt to open the device anew succeeded. -/
  | recoveryFailed (error : Error)
  /-- The device failed again after it was opened anew. -/
  | failedAgain (error : Error)
  /-- The memory device was opened anew. -/
  | memoryReopened
deriving DecidableEq, Repr

namespace Notice

/-- The part of the system that a notice comes from. -/
def source : Notice → Source
  | .starting _ | .configured _ | .noDeviceOutput | .playing .. | .blockDropped | .retrying _
  | .progress .. | .done _ => .program
  | .ringCreated _ | .underrun | .overrun .. | .framesDropped _ | .stopFailed .. | .started _
  | .framesWritten .. => .ring
  | .opened .. | .backlogUnknown _ | .deviceUnderrun _ | .deviceFailed _ | .reopening ..
  | .reopened .. | .reopenFailed .. | .recoveryFailed _ | .failedAgain _ => .session
  | .memoryReopened => .memoryDevice

/-- How much a notice matters. -/
def level : Notice → Level
  | .recoveryFailed _ | .failedAgain _ => .error
  | .noDeviceOutput | .retrying _ | .stopFailed .. | .deviceFailed _ | .reopening .. => .warn
  | .starting _ | .playing .. | .progress .. | .done _ | .opened .. | .reopened .. => .info
  | .configured _ | .blockDropped | .ringCreated _ | .underrun | .overrun .. | .started _
  | .backlogUnknown _ | .deviceUnderrun _ | .reopenFailed .. | .memoryReopened => .debug
  | .framesDropped _ | .framesWritten .. => .trace

/-- The wording of a notice. -/
def message : Notice → String
  | .starting version => s!"Starting Cadence v{version}"
  | .configured config => s!"Session config: {config.describe}"
  | .noDeviceOutput => "Built without device output, running headless"
  | .playing frequency seconds blockMs targetMs =>
    s!"Playing {Binary32.shortest frequency} Hz for {Binary32.fixed 1 seconds}s in " ++
      s!"{blockMs} ms blocks, target buffer {targetMs} ms"
  | .blockDropped => "Block dropped"
  | .retrying blockMs => s!"Audio device unavailable, retrying in {blockMs} ms"
  | .progress queuedMs isPlaying stats =>
    s!"queued {queuedMs} ms, playing {isPlaying}, underruns {stats.underruns}, " ++
      s!"overruns {stats.overruns}, dropped {stats.droppedFrames} frames"
  | .done stats =>
    s!"Done: {stats.queuedFramesTotal} frames queued, {stats.starts} starts, " ++
      s!"{stats.resets} resets, {stats.underruns} underruns, {stats.overruns} overruns, " ++
      s!"{stats.droppedFrames} dropped"
  | .ringCreated geometry =>
    s!"Ring buffer: {geometry.capacityFrames} frames x {geometry.frameSize} bytes, " ++
      s!"start at {geometry.lowFrames} frames, flush above {geometry.highFrames} frames"
  | .underrun => "Underrun, resetting playback"
  | .overrun queued limit => s!"Overrun: {queued} frames queued, limit {limit}"
  | .framesDropped count => s!"Dropped {count} frames, ring cannot hold them"
  | .stopFailed device error => s!"Failed to stop {device}: {error.message}"
  | .started device => s!"Playback started on {device}"
  | .framesWritten count device => s!"Wrote {count} frames to {device}"
  | .opened device format config =>
    s!"Audio session opened on {device}: {format.sampleFormat.tag} x{format.channels} @ " ++
      s!"{format.sampleRate} Hz, buffer {config.lowWatermarkMs}-{config.highWatermarkMs} ms"
  | .backlogUnknown error => s!"Could not query hardware backlog: {error.message}"
  | .deviceUnderrun device => s!"{device} reported an underrun, playback reset"
  | .deviceFailed error => s!"Audio device error: {error.message}"
  | .reopening error device => s!"{error.message}. Re-initializing {device}"
  | .reopened device attempt => s!"Re-initialized {device} (attempt {attempt})"
  | .reopenFailed attempt error => s!"Reopen attempt {attempt} failed: {error.message}"
  | .recoveryFailed error => s!"Failed to re-initialize audio device: {error.message}"
  | .failedAgain error =>
    s!"Audio device failed again after re-initialization: {error.message}"
  | .memoryReopened => "Memory device reopened"

/-- The line of a notice in the log. -/
def line (notice : Notice) : String :=
  s!"{notice.level.name} {notice.message}"

end Notice

end Playout
