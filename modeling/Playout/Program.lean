/-
**The program: from arguments to a played tone.**

`run` is the whole program as a function of its arguments, of the files it may read and of the
course of time, which is given for each sample rate and length of a block. It does everything but
show its notices and its end; `observe` is what is seen of it. There is no output device to play on,
so the tone is played into memory, where one block is drained at every look at the queue.

The steps are taken in a fixed order, and the first that fails ends the run: the arguments, the list
of devices if it is asked for, the configuration, the sample format, the format, the block length.
-/
import Playout.Device.Memory
import Playout.Document
import Playout.LogFilter
import Playout.Options.Arguments
import Playout.Player

namespace Playout

/-- A failure of the program: what could not be done, and why. -/
structure Failure where
  message : String
  causes : List String := []
deriving DecidableEq, Repr

namespace Failure

/-- An error that ends the program without further explanation. -/
def ofError (error : Error) : Failure := ⟨error.message, error.causes.tail⟩

/-- The lines that show a failure. Several causes are numbered. -/
def lines (failure : Failure) : List String :=
  let shown :=
    match failure.causes with
    | [] => []
    | [cause] => ["", "Caused by:", s!"    {cause}"]
    | causes => "" :: "Caused by:" :: causes.mapIdx fun index cause => s!"    {index}: {cause}"
  s!"Error: {failure.message}" :: shown

end Failure

/-- How the program ends. -/
inductive Ending where
  | success
  | failed (failure : Failure)
  | refused (refusal : Refusal)
  | faulted (fault : Fault)
deriving DecidableEq, Repr

namespace Ending

/-- The exit code of the program. -/
def exitCode : Ending → Nat
  | .success => 0
  | .failed _ => 1
  | .refused .help => 0
  | .refused .version => 0
  | .refused _ => 2
  | .faulted _ => 101

end Ending

/-- What a run of the program leaves behind. -/
structure Run where
  notices : List Notice
  ending : Ending

namespace Program

/-- The version of the program. -/
def version : String := "0.1.0"

/-- Why the devices cannot be listed. -/
def noDeviceList : Failure :=
  ⟨"built without device output; rebuild with the `cpal` feature", []⟩

/-- Drain one block of frames, as a device would. -/
def drainBlock (format : Format) (blockMs : Nat) (ring : Ring) : Ring :=
  let frames := framesForMs format.sampleRate.toNat blockMs
  (ring.drain (Ring.silence (frames * format.frameSize))).1

/-- Time as it passes while a tone is sent without delay: a wait lasts as long as the sleeps between
its looks, and a report is due whenever one more second of the tone is complete. A report that the
log hides is made all the same, since memory that is never lost does not mind one more look. -/
def steadyClock (sampleRate blockMs : Nat) : Clock where
  pause sent :=
    { looks := 2 * blockMs
      reports := (sent - framesForMs sampleRate blockMs) / sampleRate < sent / sampleRate }
  drainLooks := 400

/-- Play into memory. One block is drained between any two looks. -/
def headless (clock : Nat → Nat → Clock) (options : Options) (format : Format) (config : Config) :
    Run :=
  let blockMs := options.blockMs.toNat
  let waiting : Waiting :=
    { clock format.sampleRate.toNat blockMs with meanwhile := drainBlock format blockMs }
  match Session.create MemoryDevice.callback format config with
  | .error error => ⟨[], .failed (.ofError error)⟩
  | .ok session =>
    match Player.play .standard options config waiting session with
    | .error fault => ⟨session.feed.journal.notices, .faulted fault⟩
    | .ok played => ⟨played.feed.journal.notices, .success⟩

/-- The configuration that the options ask for. -/
def loadConfig (options : Options) (files : String → Except IoCause ByteArray) :
    Except Failure Config :=
  match options.config with
  | none => .ok {}
  | some path =>
    match Config.ofContents (files path) with
    | .ok config => .ok config
    | .error error => .error ⟨s!"Failed to load config from {path}", error.causes⟩

/-- The format that the options ask for. -/
def chooseFormat (options : Options) : Except Failure Format :=
  match SampleFormat.parse options.format with
  | .error error => .error (.ofError error)
  | .ok sampleFormat =>
    let format : Format :=
      ⟨sampleFormat, options.channels, options.sampleRate, options.channelMask⟩
    match format.validate with
    | .error error => .error (.ofError error)
    | .ok () => .ok format

/-- Play under a configuration. -/
def playWith (clock : Nat → Nat → Clock) (options : Options) (config : Config) : Run :=
  match chooseFormat options with
  | .error failure => ⟨[], .failed failure⟩
  | .ok format =>
    if options.blockMs = 0 then ⟨[], .failed ⟨"--block-ms must be at least 1", []⟩⟩
    else
      let played := headless clock options format config
      if options.headless then played
      else { played with notices := .noDeviceOutput :: played.notices }

/-- Run with the settings that the arguments gave. -/
def runWith (clock : Nat → Nat → Clock) (options : Options)
    (files : String → Except IoCause ByteArray) : Run :=
  if options.listDevices then ⟨[], .failed noDeviceList⟩
  else
    match loadConfig options files with
    | .error failure => ⟨[], .failed failure⟩
    | .ok config =>
      let played := playWith clock options config
      { played with notices := .configured config :: played.notices }

/-- Run the program. -/
def run (clock : Nat → Nat → Clock) (arguments : List String)
    (files : String → Except IoCause ByteArray) : Run :=
  let ended : Run :=
    match Options.ofArguments arguments with
    | .error refusal => ⟨[], .refused refusal⟩
    | .ok options => runWith clock options files
  { ended with notices := .starting version :: ended.notices }

/-- What is seen of a run: the notices that the log filter shows, and the end. A filter that cannot
be obeyed ends the program before it begins. -/
def observe (clock : Nat → Nat → Clock) (setting : Option String) (arguments : List String)
    (files : String → Except IoCause ByteArray) : Run :=
  match LogFilter.ofSetting setting with
  | .error _ => ⟨[], .faulted .cutCharacter⟩
  | .ok filter =>
    let ended := run clock arguments files
    { ended with notices := ended.notices.filter filter.shows }

end Program

end Playout
