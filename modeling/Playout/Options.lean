/-
**The settings of the program.**

A setting is named by its long option and takes a value; a switch is named by its long option and
takes none. `Options.assign?` gives a setting the value that a text stands for, and fails when the
text stands for none.
-/
import Playout.Binary32.Reading
import Playout.Numeral

namespace Playout

/-- What the program is run with. Frequency, length and volume are 32-bit binary numbers. -/
structure Options where
  /-- The file with the configuration. -/
  config : Option String := none
  /-- The name of the output device. -/
  device : Option String := none
  noFallback : Bool := false
  headless : Bool := false
  listDevices : Bool := false
  /-- The pitch of the tone in hertz. -/
  frequency : UInt32 := Binary32.encode false 440
  /-- The length of the tone. -/
  seconds : UInt32 := Binary32.encode false 3
  /-- The length of one block in milliseconds. -/
  blockMs : UInt32 := 10
  /-- The name of the sample format. -/
  format : String := "i16"
  channels : UInt16 := 2
  sampleRate : UInt32 := 48000
  channelMask : Option UInt32 := none
  volume : UInt32 := Binary32.encode false (1 / 5)
deriving DecidableEq, Repr

/-- The options without a value. -/
inductive Switch where
  | noFallback
  | headless
  | listDevices
deriving DecidableEq, Repr

/-- The options with a value. -/
inductive Setting where
  | config
  | device
  | frequency
  | seconds
  | blockMs
  | format
  | channels
  | sampleRate
  | channelMask
  | volume
deriving DecidableEq, Repr

/-- The options by what they do. -/
inductive OptionKind where
  | switch (switch : Switch)
  | setting (setting : Setting)
  | help
  | version
deriving DecidableEq, Repr

/-- The option with a long name. -/
def OptionKind.ofName? (name : String) : Option OptionKind :=
  [("config", .setting .config), ("device", .setting .device),
   ("no-fallback", .switch .noFallback), ("headless", .switch .headless),
   ("list-devices", .switch .listDevices), ("frequency", .setting .frequency),
   ("seconds", .setting .seconds), ("block-ms", .setting .blockMs),
   ("format", .setting .format), ("channels", .setting .channels),
   ("sample-rate", .setting .sampleRate), ("channel-mask", .setting .channelMask),
   ("volume", .setting .volume), ("help", .help), ("version", .version)].lookup name

namespace Options

/-- Turn a switch on. -/
def enable (options : Options) : Switch → Options
  | .noFallback => { options with noFallback := true }
  | .headless => { options with headless := true }
  | .listDevices => { options with listDevices := true }

/-- The natural number that a text stands for, if it is not above a limit. A sign is allowed, and a
minus before zero. -/
def natural? (limit : Nat) (text : String) : Option Nat :=
  let (negative, digits) := Binary32.splitSign text.toList
  if digits.isEmpty || !digits.all Char.isDigit then none
  else
    let number := Nat.ofDigitChars 10 digits 0
    if limit < number ∨ (negative ∧ number ≠ 0) then none else some number

/-- Give a setting the value that a text stands for. -/
def assign? (options : Options) (setting : Setting) (text : String) : Option Options :=
  match setting with
  | .config => some { options with config := some text }
  | .device => some { options with device := some text }
  | .frequency => (Binary32.parse? text).map fun bits => { options with frequency := bits }
  | .seconds => (Binary32.parse? text).map fun bits => { options with seconds := bits }
  | .blockMs =>
    (natural? (UInt32.size - 1) text).map fun number =>
      { options with blockMs := UInt32.ofNat number }
  | .format => some { options with format := text }
  | .channels =>
    (natural? (UInt16.size - 1) text).map fun number =>
      { options with channels := UInt16.ofNat number }
  | .sampleRate =>
    (natural? (UInt32.size - 1) text).map fun number =>
      { options with sampleRate := UInt32.ofNat number }
  | .channelMask =>
    match ChannelMask.read text with
    | .ok mask => some { options with channelMask := some mask }
    | .error _ => none
  | .volume => (Binary32.parse? text).map fun bits => { options with volume := bits }

end Options

end Playout
