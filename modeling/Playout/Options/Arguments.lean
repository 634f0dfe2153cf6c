/-
**Reading the settings from command line arguments.**

Arguments are read from left to right, and the first refusal decides. An option may be given once,
as `--name value` or `--name=value`; `-h` and `-V` are short for `--help` and `--version`. There
are no other arguments.

A value that stands apart from its option is taken up with the next argument (`Progress.settle`):
an argument that names no option is refused before the value is looked at, and a repeated option is
refused before its second value is.
-/
import Playout.Options

namespace Playout

/-- Why arguments give no settings. -/
inductive Refusal where
  /-- An argument that is no option, or a value without one. -/
  | unknownArgument
  /-- An option without its value, or an empty file name. -/
  | missingValue
  /-- A value that the option cannot have. -/
  | badValue
  /-- A value for an option without one. -/
  | excessValue
  /-- An option given twice. -/
  | repeated
  /-- The help text is asked for. -/
  | help
  /-- The version is asked for. -/
  | version
deriving DecidableEq, Repr

/-- How far the arguments have been read. -/
structure Progress where
  options : Options := {}
  /-- The settings that have a value. -/
  given : List Setting := []
  /-- The switches that are on. -/
  enabled : List Switch := []
  /-- A setting whose value stands apart, with the value once it is read. -/
  pending : Option (Setting × Option String) := none
  /-- The marker `--` was read, after which no option may come. -/
  ended : Bool := false

namespace Progress

/-- Give a setting its value. -/
def assign (progress : Progress) (setting : Setting) (text : String) :
    Except Refusal Progress :=
  if setting ∈ progress.given then .error .repeated
  else if setting = .config ∧ text.isEmpty then .error .missingValue
  else
    match progress.options.assign? setting text with
    | none => .error .badValue
    | some options =>
      .ok { progress with options := options, given := setting :: progress.given }

/-- Take up a value that stands apart from its option. -/
def settle (progress : Progress) : Except Refusal Progress :=
  match progress.pending with
  | none => .ok progress
  | some (_, none) => .error .missingValue
  | some (setting, some text) => { progress with pending := none }.assign setting text

/-- Turn a switch on. -/
def enable (progress : Progress) (switch : Switch) : Except Refusal Progress :=
  if switch ∈ progress.enabled then .error .repeated
  else
    .ok
      { progress with
        options := progress.options.enable switch
        enabled := switch :: progress.enabled }

/-- Read an option by its kind, with the value that is attached to it. -/
def readOption (progress : Progress) : OptionKind → Option String → Except Refusal Progress
  | .setting setting, some value =>
    progress.settle.bind fun settled => settled.assign setting value
  | .setting setting, none =>
    progress.settle.map fun settled => { settled with pending := some (setting, none) }
  | _, some _ => .error .excessValue
  | .switch switch, none => progress.settle.bind fun settled => settled.enable switch
  | .help, none => progress.settle.bind fun _ => .error .help
  | .version, none => progress.settle.bind fun _ => .error .version

/-- Read an argument that starts with two dashes, given without these. -/
def readLong (progress : Progress) (text : List Char) : Except Refusal Progress :=
  let name := text.takeWhile (· ≠ '=')
  let value :=
    match text.dropWhile (· ≠ '=') with
    | [] => none
    | _ :: value => some (String.ofList value)
  match OptionKind.ofName? (String.ofList name) with
  | none => .error .unknownArgument
  | some kind => progress.readOption kind value

/-- Read an argument that starts with one dash, by the letter after it. -/
def readShort (progress : Progress) (letter : Char) : Except Refusal Progress :=
  if letter = 'h' then progress.readOption .help none
  else if letter = 'V' then progress.readOption .version none
  else .error .unknownArgument

/-- Read an argument that is no option: the value of the option before it, or nothing. -/
def readValue (progress : Progress) (text : String) : Except Refusal Progress :=
  match progress.pending with
  | some (setting, none) => .ok { progress with pending := some (setting, some text) }
  | _ => .error .unknownArgument

/-- Read one argument. -/
def read (progress : Progress) (argument : String) : Except Refusal Progress :=
  if progress.ended then .error .unknownArgument
  else
    match argument.toList with
    | ['-', '-'] => .ok { progress with ended := true }
    | '-' :: '-' :: text => progress.readLong text
    | '-' :: letter :: _ => progress.readShort letter
    | _ => progress.readValue argument

end Progress

/-- The settings that arguments give. -/
def Options.ofArguments (arguments : List String) : Except Refusal Options :=
  (arguments.foldlM Progress.read {}).bind fun progress =>
    progress.settle.map fun settled => settled.options

end Playout
