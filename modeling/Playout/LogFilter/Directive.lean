/-
**The directives of a log filter.**

A directive is written `target[span{field=value}]=level`. Every part can be left out, except that a
directive is not empty; a level alone stands for all targets, and a level that is left out is the
most detailed one.

The form of a directive is that of its text without the blanks around it, but its parts are cut from
the whole text at the offsets that they have in the form. So a blank in front pushes every part to
the left by its size, and a directive whose parts then begin inside a character has no meaning at
all (`Flaw.cutCharacter`). Offsets count the bytes of a text in UTF-8, and a text is cut only between
characters (`Text.splitBytes?`).
-/
import Playout.Binary32.Reading
import Playout.Notice
import Playout.Pattern

namespace Playout

namespace Text

/-- Split off the characters that fill a number of bytes. -/
def splitBytes? (bytes : Nat) : List Char → Option (List Char × List Char)
  | [] => if bytes = 0 then some ([], []) else none
  | c :: rest =>
    if bytes = 0 then some ([], c :: rest)
    else if c.utf8Size ≤ bytes then
      (splitBytes? (bytes - c.utf8Size) rest).map fun parts => (c :: parts.1, parts.2)
    else none

/-- The text from one offset up to another. -/
def cut? (start stop : Nat) (text : List Char) : Option (List Char) :=
  (splitBytes? start text).bind fun parts =>
    (splitBytes? (stop - start) parts.2).map Prod.fst

end Text

/-- A field that a directive asks for. -/
structure FieldRule where
  name : String
  /-- The value that the field must have, if not any. -/
  value : Option String
deriving DecidableEq, Repr

/-- One rule of a log filter. -/
structure Directive where
  /-- The beginning of the source paths that the directive is for. -/
  target : Option String := none
  /-- The name of the spans that the directive is for. -/
  span : Option String := none
  /-- The field that a span or a notice must have. -/
  field : Option FieldRule := none
  /-- The rank of the most detailed level that is shown; zero shows nothing. -/
  detail : Nat := Level.trace.detail
deriving DecidableEq, Repr

namespace Directive

/-- Why a directive cannot be read. -/
inductive Flaw where
  | unreadable
  | cutCharacter
deriving DecidableEq, Repr

/-- The ranks of the named levels, with `off` for none. -/
def levelNames : List (String × Nat) :=
  [("off", 0), ("error", 1), ("warn", 2), ("info", 3), ("debug", 4), ("trace", 5)]

/-- The rank that a text names, by a word in any case or by a number. -/
def level? (text : List Char) : Option Nat :=
  match Numeral.read 10 5 text with
  | .ok rank => some rank
  | .error _ => levelNames.lookup (String.ofList (text.map Char.toLower))

/-- Whether a text can be asked for as a value: it is a number or a pattern. -/
def isValue (text : String) : Bool :=
  (Binary32.parse? text).isSome || Pattern.isPattern text.toList

/-- Read a field: a name, and a value after an equals sign. A further equals sign ends the value. -/
def readField (text : List Char) : Except Flaw FieldRule :=
  let name := String.ofList (text.takeWhile (· ≠ '='))
  if text.isEmpty then .error .unreadable
  else
    match text.dropWhile (· ≠ '=') with
    | [] => .ok ⟨name, none⟩
    | _ :: rest =>
      let value := String.ofList (rest.takeWhile (· ≠ '='))
      if isValue value then .ok ⟨name, some value⟩ else .error .unreadable

/-- How far a directive is read. A number is the offset at which the open part begins. -/
inductive Stage where
  | start
  | head
  | span (opened : Nat)
  | field (opened : Nat)
  | fieldClosed
  | spanClosed
  | level (opened : Nat)
deriving DecidableEq, Repr

/-- A character with which a directive can start, if not with a span. -/
def startsHead (c : Char) : Bool := Text.isAlphanumeric c || c ∈ ['-', ':', '_']

/-- The part of a text between two offsets. -/
def cut (text : List Char) (start stop : Nat) : Except Flaw (List Char) :=
  match Text.cut? start stop text with
  | some part => .ok part
  | none => .error .cutCharacter

/-- Read the next character of the form. -/
def step (text : List Char) (offset : Nat) (directive : Directive) (stage : Stage) (c : Char) :
    Except Flaw (Directive × Stage) :=
  match stage with
  | .start =>
    if c = '[' then .ok (directive, .span (offset + 1))
    else if startsHead c then .ok (directive, .head)
    else .error .unreadable
  | .head =>
    if c = '=' ∨ c = '[' then
      (cut text 0 offset).map fun path =>
        ({ directive with target := some (String.ofList path) },
          if c = '=' then .level (offset + 1) else .span (offset + 1))
    else .ok (directive, .head)
  | .span opened =>
    if c = ']' then
      (cut text opened offset).map fun name =>
        ({ directive with span := some (String.ofList name) }, .spanClosed)
    else if c = '{' then
      (cut text opened offset).map fun name =>
        ({ directive with span := if name.isEmpty then none else some (String.ofList name) },
          .field (offset + 1))
    else .ok (directive, stage)
  | .field opened =>
    if c = '}' then
      (cut text opened offset).bind fun part =>
        (readField part).map fun field =>
          ({ directive with field := some field }, .fieldClosed)
    else .ok (directive, stage)
  | .fieldClosed => if c = ']' then .ok (directive, .spanClosed) else .error .unreadable
  | .spanClosed => if c = '=' then .ok (directive, .level (offset + 1)) else .error .unreadable
  | .level _ => .ok (directive, stage)

/-- The level of a directive in words; none is the most detailed one. -/
def withLevel (directive : Directive) (word : List Char) : Except Flaw Directive :=
  if word.isEmpty then .ok directive
  else
    match level? word with
    | some rank => .ok { directive with detail := rank }
    | none => .error .unreadable

/-- The directive at the end of the form. -/
def finish (text : List Char) (directive : Directive) : Stage → Except Flaw Directive
  | .head =>
    match level? text with
    | some rank => .ok { directive with detail := rank }
    | none => .ok { directive with target := some (String.ofList text) }
  | .level opened => (cut text opened (String.ofList text).utf8ByteSize).bind directive.withLevel
  | .spanClosed => .ok directive
  | _ => .error .unreadable

/-- Read the rest of the form, from an offset on. -/
def readOn (text : List Char) (offset : Nat) (directive : Directive) (stage : Stage) :
    List Char → Except Flaw Directive
  | [] => finish text directive stage
  | c :: rest =>
    (step text offset directive stage c).bind fun (directive, stage) =>
      readOn text (offset + c.utf8Size) directive stage rest

/-- Read a directive. -/
def read (text : List Char) : Except Flaw Directive :=
  readOn text 0 {} .start (Text.trimBlanks text)

example : (read "cadence[{message}]=debug".toList).toOption =
    some { target := some "cadence", field := some ⟨"message", none⟩, detail := 4 } := by
  decide +kernel

example : (read " debug".toList).toOption = some { target := some " debug" } := by decide +kernel

/-! ### What a directive decides -/

/-- The directive decides on notices by itself, whatever span they are in. -/
def isStatic (directive : Directive) : Bool :=
  directive.span.isNone && directive.field.all fun field => field.value.isNone

/-- The directive decides on the notices of a source. All that a notice has is a message. -/
def concerns (directive : Directive) (source : Source) : Bool :=
  directive.isStatic &&
    (directive.target.all fun path => path.toList.isPrefixOf source.path.toList) &&
    directive.field.all fun field => field.name = "message"

/-- The size of the target; no target is less than any. -/
def targetSize (directive : Directive) : Nat :=
  directive.target.elim 0 fun path => path.utf8ByteSize + 1

/-- The directive says at least as much on what it is for as another one: its target is longer, or
as long, and it asks for a field if the other does. -/
def isAsSpecific (directive other : Directive) : Bool :=
  other.targetSize < directive.targetSize ||
    (other.targetSize = directive.targetSize &&
      (other.field.isNone || directive.field.isSome))

end Directive

end Playout
