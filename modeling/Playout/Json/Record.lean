/-
**Reading records from JSON values.**

A record is written as an object, or as an array of its fields in order. In an object the order is
free, a member under a name that is not a field is passed over, and a field given twice is refused;
every key has to be meaningful text. In an array fields may be missing at the end, and none may
follow the last. What a missing field means is up to each field: a default, or a refusal.
-/
import Playout.Json.Unescape
import Playout.Json.Value

namespace Playout.Json

/-- The values given for one field, if it is given at most once. -/
def atMostOne : List Value → Option (Option Value)
  | [] => some none
  | [value] => some (some value)
  | _ => none

/-- Give the members of an object the text of their keys. -/
def nameMembers? (members : List (List Char × Value)) : Option (List (String × Value)) :=
  members.mapM fun (key, value) => (unescape? key).map fun name => (name, value)

namespace Value

/-- What a value gives for each field of a record. -/
def fields? (names : List String) : Value → Option (List (Option Value))
  | .array elements =>
    if names.length < elements.length then none
    else some ((List.range names.length).map fun index => elements[index]?)
  | .object members =>
    (nameMembers? members).bind fun named =>
      names.mapM fun name =>
        atMostOne ((named.filter fun member => member.1 = name).map Prod.snd)
  | _ => none

/-- The natural number that a value is, if it is one and not above a limit. -/
def natural? (limit : Nat) : Value → Option Nat
  | .number literal =>
    if literal.all Char.isDigit then
      let number := Nat.ofDigitChars 10 literal 0
      if number ≤ limit then some number else none
    else none
  | _ => none

/-- The 16-bit word that a value is. -/
def word16? (value : Value) : Option UInt16 :=
  (value.natural? (UInt16.size - 1)).map UInt16.ofNat

/-- The 32-bit word that a value is. -/
def word32? (value : Value) : Option UInt32 :=
  (value.natural? (UInt32.size - 1)).map UInt32.ofNat

/-- The 64-bit word that a value is. -/
def word64? (value : Value) : Option UInt64 :=
  (value.natural? (UInt64.size - 1)).map UInt64.ofNat

/-- Read a field that may be missing. -/
def orDefault {α : Type} (read : Value → Option α) (default : α) : Option Value → Option α
  | none => some default
  | some value => read value

/-- Read a value that may be null. -/
def orNull? {α : Type} (read : Value → Option α) : Value → Option (Option α)
  | .null => some none
  | value => (read value).map some

/-- The name of a choice without content: a string, or an object with the name as its only key
and null as its value. -/
def choice? : Value → Option String
  | .string body => unescape? body
  | .object [(key, .null)] => unescape? key
  | _ => none

end Value

end Playout.Json
