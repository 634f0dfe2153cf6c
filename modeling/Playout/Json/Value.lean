/-
**JSON values and how they are read from tokens.**

A value keeps its literals as they were written. Tokens are read one at a time by a machine with an
explicit stack: a frame of the stack is an array or an object that has been opened and not yet
closed, with what it holds so far in reverse. So a value of any depth is read by a plain fold over
the tokens.

* `Value.read?`: the value of a text, blanks allowed around and between the tokens;
* `Value.written`: the text of a value without blanks.
-/
import Playout.Json.Token

namespace Playout.Json

/-- A JSON value with its literals as they were written. -/
inductive Value where
  | null
  | boolean (value : Bool)
  | number (literal : List Char)
  | string (body : List Char)
  | array (elements : List Value)
  | object (members : List (List Char × Value))

/-- An array or object that is still open, with what it holds so far in reverse. -/
inductive Frame where
  | array (elements : List Value)
  /-- An object that waits for the value of a key. -/
  | object (members : List (List Char × Value)) (key : List Char)

/-- What has to come next. -/
inductive State where
  /-- A value. -/
  | atValue (stack : List Frame)
  /-- The first element of an array, or its end. -/
  | atFirstElement (stack : List Frame)
  /-- The first key of an object, or its end. -/
  | atFirstKey (stack : List Frame)
  /-- Another key of an object. -/
  | atKey (stack : List Frame) (members : List (List Char × Value))
  /-- The colon after a key. -/
  | atColon (stack : List Frame) (members : List (List Char × Value)) (key : List Char)
  /-- Whatever may follow a complete value. -/
  | after (stack : List Frame) (value : Value)

/-- Take the first token of a value. -/
def State.begin? (stack : List Frame) : Token → Option State
  | .null => some (.after stack .null)
  | .boolean value => some (.after stack (.boolean value))
  | .number literal => some (.after stack (.number literal))
  | .string body => some (.after stack (.string body))
  | .openArray => some (.atFirstElement stack)
  | .openObject => some (.atFirstKey stack)
  | _ => none

/-- Take the token after a complete value. -/
def State.resume? : List Frame → Value → Token → Option State
  | .array elements :: stack, value, .comma =>
    some (.atValue (.array (value :: elements) :: stack))
  | .array elements :: stack, value, .closeArray =>
    some (.after stack (.array (value :: elements).reverse))
  | .object members key :: stack, value, .comma =>
    some (.atKey stack ((key, value) :: members))
  | .object members key :: stack, value, .closeObject =>
    some (.after stack (.object ((key, value) :: members).reverse))
  | _, _, _ => none

/-- Take one token. -/
def State.step? : State → Token → Option State
  | .atValue stack, token => begin? stack token
  | .atFirstElement stack, .closeArray => some (.after stack (.array []))
  | .atFirstElement stack, token => begin? (.array [] :: stack) token
  | .atFirstKey stack, .closeObject => some (.after stack (.object []))
  | .atFirstKey stack, .string key => some (.atColon stack [] key)
  | .atKey stack members, .string key => some (.atColon stack members key)
  | .atColon stack members key, .colon => some (.atValue (.object members key :: stack))
  | .after stack value, token => resume? stack value token
  | _, _ => none

/-- Take tokens up to the end. -/
def State.run? : State → List Token → Option State
  | state, [] => some state
  | state, token :: rest => (state.step? token).bind fun next => next.run? rest

namespace Value

/-- The value that tokens stand for, if they are those of one value. -/
def ofTokens? (tokens : List Token) : Option Value :=
  match State.run? (.atValue []) tokens with
  | some (.after [] value) => some value
  | _ => none

/-- The value of a text. -/
def read? (text : String) : Option Value :=
  (tokens? text.toList).bind ofTokens?

mutual

/-- The tokens of a value. -/
def tokens : Value → List Token
  | .null => [.null]
  | .boolean value => [.boolean value]
  | .number literal => [.number literal]
  | .string body => [.string body]
  | .array [] => [.openArray, .closeArray]
  | .array (first :: rest) => .openArray :: first.tokens ++ elementTokens rest
  | .object [] => [.openObject, .closeObject]
  | .object ((key, first) :: rest) =>
    .openObject :: .string key :: .colon :: first.tokens ++ memberTokens rest

/-- The tokens of the further elements of an array, up to its end. -/
def elementTokens : List Value → List Token
  | [] => [.closeArray]
  | value :: rest => .comma :: value.tokens ++ elementTokens rest

/-- The tokens of the further members of an object, up to its end. -/
def memberTokens : List (List Char × Value) → List Token
  | [] => [.closeObject]
  | (key, value) :: rest => .comma :: .string key :: .colon :: value.tokens ++ memberTokens rest

end

/-- The text of a value, without blanks. -/
def written (value : Value) : String :=
  String.ofList (value.tokens.flatMap Token.text)

/-- The value for a natural number. -/
def ofNat (number : Nat) : Value := .number (Nat.toDigits 10 number)

end Value

end Playout.Json
