/-
**What can go wrong while audio is configured, opened or played.**

An `Error` names its cause; `Error.message` is the only place where the wording lives. Two questions
decide how a session recovers:

* `Error.needsReopen`: the device handle has to be created anew before it takes audio again;
* `Error.isUnderrun`: the device itself reports that it ran dry.

No error is both (`not_needsReopen_of_isUnderrun`).
-/

namespace Playout

/-- Why a file could not be read as text. -/
inductive IoCause where
  | notFound
  | notDirectory
  | isDirectory
  | nameTooLong
  | notText
  | other (detail : String)
deriving DecidableEq, Repr

/-- The wording of a file error. -/
def IoCause.message : IoCause → String
  | .notFound => "No such file or directory (os error 2)"
  | .notDirectory => "Not a directory (os error 20)"
  | .isDirectory => "Is a directory (os error 21)"
  | .nameTooLong => "File name too long (os error 36)"
  | .notText => "stream did not contain valid UTF-8"
  | .other detail => detail

/-- The causes of failure of a device call, a configuration or a format. -/
inductive Error where
  | audioOutput (detail : String)
  | deviceLost (detail : String)
  | underrun
  | unsupportedFormat (detail : String)
  | invalidArgument (detail : String)
  | config (detail : String)
  | io (cause : IoCause)
  | json (detail : String)
deriving DecidableEq, Repr

namespace Error

/-- The wording of an error. -/
def message : Error → String
  | .audioOutput detail => s!"Audio output error: {detail}"
  | .deviceLost detail => s!"Audio device lost: {detail}"
  | .underrun => "Audio device underrun"
  | .unsupportedFormat detail => s!"Unsupported audio format: {detail}"
  | .invalidArgument detail => s!"Invalid argument: {detail}"
  | .config detail => s!"Configuration error: {detail}"
  | .io cause => s!"IO error: {cause.message}"
  | .json detail => s!"JSON error: {detail}"

/-- The wording of an error, followed by that of what caused it. -/
def causes (error : Error) : List String :=
  error.message ::
    match error with
    | .io cause => [cause.message]
    | .json detail => [detail]
    | _ => []

/-- The device handle has to be created anew before it can take audio again. -/
def needsReopen : Error → Bool
  | .deviceLost _ => true
  | .audioOutput _ => true
  | _ => false

/-- The device reports that it ran dry. -/
def isUnderrun : Error → Bool
  | .underrun => true
  | _ => false

theorem not_needsReopen_of_isUnderrun {error : Error} (dry : error.isUnderrun) :
    error.needsReopen = false := by
  cases error <;> simp_all [isUnderrun, needsReopen]

theorem isUnderrun_iff {error : Error} : error.isUnderrun ↔ error = .underrun := by
  cases error <;> simp [isUnderrun]

end Error

end Playout
