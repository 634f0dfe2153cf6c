/-
**The command line program.**

It reads the file that the arguments name and shows what is seen of the run.
-/
import Playout.Program

namespace Playout.Program

/-- The bytes of a file, or why it cannot be read. -/
def readBytes (path : String) : IO (Except IoCause ByteArray) := do
  try
    return .ok (← IO.FS.readBinFile path)
  catch
    | .noFileOrDirectory .. => return .error .notFound
    | .inappropriateType _ code _ =>
      return .error (if code = 21 then .isDirectory else .notDirectory)
    | .invalidArgument .. => return .error .nameTooLong
    | error => return .error (.other (toString error))

/-- The line that tells why the arguments are refused. -/
def refusalLine : Refusal → String
  | .unknownArgument => "error: unexpected argument"
  | .missingValue => "error: an option is missing its value"
  | .badValue => "error: invalid value for an option"
  | .excessValue => "error: unexpected value for an option"
  | .repeated => "error: an option cannot be used multiple times"
  | .help => "Usage: cadence [OPTIONS]"
  | .version => s!"cadence {version}"

end Playout.Program

open Playout

/-- Run the program on its arguments. -/
def main (arguments : List String) : IO UInt32 := do
  let path := (Options.ofArguments arguments).toOption.bind Options.config
  let contents ← path.mapM Program.readBytes
  let setting ← IO.getEnv "RUST_LOG"
  let ended := Program.observe Program.steadyClock setting arguments fun _ =>
    contents.getD (.error .notFound)
  for notice in ended.notices do
    IO.println notice.line
  match ended.ending with
  | .success => pure ()
  | .failed failure => failure.lines.forM IO.eprintln
  | .refused refusal =>
    if ended.ending.exitCode = 0 then IO.println (Program.refusalLine refusal)
    else IO.eprintln (Program.refusalLine refusal)
  | .faulted fault => IO.eprintln fault.message
  return UInt32.ofNat ended.ending.exitCode
