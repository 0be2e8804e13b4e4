import Drafting.CommandLine

/-!
# The program

Runs the command line on the files of the system.
-/

namespace Drafting

def failureOf : IO.Error -> FileFailure
  | .noFileOrDirectory .. => .notFound
  | .inappropriateType _ code _ => if code = 20 then .notDirectory else .isDirectory
  | .permissionDenied _ code details =>
      .other (details ++ " (os error " ++ Decimal.counted code.toNat ++ ")")
  | e => .other (toString e)

def readContent (path : String) : IO Content := do
  match ← (IO.FS.readBinFile path).toBaseIO with
  | .ok bytes => return textOfBytes bytes
  | .error e => return .error (failureOf e)

end Drafting

def main (arguments : List String) : IO UInt32 := do
  let environment ← IO.getEnv "VDRAW_CONFIG"
  let outcome ← Drafting.CommandLine.run Drafting.readContent environment arguments
  IO.print outcome.shown
  if outcome.complaint ≠ "" then IO.eprintln outcome.complaint
  return outcome.exitCode.toUInt32
