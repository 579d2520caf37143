import PropertyStore.CommandLine

/-!
# The command line

The program at work: it reads the file from the file system, writes what there is to
write, and ends with its exit code.
-/

namespace PropertyStore.CommandLine

/-- What the operating system says of a failure, with its number. -/
def faultText : IO.Error → String
  | .alreadyExists _ code details | .inappropriateType _ code details
  | .interrupted _ code details | .invalidArgument _ code details
  | .noFileOrDirectory _ code details | .noSuchThing _ code details
  | .permissionDenied _ code details | .resourceExhausted _ code details
  | .hardwareFault code details | .illegalOperation code details
  | .otherError code details | .protocolError code details
  | .resourceBusy code details | .resourceVanished code details
  | .timeExpired code details | .unsatisfiedConstraints code details
  | .unsupportedOperation code details => s!"{details} (os error {code})"
  | .unexpectedEof => "unexpected end of file"
  | .userError details => details

/-- The bytes of a file, or why it cannot be read. -/
def readFile (path : String) : IO (Except String (Array UInt8)) := do
  try
    let handle ← IO.FS.Handle.mk path .read
    return .ok (← handle.readBinToEnd).data
  catch e =>
    return .error (faultText e)

end PropertyStore.CommandLine

open PropertyStore.CommandLine in
/-- The program. -/
def main (args : List String) : IO UInt32 := do
  let outcome ← run readFile args
  IO.print outcome.output
  IO.eprint outcome.errors
  return outcome.exitCode.toUInt32
