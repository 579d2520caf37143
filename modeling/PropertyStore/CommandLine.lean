import PropertyStore.CommandLine.Arguments

/-!
# The program

The program reads its arguments, and then the file that they name, once.
-/

namespace PropertyStore.CommandLine

/-- What comes of running the program with some arguments, where files are read by
`readFile`. -/
def run {m : Type → Type} [Monad m] (readFile : String → m (Except String (Array UInt8)))
    (args : List String) : m Outcome :=
  match Command.ofArguments args with
  | .error notice => pure notice.outcome
  | .ok command => do return command.outcome (← readFile command.file)

end PropertyStore.CommandLine
