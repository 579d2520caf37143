import PropertyStore.CommandLine.Parameter
import PropertyStore.Text.ControlSequence

/-!
# Arguments that make no sense

The program can be given arguments that it cannot follow. It names the first of them.
-/

namespace PropertyStore.CommandLine

/-- Why the arguments cannot be followed. -/
inductive UsageError where
  /-- Nothing is known of an argument, or there is no place for it. -/
  | unexpectedArgument (text : String)
  /-- An option that takes no value has one. -/
  | unexpectedValue (value : String) (option : Parameter)
  /-- There is no command of this name. -/
  | unknownCommand (name : String)
  /-- There are options and no command. -/
  | missingCommand
  /-- There is no file. -/
  | missingFile
  /-- A parameter has no value, though it takes one. -/
  | missingValue (parameter : Parameter)
  /-- A parameter is given twice. -/
  | repeated (parameter : Parameter)
  /-- The value of a parameter is not one that it takes. -/
  | invalidValue (parameter : Parameter) (value reason : String)
  deriving DecidableEq, Repr

/-- A text in a colour of its own, by the control sequences of a terminal. -/
def marked (text : String) : String := "\x1b[33m" ++ text ++ "\x1b[0m"

/-- The failure in words, with what is named in it marked. -/
def UsageError.message : UsageError → String
  | .unexpectedArgument text => s!"unexpected argument '{marked text}' found"
  | .unexpectedValue value option =>
    s!"unexpected value '{marked value}' for '{marked option.text}' found; no more were expected"
  | .unknownCommand name => s!"unrecognized subcommand '{marked name}'"
  | .missingCommand =>
    "'" ++ marked "sps" ++ "' requires a subcommand but one was not provided"
  | .missingFile =>
    "the following required arguments were not provided:\n  " ++ marked Parameter.file.text
  | .missingValue parameter =>
    s!"a value is required for '{marked parameter.text}' but none was supplied"
  | .repeated parameter =>
    s!"the argument '{marked parameter.text}' cannot be used multiple times"
  | .invalidValue parameter value reason =>
    s!"invalid value '{marked value}' for '{marked parameter.text}': {reason}"

/-- The failure as it is told where there are no colours. An argument cannot give orders to
a terminal either, since they go with the colours. -/
def UsageError.report (e : UsageError) : String :=
  Text.ControlSequence.strip <|
    "error: " ++ e.message ++ "\n\nFor more information, try '" ++ marked "--help" ++ "'.\n"

end PropertyStore.CommandLine
