import PropertyStore.CommandLine.Command
import PropertyStore.CommandLine.UsageError

/-!
# What the program says of itself

Instead of following a command the program may have to say what it can be given, which
version it is, or what is wrong with its arguments.
-/

namespace PropertyStore.CommandLine

/-- What the program says instead of following a command. -/
inductive Notice where
  /-- What the program, or one of its commands, can be given. -/
  | help (scope : Option Action)
  /-- What the program can be given, since it was given nothing. -/
  | noArguments
  /-- Which version of the program this is. -/
  | version
  /-- What is wrong with the arguments. -/
  | usage (cause : UsageError)
  deriving DecidableEq, Repr

namespace Notice

/-- A line of help: a term, and what it means in a column of its own. -/
def helpLine (width : Nat) (term meaning : String) : String :=
  "  " ++ term ++ String.ofList (List.replicate (width - term.length) ' ') ++ "  " ++ meaning

/-- An option as it stands in the help. -/
def helpTerm (p : Parameter) : String :=
  match p.short? with
  | some letter => "-" ++ letter.toString ++ ", " ++ p.text
  | none => "    " ++ p.text

/-- A heading over lines of help in two columns. -/
def helpSection (heading : String) (rows : List (String × String)) : List String :=
  let width := (rows.map fun (term, _) => term.length).foldl max 0
  "" :: heading :: rows.map fun (term, meaning) => helpLine width term meaning

/-- The help for the program, or for one of its commands. -/
def helpText (scope : Option Action) : String :=
  let options := helpSection "Options:" <|
    (Parameter.options scope).map fun p => (helpTerm p, p.summary)
  match scope with
  | none =>
    linesText <| ["Serialized property store CLI", "", "Usage: sps [OPTIONS] <COMMAND>"] ++
      helpSection "Commands:" (Action.all.map (fun a => (a.name, a.summary)) ++
        [("help", "Print this message or the help of the given subcommand(s)")]) ++ options
  | some action =>
    linesText <| [action.summary, "", "Usage: sps " ++ action.name ++ " [OPTIONS] <FILE>"] ++
      helpSection "Arguments:" [(Parameter.file.text, Parameter.file.summary)] ++ options

/-- What comes of a notice. -/
def outcome : Notice → Outcome
  | help scope => { output := helpText scope }
  | noArguments => { exitCode := 2, errors := helpText none }
  | version => { output := "sps 0.1.0\n" }
  | usage cause => { exitCode := 2, errors := cause.report }

end Notice

end PropertyStore.CommandLine
