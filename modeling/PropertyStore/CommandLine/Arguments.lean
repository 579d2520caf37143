import PropertyStore.CommandLine.Settings
import PropertyStore.CommandLine.Word

/-!
# Reading the arguments

The arguments are read from left to right. A parameter that waits for its value, or whose
value has not been checked, is settled when the next one is recognised, or at the end of
the arguments. So of two faults the one that is named need not be the first: an argument
of which nothing is known is named at once.
-/

namespace PropertyStore.CommandLine

/-- How far the reading of arguments has come. -/
structure Reading where
  /-- The parameters that have taken effect. -/
  settings : Settings := {}
  /-- The parameter that is yet to be settled, with its value if that has come. -/
  pending : Option (Parameter × Option String) := none
  deriving DecidableEq, Repr

namespace Reading

/-- The pending parameter takes effect. -/
def settle (r : Reading) : Except Notice Settings :=
  match r.pending with
  | none => .ok r.settings
  | some (p, none) => .error (.usage (.missingValue p))
  | some (p, some value) => r.settings.put p value

/-- A parameter without a value is read. -/
def turnOn (scope : Option Action) (r : Reading) (p : Parameter) : Except Notice Reading :=
  match r.settle with
  | .error notice => .error notice
  | .ok settings => (settings.turnOn scope p).map fun settings => { settings }

/-- A long name is read. -/
def long (scope : Option Action) (r : Reading) (name : String) (value : Option String) :
    Except Notice Reading :=
  match Parameter.ofLong? scope name with
  | none => .error (.usage (.unexpectedArgument ("--" ++ name)))
  | some p =>
    match p.takesValue, value with
    | true, none => r.settle.map fun settings => { settings, pending := some (p, none) }
    | true, some value =>
      match r.settle with
      | .error notice => .error notice
      | .ok settings => (settings.put p value).map fun settings => { settings }
    | false, none => r.turnOn scope p
    | false, some value => .error (.usage (.unexpectedValue value p))

/-- A row of letters is read. -/
def letters (scope : Option Action) : Reading → List Char → Except Notice Reading
  | r, [] => .ok r
  | r, c :: cs =>
    match Parameter.ofShort? scope c with
    | none => .error (.usage (.unexpectedArgument ("-" ++ c.toString)))
    | some p =>
      match r.turnOn scope p with
      | .error notice => .error notice
      | .ok r => letters scope r cs

/-- A plain argument of a command is read, where no parameter waits for its value. It is the
file, unless there is one already. -/
def plain (r : Reading) (text : String) (fileRead : Bool) : Except Notice Reading :=
  if fileRead then .error (.usage (.unexpectedArgument text))
  else r.settle.map fun settings => { settings, pending := some (.file, some text) }

/-- The arguments after two dashes. -/
def plainArguments (fileRead : Bool) : Reading → List String → Except Notice Reading
  | r, [] => .ok r
  | r, text :: rest =>
    match r.plain text fileRead with
    | .error notice => .error notice
    | .ok r => plainArguments true r rest

/-- The arguments of a command. -/
def arguments (action : Action) (fileRead : Bool) : Reading → List String → Except Notice Reading
  | r, [] => .ok r
  | r, text :: rest =>
    match Word.ofText text, r.pending with
    | .endOfOptions, _ => r.plainArguments fileRead rest
    | .long name value, _ =>
      match r.long (some action) name value with
      | .error notice => .error notice
      | .ok r => arguments action fileRead r rest
    | .letters row, _ =>
      match r.letters (some action) row with
      | .error notice => .error notice
      | .ok r => arguments action fileRead r rest
    | .plain text, some (p, none) =>
      arguments action fileRead { r with pending := some (p, some text) } rest
    | .plain text, _ =>
      match r.plain text fileRead with
      | .error notice => .error notice
      | .ok r => arguments action true r rest

end Reading

/-- The command that the arguments after its name make. -/
def Action.command (action : Action) (args : List String) : Except Notice Command :=
  match Reading.arguments action false {} args with
  | .error notice => .error notice
  | .ok r =>
    match r.settle with
    | .error notice => .error notice
    | .ok settings => settings.command action

/-- The help that is asked for by naming commands. -/
def helpFor : List String → Notice
  | [] => .help none
  | name :: rest =>
    match Action.ofName? name, rest with
    | none, [] => if name = "help" then .help none else .usage (.unknownCommand name)
    | none, next :: _ => .usage (.unknownCommand (if name = "help" then next else name))
    | some action, [] => .help (some action)
    | some _, next :: _ => .usage (.unknownCommand next)

/-- What is to be said where the arguments end without a command. -/
def withoutCommand (r : Reading) : Notice :=
  if r = {} then .noArguments else .usage .missingCommand

/-- What is to be said of the first argument after two dashes, where a command should be. -/
def notACommand (text : String) : Notice :=
  if (Action.ofName? text).isSome ∨ text = "help" then .usage (.unexpectedArgument text)
  else .usage (.unknownCommand text)

/-- The command that all arguments of the program make, with the options before its name. -/
def commandAfter : Reading → List String → Except Notice Command
  | r, [] => .error (withoutCommand r)
  | r, text :: rest =>
    match Word.ofText text with
    | .endOfOptions =>
      match rest with
      | [] => .error (withoutCommand r)
      | next :: _ => .error (notACommand next)
    | .long name value =>
      match r.long none name value with
      | .error notice => .error notice
      | .ok r => commandAfter r rest
    | .letters row =>
      match r.letters none row with
      | .error notice => .error notice
      | .ok r => commandAfter r rest
    | .plain name =>
      match Action.ofName? name with
      | some action => action.command rest
      | none => .error (if name = "help" then helpFor rest else .usage (.unknownCommand name))

/-- The command that the arguments of the program make. -/
def Command.ofArguments (args : List String) : Except Notice Command := commandAfter {} args

end PropertyStore.CommandLine
