/-!
# The commands and their parameters

The program has three commands. A command is given one file and any of its options; an
option has a long name, or a short one besides, and takes a value or none. Before the
name of the command stand the options that concern the program as a whole.
-/

namespace PropertyStore.CommandLine

/-- What the program can be told to do with a file. -/
inductive Action where
  /-- To show the store. -/
  | inspect
  /-- To say whether the store is sound. -/
  | validate
  /-- To show each record on a line of its own. -/
  | list
  deriving DecidableEq, Repr

namespace Action

/-- Every command. -/
def all : List Action := [inspect, validate, list]

/-- The name of a command. -/
def name : Action → String
  | inspect => "inspect"
  | validate => "validate"
  | list => "list"

/-- The command of a name. -/
def ofName? (name : String) : Option Action := all.find? fun a => a.name == name

/-- What a command is for. -/
def summary : Action → String
  | inspect => "Print every set and record of a store"
  | validate => "Check a store for structural correctness"
  | list => "Print one tab-separated line per record"

end Action

/-- What the program can be given. -/
inductive Parameter where
  /-- The file to read. -/
  | file
  /-- To show a document for programs. -/
  | json
  /-- The place of the only set to be shown. -/
  | set
  /-- To show the bytes of the values too. -/
  | showHex
  /-- The codepage of text in units of one byte. -/
  | codepage
  /-- The most bytes a value may have. -/
  | maxValueSize
  /-- To say more about the work; there is nothing more to say. -/
  | verbose
  /-- To be told what can be given. -/
  | help
  /-- To be told which version this is. -/
  | version
  deriving DecidableEq, Repr

namespace Parameter

/-- The long name of an option. -/
def long? : Parameter → Option String
  | file => none
  | json => some "json"
  | set => some "set"
  | showHex => some "show-hex"
  | codepage => some "codepage"
  | maxValueSize => some "max-value-size"
  | verbose => some "verbose"
  | help => some "help"
  | version => some "version"

/-- The letter of an option. -/
def short? : Parameter → Option Char
  | verbose => some 'v'
  | help => some 'h'
  | version => some 'V'
  | _ => none

/-- What stands for the value of a parameter that takes one. -/
def placeholder? : Parameter → Option String
  | file => some "<FILE>"
  | set => some "<SET>"
  | codepage => some "<CODEPAGE>"
  | maxValueSize => some "<MAX_VALUE_SIZE>"
  | _ => none

/-- Whether a parameter takes a value. -/
def takesValue (p : Parameter) : Bool := p.placeholder?.isSome

/-- A parameter as the program writes it. -/
def text (p : Parameter) : String :=
  match p.long?, p.placeholder? with
  | some long, some placeholder => "--" ++ long ++ " " ++ placeholder
  | some long, none => "--" ++ long
  | none, some placeholder => placeholder
  | none, none => ""

/-- What a parameter is for. -/
def summary : Parameter → String
  | file => "Path to the property store file"
  | json => "Print a JSON document"
  | set => "Inspect only the set at this zero-based index"
  | showHex => "Print the bytes of each value"
  | codepage => "Codepage for 8-bit strings: 1252 (Windows-1252) or 65001 (UTF-8) [default: 1252]"
  | maxValueSize => "Reject record payloads larger than this many bytes [default: 16777216]"
  | verbose => "Log decoder progress to stderr"
  | help => "Print help"
  | version => "Print version"

/-- The options of the program, or of one of its commands. -/
def options : Option Action → List Parameter
  | none => [verbose, help, version]
  | some .inspect => [json, set, showHex, codepage, maxValueSize, verbose, help]
  | some .validate => [codepage, maxValueSize, verbose, help]
  | some .list => [codepage, maxValueSize, verbose, help]

/-- The option of a long name. -/
def ofLong? (scope : Option Action) (name : String) : Option Parameter :=
  (options scope).find? fun p => p.long? == some name

/-- The option of a letter. -/
def ofShort? (scope : Option Action) (letter : Char) : Option Parameter :=
  (options scope).find? fun p => p.short? == some letter

end Parameter

end PropertyStore.CommandLine
