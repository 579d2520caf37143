import PropertyStore.CommandLine.Notice
import PropertyStore.Text.Count

/-!
# What has been given

The parameters take effect one after the other, each of them at most once. A value is
checked when its parameter takes effect.
-/

namespace PropertyStore.CommandLine

/-- The parameters that have taken effect, with their values. -/
structure Settings where
  /-- The file to read. -/
  file : Option String := none
  /-- Whether to show a document for programs. -/
  json : Bool := false
  /-- The place of the only set to be shown. -/
  set : Option Nat := none
  /-- Whether to show the bytes of the values too. -/
  showHex : Bool := false
  /-- The codepage of text in units of one byte. -/
  codepage : Option Codepage := none
  /-- The most bytes a value may have. -/
  maxValueSize : Option Nat := none
  /-- Whether to say more about the work. -/
  verbose : Bool := false
  deriving DecidableEq, Repr

namespace Settings

/-- Whether a parameter has taken effect. -/
def has (s : Settings) : Parameter → Bool
  | .file => s.file.isSome
  | .json => s.json
  | .set => s.set.isSome
  | .showHex => s.showHex
  | .codepage => s.codepage.isSome
  | .maxValueSize => s.maxValueSize.isSome
  | .verbose => s.verbose
  | .help | .version => false

/-- A count of no more than 64 bits. -/
def wideCount (text : String) : Except String Nat :=
  (Text.Count.read (UInt64.size - 1) text).mapError Text.CountError.message

/-- The codepage that a number names. -/
def codepageOf (text : String) : Except String Codepage :=
  match Text.Count.read (UInt32.size - 1) text with
  | .error _ => .error ("`" ++ text ++ "` is not a codepage number")
  | .ok id =>
    match Codepage.ofId? id with
    | some codepage => .ok codepage
    | none => .error s!"unsupported codepage {id} (expected 1252 or 65001)"

/-- A parameter that takes a value takes effect. -/
def put (s : Settings) (p : Parameter) (value : String) : Except Notice Settings :=
  if s.has p then .error (.usage (.repeated p))
  else if p = .file ∧ value = "" then .error (.usage (.missingValue .file))
  else
    Except.mapError (fun reason => .usage (.invalidValue p value reason)) <|
      match p with
      | .file => .ok { s with file := some value }
      | .set => (wideCount value).map fun n => { s with set := some n }
      | .maxValueSize => (wideCount value).map fun n => { s with maxValueSize := some n }
      | .codepage => (codepageOf value).map fun c => { s with codepage := some c }
      | .json | .showHex | .verbose | .help | .version => .ok s

/-- A parameter without a value takes effect; help and version are given at once. -/
def turnOn (scope : Option Action) (s : Settings) (p : Parameter) : Except Notice Settings :=
  if s.has p then .error (.usage (.repeated p))
  else
    match p with
    | .json => .ok { s with json := true }
    | .showHex => .ok { s with showHex := true }
    | .verbose => .ok { s with verbose := true }
    | .help => .error (.help scope)
    | .version => .error .version
    | .file | .set | .codepage | .maxValueSize => .ok s

/-- How a store is to be read, by what has been given. -/
def decodeOptions (s : Settings) : DecodeOptions :=
  let standard : DecodeOptions := {}
  { codepage := s.codepage.getD standard.codepage
    maxValueSize := s.maxValueSize.getD standard.maxValueSize }

/-- What a command has to do, by what has been given. -/
def task (s : Settings) : Action → Task
  | .inspect =>
    .inspect { form := if s.json then .document else .listing, setIndex := s.set,
               showHex := s.showHex }
  | .validate => .validate
  | .list => .list

/-- The command that has been given. -/
def command (s : Settings) (action : Action) : Except Notice Command :=
  match s.file with
  | some file => .ok { task := s.task action, file, options := s.decodeOptions }
  | none => .error (.usage .missingFile)

end Settings

end PropertyStore.CommandLine
