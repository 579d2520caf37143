import PropertyStore.CommandLine.Parameter
import PropertyStore.Report
import PropertyStore.Report.Lines
import PropertyStore.Store.Decode

/-!
# What the commands do

A command reads the store that a file holds and writes about it. What it writes, and
whether it succeeds, hangs on the bytes of the file alone, or on why the file cannot be
read.
-/

namespace PropertyStore.CommandLine

/-- What a run of the program leaves behind. -/
structure Outcome where
  /-- Zero for a success, one for a failure, two for arguments that cannot be followed. -/
  exitCode : Nat := 0
  /-- What is written for the reader. -/
  output : String := ""
  /-- What is written about a failure. -/
  errors : String := ""
  deriving DecidableEq, Repr

/-- Lines, each with its end. -/
def linesText (lines : List String) : String := String.join (lines.map (· ++ "\n"))

/-- A success with some output. -/
def Outcome.success (output : String) : Outcome := { output }

/-- A failure for a reason, after some output. -/
def Outcome.failure (reason : String) (output : String) : Outcome :=
  { exitCode := 1, output, errors := "error: " ++ reason ++ "\n" }

/-- Something to do with the store of a file. -/
inductive Task where
  /-- To show it. -/
  | inspect (report : Report.Options)
  /-- To say whether it is sound. -/
  | validate
  /-- To show each record on a line of its own. -/
  | list
  deriving DecidableEq, Repr

/-- A command: what to do, with which file, and how the file is to be read. -/
structure Command where
  /-- What to do. -/
  task : Task
  /-- The path of the file. -/
  file : String
  /-- How the store is to be read. -/
  options : DecodeOptions
  deriving DecidableEq, Repr

namespace Command

/-- What comes of showing a store. -/
def inspected (c : Command) (report : Report.Options) : Except DecodeError Store → Outcome
  | .error e => .failure (s!"cannot decode {c.file}: " ++ e.message) ""
  | .ok store =>
    match store.report report with
    | .error e => .failure (s!"cannot render {c.file}: " ++ e.message) ""
    | .ok text => .success (text ++ "\n")

/-- What comes of asking whether a store is sound. -/
def validated : Except DecodeError Store → Outcome
  | .error e => .failure "validation failed" (linesText [Report.unsoundLine e])
  | .ok store => .success (linesText (Report.soundLines store))

/-- What comes of showing the records of a store. -/
def listed (c : Command) : Except DecodeError Store → Outcome
  | .error e => .failure (s!"cannot decode {c.file}: " ++ e.message) ""
  | .ok store => .success (linesText (Report.recordLines store))

/-- What a command does with the bytes of its file. -/
def outcomeOn (c : Command) (bytes : Array UInt8) : Outcome :=
  match c.task with
  | .inspect report => c.inspected report (Store.decode c.options bytes)
  | .validate => validated (Store.decode c.options bytes)
  | .list => c.listed (Store.decode c.options bytes)

/-- What a command does with the content of its file, or with the reason for which there
is none. -/
def outcome (c : Command) : Except String (Array UInt8) → Outcome
  | .error reason => .failure s!"cannot read {c.file}: {reason}" ""
  | .ok bytes => c.outcomeOn bytes

end Command

end PropertyStore.CommandLine
