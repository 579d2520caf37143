/-!
# The shapes of arguments

An argument that starts with two dashes is a long name, with a value after an equals
sign or without; one that starts with a single dash is a row of letters. Two dashes
alone end the options. Anything else is plain, a single dash included.
-/

namespace PropertyStore.CommandLine

/-- An argument by its shape. -/
inductive Word where
  /-- Two dashes: what follows is plain. -/
  | endOfOptions
  /-- A long name, with its value if there is one. -/
  | long (name : String) (value : Option String)
  /-- A row of letters. -/
  | letters (row : List Char)
  /-- Anything else. -/
  | plain (text : String)
  deriving DecidableEq, Repr

/-- A long name and the value behind the first equals sign. -/
def Word.ofLong (cs : List Char) : Word :=
  let (name, rest) := cs.span (· != '=')
  .long (String.ofList name) <|
    match rest with
    | [] => none
    | _ :: value => some (String.ofList value)

/-- The shape of an argument. -/
def Word.ofText (text : String) : Word :=
  match text.toList with
  | ['-', '-'] => .endOfOptions
  | '-' :: '-' :: cs => .ofLong cs
  | '-' :: c :: cs => .letters (c :: cs)
  | _ => .plain text

end PropertyStore.CommandLine
