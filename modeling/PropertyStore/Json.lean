import PropertyStore.Text.Numeral

/-!
# JSON documents

Documents of whole numbers, strings, truth values and nothing, in lists and in objects
whose members come in the order they are given. In writing, each item of a list and each
member of an object stands on a line of its own, two spaces further in than its parent;
an empty list and an empty object stay on one line.
-/

namespace PropertyStore

/-- A document. -/
inductive Json where
  /-- Nothing. -/
  | null
  /-- A truth value. -/
  | bool (b : Bool)
  /-- A whole number. -/
  | number (n : Nat)
  /-- A string. -/
  | string (s : String)
  /-- Items, in order. -/
  | list (items : List Json)
  /-- Names with what they stand for, in order. -/
  | object (members : List (String × Json))

namespace Json

/-- A character as it stands in a string: quotes and backslashes behind a backslash, five
control characters as letters, the others by their numbers. -/
def escape (c : Char) : List Char :=
  match c with
  | '"' => ['\\', '"']
  | '\\' => ['\\', '\\']
  | '\x08' => ['\\', 'b']
  | '\x0c' => ['\\', 'f']
  | '\n' => ['\\', 'n']
  | '\x0d' => ['\\', 'r']
  | '\t' => ['\\', 't']
  | c =>
    if c.toNat < 0x20 then '\\' :: 'u' :: Text.Numeral.fixed 16 Text.Numeral.lowerDigit 4 c.toNat
    else [c]

/-- A string between quotes. -/
def quote (s : String) : List Char := '"' :: s.toList.flatMap escape ++ ['"']

/-- The start of a line that lies `depth` levels in. -/
def newLine (depth : Nat) : List Char := '\n' :: List.replicate (2 * depth) ' '

/-- Lines between two brackets, `depth` levels in, with commas between them. -/
def bracketed (opening closing : Char) (depth : Nat) : List (List Char) → List Char
  | [] => [opening, closing]
  | line :: lines =>
    opening :: newLine (depth + 1) ++ line ++
      lines.flatMap (fun line => ',' :: newLine (depth + 1) ++ line) ++
      newLine depth ++ [closing]

mutual

/-- A document in writing, from a line that lies `depth` levels in. -/
def print (depth : Nat) : Json → List Char
  | .null => "null".toList
  | .bool b => (if b then "true" else "false").toList
  | .number n => Nat.toDigits 10 n
  | .string s => quote s
  | .list items => bracketed '[' ']' depth (printItems (depth + 1) items)
  | .object members => bracketed '\x7b' '\x7d' depth (printMembers (depth + 1) members)

/-- The lines of the items of a list. -/
def printItems (depth : Nat) : List Json → List (List Char)
  | [] => []
  | item :: items => print depth item :: printItems depth items

/-- The lines of the members of an object. -/
def printMembers (depth : Nat) : List (String × Json) → List (List Char)
  | [] => []
  | member :: members => printMember depth member :: printMembers depth members

/-- The line of a member of an object. -/
def printMember (depth : Nat) : String × Json → List Char
  | (name, value) => quote name ++ ": ".toList ++ print depth value

end

/-- A document in writing. -/
def pretty (j : Json) : String := String.ofList (j.print 0)

/-- What is there, or nothing. -/
def ofOption {α : Type} (f : α → Json) : Option α → Json
  | some a => f a
  | none => .null

end Json

end PropertyStore
