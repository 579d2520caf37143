import PropertyStore.Text.Extender
import PropertyStore.Text.Ignorable
import PropertyStore.Text.Printable

/-!
# Quoted text

A text between quotes, on one line and visible: quotes and backslashes stand behind a
backslash, four control characters have letters, and every other character that is not
seen by itself is given by its number.
-/

namespace PropertyStore.Text.Quoted

/-- A character given by its number, in the fewest digits of base sixteen. -/
def numbered (c : Char) : List Char :=
  ['\\', 'u', '\x7b'] ++ Nat.toDigits 16 c.toNat ++ ['\x7d']

/-- The halfwidth sound marks: they extend the character before them, and yet take a place
of their own. -/
def isSoundMark (c : Char) : Bool := c == '\uff9e' || c == '\uff9f'

/-- Whether a character is not seen by itself. -/
def isHidden (c : Char) : Bool :=
  !Printable.isPrintable c || Ignorable.isIgnorable c ||
    (Extender.isExtender c && !isSoundMark c)

/-- A character as it stands between quotes. -/
def escape (c : Char) : List Char :=
  match c with
  | '\x00' => ['\\', '0']
  | '\t' => ['\\', 't']
  | '\n' => ['\\', 'n']
  | '\x0d' => ['\\', 'r']
  | '\\' => ['\\', '\\']
  | '"' => ['\\', '"']
  | c => if isHidden c then numbered c else [c]

/-- A text between quotes. -/
def encode (cs : List Char) : List Char := '"' :: cs.flatMap escape ++ ['"']

/-- A text between quotes. -/
def quote (text : String) : String := String.ofList (encode text.toList)

end PropertyStore.Text.Quoted
