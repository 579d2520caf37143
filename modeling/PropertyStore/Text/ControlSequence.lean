/-!
# Control sequences

A terminal takes some runs of characters for orders and shows nothing of them. An escape
character opens such a run, and the characters after it say of which sort it is: an escape
sequence or a control sequence has an end of its own, a command ends with a bell, and the
string of a device or of a program ends with a string terminator. Escape, cancel and
substitute break off any of them.

What remains of a text without its orders is what a terminal would show. White space is
shown even inside an escape sequence or a control sequence, and what follows it is shown
too. A character outside ASCII then ends the sequence, and one that is not shown takes it
up again.
-/

namespace PropertyStore.Text.ControlSequence

/-- Whether a character moves on to another place of the line or to another line, without
being an order. -/
def isMove (c : Char) : Bool := c == '\t' || c == '\n' || c == '\x0c' || c == '\x0d'

/-- Whether a character gives no order by itself. -/
def isPlain (c : Char) : Bool := (' ' ≤ c && c != '\x7f') || isMove c

/-- Whether a character can stand between the opening and the last character of an escape
sequence. -/
def isIntermediate (c : Char) : Bool := ' ' ≤ c && c ≤ '/'

/-- Whether a character can stand in the parameters of a control sequence. -/
def isParameter (c : Char) : Bool := '0' ≤ c && c ≤ '?'

/-- Whether a character is the last of a control sequence. -/
def isFinal (c : Char) : Bool := '@' ≤ c && c ≤ '~'

/-- Whether the bytes of a character hold the string terminator. -/
def holdsTerminator (c : Char) : Bool := (String.utf8EncodeChar c).contains 0x9C

/-- What the next character belongs to. -/
inductive Part where
  /-- The text itself. -/
  | text
  /-- An order of which only the escape character has been read. -/
  | escape
  /-- An escape sequence, up to its last character. -/
  | escapeSequence
  /-- A control sequence, up to its last character. -/
  | controlSequence
  /-- A command for the operating system. -/
  | command
  /-- The string of a device, of which nothing has been read. -/
  | device
  /-- The parameters before the string of a device. -/
  | deviceParameters
  /-- What comes between the parameters and the string of a device. -/
  | deviceIntermediates
  /-- A string for a device or a program. -/
  | body
  deriving DecidableEq, Repr

namespace Part

/-- The part that comes after a character of an order. -/
def next (part : Part) (c : Char) : Part :=
  if c == '\x18' || c == '\x1a' then text
  else if c == '\x1b' then escape
  else
    match part with
    | text => text
    | escape =>
      match c with
      | '[' => controlSequence
      | ']' => command
      | 'P' => device
      | 'X' | '^' | '_' => body
      | c =>
        if isIntermediate c then escapeSequence
        else if isParameter c || isFinal c then text
        else escape
    | escapeSequence => if isParameter c || isFinal c then text else escapeSequence
    | controlSequence => if isFinal c then text else controlSequence
    | command => if c == '\x07' then text else command
    | device =>
      if isIntermediate c then deviceIntermediates
      else if isParameter c then deviceParameters
      else if isFinal c then body
      else device
    | deviceParameters =>
      if isIntermediate c then deviceIntermediates
      else if ('<' ≤ c && c ≤ '?') || isFinal c then body
      else deviceParameters
    | deviceIntermediates => if isParameter c || isFinal c then body else deviceIntermediates
    | body => if holdsTerminator c then text else body

/-- Whether white space is shown here, though it stands inside an order. -/
def yields : Part → Bool
  | escape | escapeSequence | controlSequence => true
  | text | command | device | deviceParameters | deviceIntermediates | body => false

end Part

/-- How far the reading of a text has come. -/
structure State where
  /-- What the next character belongs to. -/
  part : Part := .text
  /-- Whether white space has interrupted that part. -/
  interrupted : Bool := false
  deriving DecidableEq, Repr

namespace State

/-- Whether a character is shown. -/
def shows (s : State) (c : Char) : Bool :=
  if s.interrupted || s.part == .text then isPlain c else isMove c && s.part.yields

/-- How the reading goes on after a character. -/
def next (s : State) (c : Char) : State :=
  if s.interrupted && isPlain c then
    if c ≤ '\x7f' then s else {}
  else if isMove c && s.part.yields then { s with interrupted := true }
  else { part := s.part.next c }

end State

/-- What is shown of a text. -/
def shown : State → List Char → List Char
  | _, [] => []
  | s, c :: cs => if s.shows c then c :: shown (s.next c) cs else shown (s.next c) cs

/-- A text without its orders. -/
def strip (text : String) : String := String.ofList (shown {} text.toList)

end PropertyStore.Text.ControlSequence
