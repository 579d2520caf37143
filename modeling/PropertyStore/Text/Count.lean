/-!
# Counts

A count is written in digits of base ten, after a plus sign or without one, and is no
larger than a limit. What is wrong with a text is told by the first character that
cannot stand where it does.
-/

namespace PropertyStore.Text

/-- Why a text is not a count. -/
inductive CountError where
  /-- There is no character. -/
  | empty
  /-- A character is not a digit. -/
  | invalidDigit
  /-- The number is over the limit. -/
  | tooLarge
  deriving DecidableEq, Repr

/-- The failure in words. -/
def CountError.message : CountError → String
  | .empty => "cannot parse integer from empty string"
  | .invalidDigit => "invalid digit found in string"
  | .tooLarge => "number too large to fit in target type"

namespace Count

/-- A number that has been read so far, with more digits behind it. -/
def digits (limit : Nat) : Nat → List Char → Except CountError Nat
  | n, [] => .ok n
  | n, c :: cs =>
    if '0' ≤ c ∧ c ≤ '9' then
      if 10 * n + (c.toNat - 48) ≤ limit then digits limit (10 * n + (c.toNat - 48)) cs
      else .error .tooLarge
    else .error .invalidDigit

/-- The count that a text is, up to a limit. -/
def read (limit : Nat) (text : String) : Except CountError Nat :=
  match text.toList with
  | [] => .error .empty
  | ['+'] => .error .invalidDigit
  | '+' :: cs => digits limit 0 cs
  | cs => digits limit 0 cs

end Count

end PropertyStore.Text
