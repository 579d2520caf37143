import PropertyStore.Record.Value
import PropertyStore.Text.Hex

/-!
# The value of a record in writing

Every record can be shown. Its value is written in the way of its kind; where it makes
no sense in that way, and where its kind has none, its bytes are.
-/

namespace PropertyStore.Record

/-- A number of ten-thousandths in writing: always four places. -/
def currencyText (amount : Int) : String :=
  (if amount < 0 then "-" else "") ++ Nat.repr (amount.natAbs / 10000) ++ "." ++
    Text.Numeral.decimal 4 (amount.natAbs % 10000)

/-- A signed number in writing. -/
def signedText (n : Int) : String := (if n < 0 then "-" else "") ++ Nat.repr n.natAbs

/-- A status code in writing. -/
def statusText (code : Nat) : String := "0x" ++ Text.Numeral.upperHex 8 code

/-- The value in the way of its kind, if that makes sense. -/
def shown? (r : Record) : Option String :=
  match r.valueType with
  | .empty => some "<empty>"
  | .null => some "<null>"
  | .boolean => r.boolean.toOption.map fun b => if b then "true" else "false"
  | .currency => r.signed.toOption.map currencyText
  | .int8 | .int16 | .int32 | .int64 => r.signed.toOption.map signedText
  | .error => r.unsigned.toOption.map statusText
  | .uint8 | .uint16 | .uint32 | .uint64 => r.unsigned.toOption.map Nat.repr
  | .float32 | .float64 => r.fraction.toOption.map Binary64.text
  | .unicodeString | .codepageString | .binaryString => r.text.toOption
  | .filetime => r.instant.toOption.map Filetime.text
  | .guid => r.identifier.toOption.map Guid.text
  | .decimal | .blob => none

/-- The value in writing. -/
def display (r : Record) : String := r.shown?.getD (Text.Hex.encode r.data)

end PropertyStore.Record
