/-
What can be wrong with a settings document. A document that is not well formed, or that
uses a tag nobody knows, is refused as a whole; a well-formed scalar that its own tag
cannot read is a fault of its own kind.
-/
import ApkReport.Text.Numeral
import ApkReport.Text.Quoted
import ApkReport.Value

namespace ApkReport.Yaml

open Text

inductive Fault where
  | malformed (reason : String)
  /-- An escape for a number beyond the last character. -/
  | noSuchCharacter
  /-- An escape for a number that is too large for any character code. -/
  | characterOverflow
  | badInteger (base : Nat) (text : String)
  /-- More digits than an integer is read from. -/
  | longInteger (digits : Nat)
  | badDecimal (text : String)
  | unknownFlag (text : String)
  /-- A decimal of base 60 with a digit whose weight is beyond all decimals. -/
  | weightTooLarge
  | emptyNumber
  | notAMoment
  | outOfRange (field : String)
  | offsetTooLarge (minutes : Int)
  deriving DecidableEq, Repr

def Fault.message : Fault → String
  | .malformed reason => reason
  | .noSuchCharacter => "chr() arg not in range(0x110000)"
  | .characterOverflow => "character code too large"
  | .badInteger base text =>
    "invalid literal for int() with base " ++ toString base ++ ": " ++ String.ofList ((quoted text).toList.take 200)
  | .longInteger digits =>
    "Exceeds the limit (" ++ toString maxDigits ++ " digits) for integer string conversion: value has " ++ toString digits ++
      " digits; use sys.set_int_max_str_digits() to increase the limit"
  | .badDecimal text => "could not convert string to float: " ++ quoted text
  | .unknownFlag text => quoted text
  | .weightTooLarge => "int too large to convert to float"
  | .emptyNumber => "string index out of range"
  | .notAMoment => "'NoneType' object has no attribute 'groupdict'"
  | .outOfRange field => field
  | .offsetTooLarge minutes =>
    "offset must be a timedelta strictly between -timedelta(hours=24) and timedelta(hours=24), not " ++
      spanLiteral minutes ++ "."

end ApkReport.Yaml
