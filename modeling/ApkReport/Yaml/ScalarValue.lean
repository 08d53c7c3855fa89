/-
The values of tagged scalars. A scalar need not have the form that its tag asks for, and
each tag has faults of its own.
-/
import ApkReport.Text.Case
import ApkReport.Text.Decimal
import ApkReport.Yaml.Tag

namespace ApkReport.Yaml

open Text

def dropUnderscores (s : List Char) : List Char := s.filter (· ≠ '_')

/-- The parts between colons. -/
def splitColons (s : List Char) : List (List Char) :=
  match s with
  | [] => [[]]
  | ':' :: rest => [] :: splitColons rest
  | c :: rest =>
    match splitColons rest with
    | [] => [[c]]
    | part :: parts => (c :: part) :: parts

def readInteger (base : Nat) (s : List Char) : Except Fault Int :=
  if base = 10 ∧ maxDigits < leadingDigits s then .error (.longInteger (leadingDigits s))
  else match readInt? base s with
    | none => .error (.badInteger base (String.ofList s))
    | some n => .ok n

def readDecimal (s : List Char) : Except Fault Float :=
  match readFloat? s with
  | none => .error (.badDecimal (String.ofList s))
  | some x => .ok x

def signOf (s : List Char) : Int := if s.head? = some '-' then -1 else 1

/-! ## Integers -/

/-- An integer without its sign: the base shows at the front, and colons divide digits of base 60. -/
def unsignedInteger (s : List Char) : Except Fault Int :=
  match s with
  | [] => .error .emptyNumber
  | ['0'] => .ok 0
  | '0' :: 'b' :: rest => readInteger 2 rest
  | '0' :: 'x' :: rest => readInteger 16 rest
  | '0' :: _ => readInteger 8 s
  | _ => do
    if !s.contains ':' then readInteger 10 s
    else return (← (splitColons s).mapM (readInteger 10)).foldl (fun n d => n * 60 + d) 0

def integerValue (text : String) : Except Fault Value := do
  let s := dropUnderscores text.toList
  if s.isEmpty then throw .emptyNumber
  let n ← unsignedInteger (Tag.dropSign s)
  return .scalar (.integer (signOf s * n))

/-! ## Decimals -/

/-- The most digits of a decimal of base 60: the weight of one more is past the greatest decimal. -/
def maxSexagesimals : Nat := 174

/-- The sum of digits of base 60, the last first; `weight` is that of the first one. -/
def sumSexagesimal (weight : Nat) (sum : Float) : List Float → Float
  | [] => sum
  | d :: rest => sumSexagesimal (weight * 60) (sum + d * Float.ofNat weight) rest

def unsignedDecimal (s : List Char) : Except Fault Float :=
  if s = ".inf".toList then .ok (1.0 / 0.0)
  else if s.contains ':' then do
    let digits ← (splitColons s).mapM readDecimal
    if maxSexagesimals < digits.length then throw .weightTooLarge
    return sumSexagesimal 1 0.0 digits.reverse
  else readDecimal s

def decimalValue (text : String) : Except Fault Value := do
  let s := (Text.lower (String.ofList (dropUnderscores text.toList))).toList
  if s.isEmpty then throw .emptyNumber
  let body := Tag.dropSign s
  if body = ".nan".toList then return .scalar (.decimal .notANumber)
  let x ← unsignedDecimal body
  return .scalar (.decimal (.ofFloat (if signOf s < 0 then -1.0 * x else x)))

/-! ## Other scalars -/

def flagValue (text : String) : Except Fault Value :=
  let word := Text.lower text
  if ["yes", "true", "on"].contains word then .ok (.scalar (.flag true))
  else if ["no", "false", "off"].contains word then .ok (.scalar (.flag false))
  else .error (.unknownFlag word)

def momentValue (text : String) : Except Fault Value :=
  match Stamp.ofText? (Tag.withoutLastBreak text.toList) with
  | none => .error .notAMoment
  | some stamp => stamp.toValue

def binaryValue (text : String) : Except Fault Value :=
  if text.toList.all (·.toNat < 0x80) then
    match Bytes.ofBase64? (Bytes.ofString text) with
    | some b => .ok (.bytes b)
    | none => .error (.malformed "failed to decode base64 data")
  else .error (.malformed "failed to convert base64 data into ascii")

/-- The value of a scalar of that tag. -/
def scalarValue (tag : Tag) (text : String) : Except Fault Value :=
  match tag with
  | .null => .ok (.scalar .null)
  | .bool => flagValue text
  | .int => integerValue text
  | .float => decimalValue text
  | .binary => binaryValue text
  | .timestamp => momentValue text
  | .str => .ok (.scalar (.text text))
  | .omap | .pairs | .set | .seq | .map => .error (.malformed "expected a collection")
  | .merge | .value | .unknown => .error (.malformed "could not determine a constructor for the tag")

end ApkReport.Yaml
