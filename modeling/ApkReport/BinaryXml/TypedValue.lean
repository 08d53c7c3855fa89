/-
The texts of typed attribute values: references, numbers, colours, dimensions, fractions
and flags, each in a form of its own.
-/
import ApkReport.BinaryXml.Event
import ApkReport.Text.Decimal
import ApkReport.Text.Quoted

namespace ApkReport.BinaryXml

open Text

def upperHex (s : List Char) : String := String.ofList (s.map Char.toUpper)

/-- Eight hexadecimal digits. -/
def word (data : Nat) : String := upperHex (hex 8 data)

/-- The mark of a reference into the platform. -/
def packageMark (data : Nat) : String := if data / 0x1000000 = 1 then "android:" else ""

/-- The number as a signed one of 32 bits. -/
def signedWord (data : Nat) : Int := if data < 0x80000000 then data else (data : Int) - 0x100000000

/-! ## Dimensions and fractions -/

def dimensionUnits : List String := ["px", "dip", "sp", "pt", "in", "mm"]

def fractionUnits : List String := ["%", "%p"]

/-- What the highest 24 bits of a number are multiplied with; bits 4 and 5 choose. -/
def radixFactors : List Float :=
  [floatOfDecimal 390625 (-8), floatOfDecimal 3051758 (-11), floatOfDecimal 1192093 (-13), floatOfDecimal 4656613 (-16)]

def complexValue (data : Nat) : Float :=
  Float.ofNat (data - data % 256) * radixFactors.getD (data / 16 % 4) 1.0

def withUnit (x : Float) (units : List String) (data : Nat) : Except Fault String :=
  match units[data % 16]? with
  | none => .error .badUnit
  | some unit => .ok ((Binary.ofFloat x).sixPlaces ++ unit)

/-! ## Values -/

/-- The text of a value; one that is itself a text stands in the pool. -/
def valueText (pool : StringPool) (a : RawAttribute) : Except Fault String :=
  match a.kind with
  | 0x01 => .ok ("@" ++ packageMark a.data ++ word a.data)
  | 0x02 => .ok ("?" ++ packageMark a.data ++ word a.data)
  | 0x03 => pool.get a.text
  | 0x04 => .ok (Binary.ofSingleBits a.data).sixPlaces
  | 0x05 => withUnit (complexValue a.data) dimensionUnits a.data
  | 0x06 => withUnit (complexValue a.data * 100) fractionUnits a.data
  | 0x11 => .ok ("0x" ++ word a.data)
  | 0x12 => .ok (if a.data = 0 then "false" else "true")
  | kind =>
    if 0x1C ≤ kind ∧ kind ≤ 0x1F then .ok ("#" ++ word a.data)
    else if 0x10 ≤ kind ∧ kind ≤ 0x1B then .ok (toString (signedWord a.data))
    else .ok ("<0x" ++ upperHex (hexShort a.data) ++ ", type 0x" ++ upperHex (hex 2 kind) ++ ">")

/-- A value as XML can hold it: up to a character of code zero, and without characters that are illegal. -/
def legalText (s : String) : String :=
  String.ofList ((s.toList.takeWhile (· ≠ '\x00')).map fun c => if isXmlChar c then c else '_')

end ApkReport.BinaryXml
