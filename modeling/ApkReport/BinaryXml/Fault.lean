/-
What can be wrong with binary XML beyond its outer form.
-/

namespace ApkReport.BinaryXml

inductive Fault where
  /-- A field lies beyond the end of the data. -/
  | truncated
  | badLength
  /-- An element ends, or text stands, where no element is open. -/
  | nothingOpen
  | badName
  | unnamedAttribute
  | badNamespace
  | badComment
  | badText
  | badUnit
  deriving DecidableEq, Repr

def Fault.message : Fault → String
  | .truncated => "data end within a field"
  | .badLength => "negative length"
  | .nothingOpen => "no element is open"
  | .badName => "invalid name"
  | .unnamedAttribute => "attribute without a name"
  | .badNamespace => "invalid namespace"
  | .badComment => "invalid comment"
  | .badText => "invalid character in text"
  | .badUnit => "unknown unit"

/-- A character that XML text may hold. -/
def isXmlChar (c : Char) : Bool :=
  c = '\t' || c = '\n' || c = '\r' || (0x20 ≤ c.toNat && c.toNat ≠ 0xFFFE && c.toNat ≠ 0xFFFF)

end ApkReport.BinaryXml
