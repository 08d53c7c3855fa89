/-
The texts of a document, which everything else names by number. They are held in UTF-8 or
in UTF-16, each with its length in front and a zero behind.
-/
import ApkReport.BinaryXml.Chunk
import ApkReport.Text.Encoding

namespace ApkReport.BinaryXml

structure StringPool where
  isUtf8 : Bool
  /-- Where the texts start. -/
  offsets : Array Nat
  texts : Bytes
  deriving DecidableEq, Repr

namespace StringPool

/-- The size of the header of a pool. -/
def headerSize : Nat := 28

/-- The bit of the flags that marks UTF-8. -/
def utf8Bit : Nat := 8

/-- The texts in the next `size` bytes; a size of minus one asks for all that are left. -/
def take (data : Bytes) (size : Int) : Except Fault Bytes :=
  if size = -1 then .ok data else if size < 0 then .error .badLength else .ok (data.take size.toNat)

/-- The pool in a chunk of that size, of which `data` is the content and everything behind it. The number
of texts follows from where they start. -/
def read (size : Nat) (data : Bytes) : Except Fault StringPool := do
  let _ ← field data 0 4
  let styles ← field data 4 4
  let flags ← field data 8 4
  let start ← field data 12 4
  let styleStart ← field data 16 4
  let count := ((start : Int) - (styles * 4 + headerSize)).tdiv 4 |>.toNat
  let offsets ← words data 20 count
  let _ ← words (data.drop (4 * count)) 20 styles
  let rest := data.drop (20 + 4 * count + 4 * styles)
  let hasStyles := styleStart ≠ 0 ∧ styles ≠ 0
  let texts ← take rest ((if hasStyles then (styleStart : Int) else size) - start)
  if hasStyles then
    let _ ← words (rest.drop texts.length) 0 (((size : Int) - styleStart) / 4).toNat
  return ⟨flags.testBit utf8Bit, offsets.toArray, texts⟩

/-- A length of one unit, or of two if the highest bit of the first is set; with the number of bytes that
it takes. -/
def readLength (texts : Bytes) (width : Nat) : Except Fault (Nat × Nat) := do
  let first ← field texts 0 width
  let second ← field texts width width
  let high := Nat.pow 2 (8 * width - 1)
  if first < high then return (first, width) else return ((first - high) * Nat.pow 2 (8 * width) + second, 2 * width)

/-- The text of UTF-8 at the front; empty if it goes beyond the pool or no zero follows. -/
def utf8Text (texts : Bytes) : Except Fault String := do
  let (_, skip) ← readLength texts 1
  let (length, skip') ← readLength (texts.drop skip) 1
  let body := texts.drop (skip + skip')
  if body.length < length then return ""
  match body[length]? with
  | none => throw .truncated
  | some 0 => return Text.decodeUtf8Replacing (body.take length)
  | some _ => return ""

def utf16Text (texts : Bytes) : Except Fault String := do
  let (units, skip) ← readLength texts 2
  let body := texts.drop skip
  if body.length < 2 * units then return ""
  if (body.drop (2 * units)).take 2 = [0, 0] then return Text.decodeUtf16Replacing (body.take (2 * units)) else return ""

/-- The text of a number; empty if there is none. -/
def get (p : StringPool) (i : Nat) : Except Fault String :=
  match p.offsets[i]? with
  | none => .ok ""
  | some offset => if p.isUtf8 then utf8Text (p.texts.drop offset) else utf16Text (p.texts.drop offset)

/-- The number that stands for no text. -/
def noText : Nat := 0xFFFFFFFF

/-- The text of a number that may stand for none. -/
def getOptional (p : StringPool) (i : Nat) : Except Fault String := if i = noText then .ok "" else p.get i

end StringPool

end ApkReport.BinaryXml
