/-
Chunks: a kind, the size of the header and the size of the whole, then the content. The
data of a document are one chunk that holds all others.
-/
import ApkReport.BinaryXml.Fault
import ApkReport.Bytes

namespace ApkReport.BinaryXml

structure Chunk where
  kind : Nat
  headerSize : Nat
  size : Nat
  deriving DecidableEq, Repr

/-- The fields that every chunk starts with. -/
def minHeader : Nat := 8

/-- The chunk at the front, if its header is there and its sizes agree with one another. -/
def Chunk.read? (data : Bytes) : Option Chunk :=
  if data.length < minHeader then none
  else
    let c : Chunk := ⟨data.natAt 0 2, data.natAt 2 2, data.natAt 4 4⟩
    if c.headerSize < minHeader ∨ c.size < minHeader ∨ c.size < c.headerSize then none else some c

/-- The number at an offset; a document that ends before it is faulty. -/
def field (data : Bytes) (offset width : Nat) : Except Fault Nat :=
  match data.natAt? offset width with
  | none => .error .truncated
  | some n => .ok n

/-- `count` numbers of four bytes in a row. -/
def words (data : Bytes) (offset : Nat) : Nat → Except Fault (List Nat)
  | 0 => .ok []
  | count + 1 => do
    let w ← field data offset 4
    return w :: (← words (data.drop 4) offset count)

end ApkReport.BinaryXml
