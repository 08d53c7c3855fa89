/-
The input of a block-sorting decoder, most significant bit first, and its prefix codes: words of
one length are numbered in the order of their symbols, behind all shorter words.
-/
import ApkReport.Bytes
import ApkReport.Expansion

namespace ApkReport.Bzip2

/-- Why the decoder stops before the end of the data. -/
inductive Halt where
  | inputEnds
  | faulty
  deriving DecidableEq, Repr

/-- The bits that are still to read, the number of those read, what is written, and the check of the
checks of all blocks. -/
structure Progress where
  bits : List Bool
  taken : Nat
  written : Array Expanded
  check : UInt32

abbrev Decoder := ExceptT Halt (StateM Progress)

/-! ## Bits -/

def byteBits (b : UInt8) : List Bool := (List.range 8).map fun i => b.toNat.testBit (7 - i)

def readBit : Decoder Bool := do
  match ← modifyGet fun p => (p.bits.head?, { p with bits := p.bits.tail, taken := p.taken + 1 }) with
  | none => throw .inputEnds
  | some b => return b

/-- The number that the bits of `high` and the next `n` bits make. -/
def readOn (high : Nat) : Nat → Decoder Nat
  | 0 => return high
  | n + 1 => do readOn (2 * high + (← readBit).toNat) n

def readBits (n : Nat) : Decoder Nat := readOn 0 n

/-- One byte after the other, each of which is refused as soon as it is there. -/
def expect : List Nat → Decoder Unit
  | [] => return
  | b :: rest => do
    if (← readBits 8) ≠ b then throw .faulty
    expect rest

/-! ## Codes -/

/-- The longest word of any code. -/
def maxBits : Nat := 20

/-- The symbols of a code in the order of their words, and the number of words of each length. -/
structure Code where
  symbols : Array Nat
  counts : Array Nat
  shortest : Nat
  deriving DecidableEq, Repr

def Code.ofLengths (lengths : List Nat) : Code where
  symbols := ((List.range (maxBits + 1)).flatMap fun length =>
    lengths.zipIdx.filterMap fun (l, symbol) => if l = length then some symbol else none).toArray
  counts := ((List.range (maxBits + 1)).map lengths.count).toArray
  shortest := lengths.foldl min maxBits

/-- Reads on behind a word of the given length: `first` is the least word of this length, and `before` words are
shorter. There is no word of more than `maxBits` bits. -/
def Code.readFrom (c : Code) (word length first before : Nat) : Nat → Decoder Nat
  | 0 => throw .faulty
  | more + 1 => do
    let count := c.counts[length]?.getD 0
    if word < first + count then
      match c.symbols[word - first + before]? with
      | none => throw .faulty
      | some symbol => return symbol
    else c.readFrom (2 * word + (← readBit).toNat) (length + 1) (2 * (first + count)) (before + count) more

def Code.read (c : Code) : Decoder Nat := do
  c.readFrom (← readBits c.shortest) c.shortest 0 0 (maxBits + 1 - c.shortest)

end ApkReport.Bzip2
