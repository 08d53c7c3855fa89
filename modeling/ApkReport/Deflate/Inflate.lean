/-
Reading compressed data. The decoder records each byte that it writes together with the
number of bits that it has read by then. So one record says what any part of the input
yields, and where a reader stands that has room for so many bytes only: it goes on as long
as it has nothing to write, and so meets the end of the data, and faults in the headers of
blocks, as soon as it can.
-/
import ApkReport.Bytes
import ApkReport.Deflate.Huffman

namespace ApkReport.Deflate

/-- What is wrong with compressed data. -/
inductive Fault where
  | blockType
  | storedLength
  | tooManySymbols
  | codeLengths
  | lengthRepeat
  | missingEnd
  | literalCode
  | distanceCode
  | badLiteral
  | badDistance
  | tooFarBack
  deriving DecidableEq, Repr

def Fault.message : Fault → String
  | .blockType => "invalid block type"
  | .storedLength => "invalid stored block lengths"
  | .tooManySymbols => "too many length or distance symbols"
  | .codeLengths => "invalid code lengths set"
  | .lengthRepeat => "invalid bit length repeat"
  | .missingEnd => "invalid code -- missing end-of-block"
  | .literalCode => "invalid literal/lengths set"
  | .distanceCode => "invalid distances set"
  | .badLiteral => "invalid literal/length code"
  | .badDistance => "invalid distance code"
  | .tooFarBack => "invalid distance too far back"

/-- Why the decoder stops before the end of the data. -/
inductive Halt where
  | inputEnds
  | faulty (f : Fault)
  deriving DecidableEq, Repr

/-- A byte that is written once `needs` bits are there; until there is room for it, `held` bits have been
read. -/
structure Written where
  byte : UInt8
  needs : Nat
  held : Nat
  deriving DecidableEq, Repr

/-- The bits that are still to read, the number of those read, and what is written. -/
structure Progress where
  bits : List Bool
  taken : Nat
  written : Array Written

abbrev Decoder := ExceptT Halt (StateM Progress)

/-! ## Bits -/

def byteBits (b : UInt8) : List Bool := (List.range 8).map fun i => b.toNat.testBit i

def bitsOf (b : Bytes) : List Bool := b.flatMap byteBits

/-- The number of the next `n` bits, least bit first, and the rest. -/
def splitBits? (n : Nat) (bits : List Bool) : Option (Nat × List Bool) :=
  match n, bits with
  | 0, bits => some (0, bits)
  | _ + 1, [] => none
  | n + 1, b :: bits => (splitBits? n bits).map fun (v, rest) => (2 * v + b.toNat, rest)

def readBits (n : Nat) : Decoder Nat := do
  match splitBits? n (← get).bits with
  | none => throw .inputEnds
  | some (v, rest) =>
    modify fun p => { p with bits := rest, taken := p.taken + n }
    return v

/-- Skips what is left of the current byte. -/
def alignToByte : Decoder Unit := modify fun p =>
  { p with bits := p.bits.drop (p.bits.length % 8), taken := p.taken + p.bits.length % 8 }

/-- The symbol of the word in front; `none` if no word starts with the bits read. -/
def Tree.walk? : Tree → List Bool → Option (Option Nat × List Bool)
  | .leaf s, bits => some (some s, bits)
  | .empty, bits => some (none, bits)
  | .node .., [] => none
  | .node l r, b :: bits => (if b then r else l).walk? bits

def readSymbol (t : Tree) (f : Fault) : Decoder Nat := do
  match t.walk? (← get).bits with
  | none => throw .inputEnds
  | some (symbol?, rest) =>
    modify fun p => { p with bits := rest, taken := p.taken + (p.bits.length - rest.length) }
    match symbol? with
    | none => throw (.faulty f)
    | some s => return s

/-! ## Output -/

def write (byte : UInt8) : Decoder Unit :=
  modify fun p => { p with written := p.written.push ⟨byte, p.taken, p.taken⟩ }

/-- Repeats what was written `distance` bytes before, byte by byte. -/
def copyBack (distance : Nat) : Nat → Decoder Unit
  | 0 => return
  | length + 1 => do
    let written := (← get).written
    match if written.size < distance then none else written[written.size - distance]? with
    | none => throw (.faulty .tooFarBack)
    | some w =>
      write w.byte
      copyBack distance length

/-- Writes bytes of the input as they are; such a byte is not read before there is room for it. -/
def copyStored : Nat → Decoder Unit
  | 0 => return
  | length + 1 => do
    let held := (← get).taken
    let byte := UInt8.ofNat (← readBits 8)
    modify fun p => { p with written := p.written.push ⟨byte, p.taken, held⟩ }
    copyStored length

/-! ## Blocks -/

/-- The least length and the extra bits of each length symbol. -/
def lengthTable : List (Nat × Nat) := [
  (3, 0), (4, 0), (5, 0), (6, 0), (7, 0), (8, 0), (9, 0), (10, 0), (11, 1), (13, 1), (15, 1), (17, 1), (19, 2), (23, 2),
  (27, 2), (31, 2), (35, 3), (43, 3), (51, 3), (59, 3), (67, 4), (83, 4), (99, 4), (115, 4), (131, 5), (163, 5), (195, 5),
  (227, 5), (258, 0)]

/-- The least distance and the extra bits of each distance symbol. -/
def distanceTable : List (Nat × Nat) := [
  (1, 0), (2, 0), (3, 0), (4, 0), (5, 1), (7, 1), (9, 2), (13, 2), (17, 3), (25, 3), (33, 4), (49, 4), (65, 5), (97, 5),
  (129, 6), (193, 6), (257, 7), (385, 7), (513, 8), (769, 8), (1025, 9), (1537, 9), (2049, 10), (3073, 10), (4097, 11),
  (6145, 11), (8193, 12), (12289, 12), (16385, 13), (24577, 13)]

/-- A value of a table: its least value and the extra bits that follow. -/
def readExtra (table : List (Nat × Nat)) (symbol : Nat) (f : Fault) : Decoder Nat := do
  match table[symbol]? with
  | none => throw (.faulty f)
  | some (least, extra) => return least + (← readBits extra)

/-- Literals and repetitions up to the end of the block; each takes at least one bit, which `steps` counts. -/
def readSymbols (literals distances : Tree) : Nat → Decoder Unit
  | 0 => throw .inputEnds
  | steps + 1 => do
    let symbol ← readSymbol literals .badLiteral
    if symbol = 256 then return
    else if symbol < 256 then
      write (UInt8.ofNat symbol)
      readSymbols literals distances steps
    else
      let length ← readExtra lengthTable (symbol - 257) .badLiteral
      let distance ← readExtra distanceTable (← readSymbol distances .badDistance) .badDistance
      copyBack distance length
      readSymbols literals distances steps

def storedBlock : Decoder Unit := do
  alignToByte
  let lengths ← readBits 32
  let length := lengths % 0x10000
  if lengths / 0x10000 + length = 0xFFFF then copyStored length
  else throw (.faulty .storedLength)

def fixedLiterals : List Nat :=
  List.replicate 144 8 ++ List.replicate 112 9 ++ List.replicate 24 7 ++ List.replicate 8 8

def fixedDistances : List Nat := List.replicate 32 5

/-- The order in which the lengths of the code for code lengths are given. -/
def codeLengthOrder : List Nat := [16, 17, 18, 0, 8, 7, 9, 6, 10, 5, 11, 4, 12, 3, 13, 2, 14, 1, 15]

/-- Appends code lengths to the ones read, until there are `total`. -/
def readCodeLengths (t : Tree) (total : Nat) : Nat → List Nat → Decoder (List Nat)
  | 0, lengths => return lengths
  | steps + 1, lengths => do
    if total ≤ lengths.length then return lengths
    else
      let symbol ← readSymbol t .codeLengths
      if symbol < 16 then readCodeLengths t total steps (lengths ++ [symbol])
      else
        if symbol = 16 ∧ lengths.isEmpty then
          let _ ← readBits 2
          throw (.faulty .lengthRepeat)
        let count ← if symbol = 16 then (3 + ·) <$> readBits 2
          else if symbol = 17 then (3 + ·) <$> readBits 3
          else (11 + ·) <$> readBits 7
        let repeated := if symbol = 16 then lengths.getLastD 0 else 0
        if total < lengths.length + count then throw (.faulty .lengthRepeat)
        else readCodeLengths t total steps (lengths ++ List.replicate count repeated)

def readLengthsOfLengths : Nat → Decoder (List Nat)
  | 0 => return []
  | n + 1 => do
    let l ← readBits 3
    return l :: (← readLengthsOfLengths n)

/-- The codes of a block that brings its own. -/
def readCodes : Decoder (Tree × Tree) := do
  let header ← readBits 14
  let literals := header % 32 + 257
  let distances := header / 32 % 32 + 1
  let given := header / 1024 + 4
  if literals > 286 ∨ distances > 30 then throw (.faulty .tooManySymbols)
  let inOrder := codeLengthOrder.zip (← readLengthsOfLengths given)
  let lengthCode := (List.range 19).map fun symbol => (inOrder.lookup symbol).getD 0
  if !isUsableForLengths lengthCode then throw (.faulty .codeLengths)
  -- a code without words stands for lengths of zero, one bit each
  let lengthTree := if lengthCode.all (· = 0) then .node (.leaf 0) (.leaf 0) else Tree.ofLengths lengthCode
  let lengths ← readCodeLengths lengthTree (literals + distances) (literals + distances) []
  let forLiterals := lengths.take literals
  let forDistances := lengths.drop literals
  if forLiterals.getD 256 0 = 0 then throw (.faulty .missingEnd)
  if !isUsable forLiterals then throw (.faulty .literalCode)
  if !isUsable forDistances then throw (.faulty .distanceCode)
  return (Tree.ofLengths forLiterals, Tree.ofLengths forDistances)

/-- Block after block up to the last; each takes at least one bit. -/
def readBlocks : Nat → Decoder Unit
  | 0 => throw .inputEnds
  | steps + 1 => do
    let header ← readBits 3
    let symbols (codes : Tree × Tree) : Decoder Unit := do
      readSymbols codes.1 codes.2 ((← get).bits.length + 1)
    match header / 2 with
    | 0 => storedBlock
    | 1 => symbols (Tree.ofLengths fixedLiterals, Tree.ofLengths fixedDistances)
    | 2 => symbols (← readCodes)
    | _ => throw (.faulty .blockType)
    if header % 2 = 1 then alignToByte else readBlocks steps

/-- Everything that the decoder writes, the bits that it reads, and why it stops if it does before the end
of the data. -/
structure Trace where
  written : List Written
  taken : Nat
  halt : Option Halt
  deriving DecidableEq, Repr

/-- The record of decoding the whole input. -/
def trace (input : Bytes) : Trace :=
  let bits := bitsOf input
  let (end?, progress) := readBlocks (bits.length + 1) |>.run.run ⟨bits, 0, #[]⟩
  ⟨progress.written.toList, progress.taken, match end? with | .ok () => none | .error halt => some halt⟩

namespace Trace

/-- Where a reader stands: it may wait for input or for room, be at the end of the data, or at a fault. -/
inductive Position where
  | starved
  | full (unread : Nat)
  | finished
  | broken (f : Fault)
  deriving DecidableEq, Repr

/-- The bytes written for the first `available` bytes of the input, if room is unlimited. -/
def reached (t : Trace) (available : Nat) : List Written := t.written.takeWhile (·.needs ≤ 8 * available)

/-- Where a reader of the first `available` bytes stands that has room for `room` bytes in all. -/
def position (t : Trace) (available room : Nat) : Position :=
  match (t.reached available)[room]? with
  | some w => .full (available - (w.held + 7) / 8)
  | none =>
    if (t.reached available).length < t.written.length ∨ 8 * available < t.taken then .starved
    else match t.halt with
      | none => .finished
      | some .inputEnds => .starved
      | some (.faulty f) =>
        if f = .tooFarBack ∧ room ≤ t.written.length then .full (available - (t.taken + 7) / 8) else .broken f

def bytes (t : Trace) : Bytes := t.written.map (·.byte)

end Trace

/-- The whole data, if they end properly. What follows them is ignored. -/
def inflateAll? (input : Bytes) : Option Bytes :=
  let t := trace input
  if t.halt.isNone then some t.bytes else none

end ApkReport.Deflate
