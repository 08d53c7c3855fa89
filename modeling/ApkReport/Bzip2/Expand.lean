/-
Decoding data of sorted blocks. A block is written once all of it is read, so each of its bytes
takes the input up to the end of the block; what is wrong with the bits is met as they are read.
-/
import ApkReport.Bzip2.Block
import ApkReport.Bzip2.Code

namespace ApkReport.Bzip2

/-- The bytes of the input that the bits read so far stand in. -/
def Progress.needs (p : Progress) : Nat := (p.taken + 7) / 8

/-! ## Codes of a block -/

/-- The bytes that the block uses: sixteen bits tell which sixteens have any, and for those sixteen bits each tell which. -/
def readUsed : Decoder (List UInt8) := do
  let groups ← readBits 16
  let mut used : List UInt8 := []
  for i in List.range 16 do
    if groups.testBit (15 - i) then
      let members ← readBits 16
      used := used ++ ((List.range 16).filter fun j => members.testBit (15 - j)).map fun j => UInt8.ofNat (16 * i + j)
  if used.isEmpty then throw .faulty
  return used

/-- A number below `bound` as so many ones before a zero. -/
def readOnes (bound n : Nat) : Nat → Decoder Nat
  | 0 => throw .faulty
  | steps + 1 => do
    if !(← readBit) then return n
    if bound ≤ n + 1 then throw .faulty
    readOnes bound (n + 1) steps

/-- Takes the member at a place, and the list with this member in front. -/
def moveToFront? {α : Type} (xs : List α) (place : Nat) : Option (α × List α) :=
  (xs[place]?).map fun x => (x, x :: xs.eraseIdx place)

/-- The most choices of codes that a block has a use for. -/
def maxChoices : Nat := 18002

/-- Which code stands for which fifty symbols, each given by its place among the codes used last. -/
def readChoices (recent : List Nat) (choices : Array Nat) : Nat → Decoder (Array Nat)
  | 0 => return choices
  | n + 1 => do
    match moveToFront? recent (← readOnes recent.length 0 (recent.length + 1)) with
    | none => throw .faulty
    | some (choice, recent) => readChoices recent (choices.push choice) n

/-- The length of a word: the one before, moved up or down so often. -/
def readLength (length : Nat) : Nat → Decoder Nat
  | 0 => throw .inputEnds
  | steps + 1 => do
    if length < 1 ∨ maxBits < length then throw .faulty
    if !(← readBit) then return length
    readLength (if ← readBit then length - 1 else length + 1) steps

/-- The lengths of the words of `n` symbols; each step of a length takes a bit, which `steps` counts. -/
def readLengths (steps length : Nat) (lengths : Array Nat) : Nat → Decoder (List Nat)
  | 0 => return lengths.toList
  | n + 1 => do
    let length ← readLength length steps
    readLengths steps length (lengths.push length) n

/-- Some codes for so many symbols each. -/
def readCodes (steps symbols : Nat) (codes : Array Code) : Nat → Decoder (Array Code)
  | 0 => return codes
  | n + 1 => do
    let lengths ← readLengths steps (← readBits 5) #[] symbols
    readCodes steps symbols (codes.push (Code.ofLengths lengths)) n

/-! ## The column -/

/-- The number of symbols that one choice of a code is for. -/
def groupSize : Nat := 50

/-- What is read of a column: the bytes in the order of their last use, the run that is open and the weight of its
next digit, and the choices of codes that are left, of which the first is for so many more symbols. -/
structure Column where
  recent : List UInt8
  run : Nat := 0
  weight : Nat := 1
  choices : List Nat
  inGroup : Nat := groupSize
  bytes : Array UInt8 := #[]

/-- No run is as long as this. -/
def maxWeight : Nat := 2 * 1024 * 1024

/-- The next symbol, in the code that is chosen for it. -/
def Column.readSymbol (c : Column) (codes : Array Code) : Decoder (Nat × Column) := do
  let c := if c.inGroup = 0 then { c with choices := c.choices.tail, inGroup := groupSize } else c
  match c.choices.head?.bind (codes[·]?) with
  | none => throw .faulty
  | some code => return (← code.read, { c with inGroup := c.inGroup - 1 })

/-- Reads the column, which has at most `size` bytes, up to the symbol of its end. Two symbols are the digits of
the length of a run of the byte used last; all others stand for the byte at a place. -/
def Column.read (codes : Array Code) (size ending : Nat) (c : Column) : Nat → Decoder (Array UInt8)
  | 0 => throw .inputEnds
  | steps + 1 => do
    let (symbol, c) ← c.readSymbol codes
    if symbol < 2 then
      if maxWeight ≤ c.weight then throw .faulty
      Column.read codes size ending { c with run := c.run + (symbol + 1) * c.weight, weight := 2 * c.weight } steps
    else
      if 0 < c.run ∧ size < c.bytes.size + c.run then throw .faulty
      let bytes := c.bytes ++ Array.replicate c.run (c.recent.headD 0)
      if symbol = ending then return bytes
      if size ≤ bytes.size then throw .faulty
      match moveToFront? c.recent (symbol - 1) with
      | none => throw .faulty
      | some (b, recent) =>
        Column.read codes size ending { c with recent, run := 0, weight := 1, bytes := bytes.push b } steps

/-! ## Blocks -/

/-- Writes what a block stands for, and then compares its check. -/
def writeBlock (expected : UInt32) (text : Bytes × Bool) : Decoder Unit := do
  let (bytes, isSound) := text
  modify fun p => { p with
    written := bytes.foldl (fun written byte => written.push ⟨byte, p.needs⟩) p.written
    check := combine p.check (check bytes) }
  if !isSound || check bytes ≠ expected then throw .faulty

/-- A block of columns of at most `size` bytes. -/
def readBlock (size : Nat) : Decoder Unit := do
  let expected := UInt32.ofNat (← readBits 32)
  let isAltered ← readBit
  let row ← readBits 24
  if 10 + size < row then throw .faulty
  let used ← readUsed
  let codeCount ← readBits 3
  if codeCount < 2 ∨ 6 < codeCount then throw .faulty
  let choiceCount ← readBits 15
  if choiceCount < 1 then throw .faulty
  let choices ← readChoices (List.range codeCount) #[] choiceCount
  let steps := (← get).bits.length + 1
  let codes ← readCodes steps (used.length + 2) #[] codeCount
  let column ← Column.read codes size (used.length + 1) { recent := used, choices := choices.toList.take maxChoices } steps
  if column.size ≤ row then throw .faulty
  let text := (follow column (nextRows column) row #[] (column.size + 1)).toList
  let text := if isAltered then alter text else text
  writeBlock expected (expandText text.dropLast (text.getLastD 0))

/-- The mark of a block, and the mark of the end. -/
def blockMark : List Nat := [0x31, 0x41, 0x59, 0x26, 0x53, 0x59]

def endMark : List Nat := [0x17, 0x72, 0x45, 0x38, 0x50, 0x90]

/-- Block after block up to the end; each takes at least one bit. -/
def readBlocks (size : Nat) : Nat → Decoder Unit
  | 0 => throw .inputEnds
  | steps + 1 => do
    let first ← readBits 8
    if first = endMark.headD 0 then
      expect endMark.tail
      let expected := UInt32.ofNat (← readBits 32)
      if (← get).check ≠ expected then throw .faulty
    else
      if first ≠ blockMark.headD 0 then throw .faulty
      expect blockMark.tail
      readBlock size
      readBlocks size steps

/-- The mark in front, and the size of blocks in hundred thousands. -/
def readStream : Decoder Unit := do
  expect [0x42, 0x5A, 0x68]
  let level ← readBits 8
  if level < 0x31 ∨ 0x39 < level then throw .faulty
  readBlocks (100000 * (level - 0x30)) ((← get).bits.length + 1)

/-- The record of decoding the whole input. -/
def expand (input : Bytes) : Expansion Unit :=
  let (end?, p) := readStream.run.run ⟨input.flatMap byteBits, 0, #[], 0⟩
  ⟨p.written.toList, match end? with
    | .ok () => .complete p.needs
    | .error .inputEnds => .cut
    | .error .faulty => .faulty p.needs ()⟩

/-! ## Room -/

/-- The sizes of the pieces of memory that the bytes written at one time are put into, one after the other. -/
def pieces : List Nat :=
  [32, 64, 256, 1024, 4096, 8192, 16384, 16384, 32768, 32768, 32768, 32768, 65536, 65536, 131072, 131072].map (1024 * ·)

/-- The size of all further pieces. -/
def lastPiece : Nat := 262144 * 1024

/-- The room in the pieces that are taken for so many bytes. -/
def roomIn (written : Nat) (taken : Nat) : List Nat → Nat
  | [] => taken + (written - taken + lastPiece - 1) / lastPiece * lastPiece
  | piece :: rest => if written ≤ taken then taken else roomIn written (taken + piece) rest

/-- The room that there is when so many bytes are written: the first piece is taken before there are any. -/
def room (written : Nat) : Nat := roomIn (max written 1) 0 pieces

end ApkReport.Bzip2
