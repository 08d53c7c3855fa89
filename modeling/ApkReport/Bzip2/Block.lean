/-
What a block stands for. The last column of its sorted rotations leads back to the text, runs in
the text are given by four equal bytes and a count, and the block has a check of its own.
-/
import ApkReport.Bzip2.Disorder

namespace ApkReport.Bzip2

/-! ## Check -/

/-- One bit of the remainder shifted out, most significant bit first. -/
def shift (c : UInt32) : UInt32 := if c &&& 0x80000000 = 0 then c <<< 1 else (c <<< 1) ^^^ 0x04C11DB7

def checkByte (c : UInt32) (b : UInt8) : UInt32 :=
  shift (shift (shift (shift (shift (shift (shift (shift (c ^^^ (b.toUInt32 <<< 24)))))))))

def check (b : Bytes) : UInt32 := ~~~(b.foldl checkByte (~~~0))

/-- The check of all blocks, one further. -/
def combine (before : UInt32) (block : UInt32) : UInt32 := ((before <<< 1) ||| (before >>> 31)) ^^^ block

/-! ## Rotations -/

/-- For each row of the sorted rotations the row that starts one byte later: the places of the column in the order of
their bytes. -/
def nextRows (column : Array UInt8) : Array Nat :=
  ((List.range column.size).mergeSort fun i j => column[i]?.getD 0 ≤ column[j]?.getD 0).toArray

/-- Goes on from row to row, `n` times, and appends the byte of each. -/
def follow (column : Array UInt8) (next : Array Nat) (row : Nat) (text : Array UInt8) : Nat → Array UInt8
  | 0 => text
  | n + 1 =>
    let row := next[row]?.getD 0
    follow column next row (text.push (column[row]?.getD 0)) n

/-! ## Runs -/

/-- What is written, and how often the last byte of the text stood in a row. -/
structure Runs where
  last : UInt8 := 0
  run : Nat := 0
  written : Array UInt8 := #[]
  deriving DecidableEq, Repr

/-- Behind four equal bytes stands a count of more of them. -/
def Runs.add (r : Runs) (b : UInt8) : Runs :=
  if r.run = 4 then { r with run := 0, written := r.written ++ Array.replicate b.toNat r.last }
  else { last := b, run := if b = r.last then r.run + 1 else 1, written := r.written.push b }

/-- What a text stands for, and whether it is sound: a text that lacks its last count takes it from what follows. -/
def expandText (text : Bytes) (beyond : UInt8) : Bytes × Bool :=
  let r := text.foldl Runs.add {}
  if r.run = 4 then ((r.add beyond).written.toList, false) else (r.written.toList, true)

end ApkReport.Bzip2
