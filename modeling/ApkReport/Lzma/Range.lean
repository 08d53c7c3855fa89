/-
The range decoder: bits that were written with a chance each, which follows the bits seen. The
decoder keeps a range and where the input lies in it, and takes a byte when the range is small.
-/
import ApkReport.Bytes
import ApkReport.Expansion

namespace ApkReport.Lzma

/-- What is wrong with a member of such data: the properties that they start with, or the data. -/
inductive Fault where
  | options
  | data
  deriving DecidableEq, Repr

def Fault.message : Fault → String
  | .options => "Invalid or unsupported options"
  | .data => "Corrupt input data"

/-- Why the decoder stops before the end of the data. -/
inductive Halt where
  | inputEnds
  | faulty (f : Fault)
  deriving DecidableEq, Repr

/-- The bytes that are still to read, the number of those read, the range and the place in it, the chances of
a zero in each situation, and what is written. -/
structure Progress where
  rest : Bytes
  taken : Nat
  range : UInt32 := 0xFFFFFFFF
  place : UInt32 := 0
  chances : Array UInt32
  written : Array Expanded := #[]

abbrev Decoder := ExceptT Halt (StateM Progress)

/-- All chances are out of so many. -/
def chanceBits : UInt32 := 11

/-- How far a chance moves: the greater, the less. -/
def moveBits : UInt32 := 5

/-- A chance that nothing is known of. -/
def evenChance : UInt32 := 1024

/-- Below this range a byte is taken. -/
def leastRange : UInt32 := 0x1000000

def readByte : Decoder UInt8 := do
  match ← modifyGet fun p => (p.rest.head?, { p with rest := p.rest.tail, taken := p.taken + 1 }) with
  | none => throw .inputEnds
  | some b => return b

/-- Takes a byte if the range is small. -/
def normalize : Decoder Unit := do
  if (← get).range < leastRange then
    let b ← readByte
    modify fun p => { p with range := p.range <<< 8, place := (p.place <<< 8) ||| b.toUInt32 }

/-- The bit of a situation; its chance is moved towards it. -/
def readBit (situation : Nat) : Decoder Nat := do
  normalize
  modifyGet fun p =>
    let chance := p.chances[situation]?.getD evenChance
    let bound := (p.range >>> chanceBits) * chance
    if p.place < bound then
      (0, { p with
        range := bound
        chances := p.chances.setIfInBounds situation (chance + (((1 <<< chanceBits) - chance) >>> moveBits)) })
    else
      (1, { p with
        range := p.range - bound
        place := p.place - bound
        chances := p.chances.setIfInBounds situation (chance - (chance >>> moveBits)) })

/-- `n` bits of even chances behind the bits of `high`. -/
def readEven (high : Nat) : Nat → Decoder Nat
  | 0 => return high
  | n + 1 => do
    normalize
    let bit ← modifyGet fun (p : Progress) =>
      let half := p.range >>> 1
      let beyond := p.place - half
      -- the place is in the lower half if it does not reach the upper one
      if beyond &&& 0x80000000 = 0 then (1, { p with range := half, place := beyond })
      else (0, { p with range := half })
    readEven (2 * high + bit) n

/-- `n` bits, most significant first; the situation of each is given by the bits before, which `path` holds behind
a one. The result has this one in front. -/
def readPath (start path : Nat) : Nat → Decoder Nat
  | 0 => return path
  | n + 1 => do readPath start (2 * path + (← readBit (start + path))) n

/-- The number of `n` bits, most significant first. -/
def readTree (start n : Nat) : Decoder Nat := do return (← readPath start 1 n) - Nat.pow 2 n

/-- The number of `n` bits, least significant first. -/
def readReversed (start path value weight : Nat) : Nat → Decoder Nat
  | 0 => return value
  | n + 1 => do
    let bit ← readBit (start + path)
    readReversed start (2 * path + bit) (value + weight * bit) (2 * weight) n

end ApkReport.Lzma
