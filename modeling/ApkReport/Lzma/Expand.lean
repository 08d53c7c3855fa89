/-
Decoding data that start with a list of properties. Each symbol is a byte or repeats what was
written before, at a new distance or at one of the last four; which of these it is, and what it
says, is read bit by bit in situations that depend on the symbols before.
-/
import ApkReport.Lzma.Range

namespace ApkReport.Lzma

/-! ## Properties -/

/-- How many bits of the byte before and of the position tell the situation of a byte, how many of the position that
of a symbol, and how far back data may be repeated. -/
structure Properties where
  byteBits : Nat
  bytePositionBits : Nat
  positionBits : Nat
  window : Nat
  deriving DecidableEq, Repr

/-- The properties that five bytes give. The window is rounded up. -/
def Properties.ofBytes? (b : Bytes) : Option Properties :=
  let packed := b.natAt 0 1
  let p : Properties := {
    byteBits := packed % 9
    bytePositionBits := packed / 9 % 5
    positionBits := packed / 45
    window := (max (b.natAt 1 4) 4096 + 15) / 16 * 16 }
  if b.length ≠ 5 ∨ 4 < p.positionBits ∨ 4 < p.byteBits + p.bytePositionBits then none else some p

/-! ## Situations -/

/-- The kinds of the last symbols, as far as they matter: up to six if the last was a byte. -/
abbrev State := Nat

namespace State

def isAfterByte (s : State) : Bool := s < 7

def byte (s : State) : State := if s < 4 then 0 else if s < 10 then s - 3 else s - 6

def newDistance (s : State) : State := if s < 7 then 7 else 10

def oldDistance (s : State) : State := if s < 7 then 8 else 11

def oneByte (s : State) : State := if s < 7 then 9 else 11

end State

/-- Where the situations of each question start; the table of a length has 514 of them. -/
def isRepeatAt : Nat := 0

def isOldDistanceAt : Nat := isRepeatAt + 192

def isOtherThanLastAt : Nat := isOldDistanceAt + 12

def isOtherThanSecondAt : Nat := isOtherThanLastAt + 12

def isFourthAt : Nat := isOtherThanSecondAt + 12

def isLongAt : Nat := isFourthAt + 12

def distanceSlotAt : Nat := isLongAt + 192

def distanceBitsAt : Nat := distanceSlotAt + 256

def distanceEndAt : Nat := distanceBitsAt + 115

def newLengthAt : Nat := distanceEndAt + 16

def oldLengthAt : Nat := newLengthAt + 514

def bytesAt : Nat := oldLengthAt + 514

/-- The situations of one byte. -/
def byteSituations : Nat := 0x300

def situations (p : Properties) : Nat := bytesAt + byteSituations * Nat.pow 2 (p.byteBits + p.bytePositionBits)

/-! ## Symbols -/

/-- The last symbols and the last four distances, less one. -/
structure Recent where
  state : State := 0
  last : Nat := 0
  second : Nat := 0
  third : Nat := 0
  fourth : Nat := 0
  deriving DecidableEq, Repr

/-- The byte so far back, of which one is the last; none before the first. -/
def byteBack (distance : Nat) : Decoder UInt8 := do
  let written := (← get).written
  return if written.size < distance then 0 else (written[written.size - distance]?.map (·.byte)).getD 0

def write (byte : UInt8) : Decoder Unit := modify fun p => { p with written := p.written.push ⟨byte, p.taken⟩ }

def repeatBack (distance : Nat) : Nat → Decoder Unit
  | 0 => return
  | length + 1 => do
    write (← byteBack distance)
    repeatBack distance length

/-- The bits of a byte behind a repetition: as long as they are those of the byte that would have come next in it,
the next one is part of the situation. -/
def readMatched (start : Nat) (likely : Nat) (path : Nat) : Nat → Decoder Nat
  | 0 => return path
  | n + 1 => do
    let expected := likely / Nat.pow 2 n % 2
    let bit ← readBit (start + 0x100 * (1 + expected) + path)
    if bit = expected then readMatched start likely (2 * path + bit) n else readPath start (2 * path + bit) n

def readLiteral (p : Properties) (r : Recent) : Decoder Unit := do
  let position := (← get).written.size % Nat.pow 2 p.bytePositionBits
  let before := (← byteBack 1).toNat
  let start := bytesAt + byteSituations * (position * Nat.pow 2 p.byteBits + before / Nat.pow 2 (8 - p.byteBits))
  let path ← if r.state.isAfterByte then readPath start 1 8
    else do readMatched start (← byteBack (r.last + 1)).toNat 1 8
  write (UInt8.ofNat path)

/-- The length of a repetition, at least two. -/
def readLength (start position : Nat) : Decoder Nat := do
  if (← readBit start) = 0 then return 2 + (← readTree (start + 2 + 8 * position) 3)
  else if (← readBit (start + 1)) = 0 then return 10 + (← readTree (start + 130 + 8 * position) 3)
  else return 18 + (← readTree (start + 258) 8)

/-- The distance of a repetition of the given length, less one. -/
def readDistance (length : Nat) : Decoder Nat := do
  let slot ← readTree (distanceSlotAt + 64 * min (length - 2) 3) 6
  let extra := slot / 2 - 1
  let least := (2 + slot % 2) * Nat.pow 2 extra
  if slot < 4 then return slot
  else if slot < 14 then return least + (← readReversed (distanceBitsAt + least - slot - 1) 1 0 1 extra)
  else return least + 16 * (← readEven 0 (extra - 4)) + (← readReversed distanceEndAt 1 0 1 4)

/-- The distance that stands for the end of the data. -/
def endDistance : Nat := 0xFFFFFFFF

/-- What was written does not reach so far back, or further than the window. -/
def isTooFar (p : Properties) (distance : Nat) : Decoder Bool := do
  return min (← get).written.size p.window ≤ distance

/-- Which of the last four distances is used again; it is the last one then. -/
def readOldDistance (r : Recent) : Decoder Recent := do
  if (← readBit (isOtherThanSecondAt + r.state)) = 0 then return { r with last := r.second, second := r.last }
  else if (← readBit (isFourthAt + r.state)) = 0 then
    return { r with last := r.third, second := r.last, third := r.second }
  else return { r with last := r.fourth, second := r.last, third := r.second, fourth := r.third }

/-- A repetition at the last distance. -/
def repeatOld (r : Recent) (position : Nat) : Decoder (Option Recent) := do
  repeatBack (r.last + 1) (← readLength oldLengthAt position)
  return some { r with state := r.state.oldDistance }

/-- Reads a symbol and writes what it stands for; `none` if it is the end of the data. -/
def readSymbol (p : Properties) (r : Recent) : Decoder (Option Recent) := do
  let position := (← get).written.size % Nat.pow 2 p.positionBits
  let situation := 16 * r.state + position
  if (← readBit (isRepeatAt + situation)) = 0 then
    readLiteral p r
    return some { r with state := r.state.byte }
  else if (← readBit (isOldDistanceAt + r.state)) = 0 then
    let length ← readLength newLengthAt position
    let distance ← readDistance length
    if distance = endDistance then
      normalize
      if (← get).place ≠ 0 then throw (.faulty .data)
      return none
    else
      if ← isTooFar p distance then throw (.faulty .data)
      repeatBack (distance + 1) length
      return some { state := r.state.newDistance, last := distance, second := r.last, third := r.second, fourth := r.third }
  else
    if ← isTooFar p 0 then throw (.faulty .data)
    if (← readBit (isOtherThanLastAt + r.state)) = 0 then
      if (← readBit (isLongAt + situation)) = 0 then
        repeatBack (r.last + 1) 1
        return some { r with state := r.state.oneByte }
      else repeatOld r position
    else repeatOld (← readOldDistance r) position

/-- Symbol after symbol up to the end; each takes a byte or makes the range smaller. -/
def readSymbols (p : Properties) (r : Recent) : Nat → Decoder Unit
  | 0 => throw .inputEnds
  | steps + 1 => do
    match ← readSymbol p r with
    | none => return
    | some r => readSymbols p r steps

/-! ## Data -/

/-- The bytes in front of the data: the first is zero, the others are the first place in the range. -/
def readStart : Decoder Unit := do
  if (← readByte) ≠ 0 then throw (.faulty .data)
  for _ in List.range 4 do
    let b ← readByte
    modify fun p => { p with place := (p.place <<< 8) ||| b.toUInt32 }

/-- The greatest number of different ranges. -/
def ranges : Nat := Nat.pow 2 32

/-- The record of decoding bytes that stand behind `before` others. -/
def expandData (p : Properties) (before : Nat) (data : Bytes) : Expansion Fault :=
  let read : Decoder Unit := do
    readStart
    readSymbols p {} (ranges * (data.length + 1))
  let (end?, progress) := read.run.run { rest := data, taken := before, chances := Array.replicate (situations p) evenChance }
  ⟨progress.written.toList, match end? with
    | .ok () => .complete progress.taken
    | .error .inputEnds => .cut
    | .error (.faulty f) => .faulty progress.taken f⟩

/-- The record of decoding the whole input, which starts with the length of the properties and the properties
themselves. Nothing is looked at before the first byte behind them is there. -/
def expand (input : Bytes) : Expansion Fault :=
  let start := 4 + input.natAt 2 2
  if input.length ≤ 4 ∨ input.length ≤ start then ⟨[], .cut⟩
  else match Properties.ofBytes? (input.slice 4 (start - 4)) with
    | none => ⟨[], .faulty (start + 1) .options⟩
    | some p => expandData p start (input.drop start)

end ApkReport.Lzma
