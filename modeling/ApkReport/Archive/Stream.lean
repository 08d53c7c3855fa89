/-
Reading the data of one member piece by piece. A stream takes stored data or decodes
compressed data in steps; it never yields more than the size in the directory, and when the
data end it compares their check with the one in the directory.
-/
import ApkReport.Archive.Fault
import ApkReport.Archive.Member
import ApkReport.Bzip2.Expand
import ApkReport.Crc32
import ApkReport.Lzma.Expand

namespace ApkReport.Archive

/-- How the data of a member are stored. -/
inductive Coding where
  | stored
  | deflated (t : Deflate.Trace)
  | bzip2 (x : Expansion Unit)
  | lzma (x : Expansion Lzma.Fault)
  deriving DecidableEq, Repr

/-- The coding of a method, if it is one that can be read. -/
def coding? (method : Nat) (data : Bytes) : Option Coding :=
  match method with
  | 0 => some .stored
  | 8 => some (.deflated (Deflate.trace data))
  | 12 => some (.bzip2 (Bzip2.expand data))
  | 14 => some (.lzma (Lzma.expand data))
  | _ => none

structure Stream where
  /-- The name that a failed check reports. -/
  name : String
  coding : Coding
  /-- The compressed size and the check that the directory gives. -/
  compressedSize : Nat
  crc : UInt32
  /-- The file from the start of the data on, as far as the compressed size goes. -/
  data : Bytes
  /-- The number of bytes taken from the data. -/
  fed : Nat := 0
  /-- The number of those that the decoder has not looked at. -/
  unread : Nat := 0
  /-- The number of bytes that the decoder has written. -/
  written : Nat := 0
  /-- The number of bytes that may still be yielded. -/
  left : Nat
  /-- The check of what was yielded. -/
  running : UInt32 := 0
  ended : Bool := false
  /-- What was read before it was asked for. -/
  ahead : Bytes := []
  deriving DecidableEq, Repr

namespace Stream

/-- The least number of bytes to take or to write in one step. -/
def minStep : Nat := 4096

/-- The step that is taken when everything is asked for. -/
def maxStep : Nat := 0x40000000

/-- The compressed bytes that the directory still promises. -/
def promised (s : Stream) : Nat := s.compressedSize - s.fed

/-- Takes compressed bytes, at least a step's worth if so many are promised. -/
def feed (s : Stream) (n : Nat) : Except EntryFault (Bytes × Stream) :=
  if s.promised = 0 then .ok ([], s)
  else
    let chunk := s.data.slice s.fed (min (max n minStep) s.promised)
    if chunk.isEmpty then .error .dataEnd else .ok (chunk, { s with fed := s.fed + chunk.length })

/-- Decodes with room for at least a step's worth of bytes. A decoder that is held up by nothing but the
want of room is emptied when no more data come. -/
def decode (s : Stream) (t : Deflate.Trace) (n : Nat) : Except EntryFault (Bytes × Stream) :=
  let room := s.written + max n minStep
  let reached := t.reached s.fed
  let yield (upTo unread : Nat) (ended : Bool) : Bytes × Stream :=
    (((reached.take upTo).drop s.written).map (·.byte), { s with written := min upTo reached.length, unread, ended })
  match t.position s.fed room with
  | .broken f => .error (.deflate f)
  | .finished => .ok (yield room 0 true)
  | .starved => .ok (yield room 0 (s.promised = 0))
  | .full unread =>
    if s.promised = 0 ∧ unread = 0 then .ok (yield reached.length 0 true) else .ok (yield room unread false)

/-- Decodes as much as can be written up to some point. What is behind all of it is met only then. -/
def expand {Fault : Type} (s : Stream) (x : Expansion Fault) (faultOf : Fault → EntryFault) (upTo : Nat) :
    Except EntryFault (Bytes × Stream) :=
  let reached := x.reached s.fed
  let yield (ended : Bool) : Bytes × Stream :=
    (((reached.take upTo).drop s.written).map (·.byte), { s with written := min upTo reached.length, ended })
  if upTo < reached.length then .ok (yield (s.promised = 0))
  else match x.position s.fed with
    | .broken f => .error (faultOf f)
    | .finished => .ok (yield true)
    | .starved => .ok (yield (s.promised = 0))

/-- How far sorted blocks are written: a block that takes all bytes that were fed is written as far as there is room
behind the blocks before, and the rest when more bytes are fed. -/
def blockRoom (s : Stream) (x : Expansion Unit) : Nat :=
  s.written + Bzip2.room ((x.reached (s.fed - 1)).length - s.written)

/-- The next bytes, of which the stream has seen nothing yet. -/
def produce (s : Stream) (n : Nat) : Except EntryFault (Bytes × Stream) := do
  match s.coding with
  | .stored =>
    let (chunk, s) ← s.feed n
    return (chunk, { s with ended := s.promised = 0 })
  | .deflated t =>
    let (_, s) ← if s.unread < n then s.feed (n - s.unread) else .ok ([], s)
    s.decode t n
  | .bzip2 x =>
    let (_, s) ← s.feed n
    s.expand x (fun _ => .bzip2) (s.blockRoom x)
  | .lzma x =>
    let (_, s) ← s.feed n
    s.expand x .lzma (x.reached s.fed).length

/-- Cuts what was produced to the size, and compares the check at the end. -/
def account (s : Stream) (chunk : Bytes) : Except EntryFault (Bytes × Stream) :=
  let chunk := chunk.take s.left
  let left := s.left - chunk.length
  let running := Crc32.resume s.running chunk
  let s := { s with left, running, ended := s.ended || left = 0 }
  if s.ended ∧ running ≠ s.crc then .error (.badCrc s.name) else .ok (chunk, s)

/-- One step, towards `n` bytes. -/
def step (s : Stream) (n : Nat) : Except EntryFault (Bytes × Stream) := do
  if s.ended || n = 0 then return ([], s)
  let (chunk, s) ← s.produce n
  s.account chunk

/-- The most steps that a stream can take: each takes data, makes the decoder look at data, or yields. -/
def maxSteps (s : Stream) : Nat := 2 * s.data.length + s.left + 2

/-- Everything up to the end, in at most so many steps. -/
def drain (s : Stream) : Nat → Except EntryFault (Bytes × Stream)
  | 0 => .ok ([], s)
  | steps + 1 =>
    if s.ended then .ok ([], s)
    else do
      let (chunk, s) ← s.step maxStep
      let (more, s) ← s.drain steps
      return (chunk ++ more, s)

/-- `n` bytes, or fewer at the end, in at most so many steps. What a step yields beyond them is kept. -/
def fill (s : Stream) (n : Nat) : Nat → Except EntryFault (Bytes × Stream)
  | 0 => .ok ([], s)
  | steps + 1 =>
    if s.ended || n = 0 then .ok ([], s)
    else do
      let (chunk, s) ← s.step n
      if n < chunk.length then return (chunk.take n, { s with ahead := chunk.drop n })
      else
        let (more, s) ← s.fill (n - chunk.length) steps
        return (chunk ++ more, s)

/-- Everything that is left. -/
def readAll (s : Stream) : Except EntryFault (Bytes × Stream) := do
  let (rest, t) ← { s with ahead := [] }.drain s.maxSteps
  return (s.ahead ++ rest, t)

/-- The next `n` bytes, or all that are left if they are fewer. -/
def read (s : Stream) (n : Nat) : Except EntryFault (Bytes × Stream) :=
  if n < s.ahead.length then .ok (s.ahead.take n, { s with ahead := s.ahead.drop n })
  else do
    let (more, t) ← { s with ahead := [] }.fill (n - s.ahead.length) s.maxSteps
    return (s.ahead ++ more, t)

end Stream

end ApkReport.Archive
