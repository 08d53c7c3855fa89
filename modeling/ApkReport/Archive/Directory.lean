/-
The directory of an archive: the end record says where the directory stands, and the
directory lists the members. Bytes in front of the archive and behind its end record do
no harm, for positions are taken from where the end record is found.
-/
import ApkReport.Archive.Fault
import ApkReport.Archive.Member

namespace ApkReport.Archive

open Text

/-! ## End record -/

/-- The size and the offset of the directory as the end record gives them, the place of the end record,
and whether the wide record gave them. -/
structure EndRecord where
  size : Nat
  offset : Nat
  position : Nat
  wide : Bool := false
  deriving DecidableEq, Repr

def endMark : Bytes := [0x50, 0x4B, 5, 6]

def wideEndMark : Bytes := [0x50, 0x4B, 6, 6]

def wideLocatorMark : Bytes := [0x50, 0x4B, 6, 7]

def endSize : Nat := 22

def wideLocatorSize : Nat := 20

def wideEndSize : Nat := 56

/-- The longest comment after an end record. -/
def maxComment : Nat := 65536

/-- The place of the end record: the end of the file if it fits there without a comment, else its last
mark within the longest comment. -/
def endPosition? (file : Bytes) : Option Nat :=
  if file.length < endSize then none
  else
    let last := file.length - endSize
    let tail := file.drop last
    if endMark.isPrefixOf tail && tail.drop 20 = [0, 0] then some last
    else
      let start := file.length - endSize - maxComment
      (Bytes.lastIndexOf? endMark (file.drop start)).bind fun i =>
        if start + i + endSize ≤ file.length then some (start + i) else none

/-- The values of the wide record in front of the end record, if there is one. -/
def widen (file : Bytes) (r : EndRecord) : Except ContainerFault EndRecord :=
  if r.position < wideLocatorSize then .ok r
  else
    let locator : Bytes := file.drop (r.position - wideLocatorSize)
    if !wideLocatorMark.isPrefixOf locator then .ok r
    else if locator.natAt 4 4 ≠ 0 ∨ locator.natAt 16 4 > 1 then .error .spansDisks
    else if r.position < wideLocatorSize + wideEndSize then .error .notAnArchive
    else
      let record : Bytes := file.drop (r.position - wideLocatorSize - wideEndSize)
      if !wideEndMark.isPrefixOf record then .ok r
      else .ok { r with size := record.natAt 40 8, offset := record.natAt 48 8, wide := true }

def findEnd (file : Bytes) : Except ContainerFault EndRecord :=
  match endPosition? file with
  | none => .error .notAnArchive
  | some position =>
    let record : Bytes := file.drop position
    widen file { size := record.natAt 12 4, offset := record.natAt 16 4, position := position }

/-- Where the directory starts. -/
def EndRecord.directoryStart (r : EndRecord) : Int :=
  r.position - r.size - if r.wide then (wideEndSize + wideLocatorSize : Int) else 0

/-- How much further back the archive starts than its own offsets say. -/
def EndRecord.shift (r : EndRecord) : Int := r.directoryStart - r.offset

/-! ## Members -/

def directoryMark : Bytes := [0x50, 0x4B, 1, 2]

def recordSize : Nat := 46

/-- The highest version that a member may need, in tenths. -/
def maxVersion : Nat := 63

def decodeName (flags : Nat) (name : Bytes) : Except Utf8Error String :=
  if Member.hasFlag flags Member.utf8Flag then decodeUtf8 name else .ok (decodeCodePage437 name)

def cutAtNull (name : String) : String := String.ofList (name.toList.takeWhile (· ≠ '\x00'))

/-- The sizes and the offset of a member, which extra fields may replace. -/
structure Extent where
  size : Nat
  compressedSize : Nat
  offset : Nat
  deriving DecidableEq, Repr

/-- A field of all ones. -/
def unknown32 : Nat := 0xFFFFFFFF

def unknown64 : Nat := 0xFFFFFFFFFFFFFFFF

/-- Takes the next wide value in place of one that is all ones. -/
def wideValue (isUnknown : Bool) (field : String) (value : Nat) (data : Bytes) :
    Except ContainerFault (Nat × Bytes) :=
  if !isUnknown then .ok (value, data)
  else match data.natAt? 0 8 with
    | none => .error (.corruptWideField field)
    | some v => .ok (v, data.drop 8)

def Extent.widen (e : Extent) (data : Bytes) : Except ContainerFault Extent := do
  let (size, data) ← wideValue (e.size = unknown64 || e.size = unknown32) "File size" e.size data
  let (compressedSize, data) ← wideValue (e.compressedSize = unknown32) "Compress size" e.compressedSize data
  let (offset, _) ← wideValue (e.offset = unknown32) "Header offset" e.offset data
  return ⟨size, compressedSize, offset⟩

/-- The extent after all extra fields, of which those with the number one hold wide values. -/
def Extent.readExtra (e : Extent) (extra : Bytes) : Except ContainerFault Extent :=
  if extra.length < 4 then .ok e
  else
    let id := extra.natAt 0 2
    let size := extra.natAt 2 2
    if extra.length < size + 4 then .error (.corruptExtra id size)
    else
      let rest := extra.drop (size + 4)
      if id = 1 then
        match e.widen (extra.slice 4 size) with
        | .error f => .error f
        | .ok e => e.readExtra rest
      else e.readExtra rest
  termination_by extra.length
  decreasing_by all_goals simp only [List.length_drop]; omega

/-- One record of the directory, of which the fixed part is complete. -/
def readRecord (shift : Int) (record : Bytes) : Except OpenFault Member := do
  let flags := record.natAt 8 2
  let nameLength := record.natAt 28 2
  let fullName ← (decodeName flags (record.slice recordSize nameLength)).mapError .badName
  let version := record.natAt 6 1
  if version > maxVersion then throw (.version version)
  let extent ← (Extent.readExtra ⟨record.natAt 24 4, record.natAt 20 4, record.natAt 42 4⟩
    (record.slice (recordSize + nameLength) (record.natAt 30 2))).mapError .container
  return {
    fullName, name := cutAtNull fullName, flags
    method := record.natAt 10 2, crc := record.natAt 16 4
    compressedSize := extent.compressedSize, size := extent.size
    attributes := record.natAt 38 4
    offset := extent.offset + shift, limit := 0 }

/-- The length that a record says it has. -/
def recordLength (record : Bytes) : Nat :=
  recordSize + record.natAt 28 2 + record.natAt 30 2 + record.natAt 32 2

theorem recordLength_pos (record : Bytes) : 0 < recordLength record := by
  unfold recordLength recordSize
  omega

/-- The members of a directory of which `left` bytes are still to read; the last record may say that it
is longer than what is there. -/
def readRecords (shift : Int) (left : Nat) (directory : Bytes) : Except OpenFault (List Member) :=
  if left = 0 then .ok []
  else if _h : directory.length < recordSize then .error (.container .truncatedDirectory)
  else do
    if !directoryMark.isPrefixOf directory then throw (.container .badDirectoryMark)
    let m ← readRecord shift directory
    let ms ← readRecords shift (left - recordLength directory) (directory.drop (recordLength directory))
    return m :: ms
  termination_by directory.length
  decreasing_by
    rw [List.length_drop]
    exact Nat.sub_lt (Nat.lt_of_lt_of_le (by decide) (Nat.le_of_not_lt _h)) (recordLength_pos directory)

/-- Gives each member the limit of its data: where the next of the other members starts, or else the directory.
Of members at one position, each but the first ends where it starts. -/
def setLimits (directoryStart : Int) (earlier : List Member) : List Member → List Member
  | [] => []
  | m :: later =>
    let followers := earlier.filter (m.offset ≤ ·.offset) ++ later.filter (m.offset < ·.offset)
    { m with limit := (followers.map (·.offset)).min?.getD directoryStart } ::
      setLimits directoryStart (m :: earlier) later

/-- The members of an archive in the order of its directory. -/
def readDirectory (file : Bytes) : Except OpenFault (List Member) := do
  let r ← (findEnd file).mapError .container
  if r.directoryStart < 0 then throw (.container .badOffset)
  let members ← readRecords r.shift r.size (file.slice r.directoryStart.toNat r.size)
  return setLimits r.directoryStart [] members

end ApkReport.Archive
