/-
A lenient way to read one member by its name. The directory is taken where the end record
says, and as far as its records go; of members with one name the last counts. The member's
own header gives its method and its sizes, and no check is compared.
-/
import ApkReport.Archive.Directory

namespace ApkReport.Archive.Lenient

open Text

/-- Why an archive cannot be read even so. -/
inductive Fault where
  | noEndRecord
  | truncated
  | badData
  deriving DecidableEq, Repr

def Fault.message : Fault → String
  | .noEndRecord => "End of central directory record (EOCD) signature not found"
  | .truncated => "record ends early"
  | .badData => "data cannot be decompressed"

/-- `length` bytes at an offset, all of which have to be there. -/
def exactly (file : Bytes) (offset length : Nat) : Except Fault Bytes :=
  let b := file.slice offset length
  if b.length = length then .ok b else .error .truncated

/-- What the directory says of a member. -/
structure Entry where
  name : String
  compressedSize : Nat
  size : Nat
  offset : Nat
  deriving DecidableEq, Repr

/-- The entries of a directory up to anything that is no record. -/
def entries : Nat → Bytes → Except Fault (List Entry)
  | 0, _ => .ok []
  | steps + 1, directory =>
    if !directoryMark.isPrefixOf directory then .ok []
    else do
      let record ← exactly directory 0 recordSize
      let length := recordLength record
      let whole ← exactly directory 0 length
      let entry : Entry := {
        name := decodeUtf8Dropping (whole.slice recordSize (record.natAt 28 2))
        compressedSize := record.natAt 20 4, size := record.natAt 24 4, offset := record.natAt 42 4 }
      return entry :: (← entries steps (directory.drop length))

/-- What a member's own header says. -/
structure Header where
  name : String
  method : Nat
  compressedSize : Nat
  size : Nat
  length : Nat
  deriving DecidableEq, Repr

def headerMark : Bytes := [0x50, 0x4B, 3, 4]

def headerSize : Nat := 30

/-- The header at an offset, if one stands there. -/
def header? (file : Bytes) (offset : Nat) : Except Fault (Option Header) := do
  if !headerMark.isPrefixOf (file.drop offset) then return none
  let h ← exactly file offset headerSize
  let length := headerSize + h.natAt 26 2 + h.natAt 28 2
  let whole ← exactly file offset length
  return some {
    name := decodeUtf8Dropping (whole.slice headerSize (h.natAt 26 2))
    method := h.natAt 8 2, compressedSize := h.natAt 18 4, size := h.natAt 22 4, length }

/-- The last entry of each name, where the name stood first. -/
def lastByName (entries : List Entry) : List Entry :=
  (entries.map (·.name)).eraseDups.filterMap fun name => entries.reverse.find? (·.name = name)

/-- The headers of entries; those without one are left out. -/
def headers (file : Bytes) : List Entry → Except Fault (List Header)
  | [] => .ok []
  | e :: rest => do
    let h? ← header? file e.offset
    let others ← headers file rest
    return h?.toList ++ others

/-- The data of a member. A method that nobody knows is taken for stored if the sizes agree, else for
compressed if the data are, else for stored. -/
def content (file : Bytes) (e : Entry) (h : Header) : Except Fault Bytes :=
  let fromHeader := h.compressedSize ≠ 0 ∧ h.size ≠ 0
  let compressedSize := if fromHeader then h.compressedSize else e.compressedSize
  let size := if fromHeader then h.size else e.size
  let start := e.offset + h.length
  let stored := file.slice start size
  let inflated? := Deflate.inflateAll? (file.slice start compressedSize)
  match h.method with
  | 0 => .ok stored
  | 8 => match inflated? with
    | none => .error .badData
    | some data => .ok data
  | _ => .ok (if compressedSize = size then stored else inflated?.getD stored)

/-- The content of the member of that name; `none` if there is none. -/
def read (file : Bytes) (name : String) : Except Fault (Option Bytes) :=
  match Bytes.lastIndexOf? endMark file with
  | none => .error .noEndRecord
  | some position => do
    let record ← exactly file position endSize
    let _ ← exactly file (position + endSize) (record.natAt 20 2)
    let found := lastByName (← entries (file.length + 1) (file.drop (record.natAt 16 4)))
    let headers ← headers file found
    match found.find? (·.name = name), headers.reverse.find? (·.name = name) with
    | some e, some h => return some (← content file e h)
    | _, _ => return none

end ApkReport.Archive.Lenient
