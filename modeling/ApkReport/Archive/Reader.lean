/-
An open archive: its members, and the streams and contents of single ones. Closing keeps
the list of members, but no member can be opened any more.
-/
import ApkReport.Archive.Directory
import ApkReport.Archive.Stream

namespace ApkReport.Archive

structure Reader where
  /-- The path that messages show. -/
  path : String
  file : Bytes
  /-- All members, directories among them. -/
  members : List Member
  isOpen : Bool := true
  deriving DecidableEq, Repr

/-- The members that are not directories. A member without a name ends the listing. -/
structure Listing where
  entries : List Member
  isComplete : Bool
  deriving DecidableEq, Repr

def Listing.of : List Member → Listing
  | [] => ⟨[], true⟩
  | m :: ms =>
    match m.isDirectory? with
    | none => ⟨[], false⟩
    | some true => Listing.of ms
    | some false => { Listing.of ms with entries := m :: (Listing.of ms).entries }

namespace Reader

def open? (path : String) (file : Bytes) : Except OpenFault Reader := do
  return { path := pathText path, file, members := ← readDirectory file }

def close (r : Reader) : Reader := { r with isOpen := false }

def listing (r : Reader) : Listing := Listing.of r.members

def headerMark : Bytes := [0x50, 0x4B, 3, 4]

def headerSize : Nat := 30

/-- The largest position in a file. -/
def maxPosition : Nat := 0x7FFFFFFFFFFFFFFF

/-- A member's own header has to be there and to agree with the directory. -/
def checkHeader (m : Member) (header name : Bytes) : Except EntryFault Unit := do
  if header.length < headerSize then throw .truncatedHeader
  if !headerMark.isPrefixOf header then throw .badHeaderMark
  if m.isPatch then throw .patch
  if m.isStronglyEncrypted then throw .strongEncryption
  let decoded ← (decodeName (header.natAt 6 2) name).mapError .badName
  if decoded ≠ m.fullName then throw (.nameDiffers m.fullName name)

/-- Where the data of a member start. -/
def dataStart (r : Reader) (m : Member) : Except EntryFault Nat :=
  if !r.isOpen then .error .closed
  else if m.offset < 0 then .error .badOffset
  else if m.offset > maxPosition then .error .offsetTooLarge
  else
    let start := m.offset.toNat
    let header : Bytes := r.file.slice start headerSize
    (checkHeader m header (r.file.slice (start + headerSize) (header.natAt 26 2))).map fun _ =>
      min (start + headerSize + header.natAt 26 2 + header.natAt 28 2) r.file.length

/-- The stream of a member whose data start there. -/
def streamAt (r : Reader) (m : Member) (dataStart : Nat) : Except EntryFault Stream := do
  if m.isEncrypted then throw (.encrypted m.description)
  let data := r.file.slice dataStart m.compressedSize
  match coding? m.method data with
  | none => throw .method
  | some coding =>
    return {
      name := m.name, coding, compressedSize := m.compressedSize, crc := UInt32.ofNat m.crc, data, left := m.size }

/-- The stream of a member. Its data have to end before what follows them. -/
def openStream (r : Reader) (m : Member) : Except EntryFault Stream := do
  let dataStart ← r.dataStart m
  if (dataStart : Int) + m.compressedSize > m.limit then throw (.overlap m.fullName)
  r.streamAt m dataStart

end Reader

end ApkReport.Archive
