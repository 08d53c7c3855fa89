/-
The base package of a bundle: the first member of that name is copied, piece by piece,
into a directory of the caller's.
-/
import ApkReport.Archive.Access
import ApkReport.Bundle

namespace ApkReport

open Archive

/-- The number of bytes that a copy asks for at a time. -/
def copySize : Nat := 65536

/-- What a copy of a stream yields, and the fault that ended it before the stream did. -/
def copyStream : Nat → Stream → Bytes × Option EntryFault
  | 0, _ => ([], none)
  | steps + 1, s =>
    match s.read copySize with
    | .error f => ([], some f)
    | .ok ([], _) => ([], none)
    | .ok (chunk, s) =>
      let (rest, fault) := copyStream steps s
      (chunk ++ rest, fault)

/-- Copies a stream into a file. What was copied before a fault stays. -/
def copyInto (files : FileSystem) (path : String) (s : Stream) : Option CopyFault × FileSystem :=
  match files.write path [] with
  | .error e => (some (.os e), files)
  | .ok empty =>
    let (copied, fault) := copyStream (s.left + 1) s
    match empty.write path copied with
    | .error e => (some (.os e), empty)
    | .ok written => (fault.map .member, written)

/-- The failure that a copy's fault is told as. -/
def copyFailure (name bundle : String) : CopyFault → Failure
  | .member f => if f.isRaw then .memberFault f else .memberCopy name bundle (.member f)
  | .os e => .memberCopy name bundle (.os e)

/-- The path of the copy in a directory. -/
def basePath (directory : String) : String := pathText (joinPath directory baseEntryName)

/-- Copies the stream of a member of a bundle into a directory, and yields the path of the copy. -/
def copyBase (stream : Stream) (name bundle directory : String) : Run String := do
  let (fault, files) := copyInto (← get).files (basePath directory) stream
  Run.setFiles files
  match fault with
  | some f => throw (copyFailure name bundle f)
  | none => return basePath directory

/-- Copies the base package of a bundle into a directory, and yields the path of the copy. -/
def extractBase (bundle directory : String) : Run String := do
  let reader ← openArchive bundle
  let listing := reader.listing
  match listing.entries.find? (isBaseEntry ·.name) with
  | none => throw (if listing.isComplete then .noBase bundle else .namelessMember)
  | some m =>
    Run.note .bundle Journal.debug ("Extracting " ++ m.name ++ " from " ++ bundle)
    copyBase (← reader.stream m) m.name bundle directory

end ApkReport
