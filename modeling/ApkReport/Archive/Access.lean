/-
Archives among the files of a session: opening one, and reading its members. What goes
wrong with a member is told with the member's name and the archive's path.
-/
import ApkReport.Archive.Reader
import ApkReport.Session

namespace ApkReport.Archive

/-- Opens the archive at a path. -/
def openArchive (path : String) : Run Reader := do
  if FileSystem.hasNull path then throw .nullInPath
  match (← get).files.read path with
  | .error e => throw (.archive path (.os e))
  | .ok file =>
    match Reader.open? path file with
    | .error (.container f) => throw (.archive path f)
    | .error (.version tenths) => throw (.version tenths)
    | .error (.badName e) => throw (.memberName e)
    | .ok reader =>
      Run.note .archive Journal.debug ("Opened " ++ path ++ " (" ++ toString reader.members.length ++ " entries)")
      return reader

namespace Reader

/-- The stream of a member. -/
def stream (r : Reader) (m : Member) : Except Failure Stream :=
  (r.openStream m).mapError (.memberOpen m.name r.path)

/-- The whole content of a stream, if it could be opened. -/
def contentFrom (name path : String) (opened : Except EntryFault Stream) : Except Failure Bytes :=
  match opened with
  | .error f => .error (.memberOpen name path f)
  | .ok s =>
    match s.readAll with
    | .ok (content, _) => .ok content
    | .error f => .error (if f.isRaw then .memberFault f else .memberRead name path f)

/-- The whole content of a member. -/
def content (r : Reader) (m : Member) : Except Failure Bytes := contentFrom m.name r.path (r.openStream m)

/-- All members that are not directories. -/
def allEntries (r : Reader) : Except Failure (List Member) :=
  if r.listing.isComplete then .ok r.listing.entries else .error .namelessMember

end Reader

end ApkReport.Archive
