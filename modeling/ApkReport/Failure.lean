/-
Why an inspection fails. A failure names what was tried and what went wrong; its kind
leaves out the names.
-/
import ApkReport.Archive.Fault
import ApkReport.Config.Fault
import ApkReport.Journal.Level

namespace ApkReport

open Text

/-- Why a copy of a member fails. -/
inductive CopyFault where
  | member (f : Archive.EntryFault)
  | os (e : OsError)
  deriving DecidableEq, Repr

def CopyFault.message : CopyFault → String
  | .member f => f.message
  | .os e => e.message

/-- Why a manifest cannot be read. -/
inductive ManifestFault where
  | undecodable (path reason : String)
  | invalid (path : String)
  | unreadableRoot (reason : String)
  | noRoot
  | unreadablePackage (reason : String)
  deriving DecidableEq, Repr

def ManifestFault.message : ManifestFault → String
  | .undecodable path reason => "Failed to decode manifest of " ++ path ++ ": " ++ reason
  | .invalid path => "No valid AndroidManifest.xml in " ++ path
  | .unreadableRoot reason => "Failed to read manifest XML: " ++ reason
  | .noRoot => "Manifest XML is not available"
  | .unreadablePackage reason => "Failed to read package name: " ++ reason

inductive Failure where
  | archive (path : String) (f : Archive.ContainerFault)
  /-- A member needs a later version of the format. -/
  | version (tenths : Nat)
  /-- A member's name is marked as text but is none. -/
  | memberName (e : Utf8Error)
  /-- The listing of members meets one without a name. -/
  | namelessMember
  | noBase (path : String)
  | memberOpen (name path : String) (f : Archive.EntryFault)
  | memberRead (name path : String) (f : Archive.EntryFault)
  | memberCopy (name path : String) (f : CopyFault)
  /-- A fault of a member that is reported as it is. -/
  | memberFault (f : Archive.EntryFault)
  | manifest (f : ManifestFault)
  | settings (f : Config.Fault)
  | level (f : Journal.LevelFault)
  | os (e : OsError)
  | nullInPath
  /-- A value in the place of a path. -/
  | notAPath (v : Value)
  /-- A prefix for temporary directories that is no text. -/
  | tempPrefix (v : Value)
  /-- An error of the caller's own. -/
  | custom (text : String)
  deriving Repr

namespace Failure

def message : Failure → String
  | .archive path f => "Cannot open archive " ++ path ++ ": " ++ f.message
  | .version tenths => (Archive.OpenFault.version tenths).message
  | .memberName e => e.message
  | .namelessMember => "string index out of range"
  | .noBase path => "No base.apk found in APKM file " ++ path
  | .memberOpen name path f => "Cannot open " ++ name ++ " in " ++ path ++ ": " ++ f.message
  | .memberRead name path f => "Failed to read " ++ name ++ " in " ++ path ++ ": " ++ f.message
  | .memberCopy name path f => "Failed to extract " ++ name ++ " from " ++ path ++ ": " ++ f.message
  | .memberFault f => f.message
  | .manifest f => f.message
  | .settings f => f.message
  | .level f => f.message
  | .os e => e.message
  | .nullInPath => "embedded null byte"
  | .notAPath v => "stat: path should be string, bytes, os.PathLike or integer, not " ++ v.kindName
  | .tempPrefix v =>
    match v.kindName with
    | "list" => "can only concatenate list (not \"str\") to list"
    | kind => "unsupported operand type(s) for +: " ++ Text.quoted kind ++ " and 'str'"
  | .custom text => text

/-- What a caller can tell failures apart by. -/
inductive Kind where
  | archive
  | noBase
  | stream
  | manifest
  | settings
  | badArchive
  | dataEnd
  | deflate
  | lzma
  | unsupported
  | encoding
  | missingItem
  | missingKey
  | missingAttribute
  | badValue
  | badType
  | tooLarge
  | os (reason : Option OsReason)
  | custom
  deriving DecidableEq, Repr

/-- The kind of a member's fault that is reported as it is. -/
def memberKind : Archive.EntryFault → Kind
  | .closed | .offsetTooLarge => .badValue
  | .badOffset => .os (some .invalidArgument)
  | .truncatedHeader | .badHeaderMark | .nameDiffers .. | .overlap _ | .badCrc _ => .badArchive
  | .patch | .strongEncryption | .method => .unsupported
  | .badName _ => .encoding
  | .encrypted _ => .custom
  | .dataEnd => .dataEnd
  | .deflate _ => .deflate
  | .bzip2 => .os none
  | .lzma _ => .lzma

def readerKind : Config.ReaderError → Kind
  | .encoding => .encoding
  | .badValue => .badValue
  | .badType => .badType
  | .missingKey => .missingKey
  | .missingItem => .missingItem
  | .missingAttribute => .missingAttribute
  | .tooLarge => .tooLarge
  | .other => .custom

def settingsKind : Config.Fault → Kind
  | .badFormat _ | .unreadable .. | .malformed .. | .notMapping .. => .settings
  | .reader e _ => readerKind e
  | .longInteger => .badValue
  | .unorderedKeys _ | .unknownSetting _ => .badType

def kind : Failure → Kind
  | .archive .. => .archive
  | .version _ => .unsupported
  | .memberName _ => .encoding
  | .namelessMember => .missingItem
  | .noBase _ => .noBase
  | .memberOpen .. | .memberRead .. | .memberCopy .. => .stream
  | .memberFault f => memberKind f
  | .manifest _ => .manifest
  | .settings f => settingsKind f
  | .level (.notALevel _) | .notAPath _ => .badType
  | .level _ => .badValue
  | .os e => .os (some e.reason)
  | .nullInPath => .badValue
  | .tempPrefix _ => .badType
  | .custom _ => .custom

end Failure

end ApkReport
