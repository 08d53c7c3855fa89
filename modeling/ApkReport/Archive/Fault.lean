/-
What can be wrong with an archive as a whole, and with a single member of it.
-/
import ApkReport.Deflate.Inflate
import ApkReport.FileSystem.Basic
import ApkReport.Lzma.Range
import ApkReport.Text.Encoding

namespace ApkReport.Archive

open Text

/-- Why a file is no readable archive. -/
inductive ContainerFault where
  | os (e : OsError)
  | notAnArchive
  | spansDisks
  | badOffset
  | truncatedDirectory
  | badDirectoryMark
  | corruptExtra (id size : Nat)
  | corruptWideField (field : String)
  deriving DecidableEq, Repr

def ContainerFault.message : ContainerFault → String
  | .os e => e.message
  | .notAnArchive => "File is not a zip file"
  | .spansDisks => "zipfiles that span multiple disks are not supported"
  | .badOffset => "Bad offset for central directory"
  | .truncatedDirectory => "Truncated central directory"
  | .badDirectoryMark => "Bad magic number for central directory"
  | .corruptExtra id size => "Corrupt extra field " ++ String.ofList (hex 4 id) ++ " (size=" ++ toString size ++ ")"
  | .corruptWideField field => "Corrupt zip64 extra field. " ++ field ++ " not found."

/-- Why a file does not open: a fault of the container, or something that its directory asks for and
that is refused whatever else the file holds. -/
inductive OpenFault where
  | container (f : ContainerFault)
  | version (tenths : Nat)
  | badName (e : Utf8Error)
  deriving DecidableEq, Repr

def OpenFault.message : OpenFault → String
  | .container f => f.message
  | .version tenths => "zip file version " ++ toString (tenths / 10) ++ "." ++ toString (tenths % 10)
  | .badName e => e.message

/-- Why a member cannot be opened or read. -/
inductive EntryFault where
  | closed
  | badOffset
  | offsetTooLarge
  | truncatedHeader
  | badHeaderMark
  | patch
  | strongEncryption
  | badName (e : Utf8Error)
  | nameDiffers (directory : String) (header : Bytes)
  | overlap (name : String)
  | encrypted (description : String)
  | method
  | badCrc (name : String)
  | dataEnd
  | deflate (f : Deflate.Fault)
  | bzip2
  | lzma (f : Lzma.Fault)
  deriving DecidableEq, Repr

def EntryFault.message : EntryFault → String
  | .closed => "Attempt to use ZIP archive that was already closed"
  | .badOffset => (⟨.invalidArgument, none⟩ : OsError).message
  | .offsetTooLarge => "cannot fit 'int' into an index-sized integer"
  | .truncatedHeader => "Truncated file header"
  | .badHeaderMark => "Bad magic number for file header"
  | .patch => "compressed patched data (flag bit 5)"
  | .strongEncryption => "strong encryption (flag bit 6)"
  | .badName e => e.message
  | .nameDiffers directory header =>
    "File name in directory " ++ quoted directory ++ " and header " ++ quotedBytes header ++ " differ."
  | .overlap name => "Overlapped entries: " ++ quoted name ++ " (possible zip bomb)"
  | .encrypted description => "File " ++ description ++ " is encrypted, password required for extraction"
  | .method => "That compression method is not supported"
  | .badCrc name => "Bad CRC-32 for file " ++ quoted name
  | .dataEnd => ""
  | .deflate f => "Error -3 while decompressing data: " ++ f.message
  | .bzip2 => "Invalid data stream"
  | .lzma f => f.message

/-- Faults that are reported as they are, and not as the failure to read a member. -/
def EntryFault.isRaw : EntryFault → Bool
  | .lzma _ => true
  | _ => false

end ApkReport.Archive
