/-
Archives written out: members stored as they are, each with its own header, and a
directory that may list them in any order, or list some of them twice.
-/
import ApkReport.Archive.Reader
import ApkReport.Session

namespace ApkReport.Archive

open Bytes (ofNatLE ofString)

/-- The fields that a member's own header and its record in the directory share. -/
def sharedFields (name : String) (content : Bytes) : Bytes :=
  ofNatLE 2 20 ++ ofNatLE 2 0 ++ ofNatLE 2 0 ++ ofNatLE 2 0 ++ ofNatLE 2 0x21 ++
    ofNatLE 4 (Crc32.resume 0 content).toNat ++ ofNatLE 4 content.length ++ ofNatLE 4 content.length ++
    ofNatLE 2 (ofString name).length ++ ofNatLE 2 0

/-- A member with its own header. -/
def stored (name : String) (content : Bytes) : Bytes :=
  Reader.headerMark ++ sharedFields name content ++ ofString name ++ content

/-- The record of a member that stands at a position. -/
def record (name : String) (content : Bytes) (position : Nat) : Bytes :=
  [0x50, 0x4B, 1, 2] ++ ofNatLE 2 20 ++ sharedFields name content ++ ofNatLE 2 0 ++ ofNatLE 2 0 ++ ofNatLE 2 0 ++
    ofNatLE 4 0 ++ ofNatLE 4 position ++ ofString name

/-- Members, and the records of a directory. -/
def written (members : Bytes) (records : List Bytes) : Bytes :=
  members ++ records.flatten ++ [0x50, 0x4B, 5, 6] ++ ofNatLE 2 0 ++ ofNatLE 2 0 ++
    ofNatLE 2 records.length ++ ofNatLE 2 records.length ++ ofNatLE 4 records.flatten.length ++
    ofNatLE 4 members.length ++ ofNatLE 2 0

/-- The archive of one stored member. -/
def single (name : String) (content : Bytes) : Bytes := written (stored name content) [record name content 0]

/-- A session over one file, at the root. -/
def sessionOver (file : Bytes) : Session := { files := ⟨"/", [(["a.apk"], .file file)]⟩, tempRoot := "/tmp" }

end ApkReport.Archive
