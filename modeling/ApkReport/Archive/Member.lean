/-
Members of an archive as its directory describes them, and the description that messages
show.
-/
import ApkReport.Text.Quoted
import ApkReport.Value

namespace ApkReport.Archive

open Text

structure Member where
  /-- The name as it stands in the directory. -/
  fullName : String
  /-- The name up to a character of code zero. -/
  name : String
  flags : Nat
  method : Nat
  crc : Nat
  compressedSize : Nat
  size : Nat
  attributes : Nat
  /-- Where the member's own header starts. -/
  offset : Int
  /-- Where its data end at the latest: the next member's header, or the directory. -/
  limit : Int
  deriving DecidableEq, Repr

namespace Member

/-- The flag bits that matter to a reader. -/
def hasFlag (flags bit : Nat) : Bool := flags.testBit bit

def isEncrypted (m : Member) : Bool := hasFlag m.flags 0

def isPatch (m : Member) : Bool := hasFlag m.flags 5

def isStronglyEncrypted (m : Member) : Bool := hasFlag m.flags 6

/-- The bit that marks a name in UTF-8. -/
def utf8Flag : Nat := 11

/-- A name that ends in a slash names a directory; an empty name says neither. -/
def isDirectory? (m : Member) : Option Bool := m.name.toList.getLast?.map (· = '/')

/-! ## Description -/

/-- The names of known methods. -/
def methodNames : List (Nat × String) := [
  (0, "store"), (1, "shrink"), (2, "reduce"), (3, "reduce"), (4, "reduce"), (5, "reduce"), (6, "implode"),
  (7, "tokenize"), (8, "deflate"), (9, "deflate64"), (10, "implode"), (12, "bzip2"), (14, "lzma"), (18, "terse"),
  (19, "lz77"), (97, "wavpack"), (98, "ppmd")]

def methodName (method : Nat) : String := (methodNames.lookup method).getD (toString method)

/-- The letter of a kind of file. -/
def fileKindLetter (mode : Nat) : Char :=
  match mode / 0x1000 % 16 with
  | 8 => '-'
  | 4 => 'd'
  | 10 => 'l'
  | 6 => 'b'
  | 2 => 'c'
  | 1 => 'p'
  | 12 => 's'
  | _ => '?'

/-- Three letters of permission, of which the last also shows a special bit. -/
def permissionLetters (bits : Nat) (special : Bool) (mark : Char) : List Char :=
  let execute := match bits.testBit 0, special with
    | true, true => mark
    | true, false => 'x'
    | false, true => mark.toUpper
    | false, false => '-'
  [if bits.testBit 2 then 'r' else '-', if bits.testBit 1 then 'w' else '-', execute]

def modeText (mode : Nat) : String :=
  String.ofList (fileKindLetter mode :: permissionLetters (mode / 64 % 8) (mode.testBit 11) 's' ++
    permissionLetters (mode / 8 % 8) (mode.testBit 10) 's' ++ permissionLetters (mode % 8) (mode.testBit 9) 't')

/-- What a message says about a member: whatever is not the usual. -/
def description (m : Member) : String :=
  let high := m.attributes / 0x10000
  let low := m.attributes % 0x10000
  "<ZipInfo filename=" ++ quoted m.name ++
    (if m.method = 0 then "" else " compress_type=" ++ methodName m.method) ++
    (if high = 0 then "" else " filemode=" ++ quoted (modeText high)) ++
    (if low = 0 then "" else " external_attr=0x" ++ String.ofList (hexShort low)) ++
    " file_size=" ++ toString m.size ++
    (if m.method = 0 ∧ m.size = m.compressedSize then "" else " compress_size=" ++ toString m.compressedSize) ++ ">"

end Member

end ApkReport.Archive
