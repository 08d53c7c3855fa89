/-
The cyclic redundancy check of archive members: polynomial `0xEDB88320`, least bit first,
all ones at the start and complemented at the end.
-/
import ApkReport.Bytes

namespace ApkReport.Crc32

/-- One bit of the remainder shifted out. -/
def shift (c : UInt32) : UInt32 := if c &&& 1 = 1 then (c >>> 1) ^^^ 0xEDB88320 else c >>> 1

def byte (c : UInt32) (b : UInt8) : UInt32 :=
  shift (shift (shift (shift (shift (shift (shift (shift (c ^^^ b.toUInt32))))))))

/-- The check of bytes that follow bytes of check `before`. -/
def resume (before : UInt32) (b : Bytes) : UInt32 := ~~~(b.foldl byte (~~~before))

/-- The check of a byte string. -/
def check (b : Bytes) : UInt32 := resume 0 b

end ApkReport.Crc32
