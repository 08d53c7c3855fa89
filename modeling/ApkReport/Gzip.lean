/-
Compressed files of one member. Writing stores the data in blocks as they are; reading
inflates any data.
-/
import ApkReport.Crc32
import ApkReport.Deflate.Inflate

namespace ApkReport.Gzip

/-- The most bytes that one stored block holds. -/
def blockSize : Nat := 65535

/-- Stored blocks that hold the data, the last one marked; `blocks` is at least their number. -/
def storedBlocks (blocks : Nat) (data : Bytes) : Bytes :=
  let chunk := data.take blockSize
  let rest := data.drop blockSize
  let body := Bytes.ofNatLE 2 chunk.length ++ Bytes.ofNatLE 2 (blockSize - chunk.length) ++ chunk
  match blocks, rest with
  | _, [] | 0, _ => 1 :: body
  | blocks + 1, rest => 0 :: body ++ storedBlocks blocks rest

/-- A file without name and time. -/
def compress (data : Bytes) : Bytes :=
  [0x1F, 0x8B, 8, 0, 0, 0, 0, 0, 0, 255] ++ storedBlocks (data.length / blockSize + 1) data ++
    Bytes.ofNatLE 4 (Crc32.check data).toNat ++ Bytes.ofNatLE 4 data.length

/-- The data of a file without optional header fields. -/
def expand? (file : Bytes) : Option Bytes :=
  match file with
  | 0x1F :: 0x8B :: 8 :: 0 :: _ => Deflate.inflateAll? (file.drop 10)
  | _ => none

end ApkReport.Gzip
