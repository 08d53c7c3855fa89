/-
Text from bytes: UTF-8, UTF-16 and code page 437. A decoder cuts the bytes into characters
and faulty pieces; the strict reading reports the first fault, the lenient ones replace the
faulty pieces or drop them.
-/
import ApkReport.Bytes
import ApkReport.Text.Quoted

namespace ApkReport.Text

/-- What is wrong with a piece of UTF-8. -/
inductive Utf8Fault where
  | badStart
  | badContinuation
  | truncated
  deriving DecidableEq, Repr

def Utf8Fault.message : Utf8Fault → String
  | .badStart => "invalid start byte"
  | .badContinuation => "invalid continuation byte"
  | .truncated => "unexpected end of data"

/-- A fault and the bytes that it covers, the first of them at `offset`. -/
structure Utf8Error where
  offset : Nat
  bytes : Bytes
  fault : Utf8Fault
  deriving DecidableEq, Repr

def Utf8Error.message (e : Utf8Error) : String :=
  let place := match e.bytes with
    | [b] => "byte 0x" ++ String.ofList (hex 2 b.toNat) ++ " in position " ++ toString e.offset
    | bs => "bytes in position " ++ toString e.offset ++ "-" ++ toString (e.offset + bs.length - 1)
  "'utf-8' codec can't decode " ++ place ++ ": " ++ e.fault.message

/-! ## UTF-8 -/

/-- A character, or bytes that begin none. -/
inductive Utf8Piece where
  | char (c : Char)
  | faulty (bytes : Bytes) (fault : Utf8Fault)
  deriving DecidableEq, Repr

/-- The number of bytes that follow a first byte, and the least and the greatest that may follow directly. -/
def utf8Lead? (b : UInt8) : Option (Nat × UInt8 × UInt8) :=
  if b < 0x80 then some (0, 0x80, 0xBF)
  else if b < 0xC2 then none
  else if b < 0xE0 then some (1, 0x80, 0xBF)
  else if b = 0xE0 then some (2, 0xA0, 0xBF)
  else if b = 0xED then some (2, 0x80, 0x9F)
  else if b < 0xF0 then some (2, 0x80, 0xBF)
  else if b = 0xF0 then some (3, 0x90, 0xBF)
  else if b < 0xF4 then some (3, 0x80, 0xBF)
  else if b = 0xF4 then some (3, 0x80, 0x8F)
  else none

/-- The continuation bytes at the front, at most `n`; the first lies between `lo` and `hi`. -/
def utf8Tail (n : Nat) (lo hi : UInt8) : Bytes → Bytes
  | [] => []
  | b :: rest =>
    match n with
    | 0 => []
    | n + 1 => if lo ≤ b && b ≤ hi then b :: utf8Tail n 0x80 0xBF rest else []

/-- The bits of a first byte that belong to the character. -/
def utf8LeadBits (b : UInt8) (tails : Nat) : Nat :=
  match tails with
  | 0 => b.toNat
  | n => b.toNat % Nat.pow 2 (6 - n)

def utf8Pieces : Bytes → List Utf8Piece
  | [] => []
  | b :: rest =>
    match utf8Lead? b with
    | none => .faulty [b] .badStart :: utf8Pieces rest
    | some (n, lo, hi) =>
      let tail := utf8Tail n lo hi rest
      let after := rest.drop tail.length
      if tail.length = n then
        .char (Char.ofNat (tail.foldl (fun v t => v * 64 + t.toNat % 64) (utf8LeadBits b n))) ::
          utf8Pieces after
      else .faulty (b :: tail) (if after.isEmpty then .truncated else .badContinuation) :: utf8Pieces after
  termination_by b => b.length
  decreasing_by
    all_goals
      simp only [List.length_drop, List.length_cons]
      omega

/-- The text of UTF-8 bytes, the first of which stands at `offset`. -/
def utf8Strict (offset : Nat) : List Utf8Piece → Except Utf8Error (List Char)
  | [] => .ok []
  | .char c :: rest => (utf8Strict (offset + c.utf8Size) rest).map (c :: ·)
  | .faulty bytes fault :: _ => .error ⟨offset, bytes, fault⟩

def decodeUtf8 (b : Bytes) : Except Utf8Error String := (utf8Strict 0 (utf8Pieces b)).map String.ofList

/-- The text without its faulty pieces. -/
def decodeUtf8Dropping (b : Bytes) : String :=
  String.ofList ((utf8Pieces b).filterMap fun | .char c => some c | .faulty .. => none)

def replacementChar : Char := '\uFFFD'

/-- The text with one replacement character for each faulty piece. -/
def decodeUtf8Replacing (b : Bytes) : String :=
  String.ofList ((utf8Pieces b).map fun | .char c => c | .faulty .. => replacementChar)

/-! ## UTF-16 -/

def utf16Units (bigEndian : Bool) : Bytes → List Nat
  | a :: b :: rest => (if bigEndian then a.toNat * 256 + b.toNat else a.toNat + 256 * b.toNat) :: utf16Units bigEndian rest
  | _ => []

/-- Characters from units; a surrogate without its partner is replaced. -/
def utf16Chars : List Nat → List Char
  | [] => []
  | [u] => [if 0xD800 ≤ u ∧ u < 0xE000 then replacementChar else Char.ofNat u]
  | u :: v :: rest =>
    if 0xD800 ≤ u ∧ u < 0xDC00 then
      if 0xDC00 ≤ v ∧ v < 0xE000 then
        Char.ofNat (0x10000 + (u - 0xD800) * 0x400 + (v - 0xDC00)) :: utf16Chars rest
      else replacementChar :: utf16Chars (v :: rest)
    else if 0xDC00 ≤ u ∧ u < 0xE000 then replacementChar :: utf16Chars (v :: rest)
    else Char.ofNat u :: utf16Chars (v :: rest)

/-- UTF-16 text. A byte-order mark in front sets the order and is no part of the text; without one the
least byte of a unit comes first. An odd last byte is replaced. -/
def decodeUtf16Replacing (b : Bytes) : String :=
  let (bigEndian, body) := match b with
    | 0xFF :: 0xFE :: rest => (false, rest)
    | 0xFE :: 0xFF :: rest => (true, rest)
    | rest => (false, rest)
  String.ofList (utf16Chars (utf16Units bigEndian body) ++ (if body.length % 2 = 1 then [replacementChar] else []))

/-! ## Code page 437 -/

/-- The characters of the bytes from `0x80` on. -/
def codePage437Upper : List Char :=
  ("ÇüéâäàåçêëèïîìÄÅÉæÆôöòûùÿÖÜ¢£¥₧ƒáíóúñÑªº¿⌐¬½¼¡«»░▒▓│┤╡╢╖╕╣║╗╝╜╛┐└┴┬├─┼╞╟" ++
   "╚╔╩╦╠═╬╧╨╤╥╙╘╒╓╫╪┘┌█▄▌▐▀αßΓπΣσµτΦΘΩδ∞φε∩≡±≥≤⌠⌡÷≈°∙·√ⁿ²■\u00a0").toList

def decodeCodePage437 (b : Bytes) : String :=
  String.ofList (b.map fun x => if x < 0x80 then Char.ofNat x.toNat else codePage437Upper.getD (x.toNat - 0x80) ' ')

end ApkReport.Text
