/-
Byte strings: little-endian fields at an offset, and hexadecimal and base-64 text.
-/

namespace ApkReport

abbrev Bytes := List UInt8

namespace Bytes

/-- The number that the bytes hold, least byte first. -/
def toNatLE : Bytes → Nat
  | [] => 0
  | b :: rest => b.toNat + 256 * toNatLE rest

/-- `width` bytes, least byte first. -/
def ofNatLE (width n : Nat) : Bytes :=
  match width with
  | 0 => []
  | w + 1 => UInt8.ofNat (n % 256) :: ofNatLE w (n / 256)

/-- The bytes from `offset` on, at most `length` of them. -/
def slice (b : Bytes) (offset length : Nat) : Bytes := (b.drop offset).take length

/-- The little-endian number of `width` bytes at `offset`; missing bytes count as zeros. -/
def natAt (b : Bytes) (offset width : Nat) : Nat := toNatLE (b.slice offset width)

/-- The number at `offset`, if all of its bytes are there. -/
def natAt? (b : Bytes) (offset width : Nat) : Option Nat :=
  let field := b.slice offset width
  if field.length = width then some (toNatLE field) else none

/-- The last position at which `needle` stands in `b`. -/
def lastIndexOf? (needle : Bytes) (b : Bytes) : Option Nat :=
  go b 0 none
where
  go : Bytes → Nat → Option Nat → Option Nat
    | [], _, found => found
    | x :: rest, i, found => go rest (i + 1) (if needle.isPrefixOf (x :: rest) then some i else found)

/-- `needle` stands somewhere in `b`. -/
def contains (needle : Bytes) : Bytes → Bool
  | [] => needle.isEmpty
  | x :: rest => needle.isPrefixOf (x :: rest) || contains needle rest

def ofString (s : String) : Bytes := s.toUTF8.toList

/-! ## Base 64 -/

def base64Value? (b : UInt8) : Option Nat :=
  let c := Char.ofNat b.toNat
  if 'A' ≤ c ∧ c ≤ 'Z' then some (c.toNat - 'A'.toNat)
  else if 'a' ≤ c ∧ c ≤ 'z' then some (c.toNat - 'a'.toNat + 26)
  else if '0' ≤ c ∧ c ≤ '9' then some (c.toNat - '0'.toNat + 52)
  else if c = '+' then some 62
  else if c = '/' then some 63
  else none

/-- Reading base 64 four digits at a time: `place` counts the digits of the open group, `left` holds
the bits of the last one that no byte has taken, and `pads` counts the padding marks in a row. Bytes
that are no digits are skipped, and a full padding ends the text. -/
def base64From (place left pads : Nat) : Bytes → Option Bytes
  | [] => if place = 0 then some [] else none
  | b :: rest =>
    if b = 0x3D then
      if 2 ≤ place ∧ 4 ≤ place + (pads + 1) then some []
      else base64From place left (if 2 ≤ place then pads + 1 else pads) rest
    else
      match base64Value? b with
      | none => base64From place left pads rest
      | some v =>
        match place with
        | 0 => base64From 1 v 0 rest
        | 1 => (base64From 2 (v % 16) 0 rest).map (UInt8.ofNat (left * 4 + v / 16) :: ·)
        | 2 => (base64From 3 (v % 4) 0 rest).map (UInt8.ofNat (left * 16 + v / 4) :: ·)
        | _ => (base64From 0 0 0 rest).map (UInt8.ofNat (left * 64 + v) :: ·)

/-- The bytes of a base-64 text; `none` if its last group is incomplete. -/
def ofBase64? (text : Bytes) : Option Bytes := base64From 0 0 0 text

end Bytes

end ApkReport
