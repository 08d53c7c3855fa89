/-
Quoted texts in messages: between apostrophes, or between quotation marks if the text
holds an apostrophe and no quotation mark. The quote and the backslash are escaped, and
so is every character without a printed form.
-/
import ApkReport.Text.CharClass

namespace ApkReport.Text

def hexDigit (n : Nat) : Char := "0123456789abcdef".toList.getD n '0'

/-- The last `width` hexadecimal digits of a number. -/
def hex (width n : Nat) : List Char :=
  match width with
  | 0 => []
  | w + 1 => hex w (n / 16) ++ [hexDigit (n % 16)]

/-- The digits of a number in a base up to sixteen, without leading zeros. -/
def hexShort (n : Nat) : List Char :=
  (Nat.toDigits 16 n)

/-- The quote that a text is put between. -/
def quoteFor (s : List Char) : Char := if s.contains '\'' && !s.contains '"' then '"' else '\''

/-- The escapes that quoted texts and quoted bytes share. -/
def escapeControl? (quote c : Char) : Option (List Char) :=
  if c = quote || c = '\\' then some ['\\', c]
  else if c = '\n' then some ['\\', 'n']
  else if c = '\r' then some ['\\', 'r']
  else if c = '\t' then some ['\\', 't']
  else none

/-- The number of a character, marked by how long it is. -/
def escapeNumber (c : Char) : List Char :=
  if c.toNat < 0x100 then '\\' :: 'x' :: hex 2 c.toNat
  else if c.toNat < 0x10000 then '\\' :: 'u' :: hex 4 c.toNat
  else '\\' :: 'U' :: hex 8 c.toNat

def escapeChar (quote c : Char) : List Char :=
  match escapeControl? quote c with
  | some e => e
  | none => if isPrintable c then [c] else escapeNumber c

/-- A text in quotes. -/
def quoted (s : String) : String :=
  let q := quoteFor s.toList
  String.ofList (q :: s.toList.flatMap (escapeChar q) ++ [q])

/-- A text in quotes, in which only characters of seven bits stand for themselves. -/
def quotedPlain (s : String) : String :=
  String.ofList ((quoted s).toList.flatMap fun c => if c.toNat < 0x80 then [c] else escapeNumber c)

def escapeByte (quote : Char) (b : UInt8) : List Char :=
  let c := Char.ofNat b.toNat
  match escapeControl? quote c with
  | some e => e
  | none => if 0x20 ≤ b && b < 0x7F then [c] else '\\' :: 'x' :: hex 2 b.toNat

/-- Bytes in quotes, marked with a `b` in front. -/
def quotedBytes (bytes : List UInt8) : String :=
  let q := quoteFor (bytes.map fun b => Char.ofNat b.toNat)
  String.ofList ('b' :: q :: bytes.flatMap (escapeByte q) ++ [q])

end ApkReport.Text
