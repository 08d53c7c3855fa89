/-
Reading integers in a base. Blanks around the number are skipped, a sign and the mark
of the base (`0b`, `0o`, `0x`) may stand in front, and single underscores may separate
digits. Decimal digits of every script count. A number in a base without a mark has a limited
number of digits.
-/
import ApkReport.Text.CharClass

namespace ApkReport.Text

/-- The value of a digit or of a Latin letter past nine. -/
def digitIn? (base : Nat) (c : Char) : Option Nat :=
  let value? :=
    if 'a' ≤ c ∧ c ≤ 'z' then some (c.toNat - 'a'.toNat + 10)
    else if 'A' ≤ c ∧ c ≤ 'Z' then some (c.toNat - 'A'.toNat + 10)
    else digitValue? c
  value?.filter (· < base)

/-- The digits of a number, each underscore between two of them; `none` if anything else is met. -/
def digitsIn? (base : Nat) : List Char → Option (List Nat)
  | [] => none
  | [c] => (digitIn? base c).map ([·])
  | c :: '_' :: rest => do
    let d ← digitIn? base c
    let ds ← digitsIn? base rest
    return d :: ds
  | c :: rest => do
    let d ← digitIn? base c
    let ds ← digitsIn? base rest
    return d :: ds

def ofDigits (base : Nat) (ds : List Nat) : Nat := ds.foldl (fun n d => n * base + d) 0

/-- The letter that marks a base. -/
def baseMark? : Nat → Option Char
  | 2 => some 'b'
  | 8 => some 'o'
  | 16 => some 'x'
  | _ => none

/-- The number without the mark of its base and one underscore after the mark. -/
def dropBaseMark (base : Nat) (s : List Char) : List Char :=
  match s, baseMark? base with
  | '0' :: m :: rest, some mark =>
    if m = mark ∨ m = mark.toUpper then
      match rest with
      | '_' :: digits => digits
      | digits => digits
    else s
  | _, _ => s

/-- The most digits that a number in a base without a mark is read from, or written with. -/
def maxDigits : Nat := 4300

/-- What is said of a number with more digits than can be written. -/
def tooManyDigits : String :=
  "Exceeds the limit (" ++ toString maxDigits ++
    " digits) for integer string conversion; use sys.set_int_max_str_digits() to increase the limit"

def readNat? (base : Nat) (s : List Char) : Option Nat :=
  ((digitsIn? base (dropBaseMark base s)).filter fun ds =>
    (baseMark? base).isSome || ds.length ≤ maxDigits).map (ofDigits base)

def readInt? (base : Nat) (s : List Char) : Option Int :=
  match trim s with
  | '-' :: rest => (readNat? base rest).map fun n => -(n : Int)
  | '+' :: rest => (readNat? base rest).map fun n => (n : Int)
  | rest => (readNat? base rest).map fun n => (n : Int)

/-- The number of decimal digits that an integer starts with, if no underscores divide them. -/
def leadingDigits (s : List Char) : Nat :=
  let unsigned := match trim s with
    | '-' :: rest | '+' :: rest => rest
    | rest => rest
  (unsigned.takeWhile isDigit).length

end ApkReport.Text
