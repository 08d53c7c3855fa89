/-
Templates for the lines of a log: text with fields of a record, each marked by a percent
sign and its name in brackets, with optional flags, width, precision and conversion.
-/
import ApkReport.Journal.Level
import ApkReport.Text.Quoted

namespace ApkReport.Journal

structure Record where
  name : String
  level : Int
  message : String
  deriving DecidableEq, Repr

/-- The form of a field. -/
structure Form where
  flags : List Char := []
  width : Nat := 0
  precision : Option Nat := none
  conversion : Char
  deriving DecidableEq, Repr

inductive Piece where
  | text (c : Char)
  | field (name : String) (form : Form)
  /-- A percent sign that starts no field. -/
  | broken
  deriving DecidableEq, Repr

abbrev Template := List Piece

namespace Template

/-! ## Reading -/

def isWordChar (c : Char) : Bool := Text.isLetter c || Text.isDigit c || Text.isOtherNumber c || c = '_'

def isFlag (c : Char) : Bool := c = '#' || c = '0' || c = '+' || c = ' ' || c = '-'

def isAsciiDigit (c : Char) : Bool := '0' ≤ c && c ≤ '9'

def readNumber (s : List Char) : Nat × List Char :=
  let digits := s.takeWhile isAsciiDigit
  (digits.foldl (fun n c => n * 10 + (c.toNat - '0'.toNat)) 0, s.drop digits.length)

def isConversion (c : Char) : Bool := "diouxefgcrsa%".toList.contains c.toLower

/-- The largest width, and the largest precision, that a form can have. -/
def maxWidth : Nat := Nat.pow 2 63 - 1

def maxPrecision : Nat := Nat.pow 2 31 - 1

/-- The form at the front, and what follows. One letter that would tell the size of a number is passed over. -/
def readForm? (s : List Char) : Option (Form × List Char) :=
  let flags := s.takeWhile isFlag
  let (width, rest) := readNumber (s.drop flags.length)
  let (precision, rest) := match rest with
    | '.' :: rest => (readNumber rest).map some id
    | rest => (none, rest)
  let rest := match rest with
    | 'h' :: rest | 'l' :: rest | 'L' :: rest => rest
    | rest => rest
  if maxWidth < width ∨ precision.any (maxPrecision < ·) then none
  else match rest with
    | c :: rest => if isConversion c then some (⟨flags, width, precision, c⟩, rest) else none
    | [] => none

/-- The field after a percent sign, and what follows. -/
def readField? (s : List Char) : Option (Piece × List Char) :=
  match s with
  | '(' :: s =>
    let name := s.takeWhile isWordChar
    match s.drop name.length with
    | ')' :: s => if name.isEmpty then none else (readForm? s).map fun (form, rest) => (.field (String.ofList name) form, rest)
    | _ => none
  | _ => none

/-- The pieces of a template; `steps` bounds their number. -/
def pieces : Nat → List Char → Template
  | 0, _ | _, [] => []
  | steps + 1, c :: rest =>
    if c ≠ '%' then .text c :: pieces steps rest
    else match readField? rest, rest with
      | some (field, rest), _ => field :: pieces steps rest
      | none, '%' :: rest => .text '%' :: pieces steps rest
      | none, _ => .broken :: pieces steps rest

/-! ## Checking -/

/-- Case is folded in a check, so that `ſ` counts as `s`, and both `İ` and `ı` as `i`. -/
def endsForm (c : Char) : Bool := isConversion c || c = 'ſ' || c = 'İ' || c = 'ı'

/-- What follows a star or digits of any script, if they are there. -/
def afterCount? : List Char → Option (List Char)
  | '*' :: rest => some rest
  | s => if s.head?.any Text.isDigit then some (s.dropWhile Text.isDigit) else none

/-- A form is at the front, as far as it is checked: a star may stand for a number, and a point needs one. -/
def startsForm (s : List Char) : Bool :=
  let s := s.dropWhile isFlag
  let s := (afterCount? s).getD s
  let s := match s with
    | '.' :: rest => (afterCount? rest).getD s
    | s => s
  s.head?.any endsForm

/-- A field is at the front, behind its percent sign. -/
def startsField (s : List Char) : Bool :=
  match s with
  | '(' :: s =>
    let name := s.takeWhile isWordChar
    match s.drop name.length with
    | ')' :: s => !name.isEmpty && startsForm s
    | _ => false
  | _ => false

/-- Some field starts at one of the percent signs. -/
def hasField : List Char → Bool
  | [] => false
  | c :: rest => (c = '%' && startsField rest) || hasField rest

/-- Reads a template, which has to hold a field. -/
def ofString? (s : String) : Option Template :=
  if hasField s.toList then some (pieces s.length s.toList) else none

/-- The message and nothing else. -/
def messageOnly : Template := [.field "message" { conversion := 's' }]

/-- The level, the name and the message. -/
def standard : Template := (ofString? "[%(levelname)s] %(name)s: %(message)s").getD messageOnly

/-! ## Filling in -/

/-- Blanks up to the width, before the text or after it. -/
def pad (form : Form) (s : List Char) : List Char :=
  let blanks := List.replicate (form.width - s.length) ' '
  if form.flags.contains '-' then s ++ blanks else blanks ++ s

/-- The first characters of a text, as many as the precision says. -/
def clip (form : Form) (s : List Char) : List Char :=
  match form.precision with
  | none => s
  | some n => s.take n

def fillText (form : Form) (s : String) : Option (List Char) :=
  match form.conversion with
  | 's' => some (pad form (clip form s.toList))
  | 'r' => some (pad form (clip form (Text.quoted s).toList))
  | 'a' => some (pad form (clip form (Text.quotedPlain s).toList))
  | 'c' => if s.length = 1 then some (pad form s.toList) else none
  | _ => none

/-! ### Numbers -/

/-- Digits behind a sign, and behind the mark of their base if the flags ask for it: at least as many digits as the
precision says, and zeros up to the width if the flags ask for them. -/
def fillDigits (form : Form) (negative : Bool) (mark digits : List Char) : List Char :=
  let sign := if negative then ['-'] else if form.flags.contains '+' then ['+'] else if form.flags.contains ' ' then [' '] else []
  let front := if form.flags.contains '#' then sign ++ mark else sign
  let least := match form.precision with
    | none => 0
    | some p => p
  let least := if form.flags.contains '0' ∧ !form.flags.contains '-' then max least (form.width - front.length) else least
  pad form (front ++ List.replicate (least - digits.length) '0' ++ digits)

/-- The nearest multiple of a step, in steps. An exact tie goes to the even one. -/
def nearest (n step : Nat) : Nat :=
  let below := n / step
  if step < 2 * (n % step) ∨ (step = 2 * (n % step) ∧ below % 2 = 1) then below + 1 else below

/-- The nearest whole number with 53 binary digits, then zeros. There is none from `2 ^ 1024` on. -/
def asFloat? (n : Nat) : Option Nat :=
  let step := Nat.pow 2 (n.log2 + 1 - 53)
  let rounded := nearest n step * step
  if rounded < Nat.pow 2 1024 then some rounded else none

/-- The first digits of a number, rounded to that many, and the place of the first. -/
def leading (n count : Nat) : List Char × Nat :=
  let digits := Nat.toDigits 10 n
  if digits.length ≤ count then (digits ++ List.replicate (count - digits.length) '0', digits.length - 1)
  else
    let rounded := Nat.toDigits 10 (nearest n (Nat.pow 10 (digits.length - count)))
    (rounded.take count, digits.length - 1 + (rounded.length - count))

/-- Digits behind a point; without any there is a point only if it is asked for. -/
def fraction (point : Bool) (digits : List Char) : List Char := if digits.isEmpty && !point then [] else '.' :: digits

/-- A power of ten, in at least two digits. -/
def exponent (mark : Char) (place : Nat) : List Char :=
  let digits := Nat.toDigits 10 place
  [mark, '+'] ++ List.replicate (2 - digits.length) '0' ++ digits

def fixed (point : Bool) (precision n : Nat) : List Char :=
  Nat.toDigits 10 n ++ fraction point (List.replicate precision '0')

def scientific (point : Bool) (mark : Char) (precision n : Nat) : List Char :=
  let (digits, place) := leading n (precision + 1)
  digits.take 1 ++ fraction point (digits.drop 1) ++ exponent mark place

/-- As many digits as the precision says, without zeros at the end unless the point is asked for. Numbers of more digits
show a power of ten. -/
def general (point : Bool) (mark : Char) (precision n : Nat) : List Char :=
  let count := max 1 precision
  let (digits, place) := leading n count
  let whole := if place < count then place + 1 else 1
  let rest := digits.drop whole
  let rest := if point then rest else (rest.reverse.dropWhile (· = '0')).reverse
  digits.take whole ++ fraction point rest ++ if place < count then [] else exponent mark place

def fillFloat (form : Form) (n : Int) : Option (List Char) :=
  let point := form.flags.contains '#'
  let precision := form.precision.getD 6
  let text? : Option (Nat → List Char) := match form.conversion with
    | 'f' | 'F' => some (fixed point precision)
    | 'e' => some (scientific point 'e' precision)
    | 'E' => some (scientific point 'E' precision)
    | 'g' => some (general point 'e' precision)
    | 'G' => some (general point 'E' precision)
    | _ => none
  match text?, asFloat? n.natAbs with
  | some text, some value => some (fillDigits { form with precision := none } (n < 0) [] (text value))
  | _, _ => none

/-- The text of a number, in one of three bases or as a decimal fraction, or the character of that number. -/
def fillNumber (form : Form) (n : Int) : Option (List Char) :=
  match form.conversion with
  | 's' | 'r' | 'a' => some (pad form (clip form (toString n).toList))
  | 'd' | 'i' | 'u' => some (fillDigits form (n < 0) [] (Nat.toDigits 10 n.natAbs))
  | 'o' => some (fillDigits form (n < 0) ['0', 'o'] (Nat.toDigits 8 n.natAbs))
  | 'x' => some (fillDigits form (n < 0) ['0', 'x'] (Nat.toDigits 16 n.natAbs))
  | 'X' => some (fillDigits form (n < 0) ['0', 'X'] ((Nat.toDigits 16 n.natAbs).map Char.toUpper))
  | 'c' => if 0 ≤ n ∧ n.natAbs.isValidChar then some (pad form [Char.ofNat n.natAbs]) else none
  | _ => fillFloat form n

/-! ### Records -/

def fillPiece (r : Record) : Piece → Option (List Char)
  | .text c => some [c]
  | .field "name" form => fillText form r.name
  | .field "levelname" form => fillText form (levelName r.level)
  | .field "levelno" form => fillNumber form r.level
  | .field "message" form | .field "msg" form => fillText form r.message
  | .field .. | .broken => none

/-- The line of a record; there is none if some piece cannot be filled in. -/
def fill? (t : Template) (r : Record) : Option String := (t.mapM (fillPiece r)).map fun pieces => String.ofList pieces.flatten

end Template

end ApkReport.Journal
