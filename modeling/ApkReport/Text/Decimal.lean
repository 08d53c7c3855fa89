/-
Decimal texts of binary fractions. The shortest text is the fewest digits that read back
as the same number, and of those the nearest; the fixed text rounds the exact value to six
decimals. Both work on the number as a whole number times a power of two.
-/
import ApkReport.Text.CharClass

namespace ApkReport.Text

/-- A number of a binary format: `mantissa * 2 ^ exponent`, an infinity, or no number. -/
inductive Binary where
  | finite (negative : Bool) (mantissa : Nat) (exponent : Int)
  | infinite (negative : Bool)
  | notANumber
  deriving DecidableEq, Repr

/-- The fields of a format with `fractionBits` fraction bits and `exponentBits` exponent bits. -/
def Binary.ofBits (fractionBits exponentBits bits : Nat) : Binary :=
  let fraction := bits % Nat.pow 2 fractionBits
  let biased := bits / Nat.pow 2 fractionBits % Nat.pow 2 exponentBits
  let negative := bits / Nat.pow 2 (fractionBits + exponentBits) % 2 = 1
  let lowest : Int := 2 - (Nat.pow 2 (exponentBits - 1) : Nat) - fractionBits
  if biased = Nat.pow 2 exponentBits - 1 then
    if fraction = 0 then .infinite negative else .notANumber
  else if biased = 0 then .finite negative fraction lowest
  else .finite negative (Nat.pow 2 fractionBits + fraction) (lowest + (biased - 1 : Nat))

def Binary.ofFloat (x : Float) : Binary := .ofBits 52 11 x.toBits.toNat

def Binary.ofSingleBits (bits : Nat) : Binary := .ofBits 23 8 bits

/-! ## Exact comparison with decimal grids -/

/-- `a * 2 ^ q` over `10 ^ t`, as numerator and denominator. -/
def scaled (a : Nat) (q t : Int) : Nat × Nat :=
  (a * Nat.pow 2 q.toNat * Nat.pow 10 (-t).toNat, Nat.pow 2 (-q).toNat * Nat.pow 10 t.toNat)

/-- The number of decimal digits before the point; zero or negative for small fractions. -/
def decimalPoint (m : Nat) (q : Int) : Int :=
  let (num, den) := scaled m q (-400)
  ((Nat.toDigits 10 (num / den)).length : Int) - 400

/-- Whether `d * 10 ^ t` lies between the numbers halfway to the neighbours of `m * 2 ^ q`;
the ends belong to an even `m`. Below a power of two the lower neighbour is half as far. -/
def readsBack (m : Nat) (q : Int) (d : Nat) (t : Int) : Bool :=
  let below := if m = 0x10000000000000 then 1 else 2
  let (lo, den) := scaled (4 * m - below) (q - 2) t
  let (hi, _) := scaled (4 * m + 2) (q - 2) t
  if m % 2 = 0 then lo ≤ d * den && d * den ≤ hi else lo < d * den && d * den < hi

/-- The one of the two neighbours on the grid of step `10 ^ t` that reads back and is nearest;
an exact tie goes to the even one. -/
def nearestReadingBack? (m : Nat) (q t : Int) : Option Nat :=
  let (num, den) := scaled m q t
  let d := num / den
  let up := if num % den * 2 = den then d % 2 = 1 else num % den * 2 > den
  match readsBack m q d t, readsBack m q (d + 1) t with
  | true, true => some (if up then d + 1 else d)
  | true, false => some d
  | false, true => some (d + 1)
  | false, false => none

/-- The fewest digits, and the position of the point, that read back as `m * 2 ^ q` for positive `m`. -/
def shortestDigits (m : Nat) (q : Int) : List Char × Int :=
  let k := decimalPoint m q
  match (List.range 17).findSome? fun (i : Nat) => (nearestReadingBack? m q (k - (i + 1 : Nat))).map (·, i + 1) with
  | some (d, n) =>
    let digits := Nat.toDigits 10 d
    ((digits.reverse.dropWhile (· = '0')).reverse, k + (digits.length : Int) - (n : Int))
  | none => (['0'], 1)

/-! ## Texts -/

def zeros (n : Nat) : List Char := List.replicate n '0'

/-- Digits with the point after the first `point` of them: positional from `0.0001` up to sixteen
digits before the point, and with an exponent of at least two digits outside of that. -/
def placePoint (digits : List Char) (point : Int) : List Char :=
  if -4 < point ∧ point ≤ 16 then
    if point ≤ 0 then '0' :: '.' :: zeros (-point).toNat ++ digits
    else
      let whole := digits.take point.toNat
      let rest := digits.drop point.toNat
      whole ++ zeros (point.toNat - whole.length) ++ '.' :: (if rest.isEmpty then ['0'] else rest)
  else
    let e := point - 1
    let tens := Nat.toDigits 10 e.natAbs
    let mark := if e < 0 then '-' else '+'
    let fraction := digits.drop 1
    digits.take 1 ++ (if fraction.isEmpty then [] else '.' :: fraction) ++
      'e' :: mark :: zeros (2 - tens.length) ++ tens

def signed (negative : Bool) (s : List Char) : List Char := if negative then '-' :: s else s

/-- The shortest text of a double, with `inf` and `nan` for what is no number. -/
def Binary.shortest : Binary → String
  | .notANumber => "nan"
  | .infinite negative => String.ofList (signed negative "inf".toList)
  | .finite negative 0 _ => String.ofList (signed negative "0.0".toList)
  | .finite negative m q =>
    let (digits, point) := shortestDigits m q
    String.ofList (signed negative (placePoint digits point))

/-- The exact value rounded to six decimals, a tie to the even neighbour. -/
def Binary.sixPlaces : Binary → String
  | .notANumber => "nan"
  | .infinite negative => String.ofList (signed negative "inf".toList)
  | .finite negative m q =>
    let (num, den) := scaled m q (-6)
    let n := num / den
    let up := if num % den * 2 = den then n % 2 = 1 else num % den * 2 > den
    let n := if up then n + 1 else n
    let fraction := Nat.toDigits 10 (n % 1000000)
    String.ofList (signed negative
      (Nat.toDigits 10 (n / 1000000) ++ '.' :: zeros (6 - fraction.length) ++ fraction))

/-! ## Reading -/

/-- The double nearest to `d * 10 ^ e`. Far outside the range of doubles only the order counts. -/
def floatOfDecimal (d : Nat) (e : Int) : Float :=
  let size := ((Nat.toDigits 10 d).length : Int) + e
  if d = 0 ∨ size < -400 then 0.0
  else if size > 400 then 1.0 / 0.0
  else if e < 0 then Float.ofScientific d true (-e).toNat
  else Float.ofScientific d false e.toNat

/-- Decimal digits with underscores between them, and what follows. -/
def digitRun (s : List Char) : List Char × List Char :=
  let run := s.takeWhile fun c => isDigit c || c = '_'
  (run, s.drop run.length)

/-- Digits of which each underscore has a digit on both sides. -/
def wellSeparated (run : List Char) : Bool :=
  run.head? != some '_' && run.getLast? != some '_' &&
    (run.zip (run.drop 1)).all fun (a, b) => !(a = '_' && b = '_')

def digitValues (run : List Char) : List Nat := run.filterMap digitValue?

/-- A decimal number without a sign: digits, a point with digits, an exponent; or a name. -/
def readUnsignedFloat? (s : List Char) : Option Float :=
  let folded := s.map Char.toLower
  if folded = "inf".toList ∨ folded = "infinity".toList then some (1.0 / 0.0)
  else if folded = "nan".toList then some (0.0 / 0.0)
  else
    let (whole, rest) := digitRun s
    let (fraction, rest) := match rest with
      | '.' :: more => digitRun more
      | more => ([], more)
    let (exponent?, rest) : Option Int × List Char := match rest with
      | 'e' :: more | 'E' :: more =>
        let (negative, more) := match more with
          | '-' :: m => (true, m)
          | '+' :: m => (false, m)
          | m => (false, m)
        let (digits, more) := digitRun more
        if digits.isEmpty || !wellSeparated digits then (none, more)
        else
          let n := (digitValues digits).foldl (fun (n d : Nat) => n * 10 + d) 0
          (some (if negative then -(n : Int) else n), more)
      | more => (some 0, more)
    match exponent?, rest with
    | some e, [] =>
      if whole.isEmpty && fraction.isEmpty || !wellSeparated whole || !wellSeparated fraction then none
      else
        let values := digitValues whole ++ digitValues fraction
        let shift : Int := (digitValues fraction).length
        some (floatOfDecimal (values.foldl (fun (n d : Nat) => n * 10 + d) 0) (e - shift))
    | _, _ => none

/-- A decimal number with blanks around it and a sign in front. -/
def readFloat? (s : List Char) : Option Float :=
  match trim s with
  | '-' :: rest => (readUnsignedFloat? rest).map fun x => -x
  | '+' :: rest => readUnsignedFloat? rest
  | rest => readUnsignedFloat? rest

end ApkReport.Text
