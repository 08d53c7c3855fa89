/-
Tags: what kind of value a node stands for. A plain scalar without a tag gets one from its
text alone.
-/
import ApkReport.Yaml.Timestamp

namespace ApkReport.Yaml

inductive Tag where
  | null
  | bool
  | int
  | float
  | binary
  | timestamp
  | omap
  | pairs
  | set
  | str
  | seq
  | map
  | merge
  | value
  | unknown
  deriving DecidableEq, Repr

namespace Tag

/-- What the names of the standard tags start with. -/
def standardStart : String := "tag:yaml.org,2002:"

def standardNames : List (String × Tag) := [
  ("null", .null), ("bool", .bool), ("int", .int), ("float", .float), ("binary", .binary), ("timestamp", .timestamp),
  ("omap", .omap), ("pairs", .pairs), ("set", .set), ("str", .str), ("seq", .seq), ("map", .map), ("merge", .merge),
  ("value", .value)]

def ofName (name : String) : Tag :=
  ((standardNames.find? fun (short, _) => name = standardStart ++ short).map (·.2)).getD .unknown

/-! ## Forms of plain text -/

def isDecimal (c : Char) : Bool := '0' ≤ c && c ≤ '9'

def isDecimalMark (c : Char) : Bool := isDecimal c || c = '_'

def dropSign (s : List Char) : List Char :=
  match s with
  | '-' :: rest | '+' :: rest => rest
  | _ => s

/-- A word in lower case, in upper case, or with a capital in front. -/
def isWord (word : String) (s : List Char) : Bool :=
  let lower := word.toList
  s = lower || s = lower.map Char.toUpper || s = lower.head?.toList.map Char.toUpper ++ lower.tail

def isBool (s : List Char) : Bool := ["yes", "no", "true", "false", "on", "off"].any (isWord · s)

def isNull (s : List Char) : Bool := s.isEmpty || s = ['~'] || isWord "null" s

/-- Digits with underscores, of which the first is a digit. -/
def isDigitRun (s : List Char) : Bool :=
  match s with
  | c :: rest => isDecimal c && rest.all isDecimalMark
  | [] => false

/-- One or two digits of base 60 after each colon. -/
def isSexagesimal (s : List Char) : Bool :=
  match s with
  | [] => true
  | ':' :: a :: rest =>
    (isDecimal a && (match rest with
      | [] => true
      | ':' :: _ => true
      | b :: after => a < '6' && isDecimal b && (after.isEmpty || after.head? = some ':'))) &&
    isSexagesimal (rest.dropWhile (· ≠ ':'))
  | _ => false
  termination_by s.length
  decreasing_by
    have := (List.dropWhile_suffix (p := (· ≠ ':')) (l := rest)).length_le
    simp only [List.length_cons]
    omega

def isInt (s : List Char) : Bool :=
  let s := dropSign s
  match s with
  | ['0'] => true
  | '0' :: 'b' :: rest => !rest.isEmpty && rest.all fun c => c = '0' || c = '1' || c = '_'
  | '0' :: 'x' :: rest => !rest.isEmpty && rest.all fun c => (Text.digitIn? 16 c).isSome && c.toNat < 0x80 || c = '_'
  | '0' :: rest => !rest.isEmpty && rest.all fun c => ('0' ≤ c && c ≤ '7') || c = '_'
  | _ =>
    let digits := s.takeWhile isDecimalMark
    isDigitRun digits && isSexagesimal (s.drop digits.length)

/-- An exponent with its sign, or nothing. -/
def isExponent (s : List Char) : Bool :=
  match s with
  | [] => true
  | e :: sign :: digits =>
    (e = 'e' || e = 'E') && (sign = '-' || sign = '+') && !digits.isEmpty && digits.all isDecimal
  | _ => false

def isFloat (s : List Char) : Bool :=
  let unsigned := dropSign s
  let whole := unsigned.takeWhile isDecimalMark
  let rest := unsigned.drop whole.length
  match rest with
  | '.' :: after =>
    if isDigitRun whole then isExponent (after.dropWhile isDecimalMark)
    else whole.isEmpty &&
      (isWord "inf" after || (unsigned.length = s.length && (after = "nan".toList || after = "NaN".toList || after = "NAN".toList ||
        (isDigitRun (after.takeWhile isDecimalMark) && isExponent (after.dropWhile isDecimalMark)))))
  | ':' :: _ =>
    let parts := rest.takeWhile (· ≠ '.')
    let after := rest.drop parts.length
    isDigitRun whole && isSexagesimal parts && after.head? = some '.' && after.tail.all isDecimalMark
  | _ => false

/-- A line break at the very end of a text is overlooked. -/
def withoutLastBreak (s : List Char) : List Char := if s.getLast? = some '\n' then s.dropLast else s

def isTimestamp (s : List Char) : Bool :=
  match Stamp.ofText? s with
  | none => false
  | some stamp => stamp.isWide || stamp.clock.isSome

/-- The tag that a text alone gives. -/
def ofText (text : String) : Tag :=
  let s := withoutLastBreak text.toList
  if text.isEmpty then .null
  else if s.isEmpty then .str
  else if isBool s then .bool
  else if isFloat s then .float
  else if isInt s then .int
  else if s = ['<', '<'] then .merge
  else if isNull s then .null
  else if isTimestamp s then .timestamp
  else if s = ['='] then .value
  else if s = ['!'] ∨ s = ['&'] ∨ s = ['*'] then .unknown
  else .str

/-! ## Tags of nodes -/

/-- The tag that asks for the usual kind of value. -/
def usual : String := "!"

def ofScalar (isPlain : Bool) (tag : Option String) (text : String) : Tag :=
  match tag with
  | none => if isPlain then ofText text else .str
  | some name => if name = usual then ofText text else ofName name

def ofCollection (kind : Tag) (tag : Option String) : Tag :=
  match tag with
  | none => kind
  | some name => if name = usual then kind else ofName name

def ofSequence : Option String → Tag := ofCollection .seq

def ofMapping : Option String → Tag := ofCollection .map

end Tag

end ApkReport.Yaml
