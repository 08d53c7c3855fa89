/-
Reading JSON: one value with white space around it. Escaped surrogates count as one
character when they form a pair; one without its partner is replaced.
-/
import ApkReport.Json.Basic
import ApkReport.Text.Encoding

namespace ApkReport.Json

open Text

def isSpace (c : Char) : Bool := c = ' ' || c = '\n' || c = '\r' || c = '\t'

def skipSpace (s : List Char) : List Char := s.dropWhile isSpace

/-! ## Strings -/

/-- The character of an escape of one letter. -/
def shortEscape? : Char → Option Char
  | '"' => some '"'
  | '\\' => some '\\'
  | '/' => some '/'
  | 'b' => some '\x08'
  | 'f' => some '\x0c'
  | 'n' => some '\n'
  | 'r' => some '\r'
  | 't' => some '\t'
  | _ => none

def hexValue? (c : Char) : Option Nat :=
  if '0' ≤ c ∧ c ≤ '9' then some (c.toNat - '0'.toNat)
  else if 'a' ≤ c ∧ c ≤ 'f' then some (c.toNat - 'a'.toNat + 10)
  else if 'A' ≤ c ∧ c ≤ 'F' then some (c.toNat - 'A'.toNat + 10)
  else none

def hexNumber? (s : List Char) : Option Nat := (s.mapM hexValue?).map fun ds => ds.foldl (fun n d => n * 16 + d) 0

/-- The code points up to the closing quotation mark, and what follows it. -/
def readString? : List Char → Option (List Nat × List Char)
  | [] => none
  | '"' :: rest => some ([], rest)
  | '\\' :: 'u' :: a :: b :: c :: d :: rest => do
    let n ← hexNumber? [a, b, c, d]
    let (ns, rest) ← readString? rest
    return (n :: ns, rest)
  | '\\' :: c :: rest => do
    let e ← shortEscape? c
    let (ns, rest) ← readString? rest
    return (e.toNat :: ns, rest)
  | c :: rest =>
    if c.toNat < 0x20 then none
    else do
      let (ns, rest) ← readString? rest
      return (c.toNat :: ns, rest)

/-- Characters from code points among which surrogates stand. -/
def joinSurrogates : List Nat → List Char
  | [] => []
  | [n] => [if 0xD800 ≤ n ∧ n < 0xE000 then replacementChar else Char.ofNat n]
  | n :: m :: rest =>
    if 0xD800 ≤ n ∧ n < 0xDC00 ∧ 0xDC00 ≤ m ∧ m < 0xE000 then
      Char.ofNat (0x10000 + (n - 0xD800) * 0x400 + (m - 0xDC00)) :: joinSurrogates rest
    else (if 0xD800 ≤ n ∧ n < 0xE000 then replacementChar else Char.ofNat n) :: joinSurrogates (m :: rest)

def readText? (s : List Char) : Option (String × List Char) :=
  (readString? s).map fun (ns, rest) => (String.ofList (joinSurrogates ns), rest)

/-! ## Numbers -/

def isAsciiDigit (c : Char) : Bool := '0' ≤ c && c ≤ '9'

/-- Digits without a zero in front of others. -/
def readWhole? (s : List Char) : Option (List Char × List Char) :=
  match s.takeWhile isAsciiDigit with
  | [] => none
  | '0' :: _ :: _ => none
  | digits => some (digits, s.drop digits.length)

/-- A mark in front of digits, if it is there. -/
def readFraction? (s : List Char) : Option (List Char × List Char) :=
  match s with
  | '.' :: rest =>
    match rest.takeWhile isAsciiDigit with
    | [] => none
    | digits => some ('.' :: digits, rest.drop digits.length)
  | _ => some ([], s)

def readExponent? (s : List Char) : Option (List Char × List Char) :=
  let digitsAfter (mark : List Char) (rest : List Char) : Option (List Char × List Char) :=
    match rest.takeWhile isAsciiDigit with
    | [] => none
    | digits => some (mark ++ digits, rest.drop digits.length)
  match s with
  | 'e' :: '-' :: rest | 'E' :: '-' :: rest => digitsAfter ['e', '-'] rest
  | 'e' :: '+' :: rest | 'E' :: '+' :: rest => digitsAfter ['e'] rest
  | 'e' :: rest | 'E' :: rest => digitsAfter ['e'] rest
  | _ => some ([], s)

def readNumber? (s : List Char) : Option (Json × List Char) := do
  let (negative, s) := match s with
    | '-' :: rest => (true, rest)
    | rest => (false, rest)
  let (whole, s) ← readWhole? s
  let (fraction, s) ← readFraction? s
  let (exponent, s) ← readExponent? s
  if fraction.isEmpty && exponent.isEmpty then
    let n := whole.foldl (fun n c => n * 10 + (c.toNat - '0'.toNat)) 0
    return (.integer (if negative then -(n : Int) else n), s)
  else
    let x ← readUnsignedFloat? (whole ++ fraction ++ exponent)
    return (.decimal (Binary.ofFloat (if negative then -x else x)), s)

/-! ## Values -/

mutual

/-- A value at the front of the text, and the rest; `depth` bounds the steps. -/
def readValue? : Nat → List Char → Option (Json × List Char)
  | 0, _ => none
  | depth + 1, s =>
    match skipSpace s with
    | 'n' :: 'u' :: 'l' :: 'l' :: rest => some (.null, rest)
    | 't' :: 'r' :: 'u' :: 'e' :: rest => some (.bool true, rest)
    | 'f' :: 'a' :: 'l' :: 's' :: 'e' :: rest => some (.bool false, rest)
    | '"' :: rest => (readText? rest).map fun (s, rest) => (.string s, rest)
    | '[' :: rest =>
      match skipSpace rest with
      | ']' :: rest => some (.array [], rest)
      | rest => (readItems? depth rest).map fun (items, rest) => (.array items, rest)
    | '\x7b' :: rest =>
      match skipSpace rest with
      | '\x7d' :: rest => some (.object [], rest)
      | rest => (readMembers? depth rest).map fun (members, rest) => (.object members, rest)
    | rest => readNumber? rest

def readItems? : Nat → List Char → Option (List Json × List Char)
  | 0, _ => none
  | depth + 1, s => do
    let (v, rest) ← readValue? depth s
    match skipSpace rest with
    | ',' :: rest =>
      let (items, rest) ← readItems? depth rest
      return (v :: items, rest)
    | ']' :: rest => return ([v], rest)
    | _ => none

def readMembers? : Nat → List Char → Option (List (String × Json) × List Char)
  | 0, _ => none
  | depth + 1, s =>
    match skipSpace s with
    | '"' :: rest => do
      let (k, rest) ← readText? rest
      match skipSpace rest with
      | ':' :: rest =>
        let (v, rest) ← readValue? depth rest
        match skipSpace rest with
        | ',' :: rest =>
          let (members, rest) ← readMembers? depth rest
          return ((k, v) :: members, rest)
        | '\x7d' :: rest => return ([(k, v)], rest)
        | _ => none
      | _ => none
    | _ => none

end

/-- The value of a JSON text. -/
def read? (s : String) : Option Json :=
  let chars := s.toList
  match readValue? (chars.length + 1) chars with
  | some (v, rest) => if (skipSpace rest).isEmpty then some v else none
  | none => none

end ApkReport.Json
