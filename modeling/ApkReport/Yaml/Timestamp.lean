/-
Timestamps: a date of four, one or two, and one or two digits, and after it a time of day
with an optional fraction and an optional distance from universal time.
-/
import ApkReport.Text.Numeral
import ApkReport.Yaml.Fault

namespace ApkReport.Yaml

/-- The distance of a zone from universal time. -/
inductive Zone where
  | universal
  | distance (isBehind : Bool) (hours minutes : Nat)
  deriving DecidableEq, Repr

structure Clock where
  hour : Nat
  minute : Nat
  second : Nat
  fraction : List Char
  zone : Option Zone
  deriving DecidableEq, Repr

structure Stamp where
  date : Date
  /-- Month and day have two digits each. -/
  isWide : Bool
  clock : Option Clock
  deriving DecidableEq, Repr

namespace Stamp

/-! ## Reading -/

def isDecimal (c : Char) : Bool := '0' ≤ c && c ≤ '9'

def isBlank (c : Char) : Bool := c = ' ' || c = '\t'

/-- A number at the front of `least` to `most` digits: its value, its width, and the rest. -/
def number? (least most : Nat) (s : List Char) : Option (Nat × Nat × List Char) :=
  let digits := s.takeWhile isDecimal
  if least ≤ digits.length ∧ digits.length ≤ most then
    some (Text.ofDigits 10 (digits.filterMap (Text.digitIn? 10)), digits.length, s.drop digits.length)
  else none

def mark? (c : Char) (s : List Char) : Option (List Char) := if s.head? = some c then some s.tail else none

/-- A zone that takes all of the text. -/
def zone? (s : List Char) : Option (Option Zone) :=
  match s.dropWhile isBlank with
  | [] => if s.isEmpty then some none else none
  | ['Z'] => some (some .universal)
  | sign :: rest => do
    if !(sign = '-' || sign = '+') then none
    let (hours, _, rest) ← number? 1 2 rest
    if rest.isEmpty then return some (.distance (sign = '-') hours 0)
    let (minutes, _, rest) ← number? 2 2 (← mark? ':' rest)
    if rest.isEmpty then return some (.distance (sign = '-') hours minutes) else none

/-- A time of day, with the mark that divides it from the date. -/
def clock? (s : List Char) : Option Clock := do
  let blanks := s.takeWhile isBlank
  let rest ← match s with
    | 'T' :: rest | 't' :: rest => some rest
    | _ => if blanks.isEmpty then none else some (s.drop blanks.length)
  let (hour, _, rest) ← number? 1 2 rest
  let (minute, _, rest) ← number? 2 2 (← mark? ':' rest)
  let (second, _, rest) ← number? 2 2 (← mark? ':' rest)
  let (fraction, rest) := match rest with
    | '.' :: rest => (rest.takeWhile isDecimal, rest.dropWhile isDecimal)
    | rest => ([], rest)
  return ⟨hour, minute, second, fraction, ← zone? rest⟩

/-- The timestamp that a whole text is. -/
def ofText? (s : List Char) : Option Stamp := do
  let (year, _, rest) ← number? 4 4 s
  let (month, monthWidth, rest) ← number? 1 2 (← mark? '-' rest)
  let (day, dayWidth, rest) ← number? 1 2 (← mark? '-' rest)
  let clock ← if rest.isEmpty then some none else (clock? rest).map some
  return ⟨⟨year, month, day⟩, monthWidth = 2 && dayWidth = 2, clock⟩

/-! ## Values -/

def isLeapYear (year : Nat) : Bool := year % 4 = 0 && (year % 100 ≠ 0 || year % 400 = 0)

def daysIn (year month : Nat) : Nat :=
  if month = 2 then (if isLeapYear year then 29 else 28)
  else if month = 4 ∨ month = 6 ∨ month = 9 ∨ month = 11 then 30 else 31

def checkDate (d : Date) : Except Fault Unit :=
  if d.year = 0 then .error (.outOfRange "year 0 is out of range")
  else if d.month = 0 ∨ 12 < d.month then .error (.outOfRange "month must be in 1..12")
  else if d.day = 0 ∨ daysIn d.year d.month < d.day then .error (.outOfRange "day is out of range for month")
  else .ok ()

def checkClock (c : Clock) : Except Fault Unit :=
  if 23 < c.hour then .error (.outOfRange "hour must be in 0..23")
  else if 59 < c.minute then .error (.outOfRange "minute must be in 0..59")
  else if 59 < c.second then .error (.outOfRange "second must be in 0..59")
  else .ok ()

/-- The minutes that a zone is ahead of universal time; less than a day. -/
def zoneMinutes : Zone → Except Fault Int
  | .universal => .ok 0
  | .distance isBehind hours minutes =>
    let ahead : Int := if isBehind then -(hours * 60 + minutes : Nat) else (hours * 60 + minutes : Nat)
    if ahead.natAbs < 1440 then .ok ahead else .error (.offsetTooLarge ahead)

/-- The first six digits of a fraction. -/
def microseconds (fraction : List Char) : Nat :=
  let digits := fraction.take 6 ++ List.replicate (6 - fraction.length) '0'
  Text.ofDigits 10 (digits.filterMap (Text.digitIn? 10))

def toValue (s : Stamp) : Except Fault Value :=
  match s.clock with
  | none => do
    checkDate s.date
    return .date s.date
  | some c => do
    let offset ← match c.zone with
      | none => pure none
      | some z => some <$> zoneMinutes z
    checkDate s.date
    checkClock c
    return .moment ⟨s.date, c.hour, c.minute, c.second, microseconds c.fraction, offset⟩

end Stamp

end ApkReport.Yaml
