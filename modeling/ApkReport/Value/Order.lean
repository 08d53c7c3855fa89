/-
When two values are the same key, and in which order keys stand. Numbers compare by what
they are worth, whatever their kind; other values compare with values of their own kind
alone.
-/
import ApkReport.Value

namespace ApkReport

open Text

/-! ## Numbers -/

/-- A number as a fraction with a positive denominator, or an infinity with its sign. -/
inductive Worth where
  | fraction (numerator : Int) (denominator : Nat)
  | infinite (negative : Bool)
  deriving DecidableEq, Repr

def Scalar.worth? : Scalar → Option Worth
  | .integer i => some (.fraction i 1)
  | .flag b => some (.fraction b.toNat 1)
  | .decimal (.finite negative m q) =>
    let n : Int := (m * Nat.pow 2 q.toNat : Nat)
    some (.fraction (if negative then -n else n) (Nat.pow 2 (-q).toNat))
  | .decimal (.infinite negative) => some (.infinite negative)
  | _ => none

def Worth.isLess : Worth → Worth → Bool
  | .fraction a b, .fraction c d => a * d < c * b
  | .fraction .., .infinite negative => !negative
  | .infinite negative, .fraction .. => negative
  | .infinite a, .infinite b => a && !b

def Worth.isSame (a b : Worth) : Bool := !a.isLess b && !b.isLess a

/-! ## Dates -/

/-- The days from the first day of the calendar to the first day of a year. -/
def daysBeforeYear (year : Nat) : Nat :=
  let y := year - 1
  y * 365 + y / 4 - y / 100 + y / 400

/-- The days in each month before a month. -/
def daysBeforeMonth (year month : Nat) : Nat :=
  let leap := if year % 4 = 0 ∧ (year % 100 ≠ 0 ∨ year % 400 = 0) then 1 else 0
  ([31, 28 + leap, 31, 30, 31, 30, 31, 31, 30, 31, 30, 31].take (month - 1)).foldl (· + ·) 0

/-- The microseconds from the first moment of the calendar to a moment of universal time. -/
def Moment.instant (m : Moment) : Int :=
  let days : Int := daysBeforeYear m.date.year + daysBeforeMonth m.date.year m.date.month + m.date.day
  let minutes := days * 1440 + m.hour * 60 + m.minute - m.offset.getD 0
  (minutes * 60 + m.second) * 1000000 + m.microsecond

/-! ## Keys -/

namespace Value

/-- Values of one rank have an order. -/
inductive Rank where
  | number
  | text
  | bytes
  | date
  | localMoment
  | universalMoment
  | other
  deriving DecidableEq, Repr

def rank : Value → Rank
  | .scalar (.text _) => .text
  | .scalar .null => .other
  | .scalar _ => .number
  | .bytes _ => .bytes
  | .date _ => .date
  | .moment m => if m.offset.isSome then .universalMoment else .localMoment
  | _ => .other

/-- A value that can be a key. -/
def isKey : Value → Bool
  | .scalar _ | .bytes _ | .date _ | .moment _ => true
  | _ => false

/-- Two keys are one. -/
def isSameKey : Value → Value → Bool
  | .scalar a, .scalar b =>
    match a.worth?, b.worth? with
    | some x, some y => x.isSame y
    | _, _ => a = b
  | .bytes a, .bytes b => a = b
  | .date a, .date b => a = b
  | .moment a, .moment b => a.offset.isSome = b.offset.isSome && a.instant = b.instant
  | _, _ => false

/-- One key stands before another of its rank. -/
def isBefore : Value → Value → Bool
  | .scalar (.text a), .scalar (.text b) => a < b
  | .scalar a, .scalar b =>
    match a.worth?, b.worth? with
    | some x, some y => x.isLess y
    | _, _ => false
  | .bytes a, .bytes b => a < b
  | .date a, .date b => a.fields < b.fields
  | .moment a, .moment b => a.instant < b.instant
  | _, _ => false

/-- Sets the entry of a key: the first key and its place stay, the last value counts. -/
def setEntry (key v : Value) : List (Value × Value) → List (Value × Value)
  | [] => [(key, v)]
  | (k, old) :: rest => if k.isSameKey key then (k, v) :: rest else (k, old) :: setEntry key v rest

/-- Entries set one after another. -/
def entriesOf (entries : List (Value × Value)) : List (Value × Value) :=
  entries.foldl (fun done (k, v) => setEntry k v done) []

/-! ## Marked containers -/

/-- Marks a container; other values cannot hold themselves. -/
def mark (label : Nat) (v : Value) : Value := if v.isKey then v else .marked label v

def unmarked : Value → Value
  | .marked _ v => v.unmarked
  | v => v

mutual

/-- The marked containers in a value. -/
def marks : Value → List (Nat × Value)
  | .marked label v => (label, v) :: marks v
  | .list items | .set items => marksOfItems items
  | .pairs items | .mapping items => marksOfPairs items
  | .scalar _ | .bytes _ | .date _ | .moment _ | .again _ => []

def marksOfItems : List Value → List (Nat × Value)
  | [] => []
  | v :: rest => marks v ++ marksOfItems rest

def marksOfPairs : List (Value × Value) → List (Nat × Value)
  | [] => []
  | (k, v) :: rest => marks k ++ marks v ++ marksOfPairs rest

end

end Value

end ApkReport
