/-
Dynamic values, as a settings document or a typed attribute holds them, and their two
texts: the plain text, in which a string stands for itself, and the literal, in which
strings are quoted and containers show their items.
-/
import ApkReport.Bytes
import ApkReport.Text.Decimal
import ApkReport.Text.Numeral
import ApkReport.Text.Quoted

namespace ApkReport

open Text

/-- A value without parts. -/
inductive Scalar where
  | null
  | flag (b : Bool)
  | integer (i : Int)
  | decimal (x : Binary)
  | text (s : String)
  deriving DecidableEq, Repr

/-- The literal of a scalar. -/
def Scalar.literal : Scalar → String
  | .null => "None"
  | .flag true => "True"
  | .flag false => "False"
  | .integer i => toString i
  | .decimal x => x.shortest
  | .text s => quoted s

/-- The scalar is an integer with more digits than can be written. -/
def Scalar.isTooLong : Scalar → Bool
  | .integer i => Nat.pow 10 maxDigits ≤ i.natAbs
  | _ => false

/-- The plain text of a scalar. -/
def Scalar.display : Scalar → String
  | .text s => s
  | v => v.literal

/-! ## Dates -/

structure Date where
  year : Nat
  month : Nat
  day : Nat
  deriving DecidableEq, Repr

/-- A date with a time of day, and the minutes that it is ahead of universal time if it says so. -/
structure Moment where
  date : Date
  hour : Nat
  minute : Nat
  second : Nat
  microsecond : Nat
  offset : Option Int
  deriving DecidableEq, Repr

/-- A number with zeros in front up to the width. -/
def padded (width n : Nat) : String :=
  let digits := Nat.toDigits 10 n
  String.ofList (zeros (width - digits.length) ++ digits)

def Date.iso (d : Date) : String := padded 4 d.year ++ "-" ++ padded 2 d.month ++ "-" ++ padded 2 d.day

/-- The offset from universal time in hours and minutes. -/
def isoOffset (minutes : Int) : String :=
  (if minutes < 0 then "-" else "+") ++ padded 2 (minutes.natAbs / 60) ++ ":" ++ padded 2 (minutes.natAbs % 60)

def Moment.iso (m : Moment) : String :=
  m.date.iso ++ " " ++ padded 2 m.hour ++ ":" ++ padded 2 m.minute ++ ":" ++ padded 2 m.second ++
    (if m.microsecond = 0 then "" else "." ++ padded 6 m.microsecond) ++
    (match m.offset with | none => "" | some o => isoOffset o)

def Date.fields (d : Date) : List Nat := [d.year, d.month, d.day]

/-- A span of minutes, as whole days and the seconds after them. -/
def spanLiteral (minutes : Int) : String :=
  let days := Int.fdiv minutes 1440
  let seconds := Int.fmod minutes 1440 * 60
  let parts := (if days = 0 then [] else ["days=" ++ toString days]) ++
    (if seconds = 0 then [] else ["seconds=" ++ toString seconds])
  "datetime.timedelta(" ++ (if parts.isEmpty then "0" else ", ".intercalate parts) ++ ")"

def Date.literal (d : Date) : String :=
  "datetime.date(" ++ ", ".intercalate (d.fields.map toString) ++ ")"

def Moment.literal (m : Moment) : String :=
  let clock := if m.microsecond ≠ 0 then [m.second, m.microsecond] else if m.second ≠ 0 then [m.second] else []
  let offset := match m.offset with
    | none => []
    | some 0 => ["tzinfo=datetime.timezone.utc"]
    | some o => ["tzinfo=datetime.timezone(" ++ spanLiteral o ++ ")"]
  "datetime.datetime(" ++ ", ".intercalate ((m.date.fields ++ [m.hour, m.minute] ++ clock).map toString ++ offset) ++ ")"

/-! ## Values -/

/-- A value with parts. A `marked` container can be met again inside of itself, where `again` stands for it. -/
inductive Value where
  | scalar (s : Scalar)
  | bytes (b : Bytes)
  | date (d : Date)
  | moment (m : Moment)
  | list (items : List Value)
  | pairs (items : List (Value × Value))
  | set (items : List Value)
  | mapping (entries : List (Value × Value))
  | marked (label : Nat) (v : Value)
  | again (label : Nat)
  deriving Repr

namespace Value

/-- The name of the kind of a value. -/
def kindName : Value → String
  | .scalar .null => "NoneType"
  | .scalar (.flag _) => "bool"
  | .scalar (.integer _) => "int"
  | .scalar (.decimal _) => "float"
  | .scalar (.text _) => "str"
  | .bytes _ => "bytes"
  | .date _ => "date"
  | .moment _ => "datetime"
  | .list _ | .pairs _ => "list"
  | .set _ => "set"
  | .mapping _ => "dict"
  | .marked _ v => v.kindName
  | .again _ => "list"

/-- What stands for a container inside of its own literal. -/
def elided : Value → String
  | .mapping _ => "\x7b...\x7d"
  | .set _ => "set(...)"
  | .marked _ v => v.elided
  | _ => "[...]"

mutual

/-- The literal of a value. `around` holds the labels of the containers that it stands in, `marks` all
marked containers; `depth` bounds how many of them can stand in one another. -/
def literalIn (marks : List (Nat × Value)) (depth : Nat) (around : List Nat) : Value → String
  | .scalar s => s.literal
  | .bytes b => quotedBytes b
  | .date d => d.literal
  | .moment m => m.literal
  | .list items => "[" ++ ", ".intercalate (itemsIn marks depth around items) ++ "]"
  | .pairs items => "[" ++ ", ".intercalate (pairsIn marks depth around "(" ", " ")" items) ++ "]"
  | .set [] => "set()"
  | .set items => "\x7b" ++ ", ".intercalate (itemsIn marks depth around items) ++ "\x7d"
  | .mapping entries => "\x7b" ++ ", ".intercalate (pairsIn marks depth around "" ": " "" entries) ++ "\x7d"
  | .marked label v => if around.contains label then v.elided else literalIn marks depth (label :: around) v
  | .again label =>
    match marks.lookup label, depth with
    | none, _ | _, 0 => "[...]"
    | some v, depth + 1 => if around.contains label then v.elided else literalIn marks depth (label :: around) v
  termination_by v => (depth, sizeOf v)

def itemsIn (marks : List (Nat × Value)) (depth : Nat) (around : List Nat) : List Value → List String
  | [] => []
  | v :: rest => literalIn marks depth around v :: itemsIn marks depth around rest
  termination_by items => (depth, sizeOf items)

/-- Pairs with texts before, between and after their parts. -/
def pairsIn (marks : List (Nat × Value)) (depth : Nat) (around : List Nat) (before between after : String) :
    List (Value × Value) → List String
  | [] => []
  | (k, v) :: rest =>
    (before ++ literalIn marks depth around k ++ between ++ literalIn marks depth around v ++ after) ::
      pairsIn marks depth around before between after rest
  termination_by items => (depth, sizeOf items)

end

/-- The literal of a value that may meet the marked containers. -/
def literalWith (marks : List (Nat × Value)) (v : Value) : String := literalIn marks (marks.length + 1) [] v

def literal (v : Value) : String := literalWith [] v

mutual

/-- The literal of a value shows an integer that cannot be written. -/
def showsTooLong (marks : List (Nat × Value)) (depth : Nat) (around : List Nat) : Value → Bool
  | .scalar s => s.isTooLong
  | .bytes _ | .date _ | .moment _ => false
  | .list items | .set items => itemsShowTooLong marks depth around items
  | .pairs items | .mapping items => pairsShowTooLong marks depth around items
  | .marked label v => !around.contains label && showsTooLong marks depth (label :: around) v
  | .again label =>
    match marks.lookup label, depth with
    | none, _ | _, 0 => false
    | some v, depth + 1 => !around.contains label && showsTooLong marks depth (label :: around) v
  termination_by v => (depth, sizeOf v)

def itemsShowTooLong (marks : List (Nat × Value)) (depth : Nat) (around : List Nat) : List Value → Bool
  | [] => false
  | v :: rest => showsTooLong marks depth around v || itemsShowTooLong marks depth around rest
  termination_by items => (depth, sizeOf items)

def pairsShowTooLong (marks : List (Nat × Value)) (depth : Nat) (around : List Nat) : List (Value × Value) → Bool
  | [] => false
  | (k, v) :: rest =>
    showsTooLong marks depth around k || showsTooLong marks depth around v || pairsShowTooLong marks depth around rest
  termination_by items => (depth, sizeOf items)

end

/-- The value has a text, since every integer in it can be written. -/
def isWritable (marks : List (Nat × Value)) : Value → Bool
  | .scalar s => !s.isTooLong
  | v => !showsTooLong marks (marks.length + 1) [] v

/-- The plain text of a value: strings and dates stand for themselves. -/
def displayWith (marks : List (Nat × Value)) : Value → String
  | .scalar s => s.display
  | .date d => d.iso
  | .moment m => m.iso
  | v => literalWith marks v

end Value

end ApkReport
