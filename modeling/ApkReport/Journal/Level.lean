/-
Levels of a log: numbers, the larger the graver, of which some have names.
-/
import ApkReport.Text.Case
import ApkReport.Value

namespace ApkReport.Journal

/-- A level as it was given; a flag counts as one or zero. -/
inductive Level where
  | number (n : Int)
  | flag (b : Bool)
  deriving DecidableEq, Repr

/-- Why something is not a level. -/
inductive LevelFault where
  /-- A name that is none, where names are taken as they are. -/
  | unknownLevel (name : String)
  /-- A name that is none, where names may be in any case; it is given in upper case. -/
  | unknownName (name : String)
  | notALevel (v : Value)
  deriving Repr

def LevelFault.message : LevelFault → String
  | .unknownLevel name => "Unknown level: " ++ Text.quoted name
  | .unknownName name => "Unknown log level: Level " ++ name
  | .notALevel v => "Level not an integer or a valid string: " ++ v.literal

def debug : Int := 10

def info : Int := 20

def warning : Int := 30

/-- The numbers of the names. -/
def levelNumbers : List (String × Int) := [
  ("CRITICAL", 50), ("FATAL", 50), ("ERROR", 40), ("WARN", 30), ("WARNING", 30), ("INFO", 20), ("DEBUG", 10), ("NOTSET", 0)]

/-- The name that a record of that level shows. -/
def levelName (n : Int) : String :=
  match [("CRITICAL", 50), ("ERROR", 40), ("WARNING", 30), ("INFO", 20), ("DEBUG", 10), ("NOTSET", 0)].find? (·.2 = n) with
  | some (name, _) => name
  | none => "Level " ++ toString n

namespace Level

def value : Level → Int
  | .number n => n
  | .flag b => if b then 1 else 0

/-- The level that a value gives; `named` reads a text. -/
def ofValue (named : String → Except LevelFault Level) : Value → Except LevelFault Level
  | .scalar (.integer n) => .ok (.number n)
  | .scalar (.flag b) => .ok (.flag b)
  | .scalar (.text name) => named name
  | v => .error (.notALevel v)

/-- Reads the exact name of a level. -/
def ofName (name : String) : Except LevelFault Level :=
  match levelNumbers.lookup name with
  | some n => .ok (.number n)
  | none => .error (.unknownLevel name)

/-- Reads the name of a level in any case. -/
def ofAnyName (name : String) : Except LevelFault Level :=
  match levelNumbers.lookup (Text.upper name) with
  | some n => .ok (.number n)
  | none => .error (.unknownName (Text.upper name))

end Level

end ApkReport.Journal
