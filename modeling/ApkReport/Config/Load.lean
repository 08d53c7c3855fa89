/-
Settings from a document, which a reader of documents makes of the content of a file. Without
a file the defaults hold; unknown keys are noted and left out, and so are keys without a
value. A value becomes its text, but a level that is a number stays one.
-/
import ApkReport.Config.Settings
import ApkReport.Session
import ApkReport.Value.Order

namespace ApkReport.Config

open Text

/-- Why a reader gives no value for a content. -/
inductive ReadFault where
  /-- It refuses the document. -/
  | malformed (reason : String)
  | failed (e : ReaderError) (message : String)
  deriving DecidableEq, Repr

/-- What makes a value of the content of a file. -/
abbrev DocumentReader := Bytes → Except ReadFault Value

/-- A value that counts as no document. -/
def isEmpty : Value → Bool
  | .scalar .null | .scalar (.flag false) | .scalar (.integer 0) | .scalar (.text "") => true
  | .scalar (.decimal (.finite _ m _)) => m = 0
  | .bytes b => b.isEmpty
  | .list items | .set items => items.isEmpty
  | .pairs items | .mapping items => items.isEmpty
  | .marked _ v => isEmpty v
  | _ => false

/-- The entries of a document, if it is a mapping or counts as none. -/
def entries (path : String) (v : Value) : Except Fault (List (Value × Value)) :=
  if isEmpty v then .ok []
  else match v.unmarked with
    | .mapping entries => .ok entries
    | v => .error (.notMapping path v.kindName)

/-- The name of a setting that a key is. -/
def settingName? (key : Value) : Option String :=
  (Settings.text? key).filter Settings.names.contains

def unknownKeys (entries : List (Value × Value)) : List Value :=
  (entries.map (·.1)).filter fun k => (settingName? k).isNone

/-- Why keys cannot be sorted, if they cannot. One key alone can. -/
def keyClash? (keys : List Value) : Option KeyClash :=
  let ranks : List Value.Rank := (keys.map (·.rank)).eraseDups
  let moments : List Value.Rank := [.localMoment, .universalMoment]
  match ranks with
  | [] => none
  | [r] => if r = .other ∧ 1 < keys.length then some .kinds else none
  | ranks =>
    if ranks.all moments.contains then some .zones
    else if ranks.all fun r => r = .date || moments.contains r then some .dateAndMoment
    else some .kinds

def sortKeys (keys : List Value) : Except Fault (List Value) :=
  match keyClash? keys with
  | some clash => .error (.unorderedKeys clash)
  | none => .ok (keys.mergeSort fun a b => !b.isBefore a)

/-- The names of settings with the values that entries give them. -/
def given (entries : List (Value × Value)) : List (String × Value) :=
  entries.filterMap fun (k, v) => (settingName? k).bind fun name => if Settings.isNull v then none else some (name, v)

/-- The plain text of a value, if every integer in it can be written. -/
def textOf (marks : List (Nat × Value)) (v : Value) : Except Fault String :=
  if v.isWritable marks then .ok (v.displayWith marks) else .error .longInteger

/-- The value that a setting takes from a document. -/
def settingValue (marks : List (Nat × Value)) (name : String) (v : Value) : Except Fault Value :=
  match name, v with
  | "log_level", .scalar (.integer n) => .ok (.scalar (.integer n))
  | _, v => (textOf marks v).map fun text => .scalar (.text text)

/-- The settings that entries give. -/
def settingsOf (marks : List (Nat × Value)) (entries : List (Value × Value)) : Except Fault Settings := do
  Settings.ofValues (← (given entries).mapM fun (name, v) => return (name, ← settingValue marks name v))

/-- The value of a document in a file. -/
def readDocument (reader : DocumentReader) (path : String) (content : Bytes) : Except Fault Value :=
  match reader content with
  | .ok v => .ok v
  | .error (.malformed reason) => .error (.malformed path reason)
  | .error (.failed e message) => .error (.reader e message)

/-- A fault of the settings as a failure. -/
def lift {α : Type} (x : Except Fault α) : Run α := Run.ofExcept (x.mapError .settings)

def noteUnknown : List Value → Run Unit
  | [] => return
  | key :: rest => do
    Run.note .settings Journal.warning ("Ignoring unknown config key: " ++ (← lift (textOf [] key)))
    noteUnknown rest

/-- The settings in the file at a path; the defaults if there is no path or no file. -/
def load (reader : DocumentReader) (path? : Option String) : Run Settings := do
  match path? with
  | none => return {}
  | some path =>
    if !(← get).files.isFile path then
      Run.note .settings Journal.warning ("Config file not found: " ++ path ++ "; using defaults")
      return {}
    match (← get).files.read path with
    | .error e => throw (.settings (.unreadable path e))
    | .ok content =>
      let v ← lift (readDocument reader path content)
      let found ← lift (entries path v)
      noteUnknown (← lift (sortKeys (unknownKeys found)))
      lift (settingsOf v.marks found)

end ApkReport.Config
