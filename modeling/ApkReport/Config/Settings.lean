/-
The settings of an inspection. Values keep the kind they were given with; only the output
format is checked.
-/
import ApkReport.Config.Fault

namespace ApkReport

structure Settings where
  logLevel : Value := .scalar (.text "INFO")
  outputFormat : Value := .scalar (.text "text")
  csvOutput : Value := .scalar .null
  tempPrefix : Value := .scalar (.text "apkm-")
  deriving Repr

namespace Settings

open Config

def isNull : Value → Bool
  | .scalar .null => true
  | _ => false

/-- The text of a value that is one. -/
def text? : Value → Option String
  | .scalar (.text s) => some s
  | _ => none

/-- The names of the settings. -/
def names : List String := ["log_level", "output_format", "csv_output", "temp_prefix"]

/-- Sets one setting by its name. -/
def set? (s : Settings) (name : String) (v : Value) : Option Settings :=
  match name with
  | "log_level" => some { s with logLevel := v }
  | "output_format" => some { s with outputFormat := v }
  | "csv_output" => some { s with csvOutput := v }
  | "temp_prefix" => some { s with tempPrefix := v }
  | _ => none

/-- Sets settings one after another; the first unknown name is refused. -/
def setAll (s : Settings) : List (String × Value) → Except Fault Settings
  | [] => .ok s
  | (name, v) :: rest =>
    match s.set? name v with
    | none => .error (.unknownSetting name)
    | some s => s.setAll rest

/-- The refusal of an output format, which tells the value if every integer in it can be written. -/
def formatFault (v : Value) : Fault := if v.isWritable [] then .badFormat v else .longInteger

/-- The settings, if their output format is one. -/
def checked (s : Settings) : Except Fault Settings :=
  match text? s.outputFormat with
  | some format => if outputFormats.contains format then .ok s else .error (formatFault s.outputFormat)
  | none => .error (formatFault s.outputFormat)

/-- The settings with other values than the defaults. -/
def ofValues (values : List (String × Value)) : Except Fault Settings := do
  checked (← setAll {} values)

/-- The settings with overrides, of which null ones count for nothing. -/
def withOverrides (s : Settings) (overrides : List (String × Value)) : Except Fault Settings :=
  let changes := overrides.filter fun (_, v) => !isNull v
  if changes.isEmpty then .ok s else do checked (← s.setAll changes)

end Settings

end ApkReport
