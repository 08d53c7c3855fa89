/-
The program: it reads the settings, inspects the files one after another, and writes the
reports. What goes wrong with one file is told on the error output, and the next file
follows.
-/
import ApkReport.CommandLine.Arguments
import ApkReport.CommandLine.Usage
import ApkReport.Config.Load
import ApkReport.Inspection
import ApkReport.Journal.Level
import ApkReport.Report.Json
import ApkReport.Report.Saving
import ApkReport.Report.Text

namespace ApkReport.CommandLine

/-- The libraries that the program stands on. -/
structure Libraries where
  decoder : Decoder
  reader : Config.DocumentReader
  writer : Report.TableWriter

/-! ## Settings -/

/-- The settings that options override; one that was not given is null. -/
def Arguments.overrides (a : Arguments) : List (String × Value) := [
  ("output_format", .scalar (if a.json then .text "json" else .null)),
  ("csv_output", a.csv.getD (.scalar .null)),
  ("log_level", .scalar (if a.verbose then .text "DEBUG" else .null))]

/-- The path of the settings document, if one was given. -/
def Arguments.configPath? (a : Arguments) : Except Failure (Option String) :=
  match a.config with
  | none => .ok none
  | some (.scalar (.text path)) => .ok (some path)
  | some v => .error (.notAPath v)

/-- Sets the level that all components log at. -/
def setLevel (v : Value) : Run Unit :=
  match Journal.Level.ofValue Journal.Level.ofAnyName v with
  | .ok level => modify fun s => { s with level := level.value }
  | .error f => throw (.level f)

/-- The settings to run with: those of the document, and over them the options. -/
def configure (reader : Config.DocumentReader) (a : Arguments) : Run Settings := do
  let settings ← Config.load reader (← Run.ofExcept a.configPath?)
  let settings ← Config.lift (settings.withOverrides a.overrides)
  setLevel settings.logLevel
  return settings

/-- A failure that refuses the settings; any other ends the program. -/
def refusesSettings (f : Failure) : Bool :=
  match f.kind with
  | .settings | .badValue | .encoding => true
  | _ => false

/-! ## Files -/

/-- The output is the text report rather than the list of results. -/
def writesText (settings : Settings) : Bool := Settings.text? settings.outputFormat = some "text"

def writesJson (settings : Settings) : Bool := Settings.text? settings.outputFormat = some "json"

/-- The path from the root that an argument names. -/
def argumentPath (files : FileSystem) (argument : String) : String := absolutePath files.here argument

/-- Concludes the inspection of a file. It prints the result and yields it, or tells what went wrong. -/
def conclude (settings : Settings) (argument path : String) : Except Failure InspectionResult → Run (Option InspectionResult)
  | .ok result => do
    if writesText settings then Run.print (Report.text result ++ "\n")
    return some result
  | .error f => do
    Run.complain ("Error inspecting " ++ argument ++ ": " ++ f.message)
    Run.note .commandLine Journal.debug ("Inspection of " ++ path ++ " failed") (some f)
    return none

/-- Inspects the file that an argument names. It yields the result, or tells what went wrong. -/
def inspectArgument (decoder : Decoder) (settings : Settings) (argument : String) :
    Run (Option InspectionResult) := do
  let files := (← get).files
  let path := argumentPath files argument
  if !files.pathExists path then
    Run.complain ("Error: File not found: " ++ path)
    return none
  let extension := fileExtension path
  if !isSupported extension then
    Run.complain ("Error: Unsupported file type: " ++ extension)
    return none
  conclude settings argument path (← Run.attempt (inspectFile decoder settings path))

/-- Inspects the files that arguments name, in their order. -/
def inspectArguments (decoder : Decoder) (settings : Settings) : List String → Run (List InspectionResult)
  | [] => return []
  | argument :: rest => do
    let first ← inspectArgument decoder settings argument
    let others ← inspectArguments decoder settings rest
    return first.toList ++ others

/-- Where the summary is saved, if it is. -/
def csvPath? (settings : Settings) : Option String :=
  (Settings.text? settings.csvOutput).filter (!·.isEmpty)

/-- Inspects all files and writes the reports. -/
def inspectAndReport (libs : Libraries) (settings : Settings) (files : List String) : Run Unit := do
  let results ← inspectArguments libs.decoder settings files
  if writesJson settings then Run.print (Report.json results)
  if let some path := csvPath? settings then
    let count ← Report.saveCsv libs.writer results path
    Run.note .commandLine Journal.info ("Wrote " ++ path ++ " (" ++ toString count ++ " rows)")

/-! ## Commands -/

/-- Inspects what the arguments name, and yields the exit code. -/
def inspect (libs : Libraries) (a : Arguments) : Run Nat := do
  if a.files.isEmpty then
    Run.print (shortUsage ++ "\n\n" ++ purpose ++ "\n")
    return 1
  match ← Run.attempt (configure libs.reader a) with
  | .ok settings =>
    inspectAndReport libs settings a.files
    return 0
  | .error f =>
    if !refusesSettings f then throw f
    Run.complain ("Error: " ++ f.message)
    return 1

/-- Runs the program with the words of its command line, and yields the exit code. -/
def run (libs : Libraries) (words : List String) : Run Nat :=
  match parse words with
  | .error f => do
    Run.complain usage
    Run.complain (programName ++ ": error: " ++ f.message)
    return 2
  | .ok .help => do
    Run.print help
    return 0
  | .ok (.inspect a) => inspect libs a

end ApkReport.CommandLine
