/-
What an inspection works on and leaves behind: the files, the log and the output. An
operation of a session may fail; what it did to the session before that stays.
-/
import ApkReport.Failure
import ApkReport.Journal.Template

namespace ApkReport

/-- A part of the program that writes to the log. -/
inductive Component where
  | commandLine
  | archive
  | bundle
  | inspection
  | settings
  | manifest
  | scan
  deriving DecidableEq, Repr

def Component.name : Component → String
  | .commandLine => "apk_inspector"
  | .archive => "archive_reader"
  | .bundle => "bundle_resolver"
  | .inspection => "inspect_apk"
  | .settings => "inspector_config"
  | .manifest => "manifest_accessor"
  | .scan => "scan_hardware_apis"

/-- What is written to the error output: a record of the log, which may tell a failure, or a line. -/
inductive Event where
  | note (component : Component) (level : Int) (text : String) (cause : Option Failure)
  | line (text : String)
  deriving Repr

/-- The text of an event; `report` describes the failure that a record tells. -/
def Event.text (report : Failure → String) : Event → String
  | .note component level text cause =>
    ((Journal.Template.standard.fill? ⟨component.name, level, text⟩).getD text) ++ "\n" ++
      (match cause with | none => "" | some f => report f ++ "\n")
  | .line text => text ++ "\n"

structure Session where
  files : FileSystem
  /-- The directory in which temporary directories are made. -/
  tempRoot : String
  /-- The number of temporary directories made so far. -/
  serial : Nat := 0
  /-- The level that all components log at; zero stands for warnings. -/
  level : Int := Journal.info
  events : List Event := []
  output : String := ""
  deriving Repr

abbrev Run := ExceptT Failure (StateM Session)

namespace Run

def note (component : Component) (level : Int) (text : String) (cause : Option Failure := none) : Run Unit :=
  modify fun s =>
    if (if s.level = 0 then Journal.warning else s.level) ≤ level then
      { s with events := s.events ++ [.note component level text cause] }
    else s

/-- Writes a line to the error output. -/
def complain (text : String) : Run Unit := modify fun s => { s with events := s.events ++ [.line text] }

/-- Writes a text to the output. -/
def print (text : String) : Run Unit := modify fun s => { s with output := s.output ++ text }

/-- Replaces the files. -/
def setFiles (files : FileSystem) : Run Unit := modify fun s => { s with files }

/-- An outcome as an operation. -/
def ofExcept {α : Type} : Except Failure α → Run α
  | .ok a => return a
  | .error f => throw f

/-- The outcome of an operation, which fails or not. -/
def attempt {α : Type} (x : Run α) : Run (Except Failure α) := fun s => do
  let (outcome, s) ← x.run.run s
  return (.ok outcome, s)

end Run

end ApkReport
