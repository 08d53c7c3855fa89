/-
The inspection of one file. A bundle is inspected through a copy of its base package in a
temporary directory, which is removed whatever happens; the result carries the path that
was asked for, and all its lists are sorted.
-/
import ApkReport.Bundle.Extraction
import ApkReport.Config.Settings
import ApkReport.Dex.Scan
import ApkReport.FileKind
import ApkReport.Manifest.Package

namespace ApkReport

/-! ## Temporary directories -/

/-- The text of a prefix; without one a default is taken. -/
def prefixText (v : Value) : Except Failure String :=
  match v with
  | .scalar (.text s) => .ok s
  | .scalar .null => .ok "tmp"
  | v => .error (.tempPrefix v)

/-- How many numbers there are for temporary directories: as many as eight digits write. -/
def numberCount : Nat := 100000000

/-- The path of the temporary directory of a number. Numbers start over when all were used. -/
def numberedPath (root name : String) (number : Nat) : String := joinPath root (name ++ padded 8 (number % numberCount))

/-- Makes a directory whose name is the prefix and the next number. A name that is taken is passed over,
at most `tries` times. -/
def makeNumberedDirectory (name : String) : Nat → Run String
  | 0 => throw (.os ⟨.fileExists, none⟩)
  | tries + 1 => do
    let serial := (← get).serial + 1
    modify fun s => { s with serial }
    let path := numberedPath (← get).tempRoot name serial
    match (← get).files.makeDirectory path with
    | .ok files =>
      Run.setFiles files
      return path
    | .error e => if e.reason = .fileExists then makeNumberedDirectory name tries else throw (.os e)

/-- Makes a new temporary directory. -/
def makeTempDirectory (pre : Value) : Run String := do
  let name ← prefixText pre
  if FileSystem.hasNull (joinPath (← get).tempRoot name) then throw .nullInPath
  makeNumberedDirectory name numberCount

/-- Removes a directory with all that it holds; that this fails is only noted. -/
def removeTempDirectory (path : String) : Run Unit := do
  let (fault, files) := (← get).files.removeTree path
  Run.setFiles files
  match fault with
  | none => return
  | some e =>
    if e.reason ≠ .noEntry then
      Run.note .inspection Journal.warning ("Failed to remove temp directory " ++ path ++ ": " ++ e.message)

/-! ## Inspection -/

/-- Runs a block on a copy of a bundle's base package in a directory. -/
def withCopy {α : Type} (path directory : String) (block : String → Run α) : Run α := do
  Run.note .inspection Journal.info "Extracting base.apk from APKM bundle..."
  block (← extractBase path directory)

/-- Runs a block on a copy of a bundle's base package, which is there for the time of the block. -/
def withBundle {α : Type} (path : String) (settings : Settings) (block : String → Run α) : Run α := do
  let directory ← makeTempDirectory settings.tempPrefix
  Run.note .inspection Journal.debug ("Created temp directory " ++ directory)
  let outcome ← Run.attempt (withCopy path directory block)
  removeTempDirectory directory
  Run.ofExcept outcome

/-- Runs a block on the path of the package to inspect. -/
def withPackage {α : Type} (path : String) (settings : Settings) (block : String → Run α) : Run α :=
  if isBundle path then withBundle path settings block else block (pathText path)

def sortTexts (items : List String) : List String := items.mergeSort (· ≤ ·)

/-- By name; features of one name keep their order. -/
def sortFeatures (features : List Feature) : List Feature := features.mergeSort fun f g => f.name ≤ g.name

def assemble (filePath : String) (summary : ManifestSummary) (queries : Queries) (apis : List String) :
    InspectionResult where
  filePath := filePath
  packageName := summary.package
  permissions := sortTexts summary.permissions
  features := sortFeatures summary.features
  hardwareApis := apis
  queriedPackages := sortTexts queries.packages
  queriedIntents := sortTexts queries.intents
  queriedProviders := sortTexts queries.providers

/-- Inspects the package at a path, and reports it under another. -/
def inspectPackage (decoder : Decoder) (path filePath : String) : Run InspectionResult := do
  let (summary, tree) ← readManifest decoder path
  let apis ← Dex.scan path
  return assemble filePath summary tree.queries apis

/-- Inspects a package in the place of the file at a path. -/
def inspectionBlock (decoder : Decoder) (path package : String) : Run InspectionResult := do
  Run.note .inspection Journal.debug ("Inspecting " ++ package)
  inspectPackage decoder package path

/-- Inspects a package or a bundle. -/
def inspectFile (decoder : Decoder) (settings : Settings) (path : String) : Run InspectionResult :=
  withPackage path settings (inspectionBlock decoder path)

end ApkReport
