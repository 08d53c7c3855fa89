/-
The text report: a header between two rules, then one section for each list.
-/
import ApkReport.Result

namespace ApkReport.Report

def rule : String := String.ofList (List.replicate 60 '=')

/-- A blank line, the title, and one line for each item. -/
def sectionLines (title : String) (items : List String) : List String :=
  "" :: title :: if items.isEmpty then ["  (none)"] else items.map ("  • " ++ ·)

/-- The line with the package name, which is left out if there is none or it is empty. -/
def packageLine (r : InspectionResult) : List String :=
  match r.packageName with
  | none => []
  | some p => if p.isEmpty then [] else ["Package: " ++ p]

def textLines (r : InspectionResult) : List String :=
  ["", rule, "File: " ++ r.filePath] ++ packageLine r ++ [rule] ++
  sectionLines "📋 PERMISSIONS:" r.permissions ++
  sectionLines "🔧 USES FEATURES:" (r.features.map Feature.describe) ++
  sectionLines "📡 HARDWARE APIS (detected in code):" r.hardwareApis ++
  sectionLines "📦 QUERIED PACKAGES:" r.queriedPackages ++
  sectionLines "🎯 QUERIED INTENTS:" r.queriedIntents ++
  sectionLines "🔌 QUERIED PROVIDERS:" r.queriedProviders ++ [""]

/-- The text report of one result. -/
def text (r : InspectionResult) : String := "\n".intercalate (textLines r)

end ApkReport.Report
