/-
The result of an inspection: what one file declares and uses.
-/
import ApkReport.Json.Basic

namespace ApkReport

/-- A device feature that a package uses, and whether it can do without. -/
structure Feature where
  name : String
  required : Bool := true
  deriving DecidableEq, Repr

structure InspectionResult where
  filePath : String
  packageName : Option String := none
  permissions : List String := []
  features : List Feature := []
  hardwareApis : List String := []
  queriedPackages : List String := []
  queriedIntents : List String := []
  queriedProviders : List String := []
  deriving DecidableEq, Repr

def requiredMark : String := " (required)"

def optionalMark : String := " (optional)"

def Feature.describe (f : Feature) : String := f.name ++ if f.required then requiredMark else optionalMark

def Feature.toJson (f : Feature) : Json := .object [("name", .string f.name), ("required", .bool f.required)]

def InspectionResult.toJson (r : InspectionResult) : Json :=
  let strings (items : List String) : Json := .array (items.map .string)
  .object [
    ("filePath", .string r.filePath),
    ("packageName", match r.packageName with | none => .null | some p => .string p),
    ("permissions", strings r.permissions),
    ("usesFeatures", .array (r.features.map Feature.toJson)),
    ("hardwareApis", strings r.hardwareApis),
    ("queriedPackages", strings r.queriedPackages),
    ("queriedIntents", strings r.queriedIntents),
    ("queriedProviders", strings r.queriedProviders)]

end ApkReport
