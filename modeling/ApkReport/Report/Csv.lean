/-
The CSV summary: a table with a header and one row for each result. In its text, fields are
separated by commas and records end at a line feed; a field that holds a comma, a quotation
mark or a line feed stands in quotation marks, with its own quotation marks doubled.
-/
import ApkReport.Result

namespace ApkReport.Report

def csvColumns : List String :=
  ["FilePath", "PackageName", "Permissions", "UsesFeatures", "HardwareApis", "QueriedPackages", "QueriedIntents",
    "QueriedProviders"]

/-- What stands between the items of a list in one field. -/
def csvListSeparator : String := "; "

/-- The fields of the row of a result. -/
def csvFields (r : InspectionResult) : List String :=
  let joined (items : List String) : String := csvListSeparator.intercalate items
  [r.filePath, r.packageName.getD "", joined r.permissions, joined (r.features.map Feature.describe),
    joined r.hardwareApis, joined r.queriedPackages, joined r.queriedIntents, joined r.queriedProviders]

def needsQuotes (field : List Char) : Bool := field.any fun c => c = ',' || c = '"' || c = '\n'

def doubleQuotes (field : List Char) : List Char := field.flatMap fun c => if c = '"' then ['"', '"'] else [c]

def csvField (field : String) : List Char :=
  if needsQuotes field.toList then '"' :: doubleQuotes field.toList ++ ['"'] else field.toList

def csvRecord (fields : List String) : List Char := [','].intercalate (fields.map csvField) ++ ['\n']

/-- A table of texts. -/
structure Table where
  header : List String
  rows : List (List String)
  deriving DecidableEq, Repr

/-- The text of a table. -/
def Table.csv (table : Table) : String := String.ofList ((table.header :: table.rows).flatMap csvRecord)

/-- The summary of results. -/
def summaryTable (results : List InspectionResult) : Table where
  header := csvColumns
  rows := results.map csvFields

/-- The text of the summary. -/
def csv (results : List InspectionResult) : String := (summaryTable results).csv

end ApkReport.Report
