/-
Saving the summary: the directories above the file are made, and a writer of tables does the
rest. Where the file goes and how it is compressed is up to the writer.
-/
import ApkReport.Report.Csv
import ApkReport.Session

namespace ApkReport.Report

/-- Saves a table as the file of a path. It yields what goes wrong, if something does, and the files afterwards. -/
abbrev TableWriter := FileSystem → String → Table → Except Failure Unit × FileSystem

/-- Writes the summary to a file, and yields the number of its records. -/
def saveCsv (writer : TableWriter) (results : List InspectionResult) (path : String) : Run Nat := do
  let path := pathText path
  let directory := parentPath path
  if FileSystem.hasNull directory then throw .nullInPath
  let (fault, files) := (← get).files.makeDirectories directory (components directory).length
  Run.setFiles files
  if let some e := fault then throw (.os e)
  let (outcome, files) := writer (← get).files path (summaryTable results)
  Run.setFiles files
  Run.ofExcept outcome
  return results.length

end ApkReport.Report
