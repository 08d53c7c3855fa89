/-
A writer of tables that keeps to the path it is given. A name that ends in `.gz`, in any case,
asks for compression.
-/
import ApkReport.Gzip
import ApkReport.Report.Saving
import ApkReport.Text.Case

namespace ApkReport.Report

/-- The name asks for compression. -/
def isCompressed (path : String) : Bool := ".gz".toList.isSuffixOf (Text.lower path).toList

/-- The content of a file of that name. -/
def tableFile (path : String) (table : Table) : Bytes :=
  let text := Bytes.ofString table.csv
  if isCompressed path then Gzip.compress text else text

def fileWriter : TableWriter := fun files path table =>
  if FileSystem.hasNull path then (.error .nullInPath, files)
  else
    match files.write path (tableFile path table) with
    | .error e => (.error (.os e), files)
    | .ok written => (.ok (), written)

end ApkReport.Report
