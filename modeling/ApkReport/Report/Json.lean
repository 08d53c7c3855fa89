/-
The JSON report: the results as one indented list, closed by a line end.
-/
import ApkReport.Result

namespace ApkReport.Report

def json (results : List InspectionResult) : String := (Json.array (results.map InspectionResult.toJson)).text ++ "\n"

end ApkReport.Report
