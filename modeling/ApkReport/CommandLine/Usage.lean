/-
What the program says about its use.
-/

namespace ApkReport.CommandLine

def programName : String := "apk-inspector"

def purpose : String := "Inspects APK and APKM files for permissions and package queries."

/-- The usage shown when no file is named. -/
def shortUsage : String := "Usage: " ++ programName ++ " <file.apk|file.apkm> [...]"

/-- The usage shown with help and with a refused command line. -/
def usage : String := "usage: " ++ programName ++ " [options] <file.apk|file.apkm> [...]"

/-- A left column of 20 characters, and the explanation. -/
def helpLine (left explanation : String) : String :=
  "  " ++ left ++ String.ofList (List.replicate (18 - left.length) ' ') ++ explanation

def helpLines : List String := [
  usage, "", purpose, "",
  "positional arguments:",
  helpLine "files" "APK or APKM files to inspect", "",
  "options:",
  helpLine "-h, --help" "show this help message and exit",
  helpLine "--json" "Print results as JSON instead of the text report",
  helpLine "--csv CSV_OUTPUT" "Also write a summary CSV to this path",
  helpLine "--config CONFIG" "YAML configuration file",
  helpLine "-v, --verbose" "Enable debug logging"]

def help : String := String.join (helpLines.map (· ++ "\n"))

end ApkReport.CommandLine
