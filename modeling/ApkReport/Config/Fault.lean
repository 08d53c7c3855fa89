/-
What can be wrong with settings and with the file that holds them.
-/
import ApkReport.FileSystem.Basic
import ApkReport.Text.Numeral
import ApkReport.Value

namespace ApkReport.Config

open Text

def outputFormats : List String := ["text", "json"]

/-- Why keys have no common order. -/
inductive KeyClash where
  | kinds
  | dateAndMoment
  | zones
  deriving DecidableEq, Repr

def KeyClash.message : KeyClash → String
  | .kinds => "keys of different kinds cannot be sorted"
  | .dateAndMoment => "can't compare datetime.datetime to datetime.date"
  | .zones => "can't compare offset-naive and offset-aware datetimes"

/-- The kinds of errors of a reader of documents, other than that it refuses one. -/
inductive ReaderError where
  | encoding
  | badValue
  | badType
  | missingKey
  | missingItem
  | missingAttribute
  | tooLarge
  | other
  deriving DecidableEq, Repr

inductive Fault where
  /-- An output format that is none. -/
  | badFormat (v : Value)
  | unreadable (path : String) (e : OsError)
  | malformed (path reason : String)
  | notMapping (path kind : String)
  /-- The reader of the document fails, and does not refuse it. -/
  | reader (e : ReaderError) (message : String)
  /-- An integer with more digits than can be written. -/
  | longInteger
  /-- Unknown keys without a common order. -/
  | unorderedKeys (why : KeyClash)
  | unknownSetting (name : String)
  deriving Repr

def Fault.message : Fault → String
  | .badFormat v => "output_format must be one of " ++ ", ".intercalate outputFormats ++ ", got " ++ v.literal
  | .unreadable path e => "Failed to load config " ++ path ++ ": " ++ e.message
  | .malformed path reason => "Failed to load config " ++ path ++ ": " ++ reason
  | .notMapping path kind => "Config " ++ path ++ " must be a mapping, got " ++ kind
  | .reader _ message => message
  | .longInteger => Text.tooManyDigits
  | .unorderedKeys why => why.message
  | .unknownSetting name => "InspectorConfig.__init__() got an unexpected keyword argument " ++ Text.quoted name

end ApkReport.Config
