/-
A reader of documents: it decodes the whole content, and then reads the text.
-/
import ApkReport.Config.Load
import ApkReport.Text.Encoding
import ApkReport.Yaml.Meaning

namespace ApkReport.Yaml

open Config Text

/-- The fault of a scalar that its tag cannot read, as one of the reader. -/
def Fault.toReadFault (f : Fault) : ReadFault :=
  match f with
  | .malformed reason => .malformed reason
  | .noSuchCharacter | .badInteger .. | .longInteger _ | .badDecimal _ | .outOfRange _ | .offsetTooLarge _ =>
    .failed .badValue f.message
  | .characterOverflow | .weightTooLarge => .failed .tooLarge f.message
  | .unknownFlag _ => .failed .missingKey f.message
  | .emptyNumber => .failed .missingItem f.message
  | .notAMoment => .failed .missingAttribute f.message

def reader : DocumentReader := fun content =>
  match decodeUtf8 content with
  | .error e => .error (.failed .encoding e.message)
  | .ok text => (readValue text).mapError Fault.toReadFault

end ApkReport.Yaml
