/-
Names of elements and attributes. A name is mended until XML can hold it: it starts with a
letter or an underscore, a namespace label inside of it becomes its namespace if that label
is declared, and every other character outside of the plain ones becomes an underscore.
-/
import ApkReport.BinaryXml.StringPool
import ApkReport.Manifest.Element
import ApkReport.Text.Numeral

namespace ApkReport.BinaryXml

/-- Namespaces by their labels. -/
abbrev Spaces := List (String × String)

def isPlainNameChar (c : Char) : Bool := (c.isAlphanum && c.toNat < 0x80) || c = '.' || c = '_' || c = '-'

/-- The name before and after the first colon. -/
def splitLabel? (name : List Char) : Option (String × List Char) :=
  if name.contains ':' then
    let label := name.takeWhile (· ≠ ':')
    some (String.ofList label, name.drop (label.length + 1))
  else none

/-- A name that starts with a letter or an underscore. -/
def withStart (name : List Char) : List Char :=
  match name with
  | [] => []
  | c :: _ => if Text.isLetter c || c = '_' then name else '_' :: name

/-- Plain characters only. A line feed at the very end of an otherwise plain name is overlooked. -/
def plainName (name : List Char) : List Char :=
  let body := if name.getLast? = some '\n' then name.dropLast else name
  if body.all isPlainNameChar then name else name.map fun c => if isPlainNameChar c then c else '_'

/-- A namespace as a part of a name, where an empty one is none. -/
def space? (uri : String) : Option String := if uri.isEmpty then none else some uri

def mendName (spaces : Spaces) (uri name : String) : QName :=
  let name := withStart name.toList
  let (uri, name) :=
    if !uri.isEmpty then (uri, name)
    else match splitLabel? name with
      | none => (uri, name)
      | some (label, rest) =>
        match spaces.lookup label with
        | none => (uri, name)
        | some declared => (declared, rest)
  ⟨space? uri, String.ofList (plainName name)⟩

/-! ## Validity -/

/-- A name that XML can hold: not empty, and with a proper start. -/
def isValidName (name : List Char) : Bool :=
  match name with
  | [] => false
  | c :: rest => (Text.isLetter c || c = '_') && rest.all fun c => isPlainNameChar c || Text.isLetter c || Text.isDigit c

def isUriChar (c : Char) : Bool :=
  (c.isAlphanum && c.toNat < 0x80) || "-._~:/?#[]@!$&'()*+,;=".toList.contains c

/-- The characters of a namespace are those of an address; a percent sign is followed by two digits. -/
def isValidUri : List Char → Bool
  | [] => true
  | '%' :: a :: b :: rest => (Text.digitIn? 16 a).isSome && (Text.digitIn? 16 b).isSome && isValidUri rest
  | c :: rest => isUriChar c && isValidUri rest

end ApkReport.BinaryXml
