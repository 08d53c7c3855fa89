/-
Decoding a package file: the manifest member, the tree in it, and what the package has to
say of itself. A package is valid if the root of its manifest is called `manifest`.
-/
import ApkReport.Archive.Lenient
import ApkReport.BinaryXml.Tree
import ApkReport.Manifest.Package

namespace ApkReport

def manifestName : String := "AndroidManifest.xml"

namespace Element

mutual

/-- All elements below an element, an element before its children. -/
def descendants : Element → List Element
  | ⟨_, _, children⟩ => descendantsAmong children

def descendantsAmong : List Xml → List Element
  | [] => []
  | .element e :: rest => e :: (descendants e ++ descendantsAmong rest)
  | .comment _ :: rest => descendantsAmong rest
  | .instruction _ _ :: rest => descendantsAmong rest

end

/-- The attribute in the platform's namespace unless it is empty, else the one in no namespace. -/
def filledAttribute? (e : Element) (name : String) : Option String :=
  (nonEmpty? (e.attribute? (.android name))).or (e.attribute? (.plain name))

/-- The version that some `uses-sdk` below the root declares. -/
def platformVersion? (root : Element) (name : String) : Option String :=
  let tags := [QName.plain "uses-sdk", QName.android "uses-sdk"]
  (root.descendants.filter fun e => tags.contains e.tag).findSome? (·.filledAttribute? name)

/-- A version is a whole number, or is not given. -/
def hasGoodVersions (root : Element) : Bool :=
  ["targetSdkVersion", "minSdkVersion"].all fun name =>
    match nonEmpty? (root.platformVersion? name) with
    | none => true
    | some version => (Text.readInt? 10 version.toList).isSome

end Element

/-- A package that has no manifest, or none that is one. -/
def Package.withoutManifest : Package := ⟨false, fun _ => .ok none, .ok none⟩

/-- The package whose manifest has that root. -/
def Package.ofRoot (root : Element) : Except String Package :=
  if root.tag ≠ .plain "manifest" then .ok .withoutManifest
  else if !root.hasGoodVersions then .error "version is not a number"
  else .ok ⟨true, fun _ => .ok (some root), .ok (root.filledAttribute? "package")⟩

/-- Decodes the content of a package file. -/
def decodePackage : Decoder := fun file => do
  match ← (Archive.Lenient.read file manifestName).mapError (·.message) with
  | none => return .withoutManifest
  | some data =>
    match ← (BinaryXml.decode data).mapError (·.message) with
    | some (some root) => Package.ofRoot root
    | _ => return .withoutManifest

end ApkReport
