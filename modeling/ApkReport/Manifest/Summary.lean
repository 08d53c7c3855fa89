/-
The typed fields of a manifest, in manifest order: package name, permissions and
features. Declarations without a name are left out, duplicates stay.
-/
import ApkReport.Manifest.Element
import ApkReport.Result
import ApkReport.Text.Case

namespace ApkReport

structure ManifestSummary where
  package : Option String := none
  permissions : List String := []
  features : List Feature := []
  deriving DecidableEq, Repr

/-- An empty text counts as absent. -/
def nonEmpty? (s : Option String) : Option String := s.filter (!·.isEmpty)

namespace Element

/-- The name that a permission or feature declares. -/
def declaredName? (e : Element) : Option String := nonEmpty? (e.androidAttribute? "name")

/-- A feature is required unless it says `false`, in any case of its letters. -/
def isRequired (e : Element) : Bool := Text.lower ((nonEmpty? (e.androidAttribute? "required")).getD "true") ≠ "false"

def permissions (manifest : Element) : List String :=
  (manifest.childrenNamed (.plain "uses-permission")).filterMap declaredName?

def features (manifest : Element) : List Feature :=
  (manifest.childrenNamed (.plain "uses-feature")).filterMap fun e =>
    e.declaredName?.map fun name => ⟨name, e.isRequired⟩

/-- The summary of a manifest. A package name that is known already takes the place of the attribute. -/
def summary (manifest : Element) (package : Option String) : ManifestSummary where
  package := nonEmpty? (package.or (manifest.attribute? (.plain "package")))
  permissions := manifest.permissions
  features := manifest.features

end Element

end ApkReport
