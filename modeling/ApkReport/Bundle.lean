/-
Bundles: which member of a bundle is its base package.
-/
import ApkReport.Text.Case

namespace ApkReport

def baseEntryName : String := "base.apk"

/-- The member name is `base.apk` in any case, at the root or in a folder. -/
def isBaseEntry (name : String) : Bool :=
  let s := (Text.lower (String.ofList (name.toList.map fun c => if c = '\\' then '/' else c))).toList
  s = baseEntryName.toList || ('/' :: baseEntryName.toList).isSuffixOf s

end ApkReport
