/-
Which members of a package hold bytecode: `classes.dex`, `classes2.dex` and so on. The
number may be written in the decimal digits of any script, and one line feed may follow.
-/
import ApkReport.Text.CharClass

namespace ApkReport.Dex

def isDexEntry (name : String) : Bool :=
  let stem := "classes".toList
  let s := name.toList
  stem.isPrefixOf s &&
    let rest := (s.drop stem.length).dropWhile Text.isDigit
    rest = ".dex".toList || rest = ".dex\n".toList

end ApkReport.Dex
