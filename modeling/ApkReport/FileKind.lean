/-
What a path says about a file: its extension, and whether it names a bundle. Dots in
directory names and at the front of the file name do not count.
-/
import ApkReport.Text.Case

namespace ApkReport

/-- The part after the last slash. -/
def baseName (path : List Char) : List Char := (path.reverse.takeWhile (· ≠ '/')).reverse

/-- The part of a file name from its last dot on, if something other than a dot stands before it. -/
def nameExtension (base : List Char) : List Char :=
  let named := base.dropWhile (· = '.')
  if named.contains '.' then '.' :: (named.reverse.takeWhile (· ≠ '.')).reverse else []

/-- The extension of a path in lower case, with its dot; empty if there is none. -/
def fileExtension (path : String) : String :=
  Text.lower (String.ofList (nameExtension (baseName path.toList)))

def packageExtension : String := ".apk"

def bundleExtension : String := ".apkm"

/-- The path names a bundle rather than a plain package. -/
def isBundle (path : String) : Bool := fileExtension path = bundleExtension

/-- The extension is one that an inspection accepts. -/
def isSupported (extension : String) : Bool := extension = packageExtension || extension = bundleExtension

end ApkReport
