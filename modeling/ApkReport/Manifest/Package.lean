/-
Opening a package and reading its manifest: the summary and the tree. Whatever the decoder
of the binary form does, the outcome is both views or a failure of the manifest.
-/
import ApkReport.Archive.Access
import ApkReport.Manifest.Queries
import ApkReport.Manifest.Summary

namespace ApkReport

/-- A decoded package. Each time it is asked for the root of the manifest it may answer anew, and any
question may end in an error. -/
structure Package where
  isValid : Bool
  root : Nat → Except String (Option Element)
  packageName : Except String (Option String)

/-- Decodes the content of a package file. -/
abbrev Decoder := Bytes → Except String Package

namespace Package

/-- The answer to the question for the root that was asked `before` times before. -/
def askRoot (p : Package) (before : Nat) : Except ManifestFault (Option Element) :=
  (p.root before).mapError .unreadableRoot

def requireRoot (p : Package) (before : Nat) : Except ManifestFault Element := do
  match ← p.askRoot before with
  | none => throw .noRoot
  | some root => return root

/-- The decoded package in a file, if it has a manifest. -/
def decode (decoder : Decoder) (path : String) (content : Bytes) : Except ManifestFault Package :=
  match decoder content with
  | .error reason => .error (.undecodable path reason)
  | .ok p => do
    if !p.isValid then throw (.invalid path)
    if (← p.askRoot 0).isNone then throw (.invalid path)
    return p

def readSummary (p : Package) : Except ManifestFault ManifestSummary := do
  let root ← p.requireRoot 1
  let name ← p.packageName.mapError .unreadablePackage
  return root.summary (nonEmpty? name)

def readTree (p : Package) : Except ManifestFault Node := do
  return .ofElement (← p.requireRoot 2)

end Package

/-- A fault of the manifest as a failure. -/
def Run.ofManifest {α : Type} (x : Except ManifestFault α) : Run α :=
  match x with
  | .ok a => return a
  | .error f => throw (.manifest f)

/-- Opens the package at a path, which has to be a readable archive. -/
def openPackage (decoder : Decoder) (path : String) : Run Package := do
  let reader ← Archive.openArchive path
  let p ← Run.ofManifest (Package.decode decoder path reader.file)
  Run.note .manifest Journal.debug ("Decoded manifest of " ++ path)
  return p

/-- Both views of the manifest of the package at a path. -/
def readManifest (decoder : Decoder) (path : String) : Run (ManifestSummary × Node) := do
  let p ← openPackage decoder path
  Run.ofManifest do return (← p.readSummary, ← p.readTree)

end ApkReport
