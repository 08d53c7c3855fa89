/-
XML as a decoder yields it: elements with qualified names, and comments and processing
instructions among them.
-/

namespace ApkReport

/-- A name in a namespace, or in none. -/
structure QName where
  space : Option String := none
  localName : String
  deriving DecidableEq, Repr

namespace QName

/-- Reads a local name that may follow a namespace in curly brackets. -/
def ofString (s : String) : QName :=
  match s.toList with
  | '\x7b' :: rest =>
    let space := rest.takeWhile (· ≠ '\x7d')
    ⟨some (String.ofList space), String.ofList (rest.drop (space.length + 1))⟩
  | _ => ⟨none, s⟩

/-- A name in no namespace. -/
def plain (s : String) : QName := ⟨none, s⟩

end QName

mutual

structure Element where
  tag : QName
  attributes : List (QName × String) := []
  children : List Xml := []

inductive Xml where
  | element (e : Element)
  | comment (text : String)
  | instruction (target text : String)

end

instance : Inhabited Element := ⟨{ tag := .plain "" }⟩

instance : Inhabited Xml := ⟨.comment ""⟩

namespace Element

/-- The value of the attribute of exactly that name. -/
def attribute? (e : Element) (name : QName) : Option String := e.attributes.lookup name

/-- The child elements of exactly that name. -/
def childrenNamed (e : Element) (name : QName) : List Element :=
  e.children.filterMap fun
    | .element c => if c.tag = name then some c else none
    | _ => none

end Element

/-- A repeated name keeps its first place and takes the last value. -/
def setAttribute (attributes : List (QName × String)) (name : QName) (value : String) : List (QName × String) :=
  match attributes with
  | [] => [(name, value)]
  | (n, v) :: rest => if n = name then (n, value) :: rest else (n, v) :: setAttribute rest name value

/-- Attributes set one after another. -/
def attributesOf (pairs : List (QName × String)) : List (QName × String) :=
  pairs.foldl (fun acc (name, value) => setAttribute acc name value) []

def androidNamespace : String := "http://schemas.android.com/apk/res/android"

/-- A name of the platform's namespace. -/
def QName.android (name : String) : QName := ⟨some androidNamespace, name⟩

/-- The attribute in the platform's namespace, else the one in no namespace. -/
def Element.androidAttribute? (e : Element) (name : String) : Option String :=
  match e.attribute? (.android name) with
  | some v => some v
  | none => e.attribute? (.plain name)

end ApkReport
