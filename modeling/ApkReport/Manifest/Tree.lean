/-
The manifest as a plain tree: local names only, typed attribute values, no comments and
no processing instructions.
-/
import ApkReport.Manifest.Element
import ApkReport.Value

namespace ApkReport

structure Attribute where
  name : String
  value : Scalar := .null
  deriving DecidableEq, Repr

/-- The text of an attribute; an absent or empty value gives none. -/
def Attribute.text? (a : Attribute) : Option String :=
  match a.value with
  | .null => none
  | v => if v.display.isEmpty then none else some v.display

structure Node where
  tag : String
  attributes : List Attribute := []
  children : List Node := []
  deriving Inhabited

namespace Node

/-- The text of the first attribute of that name. -/
def attribute? (n : Node) (name : String) : Option String :=
  match n.attributes.find? (·.name = name) with
  | some a => a.text?
  | none => none

def childrenByTag (n : Node) (tag : String) : List Node := n.children.filter (·.tag = tag)

mutual

/-- The tree of an element. -/
def ofElement : Element → Node
  | ⟨tag, attributes, children⟩ =>
    { tag := tag.localName
      attributes := attributes.map fun (name, value) => ⟨name.localName, .text value⟩
      children := ofContent children }

/-- The trees of the elements among the content. -/
def ofContent : List Xml → List Node
  | [] => []
  | .element e :: rest => ofElement e :: ofContent rest
  | .comment _ :: rest => ofContent rest
  | .instruction _ _ :: rest => ofContent rest

end

end Node

end ApkReport
