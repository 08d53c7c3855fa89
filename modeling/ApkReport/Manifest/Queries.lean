/-
The package visibility declarations: the direct children of the first `queries` node in
document order. Values keep their order and their duplicates.
-/
import ApkReport.Manifest.Tree

namespace ApkReport

structure Queries where
  packages : List String := []
  intents : List String := []
  providers : List String := []
  deriving DecidableEq, Repr

namespace Node

mutual

/-- The first `queries` node, a node before its children and the children in order. -/
def findQueries : Node → Option Node
  | ⟨tag, attributes, children⟩ =>
    if tag = "queries" then some ⟨tag, attributes, children⟩ else findQueriesAmong children

def findQueriesAmong : List Node → Option Node
  | [] => none
  | n :: rest => (findQueries n).or (findQueriesAmong rest)

end

/-- The texts of the attribute on the nodes that have one. -/
def attributeTexts (name : String) (nodes : List Node) : List String := nodes.filterMap (·.attribute? name)

/-- What a child of a `queries` node adds to the declarations of the children before it. The authorities of a
provider stay in one text; a child of another tag adds nothing. -/
def addDeclaration (found : Queries) (child : Node) : Queries :=
  if child.tag = "package" then
    { found with packages := found.packages ++ (child.attribute? "name").toList }
  else if child.tag = "intent" then
    { found with intents := found.intents ++ attributeTexts "name" (child.childrenByTag "action") }
  else if child.tag = "provider" then
    { found with providers := found.providers ++ (child.attribute? "authorities").toList }
  else found

/-- What one `queries` node declares, child by child. -/
def declarations (n : Node) : Queries := n.children.foldl addDeclaration {}

/-- What a manifest declares; nothing if it has no `queries` node. -/
def queries (root : Node) : Queries := (root.findQueries.map declarations).getD {}

end Node

end ApkReport
