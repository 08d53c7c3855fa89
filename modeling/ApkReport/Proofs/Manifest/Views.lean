/-
The summary and the tree read an attribute in two ways. The summary looks in the platform's
namespace, then in none; the tree has no namespaces and takes the first attribute of the local
name. On an element the two agree, whatever the values are, exactly if the first name with
that local part is the one that the summary reads (`agree_iff_first`). So a declaration in the
tree shows what its first attribute says, which is the platform's if that stands first.
-/
import ApkReport.Manifest.Decoding
import ApkReport.Proofs.Manifest.FirstQueries
import Mathlib.Data.List.Basic

namespace ApkReport

/-! ## Names -/

namespace QName

/-- The first of some names with that local part, in whatever namespace. -/
def first? (names : List QName) (name : String) : Option QName := names.find? (·.localName = name)

/-- The one of some names that is read for the platform: the one in its namespace, else the one in none. -/
def platform? (names : List QName) (name : String) : Option QName :=
  if .android name ∈ names then some (.android name)
  else if .plain name ∈ names then some (.plain name)
  else none

variable {names : List QName} {name : String} {q : QName}

theorem mem_of_first? (h : first? names name = some q) : q ∈ names ∧ q.localName = name :=
  ⟨List.mem_of_find?_eq_some h, by simpa using List.find?_some h⟩

theorem mem_of_platform? (h : platform? names name = some q) : q ∈ names ∧ q.localName = name := by
  unfold platform? at h
  split at h
  · cases h
    exact ⟨‹_›, rfl⟩
  · split at h
    · cases h
      exact ⟨‹_›, rfl⟩
    · cases h

/-- Without a name of that local part there is none to read. -/
theorem platform?_eq_none (h : first? names name = none) : platform? names name = none := by
  rw [first?, List.find?_eq_none] at h
  cases hp : platform? names name with
  | none => rfl
  | some q =>
    obtain ⟨hmem, hlocal⟩ := mem_of_platform? hp
    exact absurd (decide_eq_true hlocal) (h q hmem)

end QName

/-! ## Attributes -/

namespace Element

/-- The names of the attributes, in their order. -/
def names (e : Element) : List QName := e.attributes.map (·.1)

/-- What the first attribute of a local name says, if that is not empty. -/
def firstText? (e : Element) (name : String) : Option String :=
  nonEmpty? ((QName.first? e.names name).bind e.attribute?)

/-- What the attribute of the platform says, if that is not empty. -/
def platformText? (e : Element) (name : String) : Option String := nonEmpty? (e.androidAttribute? name)

/-- The element with a value for each of some names. -/
def withValues (tag : QName) (children : List Xml) (names : List QName) (value : QName → String) : Element where
  tag := tag
  attributes := names.map fun q => (q, value q)
  children := children

variable (e : Element) (name : String)

theorem attribute?_isSome_iff (q : QName) : (e.attribute? q).isSome ↔ q ∈ e.names := by
  rw [attribute?, names, Option.isSome_iff_ne_none, ne_eq, List.lookup_eq_none_iff]
  simp

theorem androidAttribute?_eq : e.androidAttribute? name = (QName.platform? e.names name).bind e.attribute? := by
  unfold androidAttribute? QName.platform?
  have habsent : ∀ q, q ∉ e.names → e.attribute? q = none := by
    intro q hq
    rw [← attribute?_isSome_iff] at hq
    simpa using hq
  by_cases ha : .android name ∈ e.names
  · obtain ⟨v, hv⟩ := Option.isSome_iff_exists.1 ((e.attribute?_isSome_iff _).2 ha)
    rw [if_pos ha, hv, Option.bind_some, hv]
  · rw [if_neg ha, habsent _ ha]
    dsimp only
    by_cases hp : .plain name ∈ e.names
    · rw [if_pos hp, Option.bind_some]
    · rw [if_neg hp, habsent _ hp, Option.bind_none]

theorem attribute?_withValues (tag : QName) (children : List Xml) {names : List QName} (value : QName → String) {q : QName}
    (hq : q ∈ names) : (withValues tag children names value).attribute? q = some (value q) := by
  rw [attribute?, withValues]
  induction names with
  | nil => exact absurd hq List.not_mem_nil
  | cons x names ih =>
    rw [List.map_cons, List.lookup_cons]
    by_cases hx : q = x
    · rw [hx, beq_self_eq_true]
    · rw [beq_eq_false_iff_ne.2 hx]
      exact ih ((List.mem_cons.1 hq).resolve_left hx)

theorem names_withValues (tag : QName) (children : List Xml) (names : List QName) (value : QName → String) :
    (withValues tag children names value).names = names := by
  rw [Element.names, withValues, List.map_map]
  exact List.map_id names

end Element

namespace Node

/-- The value of the first attribute of a local name is found under that attribute's own name. -/
theorem find?_localName (attributes : List (QName × String)) (name : String) :
    (attributes.find? (·.1.localName = name)).map (·.2) =
      (QName.first? (attributes.map (·.1)) name).bind fun q => attributes.lookup q := by
  induction attributes with
  | nil => rfl
  | cons x attributes ih =>
    obtain ⟨q, v⟩ := x
    unfold QName.first? at ih ⊢
    by_cases hq : q.localName = name
    · simp [hq]
    · simp only [List.map_cons, List.find?_cons, hq, decide_false, ih]
      cases hf : (attributes.map (·.1)).find? (·.localName = name) with
      | none => rfl
      | some p =>
        have hp : p.localName = name := by simpa using List.find?_some hf
        have hne : (p == q) = false := beq_eq_false_iff_ne.2 fun he => hq (he ▸ hp)
        rw [Option.bind_some, Option.bind_some, List.lookup_cons, hne]

theorem text?_text (name value : String) : (⟨name, .text value⟩ : Attribute).text? = nonEmpty? (some value) := by
  unfold Attribute.text? nonEmpty?
  cases h : value.isEmpty <;> simp [Scalar.display, Option.filter, h]

/-- An element's attribute in the tree is the first of its local name. -/
theorem attribute?_ofElement (e : Element) (name : String) : (ofElement e).attribute? name = e.firstText? name := by
  obtain ⟨tag, attributes, children⟩ := e
  unfold Element.firstText? Element.names Element.attribute?
  dsimp only
  rw [← find?_localName, ofElement, attribute?]
  dsimp only
  rw [List.find?_map]
  have hcomp : ((fun a : Attribute => decide (a.name = name)) ∘ fun x : QName × String => ⟨x.1.localName, .text x.2⟩) =
      fun x => decide (x.1.localName = name) := rfl
  rw [hcomp]
  cases attributes.find? fun x => decide (x.1.localName = name) with
  | none => rfl
  | some x => exact text?_text _ _

end Node

/-! ## Agreement -/

/-- The two views agree where the first name of the local part is the one that is read for the platform. -/
theorem Element.firstText?_eq {e : Element} {name : String} (h : QName.first? e.names name = QName.platform? e.names name) :
    e.firstText? name = e.platformText? name := by
  rw [firstText?, h, platformText?, androidAttribute?_eq]

/-- They agree whatever the values are in no other case: the first attribute can say something of its own. -/
theorem Element.agree_iff_first (tag : QName) (children : List Xml) (names : List QName) (name : String) :
    (∀ value, (withValues tag children names value).firstText? name = (withValues tag children names value).platformText? name) ↔
      QName.first? names name = QName.platform? names name := by
  constructor
  · intro h
    cases hf : QName.first? names name with
    | none => rw [QName.platform?_eq_none hf]
    | some q =>
      have hq := (QName.mem_of_first? hf).1
      specialize h fun x => if x = q then "first" else "other"
      rw [firstText?, platformText?, androidAttribute?_eq, names_withValues, hf, Option.bind_some,
        attribute?_withValues _ _ _ hq, if_pos rfl] at h
      cases hp : QName.platform? names name with
      | none =>
        rw [hp, Option.bind_none] at h
        exact absurd h (by decide)
      | some p =>
        rw [hp, Option.bind_some, attribute?_withValues _ _ _ (QName.mem_of_platform? hp).1] at h
        by_cases hpq : p = q
        · rw [hpq]
        · rw [if_neg hpq] at h
          exact absurd h (by decide)
  · intro h value
    exact firstText?_eq (by rwa [names_withValues])

/-! ## Declarations -/

/-- The element among the content. -/
def Xml.element? : Xml → Option Element
  | .element e => some e
  | .comment _ | .instruction _ _ => none

namespace Element

/-- The child elements of a local name, in whatever namespace. -/
def childrenCalled (e : Element) (tag : String) : List Element :=
  (e.children.filterMap Xml.element?).filter (·.tag.localName = tag)

/-- The first element of a manifest that is called `queries`, an element before those below it. -/
def firstQueries? (root : Element) : Option Element := (root :: root.descendants).find? (·.tag.localName = "queries")

/-- What a `queries` element declares, if attributes are read in a certain way. -/
def declares (read : Element → String → Option String) (q : Element) : Queries where
  packages := (q.childrenCalled "package").filterMap (read · "name")
  intents := ((q.childrenCalled "intent").flatMap (·.childrenCalled "action")).filterMap (read · "name")
  providers := (q.childrenCalled "provider").filterMap (read · "authorities")

/-- The elements that declare something, each with the attribute that does. -/
def declarers (q : Element) : List (Element × String) :=
  (q.childrenCalled "package").map (·, "name") ++
    ((q.childrenCalled "intent").flatMap (·.childrenCalled "action")).map (·, "name") ++
    (q.childrenCalled "provider").map (·, "authorities")

/-- What is declared is up to the attributes of the declaring elements. -/
theorem declares_congr {read read' : Element → String → Option String} {q : Element}
    (h : ∀ x ∈ q.declarers, read x.1 x.2 = read' x.1 x.2) : q.declares read = q.declares read' := by
  have hpackages : (q.childrenCalled "package").filterMap (read · "name") =
      (q.childrenCalled "package").filterMap (read' · "name") :=
    List.filterMap_congr fun e he => h (e, "name") (by simp [declarers, he])
  have hintents : ((q.childrenCalled "intent").flatMap (·.childrenCalled "action")).filterMap (read · "name") =
      ((q.childrenCalled "intent").flatMap (·.childrenCalled "action")).filterMap (read' · "name") :=
    List.filterMap_congr fun e he => h (e, "name") (by
      rw [List.mem_flatMap] at he
      simp [declarers, he])
  have hproviders : (q.childrenCalled "provider").filterMap (read · "authorities") =
      (q.childrenCalled "provider").filterMap (read' · "authorities") :=
    List.filterMap_congr fun e he => h (e, "authorities") (by simp [declarers, he])
  rw [declares, hpackages, hintents, hproviders, declares]

end Element

namespace Node

theorem ofContent_eq (content : List Xml) : ofContent content = (content.filterMap Xml.element?).map ofElement := by
  induction content with
  | nil => rfl
  | cons x content ih =>
    cases x with
    | element e =>
      rw [ofContent, ih]
      rfl
    | comment _ =>
      rw [ofContent, ih]
      rfl
    | instruction _ _ =>
      rw [ofContent, ih]
      rfl

theorem children_ofElement (e : Element) : (ofElement e).children = (e.children.filterMap Xml.element?).map ofElement := by
  obtain ⟨tag, attributes, children⟩ := e
  rw [ofElement, ofContent_eq]

theorem tag_ofElement (e : Element) : (ofElement e).tag = e.tag.localName := by
  obtain ⟨tag, attributes, children⟩ := e
  rfl

mutual

/-- The nodes of the tree are the elements of the manifest, in the same order. -/
theorem preorder_ofElement : ∀ e : Element, (ofElement e).preorder = (e :: e.descendants).map ofElement
  | ⟨tag, attributes, children⟩ => by
    rw [ofElement, preorder, Element.descendants, List.map_cons, preorderAmong_ofContent children, ofElement]

theorem preorderAmong_ofContent : ∀ content : List Xml,
    preorderAmong (ofContent content) = (Element.descendantsAmong content).map ofElement
  | [] => rfl
  | .element e :: rest => by
    rw [ofContent, preorderAmong, Element.descendantsAmong, preorder_ofElement e, preorderAmong_ofContent rest,
      List.map_cons, List.map_cons, List.map_append, List.cons_append]
  | .comment _ :: rest => by rw [ofContent, Element.descendantsAmong, preorderAmong_ofContent rest]
  | .instruction _ _ :: rest => by rw [ofContent, Element.descendantsAmong, preorderAmong_ofContent rest]

end

theorem filter_map_ofElement (es : List Element) (tag : String) :
    (es.map ofElement).filter (·.tag = tag) = (es.filter (·.tag.localName = tag)).map ofElement := by
  rw [List.filter_map]
  congr 1
  exact List.filter_congr fun e _ => by simp [tag_ofElement]

theorem filter_children_ofElement (e : Element) (tag : String) :
    (ofElement e).children.filter (·.tag = tag) = (e.childrenCalled tag).map ofElement := by
  rw [children_ofElement, filter_map_ofElement, Element.childrenCalled]

theorem childTexts_ofElement (e : Element) (tag name : String) :
    (ofElement e).childTexts tag name = (e.childrenCalled tag).filterMap (·.firstText? name) := by
  rw [childTexts, filter_children_ofElement, List.filterMap_map]
  exact List.filterMap_congr fun c _ => attribute?_ofElement c name

theorem findQueries_ofElement (root : Element) : (ofElement root).findQueries = root.firstQueries?.map ofElement := by
  rw [findQueries_eq_find?, preorder_ofElement, List.find?_map, Element.firstQueries?]
  congr 2
  funext e
  simp [tag_ofElement]

theorem declarations_ofElement (q : Element) : (ofElement q).declarations = q.declares Element.firstText? := by
  rw [declarations_eq, childTexts_ofElement, childTexts_ofElement, filter_children_ofElement, Element.declares,
    List.flatMap_map, List.filterMap_flatMap]
  simp only [childTexts_ofElement]

theorem queries_ofElement (root : Element) :
    (ofElement root).queries = (root.firstQueries?.map (·.declares Element.firstText?)).getD {} := by
  rw [queries, findQueries_ofElement]
  cases root.firstQueries? with
  | none => rfl
  | some q => simp [declarations_ofElement]

/-! ## Views -/

/-- In the tree an attribute has the value of the first attribute of its local name. Where that is the one that the
summary reads, the tree and the summary have one value, and where it is not, they need not. The declarations are read
from the first attributes, and so they are those of the platform where the platform's attributes stand first. -/
theorem attribute?_of_first :
    (∀ (e : Element) (name : String), (ofElement e).attribute? name = e.firstText? name) ∧
    (∀ (e : Element) (name : String), QName.first? e.names name = QName.platform? e.names name →
      (ofElement e).attribute? name = nonEmpty? (e.androidAttribute? name)) ∧
    (∀ (tag : QName) (children : List Xml) (names : List QName) (name : String),
      (∀ value, (ofElement (.withValues tag children names value)).attribute? name =
          nonEmpty? ((Element.withValues tag children names value).androidAttribute? name)) ↔
        QName.first? names name = QName.platform? names name) ∧
    (∀ root : Element, (ofElement root).queries = (root.firstQueries?.map (·.declares Element.firstText?)).getD {}) ∧
    ∀ root q : Element, root.firstQueries? = some q →
      (∀ x ∈ q.declarers, QName.first? x.1.names x.2 = QName.platform? x.1.names x.2) →
      (ofElement root).queries = q.declares Element.platformText? := by
  refine ⟨attribute?_ofElement, fun e name h => ?_, fun tag children names name => ?_, queries_ofElement, fun root q hq h => ?_⟩
  · rw [attribute?_ofElement]
    exact Element.firstText?_eq h
  · simp only [attribute?_ofElement]
    exact Element.agree_iff_first tag children names name
  · rw [queries_ofElement, hq, Option.map_some, Option.getD_some]
    exact Element.declares_congr fun x hx => Element.firstText?_eq (h x hx)

/-- A package with two names, one in a namespace of its own and one in the platform's. -/
def namedTwice (first second : QName) : Element where
  tag := .plain "package"
  attributes := [(first, "a"), (second, "b")]

/-- A manifest that declares such a package. -/
def declaring (package : Element) : Element where
  tag := .plain "manifest"
  children := [.comment "", .element { tag := .plain "queries", children := [.element package] }]

def foreignName : QName := ⟨some "urn:other", "name"⟩

/-- The platform's name stands first and is declared. -/
theorem attribute?_of_first_platform :
    (ofElement (namedTwice (.android "name") foreignName)).attribute? "name" =
        nonEmpty? ((namedTwice (.android "name") foreignName).androidAttribute? "name") ∧
      (ofElement (declaring (namedTwice (.android "name") foreignName))).queries = ⟨["a"], [], []⟩ := by
  obtain ⟨-, hagree, -, -, hdeclared⟩ := attribute?_of_first
  refine ⟨hagree _ _ (by decide), (hdeclared _ _ rfl ?_).trans (by decide)⟩
  intro x hx
  rw [List.mem_singleton.1 hx]
  decide

/-- Another name stands first: the tree has its value, and so has the declaration, but the summary has the platform's. -/
theorem attribute?_of_foreign :
    (ofElement (namedTwice foreignName (.android "name"))).attribute? "name" = some "a" ∧
      nonEmpty? ((namedTwice foreignName (.android "name")).androidAttribute? "name") = some "b" ∧
      (ofElement (declaring (namedTwice foreignName (.android "name")))).queries = ⟨["a"], [], []⟩ ∧
      (namedTwice foreignName (.android "name")).names.Nodup := by
  decide +kernel

end Node

end ApkReport
