/-
The tree of a manifest has the skeleton of its elements and nothing else. The outline of a
tree lists its nodes, each with its depth, its tag and its attributes and before those below
it; it determines the tree (`outline_injective`). The tree of an element has the outline of
the element itself, which passes over comments and instructions: so however many of these
are put in or taken out, the manifest reads the same.
-/
import ApkReport.Proofs.Manifest.Views
import Mathlib.Logic.Relation

namespace ApkReport

/-! ## Outlines -/

/-- A node as the outline of a tree shows it. -/
structure OutlineRow where
  depth : Nat
  tag : String
  attributes : List Attribute
  deriving DecidableEq, Repr

namespace Node

mutual

/-- The rows of a node that stands at a depth, and of all nodes below it. -/
def outline : Nat → Node → List OutlineRow
  | depth, ⟨tag, attributes, children⟩ => ⟨depth, tag, attributes⟩ :: outlineAmong (depth + 1) children

def outlineAmong : Nat → List Node → List OutlineRow
  | _, [] => []
  | depth, n :: rest => outline depth n ++ outlineAmong depth rest

end

end Node

namespace Element

mutual

/-- The rows of an element that stands at a depth, and of all elements below it: local names, and the values as they are. -/
def outline : Nat → Element → List OutlineRow
  | depth, ⟨tag, attributes, children⟩ =>
    ⟨depth, tag.localName, attributes.map fun (name, value) => ⟨name.localName, .text value⟩⟩ ::
      outlineAmong (depth + 1) children

def outlineAmong : Nat → List Xml → List OutlineRow
  | _, [] => []
  | depth, .element e :: rest => outline depth e ++ outlineAmong depth rest
  | depth, .comment _ :: rest => outlineAmong depth rest
  | depth, .instruction _ _ :: rest => outlineAmong depth rest

end

end Element

/-! ## Trees from outlines -/

namespace Node

/-- What follows the nodes of a depth in an outline: nothing, or a row further up. -/
def Returns (depth : Nat) (rows : List OutlineRow) : Prop := ∀ row ∈ rows.head?, row.depth < depth

theorem returns_nil (depth : Nat) : Returns depth [] := fun _ h => by simp at h

theorem Returns.succ {depth : Nat} {rows : List OutlineRow} (h : Returns depth rows) : Returns (depth + 1) rows :=
  fun row hrow => Nat.lt_succ_of_lt (h row hrow)

/-- The rows of siblings return from whatever is below the one before them. -/
theorem Returns.siblings {depth : Nat} {rows : List OutlineRow} (h : Returns depth rows) (ns : List Node) :
    Returns (depth + 1) (outlineAmong depth ns ++ rows) := by
  cases ns with
  | nil => exact h.succ
  | cons n ns =>
    obtain ⟨tag, attributes, children⟩ := n
    intro row hrow
    rw [outlineAmong, outline, List.cons_append, List.cons_append, List.head?_cons, Option.mem_some_iff] at hrow
    rw [← hrow]
    exact Nat.lt_succ_self depth

/-- Where siblings start, what returns does not. -/
theorem outlineAmong_cons_ne {depth : Nat} {rows rows' : List OutlineRow} (h : Returns depth rows) (n : Node) (ns : List Node) :
    rows ≠ outlineAmong depth (n :: ns) ++ rows' := by
  obtain ⟨tag, attributes, children⟩ := n
  rintro rfl
  have hfirst := h ⟨depth, tag, attributes⟩ (by simp [outlineAmong, outline])
  exact Nat.lt_irrefl depth hfirst

mutual

theorem outline_append_inj : ∀ {depth : Nat} {n m : Node} {rows rows' : List OutlineRow}, Returns (depth + 1) rows →
    Returns (depth + 1) rows' → outline depth n ++ rows = outline depth m ++ rows' → n = m ∧ rows = rows'
  | depth, ⟨tag, attributes, children⟩, ⟨tag', attributes', children'⟩, rows, rows', h, h', heq => by
    rw [outline, outline, List.cons_append, List.cons_append, List.cons.injEq] at heq
    obtain ⟨hrow, hbelow⟩ := heq
    obtain ⟨rfl, hrows⟩ := outlineAmong_append_inj h h' hbelow
    cases hrow
    exact ⟨rfl, hrows⟩

theorem outlineAmong_append_inj : ∀ {depth : Nat} {ns ms : List Node} {rows rows' : List OutlineRow}, Returns depth rows →
    Returns depth rows' → outlineAmong depth ns ++ rows = outlineAmong depth ms ++ rows' → ns = ms ∧ rows = rows'
  | _, [], [], _, _, _, _, heq => ⟨rfl, heq⟩
  | _, [], m :: ms, _, _, h, _, heq => absurd heq (outlineAmong_cons_ne h m ms)
  | _, n :: ns, [], _, _, _, h', heq => absurd heq.symm (outlineAmong_cons_ne h' n ns)
  | depth, n :: ns, m :: ms, rows, rows', h, h', heq => by
    rw [outlineAmong, outlineAmong, List.append_assoc, List.append_assoc] at heq
    obtain ⟨rfl, hrest⟩ := outline_append_inj (h.siblings ns) (h'.siblings ms) heq
    obtain ⟨rfl, hrows⟩ := outlineAmong_append_inj h h' hrest
    exact ⟨rfl, hrows⟩

end

/-- A tree can be told from its outline. -/
theorem outline_injective {depth : Nat} {n m : Node} (h : n.outline depth = m.outline depth) : n = m :=
  (outline_append_inj (returns_nil _) (returns_nil _) (congrArg (· ++ []) h)).1

/-! ## Trees of elements -/

mutual

theorem outline_ofElement : ∀ (depth : Nat) (e : Element), (ofElement e).outline depth = e.outline depth
  | depth, ⟨tag, attributes, children⟩ => by
    rw [ofElement, outline, Element.outline, outlineAmong_ofContent (depth + 1) children]

theorem outlineAmong_ofContent : ∀ (depth : Nat) (content : List Xml),
    outlineAmong depth (ofContent content) = Element.outlineAmong depth content
  | _, [] => rfl
  | depth, .element e :: rest => by
    rw [ofContent, outlineAmong, Element.outlineAmong, outline_ofElement depth e, outlineAmong_ofContent depth rest]
  | depth, .comment _ :: rest => by rw [ofContent, Element.outlineAmong, outlineAmong_ofContent depth rest]
  | depth, .instruction _ _ :: rest => by rw [ofContent, Element.outlineAmong, outlineAmong_ofContent depth rest]

end

end Node

/-! ## Comments and instructions -/

/-- One comment or instruction more among the content, or among that of an element below. -/
inductive Annotated : List Xml → List Xml → Prop
  | here (before after : List Xml) {x : Xml} :
    x.element? = none → Annotated (before ++ after) (before ++ x :: after)
  | within (before after : List Xml) (tag : QName) (attributes : List (QName × String)) {content content' : List Xml} :
    Annotated content content' →
    Annotated (before ++ .element ⟨tag, attributes, content⟩ :: after)
      (before ++ .element ⟨tag, attributes, content'⟩ :: after)

namespace Element

/-- One comment or instruction more somewhere below the element. -/
inductive Annotation : Element → Element → Prop
  | mk (tag : QName) (attributes : List (QName × String)) {content content' : List Xml} :
    Annotated content content' → Annotation ⟨tag, attributes, content⟩ ⟨tag, attributes, content'⟩

/-- The elements differ in comments and instructions, put in or taken out one by one. -/
def SameElements : Element → Element → Prop := Relation.EqvGen Annotation

theorem outlineAmong_append (depth : Nat) (content more : List Xml) :
    outlineAmong depth (content ++ more) = outlineAmong depth content ++ outlineAmong depth more := by
  induction content with
  | nil => rfl
  | cons x content ih =>
    cases x with
    | element e => rw [List.cons_append, outlineAmong, outlineAmong, ih, List.append_assoc]
    | comment _ => rw [List.cons_append, outlineAmong, outlineAmong, ih]
    | instruction _ _ => rw [List.cons_append, outlineAmong, outlineAmong, ih]

theorem outlineAmong_annotated {content content' : List Xml} (h : Annotated content content') (depth : Nat) :
    outlineAmong depth content' = outlineAmong depth content := by
  induction h generalizing depth with
  | @here before after x hx =>
    rw [outlineAmong_append, outlineAmong_append]
    cases x with
    | element e => cases hx
    | comment _ => rfl
    | instruction _ _ => rfl
  | within before after tag attributes _ ih =>
    rw [outlineAmong_append, outlineAmong_append, outlineAmong, outlineAmong, outline, outline, ih]

/-- One annotation more leaves the outline as it is. -/
theorem Annotation.outline_eq {e e' : Element} (h : Annotation e e') (depth : Nat) : e'.outline depth = e.outline depth := by
  obtain ⟨tag, attributes, hcontent⟩ := h
  rw [outline, outline, outlineAmong_annotated hcontent]

/-- What every annotation leaves as it is, any number of them does. -/
theorem SameElements.eq_of_annotation {α : Type} {f : Element → α} (hf : ∀ {e e'}, Annotation e e' → f e' = f e)
    {e e' : Element} (h : SameElements e e') : f e = f e' := by
  induction h with
  | rel _ _ h => exact (hf h).symm
  | refl _ => rfl
  | symm _ _ _ ih => exact ih.symm
  | trans _ _ _ _ _ ih ih' => exact ih.trans ih'

theorem SameElements.ofElement_eq {e e' : Element} (h : SameElements e e') : Node.ofElement e = Node.ofElement e' := by
  have houtline : e.outline 0 = e'.outline 0 := h.eq_of_annotation fun h => h.outline_eq 0
  rw [← Node.outline_ofElement, ← Node.outline_ofElement] at houtline
  exact Node.outline_injective houtline

/-! ## Summaries -/

/-- An element without what is below it. -/
def bare (e : Element) : Element := { e with children := [] }

/-- The child elements, each without what is below it. -/
def bareChildren (content : List Xml) : List Element := (content.filterMap Xml.element?).map bare

theorem bareChildren_annotated {content content' : List Xml} (h : Annotated content content') :
    bareChildren content' = bareChildren content := by
  unfold bareChildren
  cases h with
  | here before after hx => rw [List.filterMap_append, List.filterMap_cons_none hx, ← List.filterMap_append]
  | within before after tag attributes _ => simp [Xml.element?, bare]

theorem map_childrenNamed (e : Element) (name : QName) :
    (e.childrenNamed name).map bare = (bareChildren e.children).filter (·.tag = name) := by
  unfold childrenNamed bareChildren
  induction e.children with
  | nil => rfl
  | cons x content ih =>
    cases x with
    | element c => by_cases hc : c.tag = name <;> simp [Xml.element?, bare, hc, ih]
    | comment text => exact ih
    | instruction target text => exact ih

/-- What a summary takes from the children it does not take from below them. -/
theorem summary_eq (e : Element) (package : Option String) :
    e.summary package =
      { package := nonEmpty? (package.or (e.attribute? (.plain "package")))
        permissions := ((bareChildren e.children).filter (·.tag = .plain "uses-permission")).filterMap declaredName?
        features := ((bareChildren e.children).filter (·.tag = .plain "uses-feature")).filterMap fun c =>
          c.declaredName?.map fun name => ⟨name, c.isRequired⟩ } := by
  rw [← map_childrenNamed, ← map_childrenNamed, List.filterMap_map, List.filterMap_map]
  rfl

theorem Annotation.summary_eq {e e' : Element} (h : Annotation e e') (package : Option String) :
    e'.summary package = e.summary package := by
  obtain ⟨tag, attributes, hcontent⟩ := h
  rw [Element.summary_eq, Element.summary_eq, bareChildren_annotated hcontent]
  rfl

theorem SameElements.summary_eq {e e' : Element} (h : SameElements e e') (package : Option String) :
    e.summary package = e'.summary package :=
  h.eq_of_annotation fun h => h.summary_eq package

end Element

/-! ## Manifests -/

/-- The tree of an element has the skeleton of its elements: elements have the same tree exactly if their outlines are the
same. With comments and instructions put in or taken out, the tree, the summary and the declarations stay. -/
theorem ofElement_skeleton :
    (∀ e : Element, (Node.ofElement e).outline 0 = e.outline 0) ∧
    (∀ e e' : Element, Node.ofElement e = Node.ofElement e' ↔ e.outline 0 = e'.outline 0) ∧
    ∀ e e' : Element, e.SameElements e' →
      Node.ofElement e = Node.ofElement e' ∧ (∀ package, e.summary package = e'.summary package) ∧
        (Node.ofElement e).queries = (Node.ofElement e').queries := by
  refine ⟨Node.outline_ofElement 0, fun e e' => ?_, fun e e' h => ?_⟩
  · rw [← Node.outline_ofElement, ← Node.outline_ofElement]
    exact ⟨fun h => by rw [h], Node.outline_injective⟩
  · exact ⟨h.ofElement_eq, h.summary_eq, by rw [h.ofElement_eq]⟩

/-- A permission in a manifest that is full of comments. -/
def commentedManifest : Element where
  tag := .plain "manifest"
  children := [.comment "first", .element ⟨.plain "uses-permission", [(.android "name", "p")], [.instruction "a" "b"]⟩]

/-- The permission alone. -/
def silentManifest : Element where
  tag := .plain "manifest"
  children := [.element ⟨.plain "uses-permission", [(.android "name", "p")], []⟩]

/-- A comment before the permission and an instruction in it change nothing. -/
theorem ofElement_skeleton_commented :
    commentedManifest.SameElements silentManifest ∧ Node.ofElement commentedManifest = Node.ofElement silentManifest ∧
      (∀ package, commentedManifest.summary package = silentManifest.summary package) ∧
      (Node.ofElement commentedManifest).queries = (Node.ofElement silentManifest).queries := by
  have hinstruction : Annotated [] [.instruction "a" "b"] := .here [] [] rfl
  have hinner : Annotated silentManifest.children (commentedManifest.children.drop 1) := .within [] [] _ _ hinstruction
  have houter : Annotated (commentedManifest.children.drop 1) commentedManifest.children := .here [] _ rfl
  have hsame : commentedManifest.SameElements silentManifest :=
    .symm _ _ (.trans _ _ _ (.rel _ _ (.mk _ _ hinner)) (.rel _ _ (.mk _ _ houter)))
  exact ⟨hsame, ofElement_skeleton.2.2 _ _ hsame⟩

end ApkReport
