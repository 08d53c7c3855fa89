/-
Only the first `queries` node of a manifest counts. The search finds the first node of that
tag in the listing that has a node before all that stands below it (`preorder`), and what is
declared is read off the direct children of that node, tag by tag. So trees with the same
first `queries` node declare the same, whatever else is in them.
-/
import ApkReport.Manifest.Queries

namespace ApkReport

theorem Attribute.text?_eq_some_iff {a : Attribute} {text : String} :
    a.text? = some text ↔ a.value ≠ .null ∧ a.value.display = text ∧ text ≠ "" := by
  unfold Attribute.text?
  split
  next hv => simp [hv]
  next hv =>
    split
    next he =>
      have hempty : a.value.display = "" := by simpa using he
      simp only [reduceCtorEq, false_iff]
      rintro ⟨-, rfl, hne⟩
      exact hne hempty
    next he =>
      have hfull : a.value.display ≠ "" := by simpa using he
      rw [Option.some.injEq]
      constructor
      · rintro rfl
        exact ⟨hv, rfl, hfull⟩
      · exact fun h => h.2.1

namespace Node

/-! ## Listing -/

mutual

/-- A node and all nodes below it, each before those below it and the children in their order. -/
def preorder : Node → List Node
  | ⟨tag, attributes, children⟩ => ⟨tag, attributes, children⟩ :: preorderAmong children

def preorderAmong : List Node → List Node
  | [] => []
  | n :: rest => preorder n ++ preorderAmong rest

end

/-- The node is the tree's root or stands somewhere below it. -/
inductive Within : Node → Node → Prop
  | here (n : Node) : Within n n
  | deeper {n child root : Node} : child ∈ root.children → Within n child → Within n root

theorem preorderAmong_eq (ns : List Node) : preorderAmong ns = ns.flatMap preorder := by
  induction ns with
  | nil => rfl
  | cons n rest ih => rw [preorderAmong, ih, List.flatMap_cons]

theorem preorder_eq (root : Node) : root.preorder = root :: root.children.flatMap preorder := by
  obtain ⟨tag, attributes, children⟩ := root
  rw [preorder, preorderAmong_eq]

theorem Within.mem_preorder {n root : Node} (h : Within n root) : n ∈ root.preorder := by
  induction h with
  | here =>
    rw [preorder_eq]
    exact List.mem_cons_self
  | deeper hchild _ ih =>
    rw [preorder_eq]
    exact List.mem_cons_of_mem _ (List.mem_flatMap.2 ⟨_, hchild, ih⟩)

mutual

theorem within_of_mem_preorder : ∀ {n root : Node}, n ∈ root.preorder → Within n root
  | n, ⟨tag, attributes, children⟩, h => by
    rw [preorder, List.mem_cons] at h
    rcases h with rfl | h
    · exact .here _
    · obtain ⟨child, hchild, hn⟩ := within_of_mem_preorderAmong h
      exact .deeper hchild hn

theorem within_of_mem_preorderAmong : ∀ {n : Node} {ns : List Node}, n ∈ preorderAmong ns → ∃ child ∈ ns, Within n child
  | _, [], h => absurd h List.not_mem_nil
  | n, first :: rest, h => by
    rw [preorderAmong, List.mem_append] at h
    rcases h with h | h
    · exact ⟨first, List.mem_cons_self, within_of_mem_preorder h⟩
    · obtain ⟨child, hchild, hn⟩ := within_of_mem_preorderAmong h
      exact ⟨child, List.mem_cons_of_mem _ hchild, hn⟩

end

/-- The listing holds the nodes of the tree. -/
theorem mem_preorder_iff {n root : Node} : n ∈ root.preorder ↔ Within n root :=
  ⟨within_of_mem_preorder, Within.mem_preorder⟩

/-! ## Search -/

mutual

theorem findQueries_eq_find? : ∀ root : Node, root.findQueries = root.preorder.find? (·.tag = "queries")
  | ⟨tag, attributes, children⟩ => by
    rw [findQueries, preorder]
    by_cases h : tag = "queries"
    · rw [if_pos h, List.find?_cons_of_pos (by simpa using h)]
    · rw [if_neg h, List.find?_cons_of_neg (by simpa using h), findQueriesAmong_eq_find?]

theorem findQueriesAmong_eq_find? :
    ∀ ns : List Node, findQueriesAmong ns = (preorderAmong ns).find? (·.tag = "queries")
  | [] => by rw [findQueriesAmong, preorderAmong, List.find?_nil]
  | n :: rest => by
    rw [findQueriesAmong, preorderAmong, List.find?_append, findQueries_eq_find? n, findQueriesAmong_eq_find? rest]

end

theorem findQueries_eq_none_iff {root : Node} :
    root.findQueries = none ↔ ∀ n, Within n root → n.tag ≠ "queries" := by
  rw [findQueries_eq_find?, List.find?_eq_none]
  simp only [mem_preorder_iff, decide_eq_true_eq, ne_eq]

/-! ## Declarations -/

/-- The first attribute of that name has that text, which is not empty. -/
def HasText (n : Node) (name text : String) : Prop :=
  ∃ before a after, n.attributes = before ++ a :: after ∧ (∀ b ∈ before, b.name ≠ name) ∧ a.name = name ∧
    a.value ≠ .null ∧ a.value.display = text ∧ text ≠ ""

/-- An attribute yields a text only from the first of its name. -/
theorem attribute?_eq_some_iff {n : Node} {name text : String} : n.attribute? name = some text ↔ n.HasText name text := by
  unfold attribute? HasText
  cases hf : n.attributes.find? (·.name = name) with
  | none =>
    rw [List.find?_eq_none] at hf
    simp only [reduceCtorEq, false_iff]
    rintro ⟨before, a, after, hsplit, -, ha, -⟩
    exact hf a (by simp [hsplit]) (by simpa using ha)
  | some a =>
    obtain ⟨ha, before, after, hsplit, hbefore⟩ := List.find?_eq_some_iff_append.1 hf
    have ha : a.name = name := by simpa using ha
    have hbefore : ∀ b ∈ before, b.name ≠ name := fun b hb => by simpa using hbefore b hb
    dsimp only
    rw [Attribute.text?_eq_some_iff]
    constructor
    · exact fun h => ⟨before, a, after, hsplit, hbefore, ha, h⟩
    · rintro ⟨before', a', after', hsplit', hbefore', ha', h⟩
      have hfirst : n.attributes.find? (·.name = name) = some a' :=
        List.find?_eq_some_iff_append.2 ⟨by simpa using ha', before', after', hsplit', fun b hb => by simpa using hbefore' b hb⟩
      obtain rfl : a = a' := Option.some.inj (hf.symm.trans hfirst)
      exact h

/-- The texts of an attribute on the direct children of a tag, in their order. -/
def childTexts (tag name : String) (n : Node) : List String :=
  (n.children.filter (·.tag = tag)).filterMap (·.attribute? name)

/-- What children declare adds to what was found before, list by list. -/
theorem foldl_addDeclaration (children : List Node) (found : Queries) :
    children.foldl addDeclaration found =
      { packages := found.packages ++ (children.filter (·.tag = "package")).filterMap (·.attribute? "name")
        intents := found.intents ++ (children.filter (·.tag = "intent")).flatMap (childTexts "action" "name")
        providers := found.providers ++ (children.filter (·.tag = "provider")).filterMap (·.attribute? "authorities") } := by
  induction children generalizing found with
  | nil => simp
  | cons child rest ih =>
    rw [List.foldl_cons, ih, addDeclaration]
    by_cases hpackage : child.tag = "package"
    · cases h : child.attribute? "name" <;> simp [hpackage, h]
    · by_cases hintent : child.tag = "intent"
      · simp [hintent, childTexts, attributeTexts, childrenByTag]
      · by_cases hprovider : child.tag = "provider"
        · cases h : child.attribute? "authorities" <;> simp [hprovider, h]
        · simp [hpackage, hintent, hprovider]

theorem declarations_eq (n : Node) :
    n.declarations =
      { packages := n.childTexts "package" "name"
        intents := (n.children.filter (·.tag = "intent")).flatMap (childTexts "action" "name")
        providers := n.childTexts "provider" "authorities" } := by
  rw [declarations, foldl_addDeclaration]
  rfl

/-! ## Manifests -/

/-- What a manifest declares is read off its first `queries` node, if it has one: the texts of its `package` children,
of the `action` children of its `intent` children, and of its `provider` children. Nothing else in the tree matters. -/
theorem queries_of_first (root : Node) :
    root.findQueries = root.preorder.find? (·.tag = "queries") ∧
    (root.findQueries = none ↔ ∀ n, Within n root → n.tag ≠ "queries") ∧
    (root.findQueries = none → root.queries = ⟨[], [], []⟩) ∧
    (∀ q, root.findQueries = some q →
      root.queries =
        { packages := q.childTexts "package" "name"
          intents := (q.children.filter (·.tag = "intent")).flatMap (childTexts "action" "name")
          providers := q.childTexts "provider" "authorities" }) ∧
    (∀ (n : Node) (name text : String), n.attribute? name = some text ↔ n.HasText name text) ∧
    ∀ other : Node, other.preorder.find? (·.tag = "queries") = root.preorder.find? (·.tag = "queries") →
      other.queries = root.queries := by
  refine ⟨findQueries_eq_find? root, findQueries_eq_none_iff, fun h => ?_, fun q h => ?_,
    fun _ _ _ => attribute?_eq_some_iff, fun other h => ?_⟩
  · rw [queries, h]
    rfl
  · rw [queries, h]
    exact declarations_eq q
  · rw [queries, queries, findQueries_eq_find?, h, findQueries_eq_find?]

/-- A `queries` node that names a package twice, an action, and two authorities in one text. -/
def sampleQueries : Node where
  tag := "queries"
  children := [
    { tag := "package", attributes := [⟨"name", .text "a"⟩] },
    { tag := "intent", children := [{ tag := "action", attributes := [⟨"name", .text "view"⟩, ⟨"name", .text "edit"⟩] }] },
    { tag := "package", attributes := [⟨"name", .text "a"⟩] },
    { tag := "provider", attributes := [⟨"authorities", .text "p;q"⟩] },
    { tag := "package", attributes := [⟨"name", .text ""⟩, ⟨"name", .text "b"⟩] }]

/-- The node alone in a manifest. -/
def plainManifest : Node := { tag := "manifest", children := [sampleQueries] }

/-- The node below another one, with a package beside it and a later `queries` node. -/
def crowdedManifest : Node where
  tag := "manifest"
  children := [
    { tag := "application", children := [{ tag := "package", attributes := [⟨"name", .text "c"⟩] }, sampleQueries] },
    { tag := "queries", children := [{ tag := "package", attributes := [⟨"name", .text "d"⟩] }] }]

/-- The two manifests declare the same. -/
theorem queries_of_first_crowded :
    crowdedManifest.queries = plainManifest.queries ∧ plainManifest.queries = ⟨["a", "a"], ["view"], ["p;q"]⟩ := by
  obtain ⟨-, -, -, -, -, hother⟩ := queries_of_first plainManifest
  exact ⟨hother crowdedManifest rfl, by decide +kernel⟩

end Node

end ApkReport
