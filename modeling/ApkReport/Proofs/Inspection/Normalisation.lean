/-
The lists of a result are those of its manifest, put in order: each is sorted, and is a
permutation of the list that the manifest was read into, so that duplicates stay and nothing
comes in. Features of one name keep their order. No text in a result is empty, since none of
the loops over a manifest lets an empty text through, whatever the manifest.
-/
import ApkReport.Inspection
import ApkReport.Proofs.Dex.Scan
import ApkReport.Proofs.Inspection.Transparency
import ApkReport.Proofs.Manifest.FirstQueries
import ApkReport.Proofs.Manifest.Reading

namespace ApkReport

/-! ## Sorting -/

/-- What stands under one key stays in its order. -/
theorem filter_mergeSort_key {α : Type} (key : α → String) (items : List α) (k : String) :
    (items.mergeSort fun a b => key a ≤ key b).filter (key · = k) = items.filter (key · = k) := by
  have hsub : (items.filter (key · = k)).Sublist (items.mergeSort fun a b => key a ≤ key b) := by
    refine List.sublist_mergeSort ?_ ?_ ?_ List.filter_sublist
    · intro a b c hab hbc
      simp only [decide_eq_true_eq] at *
      exact String.le_trans hab hbc
    · intro a b
      simp only [Bool.or_eq_true, decide_eq_true_eq]
      exact String.le_total _ _
    · refine List.pairwise_of_forall_mem_list fun a ha b hb => ?_
      simp only [List.mem_filter, decide_eq_true_eq] at ha hb ⊢
      have hkey : key a = key b := ha.2.trans hb.2.symm
      exact hkey ▸ String.le_refl (key a)
  have hkept := hsub.filter (key · = k)
  rw [List.filter_filter] at hkept
  simp only [Bool.and_self] at hkept
  exact (hkept.eq_of_length ((List.mergeSort_perm _ _).filter _).length_eq.symm).symm

/-- The texts of a source in code point order, each as often as it stands there. -/
structure Arranged (source texts : List String) : Prop where
  sorted : texts.Pairwise (· ≤ ·)
  perm : texts.Perm source

/-- The features of a source by name. Those of one name keep their order, and with it what each of them requires. -/
structure FeaturesArranged (source features : List Feature) : Prop where
  sorted : features.Pairwise (·.name ≤ ·.name)
  perm : features.Perm source
  stable : ∀ name, features.filter (·.name = name) = source.filter (·.name = name)

theorem arranged_sortTexts (texts : List String) : Arranged texts (sortTexts texts) :=
  ⟨Dex.pairwise_mergeSort_key id texts, List.mergeSort_perm _ _⟩

theorem arranged_sortFeatures (features : List Feature) : FeaturesArranged features (sortFeatures features) where
  sorted := Dex.pairwise_mergeSort_key Feature.name features
  perm := List.mergeSort_perm _ _
  stable := filter_mergeSort_key Feature.name features

/-! ## Texts of a manifest -/

theorem nonEmpty?_eq_some {s : Option String} {text : String} : nonEmpty? s = some text ↔ s = some text ∧ text ≠ "" := by
  simp [nonEmpty?, Option.filter_eq_some_iff]

namespace Element

variable (manifest : Element)

/-- Only a text that is not empty is a name. -/
theorem declaredName?_ne_empty {e : Element} {name : String} (h : e.declaredName? = some name) : name ≠ "" :=
  (nonEmpty?_eq_some.1 h).2

theorem ne_empty_of_mem_permissions {name : String} (h : name ∈ manifest.permissions) : name ≠ "" := by
  obtain ⟨e, -, he⟩ := List.mem_filterMap.1 h
  exact declaredName?_ne_empty he

theorem ne_empty_of_mem_features {f : Feature} (h : f ∈ manifest.features) : f.name ≠ "" := by
  obtain ⟨e, -, he⟩ := List.mem_filterMap.1 h
  obtain ⟨name, hname, rfl⟩ := Option.map_eq_some_iff.1 he
  exact declaredName?_ne_empty hname

theorem package_summary_ne_empty (package : Option String) : (manifest.summary package).package ≠ some "" :=
  fun h => (nonEmpty?_eq_some.1 h).2 rfl

end Element

namespace Node

theorem ne_empty_of_attribute? {n : Node} {name text : String} (h : n.attribute? name = some text) : text ≠ "" := by
  obtain ⟨-, -, -, -, -, -, -, -, hne⟩ := attribute?_eq_some_iff.1 h
  exact hne

theorem ne_empty_of_mem_childTexts {n : Node} {tag name text : String} (h : text ∈ n.childTexts tag name) : text ≠ "" := by
  obtain ⟨child, -, hchild⟩ := List.mem_filterMap.1 h
  exact ne_empty_of_attribute? hchild

/-- No tree declares an empty text. -/
theorem ne_empty_of_mem_queries (root : Node) :
    (∀ text ∈ root.queries.packages, text ≠ "") ∧ (∀ text ∈ root.queries.intents, text ≠ "") ∧
      ∀ text ∈ root.queries.providers, text ≠ "" := by
  rw [queries]
  cases root.findQueries with
  | none =>
    have hnil : ∀ text ∈ ([] : List String), text ≠ "" := fun _ h => absurd h List.not_mem_nil
    exact ⟨hnil, hnil, hnil⟩
  | some q =>
    rw [Option.map_some, Option.getD_some, declarations_eq]
    refine ⟨fun _ h => ne_empty_of_mem_childTexts h, fun text h => ?_, fun _ h => ne_empty_of_mem_childTexts h⟩
    obtain ⟨intent, -, htext⟩ := List.mem_flatMap.1 h
    exact ne_empty_of_mem_childTexts htext

end Node

/-! ## Labels of a scan -/

namespace Dex

theorem mem_catalog_of_collected {answers : List Answer} {labels : List String} (h : collected answers = .ok labels) :
    ∀ label ∈ labels, ∃ api ∈ catalog, api.label = label := by
  induction answers generalizing labels with
  | nil =>
    cases h
    exact fun _ hl => absurd hl List.not_mem_nil
  | cons a rest ih =>
    obtain ⟨name, e | content⟩ := a
    · rw [collected] at h
      split at h
      · exact ih h
      · cases h
    · rw [collected] at h
      cases hrest : collected rest with
      | error e =>
        rw [hrest] at h
        cases h
      | ok later =>
        rw [hrest] at h
        cases h
        intro label hl
        rcases List.mem_append.1 hl with hl | hl
        · obtain ⟨api, hapi, rfl⟩ := List.mem_map.1 hl
          exact ⟨api, (List.mem_filter.1 hapi).1, rfl⟩
        · exact ih hrest label hl

/-- A scan that succeeds has no label but those of the catalog, in order and each once. -/
theorem labels_of_scan {path : String} {s t : Session} {labels : List String} (h : (scan path).on s = (.ok labels, t)) :
    labels.Pairwise (· < ·) ∧ ∀ label ∈ labels, ∃ api ∈ catalog, api.label = label := by
  obtain ⟨r, _, -, h⟩ := Run.on_bind_eq_ok.1 h
  obtain ⟨entries, _, -, h⟩ := Run.on_bind_eq_ok.1 h
  obtain ⟨found, _, hfound, h⟩ := Run.on_bind_eq_ok.1 h
  obtain ⟨_, _, -, h⟩ := Run.on_bind_eq_ok.1 h
  cases h
  rw [on_collectLabels] at hfound
  refine ⟨sortedLabels_pairwise found, fun label hl => ?_⟩
  exact mem_catalog_of_collected (Prod.ext_iff.1 hfound).1 label (mem_sortedLabels.1 hl)

end Dex

/-! ## Results -/

/-- The result of an inspection with the two views of the manifest that it was made of. -/
structure NormalisedFrom (summary : ManifestSummary) (queries : Queries) (r : InspectionResult) : Prop where
  packageName : r.packageName = summary.package
  permissions : Arranged summary.permissions r.permissions
  features : FeaturesArranged summary.features r.features
  queriedPackages : Arranged queries.packages r.queriedPackages
  queriedIntents : Arranged queries.intents r.queriedIntents
  queriedProviders : Arranged queries.providers r.queriedProviders

/-- The labels come from the catalog, in order and each once, and no text is empty. -/
structure InspectionResult.IsClean (r : InspectionResult) : Prop where
  apisSorted : r.hardwareApis.Pairwise (· < ·)
  apisKnown : ∀ label ∈ r.hardwareApis, ∃ api ∈ Dex.catalog, api.label = label
  permissions : ∀ name ∈ r.permissions, name ≠ ""
  features : ∀ f ∈ r.features, f.name ≠ ""
  queriedPackages : ∀ name ∈ r.queriedPackages, name ≠ ""
  queriedIntents : ∀ name ∈ r.queriedIntents, name ≠ ""
  queriedProviders : ∀ name ∈ r.queriedProviders, name ≠ ""
  packageName : r.packageName ≠ some ""

/-- An inspection that succeeds has read both views of the manifest, the summary of one root and the declarations of
another, and its result is made of them: nothing is lost and nothing is invented. -/
theorem inspectPackage_normalised {decoder : Decoder} {path filePath : String} {s : Session} {r : InspectionResult}
    (h : ((inspectPackage decoder path filePath).on s).1 = .ok r) :
    ∃ reader p second name third, Archive.archiveAt s.files path = .ok reader ∧ decoder reader.file = .ok p ∧
      p.Answers second name third ∧
      ((readManifest decoder path).on s).1 = .ok (second.summary (nonEmpty? name), .ofElement third) ∧
      NormalisedFrom (second.summary (nonEmpty? name)) (Node.ofElement third).queries r ∧ r.IsClean := by
  obtain ⟨⟨summary, tree⟩, t, hread, hrest⟩ := Run.on_bind_eq_ok.1 (Prod.ext h rfl)
  obtain ⟨apis, u, hscan, hrest⟩ := Run.on_bind_eq_ok.1 hrest
  cases hrest
  obtain ⟨hsorted, hknown⟩ := Dex.labels_of_scan hscan
  cases hopen : Archive.archiveAt s.files path with
  | error f =>
    rw [readManifest, openPackage] at hread
    rw [Run.on_bind_error (Run.on_bind_error (Archive.openArchive_error hopen) _)] at hread
    cases hread
  | ok reader =>
    have hviews := outcome_readManifest decoder hopen
    rw [hread] at hviews
    obtain ⟨p, second, name, third, hdecoded, hanswers, rfl, rfl⟩ :=
      Package.readViews_eq_ok.1 (mapError_eq_ok_iff.1 hviews.symm)
    obtain ⟨hpackages, hintents, hproviders⟩ := (Node.ofElement third).ne_empty_of_mem_queries
    refine ⟨reader, p, second, name, third, rfl, hdecoded, hanswers, by rw [hread], ?_, ?_⟩
    · exact ⟨rfl, arranged_sortTexts _, arranged_sortFeatures _, arranged_sortTexts _, arranged_sortTexts _,
        arranged_sortTexts _⟩
    · refine ⟨hsorted, hknown, fun _ hm => ?_, fun _ hm => ?_, fun _ hm => ?_, fun _ hm => ?_, fun _ hm => ?_, ?_⟩
      · exact second.ne_empty_of_mem_permissions (List.mem_mergeSort.1 hm)
      · exact second.ne_empty_of_mem_features (List.mem_mergeSort.1 hm)
      · exact hpackages _ (List.mem_mergeSort.1 hm)
      · exact hintents _ (List.mem_mergeSort.1 hm)
      · exact hproviders _ (List.mem_mergeSort.1 hm)
      · exact second.package_summary_ne_empty _

/-- A manifest in no order: a permission twice and one without a name, a feature twice, and packages that may be seen. -/
def unsortedManifest : Element where
  tag := .plain "manifest"
  children :=
    let named (tag name : String) (more : List (QName × String)) : Xml :=
      .element { tag := .plain tag, attributes := (.android "name", name) :: more }
    [named "uses-permission" "b" [], named "uses-permission" "" [], named "uses-permission" "a" [],
      named "uses-permission" "b" [], named "uses-feature" "f" [], named "uses-feature" "e" [],
      named "uses-feature" "f" [(.android "required", "False")],
      .element { tag := .plain "queries", children := [named "package" "q" [], named "package" "p" []] }]

def unsortedPackage : Package := ⟨true, fun _ => .ok (some unsortedManifest), .ok (some "")⟩

/-- The result has both permissions of one name, and both features of one name as they stand in the manifest. -/
theorem inspectPackage_normalised_unsorted :
    ∃ r, ((inspectPackage (fun _ => .ok unsortedPackage) "/p.apk" "p").on packageSession).1 = .ok r ∧
      NormalisedFrom { permissions := ["b", "a", "b"], features := [⟨"f", true⟩, ⟨"e", true⟩, ⟨"f", false⟩] }
        { packages := ["q", "p"] } r ∧
      r.features.filter (·.name = "f") = [⟨"f", true⟩, ⟨"f", false⟩] ∧ r.IsClean := by
  have hdecided : ((inspectPackage (fun _ => .ok unsortedPackage) "/p.apk" "p").on packageSession).1.toOption.any
      fun _ => true := by decide +kernel
  obtain ⟨r, h, -⟩ := exists_ok hdecided
  obtain ⟨reader, p, second, name, third, -, hdecoded, hanswers, -, hmade, hclean⟩ := inspectPackage_normalised h
  cases hdecoded
  cases hanswers.second
  cases hanswers.name
  cases hanswers.third
  have hsummary : unsortedManifest.summary (nonEmpty? (some "")) =
      { permissions := ["b", "a", "b"], features := [⟨"f", true⟩, ⟨"e", true⟩, ⟨"f", false⟩] } := by decide +kernel
  have hqueries : (Node.ofElement unsortedManifest).queries = { packages := ["q", "p"] } := by decide +kernel
  rw [hsummary, hqueries] at hmade
  exact ⟨r, h, hmade, (hmade.features.stable "f").trans (by decide), hclean⟩

end ApkReport
