/-
Reading the manifest of a package asks it in turn whether it is valid, for the root, for the root
again, for its name, and for the root once more. Whatever it answers each time, both views are read
if every answer is there, the summary from the second root and the tree from the third; else the
whole fails, as a failure of the manifest.
-/
import ApkReport.Manifest.Package
import ApkReport.Proofs.Archive.Opening
import ApkReport.Proofs.Archive.Written

namespace ApkReport

open Archive

namespace Package

variable {p : Package} {decoder : Decoder} {path : String} {content : Bytes}

/-! ## Questions -/

theorem askRoot_eq_ok {before : Nat} {root : Option Element} : p.askRoot before = .ok root ↔ p.root before = .ok root :=
  mapError_eq_ok_iff

theorem requireRoot_eq_ok {before : Nat} {root : Element} : p.requireRoot before = .ok root ↔ p.root before = .ok (some root) := by
  rw [requireRoot, bind_eq_ok_iff]
  simp only [askRoot_eq_ok]
  constructor
  · rintro ⟨_ | found, hasked, hfound⟩
    · cases hfound
    · cases hfound
      exact hasked
  · exact fun h => ⟨_, h, rfl⟩

/-- A decoded package is valid, and has a root when it is asked first. -/
theorem decode_eq_ok :
    decode decoder path content = .ok p ↔ decoder content = .ok p ∧ p.isValid = true ∧ ∃ root, p.root 0 = .ok (some root) := by
  unfold decode
  cases decoder content with
  | error reason => simp
  | ok q =>
    dsimp only
    cases hvalid : q.isValid with
    | false =>
      constructor
      · intro h
        cases h
      · rintro ⟨hq, hp, -⟩
        cases hq
        rw [hvalid] at hp
        cases hp
    | true =>
      constructor
      · intro h
        obtain ⟨root, hroot, h⟩ := bind_eq_ok_iff.1 h
        cases root with
        | none => cases h
        | some root =>
          cases h
          exact ⟨rfl, hvalid, root, askRoot_eq_ok.1 hroot⟩
      · rintro ⟨hq, -, root, hroot⟩
        cases hq
        exact bind_eq_ok_iff.2 ⟨_, askRoot_eq_ok.2 hroot, rfl⟩

theorem readSummary_eq_ok {summary : ManifestSummary} :
    p.readSummary = .ok summary ↔
      ∃ root name, p.root 1 = .ok (some root) ∧ p.packageName = .ok name ∧ summary = root.summary (nonEmpty? name) := by
  simp only [readSummary, bind_eq_ok_iff, requireRoot_eq_ok]
  constructor
  · rintro ⟨root, hroot, name, hname, h⟩
    cases hp : p.packageName with
    | error reason =>
      rw [hp] at hname
      cases hname
    | ok answer =>
      rw [hp] at hname
      cases hname
      cases h
      exact ⟨root, _, hroot, rfl, rfl⟩
  · rintro ⟨root, name, hroot, hname, rfl⟩
    exact ⟨root, hroot, name, by rw [hname]; rfl, rfl⟩

theorem readTree_eq_ok {tree : Node} : p.readTree = .ok tree ↔ ∃ root, p.root 2 = .ok (some root) ∧ tree = .ofElement root := by
  simp only [readTree, bind_eq_ok_iff, requireRoot_eq_ok]
  constructor
  · rintro ⟨root, hroot, h⟩
    cases h
    exact ⟨root, hroot, rfl⟩
  · rintro ⟨root, hroot, rfl⟩
    exact ⟨root, hroot, rfl⟩

/-! ## Answers -/

/-- The package is valid and has an answer to each question, the last two roots and the name among them. -/
structure Answers (p : Package) (second : Element) (name : Option String) (third : Element) : Prop where
  valid : p.isValid = true
  first : ∃ root, p.root 0 = .ok (some root)
  second : p.root 1 = .ok (some second)
  name : p.packageName = .ok name
  third : p.root 2 = .ok (some third)

/-- The summary of a root, for a package that gives its own name: that name if there is one and it is not empty, else the
attribute of the root. -/
theorem summary_nonEmpty? (root : Element) (name : Option String) :
    root.summary (nonEmpty? name) =
      { package := (nonEmpty? name).or (nonEmpty? (root.attribute? (.plain "package")))
        permissions := root.permissions
        features := root.features } := by
  rw [Element.summary]
  congr 1
  cases name with
  | none => rfl
  | some name => cases h : name.isEmpty <;> simp [nonEmpty?, Option.filter, h]

/-- Both views of the package that a content is decoded to. -/
def readViews (decoder : Decoder) (path : String) (content : Bytes) : Except ManifestFault (ManifestSummary × Node) := do
  let p ← decode decoder path content
  return (← p.readSummary, ← p.readTree)

theorem readViews_eq_ok {summary : ManifestSummary} {tree : Node} :
    readViews decoder path content = .ok (summary, tree) ↔
      ∃ p second name third, decoder content = .ok p ∧ p.Answers second name third ∧
        summary = second.summary (nonEmpty? name) ∧ tree = .ofElement third := by
  simp only [readViews, bind_eq_ok_iff, decode_eq_ok, readSummary_eq_ok, readTree_eq_ok]
  constructor
  · rintro ⟨p, ⟨hdecoded, hvalid, hfirst⟩, _, ⟨second, name, hsecond, hname, rfl⟩, _, ⟨third, hthird, rfl⟩, h⟩
    cases h
    exact ⟨p, second, name, third, hdecoded, ⟨hvalid, hfirst, hsecond, hname, hthird⟩, rfl, rfl⟩
  · rintro ⟨p, second, name, third, hdecoded, h, rfl, rfl⟩
    exact ⟨p, ⟨hdecoded, h.valid, h.first⟩, _, ⟨second, name, h.second, h.name, rfl⟩, _, ⟨third, h.third, rfl⟩, rfl⟩

end Package

/-- Once the archive opens, reading its manifest comes to what its content comes to. -/
theorem outcome_readManifest (decoder : Decoder) {s : Session} {path : String} {r : Reader} (h : archiveAt s.files path = .ok r) :
    ((readManifest decoder path).on s).1 = (Package.readViews decoder path r.file).mapError .manifest := by
  have houtcome : ∀ {α : Type} (x : Except ManifestFault α) (t : Session), (Run.ofManifest x).on t = (x.mapError .manifest, t) := by
    intro α x t
    cases x <;> rfl
  rw [readManifest, openPackage, Run.on_bind, Run.on_bind_ok (openArchive_ok h), Run.on_bind, houtcome, Package.readViews]
  cases Package.decode decoder path r.file with
  | error f => rfl
  | ok p =>
    have hok : (Except.ok p : Except ManifestFault Package).mapError Failure.manifest = .ok p := rfl
    simp only [hok, Run.on_bind, Run.on_note, Run.on_pure, houtcome]
    rfl

/-- Once the archive opens, both views are read exactly if the package has all answers, and they are those of the answers;
in every other case the reading fails, as a failure of the manifest. -/
theorem readManifest_all_or_nothing {s : Session} {path : String} {r : Reader} (h : archiveAt s.files path = .ok r)
    (decoder : Decoder) :
    (∀ summary tree, ((readManifest decoder path).on s).1 = .ok (summary, tree) ↔
      ∃ p second name third, decoder r.file = .ok p ∧ p.Answers second name third ∧ tree = .ofElement third ∧
        summary = { package := (nonEmpty? name).or (nonEmpty? (second.attribute? (.plain "package")))
                    permissions := second.permissions
                    features := second.features }) ∧
    ((¬ ∃ p second name third, decoder r.file = .ok p ∧ p.Answers second name third) →
      ∃ f, ((readManifest decoder path).on s).1 = .error (.manifest f)) := by
  rw [outcome_readManifest decoder h]
  constructor
  · intro summary tree
    rw [mapError_eq_ok_iff, Package.readViews_eq_ok]
    simp only [Package.summary_nonEmpty?]
    constructor
    · rintro ⟨p, second, name, third, hdecoded, hanswers, hsummary, htree⟩
      exact ⟨p, second, name, third, hdecoded, hanswers, htree, hsummary⟩
    · rintro ⟨p, second, name, third, hdecoded, hanswers, htree, hsummary⟩
      exact ⟨p, second, name, third, hdecoded, hanswers, hsummary, htree⟩
  · intro hnone
    cases hviews : Package.readViews decoder path r.file with
    | error f => exact ⟨f, rfl⟩
    | ok views =>
      obtain ⟨p, second, name, third, hdecoded, hanswers, -⟩ := Package.readViews_eq_ok.1 hviews
      exact absurd ⟨p, second, name, third, hdecoded, hanswers⟩ hnone

/-- A package that is asked for its root gives another one each time, and from the fourth time on none. -/
def changingPackage : Package where
  isValid := true
  root
    | 0 => .ok (some { tag := .plain "first" })
    | 1 => .ok (some { tag := .plain "second", attributes := [(.android "package", "a"), (.plain "package", "p")] })
    | 2 => .ok (some { tag := .plain "third" })
    | _ => .ok none
  packageName := .ok (some "")

/-- The archive opens, and its package has answers; with the third root missing it has none. -/
theorem readManifest_all_or_nothing_changing :
    ∃ r, archiveAt (sessionOver (written [] [])).files "/a.apk" = .ok r ∧
      ((readManifest (fun _ => .ok changingPackage) "/a.apk").on (sessionOver (written [] []))).1 =
        .ok ({ package := some "p" }, { tag := "third" }) ∧
      ∃ f, ((readManifest (fun _ => .ok { changingPackage with root := fun n => changingPackage.root (n + 1) }) "/a.apk").on
        (sessionOver (written [] []))).1 = .error (.manifest f) := by
  have hdecided : (archiveAt (sessionOver (written [] [])).files "/a.apk").toOption.any fun _ => true := by decide +kernel
  obtain ⟨r, hopen, -⟩ := exists_ok hdecided
  refine ⟨r, hopen, ?_, ?_⟩
  · refine ((readManifest_all_or_nothing hopen _).1 _ _).2 ⟨changingPackage, _, _, _, rfl, ⟨rfl, ⟨_, rfl⟩, rfl, rfl, rfl⟩, ?_, ?_⟩
    · rfl
    · decide
  · refine (readManifest_all_or_nothing hopen _).2 ?_
    rintro ⟨p, second, name, third, hdecoded, hanswers⟩
    cases hdecoded
    exact absurd hanswers.third (by simp [changingPackage])

end ApkReport
