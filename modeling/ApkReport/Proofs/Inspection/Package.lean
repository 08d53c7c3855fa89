/-
The inspection of one content at two paths. The paths get into texts alone: the inspections
come to the same result, or fail at the same stage for the same reason, and their messages
differ in the paths at most.
-/
import ApkReport.Inspection
import ApkReport.Proofs.Dex.Scan
import ApkReport.Proofs.Session.Coupling

namespace ApkReport

open Archive

/-- Sessions that log at one level, in which two paths lead to one content. -/
structure SameContent (p q : String) (s t : Session) : Prop where
  level : s.level = t.level
  left : FileSystem.hasNull p = false
  right : FileSystem.hasNull q = false
  content : ∃ content, s.files.read p = .ok content ∧ t.files.read q = .ok content

theorem SameContent.steady (p q : String) : Steady (SameContent p q) where
  level h := h.level
  append _ _ h := ⟨h.level, h.left, h.right, h.content⟩

/-- Readers of one file that differ in the paths that their messages show. -/
structure Archive.Reader.Alike (T : String → String → Prop) (r r' : Reader) : Prop where
  file : r.file = r'.file
  members : r.members = r'.members
  isOpen : r.isOpen = r'.isOpen
  path : T r.path r'.path

section Paths

variable {T : String → String → Prop} {P : Session → Session → Prop} {p q : String} (hT : Textual T)
include hT

/-! ## Archives -/

theorem openedFile_alike (hpath : T p q) (htext : T (pathText p) (pathText q)) (content : Bytes) :
    Outcome.Alike T (Reader.Alike T) (openedFile p content) (openedFile q content) := by
  unfold openedFile Reader.open?
  rcases readDirectory content with (f | tenths | e) | members
  · exact .error ⟨rfl, hT.append (hT.around hpath _ _) (hT.refl _)⟩
  · exact .error (.refl hT _)
  · exact .error (.refl hT _)
  · exact .ok ⟨rfl, rfl, rfl, htext⟩

theorem archiveAt_alike (hpath : T p q) (htext : T (pathText p) (pathText q)) {s t : Session} (h : SameContent p q s t) :
    Outcome.Alike T (Reader.Alike T) (archiveAt s.files p) (archiveAt t.files q) := by
  obtain ⟨content, hp, hq⟩ := h.content
  unfold archiveAt
  rw [h.left, h.right, hp, hq]
  exact openedFile_alike hT hpath htext content

theorem coupled_openArchive (hP : Steady P) (hpath : T p q)
    (h : ∀ s t, P s t → Outcome.Alike T (Reader.Alike T) (archiveAt s.files p) (archiveAt t.files q)) :
    Coupled P T (Reader.Alike T) (openArchive p) (openArchive q) := by
  intro s t hst
  have ha := h s t hst
  rw [on_openArchive, on_openArchive]
  rcases hs : archiveAt s.files p with e | r <;> rcases ht : archiveAt t.files q with f | r' <;> rw [hs, ht] at ha <;> cases ha
  case error.error he => exact ⟨[], [], s.append_nil.symm, t.append_nil.symm, .nil, .error he⟩
  case ok.ok hr =>
    refine ⟨_, _, rfl, rfl, ?_, .ok hr⟩
    unfold openedNote
    rw [hP.level hst, hr.members]
    exact noted_alike (hT.append (hT.append (hT.around hpath _ _) (hT.refl _)) (hT.refl _))

/-! ## Manifests -/

omit hT in
theorem coupled_ofManifest {α : Type} {V : α → α → Prop} {x y : Except ManifestFault α}
    (h : Outcome.Alike T V (x.mapError .manifest) (y.mapError .manifest)) :
    Coupled P T V (Run.ofManifest x) (Run.ofManifest y) := by
  rcases x with f | a <;> rcases y with g | b <;> cases h
  case error.error he => exact .throw he
  case ok.ok hv => exact .pure hv

theorem decode_alike (hpath : T p q) (decoder : Decoder) (content : Bytes) :
    Outcome.Alike T (· = ·) ((Package.decode decoder p content).mapError Failure.manifest)
      ((Package.decode decoder q content).mapError Failure.manifest) := by
  have hinvalid : Failure.Alike T (.manifest (.invalid p)) (.manifest (.invalid q)) :=
    ⟨rfl, hT.append (hT.refl _) hpath⟩
  unfold Package.decode
  cases decoder content with
  | error reason => exact .error ⟨rfl, hT.append (hT.around hpath _ _) (hT.refl _)⟩
  | ok package =>
    cases hvalid : package.isValid with
    | false =>
      simp only [hvalid]
      exact .error hinvalid
    | true =>
      simp only [hvalid]
      rcases hroot : package.askRoot 0 with f | root
      · exact .error (.refl hT _)
      · cases root with
        | none => exact .error hinvalid
        | some _ => exact .ok rfl

theorem coupled_openPackage (hP : Steady P) (hpath : T p q)
    (h : ∀ s t, P s t → Outcome.Alike T (Reader.Alike T) (archiveAt s.files p) (archiveAt t.files q)) (decoder : Decoder) :
    Coupled P T (· = ·) (openPackage decoder p) (openPackage decoder q) := by
  refine .bind hP (coupled_openArchive hT hP hpath h) fun r r' hr => ?_
  rw [hr.file]
  refine .bind hP (coupled_ofManifest (decode_alike hT hpath decoder r'.file)) fun package package' hpackage => ?_
  refine .bind hP (.note hP (hT.append (hT.refl _) hpath)) fun _ _ _ => .pure hpackage

theorem coupled_readManifest (hP : Steady P) (hpath : T p q)
    (h : ∀ s t, P s t → Outcome.Alike T (Reader.Alike T) (archiveAt s.files p) (archiveAt t.files q)) (decoder : Decoder) :
    Coupled P T (· = ·) (readManifest decoder p) (readManifest decoder q) := by
  refine .bind hP (coupled_openPackage hT hP hpath h decoder) fun package _ hpackage => ?_
  subst hpackage
  refine coupled_ofManifest ?_
  rcases (do return (← package.readSummary, ← package.readTree) : Except ManifestFault (ManifestSummary × Node)) with f | v
  · exact .error (.refl hT _)
  · exact .ok rfl

/-! ## Contents -/

theorem content_alike {r r' : Reader} (hr : Reader.Alike T r r') (m : Member) :
    Outcome.Alike T (· = ·) (r.content m) (r'.content m) := by
  have hopen : r.openStream m = r'.openStream m := by
    obtain ⟨path, file, members, isOpen⟩ := r
    obtain ⟨path', file', members', isOpen'⟩ := r'
    obtain ⟨rfl, rfl, rfl, -⟩ := hr
    rfl
  unfold Reader.content Reader.contentFrom
  rw [hopen]
  rcases r'.openStream m with f | stream
  · exact .error ⟨rfl, hT.append (hT.around hr.path _ _) (hT.refl _)⟩
  · dsimp only
    rcases stream.readAll with f | ⟨content, _⟩
    · dsimp only
      split
      · exact .error (.refl hT _)
      · exact .error ⟨rfl, hT.append (hT.around hr.path _ _) (hT.refl _)⟩
    · exact .ok rfl

/-- Reads that come to related answers yield the same labels, and the same warnings about related messages. -/
theorem coupled_collectLabels (hP : Steady P) {r r' : Reader} (hr : Reader.Alike T r r') (ms : List Member) :
    Coupled P T (· = ·) (Dex.collectLabels (ms.map fun m => (m, r.content m)))
      (Dex.collectLabels (ms.map fun m => (m, r'.content m))) := by
  induction ms with
  | nil => exact .pure rfl
  | cons m ms ih =>
    have hm := content_alike hT hr m
    rw [List.map_cons, List.map_cons]
    rcases hx : r.content m with e | content <;> rcases hy : r'.content m with f | content' <;> rw [hx, hy] at hm <;> cases hm
    case error.error he =>
      by_cases hk : f.kind = .stream
      · simp only [Dex.collectLabels, he.1, hk, ne_eq, not_true_eq_false, if_false]
        exact .bind hP (.note hP (hT.append (hT.refl _) he.2)) fun _ _ _ => ih
      · have hthrow : Coupled P T (· = ·) (throw e : Run PUnit) (throw f) := .throw he
        simp only [Dex.collectLabels, he.1, hk, ne_eq, not_false_eq_true, if_true]
        exact .bind hP hthrow fun _ _ _ => .bind hP (.note hP (hT.append (hT.refl _) he.2)) fun _ _ _ => ih
    case ok.ok hv =>
      subst hv
      simp only [Dex.collectLabels]
      exact .bind hP ih fun _ _ hl => .pure (congrArg _ hl)

theorem coupled_scan (hP : Steady P) (hpath : T p q)
    (h : ∀ s t, P s t → Outcome.Alike T (Reader.Alike T) (archiveAt s.files p) (archiveAt t.files q)) :
    Coupled P T (· = ·) (Dex.scan p) (Dex.scan q) := by
  simp only [Dex.scan, Dex.zip_gather_content]
  refine .bind hP (coupled_openArchive hT hP hpath h) fun r r' hr => ?_
  have hentries : r.allEntries = r'.allEntries := by
    unfold Reader.allEntries Reader.listing
    rw [hr.members]
  rw [hentries]
  refine .bind hP (.lift (.refl hT r'.allEntries)) fun entries _ he => ?_
  subst he
  refine .bind hP (coupled_collectLabels hT hP hr _) fun labels _ hl => ?_
  subst hl
  exact .bind hP (.note hP (hT.append (hT.append (hT.around hpath _ _) (hT.refl _)) (hT.refl _))) fun _ _ _ => .pure rfl

/-! ## Packages -/

/-- Results that differ in the path they carry at most. -/
def SameBut (first second : String) (r r' : InspectionResult) : Prop :=
  r = { r' with filePath := first } ∧ r'.filePath = second

omit hT in
/-- Under one path they do not differ. -/
theorem SameBut.eq {path : String} {r r' : InspectionResult} (h : SameBut path path r r') : r = r' := by
  obtain ⟨hr, hfile⟩ := h
  rw [hr, ← hfile]

/-- The inspection of a package at two paths, of which each is reported under its own. -/
theorem coupled_inspectPackage (hP : Steady P) (hpath : T p q)
    (h : ∀ s t, P s t → Outcome.Alike T (Reader.Alike T) (archiveAt s.files p) (archiveAt t.files q)) (decoder : Decoder)
    (first second : String) :
    Coupled P T (SameBut first second) (inspectPackage decoder p first) (inspectPackage decoder q second) := by
  refine .bind hP (coupled_readManifest hT hP hpath h decoder) fun views _ hviews => ?_
  subst hviews
  refine .bind hP (coupled_scan hT hP hpath h) fun apis _ hapis => ?_
  subst hapis
  exact .pure ⟨rfl, rfl⟩

theorem coupled_inspectionBlock (hP : Steady P) (hpath : T p q)
    (h : ∀ s t, P s t → Outcome.Alike T (Reader.Alike T) (archiveAt s.files p) (archiveAt t.files q)) (decoder : Decoder)
    (first second : String) :
    Coupled P T (SameBut first second) (inspectionBlock decoder first p) (inspectionBlock decoder second q) :=
  .bind hP (.note hP (hT.append (hT.refl _) hpath)) fun _ _ _ => coupled_inspectPackage hT hP hpath h decoder first second

end Paths

/-- An inspection leaves the files as they are. -/
theorem files_inspectPackage (decoder : Decoder) (path filePath : String) (s : Session) :
    ((inspectPackage decoder path filePath).on s).2.files = s.files := by
  have hT : Textual (· = ·) := ⟨fun _ => rfl, fun h h' => by rw [h, h']⟩
  have hP : Steady fun s t => s.level = t.level ∧ s.files = t.files := ⟨fun h => h.1, fun _ _ h => h⟩
  refine Coupled.files (coupled_inspectPackage hT hP rfl (fun s t h => ?_) decoder filePath filePath) ⟨rfl, rfl⟩
  rw [h.2]
  exact (Outcome.Alike.refl hT _).imp fun r _ hr => hr ▸ ⟨rfl, rfl, rfl, rfl⟩

end ApkReport
