/-
Which member of a bundle is extracted, and where to. The first file of the right name is taken
if every member before it has a name, and whatever the member is called, its copy is the one file
that extraction touches (`extractBase_elsewhere`). Nothing but the member's own record and part
of the bundle matters to the copy, as long as the member is not refused as overlapping.
-/
import ApkReport.Proofs.Archive.Own
import ApkReport.Proofs.Archive.Written
import ApkReport.Proofs.Bundle.Extraction
import ApkReport.Proofs.FileSystem.Writing

namespace ApkReport

open Archive FileSystem

/-! ## Selection -/

/-- The member is a file that is called as a base package is. -/
def IsBase (m : Member) : Prop := IsFileName m.name ∧ isBaseEntry m.name = true

instance : DecidablePred IsBase := fun m => inferInstanceAs (Decidable (IsFileName m.name ∧ isBaseEntry m.name = true))

/-- The member is the first base package of a directory, and no member before it is nameless. -/
def IsFirstBase (ms : List Member) (m : Member) : Prop :=
  IsBase m ∧ ∃ before after, ms = before ++ m :: after ∧ ∀ x ∈ before, x.name ≠ "" ∧ ¬ IsBase x

theorem IsBase.name_ne {m : Member} (h : IsBase m) : m.name ≠ "" := by
  intro he
  have hbase := h.2
  rw [he] at hbase
  exact absurd hbase (by decide)

namespace Archive

theorem Listing.of_nameless {m : Member} (h : m.name = "") (ms : List Member) : Listing.of (m :: ms) = ⟨[], false⟩ := by
  simp [Listing.of, Member.isDirectory?, h]

/-- A member that is no base package is passed over. -/
theorem Listing.firstBase?_of_cons {m : Member} (hm : m.name ≠ "" ∧ ¬ IsBase m) (ms : List Member) :
    (Listing.of (m :: ms)).firstBase? = (Listing.of ms).firstBase? ∧
      (Listing.of (m :: ms)).isComplete = (Listing.of ms).isComplete := by
  obtain ⟨hname, hbase⟩ := hm
  have hne : m.name.toList ≠ [] := fun he => hname (String.toList_eq_nil_iff.1 he)
  obtain ⟨c, hc⟩ := Option.isSome_iff_exists.1 (List.getLast?_isSome.2 hne)
  simp only [Listing.of, Member.isDirectory?, hc, Option.map_some]
  by_cases hs : c = '/'
  · simp only [hs, decide_true, and_self]
  · have hfile : IsFileName m.name := by simp [IsFileName, hc, hs]
    have hother : isBaseEntry m.name = false := by
      rw [← Bool.not_eq_true]
      exact fun h => hbase ⟨hfile, h⟩
    simp [hs, Listing.firstBase?, hother]

theorem Listing.firstBase?_of_base {m : Member} (hm : IsBase m) (ms : List Member) :
    (Listing.of (m :: ms)).firstBase? = some m := by
  have hne : m.name.toList ≠ [] := fun he => hm.name_ne (String.toList_eq_nil_iff.1 he)
  obtain ⟨c, hc⟩ := Option.isSome_iff_exists.1 (List.getLast?_isSome.2 hne)
  have hs : c ≠ '/' := by
    rintro rfl
    exact hm.1 hc
  simp [Listing.of, Member.isDirectory?, hc, hs, Listing.firstBase?, hm.2]

theorem Listing.firstBase?_eq_some {ms : List Member} {m : Member} :
    (Listing.of ms).firstBase? = some m ↔ IsFirstBase ms m := by
  induction ms with
  | nil => simp [Listing.of, Listing.firstBase?, IsFirstBase]
  | cons x ms ih =>
    by_cases hx : x.name = ""
    · rw [Listing.of_nameless hx]
      constructor
      · exact fun h => absurd h (by simp [Listing.firstBase?])
      · rintro ⟨hm, before, after, he, hbefore⟩
        cases before with
        | nil => exact absurd hx ((List.cons.inj he).1 ▸ hm.name_ne)
        | cons y before => exact absurd hx ((List.cons.inj he).1 ▸ (hbefore y List.mem_cons_self).1)
    · by_cases hbase : IsBase x
      · rw [Listing.firstBase?_of_base hbase]
        constructor
        · rintro ⟨rfl⟩
          exact ⟨hbase, [], ms, rfl, fun y hy => absurd hy List.not_mem_nil⟩
        · rintro ⟨hm, before, after, he, hbefore⟩
          cases before with
          | nil => rw [(List.cons.inj he).1]
          | cons y before => exact absurd hbase ((List.cons.inj he).1 ▸ (hbefore y List.mem_cons_self).2)
      · rw [(Listing.firstBase?_of_cons ⟨hx, hbase⟩ ms).1, ih]
        constructor
        · rintro ⟨hm, before, after, rfl, hbefore⟩
          exact ⟨hm, x :: before, after, rfl, List.forall_mem_cons.2 ⟨⟨hx, hbase⟩, hbefore⟩⟩
        · rintro ⟨hm, before, after, he, hbefore⟩
          cases before with
          | nil => exact absurd hm ((List.cons.inj he).1 ▸ hbase)
          | cons y before => exact ⟨hm, before, after, (List.cons.inj he).2, fun z hz => hbefore z (List.mem_cons_of_mem y hz)⟩

theorem Listing.firstBase?_eq_none {ms : List Member} :
    (Listing.of ms).firstBase? = none ∧ (Listing.of ms).isComplete = true ↔ ∀ x ∈ ms, x.name ≠ "" ∧ ¬ IsBase x := by
  induction ms with
  | nil => simp [Listing.of, Listing.firstBase?]
  | cons x ms ih =>
    rw [List.forall_mem_cons]
    by_cases hx : x.name = ""
    · simp [Listing.of_nameless hx, hx]
    · by_cases hbase : IsBase x
      · simp [Listing.firstBase?_of_base hbase, hbase]
      · obtain ⟨hfirst, hcomplete⟩ := Listing.firstBase?_of_cons ⟨hx, hbase⟩ ms
        rw [hfirst, hcomplete, ih]
        exact ⟨fun h => ⟨⟨hx, hbase⟩, h⟩, And.right⟩

end Archive

/-! ## Kinds of failures -/

theorem kind_copyFailure (name bundle : String) (f : CopyFault) : (copyFailure name bundle f).kind ≠ .noBase := by
  cases f with
  | os e => exact nofun
  | member f => cases f <;> exact nofun

theorem kind_copyOutcome {blocked : Bool} {name bundle directory : String} {opened : Except Failure Stream} {f : Failure}
    (hopened : ∀ e, opened = .error e → e.kind ≠ .noBase)
    (h : (copyOutcome blocked name bundle directory opened).1 = .error f) : f.kind ≠ .noBase := by
  unfold copyOutcome at h
  cases opened with
  | error e =>
    cases h
    exact hopened _ rfl
  | ok stream =>
    cases blocked with
    | true =>
      cases h
      exact kind_copyFailure _ _ _
    | false =>
      rcases hc : copyStream (stream.left + 1) stream with ⟨bytes, _ | fault⟩
      · simp [hc] at h
      · simp only [hc, Bool.false_eq_true, if_false] at h
        cases h
        exact kind_copyFailure _ _ _

theorem kind_stream {r : Reader} {m : Member} {f : Failure} (h : r.stream m = .error f) : f.kind = .stream := by
  unfold Reader.stream at h
  cases ho : r.openStream m with
  | ok stream =>
    rw [ho] at h
    cases h
  | error e =>
    rw [ho] at h
    cases h
    rfl

/-! ## Extraction -/

theorem at?_withCopyAt {files : FileSystem} {p p' : Place} (h : p' ≠ p) (bytes? : Option Bytes) :
    (withCopyAt files p bytes?).at? p' = files.at? p' := by
  cases bytes? with
  | none => rfl
  | some bytes => exact at?_put_other h _

section Directory

variable {s : Session} {directory : String} {q : Place} (hp : s.files.place (pathText directory) = .ok q)
  (hq : s.files.at? q = some .directory)
include hp hq

/-- Whatever the names in the bundle are, nothing but the place of the copy is touched. -/
theorem extractBase_elsewhere (bundle : String) {p : Place} (hne : p ≠ basePlace q) :
    ((extractBase bundle directory).on s).2.files.at? p = s.files.at? p := by
  rw [on_extractBase_of_place hp hq]
  cases archiveAt s.files bundle with
  | error f => rfl
  | ok r =>
    dsimp only
    cases r.listing.firstBase? with
    | none => rfl
    | some m => exact at?_withCopyAt hne _

variable {bundle : String} {r : Reader} (hr : archiveAt s.files bundle = .ok r)
include hr

/-- That there is no base package is said of a bundle of which all members were seen. -/
theorem extractBase_noBase_iff :
    (∃ f, ((extractBase bundle directory).on s).1 = .error f ∧ f.kind = .noBase) ↔
      ∀ x ∈ r.members, x.name ≠ "" ∧ ¬ IsBase x := by
  rw [← Listing.firstBase?_eq_none, on_extractBase_of_place hp hq, hr, ← Reader.listing]
  dsimp only
  cases r.listing.firstBase? with
  | none => cases r.listing.isComplete <;> simp [Failure.kind]
  | some m =>
    refine ⟨?_, fun h => absurd h.1 (Option.some_ne_none m)⟩
    rintro ⟨f, hf, hkind⟩
    refine absurd hkind (kind_copyOutcome (fun e he => ?_) hf)
    rw [kind_stream he]
    decide

theorem extractBase_of_none (hnone : ∀ m, ¬ IsFirstBase r.members m) :
    (∃ f, ((extractBase bundle directory).on s).1 = .error f) ∧ ((extractBase bundle directory).on s).2.files = s.files := by
  rw [on_extractBase_of_place hp hq, hr]
  dsimp only
  cases hfirst : r.listing.firstBase? with
  | none => exact ⟨⟨_, rfl⟩, rfl⟩
  | some m => exact absurd (Listing.firstBase?_eq_some.1 hfirst) (hnone m)

theorem extractBase_of_first {m : Member} (hm : IsFirstBase r.members m) :
    let (outcome, bytes?) := copyOutcome (s.files.isDirectoryAt (basePlace q)) m.name bundle directory (r.stream m)
    ((extractBase bundle directory).on s).1 = outcome ∧
      ((extractBase bundle directory).on s).2.files = withCopyAt s.files (basePlace q) bytes? := by
  have hfirst : r.listing.firstBase? = some m := Listing.firstBase?_eq_some.2 hm
  rw [on_extractBase_of_place hp hq, hr]
  dsimp only
  rw [hfirst]
  exact ⟨rfl, rfl⟩

end Directory

/-- Two bundles at one path open the same base package alike, if it is refused as overlapping in both or in neither. -/
theorem stream_of_own {files files' : FileSystem} {bundle : String} {r r' : Reader} {m m' : Member}
    (hr : archiveAt files bundle = .ok r) (hr' : archiveAt files' bundle = .ok r') (hown : own r' m' = own r m)
    (hlap : Overlaps r' m' ↔ Overlaps r m) : r'.stream m' = r.stream m := by
  refine stream_congr hown ?_ ?_ hlap
  · rw [(of_archiveAt hr').1, (of_archiveAt hr).1]
  · rw [(of_archiveAt hr').2, (of_archiveAt hr).2]

/-- Extraction copies the first base package, and touches no place but that of the copy, whatever the names in the
bundle are. Nothing is written before the stream of the member is open. Unless the bundle itself stands in the place of the
copy, the outcome is the same for any other bundle with such a member, in any other session with such a directory, if the
overlap of neither member is refused, or that of both. -/
theorem extractBase_takes_first {s : Session} {directory : String} {q : Place}
    (hp : s.files.place (pathText directory) = .ok q) (hq : s.files.at? q = some .directory) (bundle : String) :
    let after := (extractBase bundle directory).on s
    (∀ p, p ≠ basePlace q → after.2.files.at? p = s.files.at? p) ∧
    (∀ f, archiveAt s.files bundle = .error f → after.1 = .error f ∧ after.2.files = s.files) ∧
    ∀ r, archiveAt s.files bundle = .ok r →
      ((∃ f, after.1 = .error f ∧ f.kind = .noBase) ↔ ∀ x ∈ r.members, x.name ≠ "" ∧ ¬ IsBase x) ∧
      ((∀ m, ¬ IsFirstBase r.members m) → (∃ f, after.1 = .error f) ∧ after.2.files = s.files) ∧
      ∀ m, IsFirstBase r.members m →
        (∀ f, r.stream m = .error f → after.1 = .error f ∧ after.2.files = s.files) ∧
        (s.files.place bundle ≠ .ok (basePlace q) → ∃ outcome bytes?,
          copyOutcome (s.files.isDirectoryAt (basePlace q)) m.name bundle directory (r.stream m) = (outcome, bytes?) ∧
          (after.1 = outcome ∧ after.2.files = withCopyAt s.files (basePlace q) bytes?) ∧
          ∀ s' q' r' m', s'.files.place (pathText directory) = .ok q' → s'.files.at? q' = some .directory →
            s'.files.place bundle ≠ .ok (basePlace q') →
            s'.files.isDirectoryAt (basePlace q') = s.files.isDirectoryAt (basePlace q) →
            archiveAt s'.files bundle = .ok r' → IsFirstBase r'.members m' → own r' m' = own r m →
            (Overlaps r' m' ↔ Overlaps r m) →
            ((extractBase bundle directory).on s').1 = outcome ∧
              ((extractBase bundle directory).on s').2.files = withCopyAt s'.files (basePlace q') bytes?) := by
  refine ⟨fun p => extractBase_elsewhere hp hq bundle, fun f hf => ?_, fun r hr => ⟨extractBase_noBase_iff hp hq hr,
    extractBase_of_none hp hq hr, fun m hm => ?_⟩⟩
  · rw [on_extractBase_of_place hp hq, hf]
    exact ⟨rfl, rfl⟩
  · have hhere := extractBase_of_first hp hq hr hm
    refine ⟨fun f hf => ?_, fun _ => ⟨_, _, (Prod.eta _).symm, hhere, ?_⟩⟩
    · rw [hf] at hhere
      exact hhere
    · intro s' q' r' m' hp' hq' _ hblocked hr' hm' hown hlap
      have hthere := extractBase_of_first hp' hq' hr' hm'
      have hname : m'.name = m.name := congrArg (·.1.name) hown
      rw [hblocked, hname, stream_of_own hr hr' hown hlap] at hthere
      exact hthere

/-- A session over a bundle, with a directory to extract into. -/
def sessionToExtract (file : Bytes) : Session where
  files := ⟨"/", [(["b.apkm"], .file file), (["out"], .directory)]⟩
  tempRoot := "/tmp"

/-- A bundle of one base package that is called after a directory above. -/
def parentBundle : Bytes := single "../base.apk" [1, 2, 3]

/-- The same base package between other members, one of them of the right name too. -/
def crowdedBundle : Bytes :=
  written (stored "x" [4] ++ stored "../base.apk" [1, 2, 3] ++ stored "base.apk" [5])
    [record "x" [4] 0, record "../base.apk" [1, 2, 3] (stored "x" [4]).length,
      record "base.apk" [5] (stored "x" [4] ++ stored "../base.apk" [1, 2, 3]).length]

/-- The first base package is extracted, into the directory all the same, and its outcome is that of the package alone. -/
theorem extractBase_takes_first_parent :
    ∃ outcome bytes?, outcome.toOption = some "/out/base.apk" ∧ bytes? = some [1, 2, 3] ∧
      (((extractBase "/b.apkm" "/out/").on (sessionToExtract crowdedBundle)).1 = outcome ∧
        ((extractBase "/b.apkm" "/out/").on (sessionToExtract crowdedBundle)).2.files =
          withCopyAt (sessionToExtract crowdedBundle).files ["out", "base.apk"] bytes?) ∧
      (((extractBase "/b.apkm" "/out/").on (sessionToExtract parentBundle)).1 = outcome ∧
        ((extractBase "/b.apkm" "/out/").on (sessionToExtract parentBundle)).2.files =
          withCopyAt (sessionToExtract parentBundle).files ["out", "base.apk"] bytes?) := by
  have hdecided : (archiveAt (sessionToExtract crowdedBundle).files "/b.apkm").toOption.any fun r =>
      (archiveAt (sessionToExtract parentBundle).files "/b.apkm").toOption.any fun r' =>
        r.listing.firstBase?.any fun m => r'.listing.firstBase?.any fun m' =>
          own r' m' = own r m ∧ ¬ Overlaps r' m' ∧ ¬ Overlaps r m ∧
            ((copyOutcome false m.name "/b.apkm" "/out/" (r.stream m)).1.toOption = some "/out/base.apk" ∧
              (copyOutcome false m.name "/b.apkm" "/out/" (r.stream m)).2 = some [1, 2, 3]) := by decide +kernel
  obtain ⟨r, hr, hdecided⟩ := exists_ok hdecided
  obtain ⟨r', hr', hdecided⟩ := exists_ok hdecided
  obtain ⟨m, hm, hdecided⟩ := (Option.any_eq_true _ _).1 hdecided
  obtain ⟨m', hm', hdecided⟩ := (Option.any_eq_true _ _).1 hdecided
  obtain ⟨hown, hfree', hfree, houtcome, hbytes⟩ := of_decide_eq_true hdecided
  have hplace : (sessionToExtract crowdedBundle).files.place (pathText "/out/") = .ok ["out"] := by decide +kernel
  obtain ⟨-, -, hopens⟩ := extractBase_takes_first hplace (by decide +kernel) "/b.apkm"
  obtain ⟨outcome, bytes?, hcopy, hhere, hothers⟩ :=
    ((hopens r hr).2.2 m (Listing.firstBase?_eq_some.1 hm)).2 (by decide +kernel)
  have hblocked : (sessionToExtract crowdedBundle).files.isDirectoryAt (basePlace ["out"]) = false := by decide +kernel
  rw [hblocked] at hcopy
  rw [hcopy] at houtcome hbytes
  exact ⟨outcome, bytes?, houtcome, hbytes, hhere, hothers (sessionToExtract parentBundle) ["out"] r' m' (by decide +kernel)
    (by decide +kernel) (by decide +kernel) (by decide +kernel) hr' (Listing.firstBase?_eq_some.1 hm') hown (by simp [hfree, hfree'])⟩

/-- The base package and a member that starts within its data. -/
def overlappedBundle : Bytes :=
  written (stored "base.apk" [1, 2, 3]) [record "base.apk" [1, 2, 3] 0, record "x" [] 1]

/-- A nameless member, and then the base package. -/
def namelessBundle : Bytes :=
  written (stored "base.apk" [1, 2, 3]) [record "" [] 0, record "base.apk" [1, 2, 3] 0]

/-- A member behind the base package can refuse it, and a nameless one before it hides it. -/
theorem extractBase_of_overlapped :
    ∃ r r' m m', archiveAt (sessionToExtract (single "base.apk" [1, 2, 3])).files "/b.apkm" = .ok r ∧
      archiveAt (sessionToExtract overlappedBundle).files "/b.apkm" = .ok r' ∧
      (r.members = [m] ∧ r'.members.head? = some m' ∧ IsBase m ∧ IsBase m' ∧ own r' m' = own r m) ∧
      ((extractBase "/b.apkm" "/out").on (sessionToExtract (single "base.apk" [1, 2, 3]))).1.toOption = some "/out/base.apk" ∧
      ((extractBase "/b.apkm" "/out").on (sessionToExtract overlappedBundle)).1.toOption = none ∧
      ((archiveAt (sessionToExtract namelessBundle).files "/b.apkm").toOption.any fun r => r.members.any fun m => IsBase m) ∧
      ((extractBase "/b.apkm" "/out").on (sessionToExtract namelessBundle)).1.toOption = none := by
  have hdecided : (archiveAt (sessionToExtract (single "base.apk" [1, 2, 3])).files "/b.apkm").toOption.any fun r =>
      (archiveAt (sessionToExtract overlappedBundle).files "/b.apkm").toOption.any fun r' =>
        r.members.head?.any fun m => r'.members.head?.any fun m' =>
          r.members = [m] ∧ IsBase m ∧ IsBase m' ∧ own r' m' = own r m := by decide +kernel
  obtain ⟨r, hr, hdecided⟩ := exists_ok hdecided
  obtain ⟨r', hr', hdecided⟩ := exists_ok hdecided
  obtain ⟨m, -, hdecided⟩ := (Option.any_eq_true _ _).1 hdecided
  obtain ⟨m', hm', hdecided⟩ := (Option.any_eq_true _ _).1 hdecided
  obtain ⟨hmembers, hbase, hbase', hown⟩ := of_decide_eq_true hdecided
  exact ⟨r, r', m, m', hr, hr', ⟨hmembers, hm', hbase, hbase', hown⟩, by decide +kernel, by decide +kernel, by decide +kernel,
    by decide +kernel⟩

end ApkReport
