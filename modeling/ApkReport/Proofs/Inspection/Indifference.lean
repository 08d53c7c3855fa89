/-
What an inspection comes to is up to the file. How much is logged makes no difference, as no
operation heeds the log; nor does the name of the temporary directory, as what an extraction
finds does not depend on it and the copy reads the same in every directory.
-/
import ApkReport.Proofs.Inspection.Renumbering
import ApkReport.Proofs.Inspection.Transparency
import ApkReport.Proofs.Inspection.Verbosity

namespace ApkReport

open Archive FileSystem

/-- What is said of texts can be left out. -/
theorem Outcome.Alike.forget {T : String → String → Prop} {α β : Type} {V : α → β → Prop} {x : Except Failure α}
    {y : Except Failure β} (h : Outcome.Alike T V x y) : Outcome.Alike AnyTexts V x y := by
  cases h with
  | ok hv => exact .ok hv
  | error he => exact .error ⟨he.1, trivial⟩

/-- Sessions over the same files. -/
structure SameFiles (s t : Session) : Prop where
  files : s.files = t.files
  tempRoot : s.tempRoot = t.tempRoot

/-! ## Prefixes -/

/-- The most bytes in a path that an operating system takes. The file system here takes longer ones as well. -/
def maxPath : Nat := 4095

/-- A copy can be made in the directories of a prefix, which all have paths of one length: its path is not too long. -/
def hasRoom (root : String) (pre : Value) : Bool :=
  (prefixText pre).toOption.all fun name => (basePath (numberedPath root name 0)).utf8ByteSize ≤ maxPath

/-- A temporary directory can be made with the prefix, and there is room for a copy. -/
structure IsUsable (pre : Value) (s : Session) : Prop where
  makes : ∃ directory made, (makeTempDirectory pre).on s = (.ok directory, made)
  room : hasRoom s.tempRoot pre = true

theorem isUsable_iff {pre : Value} {s : Session} :
    IsUsable pre s ↔ ((makeTempDirectory pre).on s).1.isOk = true ∧ hasRoom s.tempRoot pre = true := by
  have hmakes : (∃ directory made, (makeTempDirectory pre).on s = (.ok directory, made)) ↔
      ((makeTempDirectory pre).on s).1.isOk = true := by
    rcases (makeTempDirectory pre).on s with ⟨f | directory, made⟩
    · simp [Except.isOk, Except.toBool]
    · simp [Except.isOk, Except.toBool]
  exact ⟨fun h => ⟨hmakes.1 h.makes, h.room⟩, fun h => ⟨hmakes.2 h.1, h.2⟩⟩

instance (pre : Value) (s : Session) : Decidable (IsUsable pre s) := decidable_of_iff _ isUsable_iff.symm

/-- Then it can be made in every session over the same files. -/
theorem IsUsable.made {pre : Value} {s : Session} (h : IsUsable pre s) :
    ∃ name, hasNull (joinPath s.tempRoot name) = false ∧ ∀ t, SameFiles s t → ∃ n q, Free t.files t.tempRoot name n q ∧
      (makeTempDirectory pre).on t = (.ok (numberedPath t.tempRoot name n), t.made n q) := by
  obtain ⟨directory, made, hon⟩ := h.makes
  rcases makeTempDirectory_cases s.files s.tempRoot pre with ⟨f, hf⟩ | ⟨name, hroot, ⟨r, hr⟩ | hfull | hmake⟩
  · exact absurd (hon.symm.trans (hf s rfl rfl)) (by simp)
  · exact absurd (hon.symm.trans (hr s rfl rfl)) (by simp)
  · exact absurd (hon.symm.trans (hfull s rfl rfl)) (by simp)
  · refine ⟨name, hroot, fun t ht => ?_⟩
    rw [← ht.files, ← ht.tempRoot]
    exact hmake t ht.files.symm ht.tempRoot.symm

theorem IsUsable.of_sameFiles {pre : Value} {s t : Session} (h : IsUsable pre s) (ht : SameFiles s t) : IsUsable pre t := by
  obtain ⟨name, -, hmake⟩ := h.made
  obtain ⟨n, q, -, hon⟩ := hmake t ht
  exact ⟨⟨_, _, hon⟩, ht.tempRoot ▸ h.room⟩

/-! ## Extraction beside a fresh directory -/

section Fresh

variable {files : FileSystem} {path : String} {q q' : Place} (hw : files.WellFormed)
  (hpath : (files.find path).isOk = true ∨ ".." ∉ components path)
include hw hpath

/-- An archive that is there opens as it did, and one that is missing is missing still. -/
theorem archiveAt_beside : Outcome.Alike AnyTexts (· = ·) (archiveAt (files.adding [(q, .directory)]) path)
    (archiveAt (files.adding [(q', .directory)]) path) := by
  cases hfind : files.find path with
  | ok e =>
    rw [archiveAt_adding _ hfind, archiveAt_adding _ hfind]
    exact .refl anyTexts_textual _
  | error e =>
    have hn : ".." ∉ components path := hpath.resolve_left (by rw [hfind]; exact Bool.false_ne_true)
    have hunread : ∀ p, ∃ f, (files.adding [(p, .directory)]).read path = .error f := by
      intro p
      cases hread : (files.adding [(p, .directory)]).read path with
      | error f => exact ⟨f, rfl⟩
      | ok content =>
        have hfound := find_of_read (read_of_adding_directory hw hn hread)
        rw [hfind] at hfound
        cases hfound
    obtain ⟨f, hf⟩ := hunread q
    obtain ⟨f', hf'⟩ := hunread q'
    unfold archiveAt
    rw [hf, hf']
    split
    · exact .refl anyTexts_textual _
    · exact .error ⟨rfl, trivial⟩

theorem extraction_beside (threshold : Int) :
    Outcome.Alike AnyTexts (· = ·) (extraction threshold (files.adding [(q, .directory)]) path).1
      (extraction threshold (files.adding [(q', .directory)]) path).1 := by
  have harchive := @archiveAt_beside files path q q' hw hpath
  unfold extraction
  rcases hx : archiveAt (files.adding [(q, .directory)]) path with f | r <;>
    rcases hx' : archiveAt (files.adding [(q', .directory)]) path with f' | r' <;> rw [hx, hx'] at harchive <;> cases harchive
  case error.error he => exact .error he
  case ok.ok hr =>
    subst hr
    exact .refl anyTexts_textual _

end Fresh

/-! ## Inspections -/

section Inspections

variable {decoder : Decoder} {settings settings' : Settings} {path : String} {s t : Session} (hw : s.files.WellFormed)
  (hpath : (s.files.find path).isOk = true ∨ ".." ∉ components path) (hu : IsUsable settings.tempPrefix s)
  (hu' : IsUsable settings'.tempPrefix t)
include hw hpath hu hu'

/-- A block on a bundle meets the same copy, or none, whatever the directory is called that it stands in. -/
theorem withBundle_anyPrefix (h : SameGround s t) :
    Outcome.Alike AnyTexts (SameBut path path) ((withBundle path settings (inspectionBlock decoder path)).on s).1
      ((withBundle path settings' (inspectionBlock decoder path)).on t).1 := by
  have hblock := keepsFiles_inspectionBlock decoder path
  obtain ⟨name, hroot, hmake⟩ := hu.made
  obtain ⟨name', hroot', hmake'⟩ := hu'.made
  obtain ⟨n, q, hfree, hm⟩ := hmake s ⟨rfl, rfl⟩
  obtain ⟨m, q', hfree', hm'⟩ := hmake' t ⟨rfl, rfl⟩
  have hextract : Outcome.Alike AnyTexts (· = ·) (extraction s.level (s.made n q).files path).1
      (extraction t.level (t.made m q').files path).1 := by
    rw [← h.level, show (t.made m q').files = s.files.adding [(q', .directory)] by rw [h.files]; rfl]
    exact extraction_beside hw hpath s.level
  rw [on_withBundle_made hw hfree hm hblock, on_withBundle_made (h.files ▸ hw) hfree' hm' hblock]
  dsimp only
  rcases hx : extraction s.level (s.made n q).files path with ⟨f | bytes, found⟩ <;>
    rcases hx' : extraction t.level (t.made m q').files path with ⟨f' | bytes', found'⟩ <;> rw [hx, hx'] at hextract <;>
    cases hextract
  case error.error he => exact .error he
  case ok.ok hbytes =>
    subst hbytes
    dsimp only
    refine Coupled.outcome (coupled_inspectionBlock anyTexts_textual (SameContent.steady _ _) trivial
      (fun _ _ hc => archiveAt_alike anyTexts_textual trivial trivial hc) decoder path path) ?_
    exact sameContent_filled h hw hroot hroot' hfree hfree' bytes _ _

/-- Over the same files an inspection comes to the same result, or to the same kind of failure, at every level of the log
and with every prefix that can be used. -/
theorem inspectFile_indifferent (h : SameFiles s t) :
    Outcome.Alike AnyTexts (· = ·) ((inspectFile decoder settings path).on s).1 ((inspectFile decoder settings' path).on t).1 := by
  -- the second session may log as the first does
  let u := t.logging s.level t.events
  have hsame : SameGround s u := ⟨h.files, h.tempRoot, rfl⟩
  have husable : IsUsable settings'.tempPrefix u := hu'.of_sameFiles ⟨rfl, rfl⟩
  rw [← (ignoresLog_inspectFile decoder settings' path).outcome t s.level t.events]
  unfold inspectFile withPackage
  split
  · exact (withBundle_anyPrefix hw hpath hu husable hsame).imp fun _ _ => SameBut.eq
  · obtain ⟨_, _, _, _, _, _, -, -, -, hout⟩ := @inspectionBlock_alikeOn decoder path s u hsame (pathText path)
    exact hout.forget.imp fun _ _ => SameBut.eq

end Inspections

end ApkReport
