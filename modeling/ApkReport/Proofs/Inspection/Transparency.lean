/-
A bundle is inspected as the package that it holds. The inspection runs on a copy at
another path, but as the path gets into texts alone, it comes to the result, or to the kind
of failure, that the same content has anywhere else.
-/
import ApkReport.Proofs.Inspection.Cleanup

namespace ApkReport

open Archive FileSystem

/-- What extraction yields from a bundle that opens, of its first base package, if its stream is copied to the end. -/
theorem extraction_ok {threshold : Int} {files : FileSystem} {bundle : String} {r : Reader} {m : Member} {stream : Archive.Stream}
    {bytes : Bytes} (hopen : archiveAt files bundle = .ok r) (hfind : r.listing.entries.find? (isBaseEntry ·.name) = some m)
    (hstream : r.stream m = .ok stream) (hcopy : copyStream (stream.left + 1) stream = (bytes, none)) :
    extraction threshold files bundle =
      (.ok bytes, openedNote threshold bundle r ++ extractingNote threshold bundle m) := by
  have hcopied : copied m.name bundle stream = .ok bytes := by rw [copied, hcopy]
  simp only [extraction, extractionFrom, hopen, hfind, hstream, Except.bind, hcopied]

/-- Texts of which nothing is said. -/
def AnyTexts (_ _ : String) : Prop := True

theorem anyTexts_textual : Textual AnyTexts := ⟨fun _ => trivial, fun _ _ => trivial⟩

/-- A bundle whose base package is extracted and a file with the content of the package come to results that differ
in the path alone, each its own, or to failures of one kind. -/
theorem bundle_transparent (decoder : Decoder) {settings : Settings} {s t made : Session} {bundle path directory : String}
    {r : Reader} {m : Member} {stream : Archive.Stream} {bytes : Bytes} (hw : s.files.WellFormed)
    (hb : isBundle bundle = true) (hopen : archiveAt s.files bundle = .ok r)
    (hfind : r.listing.entries.find? (isBaseEntry ·.name) = some m) (hstream : r.stream m = .ok stream)
    (hcopy : copyStream (stream.left + 1) stream = (bytes, none))
    (hmake : (makeTempDirectory settings.tempPrefix).on s = (.ok directory, made)) (hp : isBundle path = false)
    (hnull : hasNull path = false) (hread : t.files.read path = .ok bytes) (hlevel : s.level = t.level) :
    Outcome.Alike AnyTexts (SameBut bundle path) ((inspectFile decoder settings bundle).on s).1
      ((inspectFile decoder settings path).on t).1 := by
  obtain ⟨-, file, hbundle, -⟩ := archiveAt_eq_ok.1 hopen
  have hblock := keepsFiles_inspectionBlock decoder bundle
  rw [inspectFile, withPackage, if_pos hb, inspectFile, withPackage, if_neg (by simp [hp])]
  rcases makeTempDirectory_cases s.files s.tempRoot settings.tempPrefix with ⟨f, h⟩ | ⟨name, hroot, ⟨f, h⟩ | h | h⟩
  · exact absurd (hmake.symm.trans (h s rfl rfl)) (by simp)
  · exact absurd (hmake.symm.trans (h s rfl rfl)) (by simp)
  · exact absurd (hmake.symm.trans (h s rfl rfl)) (by simp)
  · obtain ⟨n, q, hfree, hm⟩ := h s rfl rfl
    have hl := getLast?_numberedPath s.tempRoot name n
    have hx : extraction s.level (s.made n q).files bundle = _ :=
      (extraction_adding s.level _ (find_of_read hbundle)).trans (extraction_ok hopen hfind hstream hcopy)
    rw [on_withBundle_made hw hfree hm hblock, hx]
    dsimp only
    refine Coupled.outcome (coupled_inspectionBlock anyTexts_textual (SameContent.steady _ _) trivial
      (fun s t h => archiveAt_alike anyTexts_textual trivial trivial h) decoder bundle path) ?_
    refine ⟨hlevel, hasNull_basePath (ne_empty_of_place hfree.leads) hl (hasNull_numberedPath hroot n),
      hasNull_pathText hnull, bytes, ?_, read_pathText hread⟩
    exact read_basePath hw hfree.leads hfree.missing hl bytes

/-- A decoder that finds an empty manifest in everything. -/
def emptyManifest : Decoder := fun _ => .ok ⟨true, fun _ => .ok (some { tag := .plain "manifest" }), .ok none⟩

/-- A session over a package and a bundle that holds it. -/
def packageSession : Session where
  files := ⟨"/", [(["tmp"], .directory), (["p.apk"], .file (single "classes.dex" Dex.nfcContent)),
    (["b.apkm"], .file (single "base.apk" (single "classes.dex" Dex.nfcContent)))]⟩
  tempRoot := "/tmp"

set_option maxRecDepth 20000 in
/-- The package scans alike in its bundle and on its own. -/
theorem bundle_transparent_nfc :
    Outcome.Alike AnyTexts (SameBut "/b.apkm" "/p.apk") ((inspectFile emptyManifest {} "/b.apkm").on packageSession).1
        ((inspectFile emptyManifest {} "/p.apk").on packageSession).1 ∧
      ((inspectFile emptyManifest {} "/b.apkm").on packageSession).1.toOption.map (·.hardwareApis) = some ["android.nfc"] := by
  have hdecided : (archiveAt packageSession.files "/b.apkm").toOption.any fun r =>
      (r.listing.entries.find? (isBaseEntry ·.name)).any fun m => (r.stream m).toOption.any fun stream =>
        copyStream (stream.left + 1) stream = (single "classes.dex" Dex.nfcContent, none) := by decide +kernel
  obtain ⟨r, hopen, hr⟩ := exists_ok hdecided
  obtain ⟨m, hfind, hm⟩ := (Option.any_eq_true _ _).1 hr
  obtain ⟨stream, hstream, hcopy⟩ := exists_ok hm
  have hmade : ((makeTempDirectory ({} : Settings).tempPrefix).on packageSession).1.toOption.any fun _ => true := by
    decide +kernel
  obtain ⟨directory, hdirectory, -⟩ := exists_ok hmade
  refine ⟨?_, by decide +kernel⟩
  exact bundle_transparent emptyManifest (by decide) (by decide +kernel) hopen hfind hstream (of_decide_eq_true hcopy)
    (Prod.ext hdirectory rfl) (by decide +kernel) (by decide) (by decide +kernel) rfl

end ApkReport
