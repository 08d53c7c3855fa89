/-
A bundle's temporary directory goes with the block that it was made for. Extraction writes
into the fresh directory alone and the block leaves the files as they are, so removing the
directory brings back the file system that was there before, on every way out of the block.
-/
import ApkReport.Proofs.Archive.Written
import ApkReport.Proofs.Bundle.Extraction
import ApkReport.Proofs.Inspection.Package
import ApkReport.Proofs.Inspection.TempDirectory

namespace ApkReport

open FileSystem

/-! ## The block of a bundle -/

theorem on_removeTempDirectory {fs : FileSystem} {q : Place} {s : Session} {directory : String} {more : List (Place × FileEntry)}
    (hw : fs.WellFormed) (hp : fs.place directory = .ok q) (hq : fs.at? q = none)
    (hlast : (components directory).getLast? ≠ some ".") (hm : ∀ x ∈ more, q <+: x.1)
    (hs : s.files = fs.adding ((q, .directory) :: more)) :
    (removeTempDirectory directory).on s = (.ok (), s.withFiles fs) := by
  unfold removeTempDirectory
  simp only [Run.on_bind, Run.on_get, Run.on_setFiles, hs, removeTree_fresh hw hp hq hlast hm, Run.on_pure]

/-- The notes of a block of a bundle that is entered. -/
def createdNote (threshold : Int) (directory : String) : List Event :=
  noted threshold .inspection Journal.debug ("Created temp directory " ++ directory)

def copyNote (threshold : Int) : List Event :=
  noted threshold .inspection Journal.info "Extracting base.apk from APKM bundle..."

/-- The session after the directory of a number was made at a place, and the copy of a base package in it. -/
def Session.filled (s : Session) (n : Nat) (q : Place) (bytes : Bytes) : Session :=
  (s.numbered n).withFiles (s.files.adding (withFile q baseEntryName bytes))

section Copy

variable {files : FileSystem} {root name : String} {n : Nat} {q : Place} (hfree : Free files root name n q)
include hfree

theorem Free.hasNull_copy (h : hasNull (joinPath root name) = false) : hasNull (basePath (numberedPath root name n)) = false :=
  hasNull_basePath (ne_empty_of_place hfree.leads) (getLast?_numberedPath root name n) (hasNull_numberedPath h n)

theorem Free.read_copy (hw : files.WellFormed) (bytes : Bytes) :
    (files.adding (withFile q baseEntryName bytes)).read (basePath (numberedPath root name n)) = .ok bytes :=
  read_basePath hw hfree.leads hfree.missing (getLast?_numberedPath root name n) bytes

end Copy

section Bundle

variable {α : Type} {path : String} {settings : Settings} {block : String → Run α} {s : Session}

/-- What a block comes to on a copy in a fresh directory. -/
theorem on_withCopy {fs : FileSystem} {q : Place} {directory : String} (hw : fs.WellFormed)
    (hp : fs.place directory = .ok q) (hq : fs.at? q = none) (hs : s.files = fs.adding [(q, .directory)]) :
    match extraction s.level s.files path with
    | (.ok bytes, notes) =>
      (withCopy path directory block).on s = (block (basePath directory)).on
        ((s.withFiles (fs.adding (withFile q baseEntryName bytes))).append (copyNote s.level ++ notes))
    | (.error f, notes) => ∃ more, (∀ x ∈ more, q <+: x.1) ∧
      (withCopy path directory block).on s =
        (.error f, (s.withFiles (fs.adding ((q, .directory) :: more))).append (copyNote s.level ++ notes)) := by
  have hextract := on_extractBase hw hp hq (show (s.append (copyNote s.level)).files = _ from hs) path
  have hon : (withCopy path directory block).on s =
      (extractBase path directory >>= block).on (s.append (copyNote s.level)) := by
    rw [withCopy, Run.on_bind, Run.on_note]
    rfl
  rw [Session.append_level, Session.append_files] at hextract
  rw [hon]
  rcases hx : extraction s.level s.files path with ⟨f | bytes, notes⟩ <;> rw [hx] at hextract
  · obtain ⟨more, hmore, hex⟩ := hextract
    refine ⟨more, hmore, ?_⟩
    rw [Run.on_bind_error hex, Session.append_withFiles, Session.append_append]
  · rw [Run.on_bind_ok hextract, Session.append_withFiles, Session.append_append]

/-- Without a directory the block is not entered. -/
theorem on_withBundle_unmade {f : Failure} {t : Session} (hm : (makeTempDirectory settings.tempPrefix).on s = (.error f, t)) :
    (withBundle path settings block).on s = (.error f, t) :=
  Run.on_bind_error hm _

section Made

variable {name : String} {n : Nat} {q : Place} (hw : s.files.WellFormed) (hfree : Free s.files s.tempRoot name n q)
  (hm : (makeTempDirectory settings.tempPrefix).on s = (.ok (numberedPath s.tempRoot name n), s.made n q))
include hw hfree hm

/-- The directory is removed, whatever became of the block in it. -/
theorem on_withBundle_removed {outcome : Except Failure α} {t : Session} {more : List (Place × FileEntry)}
    (hblock : (withCopy path (numberedPath s.tempRoot name n) block).on
      ((s.made n q).append (createdNote s.level (numberedPath s.tempRoot name n))) = (outcome, t))
    (ht : t.files = s.files.adding ((q, .directory) :: more)) (hmore : ∀ x ∈ more, q <+: x.1) :
    (withBundle path settings block).on s = (outcome, t.withFiles s.files) := by
  have hlast := last_component_numberedPath s.tempRoot name n
  have hremove := on_removeTempDirectory hw hfree.leads hfree.missing hlast hmore ht
  unfold withBundle
  rw [Run.on_bind_ok hm, Run.on_bind, Run.on_note]
  dsimp only
  rw [Run.on_bind, Run.on_attempt]
  dsimp only
  rw [createdNote] at hblock
  rw [show (s.made n q).level = s.level from rfl, hblock, Run.on_bind_ok hremove]
  exact Run.on_ofExcept _ _

/-- What a block comes to on a copy of a bundle's base package, and what it leaves. -/
theorem on_withBundle_made (hblock : ∀ package u, ((block package).on u).2.files = u.files) :
    (withBundle path settings block).on s =
      let directory := numberedPath s.tempRoot name n
      let notes := createdNote s.level directory ++ copyNote s.level
      match extraction s.level (s.made n q).files path with
      | (.error f, found) => (.error f, (s.numbered n).append (notes ++ found))
      | (.ok bytes, found) =>
        let ended := (block (basePath directory)).on ((s.filled n q bytes).append (notes ++ found))
        (ended.1, ended.2.withFiles s.files) := by
  let u := (s.made n q).append (createdNote s.level (numberedPath s.tempRoot name n))
  have hcopy := @on_withCopy α path block u s.files q _ hw hfree.leads hfree.missing rfl
  have hlevel : u.level = s.level := rfl
  have hfiles : u.files = (s.made n q).files := rfl
  rw [hlevel, hfiles] at hcopy
  dsimp only
  rcases hx : extraction s.level (s.made n q).files path with ⟨f | bytes, found⟩ <;> rw [hx] at hcopy
  · obtain ⟨more, hmore, hon⟩ := hcopy
    rw [on_withBundle_removed hw hfree hm hon rfl hmore]
    dsimp only [u]
    rw [← Session.append_withFiles, Session.append_append, List.append_assoc]
    rfl
  · have hkept := hblock (basePath (numberedPath s.tempRoot name n))
      ((u.withFiles (s.files.adding (withFile q baseEntryName bytes))).append (copyNote s.level ++ found))
    rw [← hcopy] at hkept
    have hremoved := on_withBundle_removed hw hfree hm (Prod.eta _).symm hkept (by simp)
    rw [hremoved, hcopy]
    have hentered : (u.withFiles (s.files.adding (withFile q baseEntryName bytes))).append (copyNote s.level ++ found) =
        (s.filled n q bytes).append (createdNote s.level (numberedPath s.tempRoot name n) ++ copyNote s.level ++ found) := by
      dsimp only [u]
      rw [Session.append_withFiles, Session.append_append, List.append_assoc]
      rfl
    rw [hentered]

end Made

end Bundle

/-! ## Blocks -/

/-- The block leaves the files as they are. -/
def KeepsFiles {α : Type} (block : String → Run α) : Prop := ∀ package s, ((block package).on s).2.files = s.files

/-- How a block on a bundle ends: the directory is not made, or the copy is not, or the block ends it, on a path
where the copy stands. -/
inductive EndsAs {α : Type} (path : String) (settings : Settings) (block : String → Run α) (s : Session) :
    Except Failure α → Prop
  | unmade {f : Failure} {t : Session} :
    (makeTempDirectory settings.tempPrefix).on s = (.error f, t) → EndsAs path settings block s (.error f)
  | uncopied {directory : String} {t v : Session} {f : Failure} (more : List Event) :
    (makeTempDirectory settings.tempPrefix).on s = (.ok directory, t) →
    (extractBase path directory).on (t.append more) = (.error f, v) → EndsAs path settings block s (.error f)
  | entered {directory package : String} {t v : Session} {bytes : Bytes} (more notes : List Event) :
    (makeTempDirectory settings.tempPrefix).on s = (.ok directory, t) →
    (extractBase path directory).on (t.append more) = (.ok package, v) →
    extraction s.level t.files path = (.ok bytes, notes) → v.files.read package = .ok bytes →
    EndsAs path settings block s ((block package).on v).1

section Block

variable {α : Type} {path : String} {settings : Settings} {block : String → Run α} {s : Session}
  (hw : s.files.WellFormed) (hblock : KeepsFiles block)
include hw hblock

theorem withBundle_files : ((withBundle path settings block).on s).2.files = s.files := by
  rcases makeTempDirectory_made_or_error s settings.tempPrefix with ⟨f, n, hm⟩ | ⟨name, n, q, hfree, hm⟩
  · rw [on_withBundle_unmade hm, Session.numbered_files]
  · rw [on_withBundle_made hw hfree hm hblock]
    dsimp only
    rcases extraction s.level (s.made n q).files path with ⟨f | bytes, found⟩ <;> rfl

theorem withBundle_ends : EndsAs path settings block s ((withBundle path settings block).on s).1 := by
  rcases makeTempDirectory_made_or_error s settings.tempPrefix with ⟨f, n, hm⟩ | ⟨name, n, q, hfree, hm⟩
  · rw [on_withBundle_unmade hm]
    exact .unmade hm
  · let notes := createdNote s.level (numberedPath s.tempRoot name n) ++ copyNote s.level
    have hextract := @on_extractBase s.files q _ hw hfree.leads hfree.missing ((s.made n q).append notes) rfl path
    have hlevel : ((s.made n q).append notes).level = s.level := rfl
    rw [hlevel, Session.append_files] at hextract
    rw [on_withBundle_made hw hfree hm hblock]
    dsimp only
    rcases hx : extraction s.level (s.made n q).files path with ⟨f | bytes, found⟩ <;> rw [hx] at hextract
    · obtain ⟨_, -, hon⟩ := hextract
      exact .uncopied notes hm hon
    · have hends : EndsAs path settings block s _ :=
        .entered notes found hm hextract hx (hfree.read_copy hw bytes)
      rw [Session.append_withFiles, Session.append_append] at hends
      exact hends

/-- A block leaves the files as they were, whatever becomes of it. -/
theorem withPackage_files : ((withPackage path settings block).on s).2.files = s.files := by
  unfold withPackage
  split
  · exact withBundle_files hw hblock
  · exact hblock _ s

end Block

/-! ## Calls -/

/-- A use of the program: an inspection, or a block of the caller's on a package. -/
inductive Call where
  | inspection (settings : Settings) (path : String)
  | block (settings : Settings) (path : String) (body : String → Run Unit)

/-- A call with the sessions before and after it. -/
structure Step where
  call : Call
  before : Session
  after : Session

theorem keepsFiles_inspectionBlock (decoder : Decoder) (path : String) : KeepsFiles (inspectionBlock decoder path) := by
  intro package s
  rw [inspectionBlock, Run.on_bind, Run.on_note]
  exact files_inspectPackage decoder package path _

namespace Call

def run (decoder : Decoder) : Call → Run Unit
  | .inspection settings path => do
    let _ ← inspectFile decoder settings path
  | .block settings path body => withPackage path settings body

/-- The call's own block leaves the files as they are. -/
def IsHarmless : Call → Prop
  | .inspection .. => True
  | .block _ _ body => KeepsFiles body

/-- On a bundle, the call fails for the directory's, the copy's or its block's sake, and the block meets the copy. -/
def EndsWell (decoder : Decoder) (s : Session) : Call → Prop
  | .inspection settings path => isBundle path = true →
    EndsAs path settings (inspectionBlock decoder path) s ((inspectFile decoder settings path).on s).1
  | .block settings path body => isBundle path = true →
    EndsAs path settings body s ((withPackage path settings body).on s).1

variable {decoder : Decoder} {s : Session} (hw : s.files.WellFormed)
include hw

theorem run_files {c : Call} (hc : c.IsHarmless) : ((c.run decoder).on s).2.files = s.files := by
  cases c with
  | block settings path body =>
    have hbody : KeepsFiles body := hc
    rw [run]
    exact withPackage_files hw hbody
  | inspection settings path =>
    have hkept : ((inspectFile decoder settings path).on s).2.files = s.files := by
      rw [inspectFile]
      exact withPackage_files hw (keepsFiles_inspectionBlock decoder path)
    rw [run, Run.on_bind]
    generalize (inspectFile decoder settings path).on s = result at hkept ⊢
    obtain ⟨outcome, t⟩ := result
    cases outcome with
    | error f => exact hkept
    | ok r => exact hkept

theorem endsWell {c : Call} (hc : c.IsHarmless) : c.EndsWell decoder s := by
  cases c with
  | block settings path body =>
    intro hb
    rw [withPackage, if_pos hb]
    exact withBundle_ends hw hc
  | inspection settings path =>
    intro hb
    rw [inspectFile, withPackage, if_pos hb]
    exact withBundle_ends hw (keepsFiles_inspectionBlock decoder path)

end Call

/-- Some calls one after another, whether they fail or not. -/
def steps (decoder : Decoder) : List Call → Session → List Step
  | [], _ => []
  | c :: calls, s => ⟨c, s, ((c.run decoder).on s).2⟩ :: steps decoder calls ((c.run decoder).on s).2

/-- No call leaves a trace in the file system, in whatever order calls follow one another and however they end. -/
theorem steps_keep_files {decoder : Decoder} {calls : List Call} {s : Session} (hw : s.files.WellFormed)
    (hc : ∀ c ∈ calls, c.IsHarmless) : ∀ step ∈ steps decoder calls s,
      step.before.files = s.files ∧ step.after.files = step.before.files ∧ step.call.EndsWell decoder step.before := by
  induction calls generalizing s with
  | nil => exact fun step hstep => absurd hstep List.not_mem_nil
  | cons c calls ih =>
    obtain ⟨hfirst, hrest⟩ := List.forall_mem_cons.1 hc
    have hkept : ((c.run decoder).on s).2.files = s.files := Call.run_files hw hfirst
    intro step hstep
    rcases List.mem_cons.1 hstep with rfl | hstep
    · exact ⟨rfl, hkept, Call.endsWell hw hfirst⟩
    · have hlater := ih (by rwa [hkept]) hrest step hstep
      rwa [hkept] at hlater

/-- A session over a bundle with a base package. -/
def bundleSession : Session where
  files := ⟨"/", [(["tmp"], .directory), (["b.apkm"], .file (Archive.single "base.apk" [1, 2]))]⟩
  tempRoot := "/tmp"

/-- A bundle that is missing, and one whose block raises an error. -/
def failingCalls : List Call :=
  [.inspection {} "/a.apkm", .block {} "/b.apkm" fun _ => throw (.custom "stop")]

/-- Failing calls leave no trace, and the error of the block leaves the call. -/
theorem failingCalls_keep_files :
    (∀ step ∈ steps (fun _ => .error "") failingCalls bundleSession, step.before.files = bundleSession.files ∧
      step.after.files = step.before.files ∧ step.call.EndsWell (fun _ => .error "") step.before) ∧
    ∀ c ∈ failingCalls.getLast?, (match ((c.run fun _ => .error "").on bundleSession).1 with
      | .ok _ => ""
      | .error f => f.message) = "stop" := by
  refine ⟨steps_keep_files (by decide) fun c hc => ?_, by decide +kernel⟩
  rcases List.mem_cons.1 hc with rfl | hc
  · trivial
  · rw [List.mem_singleton.1 hc]
    exact fun _ _ => rfl

end ApkReport
