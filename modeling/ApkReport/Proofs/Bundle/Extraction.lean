/-
Extraction of the base package of a bundle. Into a directory that is there, it writes one file
if the stream of the member opens (`on_extractBase_of_place`). In a fresh directory nothing is in
the way of that file, so extraction fails only for the bundle's sake (`extraction`), and it
leaves something in the fresh directory and nothing elsewhere.
-/
import ApkReport.Bundle.Extraction
import ApkReport.Proofs.Archive.Opening
import ApkReport.Proofs.FileSystem.Writing

namespace ApkReport

open Archive FileSystem

/-! ## The bundle -/

/-- The note of an extraction that starts. -/
def extractingNote (threshold : Int) (bundle : String) (m : Member) : List Event :=
  noted threshold .bundle Journal.debug ("Extracting " ++ m.name ++ " from " ++ bundle)

/-- The first base package that the listing shows. -/
def Archive.Listing.firstBase? (l : Listing) : Option Member := l.entries.find? (isBaseEntry ·.name)

/-- The bytes of a stream that is copied to its end. -/
def copied (name bundle : String) (stream : Stream) : Except Failure Bytes :=
  match copyStream (stream.left + 1) stream with
  | (bytes, none) => .ok bytes
  | (_, some f) => .error (copyFailure name bundle (.member f))

/-- What extraction from an open bundle comes to, and its notes. -/
def extractionFrom (threshold : Int) (bundle : String) (r : Reader) : Except Failure Bytes × List Event :=
  match r.listing.entries.find? (isBaseEntry ·.name) with
  | none => (.error (if r.listing.isComplete then .noBase bundle else .namelessMember), [])
  | some m => ((r.stream m).bind (copied m.name bundle), extractingNote threshold bundle m)

/-- The bytes that extraction from the bundle at a path yields, and its notes. -/
def extraction (threshold : Int) (files : FileSystem) (bundle : String) : Except Failure Bytes × List Event :=
  match archiveAt files bundle with
  | .error f => (.error f, [])
  | .ok r =>
    let (outcome, notes) := extractionFrom threshold bundle r
    (outcome, openedNote threshold bundle r ++ notes)

/-- An archive opens as before when there are more files. -/
theorem archiveAt_adding {files : FileSystem} {path : String} {e : FileEntry} (more : List (Place × FileEntry))
    (h : files.find path = .ok e) : archiveAt (files.adding more) path = archiveAt files path := by
  rw [archiveAt, archiveAt, read_adding more h]

theorem extraction_adding {files : FileSystem} {path : String} {e : FileEntry} (threshold : Int)
    (more : List (Place × FileEntry)) (h : files.find path = .ok e) :
    extraction threshold (files.adding more) path = extraction threshold files path := by
  rw [extraction, extraction, archiveAt_adding more h]

/-! ## The copy -/

/-- What the copy of an opened member comes to, and the bytes that it leaves if it is written at all; a directory
in its place blocks it. -/
def copyOutcome (blocked : Bool) (name bundle directory : String) :
    Except Failure Stream → Except Failure String × Option Bytes
  | .error f => (.error f, none)
  | .ok stream =>
    if blocked then (.error (copyFailure name bundle (.os (failure (basePath directory) .isDirectory))), none)
    else match copyStream (stream.left + 1) stream with
      | (bytes, none) => (.ok (basePath directory), some bytes)
      | (bytes, some f) => (.error (copyFailure name bundle (.member f)), some bytes)

/-- The files with the bytes of a copy at a place, if there are any. -/
def withCopyAt (files : FileSystem) (p : Place) : Option Bytes → FileSystem
  | none => files
  | some bytes => files.put p (.file bytes)

/-- The place of the copy in a directory. -/
def basePlace (q : Place) : Place := q ++ [baseEntryName]

theorem copyInto_of_place {files : FileSystem} {path : String} {p : Place} (hp : files.place path = .ok p) (stream : Stream) :
    copyInto files path stream =
      if files.isDirectoryAt p then (some (.os (failure path .isDirectory)), files)
      else
        let (bytes, fault) := copyStream (stream.left + 1) stream
        (fault.map .member, files.put p (.file bytes)) := by
  unfold copyInto
  cases hdir : files.isDirectoryAt p with
  | true => simp [FileSystem.write, hp, hdir]
  | false =>
    have hfile : files.at? p ≠ some .directory := of_decide_eq_false hdir
    have hne : p ≠ [] := by
      rintro rfl
      exact hfile rfl
    have hagain : (files.put p (.file [])).isDirectoryAt p = false := by simp [isDirectoryAt, at?_put_self hne]
    rw [write_of_place hp hdir]
    dsimp only
    rw [write_of_place (place_put hfile _ hp) hagain, put_put]
    rfl

theorem on_copyBase_of_place {s : Session} {directory : String} {p : Place} (hp : s.files.place (basePath directory) = .ok p)
    (stream : Stream) (name bundle : String) :
    (copyBase stream name bundle directory).on s =
      let (outcome, bytes?) := copyOutcome (s.files.isDirectoryAt p) name bundle directory (.ok stream)
      (outcome, s.withFiles (withCopyAt s.files p bytes?)) := by
  unfold copyBase copyOutcome
  simp only [Run.on_bind, Run.on_get, Run.on_setFiles, copyInto_of_place hp]
  cases s.files.isDirectoryAt p with
  | true => rfl
  | false => rcases copyStream (stream.left + 1) stream with ⟨bytes, _ | f⟩ <;> rfl

/-! ## The directory -/

theorem isComponent_base : IsComponent baseEntryName := by
  unfold IsComponent
  decide

theorem basePath_eq {directory : String} (hd : directory ≠ "") (hl : directory.toList.getLast? ≠ some '/') :
    basePath directory = pathText (directory ++ "/" ++ baseEntryName) := by
  rw [basePath, joinPath_plain isComponent_base hd hl]

theorem pathText_basePath (directory : String) : pathText (basePath directory) = basePath directory := pathText_pathText _

theorem hasNull_basePath {directory : String} (hd : directory ≠ "") (hl : directory.toList.getLast? ≠ some '/')
    (h : hasNull directory = false) : hasNull (basePath directory) = false := by
  rw [basePath_eq hd hl]
  apply hasNull_pathText
  rw [hasNull_append, hasNull_append, h]
  rfl

section Directory

variable {s : Session} {directory : String} {q : Place} (hp : s.files.place (pathText directory) = .ok q)
  (hq : s.files.at? q = some .directory)
include hp hq

theorem place_basePath : s.files.place (basePath directory) = .ok (basePlace q) :=
  place_joinPath hp hq isComponent_base (by decide) (by decide)

/-- What extraction into a directory comes to, and what it leaves there. -/
theorem on_extractBase_of_place (bundle : String) :
    (extractBase bundle directory).on s = match archiveAt s.files bundle with
      | .error f => (.error f, s)
      | .ok r => match r.listing.firstBase? with
        | none =>
          (.error (if r.listing.isComplete then .noBase bundle else .namelessMember), s.append (openedNote s.level bundle r))
        | some m =>
          let (outcome, bytes?) :=
            copyOutcome (s.files.isDirectoryAt (basePlace q)) m.name bundle directory (r.stream m)
          (outcome, (s.withFiles (withCopyAt s.files (basePlace q) bytes?)).append
            (openedNote s.level bundle r ++ extractingNote s.level bundle m)) := by
  unfold extractBase
  cases ha : archiveAt s.files bundle with
  | error f => rw [Run.on_bind_error (openArchive_error ha)]
  | ok r =>
    rw [Run.on_bind_ok (openArchive_ok ha)]
    unfold Listing.firstBase?
    dsimp only
    cases r.listing.entries.find? (isBaseEntry ·.name) with
    | none => rfl
    | some m =>
      dsimp only
      rw [Run.on_bind, Run.on_note]
      dsimp only
      rw [Run.on_bind, Run.on_lift, Session.append_append]
      cases r.stream m with
      | error f => rfl
      | ok stream =>
        let t := s.append (openedNote s.level bundle r ++ extractingNote s.level bundle m)
        exact on_copyBase_of_place (s := t) (place_basePath hp hq) stream m.name bundle

end Directory

/-! ## A fresh directory -/

section Fresh

variable {fs : FileSystem} {q : Place} {directory : String} (hw : fs.WellFormed) (hp : fs.place directory = .ok q)
  (hq : fs.at? q = none) (hl : directory.toList.getLast? ≠ some '/')
include hw hp hq

include hl in
theorem read_basePath (content : Bytes) :
    (fs.adding (withFile q baseEntryName content)).read (basePath directory) = .ok content := by
  rw [basePath_eq (ne_empty_of_place hp) hl]
  exact read_fresh hw hq hp hl isComponent_base (by decide) (by decide) content

/-- What extraction into the fresh directory comes to, and what it leaves. -/
theorem on_extractBase {s : Session} (hs : s.files = fs.adding [(q, .directory)]) (bundle : String) :
    match extraction s.level s.files bundle with
    | (.ok bytes, notes) =>
      (extractBase bundle directory).on s =
        (.ok (basePath directory), (s.withFiles (fs.adding (withFile q baseEntryName bytes))).append notes)
    | (.error f, notes) => ∃ more, (∀ x ∈ more, q <+: x.1) ∧
      (extractBase bundle directory).on s =
        (.error f, (s.withFiles (fs.adding ((q, .directory) :: more))).append notes) := by
  have hplace : s.files.place (pathText directory) = .ok q := hs ▸ place_pathText (place_adding _ hp)
  have hat : s.files.at? q = some .directory := hs ▸ at?_fresh hw hq []
  have hfree : s.files.isDirectoryAt (basePlace q) = false := hs ▸ isDirectoryAt_fresh hw hq baseEntryName
  have hput : ∀ bytes, s.files.put (basePlace q) (.file bytes) = fs.adding (withFile q baseEntryName bytes) :=
    fun bytes => hs ▸ put_fresh hw hq baseEntryName bytes
  have hsame : s.withFiles (fs.adding [(q, .directory)]) = s := by rw [← hs, Session.withFiles_self]
  rw [on_extractBase_of_place hplace hat, hfree]
  unfold extraction
  cases archiveAt s.files bundle with
  | error f =>
    refine ⟨[], by simp, ?_⟩
    rw [hsame, Session.append_nil]
  | ok r =>
    unfold extractionFrom Listing.firstBase?
    dsimp only
    cases r.listing.entries.find? (isBaseEntry ·.name) with
    | none =>
      refine ⟨[], by simp, ?_⟩
      rw [hsame, List.append_nil]
    | some m =>
      dsimp only
      cases r.stream m with
      | error f =>
        refine ⟨[], by simp, ?_⟩
        rw [hsame]
        rfl
      | ok stream =>
        rw [Except.bind, copied]
        dsimp only [copyOutcome]
        rcases copyStream (stream.left + 1) stream with ⟨bytes, _ | f⟩
        · dsimp only
          rw [← hput]
          rfl
        · refine ⟨[(basePlace q, .file bytes)], by simp [basePlace], ?_⟩
          change _ = (_, (s.withFiles (fs.adding (withFile q baseEntryName bytes))).append _)
          rw [← hput]
          rfl

end Fresh

end ApkReport
