/-
Saving the summary, as what it does to the files (`saved`): the directories above the file are
made, and then a writer saves the table. Where the writer puts the file and what it makes of
the table is its own; what is documented of it (`SavesAt`) is that the table's text can be
read from there again.
-/
import ApkReport.Proofs.Gzip
import ApkReport.Proofs.FileSystem.Writing
import ApkReport.Proofs.Session.Run
import ApkReport.Report.Writer

namespace ApkReport.Report

open FileSystem

/-- Makes the directories above a path that are missing. -/
def makeParents (files : FileSystem) (path : String) : Option OsError × FileSystem :=
  files.makeDirectories (parentPath path) (components (parentPath path)).length

/-- What saving a table at a path comes to, and the files after it. -/
def saved (writer : TableWriter) (files : FileSystem) (path : String) (table : Table) : Except Failure Unit × FileSystem :=
  if hasNull (parentPath path) then (.error .nullInPath, files)
  else
    match makeParents files path with
    | (some e, made) => (.error (.os e), made)
    | (none, made) => writer made path table

theorem on_saveCsv (writer : TableWriter) (results : List InspectionResult) (path : String) (s : Session) :
    (saveCsv writer results path).on s = match saved writer s.files (pathText path) (summaryTable results) with
      | (.ok (), files) => (.ok results.length, s.withFiles files)
      | (.error f, files) => (.error f, s.withFiles files) := by
  unfold saveCsv saved
  dsimp only
  cases hasNull (parentPath (pathText path)) with
  | true => rfl
  | false =>
    simp only [Bool.false_eq_true, if_false]
    rw [Run.on_bind, Run.on_get]
    dsimp only
    rw [← makeParents]
    rcases makeParents s.files (pathText path) with ⟨_ | e, made⟩
    · dsimp only
      rw [Run.on_bind, Run.on_setFiles]
      dsimp only
      rw [Run.on_bind, Run.on_get]
      dsimp only [Session.withFiles]
      rcases writer made (pathText path) (summaryTable results) with ⟨f | ⟨⟩, files⟩ <;> rfl
    · rfl

/-! ## Writers -/

/-- A file can be written at a path: it leads to a place where no directory stands. -/
def TakesFile (files : FileSystem) (path : String) : Prop :=
  hasNull path = false ∧ ∃ q, files.place path = .ok q ∧ files.isDirectoryAt q = false

/-- What is documented of a writer. The file of a path is put at its `target`; there any table is saved where a file can be
written, and the `text?` of the file, once it is expanded as its name asks, is that of the table. -/
structure TableWriter.SavesAt (writer : TableWriter) (target : String → String) (text? : String → Bytes → Option String) :
    Prop where
  saves : ∀ {files : FileSystem} {path : String} (table : Table), TakesFile files (target path) →
    (writer files path table).1 = .ok ()
  reads : ∀ {files written : FileSystem} {path : String} {table : Table}, writer files path table = (.ok (), written) →
    ∃ content, written.read (target path) = .ok content ∧ text? path content = some table.csv

/-- A summary can be saved at a path: the directories above it are there or can be made, and then a file can be written at
its target. -/
def Writable (target : String → String) (files : FileSystem) (path : String) : Prop :=
  hasNull (parentPath path) = false ∧ ∃ made, makeParents files path = (none, made) ∧ TakesFile made (target path)

section Documented

variable {writer : TableWriter} {target : String → String} {text? : String → Bytes → Option String}
  (hwriter : writer.SavesAt target text?) {files written : FileSystem} {path : String} {table : Table}
include hwriter

/-- What was saved is read again. -/
theorem text_of_saved (h : saved writer files path table = (.ok (), written)) :
    ∃ content, written.read (target path) = .ok content ∧ text? path content = some table.csv := by
  unfold saved at h
  split at h
  · cases h
  split at h
  · cases h
  · exact hwriter.reads h

/-- Where a summary can be saved, any table is, and is read again. -/
theorem saved_of_writable (h : Writable target files path) (table : Table) :
    ∃ written content, saved writer files path table = (.ok (), written) ∧ written.read (target path) = .ok content ∧
      text? path content = some table.csv := by
  obtain ⟨hnull, made, hmade, htakes⟩ := h
  have hok := hwriter.saves table htakes
  rcases hwrites : writer made path table with ⟨f | ⟨⟩, written⟩
  · rw [hwrites] at hok
    cases hok
  · obtain ⟨content, hread, htext⟩ := hwriter.reads hwrites
    refine ⟨written, content, ?_, hread, htext⟩
    rw [saved, hnull, hmade]
    exact hwrites

end Documented

/-! ## A writer -/

/-- The text of a file of that name. -/
def fileText? (path : String) (content : Bytes) : Option String :=
  (if isCompressed path then Gzip.expand? content else some content).bind fun text => String.fromUTF8? text.toByteArray

theorem fileText?_tableFile (path : String) (table : Table) : fileText? path (tableFile path table) = some table.csv := by
  have hplain : (if isCompressed path then Gzip.expand? (tableFile path table) else some (tableFile path table)) =
      some (Bytes.ofString table.csv) := by
    unfold tableFile
    cases isCompressed path with
    | true => exact Gzip.expand?_compress _
    | false => rfl
  rw [fileText?, hplain]
  exact Bytes.fromUTF8?_ofString _

/-- The writer that keeps to its path does as documented. -/
theorem savesAt_fileWriter : fileWriter.SavesAt id fileText? where
  saves {files path} table h := by
    obtain ⟨hnull, q, hplace, hfile⟩ := h
    have hwrite : files.write path (tableFile path table) = .ok _ := write_of_place hplace hfile
    rw [fileWriter, if_neg (by simpa using hnull), hwrite]
  reads {files written path table} h := by
    unfold fileWriter at h
    split at h
    · cases h
    split at h
    · cases h
    · next hwrite =>
      cases h
      exact ⟨_, read_write hwrite, fileText?_tableFile path table⟩

end ApkReport.Report
