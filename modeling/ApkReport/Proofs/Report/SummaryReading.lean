/-
Reading a saved summary: its text, as its writer is documented to leave it, its records, and
the lists of a result in the fields of its record.
-/
import ApkReport.Proofs.Report.Cells
import ApkReport.Proofs.Report.CsvReading
import ApkReport.Proofs.Report.Saving

namespace ApkReport.Report

theorem length_of_mem_records {results : List InspectionResult} {record : List String}
    (h : record ∈ csvColumns :: results.map csvFields) : record.length = 8 := by
  rcases List.mem_cons.1 h with rfl | h
  · rfl
  · obtain ⟨r, -, rfl⟩ := List.mem_map.1 h
    rfl

theorem readCsv?_csv (results : List InspectionResult) : readCsv? (csv results) = some (csvColumns :: results.map csvFields) := by
  refine readCsv?_records fun record h => ?_
  rw [← List.length_pos_iff, length_of_mem_records h]
  decide

section Saving

variable {writer : TableWriter} {target : String → String} {text? : String → Bytes → Option String}
  (hwriter : writer.SavesAt target text?) {results : List InspectionResult} {path : String} {s : Session}
include hwriter

theorem on_saveCsv_of_writable (h : Writable target s.files (pathText path)) :
    ((saveCsv writer results path).on s).1 = .ok results.length := by
  obtain ⟨written, _, hsaved, -⟩ := saved_of_writable hwriter h (summaryTable results)
  rw [on_saveCsv, hsaved]

theorem text_of_on_saveCsv {t : Session} {n : Nat} (h : (saveCsv writer results path).on s = (.ok n, t)) :
    n = results.length ∧ ∃ content, t.files.read (target (pathText path)) = .ok content ∧
      text? (pathText path) content = some (csv results) := by
  rw [on_saveCsv] at h
  rcases hsaved : saved writer s.files (pathText path) (summaryTable results) with ⟨f | ⟨⟩, files⟩
  · rw [hsaved] at h
    cases h
  · rw [hsaved] at h
    cases h
    exact ⟨rfl, text_of_saved hwriter hsaved⟩

end Saving

/-- Saving yields the number of results, and what it leaves is read back: the columns and then a record for each result,
whose cells yield the lists if their items are told apart by the separator. Features need more: none may end with a
semicolon. -/
theorem csv_readable {writer : TableWriter} {target : String → String} {text? : String → Bytes → Option String}
    (hwriter : writer.SavesAt target text?) (results : List InspectionResult) :
    (∀ (path : String) (s : Session),
      (Writable target s.files (pathText path) → ((saveCsv writer results path).on s).1 = .ok results.length) ∧
      ∀ n t, (saveCsv writer results path).on s = (.ok n, t) → n = results.length ∧
        ∃ content text, t.files.read (target (pathText path)) = .ok content ∧ text? (pathText path) content = some text ∧
          readCsv? text = some (csvColumns :: results.map csvFields)) ∧
    (∀ record ∈ csvColumns :: results.map csvFields, record.length = 8) ∧
    ∀ r ∈ results, ∃ permissions features apis packages intents providers,
      csvFields r = [r.filePath, r.packageName.getD "", permissions, features, apis, packages, intents, providers] ∧
      ((∀ s ∈ r.permissions, IsItem s) → cellItems permissions = r.permissions) ∧
      ((∀ f ∈ r.features, IsItem f.name) →
        (cellFeatures? features = some r.features ↔ ∀ f ∈ r.features, f.name.toList.getLast? ≠ some ';')) ∧
      ((∀ s ∈ r.hardwareApis, IsItem s) → cellItems apis = r.hardwareApis) ∧
      ((∀ s ∈ r.queriedPackages, IsItem s) → cellItems packages = r.queriedPackages) ∧
      ((∀ s ∈ r.queriedIntents, IsItem s) → cellItems intents = r.queriedIntents) ∧
      ((∀ s ∈ r.queriedProviders, IsItem s) → cellItems providers = r.queriedProviders) := by
  refine ⟨fun path s => ⟨on_saveCsv_of_writable hwriter, fun n t h => ?_⟩, fun _ => length_of_mem_records, fun r _ => ?_⟩
  · obtain ⟨hn, content, hread, htext⟩ := text_of_on_saveCsv hwriter h
    exact ⟨hn, content, _, hread, htext, readCsv?_csv results⟩
  · exact ⟨_, _, _, _, _, _, rfl, cellItems_of_items, cellFeatures?_joined, cellItems_of_items, cellItems_of_items,
      cellItems_of_items, cellItems_of_items⟩

/-- A result whose items look like marks and parts of separators, and whose path asks for quotation marks. -/
def misleadingCells : InspectionResult where
  filePath := "a,\"b\"\n.apk"
  permissions := [" p", "x (required)", "q;", " ;"]
  features := [⟨"a (optional)", true⟩, ⟨" ;b", false⟩]

/-- A session without files. -/
def emptySession : Session where
  files := ⟨"/", []⟩
  tempRoot := "/tmp"

/-- The summary of one result is saved in a directory that is made for it, and is read back with all its lists. -/
theorem csv_readable_misleading :
    ((saveCsv fileWriter [misleadingCells] "out/r.csv").on emptySession).1 = .ok 1 ∧
    (∃ content,
      ((saveCsv fileWriter [misleadingCells] "out/r.csv").on emptySession).2.files.read "out/r.csv" = .ok content ∧
      (fileText? "out/r.csv" content).bind readCsv? = some [csvColumns, csvFields misleadingCells]) ∧
    (csvFields misleadingCells)[2]?.map cellItems = some misleadingCells.permissions ∧
    (csvFields misleadingCells)[3]?.bind cellFeatures? = some misleadingCells.features := by
  obtain ⟨hfile, -, hcells⟩ := csv_readable savesAt_fileWriter [misleadingCells]
  have hpath : pathText "out/r.csv" = "out/r.csv" := by decide
  obtain ⟨hsaved, hread⟩ := hfile "out/r.csv" emptySession
  rw [hpath] at hsaved hread
  have hok := hsaved ⟨by decide, _, rfl, by decide, _, rfl, rfl⟩
  obtain ⟨-, content, text, hcontent, htext, hrecords⟩ := hread _ _ (Prod.ext hok rfl)
  obtain ⟨_, _, _, _, _, _, hfields, hpermissions, hfeatures, -⟩ := hcells misleadingCells List.mem_cons_self
  refine ⟨hok, ⟨content, hcontent, ?_⟩, ?_, ?_⟩
  · rw [htext, Option.bind_some, hrecords, List.map_singleton]
  · have hitems : ∀ s ∈ misleadingCells.permissions, IsItem s := by decide +kernel
    rw [hfields]
    exact congrArg some (hpermissions hitems)
  · have hitems : ∀ f ∈ misleadingCells.features, IsItem f.name := by decide +kernel
    have hlast : ∀ f ∈ misleadingCells.features, f.name.toList.getLast? ≠ some ';' := by decide
    rw [hfields]
    exact (hfeatures hitems).2 hlast

/-- The semicolon at the end of a name and the blank of the mark behind it make a separator. -/
theorem feature_cut_at_semicolon :
    IsItem "a;" ∧
      csvFields { filePath := "a.apk", features := [⟨"a;", true⟩] } = ["a.apk", "", "", "a; (required)", "", "", "", ""] ∧
      cellItems "a; (required)" = ["a", "(required)"] ∧ cellFeatures? "a; (required)" ≠ some [⟨"a;", true⟩] := by
  decide

end ApkReport.Report
