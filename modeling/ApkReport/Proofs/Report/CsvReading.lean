/-
Reading a summary: commas end fields and line feeds end records, unless they stand within quotation
marks, where a doubled mark stands for one. A text that was written of records is read back as the
records, whatever stands in their fields (`readCsv?_records`).
-/
import ApkReport.Report.Csv
import Mathlib.Data.List.Basic

namespace ApkReport.Report

/-! ## The reader -/

/-- Where a reader stands in a field: before its first character, among characters without quotation marks, within
quotation marks, or behind a mark that ends them unless another one follows. -/
inductive CsvPosition where
  | start
  | plain
  | quoted
  | marked
  deriving DecidableEq, Repr

/-- What was read: the characters of the field, the fields of the record before it, and the records before that. -/
structure CsvReader where
  position : CsvPosition := .start
  field : List Char := []
  record : List String := []
  records : List (List String) := []
  deriving DecidableEq, Repr

namespace CsvReader

def keep (r : CsvReader) (position : CsvPosition) (c : Char) : CsvReader := { r with position, field := r.field ++ [c] }

def endField (r : CsvReader) : CsvReader := { r with position := .start, field := [], record := r.record ++ [String.ofList r.field] }

def endRecord (r : CsvReader) : CsvReader :=
  { r.endField with record := [], records := r.records ++ [r.endField.record] }

/-- Outside quotation marks, a quotation mark may open a field or follow one; other characters may not follow one. -/
def step (r : CsvReader) (c : Char) : Option CsvReader :=
  match r.position with
  | .quoted => some (if c = '"' then { r with position := .marked } else r.keep .quoted c)
  | position =>
    if c = ',' then some r.endField
    else if c = '\n' then some r.endRecord
    else if c = '"' then
      match position with
      | .start => some { r with position := .quoted }
      | .marked => some (r.keep .quoted c)
      | _ => none
    else if position = .marked then none
    else some (r.keep .plain c)

def run (r : CsvReader) (text : List Char) : Option CsvReader := text.foldlM step r

theorem run_append (r : CsvReader) (s t : List Char) : r.run (s ++ t) = (r.run s).bind (·.run t) := List.foldlM_append

theorem run_cons (r : CsvReader) (c : Char) (t : List Char) : r.run (c :: t) = (r.step c).bind (·.run t) := List.foldlM_cons

end CsvReader

/-- The records of a text, of which the last one is ended too. -/
def readCsv? (s : String) : Option (List (List String)) := do
  let r ← CsvReader.run {} s.toList
  if r = { records := r.records } then some r.records else none

/-! ## Fields -/

namespace CsvReader

variable (r : CsvReader)

/-- Within quotation marks each mark is read from two, and all else as it is. -/
theorem run_doubleQuotes (s : List Char) :
    { r with position := .quoted }.run (doubleQuotes s) = some { r with position := .quoted, field := r.field ++ s } := by
  induction s generalizing r with
  | nil =>
    rw [List.append_nil]
    rfl
  | cons c s ih =>
    have hfirst : { r with position := .quoted }.run (if c = '"' then ['"', '"'] else [c]) =
        some { r with position := .quoted, field := r.field ++ [c] } := by
      by_cases hc : c = '"'
      · subst hc
        rfl
      · rw [if_neg hc, run_cons, step]
        simp only [if_neg hc]
        rfl
    have hrest := ih { r with field := r.field ++ [c] }
    rw [doubleQuotes, List.flatMap_cons, run_append, hfirst, Option.bind_some, ← doubleQuotes, hrest, List.append_assoc]
    rfl

/-- A character that asks for no quotation marks is read as it is. -/
theorem step_plain {c : Char} (hc : ¬ (c = ',' ∨ c = '"' ∨ c = '\n')) (hr : r.position = .start ∨ r.position = .plain) :
    r.step c = some (r.keep .plain c) := by
  simp only [not_or] at hc
  obtain ⟨hcomma, hquote, hbreak⟩ := hc
  unfold step
  rcases hr with hr | hr <;> simp [hr, hcomma, hquote, hbreak]

theorem run_plain {s : List Char} (hs : needsQuotes s = false) (hr : r.position = .start ∨ r.position = .plain) :
    ∃ position, position ≠ .quoted ∧ r.run s = some { r with position, field := r.field ++ s } := by
  induction s generalizing r with
  | nil =>
    refine ⟨r.position, ?_, by rw [List.append_nil]; rfl⟩
    rcases hr with hr | hr <;> simp [hr]
  | cons c s ih =>
    rw [needsQuotes, List.any_cons, Bool.or_eq_false_iff] at hs
    have hc : ¬ (c = ',' ∨ c = '"' ∨ c = '\n') := by simpa [not_or, and_assoc] using hs.1
    obtain ⟨position, hposition, hrun⟩ := ih (r.keep .plain c) hs.2 (.inr rfl)
    refine ⟨position, hposition, ?_⟩
    rw [run_cons, r.step_plain hc hr, Option.bind_some, hrun, keep]
    simp

/-- A reader that stands before a field stands behind it once it has read it, and has kept its text. -/
theorem run_csvField (hstart : r.position = .start) (hempty : r.field = []) (field : String) :
    ∃ position, position ≠ .quoted ∧ r.run (csvField field) = some { r with position, field := field.toList } := by
  unfold csvField
  cases hs : needsQuotes field.toList with
  | false =>
    obtain ⟨position, hposition, hrun⟩ := r.run_plain hs (.inl hstart)
    refine ⟨position, hposition, ?_⟩
    rw [if_neg (by decide), hrun, hempty, List.nil_append]
  | true =>
    refine ⟨.marked, by decide, ?_⟩
    have hopen : r.step '"' = some { r with position := .quoted } := by simp [step, hstart]
    have hclose : { r with position := .quoted, field := field.toList }.step '"' =
        some { r with position := .marked, field := field.toList } := rfl
    rw [if_pos rfl, List.cons_append, run_cons, hopen, Option.bind_some, run_append, run_doubleQuotes, Option.bind_some, hempty,
      List.nil_append, run_cons, hclose]
    rfl

theorem step_comma (h : r.position ≠ .quoted) : r.step ',' = some r.endField := by
  unfold step
  cases hp : r.position <;> simp [hp] at h ⊢

theorem step_break (h : r.position ≠ .quoted) : r.step '\n' = some r.endRecord := by
  unfold step
  cases hp : r.position <;> simp [hp] at h ⊢

end CsvReader

/-! ## Records -/

/-- A reader at the start of a record. -/
def CsvReader.after (record : List String) (records : List (List String)) : CsvReader := { record, records }

namespace CsvReader

variable (record : List String) (records : List (List String))

theorem run_record (field : String) (fields : List String) :
    (after record records).run (csvRecord (field :: fields)) = some (after [] (records ++ [record ++ field :: fields])) := by
  induction fields generalizing record field with
  | nil =>
    obtain ⟨position, hposition, hrun⟩ := run_csvField (after record records) rfl rfl field
    have htext : csvRecord [field] = csvField field ++ ['\n'] := by simp [csvRecord]
    rw [htext, run_append, hrun, Option.bind_some, run_cons, step_break _ hposition, endRecord, endField]
    simp [after, run]
  | cons next fields ih =>
    obtain ⟨position, hposition, hrun⟩ := run_csvField (after record records) rfl rfl field
    have htext : csvRecord (field :: next :: fields) = csvField field ++ ',' :: csvRecord (next :: fields) := by
      simp [csvRecord]
    have hrest := ih (record ++ [field]) next
    rw [htext, run_append, hrun, Option.bind_some, run_cons, step_comma _ hposition, endField, Option.bind_some]
    simp only [after, String.ofList_toList, List.append_assoc] at hrest ⊢
    exact hrest

theorem run_records (later : List (List String)) (h : ∀ fields ∈ later, fields ≠ []) :
    (after [] records).run (later.flatMap csvRecord) = some (after [] (records ++ later)) := by
  induction later generalizing records with
  | nil =>
    rw [List.append_nil]
    rfl
  | cons fields later ih =>
    obtain ⟨field, fields, rfl⟩ := List.exists_cons_of_ne_nil (h fields List.mem_cons_self)
    have hrest := ih (records ++ [field :: fields]) fun fields hf => h fields (List.mem_cons_of_mem _ hf)
    rw [List.flatMap_cons, run_append, run_record, Option.bind_some, List.nil_append, hrest, List.append_assoc]
    rfl

end CsvReader

/-- Records are read back. -/
theorem readCsv?_records {records : List (List String)} (h : ∀ fields ∈ records, fields ≠ []) :
    readCsv? (String.ofList (records.flatMap csvRecord)) = some records := by
  have hrun : CsvReader.run {} (records.flatMap csvRecord) = some (CsvReader.after [] records) :=
    CsvReader.run_records [] records h
  rw [readCsv?, String.toList_ofList, hrun]
  exact if_pos rfl

end ApkReport.Report
