/-
What a report shows of a result, and reading single items of it back: a text behind or before a
mark, a feature by the mark at the end of its description, a list item by item.
-/
import ApkReport.Manifest.Summary
import Mathlib.Data.List.Basic

namespace ApkReport

/-- The result as the reports for readers show it: an empty package name counts as none. -/
def InspectionResult.shown (r : InspectionResult) : InspectionResult := { r with packageName := nonEmpty? r.packageName }

/-- Items that are read one by one are read as a list. -/
theorem mapM_map_of_read {α β : Type} {write : α → β} {read : β → Option α} (h : ∀ a, read (write a) = some a) (l : List α) :
    (l.map write).mapM read = some l := by
  have hpure : read ∘ write = fun a => (pure (id a) : Option α) := funext h
  rw [List.mapM_map, hpure, List.mapM_pure, List.map_id]
  rfl

/-! ## Marks -/

/-- What stands behind a mark at the start. -/
def afterMark? (mark s : String) : Option String := (s.toList.dropPrefix? mark.toList).map String.ofList

/-- What stands before a mark at the end. -/
def beforeMark? (mark s : String) : Option String := (s.toList.dropSuffix? mark.toList).map String.ofList

theorem afterMark?_eq_some {mark s t : String} : afterMark? mark s = some t ↔ s = mark ++ t := by
  rw [afterMark?, Option.map_eq_some_iff]
  simp only [List.dropPrefix?_eq_some_iff, beq_iff_eq]
  constructor
  · rintro ⟨rest, ⟨_, hs, rfl⟩, rfl⟩
    rw [← String.toList_inj, hs, String.toList_append, String.toList_ofList]
  · rintro rfl
    exact ⟨t.toList, ⟨_, String.toList_append, rfl⟩, String.ofList_toList⟩

theorem beforeMark?_eq_some {mark s t : String} : beforeMark? mark s = some t ↔ s = t ++ mark := by
  rw [beforeMark?, Option.map_eq_some_iff]
  simp only [List.dropSuffix?_eq_some_iff, beq_iff_eq]
  constructor
  · rintro ⟨rest, ⟨_, hs, rfl⟩, rfl⟩
    rw [← String.toList_inj, hs, String.toList_append, String.toList_ofList]
  · rintro rfl
    exact ⟨t.toList, ⟨_, String.toList_append, rfl⟩, String.ofList_toList⟩

theorem afterMark?_append (mark t : String) : afterMark? mark (mark ++ t) = some t := afterMark?_eq_some.2 rfl

theorem beforeMark?_append (mark t : String) : beforeMark? mark (t ++ mark) = some t := beforeMark?_eq_some.2 rfl

/-! ## Features -/

/-- The feature that is described: the mark at the end says whether it is required. -/
def Feature.ofDescription? (s : String) : Option Feature :=
  ((beforeMark? requiredMark s).map (⟨·, true⟩)).or ((beforeMark? optionalMark s).map (⟨·, false⟩))

/-- No text ends with both marks. -/
theorem append_optionalMark_ne (s t : String) : s ++ optionalMark ≠ t ++ requiredMark := by
  intro h
  have hlist : s.toList ++ optionalMark.toList = t.toList ++ requiredMark.toList := by
    rw [← String.toList_append, h, String.toList_append]
  exact absurd (List.append_inj_right' hlist (by decide)) (by decide)

theorem Feature.ofDescription?_describe (f : Feature) : ofDescription? f.describe = some f := by
  obtain ⟨name, required⟩ := f
  cases required with
  | true =>
    have hrequired : beforeMark? requiredMark (describe ⟨name, true⟩) = some name := beforeMark?_append _ _
    rw [ofDescription?, hrequired]
    rfl
  | false =>
    have hoptional : beforeMark? optionalMark (describe ⟨name, false⟩) = some name := beforeMark?_append _ _
    have hrequired : beforeMark? requiredMark (describe ⟨name, false⟩) = none := by
      rw [Option.eq_none_iff_forall_ne_some]
      intro t h
      exact append_optionalMark_ne name t (beforeMark?_eq_some.1 h)
    rw [ofDescription?, hrequired, hoptional]
    rfl

end ApkReport
