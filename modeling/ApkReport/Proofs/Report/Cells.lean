/-
The lists in the cells of a summary. Cutting a joined text at its separators is cutting each of its
items, since no separator begins where another one ends (`splitItems_separator`). So a list is read
back from its cell if no item is empty or holds a separator. A feature is shown with a mark behind
its name that begins with a blank, so after a semicolon at the end of a name the cell is cut there.
-/
import ApkReport.Proofs.Report.Items
import ApkReport.Report.Csv

namespace ApkReport.Report

/-! ## Cutting -/

/-- The parts of a text between its separators, from left to right. -/
def splitItems : List Char → List (List Char)
  | [] => [[]]
  | ';' :: ' ' :: rest => [] :: splitItems rest
  | c :: rest => (splitItems rest).modifyHead (c :: ·)

/-- The items that the text of a cell holds. -/
def cellItems (cell : String) : List String := if cell.isEmpty then [] else (splitItems cell.toList).map String.ofList

/-- The features that the text of a cell holds. -/
def cellFeatures? (cell : String) : Option (List Feature) := (cellItems cell).mapM Feature.ofDescription?

theorem toList_csvListSeparator : csvListSeparator.toList = [';', ' '] := rfl

theorem splitItems_ne_nil (s : List Char) : splitItems s ≠ [] := by
  fun_induction splitItems s with
  | case1 => exact List.cons_ne_nil _ _
  | case2 => exact List.cons_ne_nil _ _
  | case3 c rest _ ih =>
    obtain ⟨part, parts, h⟩ := List.exists_cons_of_ne_nil ih
    rw [h]
    exact List.cons_ne_nil _ _

/-- A text is cut at every separator, whatever stands around it. -/
theorem splitItems_separator (s t : List Char) : splitItems (s ++ ';' :: ' ' :: t) = splitItems s ++ splitItems t := by
  fun_induction splitItems s with
  | case1 => rfl
  | case2 rest ih =>
    rw [List.cons_append, List.cons_append, splitItems, ih]
    rfl
  | case3 c rest hc ih =>
    have hcut : ∀ more, c = ';' → rest ++ ';' :: ' ' :: t = ' ' :: more → False := by
      intro more hsemicolon hblank
      cases rest with
      | nil => simp at hblank
      | cons d rest => exact hc rest hsemicolon (by rw [(List.cons.inj hblank).1])
    obtain ⟨part, parts, hparts⟩ := List.exists_cons_of_ne_nil (splitItems_ne_nil rest)
    rw [List.cons_append, splitItems, ih, hparts]
    · rfl
    · exact hcut

/-- A text without separators stays whole. -/
theorem splitItems_of_free {s : List Char} (h : ¬ csvListSeparator.toList <:+: s) : splitItems s = [s] := by
  rw [toList_csvListSeparator] at h
  fun_induction splitItems s with
  | case1 => rfl
  | case2 rest ih => exact absurd ⟨[], rest, rfl⟩ h
  | case3 c rest _ ih =>
    have hrest : ¬ [';', ' '] <:+: rest := fun hin => h (hin.trans (List.suffix_cons c rest).isInfix)
    rw [ih hrest]
    rfl

theorem splitItems_intercalate {items : List (List Char)} (h : items ≠ []) :
    splitItems (csvListSeparator.toList.intercalate items) = items.flatMap splitItems := by
  induction items with
  | nil => exact absurd rfl h
  | cons item items ih =>
    cases items with
    | nil => simp
    | cons next items =>
      have hrest := ih (List.cons_ne_nil _ _)
      rw [List.flatMap_cons, ← hrest, ← splitItems_separator]
      simp [List.intercalate_cons_cons, toList_csvListSeparator]

/-- Two texts without separators make one, unless a separator stands at their seam. -/
theorem splitItems_append {s t : List Char} (hs : ¬ csvListSeparator.toList <:+: s) (hseam : s.getLast? ≠ some ';')
    (ht : splitItems t = [t]) : splitItems (s ++ t) = [s ++ t] := by
  rw [toList_csvListSeparator] at hs
  induction s with
  | nil => exact ht
  | cons c rest ih =>
    have hrest : ¬ [';', ' '] <:+: rest := fun hin => hs (hin.trans (List.suffix_cons c rest).isInfix)
    have hlast : rest.getLast? ≠ some ';' := by
      cases rest with
      | nil => simp
      | cons d rest => rwa [List.getLast?_cons_cons] at hseam
    have hcut : ∀ more, c = ';' → rest ++ t = ' ' :: more → False := by
      intro more hsemicolon hblank
      subst hsemicolon
      cases rest with
      | nil => exact hseam rfl
      | cons d rest =>
        rw [List.cons_append] at hblank
        rw [(List.cons.inj hblank).1] at hs
        exact hs ⟨[], rest, rfl⟩
    rw [List.cons_append, splitItems, ih hrest hlast]
    · rfl
    · exact hcut

/-! ## Lists -/

/-- An item that can be told from others in a cell. -/
def IsItem (s : String) : Prop := s ≠ "" ∧ ¬ csvListSeparator.toList <:+: s.toList

instance : DecidablePred IsItem := fun s => inferInstanceAs (Decidable (s ≠ "" ∧ ¬ csvListSeparator.toList <:+: s.toList))

theorem cellItems_joined {items : List String} (h : ∀ s ∈ items, s ≠ "") :
    cellItems (csvListSeparator.intercalate items) = items.flatMap fun s => (splitItems s.toList).map String.ofList := by
  cases items with
  | nil => rfl
  | cons item items =>
    have hfilled : (csvListSeparator.intercalate (item :: items)).isEmpty = false := by
      rw [Bool.eq_false_iff, ne_eq, String.isEmpty_iff, ← String.toList_eq_nil_iff, String.toList_intercalate]
      have hitem : item.toList ≠ [] := fun he => h item List.mem_cons_self (String.toList_eq_nil_iff.1 he)
      cases items with
      | nil => simpa using hitem
      | cons next items => simp [List.intercalate_cons_cons, hitem]
    rw [cellItems, hfilled, if_neg (by decide), String.toList_intercalate, splitItems_intercalate (by simp), List.map_flatMap,
      List.flatMap_map]

theorem cellItems_of_items {items : List String} (h : ∀ s ∈ items, IsItem s) :
    cellItems (csvListSeparator.intercalate items) = items := by
  rw [cellItems_joined fun s hs => (h s hs).1]
  have hwhole : (items.flatMap fun s => (splitItems s.toList).map String.ofList) = items.flatMap fun s => [s] := by
    refine List.flatMap_congr fun s hs => ?_
    rw [splitItems_of_free (h s hs).2, List.map_singleton, String.ofList_toList]
  rw [hwhole, List.flatMap_singleton']

/-! ## Features -/

/-- The mark of a feature stands behind a blank, and no separator stands in it. -/
theorem describe_toList (f : Feature) :
    ∃ mark, f.describe.toList = f.name.toList ++ ' ' :: mark ∧ splitItems (' ' :: mark) = [' ' :: mark] ∧
      splitItems mark = [mark] ∧ Feature.ofDescription? (String.ofList mark) = none := by
  unfold Feature.describe
  rw [String.toList_append]
  cases f.required with
  | true => exact ⟨"(required)".toList, rfl, by decide, by decide, by decide⟩
  | false => exact ⟨"(optional)".toList, rfl, by decide, by decide, by decide⟩

theorem mapM_eq_none_of_mem {α β : Type} {read : α → Option β} {l : List α} {a : α} (ha : a ∈ l) (h : read a = none) :
    l.mapM read = none := by
  induction l with
  | nil => exact absurd ha List.not_mem_nil
  | cons b l ih =>
    rw [List.mapM_cons]
    rcases List.mem_cons.1 ha with rfl | ha
    · rw [h]
      rfl
    · rw [ih ha]
      cases read b <;> rfl

/-- Features are read back exactly if no name ends with a semicolon. -/
theorem cellFeatures?_joined {features : List Feature} (h : ∀ f ∈ features, IsItem f.name) :
    cellFeatures? (csvListSeparator.intercalate (features.map Feature.describe)) = some features ↔
      ∀ f ∈ features, f.name.toList.getLast? ≠ some ';' := by
  have hfilled : ∀ s ∈ features.map Feature.describe, s ≠ "" := by
    intro s hs
    obtain ⟨f, -, rfl⟩ := List.mem_map.1 hs
    obtain ⟨mark, hmark, -⟩ := describe_toList f
    intro he
    rw [he] at hmark
    simp at hmark
  rw [cellFeatures?, cellItems_joined hfilled, List.flatMap_map]
  constructor
  · intro hread f hf hlast
    -- the mark behind the semicolon is cut off, and is no description
    obtain ⟨mark, hmark, -, hcut, hnone⟩ := describe_toList f
    obtain ⟨front, hfront⟩ := List.getLast?_eq_some_iff.1 hlast
    have hmem : String.ofList mark ∈ features.flatMap fun f => (splitItems f.describe.toList).map String.ofList := by
      rw [List.mem_flatMap]
      refine ⟨f, hf, List.mem_map_of_mem ?_⟩
      rw [hmark, hfront, List.append_assoc, List.singleton_append, splitItems_separator, hcut]
      simp
    rw [mapM_eq_none_of_mem hmem hnone] at hread
    cases hread
  · intro hlast
    have hwhole : (features.flatMap fun f => (splitItems f.describe.toList).map String.ofList) =
        features.flatMap fun f => [f.describe] := by
      refine List.flatMap_congr fun f hf => ?_
      obtain ⟨mark, hmark, hfree, -⟩ := describe_toList f
      rw [hmark, splitItems_append (h f hf).2 (hlast f hf) hfree, ← hmark, List.map_singleton, String.ofList_toList]
    rw [hwhole, ← List.map_eq_flatMap]
    exact mapM_map_of_read Feature.ofDescription?_describe features

end ApkReport.Report
