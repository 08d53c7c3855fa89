/-
The text report of a result can be read, if no line break stands in what it shows. The lines of an
item are not blank, so a section ends at the blank line of the next one, whatever its items look
like (`readSection?_sectionLines`); and the line of the package begins unlike the rule that stands
in its place.
-/
import ApkReport.Proofs.Report.Items
import ApkReport.Report.Text
import Mathlib.Data.List.TakeWhile

namespace ApkReport

/-! ## Lines -/

def HasNoBreak (s : String) : Prop := '\n' ∉ s.toList

instance : DecidablePred HasNoBreak := fun s => inferInstanceAs (Decidable ('\n' ∉ s.toList))

theorem HasNoBreak.append {s t : String} (hs : HasNoBreak s) (ht : HasNoBreak t) : HasNoBreak (s ++ t) := by
  unfold HasNoBreak at hs ht ⊢
  rw [String.toList_append, List.mem_append]
  exact not_or.2 ⟨hs, ht⟩

/-- The lines of a text. -/
def linesOf (s : String) : List String := (s.toList.splitOn '\n').map String.ofList

theorem linesOf_intercalate {lines : List String} (hne : lines ≠ []) (h : ∀ l ∈ lines, HasNoBreak l) :
    linesOf ("\n".intercalate lines) = lines := by
  have hbreak : "\n".toList = ['\n'] := rfl
  have hsplit : (['\n'].intercalate (lines.map String.toList)).splitOn '\n' = lines.map String.toList := by
    refine List.splitOn_intercalate _ (fun l hl => ?_) (by simpa using hne)
    obtain ⟨s, hs, rfl⟩ := List.mem_map.1 hl
    exact h s hs
  rw [linesOf, String.toList_intercalate, hbreak, hsplit, List.map_map]
  simp

/-- The texts that a result holds. -/
def InspectionResult.texts (r : InspectionResult) : List String :=
  r.filePath :: r.packageName.toList ++ r.permissions ++ r.features.map Feature.name ++ r.hardwareApis ++
    r.queriedPackages ++ r.queriedIntents ++ r.queriedProviders

/-- No text of the result is broken into lines. -/
def InspectionResult.IsUnbroken (r : InspectionResult) : Prop := ∀ s ∈ r.texts, HasNoBreak s

instance : DecidablePred InspectionResult.IsUnbroken := fun r => inferInstanceAs (Decidable (∀ s ∈ r.texts, HasNoBreak s))

namespace Report

/-! ## Sections -/

/-- The lists of a result, each under its title. -/
def sections (r : InspectionResult) : List (String × List String) :=
  [("📋 PERMISSIONS:", r.permissions), ("🔧 USES FEATURES:", r.features.map Feature.describe),
    ("📡 HARDWARE APIS (detected in code):", r.hardwareApis), ("📦 QUERIED PACKAGES:", r.queriedPackages),
    ("🎯 QUERIED INTENTS:", r.queriedIntents), ("🔌 QUERIED PROVIDERS:", r.queriedProviders)]

/-- The lines of sections one after another, up to the blank line behind the last. -/
def sectionsLines (sections : List (String × List String)) : List String :=
  sections.flatMap (fun s => sectionLines s.1 s.2) ++ [""]

theorem textLines_eq (r : InspectionResult) :
    textLines r = "" :: rule :: ("File: " ++ r.filePath) :: (packageLine r ++ rule :: sectionsLines (sections r)) := by
  simp [textLines, sectionsLines, sections]

/-- Whatever follows a section begins with a blank line. -/
theorem sectionsLines_head (sections : List (String × List String)) : ∃ rest, sectionsLines sections = "" :: rest := by
  cases sections with
  | nil => exact ⟨_, rfl⟩
  | cons s sections => exact ⟨_, rfl⟩

/-- The items that the lines under a title hold. -/
def readItems? (body : List String) : Option (List String) :=
  if body = ["  (none)"] then some [] else body.mapM (afterMark? "  • ")

/-- The items of the section in front, which goes on behind its title up to the next blank line, and the lines from that
line on. -/
def readSection? (lines : List String) : Option (List String × List String) :=
  (readItems? ((lines.drop 2).takeWhile (· ≠ ""))).map (·, (lines.drop 2).dropWhile (· ≠ ""))

/-- The items of so many sections. -/
def readSections? : Nat → List String → Option (List (List String))
  | 0, lines => if lines = [""] then some [] else none
  | n + 1, lines => do
    let (items, lines) ← readSection? lines
    return items :: (← readSections? n lines)

/-- A bullet stands in front of each item, so no item is taken for the line of an empty section. -/
theorem readItems?_body (items : List String) :
    readItems? (if items.isEmpty then ["  (none)"] else items.map ("  • " ++ ·)) = some items := by
  cases items with
  | nil => rfl
  | cons item items =>
    have hne : (item :: items).map ("  • " ++ ·) ≠ ["  (none)"] := by
      intro h
      have hfirst : afterMark? "  • " ("  • " ++ item) = none := by
        rw [List.map_cons, List.cons_eq_cons] at h
        rw [h.1]
        decide
      rw [afterMark?_append] at hfirst
      cases hfirst
    rw [List.isEmpty_cons, if_neg (by decide), readItems?, if_neg hne]
    exact mapM_map_of_read (fun item => afterMark?_append _ item) _

theorem readSection?_sectionLines (title : String) (items rest : List String) :
    readSection? (sectionLines title items ++ "" :: rest) = some (items, "" :: rest) := by
  have hbody : ∀ l ∈ (if items.isEmpty then ["  (none)"] else items.map ("  • " ++ ·)), decide (l ≠ "") = true := by
    intro l hl
    split at hl
    · rw [List.mem_singleton.1 hl]
      decide
    · obtain ⟨item, -, rfl⟩ := List.mem_map.1 hl
      simp
  rw [readSection?, sectionLines, List.cons_append, List.cons_append, List.drop_succ_cons, List.drop_succ_cons, List.drop_zero,
    List.takeWhile_append_of_pos hbody, List.dropWhile_append_of_pos hbody, List.takeWhile_cons_of_neg (by simp),
    List.dropWhile_cons_of_neg (by simp), List.append_nil, readItems?_body]
  rfl

theorem readSections?_sectionsLines (sections : List (String × List String)) :
    readSections? sections.length (sectionsLines sections) = some (sections.map (·.2)) := by
  induction sections with
  | nil => rfl
  | cons s sections ih =>
    obtain ⟨rest, hrest⟩ := sectionsLines_head sections
    have hlines : sectionsLines (s :: sections) = sectionLines s.1 s.2 ++ sectionsLines sections := by
      simp [sectionsLines]
    rw [List.length_cons, readSections?, hlines, hrest, readSection?_sectionLines, ← hrest]
    simp [ih]

/-! ## Unbroken lines -/

variable {r : InspectionResult}

theorem hasNoBreak_sectionLines {title : String} {items : List String} (htitle : HasNoBreak title)
    (hitems : ∀ s ∈ items, HasNoBreak s) : ∀ l ∈ sectionLines title items, HasNoBreak l := by
  intro l hl
  rw [sectionLines, List.mem_cons, List.mem_cons] at hl
  rcases hl with rfl | rfl | hl
  · decide
  · exact htitle
  · split at hl
    · rw [List.mem_singleton.1 hl]
      decide
    · obtain ⟨s, hs, rfl⟩ := List.mem_map.1 hl
      exact .append (by decide) (hitems s hs)

theorem hasNoBreak_describe {f : Feature} (h : HasNoBreak f.name) : HasNoBreak f.describe := by
  unfold Feature.describe
  refine .append h ?_
  split <;> decide

theorem hasNoBreak_packageLine (h : ∀ p ∈ r.packageName, HasNoBreak p) : ∀ l ∈ packageLine r, HasNoBreak l := by
  intro l hl
  unfold packageLine at hl
  split at hl
  · exact absurd hl List.not_mem_nil
  · rename_i p hp
    split at hl
    · exact absurd hl List.not_mem_nil
    · rw [List.mem_singleton.1 hl]
      exact .append (by decide) (h p hp)

theorem hasNoBreak_textLines (h : r.IsUnbroken) : ∀ l ∈ textLines r, HasNoBreak l := by
  simp only [InspectionResult.IsUnbroken, InspectionResult.texts, List.forall_mem_append, List.forall_mem_cons,
    List.forall_mem_map, Option.mem_toList] at h
  obtain ⟨⟨⟨⟨⟨⟨⟨hfile, hpackage⟩, hpermissions⟩, hfeatures⟩, hapis⟩, hpackages⟩, hintents⟩, hproviders⟩ := h
  have hrule : HasNoBreak rule := by decide
  have hsections : ∀ s ∈ sections r, HasNoBreak s.1 ∧ ∀ item ∈ s.2, HasNoBreak item := by
    simp only [sections, List.forall_mem_cons, List.forall_mem_map]
    refine ⟨⟨by decide, hpermissions⟩, ⟨by decide, fun f hf => hasNoBreak_describe (hfeatures f hf)⟩, ⟨by decide, hapis⟩,
      ⟨by decide, hpackages⟩, ⟨by decide, hintents⟩, ⟨by decide, hproviders⟩, fun _ h => absurd h List.not_mem_nil⟩
  simp only [textLines_eq, sectionsLines, List.forall_mem_cons, List.forall_mem_append, List.forall_mem_flatMap]
  exact ⟨by decide, hrule, .append (by decide) hfile, hasNoBreak_packageLine hpackage, hrule,
    fun s hs => hasNoBreak_sectionLines (hsections s hs).1 (hsections s hs).2, by decide, fun _ h => absurd h List.not_mem_nil⟩

/-! ## Reports -/

/-- The result whose report has these lines. -/
def readLines? (lines : List String) : Option InspectionResult := do
  let filePath ← afterMark? "File: " (← lines[2]?)
  let packageName := afterMark? "Package: " (← lines[3]?)
  match ← readSections? 6 (lines.drop (if packageName.isSome then 5 else 4)) with
  | [permissions, features, hardwareApis, queriedPackages, queriedIntents, queriedProviders] =>
    return {
      filePath, packageName, permissions
      features := ← features.mapM Feature.ofDescription?
      hardwareApis, queriedPackages, queriedIntents, queriedProviders }
  | _ => none

/-- The result whose report a text is. -/
def readText? (s : String) : Option InspectionResult := readLines? (linesOf s)

/-- The line of the package is there if it has a name to show. -/
theorem packageLine_eq (r : InspectionResult) : packageLine r = ((nonEmpty? r.packageName).map ("Package: " ++ ·)).toList := by
  unfold packageLine nonEmpty?
  cases r.packageName with
  | none => rfl
  | some p => cases h : p.isEmpty <;> simp [Option.filter, h]

theorem readLines?_textLines (r : InspectionResult) : readLines? (textLines r) = some r.shown := by
  have hsections : readSections? 6 (sectionsLines (sections r)) = some [r.permissions, r.features.map Feature.describe,
      r.hardwareApis, r.queriedPackages, r.queriedIntents, r.queriedProviders] :=
    readSections?_sectionsLines (sections r)
  have hfeatures : (r.features.map Feature.describe).mapM Feature.ofDescription? = some r.features :=
    mapM_map_of_read Feature.ofDescription?_describe _
  have hrule : afterMark? "Package: " rule = none := by decide
  rw [textLines_eq, packageLine_eq, readLines?, InspectionResult.shown]
  cases nonEmpty? r.packageName with
  | none => simp [afterMark?_append, hrule, hsections, hfeatures]
  | some p => simp [afterMark?_append, hsections, hfeatures]

theorem text_shown (r : InspectionResult) : text r.shown = text r := by
  rw [text, text, textLines_eq, textLines_eq, packageLine_eq, packageLine_eq]
  have hname : nonEmpty? (nonEmpty? r.packageName) = nonEmpty? r.packageName := by
    simp [nonEmpty?, Option.filter_filter]
  rw [InspectionResult.shown, hname]
  rfl

/-- The report of a result without line breaks is read back as the result, but that a package name that is empty is read
as none. So two reports are the same text exactly if they show the same. -/
theorem text_unambiguous :
    (∀ r : InspectionResult, r.IsUnbroken → readText? (text r) = some r.shown) ∧
    ∀ r r' : InspectionResult, r.IsUnbroken → r'.IsUnbroken → (text r = text r' ↔ r.shown = r'.shown) := by
  have hread : ∀ r : InspectionResult, r.IsUnbroken → readText? (text r) = some r.shown := by
    intro r h
    have hne : textLines r ≠ [] := by
      rw [textLines_eq]
      exact List.cons_ne_nil _ _
    rw [readText?, text, linesOf_intercalate hne (hasNoBreak_textLines h), readLines?_textLines]
  refine ⟨hread, fun r r' h h' => ⟨fun htext => ?_, fun hshown => ?_⟩⟩
  · have hsame := hread r h
    rw [htext, hread r' h'] at hsame
    exact (Option.some.inj hsame).symm
  · rw [← text_shown r, hshown, text_shown]

/-- A result whose items look like other parts of the report. -/
def misleading : InspectionResult where
  filePath := "Package: p"
  packageName := some ""
  permissions := ["", "(none)", "📦 QUERIED PACKAGES:"]
  features := [⟨"x (optional)", true⟩]
  queriedIntents := ["  • i"]

/-- The items of one section of the misleading result, in another one. -/
def misplaced : InspectionResult := { misleading with queriedIntents := [], queriedProviders := ["  • i"] }

theorem text_unambiguous_misleading :
    misleading.IsUnbroken ∧ misplaced.IsUnbroken ∧ readText? (text misleading) = some { misleading with packageName := none } ∧
      text misleading ≠ text misplaced := by
  have hunbroken : misleading.IsUnbroken := by decide
  have hunbroken' : misplaced.IsUnbroken := by decide
  refine ⟨hunbroken, hunbroken', text_unambiguous.1 misleading hunbroken, fun h => ?_⟩
  exact absurd ((text_unambiguous.2 misleading misplaced hunbroken hunbroken').1 h) (by decide)

end Report

end ApkReport
