/-
What the extension of a path depends on: the part behind the last slash alone, and of that, a
dot with something other than a dot before it (`HasNamedDot`). Directories and leading dots play
no part. An extension in plain characters has few spellings (`spells_nameExtension_iff`), and those
of the bundles are listed place by place (`bundleLetters`).
-/
import ApkReport.FileKind
import ApkReport.Proofs.Text.LastPart
import ApkReport.Proofs.Text.LowerCase

namespace ApkReport

open Text

/-! ## Base names -/

/-- The base name has no slash, and it is the path or stands behind a slash of it. -/
theorem baseName_eq_iff (path base : List Char) :
    baseName path = base ↔ '/' ∉ base ∧ (path = base ∨ ∃ folder, path = folder ++ '/' :: base) :=
  rtakeWhile_ne_iff

theorem baseName_of_free {base : List Char} (h : '/' ∉ base) : baseName base = base :=
  (baseName_eq_iff base base).2 ⟨h, .inl rfl⟩

theorem baseName_append_slash (folder path : List Char) : baseName (folder ++ '/' :: path) = baseName path :=
  rtakeWhile_append_cons folder path (by decide)

/-! ## Extensions of names -/

/-- Some dot of the name has a character other than a dot before it, next to it or not. -/
def HasNamedDot (base : List Char) : Prop := ∃ front back, base = front ++ '.' :: back ∧ ∃ c ∈ front, c ≠ '.'

/-- The leading dots end within a text that has another character. -/
theorem dropWhile_dot_append {front : List Char} (h : ∃ c ∈ front, c ≠ '.') (back : List Char) :
    (front ++ back).dropWhile (· = '.') = front.dropWhile (· = '.') ++ back := by
  have hkept : front.dropWhile (· = '.') ≠ [] := by simpa [List.dropWhile_eq_nil_iff] using h
  rw [List.dropWhile_append, if_neg (by simpa using hkept)]

theorem hasNamedDot_iff (base : List Char) : HasNamedDot base ↔ '.' ∈ base.dropWhile (· = '.') := by
  constructor
  · rintro ⟨front, back, rfl, hother⟩
    rw [dropWhile_dot_append hother]
    exact List.mem_append_right _ List.mem_cons_self
  · intro hdot
    have hfirst := List.head_dropWhile_not (p := (· = '.')) (List.ne_nil_of_mem hdot)
    have hbase := List.takeWhile_append_dropWhile (p := (· = '.')) (l := base)
    cases hnamed : base.dropWhile (· = '.') with
    | nil => simp [hnamed] at hdot
    | cons c rest =>
      simp only [hnamed, List.head_cons, decide_eq_false_iff_not] at hfirst
      rw [hnamed] at hdot hbase
      -- the first character that is kept is no dot, so the dot that was found stands behind it
      obtain ⟨front, back, rfl⟩ := List.append_of_mem (List.mem_of_ne_of_mem (Ne.symm hfirst) hdot)
      refine ⟨base.takeWhile (· = '.') ++ c :: front, back, ?_, c, by simp, hfirst⟩
      rw [List.append_assoc, List.cons_append, hbase]

instance (base : List Char) : Decidable (HasNamedDot base) := decidable_of_iff _ (hasNamedDot_iff base).symm

/-- A name with such a dot has a last one, and that has another character before it too. -/
theorem HasNamedDot.exists_last {base : List Char} (h : HasNamedDot base) :
    ∃ front back, base = front ++ '.' :: back ∧ '.' ∉ back ∧ ∃ c ∈ front, c ≠ '.' := by
  obtain ⟨front, back, rfl, c, hc, hne⟩ := h
  obtain ⟨hlast, hwhole | ⟨more, hback⟩⟩ := rtakeWhile_ne_iff.1 (rfl : back.rtakeWhile (· ≠ '.') = _)
  · exact ⟨front, _, congrArg (front ++ '.' :: ·) hwhole, hlast, c, hc, hne⟩
  · refine ⟨front ++ '.' :: more, _, ?_, hlast, c, List.mem_append_left _ hc, hne⟩
    rw [List.append_assoc, List.cons_append, ← hback]

theorem nameExtension_eq_nil {base : List Char} (h : ¬ HasNamedDot base) : nameExtension base = [] := by
  rw [hasNamedDot_iff] at h
  rw [nameExtension, if_neg (by simpa using h)]

theorem nameExtension_append {front back : List Char} (hfront : ∃ c ∈ front, c ≠ '.') (hback : '.' ∉ back) :
    nameExtension (front ++ '.' :: back) = '.' :: back := by
  rw [nameExtension, dropWhile_dot_append hfront, if_pos (by simp)]
  exact congrArg ('.' :: ·) (rtakeWhile_ne_iff.2 ⟨hback, .inr ⟨_, rfl⟩⟩)

/-- The extension of a name is empty, or reaches from its last dot to its end. -/
theorem nameExtension_eq_iff (base ext : List Char) :
    nameExtension base = ext ↔ ¬ HasNamedDot base ∧ ext = [] ∨
      ∃ front back, base = front ++ '.' :: back ∧ '.' ∉ back ∧ (∃ c ∈ front, c ≠ '.') ∧ ext = '.' :: back := by
  constructor
  · rintro rfl
    by_cases hdot : HasNamedDot base
    · obtain ⟨front, back, rfl, hback, hfront⟩ := hdot.exists_last
      exact .inr ⟨front, back, rfl, hback, hfront, nameExtension_append hfront hback⟩
    · exact .inl ⟨hdot, nameExtension_eq_nil hdot⟩
  · rintro (⟨hdot, rfl⟩ | ⟨front, back, rfl, hback, hfront, rfl⟩)
    · exact nameExtension_eq_nil hdot
    · exact nameExtension_append hfront hback

theorem nameExtension_dots (n : Nat) (base : List Char) :
    nameExtension (List.replicate n '.' ++ base) = nameExtension base := by
  rw [nameExtension, nameExtension, List.dropWhile_append_of_pos fun c hc => by simpa using List.eq_of_mem_replicate hc]

/-- A name has a plain extension exactly if it ends with a spelling of it and has something other than dots before that. -/
theorem spells_nameExtension_iff {base word : List Char} (hword : ∀ x ∈ word, IsPlain x) (hdot : '.' ∉ word) :
    Spells (nameExtension base) ('.' :: word) ↔
      ∃ name ext, base = name ++ ext ∧ (∃ c ∈ name, c ≠ '.') ∧ Spells ext ('.' :: word) := by
  constructor
  · intro h
    rcases (nameExtension_eq_iff base _).1 rfl with ⟨-, hnil⟩ | ⟨name, back, hsplit, -, hname, hext⟩
    · rw [hnil] at h
      cases h
    · exact ⟨name, _, hsplit, hname, hext ▸ h⟩
  · rintro ⟨name, ext, rfl, hname, h⟩
    cases h with
    | @cons c _ back _ hc hback =>
      obtain rfl : c = '.' := List.mem_singleton.1 hc
      have hfree : '.' ∉ back := Spells.not_mem hback hword (by decide) rfl hdot
      rw [nameExtension_append hname hfree]
      exact .cons hc hback

/-! ## Extensions of paths -/

theorem fileExtension_eq_iff (path ext : String) :
    fileExtension path = ext ↔ ¬ HasNamedDot (baseName path.toList) ∧ ext = "" ∨
      ∃ front back, baseName path.toList = front ++ '.' :: back ∧ '.' ∉ back ∧ (∃ c ∈ front, c ≠ '.') ∧
        ext = lower (String.ofList ('.' :: back)) := by
  rw [fileExtension]
  constructor
  · rintro rfl
    have hname := (nameExtension_eq_iff (baseName path.toList) _).1 rfl
    rcases hname with ⟨hdot, hnil⟩ | ⟨front, back, hsplit, hback, hfront, hext⟩
    · exact .inl ⟨hdot, by rw [hnil]; rfl⟩
    · exact .inr ⟨front, back, hsplit, hback, hfront, by rw [hext]⟩
  · rintro (⟨hdot, rfl⟩ | ⟨front, back, hsplit, hback, hfront, rfl⟩)
    · rw [nameExtension_eq_nil hdot]
      rfl
    · rw [hsplit, nameExtension_append hfront hback]

theorem fileExtension_baseName (path : String) :
    fileExtension path = fileExtension (String.ofList (baseName path.toList)) := by
  have hfree := ((baseName_eq_iff path.toList _).1 rfl).1
  rw [fileExtension, fileExtension, String.toList_ofList, baseName_of_free hfree]

theorem fileExtension_append_slash (folder path : String) : fileExtension (folder ++ "/" ++ path) = fileExtension path := by
  have hpath : (folder ++ "/" ++ path).toList = folder.toList ++ '/' :: path.toList := by simp
  rw [fileExtension, hpath, baseName_append_slash, ← fileExtension]

/-- The dots lead the base name, or stand before a slash and lead the name of a folder. -/
theorem fileExtension_dots (n : Nat) (path : String) :
    fileExtension (String.ofList (List.replicate n '.') ++ path) = fileExtension path := by
  rw [fileExtension, fileExtension, String.toList_append, String.toList_ofList]
  obtain ⟨hfree, hwhole | ⟨folder, hpath⟩⟩ := (baseName_eq_iff path.toList _).1 rfl
  · rw [← hwhole] at hfree ⊢
    have hdots : '/' ∉ List.replicate n '.' ++ path.toList := by simp [hfree]
    rw [baseName_of_free hdots, nameExtension_dots]
  · conv_lhs => rw [hpath, ← List.append_assoc, baseName_append_slash, baseName_of_free hfree]

/-! ## Names of bundles -/

/-- The characters that may stand in each place of the extension of a bundle. -/
def bundleLetters : List (List Char) := [['.'], ['a', 'A'], ['p', 'P'], ['k', 'K', '\u212A'], ['m', 'M']]

theorem isBundle_iff (path : String) :
    isBundle path = true ↔
      ∃ name ext, baseName path.toList = name ++ ext ∧ (∃ c ∈ name, c ≠ '.') ∧ List.Forall₂ (· ∈ ·) ext bundleLetters := by
  have hplain : ∀ x ∈ bundleExtension.toList, IsPlain x := isPlain_of_all (by decide)
  have hword : bundleExtension.toList = '.' :: ['a', 'p', 'k', 'm'] := by decide
  have hletters : bundleLetters = bundleExtension.toList.map spellings := by decide
  rw [isBundle, decide_eq_true_eq, fileExtension, lower_eq_iff hplain, String.toList_ofList]
  simp only [hletters, forall₂_spellings_iff]
  rw [hword] at hplain ⊢
  exact spells_nameExtension_iff (List.forall_mem_cons.1 hplain).2 (by decide)

/-- The base name is what stands behind the last slash. The extension is empty if no dot of the base name has something
other than a dot before it, and else the lower case of the base name from its last dot on; so it depends on the base name
alone, and a folder or leading dots do not change it. A path names a bundle exactly if its base name ends in five of the
letters that may stand in their places and has something other than dots before them. -/
theorem fileExtension_of_baseName :
    (∀ path base : List Char,
      baseName path = base ↔ '/' ∉ base ∧ (path = base ∨ ∃ folder, path = folder ++ '/' :: base)) ∧
    (∀ path ext : String, fileExtension path = ext ↔ ¬ HasNamedDot (baseName path.toList) ∧ ext = "" ∨
      ∃ front back, baseName path.toList = front ++ '.' :: back ∧ '.' ∉ back ∧ (∃ c ∈ front, c ≠ '.') ∧
        ext = lower (String.ofList ('.' :: back))) ∧
    (∀ path : String, fileExtension path = fileExtension (String.ofList (baseName path.toList))) ∧
    (∀ folder path : String, fileExtension (folder ++ "/" ++ path) = fileExtension path) ∧
    (∀ (n : Nat) (path : String), fileExtension (String.ofList (List.replicate n '.') ++ path) = fileExtension path) ∧
    ∀ path : String, isBundle path = true ↔
      ∃ name ext, baseName path.toList = name ++ ext ∧ (∃ c ∈ name, c ≠ '.') ∧
        List.Forall₂ (· ∈ ·) ext bundleLetters :=
  ⟨baseName_eq_iff, fileExtension_eq_iff, fileExtension_baseName, fileExtension_append_slash, fileExtension_dots, isBundle_iff⟩

end ApkReport
