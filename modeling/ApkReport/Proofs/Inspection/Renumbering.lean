/-
Texts that show the number of a temporary directory. The number stands in paths and in what
quotes or joins them, always as the same eight digits, so another number changes these
digits and nothing around them.
-/
import ApkReport.Proofs.Inspection.Cleanup

namespace ApkReport

open Archive FileSystem

/-! ## Texts -/

/-- Texts that differ in a number that they show, in one place, in some or in none. -/
inductive Renumbered (n m : Nat) : String → String → Prop
  | same (a : String) : Renumbered n m a a
  | number : Renumbered n m (numberText n) (numberText m)
  | append {a b c d : String} : Renumbered n m a b → Renumbered n m c d → Renumbered n m (a ++ c) (b ++ d)

theorem renumbered_textual (n m : Nat) : Textual (Renumbered n m) := ⟨.same, .append⟩

theorem Textual.join {T : String → String → Prop} (hT : Textual T) {xs ys : List String} (h : List.Forall₂ T xs ys) :
    T (String.join xs) (String.join ys) := by
  induction h with
  | nil => exact hT.refl _
  | cons hx _ ih =>
    rw [String.join_cons, String.join_cons]
    exact hT.append hx ih

theorem Textual.intercalate {T : String → String → Prop} (hT : Textual T) {xs ys : List String} (h : List.Forall₂ T xs ys) :
    T ("/".intercalate xs) ("/".intercalate ys) := by
  induction h with
  | nil => exact hT.refl _
  | cons hx hxs ih =>
    cases hxs with
    | nil =>
      rw [String.intercalate_singleton, String.intercalate_singleton]
      exact hx
    | cons hy hys =>
      rw [String.intercalate_cons_cons, String.intercalate_cons_cons]
      exact hT.append (hT.append hx (hT.refl _)) ih

/-! ## Paths -/

theorem Textual.pathText {T : String → String → Prop} (hT : Textual T) {p q : String} (hmark : rootMark p = rootMark q)
    (h : List.Forall₂ T (properComponents p) (properComponents q)) (hne : properComponents p ≠ []) :
    T (pathText p) (pathText q) := by
  have hne' : properComponents q ≠ [] := by
    intro he
    rw [he, List.forall₂_nil_right_iff] at h
    exact hne h
  rcases pathText_eq p with ⟨hp, -⟩ | ⟨-, he, -⟩
  · rcases pathText_eq q with ⟨hq, -⟩ | ⟨-, he, -⟩
    · rw [hp, hq, hmark]
      exact hT.append (hT.refl _) (hT.intercalate h)
    · exact absurd he hne'
  · exact absurd he hne

/-! ## The copy in a numbered directory -/

section Copy

variable (root name : String)

theorem numberedPath_renumbered (n m : Nat) : Renumbered n m (numberedPath root name n) (numberedPath root name m) := by
  rw [numberedPath_eq, numberedPath_eq]
  exact .append (.same _) .number

theorem joinPath_copy (n : Nat) :
    joinPath (numberedPath root name n) baseEntryName = joinPath root name ++ (numberText n ++ "/" ++ baseEntryName) := by
  have hne : numberedPath root name n ≠ "" := by
    rw [numberedPath_eq]
    simp [(isComponent_numberText n).1]
  rw [joinPath_plain isComponent_base hne (getLast?_numberedPath root name n), numberedPath_eq]
  simp only [String.append_assoc]

/-- What follows the root is a digit. -/
theorem rootMark_copy (n : Nat) :
    rootMark (joinPath (numberedPath root name n) baseEntryName) = rootMark (joinPath root name) := by
  rw [joinPath_copy, rootMark_append]
  intro he
  obtain ⟨hlen, hdigit⟩ := toList_numberText n
  rw [String.append_assoc, String.toList_append, List.head?_append] at he
  cases hlist : (numberText n).toList with
  | nil =>
    rw [hlist] at hlen
    exact absurd hlen (by decide)
  | cons c rest =>
    rw [hlist] at he
    exact absurd (hdigit '/' (by rw [hlist, Option.some.inj he]; exact List.mem_cons_self)) (by decide)

theorem properComponents_copy : ∃ init stem, ∀ n,
    properComponents (joinPath (numberedPath root name n) baseEntryName) = init ++ [stem ++ numberText n, baseEntryName] := by
  obtain ⟨init, stem, hcs⟩ := components_numberedPath root name
  refine ⟨init.filter (· ≠ "."), stem, fun n => ?_⟩
  have hdot : stem ++ numberText n ≠ "." := (numbered_ne_dots stem n).1
  rw [properComponents, joinPath_copy, ← String.append_assoc, ← String.append_assoc, ← numberedPath_eq, components_slash, hcs,
    components_plain isComponent_base]
  simp [hdot, show baseEntryName ≠ "." by decide]

theorem basePath_renumbered (n m : Nat) :
    Renumbered n m (basePath (numberedPath root name n)) (basePath (numberedPath root name m)) := by
  obtain ⟨init, stem, hproper⟩ := properComponents_copy root name
  unfold basePath
  refine (renumbered_textual n m).pathText ?_ ?_ ?_
  · rw [rootMark_copy, rootMark_copy]
  · rw [hproper, hproper]
    exact List.rel_append (List.forall₂_same.2 fun c _ => .same c) (.cons (.append (.same _) .number) (.cons (.same _) .nil))
  · rw [hproper]
    simp

end Copy

/-! ## Messages -/

section Messages

variable (n m : Nat)

theorem quoteFor_digits (front digits : List Char) (h : ∀ c ∈ digits, c.isDigit) :
    Text.quoteFor (front ++ digits) = Text.quoteFor front := by
  have hout : ∀ c : Char, c.isDigit = false → digits.contains c = false := by
    intro c hc
    rw [List.contains_eq_mem, decide_eq_false_iff_not]
    exact fun hmem => absurd (h c hmem) (by simp [hc])
  unfold Text.quoteFor
  rw [List.contains_append, List.contains_append, hout '\'' (by decide), hout '"' (by decide), Bool.or_false, Bool.or_false]

theorem flatMap_escapeChar_digits {quote : Char} (hq : quote.isDigit = false) {digits : List Char} (h : ∀ c ∈ digits, c.isDigit) :
    digits.flatMap (Text.escapeChar quote) = digits := by
  induction digits with
  | nil => rfl
  | cons c digits ih =>
    have hc : c.isDigit := h c List.mem_cons_self
    have hne : ∀ x : Char, x.isDigit = false → c ≠ x := fun x hx he => absurd hc (by simp [he, hx])
    have hescape : Text.escapeControl? quote c = none := by
      unfold Text.escapeControl?
      simp [hne quote hq, hne '\\' (by decide), hne '\n' (by decide), hne '\r' (by decide), hne '\t' (by decide)]
    have hprintable : Text.isPrintable c := by
      simp only [Char.isDigit, Bool.and_eq_true, decide_eq_true_eq, ge_iff_le, UInt32.le_iff_toNat_le] at hc
      have hlow : 48 ≤ c.toNat := hc.1
      have hhigh : c.toNat ≤ 57 := hc.2
      unfold Text.isPrintable
      rw [if_pos (by omega)]
      simp only [Bool.and_eq_true, decide_eq_true_eq]
      omega
    rw [List.flatMap_cons, ih fun x hx => h x (List.mem_cons_of_mem _ hx), Text.escapeChar, hescape]
    dsimp only
    rw [if_pos hprintable, List.singleton_append]

theorem quoted_renumbered (front : String) :
    Renumbered n m (Text.quoted (front ++ numberText n)) (Text.quoted (front ++ numberText m)) := by
  let quote := Text.quoteFor front.toList
  have hquote : quote.isDigit = false := by
    dsimp only [quote]
    unfold Text.quoteFor
    split <;> rfl
  have hquoted : ∀ k, Text.quoted (front ++ numberText k) =
      String.ofList (quote :: front.toList.flatMap (Text.escapeChar quote)) ++ numberText k ++ String.ofList [quote] := by
    intro k
    have hdigit := (toList_numberText k).2
    rw [Text.quoted, String.toList_append, quoteFor_digits _ _ hdigit, List.flatMap_append,
      flatMap_escapeChar_digits hquote hdigit, ← String.toList_inj]
    simp [quote]
  rw [hquoted, hquoted]
  exact (renumbered_textual n m).around .number _ _

theorem osFailure_renumbered (root name : String) (r : OsReason) :
    Failure.Alike (Renumbered n m) (.os (FileSystem.failure (numberedPath root name n) r))
      (.os (FileSystem.failure (numberedPath root name m) r)) := by
  refine ⟨rfl, .append (.same _) (.append (.same _) ?_)⟩
  rw [numberedPath_eq, numberedPath_eq]
  exact quoted_renumbered n m _

end Messages

/-! ## Events -/

theorem Journal.Template.standard_eq : Journal.Template.standard =
    [.text '[', .field "levelname" ⟨[], 0, none, 's'⟩, .text ']', .text ' ', .field "name" ⟨[], 0, none, 's'⟩, .text ':', .text ' ',
      .field "message" ⟨[], 0, none, 's'⟩] := by
  decide +kernel

/-- A record is written behind its level and its component. -/
theorem Journal.Template.fill?_standard (r : Journal.Record) :
    Journal.Template.standard.fill? r = some ("[" ++ Journal.levelName r.level ++ "] " ++ r.name ++ ": " ++ r.message) := by
  rw [standard_eq, ← Option.some.injEq]
  simp [Journal.Template.fill?, Journal.Template.fillPiece, Journal.Template.fillText, Journal.Template.clip, Journal.Template.pad,
    ← String.toList_inj]

theorem Event.Alike.text {T : String → String → Prop} (hT : Textual T) {e f : Event} (h : Event.Alike T e f) :
    T (e.text Failure.message) (f.text Failure.message) := by
  cases h with
  | note ha =>
    unfold Event.text
    simp only [Journal.Template.fill?_standard, Option.getD_some]
    exact hT.append (hT.append (hT.append (hT.refl _) ha) (hT.refl _)) (hT.refl _)
  | told ha hf =>
    unfold Event.text
    simp only [Journal.Template.fill?_standard, Option.getD_some]
    exact hT.append (hT.append (hT.append (hT.refl _) ha) (hT.refl _)) (hT.append hf.2 (hT.refl _))

theorem extraction_notes_alike {T : String → String → Prop} (hT : Textual T) (threshold : Int) (files : FileSystem) (bundle : String) :
    List.Forall₂ (Event.Alike T) (extraction threshold files bundle).2 (extraction threshold files bundle).2 := by
  unfold extraction
  cases archiveAt files bundle with
  | error f => exact .nil
  | ok r =>
    refine List.rel_append (noted_alike (hT.refl _)) ?_
    unfold extractionFrom
    cases r.listing.entries.find? (isBaseEntry ·.name) with
    | none => exact .nil
    | some m => exact noted_alike (hT.refl _)

/-! ## Inspections -/

/-- Sessions over the same files that log at one level. -/
structure SameGround (s t : Session) : Prop where
  files : s.files = t.files
  tempRoot : s.tempRoot = t.tempRoot
  level : s.level = t.level

theorem SameGround.refl {s : Session} : SameGround s s := ⟨rfl, rfl, rfl⟩

theorem SameGround.trans {s t u : Session} (h : SameGround s t) (h' : SameGround t u) : SameGround s u :=
  ⟨h.files.trans h'.files, h.tempRoot.trans h'.tempRoot, h.level.trans h'.level⟩

/-- In two sessions an operation comes to related outcomes. It counts the directories that it makes, adds records that
are alike but for the number of a directory, and changes nothing else. -/
def AlikeOn {α : Type} (V : α → α → Prop) (x : Run α) (s t : Session) : Prop :=
  ∃ k l n m more more', (x.on s).2 = (s.numbered k).append more ∧ (x.on t).2 = (t.numbered l).append more' ∧
    List.Forall₂ (Event.Alike (Renumbered n m)) more more' ∧ Outcome.Alike (Renumbered n m) V (x.on s).1 (x.on t).1

section Inspections

variable {decoder : Decoder} {settings : Settings} {path : String} {s t : Session} (h : SameGround s t)
include h

theorem inspectionBlock_alikeOn (package : String) :
    AlikeOn (SameBut path path) (inspectionBlock decoder path package) s t := by
  have hP : Steady SameGround := ⟨fun h => h.level, fun _ _ h => ⟨h.files, h.tempRoot, h.level⟩⟩
  have hT := renumbered_textual 0 0
  have harchive : ∀ s t, SameGround s t →
      Outcome.Alike (Renumbered 0 0) (Archive.Reader.Alike (Renumbered 0 0)) (archiveAt s.files package) (archiveAt t.files package) := by
    intro s t hst
    rw [hst.files]
    exact (Outcome.Alike.refl hT _).imp fun r _ hr => hr ▸ ⟨rfl, rfl, rfl, .same _⟩
  obtain ⟨more, more', hs, ht, hevents, hout⟩ :=
    coupled_inspectionBlock hT hP (.same package) harchive decoder path path s t h
  exact ⟨s.serial, t.serial, 0, 0, more, more', hs, ht, hevents, hout⟩

omit h in
/-- Without a directory, in neither session. -/
theorem withBundle_alikeOn_unmade {α : Type} {V : α → α → Prop} {block : String → Run α} {f g : Failure} {k l n m : Nat}
    (hs : (makeTempDirectory settings.tempPrefix).on s = (.error f, s.numbered k))
    (ht : (makeTempDirectory settings.tempPrefix).on t = (.error g, t.numbered l)) (hfg : Failure.Alike (Renumbered n m) f g) :
    AlikeOn V (withBundle path settings block) s t := by
  refine ⟨k, l, n, m, [], [], ?_, ?_, .nil, ?_⟩
  · rw [on_withBundle_unmade hs, Session.append_nil]
  · rw [on_withBundle_unmade ht, Session.append_nil]
  · rw [on_withBundle_unmade hs, on_withBundle_unmade ht]
    exact .error hfg

/-- The copies of a base package in two numbered directories have one content. -/
theorem sameContent_filled (hw : s.files.WellFormed) {name name' : String} (hroot : hasNull (joinPath s.tempRoot name) = false)
    (hroot' : hasNull (joinPath t.tempRoot name') = false) {n m : Nat} {q q' : Place} (hfree : Free s.files s.tempRoot name n q)
    (hfree' : Free t.files t.tempRoot name' m q') (bytes : Bytes) (more more' : List Event) :
    SameContent (basePath (numberedPath s.tempRoot name n)) (basePath (numberedPath t.tempRoot name' m))
      ((s.filled n q bytes).append more) ((t.filled m q' bytes).append more') := by
  have hw' : t.files.WellFormed := h.files ▸ hw
  exact ⟨h.level, hfree.hasNull_copy hroot, hfree'.hasNull_copy hroot', bytes, hfree.read_copy hw bytes,
    hfree'.read_copy hw' bytes⟩

/-- With a directory in both, the block is entered in both or in neither. -/
theorem withBundle_alikeOn_made (hw : s.files.WellFormed) {e : FileEntry} (hfind : s.files.find path = .ok e) {name : String}
    (hroot : hasNull (joinPath s.tempRoot name) = false) {n m : Nat} {q q' : Place}
    (hfree : Free s.files s.tempRoot name n q) (hfree' : Free t.files t.tempRoot name m q')
    (hs : (makeTempDirectory settings.tempPrefix).on s = (.ok (numberedPath s.tempRoot name n), s.made n q))
    (ht : (makeTempDirectory settings.tempPrefix).on t = (.ok (numberedPath t.tempRoot name m), t.made m q')) :
    AlikeOn (SameBut path path) (withBundle path settings (inspectionBlock decoder path)) s t := by
  have hT := renumbered_textual n m
  have hblock := keepsFiles_inspectionBlock decoder path
  have hw' : t.files.WellFormed := h.files ▸ hw
  have hdirectory : Renumbered n m (numberedPath s.tempRoot name n) (numberedPath t.tempRoot name m) :=
    h.tempRoot ▸ numberedPath_renumbered s.tempRoot name n m
  have hpath : Renumbered n m (basePath (numberedPath s.tempRoot name n)) (basePath (numberedPath t.tempRoot name m)) :=
    h.tempRoot ▸ basePath_renumbered s.tempRoot name n m
  have htext : Renumbered n m (pathText (basePath (numberedPath s.tempRoot name n)))
      (pathText (basePath (numberedPath t.tempRoot name m))) := by
    rw [pathText_basePath, pathText_basePath]
    exact hpath
  have hentered : List.Forall₂ (Event.Alike (Renumbered n m))
      (createdNote s.level (numberedPath s.tempRoot name n) ++ copyNote s.level)
      (createdNote s.level (numberedPath t.tempRoot name m) ++ copyNote s.level) :=
    List.rel_append (noted_alike (.append (.same _) hdirectory)) (noted_alike (.same _))
  -- the bundle stood there before the directories, which make no difference to it
  have hx : extraction s.level (s.made n q).files path = extraction s.level s.files path :=
    extraction_adding s.level _ hfind
  have hx' : extraction s.level (t.made m q').files path = extraction s.level s.files path := by
    rw [h.files]
    exact extraction_adding s.level _ (h.files ▸ hfind)
  have hfound := extraction_notes_alike hT s.level s.files path
  unfold AlikeOn
  rw [on_withBundle_made hw hfree hs hblock, on_withBundle_made hw' hfree' ht hblock, ← h.level, hx, hx']
  rcases hextract : extraction s.level s.files path with ⟨f | bytes, found⟩ <;> rw [hextract] at hfound
  · exact ⟨n, m, n, m, _, _, rfl, rfl, List.rel_append hentered hfound, .error (.refl hT f)⟩
  · dsimp only
    obtain ⟨more, more', hon, hon', hevents, hout⟩ :=
      coupled_inspectionBlock hT (SameContent.steady _ _) hpath (fun _ _ hc => archiveAt_alike hT hpath htext hc) decoder path path
        _ _ (sameContent_filled h hw hroot (h.tempRoot ▸ hroot) hfree hfree' bytes _ _)
    refine ⟨n, m, n, m, _, _, ?_, ?_, List.rel_append (List.rel_append hentered hfound) hevents, hout⟩
    · rw [hon, Session.append_append]
      rfl
    · rw [hon', Session.append_append]
      rfl

theorem withBundle_alikeOn (hw : s.files.WellFormed) {e : FileEntry} (hfind : s.files.find path = .ok e) :
    AlikeOn (SameBut path path) (withBundle path settings (inspectionBlock decoder path)) s t := by
  rcases makeTempDirectory_cases s.files s.tempRoot settings.tempPrefix with ⟨f, hf⟩ | ⟨name, hroot, ⟨r, hr⟩ | hfull | hmake⟩
  · have hfail := hf t h.files.symm h.tempRoot.symm
    exact withBundle_alikeOn_unmade (k := s.serial) (l := t.serial) (hf s rfl rfl) hfail (.refl (renumbered_textual 0 0) f)
  · have hfail := hr t h.files.symm h.tempRoot.symm
    exact withBundle_alikeOn_unmade (hr s rfl rfl) hfail (osFailure_renumbered _ _ s.tempRoot name r)
  · have hfail := hfull t h.files.symm h.tempRoot.symm
    exact withBundle_alikeOn_unmade (hfull s rfl rfl) hfail (.refl (renumbered_textual 0 0) _)
  · -- the numbers that are free are the same, but the sessions may start at different ones
    obtain ⟨n, q, hfree, hs⟩ := hmake s rfl rfl
    obtain ⟨m, q', hfree', ht⟩ := hmake t h.files.symm h.tempRoot.symm
    rw [h.tempRoot] at ht
    rw [h.files, h.tempRoot] at hfree'
    exact withBundle_alikeOn_made h hw hfind hroot hfree hfree' hs ht

theorem inspectFile_alikeOn (hw : s.files.WellFormed) {e : FileEntry} (hfind : s.files.find path = .ok e) :
    AlikeOn (SameBut path path) (inspectFile decoder settings path) s t := by
  unfold inspectFile withPackage
  split
  · exact withBundle_alikeOn h hw hfind
  · exact inspectionBlock_alikeOn h (pathText path)

end Inspections

end ApkReport
