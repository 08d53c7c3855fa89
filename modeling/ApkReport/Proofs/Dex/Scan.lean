/-
The scan of a package. Whatever order the reads complete in, they are joined in the order
of the members (`gather_eq`), so the outcome is that of the reads in turn; it is decided
by the names of the bytecode members and by what reading each of them comes to.

A directory may place two members at one position. All but one of them are then refused
as overlapping, and which one is kept depends on the order of the directory: so a member
that is no bytecode can make one unreadable. The members depend on one another in no other
way: what a bytecode member has of its own, and whether it is refused, decide its answer.
-/
import ApkReport.Dex.Scan
import ApkReport.Proofs.Archive.Opening
import ApkReport.Proofs.Archive.Own
import ApkReport.Proofs.Archive.Written
import ApkReport.Proofs.Dex.Match

namespace ApkReport.Dex

open Archive

/-! ## Requests issued together -/

section Gather

variable {α : Type} {count : Nat} (request : Fin count → α)

/-- After some requests have completed, exactly their places are filled. -/
theorem foldl_answered (order : List (Fin count)) (places : Vector (Option α) count) (i : Fin count) :
    (i ∈ order → (order.foldl (answered request) places)[i.val]? = some (some (request i))) ∧
      (i ∉ order → (order.foldl (answered request) places)[i.val]? = places[i.val]?) := by
  induction order generalizing places with
  | nil => simp
  | cons j order ih =>
    obtain ⟨hfilled, hkept⟩ := ih (answered request places j)
    rw [List.foldl_cons]
    by_cases hi : i ∈ order
    · exact ⟨fun _ => hfilled hi, fun hout => absurd (List.mem_cons_of_mem _ hi) hout⟩
    · rw [hkept hi]
      by_cases hj : j = i
      · subst hj
        simp [answered]
      · have hne : (j : Nat) ≠ i := fun h => hj (Fin.ext h)
        simp [hi, answered, hne, Ne.symm hj]

/-- The answers come in the order of the requests, whatever order they complete in. -/
theorem gather_eq (completion : Completion count) : gather request completion = List.ofFn request := by
  have hplaces : completion.order.foldl (answered request) (Vector.replicate count none) =
      Vector.ofFn fun i => some (request i) := by
    apply Vector.ext
    intro i hi
    have h := (foldl_answered request completion.order (Vector.replicate count none) ⟨i, hi⟩).1 (completion.reaches _)
    rw [Vector.getElem?_eq_getElem hi, Option.some.injEq] at h
    rw [h, Vector.getElem_ofFn]
  rw [gather, hplaces, Vector.toList_ofFn, ← Function.comp_def, ← List.map_ofFn, List.filterMap_map]
  simp

end Gather

/-! ## Answers -/

/-- The name of a member, and what reading it comes to. -/
abbrev Answer := String × Except Failure Bytes

/-- The answer is a content, or a failure that only leaves the member out. -/
def Skippable : Answer → Prop
  | (_, .ok _) => True
  | (_, .error e) => e.kind = .stream

instance : DecidablePred Skippable
  | (_, .ok _) => inferInstanceAs (Decidable True)
  | (_, .error e) => inferInstanceAs (Decidable (e.kind = .stream))

def labelsOf (content : Bytes) : List String := (matchesIn (byteText content)).map (·.label)

/-- The labels of all contents, or the first failure that is final. -/
def collected : List Answer → Except Failure (List String)
  | [] => .ok []
  | (_, .ok content) :: rest => (collected rest).map (labelsOf content ++ ·)
  | (_, .error e) :: rest => if e.kind = .stream then collected rest else .error e

/-- The warning of a member that is left out. -/
def skipNote (threshold : Int) : Answer → List Event
  | (_, .ok _) => []
  | (name, .error e) => noted threshold .scan Journal.warning ("Skipping unreadable " ++ name ++ ": " ++ e.message)

/-- The answers before the first failure that is final. -/
def skippablePart (answers : List Answer) : List Answer := answers.takeWhile fun a => Skippable a

/-- The contents that were read. -/
def contents (answers : List Answer) : List Bytes := answers.filterMap (·.2.toOption)

theorem on_collectLabels (reads : List (Member × Except Failure Bytes)) (s : Session) :
    (collectLabels reads).on s =
      let answers := reads.map fun x => (x.1.name, x.2)
      (collected answers, s.append ((skippablePart answers).flatMap (skipNote s.level))) := by
  induction reads generalizing s with
  | nil => simp [collectLabels, collected, skippablePart]
  | cons x rest ih =>
    obtain ⟨m, e | content⟩ := x
    · by_cases hk : e.kind = .stream
      · simp only [collectLabels, hk, ne_eq, not_true_eq_false, if_false, Run.on_bind, Run.on_note, ih]
        simp [collected, skippablePart, Skippable, skipNote, hk]
      · simp [collectLabels, collected, skippablePart, Skippable, hk]
    · simp only [collectLabels, Run.on_bind, ih]
      simp only [List.map_cons, collected, skippablePart, Skippable, List.takeWhile_cons, labelsOf]
      cases collected (rest.map fun x => (x.1.name, x.2)) <;> rfl

theorem skippablePart_eq {answers : List Answer} (h : ∀ a ∈ answers, Skippable a) : skippablePart answers = answers := by
  rw [skippablePart, ← List.append_nil answers, List.takeWhile_append_of_pos (by simpa using h), List.takeWhile_nil]

theorem skippablePart_append {before after : List Answer} {name : String} {e : Failure}
    (h : ∀ a ∈ before, Skippable a) (he : e.kind ≠ .stream) :
    skippablePart (before ++ (name, .error e) :: after) = before := by
  have hlast : ¬ Skippable (name, .error e) := he
  rw [skippablePart, List.takeWhile_append_of_pos (by simpa using h)]
  simp [hlast]

theorem collected_ok {answers : List Answer} (h : ∀ a ∈ answers, Skippable a) :
    collected answers = .ok ((contents answers).flatMap labelsOf) := by
  induction answers with
  | nil => rfl
  | cons a rest ih =>
    have ha := h a List.mem_cons_self
    have hrest := ih fun b hb => h b (List.mem_cons_of_mem a hb)
    obtain ⟨name, e | content⟩ := a
    · have hk : e.kind = .stream := ha
      simp [collected, contents, hk, hrest, Except.toOption]
    · simp [collected, contents, hrest, Except.map, Except.toOption]

theorem collected_error {before after : List Answer} {name : String} {e : Failure} (h : ∀ a ∈ before, Skippable a)
    (he : e.kind ≠ .stream) : collected (before ++ (name, .error e) :: after) = .error e := by
  induction before with
  | nil => simp [collected, he]
  | cons a rest ih =>
    have ha := h a List.mem_cons_self
    have hrest := ih fun b hb => h b (List.mem_cons_of_mem a hb)
    obtain ⟨other, f | content⟩ := a
    · have hk : f.kind = .stream := ha
      simp [collected, hk, hrest]
    · simp [collected, hrest, Except.map]

theorem mem_labels {answers : List Answer} {label : String} :
    label ∈ sortedLabels ((contents answers).flatMap labelsOf) ↔
      ∃ api ∈ catalog, api.label = label ∧ ∃ content ∈ contents answers, Refers content api := by
  simp only [mem_sortedLabels, List.mem_flatMap, labelsOf, List.mem_map, mem_matchesIn]
  constructor
  · rintro ⟨content, hc, api, ⟨ha, hr⟩, hl⟩
    exact ⟨api, ha, hl, content, hc, hr⟩
  · rintro ⟨api, ha, hl, content, hc, hr⟩
    exact ⟨content, hc, api, ⟨ha, hr⟩, hl⟩

/-! ## Scanning -/

/-- The bytecode members of an archive, in the order of its directory. -/
def dexMembers (r : Reader) : List Member := r.members.filter fun m => IsFileName m.name ∧ IsDexName m.name

/-- What reading the bytecode members comes to. -/
def dexAnswers (r : Reader) : List Answer := (dexMembers r).map fun m => (m.name, r.content m)

theorem mem_contents_dexAnswers {r : Reader} {content : Bytes} :
    content ∈ contents (dexAnswers r) ↔ ∃ m ∈ dexMembers r, r.content m = .ok content := by
  simp only [contents, dexAnswers, List.mem_filterMap, List.mem_map]
  constructor
  · rintro ⟨_, ⟨m, hm, rfl⟩, hc⟩
    refine ⟨m, hm, ?_⟩
    cases hr : r.content m with
    | error e => simp [hr, Except.toOption] at hc
    | ok found => simpa [hr, Except.toOption] using hc
  · rintro ⟨m, hm, hc⟩
    exact ⟨_, ⟨m, hm, rfl⟩, by simp [hc, Except.toOption]⟩

/-- The note of a scan that is done. -/
def scannedNote (threshold : Int) (path : String) (r : Reader) (labels : List String) : List Event :=
  noted threshold .scan Journal.debug
    ("Scanned " ++ toString (dexMembers r).length ++ " dex entries in " ++ path ++ ": " ++ toString labels.length ++ " APIs")

theorem zip_gather_content (r : Reader) (ms : List Member) (completion : Completion ms.length) :
    ms.zip (gather (fun i => r.content ms[i]) completion) = ms.map fun m => (m, r.content m) := by
  rw [gather_eq]
  apply List.ext_getElem
  · simp
  · intro i _ _
    simp

section Scan

variable {s : Session} {path : String} {r : Reader} (ho : archiveAt s.files path = .ok r)
  (hn : ∀ m ∈ r.members, m.name ≠ "") (completion : ∀ count, Completion count)
include ho hn

/-- A scan is decided by the answers to the reads, whatever order they come in. -/
theorem on_scan :
    (scan path completion).on s =
      let before := openedNote s.level path r ++ (skippablePart (dexAnswers r)).flatMap (skipNote s.level)
      match collected (dexAnswers r) with
      | .ok labels =>
        (.ok (sortedLabels labels), s.append (before ++ scannedNote s.level path r (sortedLabels labels)))
      | .error e => (.error e, s.append before) := by
  have hdex : (r.members.filter fun m => IsFileName m.name).filter (isDexEntry ·.name) = dexMembers r := by
    rw [List.filter_filter]
    refine List.filter_congr fun m _ => ?_
    rw [Bool.decide_and, Bool.and_comm]
    congr 1
    exact Bool.eq_iff_iff.2 (isDexEntry_iff.trans decide_eq_true_iff.symm)
  unfold scan
  rw [Run.on_bind_ok (openArchive_ok ho), Reader.allEntries_of_named hn, Run.on_bind, Run.on_lift]
  dsimp only
  rw [zip_gather_content, hdex, Run.on_bind, on_collectLabels, List.map_map]
  rw [show (dexMembers r).map ((fun x => (x.1.name, x.2)) ∘ fun m => (m, r.content m)) = dexAnswers r from rfl]
  dsimp only
  cases collected (dexAnswers r) with
  | error e => simp
  | ok labels =>
    simp only [Run.on_bind, Run.on_note, Run.on_pure, scannedNote, Session.append_append, Session.append_level,
      List.append_assoc]

/-- Where every failure only leaves a member out, the labels are those of the contents that were read. -/
theorem on_scan_ok (hs : ∀ a ∈ dexAnswers r, Skippable a) :
    (scan path completion).on s =
      let labels := sortedLabels ((contents (dexAnswers r)).flatMap labelsOf)
      (.ok labels, s.append (openedNote s.level path r ++ (dexAnswers r).flatMap (skipNote s.level) ++
        scannedNote s.level path r labels)) := by
  rw [on_scan ho hn, collected_ok hs, skippablePart_eq hs]

/-- The first failure that is final ends the scan. -/
theorem on_scan_error {before after : List Answer} {name : String} {e : Failure}
    (ha : dexAnswers r = before ++ (name, .error e) :: after) (hs : ∀ a ∈ before, Skippable a) (he : e.kind ≠ .stream) :
    (scan path completion).on s =
      (.error e, s.append (openedNote s.level path r ++ before.flatMap (skipNote s.level))) := by
  rw [on_scan ho hn, ha, collected_error hs he, skippablePart_append hs he]

end Scan

/-! ## Independence -/

/-- What the bytecode members have of their own, and whether they are refused as overlapping. -/
def dexOwn (r : Reader) : List ((Member × Except EntryFault Bytes) × Bool) :=
  (dexMembers r).map fun m => (own r m, decide (Overlaps r m))

/-- The answer of a member that has this of its own, and is refused or not. -/
def answerAlone (r : Reader) : (Member × Except EntryFault Bytes) × Bool → Answer
  | (x, true) => (x.1.name, .error (.memberOpen x.1.name r.path (.overlap x.1.fullName)))
  | (x, false) => (x.1.name, Reader.contentFrom x.1.name r.path (openAlone r.isOpen x))

theorem dexAnswers_alone (r : Reader) : dexAnswers r = (dexOwn r).map (answerAlone r) := by
  rw [dexAnswers, dexOwn, List.map_map]
  refine List.map_congr_left fun m _ => ?_
  by_cases h : Overlaps r m
  · have hopen : r.openStream m = .error (.overlap m.fullName) := h
    rw [Function.comp_apply, decide_eq_true h, Reader.content, hopen]
    rfl
  · rw [Function.comp_apply, decide_eq_false h, content_alone h]
    rfl

theorem answerAlone_congr {files others : FileSystem} {path : String} {r r' : Reader}
    (h : archiveAt files path = .ok r) (h' : archiveAt others path = .ok r') : answerAlone r = answerAlone r' := by
  obtain ⟨-, _, -, hf⟩ := archiveAt_eq_ok.1 h
  obtain ⟨-, _, -, hf'⟩ := archiveAt_eq_ok.1 h'
  obtain ⟨_, -, rfl⟩ := openedFile_eq_ok.1 hf
  obtain ⟨_, -, rfl⟩ := openedFile_eq_ok.1 hf'
  rfl

/-- What a scan comes to, whatever order its reads complete in. It yields the labels of all descriptors that stand
in a content that was read, in order and without repetition, and warns of each member that could not be read; or
it fails with the first final failure. Nothing else in the archive matters but whether a bytecode member is refused as
overlapping, and no order. -/
theorem scan_spec {s : Session} {path : String} {r : Reader} (ho : archiveAt s.files path = .ok r)
    (hn : ∀ m ∈ r.members, m.name ≠ "") (completion : ∀ count, Completion count) :
    ((∀ a ∈ dexAnswers r, Skippable a) → ∃ labels,
      (scan path completion).on s =
          (.ok labels, s.append (openedNote s.level path r ++ (dexAnswers r).flatMap (skipNote s.level) ++
            scannedNote s.level path r labels)) ∧
        labels.Pairwise (· < ·) ∧
        ∀ label, label ∈ labels ↔ ∃ api ∈ catalog, api.label = label ∧
          ∃ m ∈ dexMembers r, ∃ content, r.content m = .ok content ∧ Refers content api) ∧
    (∀ before name e after, dexAnswers r = before ++ (name, .error e) :: after → (∀ a ∈ before, Skippable a) →
      e.kind ≠ .stream →
      (scan path completion).on s =
        (.error e, s.append (openedNote s.level path r ++ before.flatMap (skipNote s.level)))) ∧
    (∀ others : ∀ count, Completion count, (scan path others).on s = (scan path completion).on s) ∧
    ∀ s' r' (others : ∀ count, Completion count), archiveAt s'.files path = .ok r' → (∀ m ∈ r'.members, m.name ≠ "") →
      (dexOwn r' = dexOwn r →
        dexAnswers r' = dexAnswers r ∧ ((scan path others).on s').1 = ((scan path completion).on s).1) ∧
      ((dexOwn r').Perm (dexOwn r) → (∀ a ∈ dexAnswers r, Skippable a) →
        ((scan path others).on s').1 = ((scan path completion).on s).1) := by
  refine ⟨fun hs => ?_, fun before name e after => on_scan_error ho hn completion, fun others => ?_, ?_⟩
  · refine ⟨_, on_scan_ok ho hn completion hs, sortedLabels_pairwise _, fun label => ?_⟩
    rw [mem_labels]
    simp only [mem_contents_dexAnswers]
    constructor
    · rintro ⟨api, ha, hl, content, ⟨m, hm, hc⟩, hr⟩
      exact ⟨api, ha, hl, m, hm, content, hc, hr⟩
    · rintro ⟨api, ha, hl, m, hm, content, hc, hr⟩
      exact ⟨api, ha, hl, content, ⟨m, hm, hc⟩, hr⟩
  · rw [on_scan ho hn, on_scan ho hn]
  · intro s' r' others ho' hn'
    have halone : dexAnswers r' = (dexOwn r').map (answerAlone r) := by
      rw [dexAnswers_alone, answerAlone_congr ho' ho]
    constructor
    · intro heq
      have hsame : dexAnswers r' = dexAnswers r := by rw [halone, heq, dexAnswers_alone]
      refine ⟨hsame, ?_⟩
      rw [on_scan ho' hn', on_scan ho hn, hsame]
      cases collected (dexAnswers r) <;> rfl
    · intro hperm hs
      have hanswers : (dexAnswers r').Perm (dexAnswers r) := by
        rw [halone, dexAnswers_alone]
        exact hperm.map _
      rw [on_scan_ok ho' hn' others fun a ha => hs a (hanswers.subset ha), on_scan_ok ho hn completion hs]
      dsimp only
      congr 1
      exact sortedLabels_congr fun l => ((hanswers.filterMap _).flatMap_right labelsOf).mem_iff

def nfcContent : Bytes := Bytes.ofString "Landroid/nfc/"

/-- A session over one archive. -/
def sessionWith (file : Bytes) : Session := { files := ⟨"/", [(["a.apk"], .file file)]⟩, tempRoot := "/tmp" }

/-- A bytecode member behind another one. -/
def behindNote : Bytes :=
  written (stored "x" [] ++ stored "classes.dex" nfcContent)
    [record "x" [] 0, record "classes.dex" nfcContent (stored "x" []).length]

/-- A bytecode member comes to the same alone and behind another one. -/
theorem scan_spec_nfc : ∃ labels, "android.nfc" ∈ labels ∧
    ((scan "/a.apk").on (sessionWith (single "classes.dex" nfcContent))).1 = .ok labels ∧
    ((scan "/a.apk").on (sessionWith behindNote)).1 = .ok labels := by
  have hdecided : (archiveAt (sessionWith (single "classes.dex" nfcContent)).files "/a.apk").toOption.any fun r =>
      (archiveAt (sessionWith behindNote).files "/a.apk").toOption.any fun r' =>
        ((∀ m ∈ r.members, m.name ≠ "") ∧ ∀ m ∈ r'.members, m.name ≠ "") ∧ (∀ a ∈ dexAnswers r, Skippable a) ∧
          dexOwn r' = dexOwn r ∧ nfcContent ∈ contents (dexAnswers r) := by decide +kernel
  obtain ⟨r, hr, hp⟩ := exists_ok hdecided
  obtain ⟨r', hr', hp'⟩ := exists_ok hp
  obtain ⟨⟨hn, hn'⟩, hs, hown, hc⟩ := of_decide_eq_true hp'
  obtain ⟨hread, -, -, hothers⟩ := scan_spec hr hn Completion.inTurn
  obtain ⟨labels, hscan, -, hmem⟩ := hread hs
  obtain ⟨m, hm, hcontent⟩ := mem_contents_dexAnswers.1 hc
  have hsame := (hothers _ r' Completion.inTurn hr' hn').1 hown
  have hnfc : "android.nfc" ∈ labels :=
    (hmem _).2 ⟨⟨"Landroid/nfc/", "android.nfc"⟩, by decide, rfl, m, hm, _, hcontent, List.infix_refl _⟩
  exact ⟨labels, hnfc, by rw [hscan], by rw [hsame.2, hscan]⟩

/-- A bytecode member and another one at the same position, listed in some order. -/
def sharedPlace (names : List String) : Bytes :=
  written (stored "classes.dex" nfcContent) (names.map fun name => record name nfcContent 0)

/-- The order of the directory decides which of two members at one position is refused. -/
theorem scan_of_shared_place :
    ∃ r r', archiveAt (sessionWith (sharedPlace ["x", "classes.dex"])).files "/a.apk" = .ok r ∧
      archiveAt (sessionWith (sharedPlace ["classes.dex", "x"])).files "/a.apk" = .ok r' ∧
      ((∀ m ∈ r.members, m.name ≠ "") ∧ (∀ m ∈ r'.members, m.name ≠ "") ∧
        (r.members.map fun m => { m with limit := 0 }).Perm (r'.members.map fun m => { m with limit := 0 }) ∧
        (∀ a ∈ dexAnswers r, Skippable a) ∧ ∀ a ∈ dexAnswers r', Skippable a) ∧
      ((scan "/a.apk").on (sessionWith (sharedPlace ["x", "classes.dex"]))).1.toOption = some [] ∧
      ((scan "/a.apk").on (sessionWith (sharedPlace ["classes.dex", "x"]))).1.toOption = some ["android.nfc"] := by
  have hdecided : (archiveAt (sessionWith (sharedPlace ["x", "classes.dex"])).files "/a.apk").toOption.any fun r =>
      (archiveAt (sessionWith (sharedPlace ["classes.dex", "x"])).files "/a.apk").toOption.any fun r' =>
        (∀ m ∈ r.members, m.name ≠ "") ∧ (∀ m ∈ r'.members, m.name ≠ "") ∧
          (r.members.map fun m => { m with limit := 0 }).Perm (r'.members.map fun m => { m with limit := 0 }) ∧
          (∀ a ∈ dexAnswers r, Skippable a) ∧ ∀ a ∈ dexAnswers r', Skippable a := by decide +kernel
  obtain ⟨r, hr, hp⟩ := exists_ok hdecided
  obtain ⟨r', hr', hp'⟩ := exists_ok hp
  exact ⟨r, r', hr, hr', of_decide_eq_true hp', by decide +kernel, by decide +kernel⟩

end ApkReport.Dex
