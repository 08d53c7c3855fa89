/-
Where paths lead. A path keeps its place when entries are added behind the others
(`place_adding`), and as text (`place_pathText`). In a well-formed file system nothing stands
below a place where nothing stands, so what is added at and below such a place is removed
with it and nothing else (`without_adding`).
-/
import ApkReport.Proofs.FileSystem.Path

namespace ApkReport.FileSystem

/-- Every file and every directory stands in a directory. -/
def WellFormed (fs : FileSystem) : Prop := ∀ x ∈ fs.entries, fs.isDirectoryAt x.1.dropLast = true

instance (fs : FileSystem) : Decidable fs.WellFormed :=
  inferInstanceAs (Decidable (∀ x ∈ fs.entries, fs.isDirectoryAt x.1.dropLast = true))

/-- Nothing stands at the place or below it. -/
def Vacant (fs : FileSystem) (q : Place) : Prop := ∀ x ∈ fs.entries, ¬ q <+: x.1

/-- The file system with more entries. -/
def adding (fs : FileSystem) (more : List (Place × FileEntry)) : FileSystem := { fs with entries := fs.entries ++ more }

variable {fs : FileSystem} {p q : Place} {path : String}

/-! ## Entries -/

theorem lookup_eq_none : fs.entries.lookup q = none ↔ ∀ x ∈ fs.entries, x.1 ≠ q := by
  rw [List.lookup_eq_none_iff]
  refine forall₂_congr fun x _ => ?_
  rw [bne_iff_ne, ne_comm]

/-- Where nothing stands at a place, no entry is replaced. -/
theorem map_replaced (h : fs.entries.lookup p = none) (e : FileEntry) :
    fs.entries.map (fun (r, old) => if r = p then (r, e) else (r, old)) = fs.entries := by
  refine (List.map_congr_left fun x hx => ?_).trans (List.map_id _)
  exact if_neg (lookup_eq_none.1 h x hx)

theorem at?_adding {e : FileEntry} (more : List (Place × FileEntry)) (h : fs.at? p = some e) :
    (fs.adding more).at? p = some e := by
  unfold at? at h ⊢
  by_cases hp : p.isEmpty = true
  · rw [if_pos hp] at h ⊢
    exact h
  · rw [if_neg hp] at h ⊢
    rw [adding, List.lookup_append, h]
    rfl

theorem mem_of_lookup {e : FileEntry} (h : fs.entries.lookup p = some e) : (p, e) ∈ fs.entries := by
  obtain ⟨before, after, he, -⟩ := List.lookup_eq_some_iff.1 h
  rw [he]
  exact List.mem_append_right _ List.mem_cons_self

theorem lookup_isSome {x : Place × FileEntry} (h : x ∈ fs.entries) : (fs.entries.lookup x.1).isSome := by
  rw [Option.isSome_iff_ne_none]
  exact fun hn => lookup_eq_none.1 hn x h rfl

/-- At a vacant place and below it stands what was added. -/
theorem Vacant.at?_adding {more : List (Place × FileEntry)} (h : fs.Vacant q) (hq : q ≠ []) (hp : q <+: p) :
    (fs.adding more).at? p = more.lookup p := by
  have hne : p ≠ [] := fun he => hq (List.prefix_nil.1 (he ▸ hp))
  have hnone : fs.entries.lookup p = none := lookup_eq_none.2 fun x hx he => h x hx (he ▸ hp)
  rw [at?, if_neg (by simpa using hne), adding, List.lookup_append, hnone]
  rfl

theorem Vacant.ne_nil (hw : fs.at? q = none) : q ≠ [] := by
  rintro rfl
  simp [at?] at hw

/-- Something stands at every place on the way to a place where something stands. -/
theorem WellFormed.isSome_prefix (hw : fs.WellFormed) {p : Place} (hp : (fs.at? p).isSome) (hq : q <+: p) :
    (fs.at? q).isSome := by
  obtain ⟨below, hbelow⟩ := hq
  by_cases hb : below = []
  · rwa [← hbelow, hb, List.append_nil] at hp
  · have hne : p ≠ [] := hbelow ▸ List.append_ne_nil_of_right_ne_nil q hb
    have hentry : (fs.entries.lookup p).isSome := by simpa [at?, hne] using hp
    obtain ⟨e, he⟩ := Option.isSome_iff_exists.1 hentry
    have hdir : fs.at? p.dropLast = some .directory := of_decide_eq_true (hw _ (mem_of_lookup he))
    have hup : q <+: p.dropLast := by
      rw [← hbelow, List.dropLast_append_of_ne_nil hb]
      exact List.prefix_append _ _
    exact hw.isSome_prefix (by rw [hdir]; rfl) hup
  termination_by p.length
  decreasing_by
    have := List.length_pos_iff.2 hne
    rw [List.length_dropLast]
    omega

/-- Nothing stands below a place where nothing stands. -/
theorem WellFormed.vacant (hw : fs.WellFormed) (hq : fs.at? q = none) : fs.Vacant q := by
  intro x hx hprefix
  have hsome : (fs.at? x.1).isSome := by
    unfold at?
    split
    · rfl
    · exact lookup_isSome hx
  have hup := hw.isSome_prefix hsome hprefix
  rw [hq] at hup
  exact absurd hup (by simp)

/-! ## Walking -/

theorem walk_append (start : Place) (names more : List String) :
    fs.walk start (names ++ more) = match fs.walk start names with
      | .error r => .error r
      | .ok p => fs.walk p more := by
  induction names generalizing start with
  | nil => rfl
  | cons name names ih =>
    rw [List.cons_append, walk, walk]
    cases fs.at? start with
    | none => rfl
    | some e =>
      cases e with
      | file _ => rfl
      | directory =>
        dsimp only
        split
        · exact ih _
        · split
          · exact ih _
          · split
            · rfl
            · exact ih _

/-- What one more step comes to. -/
theorem walk_single {name : String} (h : name ≠ "." ∧ name ≠ "..") :
    fs.walk p [name] = match fs.at? p with
      | none => .error .noEntry
      | some (.file _) => .error .notDirectory
      | some .directory => if name.utf8ByteSize > maxName then .error .nameTooLong else .ok (p ++ [name]) := by
  rw [walk]
  cases fs.at? p with
  | none => rfl
  | some e =>
    cases e with
    | file _ => rfl
    | directory =>
      dsimp only
      rw [if_neg h.1, if_neg h.2]
      rfl

/-- A walk never fails because something is there. -/
theorem walk_ne_fileExists {start : Place} {names : List String} : fs.walk start names ≠ .error .fileExists := by
  induction names generalizing start with
  | nil => exact fun h => nomatch h
  | cons name names ih =>
    rw [walk]
    split
    · exact fun h => nomatch h
    · exact fun h => nomatch h
    · split
      · exact ih
      · split
        · exact ih
        · split
          · exact fun h => nomatch h
          · exact ih

/-- The first step of a walk leaves a directory. -/
theorem directory_of_walk {start : Place} {name : String} {names : List String}
    (h : fs.walk start (name :: names) = .ok p) : fs.at? start = some .directory := by
  rw [walk] at h
  cases he : fs.at? start with
  | none => rw [he] at h; cases h
  | some e =>
    cases e with
    | file _ => rw [he] at h; cases h
    | directory => rfl

/-- A walk leads to the same place when there are more entries. -/
theorem walk_adding {start : Place} {names : List String} (more : List (Place × FileEntry))
    (h : fs.walk start names = .ok p) : (fs.adding more).walk start names = .ok p := by
  induction names generalizing start with
  | nil => exact h
  | cons name names ih =>
    have hdir := directory_of_walk h
    rw [walk, hdir] at h
    rw [walk, at?_adding more hdir]
    dsimp only at h ⊢
    split at h
    · exact (if_pos ‹_›).trans (ih h)
    · rw [if_neg ‹_›]
      split at h
      · exact (if_pos ‹_›).trans (ih h)
      · rw [if_neg ‹_›]
        split at h
        · cases h
        · exact (if_neg ‹_›).trans (ih h)

/-- A walk that does not climb leads to a place below. -/
theorem prefix_of_walk {start : Place} {names : List String} (hn : ".." ∉ names) (h : fs.walk start names = .ok p) :
    start <+: p := by
  induction names generalizing start with
  | nil => exact Except.ok.inj h ▸ List.prefix_refl start
  | cons name names ih =>
    have hne : name ≠ ".." := fun he => hn (List.mem_cons.2 (.inl he.symm))
    have hrest : ".." ∉ names := fun hm => hn (List.mem_cons_of_mem _ hm)
    rw [walk, directory_of_walk h] at h
    dsimp only at h
    rw [if_neg hne] at h
    split at h
    · exact ih hrest h
    · split at h
      · cases h
      · exact (List.prefix_append start [name]).trans (ih hrest h)

/-- Where something stands, a walk that does not climb leads without the entries that were added, too. -/
theorem walk_of_adding {start : Place} {names : List String} {more : List (Place × FileEntry)} (hw : fs.WellFormed)
    (hn : ".." ∉ names) (hp : (fs.at? p).isSome) (h : (fs.adding more).walk start names = .ok p) :
    fs.walk start names = .ok p := by
  induction names generalizing start with
  | nil => exact h
  | cons name names ih =>
    have hne : name ≠ ".." := fun he => hn (List.mem_cons.2 (.inl he.symm))
    have hrest : ".." ∉ names := fun hm => hn (List.mem_cons_of_mem _ hm)
    -- the walk stays above the place where something stands, so it leaves a directory that was there
    have hstart : fs.at? start = some .directory := by
      obtain ⟨e, he⟩ := Option.isSome_iff_exists.1 (hw.isSome_prefix hp (prefix_of_walk hn h))
      have hsame := (at?_adding more he).symm.trans (directory_of_walk h)
      rw [he, Option.some.inj hsame]
    rw [walk, directory_of_walk h] at h
    rw [walk, hstart]
    dsimp only at h ⊢
    rw [if_neg hne] at h ⊢
    split at h
    · exact (if_pos ‹_›).trans (ih hrest h)
    · rw [if_neg ‹_›]
      split at h
      · cases h
      · exact (if_neg ‹_›).trans (ih hrest h)

/-- Dots lead nowhere else. -/
theorem walk_proper {start : Place} {names : List String} (h : fs.walk start names = .ok p) :
    fs.walk start (names.filter (· ≠ ".")) = .ok p := by
  induction names generalizing start with
  | nil => exact h
  | cons name names ih =>
    have hdir := directory_of_walk h
    rw [walk, hdir] at h
    dsimp only at h
    by_cases hdot : name = "."
    · rw [if_pos hdot] at h
      rw [List.filter_cons_of_neg (by simpa using hdot)]
      exact ih h
    · rw [if_neg hdot] at h
      rw [List.filter_cons_of_pos (by simpa using hdot), walk, hdir]
      dsimp only
      rw [if_neg hdot]
      split at h
      · exact (if_pos ‹_›).trans (ih h)
      · rw [if_neg ‹_›]
        split at h
        · cases h
        · exact (if_neg ‹_›).trans (ih h)

/-! ## Paths -/

/-- The place that a path is walked from. -/
def origin (fs : FileSystem) (path : String) : Place := if isAbsolute path then [] else components fs.here

theorem place_eq (hp : path ≠ "") : fs.place path = fs.walk (fs.origin path) (steps path) := by
  rw [place, if_neg (by simpa using hp), origin]

theorem ne_empty_of_place (h : fs.place path = .ok q) : path ≠ "" := by
  rintro rfl
  simp [place] at h

theorem steps_of_last (hl : path.toList.getLast? ≠ some '/') : steps path = components path := by
  rw [steps, if_neg hl, List.append_nil]

theorem steps_proper : (steps path).filter (· ≠ ".") = properComponents path := by
  rw [steps, List.filter_append, properComponents]
  split <;> simp

/-- A path that is not empty takes at least one step. -/
theorem steps_ne_nil (hp : path ≠ "") : steps path ≠ [] := by
  intro hs
  rw [steps, List.append_eq_nil_iff] at hs
  obtain ⟨hc, hl⟩ := hs
  have hl : path.toList.getLast? ≠ some '/' := fun h => absurd ((if_pos h).symm.trans hl) (List.cons_ne_nil _ _)
  obtain ⟨front, x, hx⟩ := (List.eq_nil_or_concat path.toList).resolve_left (by simpa using hp)
  rw [List.concat_eq_append] at hx
  have hslash : x ≠ '/' := fun h => hl (by rw [hx, h, List.getLast?_append]; rfl)
  have htail : IsComponent (String.ofList [x]) := ⟨by simp [← String.toList_inj], by simp [Ne.symm hslash]⟩
  obtain ⟨init, stem, h⟩ := components_append_tail (String.ofList front)
  have hpath : path = String.ofList front ++ String.ofList [x] := by
    rw [← String.toList_inj, hx]
    simp
  rw [hpath, h _ htail] at hc
  exact absurd hc (by simp)

theorem place_adding (more : List (Place × FileEntry)) (h : fs.place path = .ok q) : (fs.adding more).place path = .ok q := by
  have hp := ne_empty_of_place h
  rw [place_eq hp] at h ⊢
  exact walk_adding more h

/-- Where something stands, a path that does not climb leads without the entries that were added, too. -/
theorem place_of_adding {more : List (Place × FileEntry)} (hw : fs.WellFormed) (hn : ".." ∉ components path)
    (hq : (fs.at? q).isSome) (h : (fs.adding more).place path = .ok q) : fs.place path = .ok q := by
  have hp := ne_empty_of_place h
  have hsteps : ".." ∉ steps path := by
    rw [steps, List.mem_append, not_or]
    refine ⟨hn, ?_⟩
    split <;> simp
  rw [place_eq hp] at h ⊢
  exact walk_of_adding hw hsteps hq h

theorem origin_pathText : fs.origin (pathText path) = fs.origin path := by rw [origin, isAbsolute_pathText, origin]

/-- Dots and superfluous slashes are no steps. -/
theorem walk_of_place (h : fs.place path = .ok q) : fs.walk (fs.origin path) (properComponents path) = .ok q := by
  rw [place_eq (ne_empty_of_place h)] at h
  rw [← steps_proper]
  exact walk_proper h

theorem place_pathText_eq (hc : properComponents path ≠ []) :
    fs.place (pathText path) = fs.walk (fs.origin path) (properComponents path) := by
  have hne : pathText path ≠ "" := by
    intro he
    have hcs := components_pathText hc
    rw [he] at hcs
    exact hc hcs.symm
  rw [place_eq hne, origin_pathText, steps_of_last (getLast?_pathText hc), components_pathText hc]

theorem place_pathText (h : fs.place path = .ok q) : fs.place (pathText path) = .ok q := by
  have hproper := walk_of_place h
  by_cases hc : properComponents path = []
  · have hp := ne_empty_of_place h
    rw [place_eq hp] at h
    obtain ⟨name, names, hs⟩ := List.exists_cons_of_ne_nil (steps_ne_nil hp)
    have hdir := directory_of_walk (hs ▸ h)
    have hdot : pathText path ≠ "" ∧ steps (pathText path) = ["."] := by
      rcases pathText_eq path with ⟨ht, ha⟩ | ⟨ht, -⟩
      · rcases rootMark_eq path with ⟨-, hrel⟩ | ⟨hm | hm, -⟩
        · simp [hc, hrel] at ha
        · rw [ht, hc, hm]
          decide
        · rw [ht, hc, hm]
          decide
      · rw [ht]
        decide
    rw [hc] at hproper
    rw [place_eq hdot.1, origin_pathText, hdot.2, walk, hdir]
    exact hproper
  · rw [place_pathText_eq hc, hproper]

/-- What follows the last slash decides the last step alone. -/
theorem place_append_tail (fs : FileSystem) (path : String) :
    ∃ (above : Except OsReason Place) (stem : String), above ≠ .error .fileExists ∧
      ∀ tail, IsComponent tail → fs.place (path ++ tail) = match above with
        | .error r => .error r
        | .ok p => fs.walk p [stem ++ tail] := by
  obtain ⟨init, stem, h⟩ := components_append_tail path
  refine ⟨fs.walk (fs.origin path) init, stem, walk_ne_fileExists, fun tail ht => ?_⟩
  have hne : path ++ tail ≠ "" := by simp [ht.1]
  have horigin : fs.origin (path ++ tail) = fs.origin path := by rw [origin, isAbsolute_append ht, origin]
  rw [place_eq hne, steps_of_last (getLast?_append_component path ht), horigin, h tail ht, walk_append]

/-- A name in a directory. -/
theorem place_child {directory name : String} (hp : fs.place directory = .ok q) (hq : fs.at? q = some .directory)
    (hl : directory.toList.getLast? ≠ some '/') (hn : IsComponent name) (hdot : name ≠ "." ∧ name ≠ "..")
    (hsize : name.utf8ByteSize ≤ maxName) : fs.place (directory ++ "/" ++ name) = .ok (q ++ [name]) := by
  have hne := ne_empty_of_place hp
  have hne' : directory ++ "/" ++ name ≠ "" := by simp
  have horigin : fs.origin (directory ++ "/" ++ name) = fs.origin directory := by
    have hhead : isAbsolute (directory ++ "/" ++ name) = isAbsolute directory := by
      unfold isAbsolute
      rw [String.append_assoc, String.toList_append]
      cases hd : directory.toList with
      | nil => exact absurd (String.toList_eq_nil_iff.1 hd) hne
      | cons _ _ => rfl
    rw [origin, hhead, origin]
  rw [place_eq hne, steps_of_last hl] at hp
  rw [place_eq hne', steps_of_last (getLast?_append_component _ hn), horigin, components_slash, walk_append, hp,
    components_plain hn]
  dsimp only
  rw [walk_single hdot, hq]
  exact if_neg (Nat.not_lt.2 hsize)

/-- So it is with a name that is joined to the directory, however that is written. -/
theorem place_joinPath {directory name : String} (hp : fs.place (pathText directory) = .ok q)
    (hq : fs.at? q = some .directory) (hn : IsComponent name) (hdot : name ≠ "." ∧ name ≠ "..")
    (hsize : name.utf8ByteSize ≤ maxName) : fs.place (pathText (joinPath directory name)) = .ok (q ++ [name]) := by
  have hproper : properComponents (joinPath directory name) = properComponents directory ++ [name] := by
    rw [properComponents, components_joinPath directory hn, List.filter_append, properComponents]
    simp [hdot.1]
  have horigin : fs.origin (joinPath directory name) = fs.origin directory := by
    rw [origin, isAbsolute_joinPath directory hn, origin]
  have hwalk := walk_of_place hp
  rw [origin_pathText, properComponents_pathText] at hwalk
  rw [place_pathText_eq (by simp [hproper]), horigin, hproper, walk_append, hwalk]
  dsimp only
  rw [walk_single hdot, hq]
  exact if_neg (Nat.not_lt.2 hsize)

end ApkReport.FileSystem
