/-
A directory that is made where nothing stood, and what is written into it. It can always be
written into, and removing it leaves the file system that was there before it was made, entry by entry.
-/
import ApkReport.Proofs.FileSystem.Place

namespace ApkReport.FileSystem

variable {fs fs' : FileSystem} {q : Place} {path : String}

/-! ## Reading -/

theorem read_eq_ok {content : Bytes} :
    fs.read path = .ok content ↔ ∃ q, fs.place path = .ok q ∧ fs.at? q = some (.file content) := by
  unfold read find
  cases fs.place path with
  | error r => simp
  | ok q =>
    cases hq : fs.at? q with
    | none => simp [hq]
    | some e => cases e <;> simp [hq]

/-- What stands at a path stays there when there are more entries. -/
theorem find_adding {e : FileEntry} (more : List (Place × FileEntry)) (h : fs.find path = .ok e) :
    (fs.adding more).find path = .ok e := by
  unfold find at h ⊢
  cases hp : fs.place path with
  | error r => rw [hp] at h; cases h
  | ok q =>
    rw [hp] at h
    rw [place_adding more hp]
    dsimp only at h ⊢
    cases hq : fs.at? q with
    | none => rw [hq] at h; cases h
    | some found =>
      rw [hq] at h
      rw [at?_adding more hq]
      exact h

theorem read_adding {e : FileEntry} (more : List (Place × FileEntry)) (h : fs.find path = .ok e) :
    (fs.adding more).read path = fs.read path := by
  rw [read, read, h, find_adding more h]

theorem find_of_read {content : Bytes} (h : fs.read path = .ok content) : fs.find path = .ok (.file content) := by
  unfold read at h
  cases hf : fs.find path with
  | error e => rw [hf] at h; cases h
  | ok e =>
    rw [hf] at h
    cases e with
    | directory => cases h
    | file found => rw [Except.ok.inj h]

/-- A directory that is added makes no other file readable at a path that does not climb. -/
theorem read_of_adding_directory {content : Bytes} (hw : fs.WellFormed) (hn : ".." ∉ components path)
    (h : (fs.adding [(q, .directory)]).read path = .ok content) : fs.read path = .ok content := by
  obtain ⟨p, hp, hat⟩ := read_eq_ok.1 h
  have hfile : fs.at? p = some (.file content) := by
    unfold at? adding at hat
    unfold at?
    split at hat
    · cases hat
    · rw [if_neg ‹_›]
      rw [List.lookup_append, Option.or_eq_some_iff] at hat
      rcases hat with hfound | ⟨-, hadded⟩
      · exact hfound
      · by_cases hpq : p = q
        · simp [hpq] at hadded
        · simp [List.lookup_cons, beq_eq_false_iff_ne.2 hpq] at hadded
  exact read_eq_ok.2 ⟨p, place_of_adding hw hn (by rw [hfile]; rfl) hp, hfile⟩

theorem find_of_pathExists (h : fs.pathExists path = true) : ∃ e, fs.find path = .ok e := by
  cases hf : fs.find path with
  | ok e => exact ⟨e, rfl⟩
  | error f =>
    rw [pathExists, hf] at h
    simp [Except.isOk, Except.toBool] at h

theorem read_pathText {content : Bytes} (h : fs.read path = .ok content) : fs.read (pathText path) = .ok content := by
  obtain ⟨q, hp, hq⟩ := read_eq_ok.1 h
  exact read_eq_ok.2 ⟨q, place_pathText hp, hq⟩

/-! ## Making -/

/-- Making a directory comes to what stands where the path leads. -/
theorem makeDirectory_eq (fs : FileSystem) (path : String) :
    fs.makeDirectory path = match fs.place path with
      | .error r => .error (failure path r)
      | .ok q => if (fs.at? q).isSome then .error (failure path .fileExists) else .ok (fs.adding [(q, .directory)]) := by
  unfold makeDirectory
  cases fs.place path with
  | error r => rfl
  | ok q =>
    dsimp only
    by_cases hs : (fs.at? q).isSome
    · rw [if_pos hs, if_pos hs]
    · rw [if_neg hs, if_neg hs]
      have hnone : fs.at? q = none := by simpa using hs
      have hlookup : fs.entries.lookup q = none := by simpa [at?, Vacant.ne_nil hnone] using hnone
      rw [put, hlookup]
      rfl

/-! ## Writing -/

section Vacant

variable (h : fs.Vacant q)
include h

/-- At a vacant place and below it, an entry is put among what was added. -/
theorem Vacant.put_adding {p : Place} (hp : q <+: p) (more : List (Place × FileEntry)) (e : FileEntry) :
    (fs.adding more).put p e =
      fs.adding (if (more.lookup p).isSome then more.map fun (r, old) => if r = p then (r, e) else (r, old)
        else more ++ [(p, e)]) := by
  have hnone : fs.entries.lookup p = none := lookup_eq_none.2 fun x hx he => h x hx (he ▸ hp)
  unfold put adding
  dsimp only
  rw [List.lookup_append, hnone, Option.none_or, List.map_append, map_replaced hnone]
  split
  · rfl
  · rw [List.append_assoc]

/-- Without the place, nothing of what was added there is left. -/
theorem Vacant.without_adding {more : List (Place × FileEntry)} (hm : ∀ x ∈ more, q <+: x.1) :
    (fs.adding more).without q = fs := by
  have hkept : fs.entries.filter (fun (r, _) => !q.isPrefixOf r) = fs.entries := by
    rw [List.filter_eq_self]
    intro x hx
    have hout : q.isPrefixOf x.1 = false := by
      rw [← Bool.not_eq_true, List.isPrefixOf_iff_prefix]
      exact h x hx
    exact congrArg (!·) hout
  have hgone : more.filter (fun (r, _) => !q.isPrefixOf r) = [] := by
    rw [List.filter_eq_nil_iff]
    intro x hx
    simpa using hm x hx
  unfold without adding
  rw [List.filter_append, hkept, hgone, List.append_nil]

end Vacant

/-! ## A directory with one file -/

/-- What is added for a directory and the file in it. -/
def withFile (q : Place) (name : String) (content : Bytes) : List (Place × FileEntry) :=
  [(q, .directory), (q ++ [name], .file content)]

theorem child_ne (q : Place) (name : String) : (q ++ [name] == q) = false := by
  rw [beq_eq_false_iff_ne]
  exact fun h => absurd (List.append_right_eq_self.1 h) (List.cons_ne_nil _ _)

theorem lookup_withFile (q : Place) (name : String) (content : Bytes) :
    (withFile q name content).lookup (q ++ [name]) = some (.file content) := by
  simp [withFile, List.lookup_cons, child_ne]

section Fresh

variable {directory name : String} (hw : fs.WellFormed) (hq : fs.at? q = none)
include hw hq

theorem at?_fresh (more : List (Place × FileEntry)) : (fs.adding ((q, .directory) :: more)).at? q = some .directory := by
  rw [(hw.vacant hq).at?_adding (Vacant.ne_nil hq) (List.prefix_refl q)]
  simp

theorem isDirectoryAt_fresh (name : String) : (fs.adding [(q, .directory)]).isDirectoryAt (q ++ [name]) = false := by
  rw [isDirectoryAt, (hw.vacant hq).at?_adding (Vacant.ne_nil hq) (List.prefix_append q [name])]
  simp [List.lookup_cons, child_ne]

/-- A file is put behind the fresh directory. -/
theorem put_fresh (name : String) (content : Bytes) :
    (fs.adding [(q, .directory)]).put (q ++ [name]) (.file content) = fs.adding (withFile q name content) := by
  rw [(hw.vacant hq).put_adding (List.prefix_append q [name])]
  simp [withFile, List.lookup_cons, child_ne]

theorem read_fresh (hp : fs.place directory = .ok q) (hl : directory.toList.getLast? ≠ some '/') (hn : IsComponent name)
    (hdot : name ≠ "." ∧ name ≠ "..") (hsize : name.utf8ByteSize ≤ maxName) (content : Bytes) :
    (fs.adding (withFile q name content)).read (pathText (directory ++ "/" ++ name)) = .ok content := by
  have hplace : (fs.adding (withFile q name content)).place (pathText (directory ++ "/" ++ name)) = .ok (q ++ [name]) :=
    place_pathText (place_child (place_adding _ hp) (at?_fresh hw hq _) hl hn hdot hsize)
  refine read_eq_ok.2 ⟨_, hplace, ?_⟩
  rw [(hw.vacant hq).at?_adding (Vacant.ne_nil hq) (List.prefix_append q [name]), lookup_withFile]

end Fresh

/-- Removing the fresh directory leaves the file system as it was before it was made. -/
theorem removeTree_fresh {directory : String} (hw : fs.WellFormed) (hp : fs.place directory = .ok q)
    (hq : fs.at? q = none) (hlast : (components directory).getLast? ≠ some ".") {more : List (Place × FileEntry)}
    (hm : ∀ x ∈ more, q <+: x.1) : (fs.adding ((q, .directory) :: more)).removeTree directory = (none, fs) := by
  rw [removeTree, place_adding _ hp]
  dsimp only
  rw [at?_fresh hw hq more]
  dsimp only
  rw [if_neg hlast, (hw.vacant hq).without_adding]
  exact List.forall_mem_cons.2 ⟨List.prefix_refl q, hm⟩

end ApkReport.FileSystem
