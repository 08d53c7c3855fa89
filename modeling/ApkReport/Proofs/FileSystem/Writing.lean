/-
What stands at a place after an entry was put there, and at all others. A path that leads to
a file leads there still when the file is written, since it passes through directories
alone; so what is written to a path is what is read from it (`read_write`).
-/
import ApkReport.Proofs.FileSystem.Fresh

namespace ApkReport.FileSystem

variable {fs fs' : FileSystem} {p q : Place} {path : String}

/-! ## Entries -/

theorem lookup_replaced_self {entries : List (Place × FileEntry)} (h : (entries.lookup p).isSome) (e : FileEntry) :
    (entries.map fun (r, old) => if r = p then (r, e) else (r, old)).lookup p = some e := by
  induction entries with
  | nil => simp at h
  | cons x entries ih =>
    obtain ⟨r, old⟩ := x
    rw [List.map_cons]
    by_cases hr : r = p
    · subst hr
      simp
    · have hne : (p == r) = false := beq_eq_false_iff_ne.2 (Ne.symm hr)
      have hrest : (entries.lookup p).isSome := by simpa [List.lookup_cons, hne] using h
      simp only [hr, if_false, List.lookup_cons, hne]
      exact ih hrest

theorem lookup_replaced_other {entries : List (Place × FileEntry)} (hq : q ≠ p) (e : FileEntry) :
    (entries.map fun (r, old) => if r = p then (r, e) else (r, old)).lookup q = entries.lookup q := by
  induction entries with
  | nil => rfl
  | cons x entries ih =>
    obtain ⟨r, old⟩ := x
    rw [List.map_cons]
    by_cases hr : r = p
    · subst hr
      have hne : (q == r) = false := beq_eq_false_iff_ne.2 hq
      simp only [if_true, List.lookup_cons, hne]
      exact ih
    · simp only [hr, if_false, List.lookup_cons, ih]

theorem at?_put_self (hp : p ≠ []) (e : FileEntry) : (fs.put p e).at? p = some e := by
  rw [at?, if_neg (by simpa using hp)]
  by_cases hs : (fs.entries.lookup p).isSome
  · rw [put, if_pos hs]
    exact lookup_replaced_self hs e
  · have hnone : fs.entries.lookup p = none := by simpa only [Option.not_isSome_iff_eq_none] using hs
    rw [put, if_neg hs]
    simp [List.lookup_append, hnone]

theorem at?_put_other (hq : q ≠ p) (e : FileEntry) : (fs.put p e).at? q = fs.at? q := by
  rw [at?, at?]
  by_cases hs : (fs.entries.lookup p).isSome
  · rw [put, if_pos hs, lookup_replaced_other hq e]
  · have hne : (q == p) = false := beq_eq_false_iff_ne.2 hq
    rw [put, if_neg hs]
    simp [List.lookup_append, List.lookup_cons, hne]

/-- Only the last entry that is put at a place stays there. -/
theorem put_put (fs : FileSystem) (p : Place) (old e : FileEntry) : (fs.put p old).put p e = fs.put p e := by
  by_cases hs : (fs.entries.lookup p).isSome
  · have hlookup : (fs.put p old).entries.lookup p = some old := by
      rw [put, if_pos hs]
      exact lookup_replaced_self hs old
    rw [put, hlookup, put, put, if_pos hs, if_pos hs]
    dsimp only
    rw [Option.isSome_some, if_pos rfl, List.map_map]
    congr 1
    refine List.map_congr_left fun x _ => ?_
    by_cases hx : x.1 = p <;> simp [hx]
  · have hnone : fs.entries.lookup p = none := by simpa only [Option.not_isSome_iff_eq_none] using hs
    rw [put, put, put, if_neg hs]
    dsimp only
    rw [List.lookup_append, hnone, Option.none_or, List.map_append, map_replaced hnone]
    simp

/-! ## Paths -/

/-- A walk passes through directories, so it does not notice an entry that is put where there is none. -/
theorem walk_put {start : Place} {names : List String} (hp : fs.at? p ≠ some .directory) (e : FileEntry)
    (h : fs.walk start names = .ok q) : (fs.put p e).walk start names = .ok q := by
  induction names generalizing start with
  | nil => exact h
  | cons name names ih =>
    have hdir := directory_of_walk h
    have hne : start ≠ p := fun he => hp (he ▸ hdir)
    rw [walk, hdir] at h
    rw [walk, at?_put_other hne, hdir]
    dsimp only at h ⊢
    by_cases hdot : name = "."
    · rw [if_pos hdot] at h ⊢
      exact ih h
    · rw [if_neg hdot] at h ⊢
      by_cases hup : name = ".."
      · rw [if_pos hup] at h ⊢
        exact ih h
      · rw [if_neg hup] at h ⊢
        by_cases hlong : name.utf8ByteSize > maxName
        · rw [if_pos hlong] at h
          cases h
        · rw [if_neg hlong] at h ⊢
          exact ih h

theorem here_put (fs : FileSystem) (p : Place) (e : FileEntry) : (fs.put p e).here = fs.here := by
  unfold put
  split <;> rfl

theorem place_put (hp : fs.at? p ≠ some .directory) (e : FileEntry) (h : fs.place path = .ok q) :
    (fs.put p e).place path = .ok q := by
  have hpath := ne_empty_of_place h
  rw [place_eq hpath] at h ⊢
  rw [origin, here_put, ← origin]
  exact walk_put hp e h

/-! ## Writing -/

/-- A file can be written where a path leads to no directory. -/
theorem write_of_place {content : Bytes} (h : fs.place path = .ok q) (hq : fs.isDirectoryAt q = false) :
    fs.write path content = .ok (fs.put q (.file content)) := by
  rw [write, h]
  exact if_neg (by simp [hq])

theorem write_eq_ok {content : Bytes} :
    fs.write path content = .ok fs' ↔
      ∃ q, fs.place path = .ok q ∧ fs.isDirectoryAt q = false ∧ fs.put q (.file content) = fs' := by
  constructor
  · intro h
    unfold write at h
    cases hp : fs.place path with
    | error r => rw [hp] at h; cases h
    | ok q =>
      rw [hp] at h
      dsimp only at h
      cases hq : fs.isDirectoryAt q with
      | true => rw [hq] at h; cases h
      | false =>
        rw [hq] at h
        exact ⟨q, rfl, hq, Except.ok.inj h⟩
  · rintro ⟨q, hp, hq, rfl⟩
    exact write_of_place hp hq

/-- What was written to a path is read from it. -/
theorem read_write {content : Bytes} (h : fs.write path content = .ok fs') : fs'.read path = .ok content := by
  obtain ⟨q, hp, hq, rfl⟩ := write_eq_ok.1 h
  have hfile : fs.at? q ≠ some .directory := of_decide_eq_false hq
  have hne : q ≠ [] := by
    rintro rfl
    exact hfile rfl
  exact read_eq_ok.2 ⟨q, place_put hfile _ hp, at?_put_self hne _⟩

end ApkReport.FileSystem
