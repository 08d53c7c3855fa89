/-
Temporary directories. Their paths differ in eight digits at the end, so the paths of all
numbers lead through one directory, or nowhere for one reason (`place_numbered`). A
directory is therefore made unless that directory is missing or all names in it are taken;
and as all numbers are tried, where the numbers start makes no difference to that.
-/
import ApkReport.Inspection
import ApkReport.Proofs.FileSystem.Fresh
import ApkReport.Proofs.Session.Run

namespace ApkReport

open FileSystem

/-! ## Numbers -/

/-- The digits that a number is written with in a name. -/
def numberText (n : Nat) : String := padded 8 (n % numberCount)

theorem toList_numberText (n : Nat) : (numberText n).toList.length = 8 ∧ ∀ c ∈ (numberText n).toList, c.isDigit := by
  have hlt : n % numberCount < 100000000 := Nat.mod_lt n (by decide)
  have hlen : (Nat.toDigits 10 (n % numberCount)).length ≤ 8 :=
    (Nat.length_toDigits_le_iff (by decide) (by decide)).2 hlt
  rw [numberText, padded, String.toList_ofList]
  constructor
  · rw [Text.zeros, List.length_append, List.length_replicate]
    omega
  · intro c hc
    rcases List.mem_append.1 hc with hc | hc
    · rw [List.eq_of_mem_replicate hc]
      rfl
    · exact Nat.isDigit_of_mem_toDigits (by decide) (by decide) hc

theorem isComponent_numberText (n : Nat) : IsComponent (numberText n) := by
  obtain ⟨hlen, hdigit⟩ := toList_numberText n
  constructor
  · intro he
    rw [he] at hlen
    exact absurd hlen (by decide)
  · intro hs
    exact absurd (hdigit _ hs) (by decide)

theorem utf8ByteSize_of_digits {cs : List Char} (h : ∀ c ∈ cs, c.isDigit) : (String.ofList cs).utf8ByteSize = cs.length := by
  induction cs with
  | nil => rfl
  | cons c cs ih =>
    have hc : c.utf8Size = 1 := by
      have hd := h c List.mem_cons_self
      simp only [Char.isDigit, Bool.and_eq_true, decide_eq_true_eq] at hd
      exact Char.utf8Size_eq_one_iff.2 (UInt32.le_trans hd.2 (by decide))
    rw [← List.singleton_append, String.ofList_append, String.utf8ByteSize_append,
      ih fun x hx => h x (List.mem_cons_of_mem _ hx), ← String.singleton_eq_ofList, String.utf8ByteSize_singleton, hc,
      List.length_append, List.length_singleton]

/-- So names of all numbers are equally long. -/
theorem utf8ByteSize_numberText (n : Nat) : (numberText n).utf8ByteSize = 8 := by
  obtain ⟨hlen, hdigit⟩ := toList_numberText n
  rw [← String.ofList_toList (s := numberText n), utf8ByteSize_of_digits hdigit, hlen]

/-- A name that ends in a number is not a single or a double dot. -/
theorem numbered_ne_dots (stem : String) (n : Nat) : stem ++ numberText n ≠ "." ∧ stem ++ numberText n ≠ ".." := by
  have hlen : 8 ≤ (stem ++ numberText n).toList.length := by
    rw [String.toList_append, List.length_append, (toList_numberText n).1]
    omega
  constructor
  · intro he
    rw [he] at hlen
    exact absurd hlen (by decide)
  · intro he
    rw [he] at hlen
    exact absurd hlen (by decide)

theorem numberedPath_eq (root name : String) (n : Nat) : numberedPath root name n = joinPath root name ++ numberText n :=
  joinPath_append root (isComponent_numberText n)

theorem getLast?_numberedPath (root name : String) (n : Nat) : (numberedPath root name n).toList.getLast? ≠ some '/' := by
  rw [numberedPath_eq]
  exact getLast?_append_component _ (isComponent_numberText n)

theorem hasNull_numberedPath {root name : String} (h : hasNull (joinPath root name) = false) (n : Nat) :
    hasNull (numberedPath root name n) = false := by
  have hdigits : hasNull (numberText n) = false := by
    rw [hasNull, List.contains_eq_mem, decide_eq_false_iff_not]
    exact fun hc => absurd ((toList_numberText n).2 _ hc) (by decide)
  rw [numberedPath_eq, hasNull_append, h, hdigits]
  rfl

theorem components_numberedPath (root name : String) :
    ∃ init stem, ∀ n, components (numberedPath root name n) = init ++ [stem ++ numberText n] := by
  obtain ⟨init, stem, h⟩ := components_append_tail (joinPath root name)
  refine ⟨init, stem, fun n => ?_⟩
  rw [numberedPath_eq, h _ (isComponent_numberText n)]

theorem last_component_numberedPath (root name : String) (n : Nat) :
    (components (numberedPath root name n)).getLast? ≠ some "." := by
  obtain ⟨init, stem, h⟩ := components_numberedPath root name
  rw [h, List.getLast?_append]
  exact fun he => (numbered_ne_dots stem n).1 (Option.some.inj he)

/-- The paths of all numbers lead into one directory, or nowhere for one reason. -/
theorem place_numbered (fs : FileSystem) (root name : String) :
    (∃ r, r ≠ .fileExists ∧ ∀ n, fs.place (numberedPath root name n) = .error r) ∨
      ∃ place : Nat → Place, ∀ n, fs.place (numberedPath root name n) = .ok (place n) := by
  obtain ⟨above, stem, hne, h⟩ := place_append_tail fs (joinPath root name)
  have hsize : ∀ n, (stem ++ numberText n).utf8ByteSize = stem.utf8ByteSize + 8 := by
    intro n
    rw [String.utf8ByteSize_append, utf8ByteSize_numberText]
  simp only [numberedPath_eq]
  cases above with
  | error r => exact .inl ⟨r, fun he => hne (he ▸ rfl), fun n => h _ (isComponent_numberText n)⟩
  | ok p =>
    have hplace : ∀ n, fs.place (joinPath root name ++ numberText n) = fs.walk p [stem ++ numberText n] :=
      fun n => h _ (isComponent_numberText n)
    -- the step to the name of a number comes to the same for all numbers
    simp only [hplace, walk_single (numbered_ne_dots stem _), hsize]
    cases fs.at? p with
    | none => exact .inl ⟨.noEntry, by decide, fun _ => rfl⟩
    | some e =>
      cases e with
      | file _ => exact .inl ⟨.notDirectory, by decide, fun _ => rfl⟩
      | directory =>
        by_cases hlong : stem.utf8ByteSize + 8 > maxName
        · exact .inl ⟨.nameTooLong, by decide, fun _ => if_pos hlong⟩
        · exact .inr ⟨_, fun n => if_neg hlong⟩

/-- The place that a number leads to is free. -/
structure Free (files : FileSystem) (root name : String) (n : Nat) (q : Place) : Prop where
  leads : files.place (numberedPath root name n) = .ok q
  missing : files.at? q = none

/-! ## Making -/

/-- The session in which so many directories were made. -/
def Session.numbered (s : Session) (n : Nat) : Session := { s with serial := n }

@[simp] theorem Session.numbered_files (s : Session) (n : Nat) : (s.numbered n).files = s.files := rfl
@[simp] theorem Session.numbered_tempRoot (s : Session) (n : Nat) : (s.numbered n).tempRoot = s.tempRoot := rfl
@[simp] theorem Session.numbered_serial (s : Session) (n : Nat) : (s.numbered n).serial = n := rfl
@[simp] theorem Session.numbered_level (s : Session) (n : Nat) : (s.numbered n).level = s.level := rfl
@[simp] theorem Session.numbered_output (s : Session) (n : Nat) : (s.numbered n).output = s.output := rfl
@[simp] theorem Session.numbered_events (s : Session) (n : Nat) : (s.numbered n).events = s.events := rfl
@[simp] theorem Session.numbered_numbered (s : Session) (n m : Nat) : (s.numbered n).numbered m = s.numbered m := rfl

/-- The session after the directory of a number was made at a place. -/
def Session.made (s : Session) (n : Nat) (q : Place) : Session :=
  (s.numbered n).withFiles (s.files.adding [(q, .directory)])

theorem on_makeNumberedDirectory_succ (name : String) (tries : Nat) (s : Session) :
    (makeNumberedDirectory name (tries + 1)).on s =
      match s.files.makeDirectory (numberedPath s.tempRoot name (s.serial + 1)) with
      | .ok files => (.ok (numberedPath s.tempRoot name (s.serial + 1)), (s.numbered (s.serial + 1)).withFiles files)
      | .error e =>
        if e.reason = .fileExists then (makeNumberedDirectory name tries).on (s.numbered (s.serial + 1))
        else (.error (.os e), s.numbered (s.serial + 1)) := by
  rw [makeNumberedDirectory]
  simp only [Run.on_bind, Run.on_get, Run.on_modify]
  change (match s.files.makeDirectory (numberedPath s.tempRoot name (s.serial + 1)) with
    | .ok files => _ | .error e => _ : Run String).on (s.numbered (s.serial + 1)) = _
  cases s.files.makeDirectory (numberedPath s.tempRoot name (s.serial + 1)) with
  | ok files => simp only [Run.on_bind, Run.on_setFiles, Run.on_pure]
  | error e => simp only [Run.on_ite, Run.on_throw]

/-- Where numbers lead, the first free one is taken, if there is one among those that are tried. -/
theorem on_makeNumberedDirectory {s : Session} {name : String} {place : Nat → Place}
    (h : ∀ n, s.files.place (numberedPath s.tempRoot name n) = .ok (place n)) (tries : Nat) :
    (∃ n, Free s.files s.tempRoot name n (place n) ∧
        (makeNumberedDirectory name tries).on s = (.ok (numberedPath s.tempRoot name n), s.made n (place n))) ∨
      (∀ n, s.serial < n → n ≤ s.serial + tries → (s.files.at? (place n)).isSome) ∧
        (makeNumberedDirectory name tries).on s =
          (.error (.os ⟨.fileExists, none⟩), s.numbered (s.serial + tries)) := by
  induction tries generalizing s with
  | zero => exact .inr ⟨fun n hlt hle => absurd hle (by omega), rfl⟩
  | succ tries ih =>
    rw [on_makeNumberedDirectory_succ, makeDirectory_eq, h]
    dsimp only
    by_cases htaken : (s.files.at? (place (s.serial + 1))).isSome
    · have hreason : (FileSystem.failure (numberedPath s.tempRoot name (s.serial + 1)) .fileExists).reason = .fileExists := rfl
      rw [if_pos htaken]
      dsimp only
      rw [if_pos hreason]
      rcases @ih (s.numbered (s.serial + 1)) h with ⟨n, hfree, hon⟩ | ⟨hall, hon⟩
      · exact .inl ⟨n, hfree, hon⟩
      · refine .inr ⟨fun n hlt hle => ?_, ?_⟩
        · rcases Nat.lt_or_ge (s.serial + 1) n with hn | hn
          · exact hall n hn (by rw [Session.numbered_serial]; omega)
          · rwa [show n = s.serial + 1 by omega]
        · rw [hon, Session.numbered_serial, Session.numbered_numbered, Nat.add_right_comm, Nat.add_assoc]
    · rw [if_neg htaken]
      have hmissing : s.files.at? (place (s.serial + 1)) = none := by simpa using htaken
      exact .inl ⟨s.serial + 1, ⟨h _, hmissing⟩, rfl⟩

/-- Among as many numbers as there are, one is written like any other. -/
theorem exists_numberText (n serial : Nat) :
    ∃ m, serial < m ∧ m ≤ serial + numberCount ∧ numberText m = numberText n := by
  refine ⟨serial + 1 + (n + numberCount - (serial + 1) % numberCount) % numberCount, ?_, ?_, ?_⟩
  · omega
  · unfold numberCount
    omega
  · rw [numberText, numberText]
    congr 1
    unfold numberCount
    omega

section Numbered

variable {s : Session} {name : String} {place : Nat → Place}
  (h : ∀ n, s.files.place (numberedPath s.tempRoot name n) = .ok (place n))
include h

/-- As all numbers are tried, one is tried that is written like the free one. -/
theorem on_makeNumberedDirectory_free {n : Nat} (hn : s.files.at? (place n) = none) :
    ∃ m q, Free s.files s.tempRoot name m q ∧
      (makeNumberedDirectory name numberCount).on s = (.ok (numberedPath s.tempRoot name m), s.made m q) := by
  rcases on_makeNumberedDirectory h numberCount with ⟨m, hm, hon⟩ | ⟨hall, -⟩
  · exact ⟨m, place m, hm, hon⟩
  · obtain ⟨m, hlt, hle, hsame⟩ := exists_numberText n s.serial
    have hpath : numberedPath s.tempRoot name m = numberedPath s.tempRoot name n := by
      rw [numberedPath_eq, numberedPath_eq, hsame]
    have hplace : place m = place n := Except.ok.inj ((h m).symm.trans (hpath ▸ h n))
    have htaken := hall m hlt hle
    rw [hplace, hn] at htaken
    exact absurd htaken (by decide)

theorem on_makeNumberedDirectory_taken (hall : ¬ ∃ n, s.files.at? (place n) = none) (tries : Nat) :
    (makeNumberedDirectory name tries).on s = (.error (.os ⟨.fileExists, none⟩), s.numbered (s.serial + tries)) := by
  rcases on_makeNumberedDirectory h tries with ⟨m, hm, -⟩ | ⟨-, hon⟩
  · exact absurd ⟨m, hm.missing⟩ hall
  · exact hon

end Numbered

theorem on_makeTempDirectory (pre : Value) (s : Session) :
    (makeTempDirectory pre).on s = match prefixText pre with
      | .error f => (.error f, s)
      | .ok name =>
        if hasNull (joinPath s.tempRoot name) then (.error .nullInPath, s)
        else (makeNumberedDirectory name numberCount).on s := by
  unfold makeTempDirectory
  cases prefixText pre with
  | error f => simp only [Run.on_bind, Run.on_lift]
  | ok name =>
    simp only [Run.on_bind, Run.on_lift, Run.on_get]
    split <;> simp

/-- What making a temporary directory comes to over some files, in every session. Either it is refused, or the
directory that it would stand in is missing, or all names are taken there, or it is made. -/
theorem makeTempDirectory_cases (files : FileSystem) (root : String) (pre : Value) :
    (∃ f, ∀ s : Session, s.files = files → s.tempRoot = root → (makeTempDirectory pre).on s = (.error f, s)) ∨
      ∃ name, hasNull (joinPath root name) = false ∧
        ((∃ r, ∀ s : Session, s.files = files → s.tempRoot = root → (makeTempDirectory pre).on s =
            (.error (.os (FileSystem.failure (numberedPath root name (s.serial + 1)) r)), s.numbered (s.serial + 1))) ∨
          (∀ s : Session, s.files = files → s.tempRoot = root → (makeTempDirectory pre).on s =
            (.error (.os ⟨.fileExists, none⟩), s.numbered (s.serial + numberCount))) ∨
          ∀ s : Session, s.files = files → s.tempRoot = root → ∃ n q, Free files root name n q ∧
            (makeTempDirectory pre).on s = (.ok (numberedPath root name n), s.made n q)) := by
  cases hname : prefixText pre with
  | error f =>
    refine .inl ⟨f, fun s _ _ => ?_⟩
    rw [on_makeTempDirectory, hname]
  | ok name =>
    have hon : ∀ s : Session, s.tempRoot = root → (makeTempDirectory pre).on s =
        if hasNull (joinPath root name) then (.error .nullInPath, s) else (makeNumberedDirectory name numberCount).on s := by
      rintro s rfl
      rw [on_makeTempDirectory, hname]
    cases hnull : hasNull (joinPath root name) with
    | true =>
      refine .inl ⟨.nullInPath, fun s _ hr => ?_⟩
      rw [hon s hr, hnull]
      rfl
    | false =>
      have hmake : ∀ s : Session, s.tempRoot = root →
          (makeTempDirectory pre).on s = (makeNumberedDirectory name numberCount).on s := by
        intro s hr
        rw [hon s hr, hnull]
        rfl
      refine .inr ⟨name, hnull, ?_⟩
      rcases place_numbered files root name with ⟨r, hr, h⟩ | ⟨place, h⟩
      · -- the directory is missing
        refine .inl ⟨r, ?_⟩
        rintro s rfl rfl
        rw [hmake s rfl, show numberCount = 99999999 + 1 from rfl, on_makeNumberedDirectory_succ, makeDirectory_eq, h]
        exact if_neg hr
      · by_cases hfree : ∃ n, files.at? (place n) = none
        · obtain ⟨n, hn⟩ := hfree
          refine .inr (.inr ?_)
          rintro s rfl rfl
          rw [hmake s rfl]
          exact on_makeNumberedDirectory_free h hn
        · refine .inr (.inl ?_)
          rintro s rfl rfl
          rw [hmake s rfl]
          exact on_makeNumberedDirectory_taken h hfree numberCount

/-- In one session the directory is made, or no more than numbers are used up. -/
theorem makeTempDirectory_made_or_error (s : Session) (pre : Value) :
    (∃ f n, (makeTempDirectory pre).on s = (.error f, s.numbered n)) ∨
      ∃ name n q, Free s.files s.tempRoot name n q ∧
        (makeTempDirectory pre).on s = (.ok (numberedPath s.tempRoot name n), s.made n q) := by
  rcases makeTempDirectory_cases s.files s.tempRoot pre with ⟨f, h⟩ | ⟨name, -, ⟨r, h⟩ | h | h⟩
  · exact .inl ⟨f, s.serial, h s rfl rfl⟩
  · exact .inl ⟨_, _, h s rfl rfl⟩
  · exact .inl ⟨_, _, h s rfl rfl⟩
  · obtain ⟨n, q, hfree, hm⟩ := h s rfl rfl
    exact .inr ⟨name, n, q, hfree, hm⟩

end ApkReport
