/-
Opening an archive leaves a note and nothing else, and what it comes to depends on the
file at the path alone (`archiveAt`). Its listing is complete exactly when every member
has a name, and then holds the members that are no directories.
-/
import ApkReport.Archive.Access
import ApkReport.Proofs.Session.Run

namespace ApkReport.Archive

/-! ## Opening -/

/-- What opening a file that was read comes to. -/
def openedFile (path : String) (file : Bytes) : Except Failure Reader :=
  match Reader.open? path file with
  | .ok r => .ok r
  | .error (.container f) => .error (.archive path f)
  | .error (.version tenths) => .error (.version tenths)
  | .error (.badName e) => .error (.memberName e)

/-- What opening the archive at a path comes to. -/
def archiveAt (files : FileSystem) (path : String) : Except Failure Reader :=
  if FileSystem.hasNull path then .error .nullInPath
  else match files.read path with
    | .error e => .error (.archive path (.os e))
    | .ok file => openedFile path file

/-- The note of an archive that opened. -/
def openedNote (threshold : Int) (path : String) (r : Reader) : List Event :=
  noted threshold .archive Journal.debug ("Opened " ++ path ++ " (" ++ toString r.members.length ++ " entries)")

theorem on_openArchive (s : Session) (path : String) :
    (openArchive path).on s = match archiveAt s.files path with
      | .ok r => (.ok r, s.append (openedNote s.level path r))
      | .error f => (.error f, s) := by
  unfold openArchive archiveAt
  by_cases hn : FileSystem.hasNull path = true
  · simp only [hn, if_true, Run.on_throw, Run.on_bind]
  · simp only [hn, if_false, Bool.false_eq_true, Run.on_bind, Run.on_get]
    cases s.files.read path with
    | error e => simp only [Run.on_throw]
    | ok file =>
      simp only [openedFile]
      rcases Reader.open? path file with (f | t | e) | r
      · simp only [Run.on_throw]
      · simp only [Run.on_throw]
      · simp only [Run.on_throw]
      · simp only [Run.on_bind, Run.on_note, Run.on_pure, openedNote]

theorem openArchive_ok {s : Session} {path : String} {r : Reader} (h : archiveAt s.files path = .ok r) :
    (openArchive path).on s = (.ok r, s.append (openedNote s.level path r)) := by
  rw [on_openArchive, h]

theorem openArchive_error {s : Session} {path : String} {f : Failure} (h : archiveAt s.files path = .error f) :
    (openArchive path).on s = (.error f, s) := by
  rw [on_openArchive, h]

/-- An archive opens at a path without null characters, where a file stands that reads as one. -/
theorem archiveAt_eq_ok {files : FileSystem} {path : String} {r : Reader} :
    archiveAt files path = .ok r ↔
      FileSystem.hasNull path = false ∧ ∃ file, files.read path = .ok file ∧ openedFile path file = .ok r := by
  unfold archiveAt
  cases FileSystem.hasNull path with
  | true => simp
  | false =>
    cases files.read path with
    | error e => simp
    | ok file => simp

theorem openedFile_eq_ok {path : String} {file : Bytes} {r : Reader} :
    openedFile path file = .ok r ↔ ∃ ms, readDirectory file = .ok ms ∧ r = { path := pathText path, file, members := ms } := by
  unfold openedFile Reader.open?
  rcases readDirectory file with (f | t | e) | ms
  · simp [bind, Except.bind]
  · simp [bind, Except.bind]
  · simp [bind, Except.bind]
  · simp [bind, Except.bind, pure, Except.pure, eq_comm]

/-- The archive that opens is open, and shows its path. -/
theorem of_archiveAt {files : FileSystem} {path : String} {r : Reader} (h : archiveAt files path = .ok r) :
    r.path = pathText path ∧ r.isOpen = true := by
  obtain ⟨-, file, -, hfile⟩ := archiveAt_eq_ok.1 h
  obtain ⟨ms, -, rfl⟩ := openedFile_eq_ok.1 hfile
  exact ⟨rfl, rfl⟩

/-! ## Listing -/

/-- The name names no directory. -/
def IsFileName (name : String) : Prop := name.toList.getLast? ≠ some '/'

instance : DecidablePred IsFileName := fun name => inferInstanceAs (Decidable (name.toList.getLast? ≠ some '/'))

theorem Listing.of_named : ∀ {ms : List Member}, (∀ m ∈ ms, m.name ≠ "") →
    Listing.of ms = ⟨ms.filter fun m => IsFileName m.name, true⟩
  | [], _ => rfl
  | m :: ms, h => by
    have ih := Listing.of_named fun x hx => h x (List.mem_cons_of_mem m hx)
    have hm : m.name.toList ≠ [] := fun he => h m List.mem_cons_self (String.toList_eq_nil_iff.1 he)
    obtain ⟨c, hc⟩ := Option.isSome_iff_exists.1 (List.getLast?_isSome.2 hm)
    simp only [Listing.of, Member.isDirectory?, hc, Option.map_some]
    by_cases hs : c = '/'
    · have hf : ¬ IsFileName m.name := by simp [IsFileName, hc, hs]
      simp only [hs, decide_true, ih, List.filter_cons, hf, decide_false, Bool.false_eq_true, if_false]
    · have hf : IsFileName m.name := by simp [IsFileName, hc, hs]
      simp only [hs, decide_false, ih, List.filter_cons, hf, decide_true, if_true]

theorem Reader.allEntries_of_named {r : Reader} (h : ∀ m ∈ r.members, m.name ≠ "") :
    r.allEntries = .ok (r.members.filter fun m => IsFileName m.name) := by
  simp only [Reader.allEntries, Reader.listing, Listing.of_named h, if_true]

end ApkReport.Archive
