/-
How opening an archive fails. Whatever is wrong with a file, the failure is one of the
archive at its path, with three exceptions: a record of the directory that needs a later
version of the format, a record whose name is marked as text and is none, and a path with a
null character are refused in ways of their own. The directory is read record by record, so
the first two are up to the records that the reading comes to (`Reaches`).
-/
import ApkReport.Proofs.Archive.Opening
import ApkReport.Proofs.Archive.Own
import ApkReport.Proofs.Archive.Written

namespace ApkReport.Archive

open Text

/-! ## Records -/

/-- The name of a record is marked as text and is none. -/
def HasBadName (record : Bytes) (e : Utf8Error) : Prop :=
  Member.hasFlag (record.natAt 8 2) Member.utf8Flag = true ∧
    decodeUtf8 (record.slice recordSize (record.natAt 28 2)) = .error e

/-- The version that a record needs, in tenths. -/
def neededVersion (record : Bytes) : Nat := record.natAt 6 1

/-- What a record asks for that is refused whatever else the file holds. A bad name comes before a late version. -/
inductive Asks (record : Bytes) : OpenFault → Prop
  | name {e : Utf8Error} : HasBadName record e → Asks record (.badName e)
  | version : (∀ e, ¬ HasBadName record e) → neededVersion record > maxVersion →
    Asks record (.version (neededVersion record))

theorem decodeName_eq_error {record : Bytes} {e : Utf8Error} :
    decodeName (record.natAt 8 2) (record.slice recordSize (record.natAt 28 2)) = .error e ↔ HasBadName record e := by
  unfold decodeName HasBadName
  split <;> simp_all

/-- The extent of a record's member, before its extra fields and after them. -/
def recordExtent (record : Bytes) : Except ContainerFault Extent :=
  Extent.readExtra ⟨record.natAt 24 4, record.natAt 20 4, record.natAt 42 4⟩
    (record.slice (recordSize + record.natAt 28 2) (record.natAt 30 2))

/-- The member of a record that was read, which has no limit yet. -/
def recordMember (shift : Int) (record : Bytes) (name : String) (extent : Extent) : Member where
  fullName := name
  name := cutAtNull name
  flags := record.natAt 8 2
  method := record.natAt 10 2
  crc := record.natAt 16 4
  compressedSize := extent.compressedSize
  size := extent.size
  attributes := record.natAt 38 4
  offset := extent.offset + shift
  limit := 0

/-- The checks of a record one after another: its name, its version, its extra fields. -/
theorem readRecord_eq (shift : Int) (record : Bytes) :
    readRecord shift record =
      match decodeName (record.natAt 8 2) (record.slice recordSize (record.natAt 28 2)) with
      | .error e => .error (.badName e)
      | .ok name =>
        if neededVersion record > maxVersion then .error (.version (neededVersion record))
        else match recordExtent record with
          | .error g => .error (.container g)
          | .ok extent => .ok (recordMember shift record name extent) := by
  unfold readRecord
  dsimp only
  cases decodeName (record.natAt 8 2) (record.slice recordSize (record.natAt 28 2)) with
  | error e => rfl
  | ok name =>
    change (if record.natAt 6 1 > maxVersion then _ else _) = _
    unfold neededVersion recordExtent
    split
    · rfl
    · generalize Extent.readExtra _ _ = outcome
      cases outcome <;> rfl

/-- A record is refused for what it asks for. -/
theorem readRecord_of_asks (shift : Int) {record : Bytes} {f : OpenFault} (h : Asks record f) :
    readRecord shift record = .error f := by
  rw [readRecord_eq]
  cases h with
  | name hbad => rw [decodeName_eq_error.2 hbad]
  | version hnamed hlate =>
    cases hname : decodeName (record.natAt 8 2) (record.slice recordSize (record.natAt 28 2)) with
    | error e => exact absurd (decodeName_eq_error.1 hname) (hnamed e)
    | ok name => exact if_pos hlate

/-- Any other fault of a record is one of the archive. -/
theorem readRecord_error {shift : Int} {record : Bytes} {f : OpenFault} (h : readRecord shift record = .error f) :
    Asks record f ∨ ∃ g, f = .container g := by
  rw [readRecord_eq] at h
  cases hname : decodeName (record.natAt 8 2) (record.slice recordSize (record.natAt 28 2)) with
  | error e =>
    rw [hname] at h
    cases h
    exact .inl (.name (decodeName_eq_error.1 hname))
  | ok name =>
    have hnamed : ∀ e, ¬ HasBadName record e := by
      intro e he
      rw [decodeName_eq_error.2 he] at hname
      cases hname
    rw [hname] at h
    dsimp only at h
    by_cases hlate : neededVersion record > maxVersion
    · rw [if_pos hlate] at h
      cases h
      exact .inl (.version hnamed hlate)
    · rw [if_neg hlate] at h
      cases hextent : recordExtent record with
      | error g =>
        rw [hextent] at h
        cases h
        exact .inr ⟨g, rfl⟩
      | ok extent =>
        rw [hextent] at h
        cases h

/-! ## Directories -/

/-- The reading of a directory, of which so many bytes are left, comes to a record. All records before it were read. -/
inductive Reaches (shift : Int) : Nat → Bytes → Bytes → Prop
  | first {left : Nat} {directory : Bytes} : left ≠ 0 → recordSize ≤ directory.length → directoryMark <+: directory →
    Reaches shift left directory directory
  | next {left : Nat} {directory record : Bytes} {m : Member} : left ≠ 0 → recordSize ≤ directory.length →
    directoryMark <+: directory → readRecord shift directory = .ok m →
    Reaches shift (left - recordLength directory) (directory.drop (recordLength directory)) record →
    Reaches shift left directory record

/-- What reading a directory comes to, while there is a record to read. -/
theorem readRecords_record {shift : Int} {left : Nat} {directory : Bytes} (hl : left ≠ 0)
    (hd : recordSize ≤ directory.length) (hm : directoryMark <+: directory) :
    readRecords shift left directory = (readRecord shift directory).bind fun m =>
      (readRecords shift (left - recordLength directory) (directory.drop (recordLength directory))).map (m :: ·) := by
  rw [readRecords, if_neg hl, dif_neg (Nat.not_lt.2 hd)]
  have hmark : directoryMark.isPrefixOf directory = true := List.isPrefixOf_iff_prefix.2 hm
  simp only [hmark, Bool.not_true, Bool.false_eq_true, if_false]
  rfl

theorem readRecords_of_asks {shift : Int} {left : Nat} {directory record : Bytes} {f : OpenFault}
    (h : Reaches shift left directory record) (ha : Asks record f) : readRecords shift left directory = .error f := by
  induction h with
  | first hl hd hm =>
    rw [readRecords_record hl hd hm, readRecord_of_asks shift ha]
    rfl
  | next hl hd hm hread _ ih =>
    rw [readRecords_record hl hd hm, hread, Except.bind, ih ha]
    rfl

theorem readRecords_error {shift : Int} {left : Nat} {directory : Bytes} {f : OpenFault}
    (h : readRecords shift left directory = .error f) :
    (∃ record, Reaches shift left directory record ∧ Asks record f) ∨ ∃ g, f = .container g := by
  induction left, directory using readRecords.induct shift with
  | case1 directory =>
    rw [readRecords, if_pos rfl] at h
    cases h
  | case2 left directory hl hd =>
    rw [readRecords, if_neg hl, dif_pos hd] at h
    cases h
    exact .inr ⟨_, rfl⟩
  | case3 left directory hl hd hm =>
    rw [readRecords, if_neg hl, dif_neg hd] at h
    simp only [hm, if_true] at h
    cases h
    exact .inr ⟨_, rfl⟩
  | case4 left directory hl hd hm ih =>
    have hd' : recordSize ≤ directory.length := Nat.not_lt.1 hd
    have hm' : directoryMark <+: directory := List.isPrefixOf_iff_prefix.1 (by simpa using hm)
    rw [readRecords_record hl hd' hm'] at h
    cases hread : readRecord shift directory with
    | error g =>
      rw [hread] at h
      cases h
      exact (readRecord_error hread).imp_left fun ha => ⟨directory, .first hl hd' hm', ha⟩
    | ok m =>
      rw [hread, Except.bind] at h
      cases hrest : readRecords shift (left - recordLength directory) (directory.drop (recordLength directory)) with
      | error g =>
        rw [hrest] at h
        cases h
        rcases ih hrest with ⟨record, hreach, ha⟩ | hcontainer
        · exact .inl ⟨record, .next hl hd' hm' hread hreach, ha⟩
        · exact .inr hcontainer
      | ok ms =>
        rw [hrest] at h
        cases h

/-! ## Files -/

/-- The members of a file are those of its directory, if the end record leads to one. -/
theorem readDirectory_eq (file : Bytes) :
    readDirectory file = match findEnd file with
      | .error g => .error (.container g)
      | .ok r =>
        if r.directoryStart < 0 then .error (.container .badOffset)
        else (readRecords r.shift r.size (file.slice r.directoryStart.toNat r.size)).map (setLimits r.directoryStart []) := by
  unfold readDirectory
  cases findEnd file with
  | error g => rfl
  | ok r =>
    change (if r.directoryStart < 0 then _ else _) = if r.directoryStart < 0 then _ else _
    refine ite_congr rfl (fun _ => rfl) fun _ => ?_
    generalize readRecords _ _ _ = outcome
    cases outcome <;> rfl

/-- The reading of a file's directory comes to a record that asks for what is refused. -/
def Demands (file : Bytes) (f : OpenFault) : Prop :=
  ∃ r record, findEnd file = .ok r ∧ 0 ≤ r.directoryStart ∧
    Reaches r.shift r.size (file.slice r.directoryStart.toNat r.size) record ∧ Asks record f

theorem readDirectory_of_demands {file : Bytes} {f : OpenFault} (h : Demands file f) : readDirectory file = .error f := by
  obtain ⟨r, record, hend, hstart, hreach, ha⟩ := h
  rw [readDirectory_eq, hend]
  dsimp only
  rw [if_neg (Int.not_lt.2 hstart), readRecords_of_asks hreach ha]
  rfl

theorem readDirectory_error {file : Bytes} {f : OpenFault} (h : readDirectory file = .error f) :
    Demands file f ∨ ∃ g, f = .container g := by
  rw [readDirectory_eq] at h
  cases hend : findEnd file with
  | error g =>
    rw [hend] at h
    cases h
    exact .inr ⟨g, rfl⟩
  | ok r =>
    rw [hend] at h
    dsimp only at h
    by_cases hstart : r.directoryStart < 0
    · rw [if_pos hstart] at h
      cases h
      exact .inr ⟨_, rfl⟩
    · rw [if_neg hstart] at h
      cases hread : readRecords r.shift r.size (file.slice r.directoryStart.toNat r.size) with
      | error g =>
        rw [hread] at h
        cases h
        rcases readRecords_error hread with ⟨record, hreach, ha⟩ | hcontainer
        · exact .inl ⟨r, record, hend, Int.not_lt.1 hstart, hreach, ha⟩
        · exact .inr hcontainer
      | ok ms =>
        rw [hread] at h
        cases h

/-! ## Opening -/

/-- A fault of a file as the failure to open it at a path. -/
def OpenFault.toFailure (path : String) : OpenFault → Failure
  | .container g => .archive path g
  | .version tenths => .version tenths
  | .badName e => .memberName e

theorem openedFile_error {path : String} {file : Bytes} {f : OpenFault} (h : readDirectory file = .error f) :
    openedFile path file = .error (f.toFailure path) := by
  unfold openedFile Reader.open?
  rw [h]
  cases f <;> rfl

theorem archiveAt_null {files : FileSystem} {path : String} (h : FileSystem.hasNull path = true) :
    archiveAt files path = .error .nullInPath := by
  rw [archiveAt, if_pos h]

theorem archiveAt_of_read {files : FileSystem} {path : String} {file : Bytes} (hn : FileSystem.hasNull path = false)
    (h : files.read path = .ok file) : archiveAt files path = openedFile path file := by
  rw [archiveAt, hn, h]
  rfl

theorem outcome_openArchive (s : Session) (path : String) : ((openArchive path).on s).1 = archiveAt s.files path := by
  rw [on_openArchive]
  cases archiveAt s.files path <;> rfl

/-- A record is asked for a version or a name, and not for anything about the archive. -/
theorem Demands.cases {file : Bytes} {f : OpenFault} (h : Demands file f) :
    (∃ tenths, tenths > maxVersion ∧ f = .version tenths) ∨ ∃ e, f = .badName e := by
  obtain ⟨-, record, -, -, -, ha⟩ := h
  cases ha with
  | name _ => exact .inr ⟨_, rfl⟩
  | version _ hlate => exact .inl ⟨_, hlate, rfl⟩

/-- Opening an archive comes to a reader or fails as the archive at that path, exactly if the path has no null character
and no record of the file's directory asks for what is refused. Else the failure is about that: a null in the path,
a later version of the format, or a name that is no text. -/
theorem openArchive_fails_as_archive_iff (s : Session) (path : String) :
    (((∃ r, ((openArchive path).on s).1 = .ok r) ∨ ∃ g, ((openArchive path).on s).1 = .error (.archive path g)) ↔
      FileSystem.hasNull path = false ∧ ∀ file f, s.files.read path = .ok file → ¬ Demands file f) ∧
    (FileSystem.hasNull path = true → ((openArchive path).on s).1 = .error .nullInPath) ∧
    ∀ file f, FileSystem.hasNull path = false → s.files.read path = .ok file → Demands file f →
      (∃ tenths, tenths > maxVersion ∧ f = .version tenths ∧ ((openArchive path).on s).1 = .error (.version tenths)) ∨
        ∃ e, f = .badName e ∧ ((openArchive path).on s).1 = .error (.memberName e) := by
  simp only [outcome_openArchive]
  have hrefused : ∀ file f, FileSystem.hasNull path = false → s.files.read path = .ok file → Demands file f →
      (∃ tenths, tenths > maxVersion ∧ f = .version tenths ∧ archiveAt s.files path = .error (.version tenths)) ∨
        ∃ e, f = .badName e ∧ archiveAt s.files path = .error (.memberName e) := by
    intro file f hn hread hd
    have hopen := archiveAt_of_read hn hread
    rw [openedFile_error (readDirectory_of_demands hd)] at hopen
    rcases hd.cases with ⟨tenths, hlate, rfl⟩ | ⟨e, rfl⟩
    · exact .inl ⟨tenths, hlate, rfl, hopen⟩
    · exact .inr ⟨e, rfl, hopen⟩
  refine ⟨⟨fun h => ⟨?_, fun file f hread hd => ?_⟩, fun ⟨hn, hfree⟩ => ?_⟩, archiveAt_null, hrefused⟩
  · cases hn : FileSystem.hasNull path with
    | false => rfl
    | true => rw [archiveAt_null hn] at h; simp at h
  · cases hn : FileSystem.hasNull path with
    | true => rw [archiveAt_null hn] at h; simp at h
    | false =>
      rcases hrefused file f hn hread hd with ⟨tenths, -, -, ho⟩ | ⟨e, -, ho⟩
      · rw [ho] at h; simp at h
      · rw [ho] at h; simp at h
  · cases hread : s.files.read path with
    | error e =>
      refine .inr ⟨.os e, ?_⟩
      rw [archiveAt, hn, hread]
      rfl
    | ok file =>
      rw [archiveAt_of_read hn hread]
      cases hdir : readDirectory file with
      | ok ms => exact .inl ⟨_, openedFile_eq_ok.2 ⟨ms, hdir, rfl⟩⟩
      | error f =>
        rcases readDirectory_error hdir with hd | ⟨g, rfl⟩
        · exact absurd hd (hfree file f hread)
        · exact .inr ⟨g, openedFile_error hdir⟩

/-- An archive whose directory has some record for its member. -/
def withRecord (change : Bytes → Bytes) : Bytes := written (stored "x" []) [change (record "x" [] 0)]

/-- A record that needs version 9.9. -/
def laterRecord (r : Bytes) : Bytes := r.set 6 99

/-- A record whose name is marked as text and is one byte that starts no character. -/
def nonTextRecord (r : Bytes) : Bytes := (r.set 9 8).set 46 0xFF

theorem readDirectory_laterRecord : readDirectory (withRecord laterRecord) = .error (.version 99) := by
  decide +kernel

/-- A file that is no archive fails as one, and one with a record that needs a later version fails for that. -/
theorem openArchive_fails_as_archive_later :
    ((∃ r, ((openArchive "/a.apk").on (sessionOver [1, 2, 3])).1 = .ok r) ∨
      ∃ g, ((openArchive "/a.apk").on (sessionOver [1, 2, 3])).1 = .error (.archive "/a.apk" g)) ∧
    ((∃ tenths, tenths > maxVersion ∧ OpenFault.version 99 = .version tenths ∧
        ((openArchive "/a.apk").on (sessionOver (withRecord laterRecord))).1 = .error (.version tenths)) ∨
      ∃ e, OpenFault.version 99 = .badName e ∧
        ((openArchive "/a.apk").on (sessionOver (withRecord laterRecord))).1 = .error (.memberName e)) := by
  constructor
  · refine (openArchive_fails_as_archive_iff (sessionOver [1, 2, 3]) "/a.apk").1.2 ⟨by decide, fun file f hread hd => ?_⟩
    obtain rfl : [1, 2, 3] = file := Except.ok.inj hread
    obtain ⟨r, -, hend, -⟩ := hd
    cases hend
  · refine (openArchive_fails_as_archive_iff (sessionOver (withRecord laterRecord)) "/a.apk").2.2 _ (.version 99) (by decide)
      rfl ?_
    exact (readDirectory_error readDirectory_laterRecord).resolve_right nofun

/-- A later version, a name that is no text and a null in the path fail in ways of their own. -/
theorem openArchive_not_as_archive :
    (((openArchive "/a.apk").on (sessionOver (withRecord laterRecord))).1 = .error (.version 99) ∧
      (Failure.version 99).kind ≠ .archive) ∧
    (∃ e, ((openArchive "/a.apk").on (sessionOver (withRecord nonTextRecord))).1 = .error (.memberName e) ∧
      (Failure.memberName e).kind ≠ .archive) ∧
    (((openArchive "/a\x00.apk").on (sessionOver [])).1 = .error .nullInPath ∧ Failure.nullInPath.kind ≠ .archive) := by
  simp only [outcome_openArchive]
  have hbad : readDirectory (withRecord nonTextRecord) = .error (.badName ⟨0, [0xFF], .badStart⟩) := by decide +kernel
  have hnull : FileSystem.hasNull "/a.apk" = false := by decide
  refine ⟨⟨?_, by decide⟩, ⟨⟨0, [0xFF], .badStart⟩, ?_, nofun⟩, ⟨archiveAt_null (by decide), by decide⟩⟩
  · have hread : (sessionOver (withRecord laterRecord)).files.read "/a.apk" = .ok (withRecord laterRecord) := rfl
    rw [archiveAt_of_read hnull hread, openedFile_error readDirectory_laterRecord]
    rfl
  · have hread : (sessionOver (withRecord nonTextRecord)).files.read "/a.apk" = .ok (withRecord nonTextRecord) := rfl
    rw [archiveAt_of_read hnull hread, openedFile_error hbad]
    rfl

end ApkReport.Archive
