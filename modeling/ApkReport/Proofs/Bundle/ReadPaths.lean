/-
The paths on which a member is read: at once, in portions, and by the copy of a base package. They
agree as far as the data of the member are all there (`read_paths_agree`). Data that end before the
directory says they do can be read at once and by no other path.
-/
import ApkReport.Proofs.Archive.Portions
import ApkReport.Proofs.Archive.Refusal
import ApkReport.Proofs.Archive.Shortage
import ApkReport.Proofs.Bundle.Selection
import ApkReport.Proofs.Deflate.Copies

namespace ApkReport

open Archive FileSystem
open Bytes (ofNatLE ofString)

namespace Archive

/-! ## Members -/

/-- A stream that opens is fresh, and promises what the directory says of the member. -/
theorem of_openStream {r : Reader} {m : Member} {stream : Stream} (h : r.openStream m = .ok stream) :
    stream.IsFresh ∧ stream.left = m.size ∧ stream.crc = UInt32.ofNat m.crc := by
  rw [openStream_eq] at h
  split at h
  · exact nomatch h
  · split at h
    · exact nomatch h
    · unfold Reader.streamAt at h
      dsimp only [bind, Except.bind] at h
      split at h
      · exact nomatch h
      · split at h
        · exact nomatch h
        · cases h
          exact ⟨⟨List.length_take_le _ _, rfl, rfl, rfl, rfl, rfl, rfl⟩, rfl, rfl⟩

theorem stream_eq_ok {r : Reader} {m : Member} {stream : Stream} :
    r.stream m = .ok stream ↔ r.openStream m = .ok stream := by
  unfold Reader.stream
  cases r.openStream m with
  | error f => simp [Except.mapError]
  | ok s => simp [Except.mapError]

theorem content_eq_ok {r : Reader} {m : Member} {p : Bytes} :
    r.content m = .ok p ↔ ∃ stream t, r.openStream m = .ok stream ∧ stream.readAll = .ok (p, t) := by
  unfold Reader.content Reader.contentFrom
  cases r.openStream m with
  | error f => simp
  | ok s =>
    cases hr : s.readAll with
    | error f => simp [hr]
    | ok x =>
      obtain ⟨p, t⟩ := x
      simp [hr]

/-- Checks in a directory have four bytes. -/
theorem crc_lt_of_readRecord {shift : Int} {record : Bytes} {m : Member} (h : readRecord shift record = .ok m) :
    m.crc < 2 ^ 32 := by
  rw [readRecord_eq] at h
  split at h
  · cases h
  · split at h
    · cases h
    · split at h
      · cases h
      · cases h
        exact Bytes.natAt_lt record 16 4

theorem crc_lt_of_readRecords {shift : Int} {left : Nat} {directory : Bytes} {ms : List Member}
    (h : readRecords shift left directory = .ok ms) : ∀ m ∈ ms, m.crc < 2 ^ 32 := by
  induction left, directory using readRecords.induct shift generalizing ms with
  | case1 directory =>
    rw [readRecords, if_pos rfl] at h
    cases h
    exact fun m hm => absurd hm List.not_mem_nil
  | case2 left directory hl hd =>
    rw [readRecords, if_neg hl, dif_pos hd] at h
    cases h
  | case3 left directory hl hd hm =>
    rw [readRecords, if_neg hl, dif_neg hd] at h
    simp only [hm, if_true] at h
    cases h
  | case4 left directory hl hd hm ih =>
    rw [readRecords_record hl (Nat.not_lt.1 hd) (List.isPrefixOf_iff_prefix.1 (by simpa using hm))] at h
    cases hread : readRecord shift directory with
    | error g =>
      rw [hread] at h
      cases h
    | ok m =>
      rw [hread, Except.bind] at h
      cases hrest : readRecords shift (left - recordLength directory) (directory.drop (recordLength directory)) with
      | error g =>
        rw [hrest] at h
        cases h
      | ok rest =>
        rw [hrest] at h
        cases h
        exact List.forall_mem_cons.2 ⟨crc_lt_of_readRecord hread, ih hrest⟩

theorem crc_lt_of_setLimits {directoryStart : Int} {earlier ms : List Member} (h : ∀ m ∈ ms, m.crc < 2 ^ 32) :
    ∀ m ∈ setLimits directoryStart earlier ms, m.crc < 2 ^ 32 := by
  induction ms generalizing earlier with
  | nil => exact nofun
  | cons m ms ih =>
    rw [List.forall_mem_cons] at h
    exact List.forall_mem_cons.2 ⟨h.1, ih h.2⟩

theorem crc_lt_of_archiveAt {files : FileSystem} {path : String} {r : Reader} (h : archiveAt files path = .ok r) :
    ∀ m ∈ r.members, m.crc < 2 ^ 32 := by
  obtain ⟨-, file, -, hfile⟩ := archiveAt_eq_ok.1 h
  obtain ⟨ms, hms, rfl⟩ := openedFile_eq_ok.1 hfile
  rw [readDirectory_eq] at hms
  split at hms
  · exact nomatch hms
  · split at hms
    · exact nomatch hms
    · rename_i e _ _
      cases hrecords : readRecords e.shift e.size (file.slice e.directoryStart.toNat e.size) with
      | error f =>
        rw [hrecords] at hms
        cases hms
      | ok members =>
        rw [hrecords] at hms
        cases hms
        exact crc_lt_of_setLimits (crc_lt_of_readRecords hrecords)

/-- Reads of a member in portions come to what reading it at once comes to. -/
theorem answers_of_content {r : Reader} {m : Member} {p : Bytes} (h : r.content m = .ok p) :
    ∃ stream, r.stream m = .ok stream ∧
      (stream.HoldsNothing → ∀ sizes chunks, stream.answers sizes = .ok chunks → chunks = Bytes.portions p sizes) ∧
      (stream.IsWhole → ∀ sizes, stream.answers sizes = .ok (Bytes.portions p sizes)) := by
  obtain ⟨stream, t, hopen, hread⟩ := content_eq_ok.1 h
  have hfresh := (of_openStream hopen).1
  exact ⟨stream, stream_eq_ok.2 hopen, fun hn sizes chunks => Stream.eq_portions_of_readAll hfresh hread hn,
    Stream.answers_of_readAll hfresh hread⟩

end Archive

/-! ## The copy -/

section Directory

variable {s : Session} {bundle directory : String} {q : Place} (hp : s.files.place (pathText directory) = .ok q)
  (hq : s.files.at? q = some .directory)
include hp hq

/-- What was copied is found where the copy was asked for. -/
theorem read_withCopyAt (hfree : s.files.isDirectoryAt (basePlace q) = false) (bytes : Bytes) :
    (withCopyAt s.files (basePlace q) (some bytes)).read (basePath directory) = .ok bytes := by
  have hfile : s.files.at? (basePlace q) ≠ some .directory := of_decide_eq_false hfree
  exact read_eq_ok.2 ⟨basePlace q, place_put hfile _ (place_basePath hp hq), at?_put_self (by simp [basePlace]) _⟩

/-- The copy of a base package that can be read at once. -/
theorem extractBase_of_content {r : Reader} {m : Member} {stream : Stream} {p : Bytes}
    (hr : archiveAt s.files bundle = .ok r) (hm : IsFirstBase r.members m) (hcontent : r.content m = .ok p)
    (hstream : r.stream m = .ok stream) (hwhole : stream.IsWhole) (hfree : s.files.isDirectoryAt (basePlace q) = false) :
    ((extractBase bundle directory).on s).1 = .ok (basePath directory) ∧
      ((extractBase bundle directory).on s).2.files.read (basePath directory) = .ok p := by
  obtain ⟨stream', t, hopen, hread⟩ := content_eq_ok.1 hcontent
  cases (stream_eq_ok.1 hstream).symm.trans hopen
  have hcopy := Stream.copyStream_of_readAll (of_openStream hopen).1 hread hwhole
  have hextract := @extractBase_of_first s directory q hp hq bundle r hr m hm
  rw [hstream, hfree, copyOutcome, hcopy] at hextract
  obtain ⟨houtcome, hfiles⟩ := hextract
  rw [houtcome, hfiles]
  exact ⟨rfl, read_withCopyAt hp hq hfree p⟩

/-- A copy that ends well is no longer than the directory of the bundle says, has the check that it says, and is what can
be read at once if nothing is held back. -/
theorem check_of_extractBase {path : String} (h : ((extractBase bundle directory).on s).1 = .ok path) :
    path = basePath directory ∧ ∃ r m stream bytes, archiveAt s.files bundle = .ok r ∧ IsFirstBase r.members m ∧
      r.stream m = .ok stream ∧ ((extractBase bundle directory).on s).2.files.read path = .ok bytes ∧
      bytes.length ≤ m.size ∧ (Crc32.check bytes).toNat = m.crc ∧
      ∀ p, r.content m = .ok p → stream.HoldsNothing → bytes = p := by
  cases hr : archiveAt s.files bundle with
  | error f =>
    rw [on_extractBase_of_place hp hq, hr] at h
    exact nomatch h
  | ok r =>
    cases hfirst : r.listing.firstBase? with
    | none =>
      rw [on_extractBase_of_place hp hq, hr] at h
      dsimp only at h
      rw [hfirst] at h
      exact nomatch h
    | some m =>
      have hm := Listing.firstBase?_eq_some.1 hfirst
      have hextract := @extractBase_of_first s directory q hp hq bundle r hr m hm
      cases hstream : r.stream m with
      | error f =>
        rw [hstream] at hextract
        exact nomatch hextract.1.symm.trans h
      | ok stream =>
        rw [hstream, copyOutcome] at hextract
        cases hblocked : s.files.isDirectoryAt (basePlace q) with
        | true =>
          rw [hblocked] at hextract
          exact nomatch hextract.1.symm.trans h
        | false =>
          rw [hblocked, if_neg Bool.false_ne_true] at hextract
          obtain ⟨hfresh, hleft, hcrc⟩ := of_openStream (stream_eq_ok.1 hstream)
          rcases hcopy : copyStream (stream.left + 1) stream with ⟨bytes, _ | f⟩
          · rw [hcopy] at hextract
            obtain ⟨houtcome, hfiles⟩ := hextract
            obtain ⟨hlength, hcheck⟩ := Stream.check_of_copyStream hfresh hcopy
            cases houtcome.symm.trans h
            refine ⟨rfl, r, m, stream, bytes, rfl, hm, hstream, ?_, hleft ▸ hlength, ?_, fun p hcontent hn => ?_⟩
            · rw [hfiles]
              exact read_withCopyAt hp hq hblocked bytes
            · obtain ⟨-, before, after, hmembers, -⟩ := hm
              have hmem : m ∈ r.members := hmembers ▸ List.mem_append_right _ List.mem_cons_self
              rw [hcheck, hcrc, UInt32.toNat_ofNat']
              exact Nat.mod_eq_of_lt (crc_lt_of_archiveAt hr m hmem)
            · obtain ⟨stream', t, hopen, hread⟩ := content_eq_ok.1 hcontent
              cases (stream_eq_ok.1 hstream).symm.trans hopen
              exact Stream.eq_of_copyStream hfresh hread hn hcopy
          · rw [hcopy] at hextract
            exact nomatch hextract.1.symm.trans h

end Directory

/-! ## Deflated bundles -/

/-- A bundle whose base package is deflated data of that size and of a check of zero, of which so many bytes are
promised. The other member says that it stands far behind the end, so these are not refused as overlapping. -/
def deflatedBundle (data : Bytes) (promised size : Nat) : Bytes :=
  let fields : Bytes := ofNatLE 2 20 ++ ofNatLE 2 0 ++ ofNatLE 2 8 ++ ofNatLE 2 0 ++ ofNatLE 2 0x21 ++ ofNatLE 4 0 ++
    ofNatLE 4 promised ++ ofNatLE 4 size ++ ofNatLE 2 (ofString baseEntryName).length ++ ofNatLE 2 0
  written (Reader.headerMark ++ fields ++ ofString baseEntryName ++ data)
    [directoryMark ++ ofNatLE 2 20 ++ fields ++ ofNatLE 2 0 ++ ofNatLE 2 0 ++ ofNatLE 2 0 ++ ofNatLE 4 0 ++ ofNatLE 4 0 ++
      ofString baseEntryName, record "x" [] 5000]

/-- The stream of a deflated member. -/
def deflatedStream (data : Bytes) (promised size : Nat) : Stream where
  name := baseEntryName
  coding := .deflated (Deflate.trace data)
  compressedSize := promised
  crc := 0
  data := data
  left := size

/-- What the base package of such a bundle is, as far as it can be told without decoding it. -/
def IsDeflated (r : Reader) (m : Member) (data : Bytes) (promised size : Nat) : Prop :=
  r.dataStart m = .ok 38 ∧ m.limit = 5000 ∧ m.isEncrypted = false ∧ m.method = 8 ∧ m.name = baseEntryName ∧
    m.compressedSize = promised ∧ m.size = size ∧ m.crc = 0 ∧ r.file.slice 38 promised = data

instance (r : Reader) (m : Member) (data : Bytes) (promised size : Nat) : Decidable (IsDeflated r m data promised size) :=
  inferInstanceAs (Decidable (r.dataStart m = .ok 38 ∧ m.limit = 5000 ∧ m.isEncrypted = false ∧ m.method = 8 ∧
    m.name = baseEntryName ∧ m.compressedSize = promised ∧ m.size = size ∧ m.crc = 0 ∧ r.file.slice 38 promised = data))

theorem stream_of_isDeflated {r : Reader} {m : Member} {data : Bytes} {promised size : Nat}
    (h : IsDeflated r m data promised size) (hp : promised ≤ 4962) : r.stream m = .ok (deflatedStream data promised size) := by
  obtain ⟨hstart, hlimit, hencrypted, hmethod, hname, hpromised, hsize, hcrc, hdata⟩ := h
  rw [stream_eq_ok, openStream_eq, hstart]
  dsimp only
  rw [if_neg (by omega)]
  unfold Reader.streamAt
  rw [hencrypted, hmethod, hpromised, hdata, hname, hsize, hcrc]
  rfl

theorem isFresh_deflatedStream {data : Bytes} {promised : Nat} (h : data.length ≤ promised) (size : Nat) :
    (deflatedStream data promised size).IsFresh :=
  ⟨h, rfl, rfl, rfl, rfl, rfl, rfl⟩

/-- Data that decode to the unit again and again are read at once, as many of them as the size says. -/
theorem readAll_deflatedStream {data : Bytes} {promised k more : Nat} (hne : data ≠ []) (hdata : data.length ≤ promised)
    (hlength : data.length ≤ Stream.maxStep) (hsize : 4 * k ≤ Stream.maxStep)
    (hbytes : (Deflate.trace data).bytes = Deflate.repeated (k + more))
    (hok : (Deflate.trace data).halt = none ∨ Stream.maxStep < 4 * (k + more)) :
    ∃ t, (deflatedStream data promised (4 * k)).readAll = .ok (Deflate.repeated k, t) := by
  have htake : (Deflate.trace data).bytes.take (4 * k) = Deflate.repeated k := by
    rw [hbytes, Deflate.take_repeated]
  have hall : (Deflate.trace data).bytes.length = 4 * (k + more) := by
    rw [hbytes, Deflate.length_repeated]
  have hread := Stream.readAll_of_first (isFresh_deflatedStream hdata (4 * k)) rfl hne hlength hsize
    (show 4 * k ≤ (Deflate.trace data).bytes.length by omega) (hall ▸ hok) (by
      change Crc32.check ((Deflate.trace data).bytes.take (4 * k)) = 0
      rw [htake, Deflate.check_repeated])
  change ∃ t, _ = Except.ok ((Deflate.trace data).bytes.take (4 * k), t) at hread
  rwa [htake] at hread

/-- So is such a member. -/
theorem content_of_isDeflated {r : Reader} {m : Member} {data : Bytes} {promised k : Nat}
    (h : IsDeflated r m data promised (4 * k)) (hp : promised ≤ 4962) (hne : data ≠ []) (hdata : data.length ≤ promised)
    (hsize : 4 * k ≤ Stream.maxStep) (hbytes : (Deflate.trace data).bytes = Deflate.repeated k)
    (hhalt : (Deflate.trace data).halt = none) : r.content m = .ok (Deflate.repeated k) := by
  have hmax : Stream.maxStep = 0x40000000 := rfl
  obtain ⟨t, hread⟩ := @readAll_deflatedStream data promised k 0 hne hdata (by omega) hsize hbytes (.inl hhalt)
  exact content_eq_ok.2 ⟨_, t, stream_eq_ok.1 (stream_of_isDeflated h hp), hread⟩

/-- A bundle with all data of its base package. -/
def wholeBundle : Bytes := deflatedBundle (Deflate.expanding 0 [164, 99, 0]) 8 260

/-- A bundle that promises more data of its base package than there are in the file. -/
def cutBundle : Bytes := deflatedBundle (Deflate.expanding 64 [164, 99, 0]) 2000 65796

/-- The file from the start of those data on. -/
def cutData : Bytes := Deflate.expanding 64 [164, 99, 0] ++ cutBundle.drop 622

theorem wholeBundle_opens : ∃ r m, archiveAt (sessionToExtract wholeBundle).files "/b.apkm" = .ok r ∧
    IsFirstBase r.members m ∧ IsDeflated r m (Deflate.expanding 0 [164, 99, 0]) 8 260 := by
  have hdecided : (archiveAt (sessionToExtract wholeBundle).files "/b.apkm").toOption.any fun r =>
      r.listing.firstBase?.any fun m => IsDeflated r m (Deflate.expanding 0 [164, 99, 0]) 8 260 := by decide +kernel
  obtain ⟨r, hr, hdecided⟩ := exists_ok hdecided
  obtain ⟨m, hm, hdeflated⟩ := (Option.any_eq_true _ _).1 hdecided
  exact ⟨r, m, hr, Listing.firstBase?_eq_some.1 hm, of_decide_eq_true hdeflated⟩

theorem cutBundle_opens : ∃ r m, archiveAt (sessionToExtract cutBundle).files "/b.apkm" = .ok r ∧
    IsFirstBase r.members m ∧ IsDeflated r m cutData 2000 65796 := by
  have hdecided : (archiveAt (sessionToExtract cutBundle).files "/b.apkm").toOption.any fun r =>
      r.listing.firstBase?.any fun m => IsDeflated r m cutData 2000 65796 := by decide +kernel
  obtain ⟨r, hr, hdecided⟩ := exists_ok hdecided
  obtain ⟨m, hm, hdeflated⟩ := (Option.any_eq_true _ _).1 hdecided
  exact ⟨r, m, hr, Listing.firstBase?_eq_some.1 hm, of_decide_eq_true hdeflated⟩

/-! ## Agreement -/

/-- What can be read of a member at once is what reads in portions are answered, as far as they do not fail and the decoder
holds nothing back, and what a copy holds that ends well. Neither fails if the data of the member are all there, and nothing
is in the place of the copy. A copy that ends well is in any case no longer than the directory of the bundle says, and has
the check that it says. -/
theorem read_paths_agree :
    (∀ (r : Reader) (m : Member) (p : Bytes), r.content m = .ok p → ∃ stream, r.stream m = .ok stream ∧
      (stream.HoldsNothing → ∀ sizes chunks, stream.answers sizes = .ok chunks → chunks = Bytes.portions p sizes) ∧
      (stream.IsWhole → ∀ sizes, stream.answers sizes = .ok (Bytes.portions p sizes))) ∧
    ∀ (s : Session) (bundle directory : String) (q : Place), s.files.place (pathText directory) = .ok q →
      s.files.at? q = some .directory → s.files.place bundle ≠ .ok (basePlace q) →
      let after := (extractBase bundle directory).on s
      (∀ r m p stream, archiveAt s.files bundle = .ok r → IsFirstBase r.members m → r.content m = .ok p →
        r.stream m = .ok stream → stream.IsWhole → s.files.isDirectoryAt (basePlace q) = false →
        after.1 = .ok (basePath directory) ∧ after.2.files.read (basePath directory) = .ok p) ∧
      ∀ path, after.1 = .ok path → path = basePath directory ∧ ∃ r m stream bytes, archiveAt s.files bundle = .ok r ∧
        IsFirstBase r.members m ∧ r.stream m = .ok stream ∧ after.2.files.read path = .ok bytes ∧ bytes.length ≤ m.size ∧
        (Crc32.check bytes).toNat = m.crc ∧ ∀ p, r.content m = .ok p → stream.HoldsNothing → bytes = p := by
  refine ⟨fun r m p => answers_of_content, fun s bundle directory q hp hq _ => ⟨?_, fun path => check_of_extractBase hp hq⟩⟩
  intro r m p stream hr hm hcontent hstream hwhole hfree
  exact extractBase_of_content hp hq hr hm hcontent hstream hwhole hfree

/-- A deflated base package: in portions of some sizes, and as a copy. -/
theorem read_paths_agree_deflated : ∃ r m stream,
    archiveAt (sessionToExtract wholeBundle).files "/b.apkm" = .ok r ∧ r.stream m = .ok stream ∧
      r.content m = .ok (Deflate.repeated 65) ∧
      stream.answers [100, 0, -1, 5] = .ok (Bytes.portions (Deflate.repeated 65) [100, 0, -1, 5]) ∧
      ((extractBase "/b.apkm" "/out").on (sessionToExtract wholeBundle)).1 = .ok (basePath "/out") ∧
      ((extractBase "/b.apkm" "/out").on (sessionToExtract wholeBundle)).2.files.read (basePath "/out") =
        .ok (Deflate.repeated 65) ∧
      ∃ r m stream bytes, archiveAt (sessionToExtract wholeBundle).files "/b.apkm" = .ok r ∧ IsFirstBase r.members m ∧
        r.stream m = .ok stream ∧
        ((extractBase "/b.apkm" "/out").on (sessionToExtract wholeBundle)).2.files.read (basePath "/out") = .ok bytes ∧
        bytes.length ≤ m.size ∧ (Crc32.check bytes).toNat = m.crc ∧
        ∀ p, r.content m = .ok p → stream.HoldsNothing → bytes = p := by
  obtain ⟨r, m, hr, hm, hdeflated⟩ := wholeBundle_opens
  obtain ⟨hbytes, hhalt⟩ := Deflate.trace_expanding 0 []
  rw [List.append_nil] at hbytes hhalt
  have hstream := stream_of_isDeflated hdeflated (by decide)
  have hcontent := @content_of_isDeflated r m _ 8 65 hdeflated (by decide) (by decide) (by decide) (by decide) hbytes hhalt
  have hwhole : (deflatedStream (Deflate.expanding 0 [164, 99, 0]) 8 260).IsWhole := by
    exact .inr ⟨by decide, Stream.holdsNothing_of_coding nofun, .inl fun f hf => nomatch hhalt.symm.trans hf⟩
  have hplace : (sessionToExtract wholeBundle).files.place (pathText "/out") = .ok ["out"] := by decide +kernel
  obtain ⟨hreads, hcopies⟩ := read_paths_agree
  obtain ⟨stream, hstream', -, hanswers⟩ := hreads r m _ hcontent
  cases hstream.symm.trans hstream'
  obtain ⟨hcopy, hcheck⟩ := hcopies _ "/b.apkm" "/out" ["out"] hplace (by decide +kernel) (by decide +kernel)
  obtain ⟨houtcome, hread⟩ := hcopy r m _ _ hr hm hcontent hstream hwhole (by decide +kernel)
  exact ⟨r, m, _, hr, hstream, hcontent, hanswers hwhole _, houtcome, hread, (hcheck _ houtcome).2⟩

/-- A stream of data that decode to more than a first step has room for, with a fault behind all of it. -/
def faultyStream : Stream :=
  deflatedStream (Deflate.expanding (2 ^ 20) [164, 227, 49]) (Deflate.expanding (2 ^ 20) [164, 227, 49]).length (4 * 2 ^ 28)

/-- A session over a bundle that extracts well elsewhere, where a directory stands in the place of the copy. -/
def blockedSession : Session where
  files := ⟨"/", [(["b.apkm"], .file (single "base.apk" [1, 2, 3])), (["out"], .directory), (["out", "base.apk"], .directory)]⟩
  tempRoot := "/tmp"

/-- Two reads want more data than there are, and so does a copy. -/
theorem reads_of_cutBundle : ∃ r m stream, archiveAt (sessionToExtract cutBundle).files "/b.apkm" = .ok r ∧
    IsFirstBase r.members m ∧ r.content m = .ok (Deflate.repeated 16449) ∧ r.stream m = .ok stream ∧
    stream.answers [65536, 65536] = .error .dataEnd ∧
    ∃ f, ((extractBase "/b.apkm" "/out").on (sessionToExtract cutBundle)).1 = .error f := by
  obtain ⟨r, m, hr, hm, hdeflated⟩ := cutBundle_opens
  obtain ⟨hbytes, hhalt⟩ := Deflate.trace_expanding 64 (cutBundle.drop 622)
  have hlength : cutData.length = 707 := by decide +kernel
  have hne : cutData ≠ [] := fun he => by
    rw [he] at hlength
    exact nomatch hlength
  have hstream := stream_of_isDeflated hdeflated (by decide)
  have hcontent := @content_of_isDeflated r m cutData 2000 16449 hdeflated (by decide) hne (by omega) (by decide) hbytes hhalt
  have hfresh := isFresh_deflatedStream (show cutData.length ≤ 2000 by omega) 65796
  have hall : copySize < (Deflate.trace cutData).bytes.length := by
    change copySize < (Deflate.trace (Deflate.expanding 64 [164, 99, 0] ++ cutBundle.drop 622)).bytes.length
    rw [hbytes, Deflate.length_repeated]
    decide
  have hshort : cutData.length < copySize := by
    rw [hlength]
    decide
  obtain ⟨t, hread, hnext⟩ := Stream.read_of_cut hfresh rfl hne (show cutData.length < 2000 by omega) hshort (by decide)
    (show copySize < 65796 by decide) hall
  have hcopy := Stream.copyStream_of_cut hfresh rfl hne (show cutData.length < 2000 by omega) hshort
    (show copySize < 65796 by decide) hall
  have hplace : (sessionToExtract cutBundle).files.place (pathText "/out") = .ok ["out"] := by decide +kernel
  have hfree : (sessionToExtract cutBundle).files.isDirectoryAt (basePlace ["out"]) = false := by decide +kernel
  have hextract := @extractBase_of_first _ _ _ hplace (by decide +kernel) "/b.apkm" r hr m hm
  refine ⟨r, m, _, hr, hm, hcontent, hstream, ?_, ?_⟩
  · have hanswers := Stream.answers_of_read hread [(copySize : Nat)]
    rw [Stream.answers_of_read_error hnext] at hanswers
    exact hanswers
  · rw [hstream, hfree, copyOutcome, if_neg Bool.false_ne_true, hcopy] at hextract
    exact ⟨_, hextract.1⟩

/-- With enough room the fault is met, and reading at once has no room for so much in a step. -/
theorem reads_of_faultyStream : faultyStream.IsFresh ∧ faultyStream.data.length = faultyStream.compressedSize ∧
    (∃ t, faultyStream.readAll = .ok (Deflate.repeated (2 ^ 28), t)) ∧
    ∃ f, faultyStream.answers [2 ^ 30 + 261] = .error f := by
  obtain ⟨hbytes, hhalt⟩ := Deflate.trace_expanding_bad (2 ^ 20)
  have hlength := Deflate.length_expanding (2 ^ 20) [164, 227, 49]
  have hmax : Stream.maxStep = 2 ^ 30 := rfl
  have hmin : Stream.minStep = 4096 := rfl
  rw [show 65 + 256 * 2 ^ 20 = 2 ^ 28 + 65 by decide] at hbytes
  rw [List.length_cons, List.length_cons, List.length_singleton] at hlength
  have hne : Deflate.expanding (2 ^ 20) [164, 227, 49] ≠ [] := fun he => by
    rw [he, List.length_nil] at hlength
    omega
  have hfresh := isFresh_deflatedStream (Nat.le_refl (Deflate.expanding (2 ^ 20) [164, 227, 49]).length) (4 * 2 ^ 28)
  have hread := @readAll_deflatedStream _ _ (2 ^ 28) 65 hne (Nat.le_refl _) (by omega) (by omega) hbytes (.inr (by omega))
  have hall : (Deflate.trace (Deflate.expanding (2 ^ 20) [164, 227, 49])).bytes.length = 4 * (2 ^ 28 + 65) := by
    rw [hbytes, Deflate.length_repeated]
  obtain ⟨f, hf⟩ := Stream.read_of_fault (n := 2 ^ 30 + 261) hfresh rfl hne (by change (Deflate.expanding _ _).length ≤ _; omega)
    (by omega) (by change (Deflate.trace (Deflate.expanding _ _)).bytes.length < _; omega) hhalt
  exact ⟨hfresh, rfl, hread, f, Stream.answers_of_read_error hf []⟩

/-- A directory in the place of the copy. -/
theorem extract_of_blockedSession : ∃ r m, archiveAt blockedSession.files "/b.apkm" = .ok r ∧ IsFirstBase r.members m ∧
    r.content m = .ok [1, 2, 3] ∧ ∃ f, ((extractBase "/b.apkm" "/out").on blockedSession).1 = .error f := by
  have hdecided : (archiveAt blockedSession.files "/b.apkm").toOption.any fun r =>
      r.listing.firstBase?.any fun m => (r.content m).toOption.any fun p => p = [1, 2, 3] := by decide +kernel
  have hfails : ((extractBase "/b.apkm" "/out").on blockedSession).1.toOption = none := by decide +kernel
  obtain ⟨r, hr, hdecided⟩ := exists_ok hdecided
  obtain ⟨m, hm, hcontent⟩ := (Option.any_eq_true _ _).1 hdecided
  obtain ⟨p, hp, hcontent⟩ := exists_ok hcontent
  cases of_decide_eq_true hcontent
  refine ⟨r, m, hr, Listing.firstBase?_eq_some.1 hm, hp, ?_⟩
  cases houtcome : ((extractBase "/b.apkm" "/out").on blockedSession).1 with
  | ok path =>
    rw [houtcome] at hfails
    exact nomatch hfails
  | error f => exact ⟨f, rfl⟩

/-- Members that can be read at once, and by no other path: one of a bundle whose data end before the directory says they
do, one with a fault that reading at once does not get to, and one whose copy has no place. -/
theorem read_paths_differ :
    (∃ r m stream, archiveAt (sessionToExtract cutBundle).files "/b.apkm" = .ok r ∧ IsFirstBase r.members m ∧
      r.content m = .ok (Deflate.repeated 16449) ∧ r.stream m = .ok stream ∧
      stream.answers [65536, 65536] = .error .dataEnd ∧
      ∃ f, ((extractBase "/b.apkm" "/out").on (sessionToExtract cutBundle)).1 = .error f) ∧
    (faultyStream.IsFresh ∧ faultyStream.data.length = faultyStream.compressedSize ∧
      (∃ t, faultyStream.readAll = .ok (Deflate.repeated (2 ^ 28), t)) ∧
      ∃ f, faultyStream.answers [2 ^ 30 + 261] = .error f) ∧
    ∃ r m, archiveAt blockedSession.files "/b.apkm" = .ok r ∧ IsFirstBase r.members m ∧ r.content m = .ok [1, 2, 3] ∧
      ∃ f, ((extractBase "/b.apkm" "/out").on blockedSession).1 = .error f := by
  exact ⟨reads_of_cutBundle, reads_of_faultyStream, extract_of_blockedSession⟩

end ApkReport
