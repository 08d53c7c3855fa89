/-
How opening and reading a member fails. A fault of a member is told as a failure of the
member if it is of one of the kinds that are expected there (`isExpected`). Opening raises
no other faults, in whatever state the archive is, and reading does so only for data that
are to be decoded by the list of properties that they start with: each step of a stream
keeps its coding (`Steps`), and only the decoder of that coding ends in faults of another kind.
-/
import ApkReport.Proofs.Archive.Decoding
import ApkReport.Proofs.Archive.Opening
import ApkReport.Proofs.Archive.Own
import ApkReport.Proofs.Archive.Written

namespace ApkReport.Archive

/-! ## Faults -/

/-- The kinds of faults that are told as a failure of the member: of the archive's structure, of its compressed data, of
the file, an early end, something that is not supported, and values that do not fit, texts among them. -/
def isExpected : Failure.Kind → Bool
  | .badArchive | .deflate | .os _ | .dataEnd | .unsupported | .custom | .badValue | .encoding => true
  | _ => false

/-- The faults that are reported as they are, are those of a kind that is not expected. -/
theorem isRaw_eq (f : EntryFault) : f.isRaw = !isExpected (Failure.memberKind f) := by
  cases f <;> rfl

theorem checkHeader_error {m : Member} {header name : Bytes} {f : EntryFault} (h : Reader.checkHeader m header name = .error f) :
    f.isRaw = false := by
  unfold Reader.checkHeader at h
  dsimp only [bind, Except.bind] at h
  split at h
  · cases h; rfl
  split at h
  · cases h; rfl
  split at h
  · cases h; rfl
  split at h
  · cases h; rfl
  cases hname : decodeName (header.natAt 6 2) name with
  | error e =>
    rw [hname] at h
    cases h
    rfl
  | ok decoded =>
    rw [hname] at h
    dsimp only [Except.mapError] at h
    split at h
    · cases h; rfl
    · cases h

theorem dataStart_error {r : Reader} {m : Member} {f : EntryFault} (h : r.dataStart m = .error f) : f.isRaw = false := by
  unfold Reader.dataStart at h
  split at h
  · cases h; rfl
  split at h
  · cases h; rfl
  split at h
  · cases h; rfl
  dsimp only at h
  cases hc : Reader.checkHeader m (r.file.slice m.offset.toNat Reader.headerSize)
      (r.file.slice (m.offset.toNat + Reader.headerSize) ((r.file.slice m.offset.toNat Reader.headerSize).natAt 26 2)) with
  | error g =>
    rw [hc] at h
    cases h
    exact checkHeader_error hc
  | ok _ =>
    rw [hc] at h
    cases h

/-- At the position of its data a member has a stream of the coding that its method names, or a fault that is expected. -/
theorem streamAt_cases (r : Reader) (m : Member) (start : Nat) :
    (∃ f, r.streamAt m start = .error f ∧ f.isRaw = false) ∨
      ∃ stream, r.streamAt m start = .ok stream ∧ coding? m.method stream.data = some stream.coding := by
  unfold Reader.streamAt
  cases m.isEncrypted with
  | true => exact .inl ⟨_, rfl, rfl⟩
  | false =>
    simp only [Bool.false_eq_true, if_false]
    cases hc : coding? m.method (r.file.slice start m.compressedSize) with
    | none => exact .inl ⟨_, rfl, rfl⟩
    | some coding => exact .inr ⟨_, rfl, hc⟩

/-- No check of a member that is opened has a fault that is not expected. -/
theorem openStream_cases (r : Reader) (m : Member) :
    (∃ f, r.openStream m = .error f ∧ f.isRaw = false) ∨
      ∃ stream, r.openStream m = .ok stream ∧ coding? m.method stream.data = some stream.coding := by
  rw [openStream_eq]
  cases hs : r.dataStart m with
  | error f => exact .inl ⟨f, rfl, dataStart_error hs⟩
  | ok start =>
    dsimp only
    split
    · exact .inl ⟨_, rfl, rfl⟩
    · exact streamAt_cases r m start

/-! ## Steps -/

/-- The decoder of the coding ends in that fault, which is reported as it is. -/
def Coding.HasRawEnding (c : Coding) (f : EntryFault) : Prop :=
  ∃ x needs g, c = .lzma x ∧ x.ending = .faulty needs g ∧ f = .lzma g

/-- What a step of a stream of that coding comes to: a stream of the same coding, or a fault, which is one of those that
are reported as they are only where the decoder ends in it. -/
structure Steps (c : Coding) (x : Except EntryFault (Bytes × Stream)) : Prop where
  ok : ∀ {chunk : Bytes} {t : Stream}, x = .ok (chunk, t) → t.coding = c
  error : ∀ {f : EntryFault}, x = .error f → f.isRaw = true → c.HasRawEnding f

namespace Steps

variable {c : Coding}

theorem pure {chunk : Bytes} {t : Stream} (h : t.coding = c) : Steps c (.ok (chunk, t)) where
  ok he := by cases he; exact h
  error he := nomatch he

theorem throw {f : EntryFault} (h : f.isRaw = true → c.HasRawEnding f) : Steps c (.error f) where
  ok he := nomatch he
  error he := by cases he; exact h

theorem bind {x : Except EntryFault (Bytes × Stream)} {k : Bytes × Stream → Except EntryFault (Bytes × Stream)}
    (hx : Steps c x) (hk : ∀ chunk t, t.coding = c → Steps c (k (chunk, t))) : Steps c (x >>= k) := by
  rcases x with f | ⟨chunk, t⟩
  · exact .throw (hx.error rfl)
  · exact hk chunk t (hx.ok rfl)

variable (s : Stream)

theorem feed (n : Nat) : Steps s.coding (s.feed n) := by
  unfold Stream.feed
  split
  · exact .pure rfl
  · dsimp only
    split
    · exact .throw nofun
    · exact .pure rfl

theorem decode (t : Deflate.Trace) (n : Nat) : Steps s.coding (s.decode t n) := by
  unfold Stream.decode
  dsimp only
  split
  · exact .throw nofun
  · exact .pure rfl
  · exact .pure rfl
  · split
    · exact .pure rfl
    · exact .pure rfl

theorem expand {Fault : Type} {x : Expansion Fault} {faultOf : Fault → EntryFault} {upTo : Nat}
    (h : ∀ f, x.position s.fed = .broken f → (faultOf f).isRaw = true → s.coding.HasRawEnding (faultOf f)) :
    Steps s.coding (s.expand x faultOf upTo) := by
  unfold Stream.expand
  dsimp only
  split
  · exact .pure rfl
  · cases hposition : x.position s.fed with
    | broken f => exact .throw (h f hposition)
    | finished => exact .pure rfl
    | starved => exact .pure rfl

theorem produce (n : Nat) : Steps s.coding (s.produce n) := by
  have hfeed := feed s n
  cases hc : s.coding with
  | stored =>
    unfold Stream.produce
    rw [hc] at hfeed ⊢
    exact .bind hfeed fun chunk t ht => .pure ht
  | deflated trace =>
    have hdecode : ∀ u : Stream, u.coding = .deflated trace → Steps (.deflated trace) (u.decode trace n) :=
      fun u hu => hu ▸ decode u trace n
    unfold Stream.produce
    rw [hc]
    dsimp only
    split
    · have hrefill := feed s (n - s.unread)
      rw [hc] at hrefill
      exact .bind hrefill fun _ t ht => hdecode t ht
    · exact hdecode s hc
  | bzip2 x =>
    rw [Stream.produce_of_bzip2 hc, ← hc]
    refine .bind hfeed fun _ t ht => ?_
    rw [← ht]
    exact expand t nofun
  | lzma x =>
    rw [Stream.produce_of_lzma hc, ← hc]
    refine .bind hfeed fun _ t ht => ?_
    rw [← ht]
    refine expand t fun f hf _ => ?_
    obtain ⟨needs, hending⟩ := Expansion.ending_of_position hf
    exact ⟨x, needs, f, ht.trans hc, hending, rfl⟩

theorem account (chunk : Bytes) : Steps s.coding (s.account chunk) := by
  unfold Stream.account
  dsimp only
  split
  · exact .throw nofun
  · exact .pure rfl

theorem step (n : Nat) : Steps s.coding (s.step n) := by
  unfold Stream.step
  split
  · exact .pure rfl
  · exact .bind (produce s n) fun chunk t ht => ht ▸ account t chunk

theorem drain (steps : Nat) : Steps s.coding (s.drain steps) := by
  induction steps generalizing s with
  | zero => exact .pure rfl
  | succ steps ih =>
    rw [Stream.drain]
    split
    · exact .pure rfl
    · refine .bind (step s Stream.maxStep) fun chunk t ht => ?_
      exact .bind (ht ▸ ih t) fun more u hu => .pure hu

theorem readAll : Steps s.coding s.readAll := by
  unfold Stream.readAll
  exact .bind (drain { s with ahead := [] } s.maxSteps) fun rest t ht => .pure ht

end Steps

/-! ## Coding -/

theorem of_coding_lzma {method : Nat} {data : Bytes} {x : Expansion Lzma.Fault} (h : coding? method data = some (.lzma x)) :
    method = 14 ∧ x = Lzma.expand data := by
  unfold coding? at h
  split at h
  · cases h
  · cases h
  · cases h
  · cases h
    exact ⟨rfl, rfl⟩
  · cases h

/-- The member is opened, and reading it meets a fault of a kind that is not expected. -/
def HasRawFault (r : Reader) (m : Member) (f : EntryFault) : Prop :=
  ∃ stream, r.openStream m = .ok stream ∧ stream.readAll = .error f ∧ isExpected (Failure.memberKind f) = false

/-- Such a fault is the end of what the data of the member decode to, in the method that has a list of properties. -/
theorem HasRawFault.ending {r : Reader} {m : Member} {f : EntryFault} (h : HasRawFault r m f) :
    m.method = 14 ∧ ∃ stream needs g, r.openStream m = .ok stream ∧
      (Lzma.expand stream.data).ending = .faulty needs g ∧ f = .lzma g := by
  obtain ⟨stream, hopen, hread, hkind⟩ := h
  have hraw : f.isRaw = true := by rw [isRaw_eq, hkind]; rfl
  rcases openStream_cases r m with ⟨g, hfault, -⟩ | ⟨opened, hopened, hcoding⟩
  · rw [hopen] at hfault
    cases hfault
  · rw [hopen] at hopened
    cases hopened
    obtain ⟨x, needs, g, hc, hending, hf⟩ := (Steps.readAll stream).error hread hraw
    rw [hc] at hcoding
    obtain ⟨hmethod, rfl⟩ := of_coding_lzma hcoding
    exact ⟨hmethod, stream, needs, g, hopen, hending, hf⟩

/-! ## Uses -/

/-- A use of an open archive. -/
inductive Use where
  | stream (m : Member)
  | content (m : Member)
  | close

/-- The archive after a use: members are opened and read without a trace. -/
def Reader.afterUse (r : Reader) : Use → Reader
  | .stream _ | .content _ => r
  | .close => r.close

/-- The archive after some uses. -/
def Reader.after (r : Reader) (uses : List Use) : Reader := uses.foldl Reader.afterUse r

theorem Reader.after_path (r : Reader) (uses : List Use) : (r.after uses).path = r.path := by
  induction uses generalizing r with
  | nil => rfl
  | cons use uses ih =>
    rw [Reader.after, List.foldl_cons, ← Reader.after, ih]
    cases use <;> rfl

theorem Reader.after_closed {r : Reader} (h : r.isOpen = false) (uses : List Use) : (r.after uses).isOpen = false := by
  induction uses generalizing r with
  | nil => exact h
  | cons use uses ih =>
    refine ih ?_
    cases use with
    | stream _ | content _ => exact h
    | close => rfl

/-- An archive is as it was opened until it is closed, and closed from then on. -/
theorem Reader.after_cases (r : Reader) (uses : List Use) :
    (Use.close ∉ uses → r.after uses = r) ∧ (Use.close ∈ uses → (r.after uses).isOpen = false) := by
  induction uses generalizing r with
  | nil => exact ⟨fun _ => rfl, fun h => absurd h List.not_mem_nil⟩
  | cons use uses ih =>
    cases use with
    | stream m => simpa [Reader.after, Reader.afterUse] using ih r
    | content m => simpa [Reader.after, Reader.afterUse] using ih r
    | close => exact ⟨fun h => absurd List.mem_cons_self h, fun _ => Reader.after_closed rfl uses⟩

/-- A failure to open or to read a member is told as one of the member, for a fault of a kind that is expected. -/
def IsMemberFailure (name path : String) (f : Failure) : Prop :=
  ∃ g, isExpected (Failure.memberKind g) = true ∧ (f = .memberOpen name path g ∨ f = .memberRead name path g)

theorem stream_cases (r : Reader) (m : Member) :
    (∃ stream, r.openStream m = .ok stream ∧ r.stream m = .ok stream) ∨
      ∃ g, isExpected (Failure.memberKind g) = true ∧ r.openStream m = .error g ∧
        r.stream m = .error (.memberOpen m.name r.path g) := by
  unfold Reader.stream
  rcases openStream_cases r m with ⟨g, hopen, hraw⟩ | ⟨stream, hopen, -⟩
  · rw [isRaw_eq, Bool.not_eq_false'] at hraw
    rw [hopen]
    exact .inr ⟨g, hraw, rfl, rfl⟩
  · rw [hopen]
    exact .inl ⟨stream, rfl, rfl⟩

theorem content_cases (r : Reader) (m : Member) :
    (∃ bytes, r.content m = .ok bytes) ∨ (∃ f, r.content m = .error f ∧ IsMemberFailure m.name r.path f) ∨
      ∃ g, HasRawFault r m g ∧ r.content m = .error (.memberFault g) := by
  unfold Reader.content
  rcases stream_cases r m with ⟨stream, hopen, -⟩ | ⟨g, hg, hopen, -⟩
  · rw [hopen, Reader.contentFrom]
    cases hread : stream.readAll with
    | ok x => exact .inl ⟨x.1, rfl⟩
    | error g =>
      dsimp only
      cases hg : isExpected (Failure.memberKind g) with
      | true =>
        have hraw : g.isRaw = false := by rw [isRaw_eq, hg]; rfl
        rw [hraw]
        exact .inr (.inl ⟨_, rfl, g, hg, .inr rfl⟩)
      | false =>
        have hraw : g.isRaw = true := by rw [isRaw_eq, hg]; rfl
        rw [hraw]
        exact .inr (.inr ⟨g, ⟨stream, hopen, hread, hg⟩, rfl⟩)
  · rw [hopen]
    exact .inr (.inl ⟨_, rfl, g, hg, .inl rfl⟩)

theorem IsMemberFailure.kind {name path : String} {f : Failure} (h : IsMemberFailure name path f) : f.kind = .stream := by
  obtain ⟨g, -, rfl | rfl⟩ := h <;> rfl

/-- A fault that is not expected is one of a decoder that reads the properties of its coding from the data. -/
theorem HasRawFault.kind {r : Reader} {m : Member} {g : EntryFault} (h : HasRawFault r m g) : Failure.memberKind g = .lzma := by
  obtain ⟨-, -, -, hkind⟩ := h
  cases g <;> first | rfl | cases hkind

theorem HasRawFault.content {r : Reader} {m : Member} {g : EntryFault} (h : HasRawFault r m g) :
    r.content m = .error (.memberFault g) := by
  obtain ⟨stream, hopen, hread, hkind⟩ := h
  have hraw : g.isRaw = true := by rw [isRaw_eq, hkind]; rfl
  rw [Reader.content, hopen, Reader.contentFrom, hread]
  dsimp only
  rw [hraw]
  rfl

theorem stream_closed {r : Reader} (h : r.isOpen = false) (m : Member) :
    r.stream m = .error (.memberOpen m.name r.path .closed) ∧ r.content m = .error (.memberOpen m.name r.path .closed) := by
  have hopen : r.openStream m = .error .closed := by
    rw [openStream_eq, Reader.dataStart, h]
    rfl
  constructor
  · rw [Reader.stream, hopen]
    rfl
  · rw [Reader.content, hopen]
    rfl

/-- Whatever an archive was used for before, and whatever its members are: opening a member yields a stream or fails as
the member, and reading one yields bytes or fails as the member, exactly if the member's decoder meets no fault that is not
expected. Such a fault there is for one method only, where it is the end of what the data decode to, and it is then told as
it is. A closed archive says that it is closed. -/
theorem member_fails_as_member (r : Reader) (uses : List Use) (m : Member) :
    ((∃ stream, (r.after uses).stream m = .ok stream) ∨
      ∃ f, (r.after uses).stream m = .error f ∧ f.kind = .stream ∧ IsMemberFailure m.name r.path f) ∧
    (((∃ bytes, (r.after uses).content m = .ok bytes) ∨
        ∃ f, (r.after uses).content m = .error f ∧ f.kind = .stream ∧ IsMemberFailure m.name r.path f) ↔
      ∀ g, ¬ HasRawFault (r.after uses) m g) ∧
    (∀ g, HasRawFault (r.after uses) m g → m.method = 14 ∧
      (∃ stream needs f, (r.after uses).openStream m = .ok stream ∧
        (Lzma.expand stream.data).ending = .faulty needs f ∧ g = .lzma f) ∧
      (r.after uses).content m = .error (.memberFault g) ∧ (Failure.memberFault g).kind = .lzma) ∧
    (Use.close ∉ uses → r.after uses = r) ∧
    (Use.close ∈ uses → (r.after uses).stream m = .error (.memberOpen m.name r.path .closed) ∧
      (r.after uses).content m = .error (.memberOpen m.name r.path .closed)) := by
  obtain ⟨hunclosed, hclosed⟩ := r.after_cases uses
  rw [← r.after_path uses]
  refine ⟨?_, ⟨fun h g hg => ?_, fun h => ?_⟩, fun g hg => ?_, hunclosed, fun hc => stream_closed (hclosed hc) m⟩
  · rcases stream_cases (r.after uses) m with ⟨stream, -, hs⟩ | ⟨g, hg, -, hs⟩
    · exact .inl ⟨stream, hs⟩
    · exact .inr ⟨_, hs, rfl, g, hg, .inl rfl⟩
  · rw [hg.content] at h
    rcases h with ⟨bytes, h⟩ | ⟨f, h, hkind, -⟩
    · cases h
    · cases h
      exact absurd (hg.kind.symm.trans hkind) (by decide)
  · rcases content_cases (r.after uses) m with hok | ⟨f, hf, hm⟩ | ⟨g, hg, -⟩
    · exact .inl hok
    · exact .inr ⟨f, hf, hm.kind, hm⟩
    · exact absurd hg (h g)
  · obtain ⟨hmethod, hending⟩ := hg.ending
    exact ⟨hmethod, hending, hg.content, hg.kind⟩

/-- A member of method 14 whose data start with properties that there are none like. -/
def badProperties : Bytes :=
  written ((stored "x" [9, 4, 5, 0, 0xFF, 0, 0, 1, 0, 0]).set 8 14) [(record "x" [9, 4, 5, 0, 0xFF, 0, 0, 1, 0, 0] 0).set 10 14]

/-- The archive opens and lists the member, and reading it does not fail as the member. -/
theorem content_of_badProperties :
    ∃ r m, archiveAt (sessionOver badProperties).files "/a.apk" = .ok r ∧ m ∈ r.listing.entries ∧
      r.content m = .error (.memberFault (.lzma .options)) ∧ (Failure.memberFault (.lzma .options)).kind ≠ .stream := by
  have hdecided : (archiveAt (sessionOver badProperties).files "/a.apk").toOption.any fun r =>
      r.listing.entries.any fun m => (r.openStream m).toOption.any fun stream => stream.readAll = .error (.lzma .options) := by
    decide +kernel
  obtain ⟨r, hr, hp⟩ := exists_ok hdecided
  obtain ⟨m, hm, hp⟩ := List.any_eq_true.1 hp
  obtain ⟨stream, hopen, hread⟩ := exists_ok hp
  exact ⟨r, m, hr, hm, HasRawFault.content ⟨stream, hopen, of_decide_eq_true hread, rfl⟩, by decide⟩

end ApkReport.Archive
