/-
How the members of an archive depend on one another: by the limit of their data alone. A
limit decides whether a member is refused as overlapping. A member that is not refused is
read from its own record and its own part of the file (`content_alone`), wherever they stand
and whatever else the archive holds.
-/
import ApkReport.Archive.Access
import ApkReport.Proofs.Bytes

namespace ApkReport.Archive

instance decidableEqExcept {ε α : Type} [DecidableEq ε] [DecidableEq α] : DecidableEq (Except ε α)
  | .ok a, .ok b => decidable_of_iff (a = b) (by simp)
  | .error e, .error f => decidable_of_iff (e = f) (by simp)
  | .ok _, .error _ => isFalse nofun
  | .error _, .ok _ => isFalse nofun

/-- The member is refused, for its data would run into what follows them. -/
def Overlaps (r : Reader) (m : Member) : Prop := r.openStream m = .error (.overlap m.fullName)

instance (r : Reader) (m : Member) : Decidable (Overlaps r m) :=
  inferInstanceAs (Decidable (r.openStream m = .error (.overlap m.fullName)))

/-- The member's own part of a file, of which it starts there: its header, and its data as far as its size goes. -/
def partAt (file : Bytes) (m : Member) (start : Nat) : Bytes :=
  let header : Bytes := file.slice start Reader.headerSize
  file.slice start (Reader.headerSize + header.natAt 26 2 + header.natAt 28 2 + m.compressedSize)

/-- What a member has of its own: its record but for the positions, and its part of the file. -/
def own (r : Reader) (m : Member) : Member × Except EntryFault Bytes :=
  ({ m with offset := 0, limit := 0 },
    if m.offset < 0 then .error .badOffset
    else if m.offset > Reader.maxPosition then .error .offsetTooLarge
    else .ok (partAt r.file m m.offset.toNat))

/-- Opening a member origin its own part of a file. -/
def openAlone (isOpen : Bool) : Member × Except EntryFault Bytes → Except EntryFault Stream
  | (m, part) =>
    if !isOpen then .error .closed
    else match part with
      | .error f => .error f
      | .ok part =>
        let r : Reader := { path := "", file := part, members := [] }
        match r.dataStart m with
        | .error f => .error f
        | .ok start => r.streamAt m start

theorem openStream_eq (r : Reader) (m : Member) :
    r.openStream m = match r.dataStart m with
      | .error f => .error f
      | .ok start => if (start : Int) + m.compressedSize > m.limit then .error (.overlap m.fullName) else r.streamAt m start := by
  unfold Reader.openStream
  rcases r.dataStart m with f | start
  · rfl
  · dsimp only [bind, Except.bind]
    split <;> rfl

section Part

variable (file : Bytes) (m : Member) (start : Nat)

theorem partAt_header : (partAt file m start).slice 0 Reader.headerSize = file.slice start Reader.headerSize := by
  rw [partAt, Bytes.slice_slice (by omega), Nat.add_zero]

theorem partAt_name : (partAt file m start).slice Reader.headerSize
    ((file.slice start Reader.headerSize).natAt 26 2) =
      file.slice (start + Reader.headerSize) ((file.slice start Reader.headerSize).natAt 26 2) := by
  rw [partAt, Bytes.slice_slice (by omega)]

theorem partAt_data : (partAt file m start).slice (Reader.headerSize +
      (file.slice start Reader.headerSize).natAt 26 2 + (file.slice start Reader.headerSize).natAt 28 2) m.compressedSize =
    file.slice (start + Reader.headerSize + (file.slice start Reader.headerSize).natAt 26 2 +
      (file.slice start Reader.headerSize).natAt 28 2) m.compressedSize := by
  rw [partAt, Bytes.slice_slice (Nat.le_refl _)]
  simp only [Nat.add_assoc]

end Part

/-- The positions of a member matter to its data only. -/
theorem streamAt_data {r : Reader} {m : Member} {start : Nat} {data : Bytes} {origin : Nat}
    (h : data.slice origin m.compressedSize = r.file.slice start m.compressedSize) :
    ({ path := "", file := data, members := [] } : Reader).streamAt { m with offset := 0, limit := 0 } origin =
      r.streamAt m start := by
  unfold Reader.streamAt
  dsimp only
  rw [h]
  rfl

/-- A member that is not refused is opened as if nothing else were in the file. -/
theorem openStream_alone {r : Reader} {m : Member} (h : ¬ Overlaps r m) :
    r.openStream m = openAlone r.isOpen (own r m) := by
  unfold Overlaps at h
  rw [openStream_eq] at h ⊢
  unfold openAlone own Reader.dataStart
  unfold Reader.dataStart at h
  cases hopen : r.isOpen with
  | false => rfl
  | true =>
    simp only [hopen, Bool.not_true, Bool.false_eq_true, if_false] at h ⊢
    by_cases hneg : m.offset < 0
    · simp only [hneg, if_true]
    · by_cases hlarge : m.offset > Reader.maxPosition
      · simp only [hneg, hlarge, if_true, if_false]
      · simp only [hneg, hlarge, if_false] at h ⊢
        rw [if_neg (Int.lt_irrefl 0), if_neg (by omega : ¬ (0 : Int) > Reader.maxPosition)]
        simp only [Int.toNat_zero, Nat.zero_add, partAt_header, partAt_name]
        have hcheck : ∀ header name, Reader.checkHeader { m with offset := 0, limit := 0 } header name =
            Reader.checkHeader m header name := fun _ _ => rfl
        rw [hcheck]
        cases hc : Reader.checkHeader m (r.file.slice m.offset.toNat Reader.headerSize)
            (r.file.slice (m.offset.toNat + Reader.headerSize)
              ((r.file.slice m.offset.toNat Reader.headerSize).natAt 26 2)) with
        | error f => rfl
        | ok _ =>
          simp only [hc, Except.map] at h ⊢
          rw [if_neg fun hlimit => h (if_pos hlimit)]
          symm
          apply streamAt_data
          rw [Bytes.slice_min, Bytes.slice_min, partAt_data]

/-- So reading it comes to what its own record and part come to. -/
theorem content_alone {r : Reader} {m : Member} (h : ¬ Overlaps r m) :
    r.content m = Reader.contentFrom (own r m).1.name r.path (openAlone r.isOpen (own r m)) := by
  rw [Reader.content, openStream_alone h]
  rfl

/-- Members that have the same of their own are opened alike, wherever they are, unless one of them alone is refused. -/
theorem stream_congr {r r' : Reader} {m m' : Member} (hown : own r m = own r' m') (hpath : r.path = r'.path)
    (hopen : r.isOpen = r'.isOpen) (hlap : Overlaps r m ↔ Overlaps r' m') : r.stream m = r'.stream m' := by
  have hname : m.name = m'.name := congrArg (·.1.name) hown
  have hopened : r.openStream m = r'.openStream m' := by
    by_cases h : Overlaps r m
    · have hfull : m.fullName = m'.fullName := congrArg (·.1.fullName) hown
      rw [show r.openStream m = _ from h, show r'.openStream m' = _ from hlap.1 h, hfull]
    · rw [openStream_alone h, openStream_alone fun h' => h (hlap.2 h'), hopen, hown]
  rw [Reader.stream, Reader.stream, hopened, hname, hpath]

end ApkReport.Archive
