/-
A standard archive is read back whole, whatever bytes stand before it. The end record is the
last of the file, and no wide record is taken to stand before it (`not_locator_of_standard`); the
directory is read record by record, each member stands where its record says, and its limit is no
less than the end of its data (`Listed`).
-/
import ApkReport.Proofs.Archive.Refusal
import ApkReport.Proofs.Archive.Standard
import ApkReport.Proofs.Archive.Written
import Mathlib.Data.List.Forall2
import Mathlib.Tactic.IntervalCases

namespace ApkReport.Archive

open Bytes (ofNatLE ofString)

/-! ## The directory -/

/-- The members of a directory of which the first stands at a position, before they have limits. -/
def membersFrom (start : Nat) : List Item → List Member
  | [] => []
  | i :: rest => i.member start 0 :: membersFrom (start + i.stored.length) rest

theorem readExtra_nil (e : Extent) : e.readExtra [] = .ok e := by
  rw [Extent.readExtra, if_pos (by decide)]

section Record

variable {i : Item} {position : Nat} (hsize : i.content.length < 256 ^ 4) (hposition : position < 256 ^ 4)
include hsize hposition

theorem readRecord_record (shift : Nat) (rest : Bytes) :
    readRecord shift (i.record position ++ rest) = .ok (i.member ((shift + position : Nat) : Int) 0) := by
  obtain ⟨⟨hversion, hflags, hmethod, hcrc⟩, ⟨hcompressed, huncompressed⟩, ⟨hname, hextra, -⟩, hattributes, hoffset⟩ :=
    i.record_reads position hsize hposition rest
  have hextent : recordExtent (i.record position ++ rest) = .ok ⟨i.content.length, i.content.length, position⟩ := by
    rw [recordExtent, hextra, huncompressed, hcompressed, hoffset]
    exact readExtra_nil _
  rw [readRecord_eq, hflags, hname, i.record_name, i.plain.decode_bytes, neededVersion, hversion, hextent]
  dsimp only
  rw [if_neg (by decide)]
  have hstart : ((position : Nat) : Int) + (shift : Nat) = ((shift + position : Nat) : Int) := by
    omega
  simp only [recordMember, Item.member, i.plain.cutAtNull_eq, hflags, hmethod, hcrc, hattributes, hstart]

theorem recordLength_record (rest : Bytes) : recordLength (i.record position ++ rest) = (i.record position).length := by
  obtain ⟨-, -, ⟨hname, hextra, hcomment⟩, -⟩ := i.record_reads position hsize hposition rest
  rw [recordLength, hname, hextra, hcomment, i.length_record, Nat.add_zero]

end Record

theorem readRecords_directoryOf (shift : Nat) (items : List Item) (position : Nat)
    (h : position + (bodyOf items).length < 256 ^ 4) :
    readRecords shift (directoryOf position items).length (directoryOf position items) =
      .ok (membersFrom (shift + position) items) := by
  induction items generalizing position with
  | nil => rw [directoryOf, readRecords, if_pos List.length_nil, membersFrom]
  | cons i rest ih =>
    rw [bodyOf_cons, List.length_append, i.length_stored] at h
    have hsize : i.content.length < 256 ^ 4 := by omega
    have hposition : position < 256 ^ 4 := by omega
    have hlength := i.length_record position
    rw [directoryOf, readRecords_record, readRecord_record hsize hposition, recordLength_record hsize hposition]
    · rw [List.length_append, Nat.add_sub_cancel_left, List.drop_left', Except.bind, ih]
      · rw [membersFrom, Nat.add_assoc]
        rfl
      · rw [i.length_stored]
        omega
      · rfl
    · rw [List.length_append, hlength]
      simp [recordSize]
    · rw [List.length_append, hlength]
      omega
    · exact i.record_mark position _

/-! ## Limits -/

/-- A member as a reader finds it: it stands in the file, and its data end within its limit. -/
def Listed (file : Bytes) (i : Item) (m : Member) : Prop :=
  ∃ (start : Nat) (limit : Int), m = i.member start limit ∧ i.stored <+: file.drop start ∧
    ((start + i.stored.length : Nat) : Int) ≤ limit

theorem le_offset_of_mem {items : List Item} {start : Nat} {m : Member} (h : m ∈ membersFrom start items) :
    (start : Int) ≤ m.offset := by
  induction items generalizing start with
  | nil => exact absurd h List.not_mem_nil
  | cons i rest ih =>
    rcases List.mem_cons.1 h with rfl | h
    · exact Int.le_refl _
    · have := ih h
      omega

theorem le_min?_getD {offsets : List Int} {a d : Int} (h : ∀ b ∈ offsets, a ≤ b) (hd : a ≤ d) :
    a ≤ offsets.min?.getD d := by
  cases hm : offsets.min? with
  | none => exact hd
  | some b => exact h b (List.min?_mem hm)

/-- No member is refused as overlapping, for the next one starts where it ends. -/
theorem listed_setLimits {file : Bytes} {directoryStart : Int} (items : List Item) (start : Nat) (earlier : List Member)
    (hearlier : ∀ e ∈ earlier, e.offset < start) (hbody : bodyOf items <+: file.drop start)
    (hend : ((start + (bodyOf items).length : Nat) : Int) ≤ directoryStart) :
    List.Forall₂ (Listed file) items (setLimits directoryStart earlier (membersFrom start items)) := by
  induction items generalizing start earlier with
  | nil => exact .nil
  | cons i rest ih =>
    rw [bodyOf_cons] at hbody
    rw [bodyOf_cons, List.length_append] at hend
    have hpos : 0 < i.stored.length := by
      rw [i.length_stored, Reader.headerSize]
      omega
    rw [membersFrom, setLimits]
    refine .cons ⟨start, _, rfl, (List.prefix_append _ _).trans hbody, le_min?_getD ?_ ?_⟩ (ih _ _ ?_ ?_ ?_)
    · intro b hb
      rw [List.mem_map] at hb
      obtain ⟨m, hm, rfl⟩ := hb
      rcases List.mem_append.1 hm with hm | hm
      · -- an earlier member starts before this one, so it sets no limit
        obtain ⟨hmem, hle⟩ := List.mem_filter.1 hm
        have hlt := hearlier m hmem
        have hle : (start : Int) ≤ m.offset := of_decide_eq_true hle
        omega
      · exact le_offset_of_mem (List.mem_filter.1 hm).1
    · omega
    · intro e he
      rcases List.mem_cons.1 he with rfl | he
      · change (start : Int) < _
        omega
      · have := hearlier e he
        omega
    · exact Bytes.prefix_of_append hbody
    · omega

/-! ## The end record -/

section EndRecord

variable (count : Nat) {size offset : Nat} (hs : size < 256 ^ 4) (ho : offset < 256 ^ 4)

theorem length_endRecord (size offset : Nat) : (endRecord count size offset).length = endSize := by
  rw [endRecord, length_fieldBytes]
  simp [width, endFields, endSize]

include hs ho in
theorem endRecord_reads :
    (endRecord count size offset).natAt 12 4 = size ∧ (endRecord count size offset).natAt 16 4 = offset := by
  rw [← List.append_nil (endRecord count size offset), endRecord]
  exact ⟨natAt_field (k := 5) rfl (by simp [width, endFields]) hs _, natAt_field (k := 6) rfl (by simp [width, endFields]) ho _⟩

theorem endRecord_mark (size offset : Nat) : endMark <+: endRecord count size offset := by
  rw [← List.append_nil (endRecord count size offset), endRecord]
  exact mark_prefix 0x06054B50 _ _

/-- The end record has no comment. -/
theorem endRecord_comment (size offset : Nat) : (endRecord count size offset).drop 20 = [0, 0] := by
  have hsplit : endRecord count size offset = fieldBytes ((endFields count size offset).take 7) ++ [0, 0] := by
    rw [endRecord, ← List.take_append_drop 7 (endFields count size offset), fieldBytes_append]
    rfl
  rw [hsplit]
  exact List.drop_left' (by rw [length_fieldBytes]; simp [width, endFields])

theorem endPosition?_append (front : Bytes) (size offset : Nat) :
    endPosition? (front ++ endRecord count size offset) = some front.length := by
  have hlength : (front ++ endRecord count size offset).length = front.length + endSize := by
    rw [List.length_append, length_endRecord]
  have htail : (front ++ endRecord count size offset).drop front.length = endRecord count size offset := List.drop_left' rfl
  have hmark : endMark.isPrefixOf (endRecord count size offset) = true :=
    List.isPrefixOf_iff_prefix.2 (endRecord_mark count size offset)
  rw [endPosition?, if_neg (by omega)]
  dsimp only
  rw [hlength, Nat.add_sub_cancel, htail, hmark, endRecord_comment]
  rfl

end EndRecord

/-! ## No wide record -/

/-- A number below the limit leaves the last of its four bytes small. -/
theorem ofNatLE_small {n : Nat} (h : n < 2 ^ 26) : ∃ a b c d : UInt8, ofNatLE 4 n = [a, b, c, d] ∧ d.toNat < 4 := by
  refine ⟨_, _, _, UInt8.ofNat (n / 256 / 256 / 256 % 256), rfl, ?_⟩
  rw [UInt8.toNat_ofNat', Nat.mod_mod]
  omega

/-- Among four bytes of a record that end at most 16 bytes into a short name, one is too small for the mark. -/
theorem not_mark_in_fields {d n a b c e : UInt8} {k : Nat} (hd : d.toNat < 4) (he : e.toNat < 4) (hk : k < 19) (rest : Bytes) :
    ¬ wideLocatorMark <+: ([d, n, 0] ++ List.replicate 12 0 ++ [a, b, c, e] ++ rest).drop k := by
  have hd' : d ≠ 0x50 := by rintro rfl; exact absurd hd (by decide)
  have he' : e ≠ 0x50 ∧ e ≠ 0x4B ∧ e ≠ 6 ∧ e ≠ 7 := by
    refine ⟨?_, ?_, ?_, ?_⟩ <;> rintro rfl <;> exact absurd he (by decide)
  obtain ⟨h0, h1, h2, h3⟩ := he'
  interval_cases k <;> simp [wideLocatorMark, List.replicate, Ne.symm hd', Ne.symm h0, Ne.symm h1, Ne.symm h2, Ne.symm h3]

/-- The last fields of a record that is not too long: the last byte of its size, a short name, twelve zeros, its position. -/
theorem record_last {i : Item} {position : Nat} (hsize : i.content.length < 2 ^ 26) (hposition : position < 2 ^ 26)
    (hname : i.name.length < 20) : ∃ front d n a b c e, i.record position =
      front ++ ([d, n, 0] ++ List.replicate 12 0 ++ [a, b, c, e] ++ ofString i.name) ∧ front.length = 27 ∧
        d.toNat < 4 ∧ e.toNat < 4 := by
  obtain ⟨s0, s1, s2, d, hsizeBytes, hd⟩ := ofNatLE_small hsize
  obtain ⟨a, b, c, e, hpositionBytes, he⟩ := ofNatLE_small hposition
  have hnameBytes : ofNatLE 2 i.name.length = [UInt8.ofNat i.name.length, 0] := by
    rw [ofNatLE, Nat.mod_eq_of_lt (by omega), Nat.div_eq_of_lt (by omega)]
    rfl
  have hlast : fieldBytes ((i.recordFields position).drop 10) =
      [s0, s1, s2] ++ ([d, UInt8.ofNat i.name.length, 0] ++ List.replicate 12 0 ++ [a, b, c, e]) := by
    change ofNatLE 4 i.content.length ++ (ofNatLE 2 i.name.length ++
      ([0, 0] ++ ([0, 0] ++ ([0, 0] ++ ([0, 0] ++ ([0, 0, 0, 0] ++ (ofNatLE 4 position ++ []))))))) = _
    rw [hsizeBytes, hpositionBytes, hnameBytes]
    rfl
  refine ⟨fieldBytes ((i.recordFields position).take 10) ++ [s0, s1, s2], d, UInt8.ofNat i.name.length, a, b, c, e,
    ?_, ?_, hd, he⟩
  · rw [Item.record, ← List.take_append_drop 10 (i.recordFields position), fieldBytes_append, hlast,
      List.take_append_drop]
    simp only [List.append_assoc]
  · rw [List.length_append, length_fieldBytes]
    simp [width, Item.recordFields, Item.fields]

/-- So the end of a record is not taken for the place of a wide one. -/
theorem not_locator_of_record {i : Item} {position : Nat} (hsize : i.content.length < 2 ^ 26) (hposition : position < 2 ^ 26)
    (rest : Bytes) :
    ¬ wideLocatorMark <+: (i.record position ++ rest).drop ((i.record position).length - wideLocatorSize) := by
  have hlength := i.length_record position
  have hpos : 0 < i.name.length := by
    rw [← i.plain.length_bytes]
    exact List.length_pos_iff.2 i.plain.bytes_ne_nil
  rw [hlength]
  by_cases hname : i.name.length < 20
  · obtain ⟨front, d, n, a, b, c, e, hrecord, hfront, hd, he⟩ := record_last hsize hposition hname
    have hdrop : recordSize + i.name.length - wideLocatorSize = front.length + (i.name.length - 1) := by
      rw [hfront, recordSize, wideLocatorSize]
      omega
    rw [hrecord, hdrop, ← List.drop_drop, List.append_assoc, List.drop_left' rfl, List.append_assoc _ (ofString i.name)]
    exact not_mark_in_fields hd he (by omega) _
  · -- the mark would lie within the name, whose characters are printable
    intro hmark
    have hdrop : recordSize + i.name.length - wideLocatorSize =
        (fieldBytes (i.recordFields position)).length + (i.name.length - wideLocatorSize) := by
      rw [i.length_recordFields, wideLocatorSize]
      omega
    rw [Item.record, hdrop, ← List.drop_drop, List.append_assoc, List.drop_left' rfl, List.drop_append_of_le_length] at hmark
    · have hin : wideLocatorMark <+: (ofString i.name).drop (i.name.length - wideLocatorSize) := by
        refine List.prefix_of_prefix_length_le hmark (List.prefix_append _ _) ?_
        rw [List.length_drop, i.plain.length_bytes, wideLocatorSize]
        change 4 ≤ _
        omega
      have hsix : (6 : UInt8) ∈ ofString i.name := List.mem_of_mem_drop (hin.subset (by decide))
      exact absurd (i.plain.le_of_mem_bytes hsix) (by decide)
    · rw [i.plain.length_bytes]
      omega

/-! ## Opening -/

/-- The end record after a front that holds no wide one is found, with what it says. -/
theorem findEnd_append {front : Bytes} {count size offset : Nat} (hs : size < 256 ^ 4) (ho : offset < 256 ^ 4)
    (hwide : ¬ wideLocatorMark <+: (front ++ endRecord count size offset).drop (front.length - wideLocatorSize)) :
    findEnd (front ++ endRecord count size offset) = .ok { size, offset, position := front.length } := by
  obtain ⟨hsize, hoffset⟩ := endRecord_reads count hs ho
  have hrecord : (front ++ endRecord count size offset).drop front.length = endRecord count size offset := List.drop_left' rfl
  have hmark : wideLocatorMark.isPrefixOf
      ((front ++ endRecord count size offset).drop (front.length - wideLocatorSize)) = false := by
    rw [← Bool.not_eq_true, List.isPrefixOf_iff_prefix]
    exact hwide
  rw [findEnd, endPosition?_append]
  dsimp only
  rw [hrecord, hsize, hoffset, widen]
  dsimp only
  rw [hmark]
  split <;> rfl

theorem directoryOf_last {items : List Item} (hne : items ≠ []) : ∃ i before position,
    directoryOf 0 items = before ++ i.record position ∧ i ∈ items ∧ position ≤ (bodyOf items).length := by
  obtain ⟨init, i, rfl⟩ := (List.eq_nil_or_concat items).resolve_left hne
  rw [List.concat_eq_append]
  refine ⟨i, directoryOf 0 init, (bodyOf init).length, ?_, List.mem_append_right _ List.mem_cons_self, ?_⟩
  · rw [directoryOf_append, Nat.zero_add, directoryOf, directoryOf, List.append_nil]
  · rw [bodyOf_append, List.length_append]
    exact Nat.le_add_right _ _

theorem length_content_le {items : List Item} {i : Item} (h : i ∈ items) : i.content.length ≤ (bodyOf items).length := by
  obtain ⟨init, rest, rfl⟩ := List.append_of_mem h
  rw [bodyOf_append, bodyOf_cons, List.length_append, List.length_append, i.length_stored]
  omega

/-- No wide record is taken to stand before the end record of a standard archive. -/
theorem not_locator_of_standard {items : List Item} (hne : items ≠ []) (front rest : Bytes)
    (hlength : (bodyOf items).length < 2 ^ 26) :
    ¬ wideLocatorMark <+: (front ++ directoryOf 0 items ++ rest).drop
      ((front ++ directoryOf 0 items).length - wideLocatorSize) := by
  obtain ⟨i, before, position, hdirectory, hi, hposition⟩ := directoryOf_last hne
  have hsize := length_content_le hi
  have hrecord := i.length_record position
  have hdrop : (front ++ (before ++ i.record position)).length - wideLocatorSize =
      (front ++ before).length + ((i.record position).length - wideLocatorSize) := by
    rw [List.length_append, List.length_append, List.length_append, hrecord, recordSize, wideLocatorSize]
    omega
  rw [hdirectory, hdrop, ← List.drop_drop, ← List.append_assoc, List.append_assoc _ (i.record position), List.drop_left' rfl]
  exact not_locator_of_record (by omega) (by omega) rest

section Standard

variable {items : List Item} (before : Bytes)

/-- The end record of a standard archive that stands behind other bytes. -/
def endOf (before : Bytes) (items : List Item) : EndRecord where
  size := (directoryOf 0 items).length
  offset := (bodyOf items).length
  position := (before ++ bodyOf items ++ directoryOf 0 items).length

theorem behind_eq : before ++ standard items = before ++ bodyOf items ++ directoryOf 0 items ++
    endRecord items.length (directoryOf 0 items).length (bodyOf items).length := by
  rw [standard]
  simp only [List.append_assoc]

theorem length_behind : (before ++ standard items).length =
    before.length + (bodyOf items).length + (directoryOf 0 items).length + endSize := by
  rw [behind_eq, List.length_append, List.length_append, List.length_append, length_endRecord]

theorem directoryStart_endOf : (endOf before items).directoryStart = ((before.length + (bodyOf items).length : Nat) : Int) := by
  rw [EndRecord.directoryStart, endOf, List.length_append, List.length_append]
  simp only [Bool.false_eq_true, if_false]
  omega

/-- Positions are off by the bytes before the archive. -/
theorem shift_endOf : (endOf before items).shift = (before.length : Nat) := by
  have hoffset : (endOf before items).offset = (bodyOf items).length := rfl
  rw [EndRecord.shift, directoryStart_endOf, hoffset]
  omega

theorem body_stands : bodyOf items <+: (before ++ standard items).drop before.length := by
  rw [behind_eq, List.append_assoc, List.append_assoc, List.drop_left' rfl]
  exact List.prefix_append _ _

theorem directory_stands :
    directoryOf 0 items <+: (before ++ standard items).drop (before.length + (bodyOf items).length) := by
  rw [behind_eq, ← List.length_append, List.append_assoc _ (directoryOf 0 items), List.drop_left' rfl]
  exact List.prefix_append _ _

variable (hne : items ≠ []) (hlength : (before ++ standard items).length < 2 ^ 26)
include hne hlength

theorem findEnd_standard : findEnd (before ++ standard items) = .ok (endOf before items) := by
  rw [length_behind] at hlength
  rw [behind_eq]
  exact findEnd_append (by omega) (by omega) (not_locator_of_standard hne _ _ (by omega))

/-- The directory of a standard archive is read back, each member where it stands in the file. -/
theorem readDirectory_standard :
    ∃ ms, readDirectory (before ++ standard items) = .ok ms ∧ List.Forall₂ (Listed (before ++ standard items)) items ms := by
  have hend := findEnd_standard before hne hlength
  have hstart := @directoryStart_endOf items before
  have hdirectory : (before ++ standard items).slice (before.length + (bodyOf items).length) (endOf before items).size =
      directoryOf 0 items := Bytes.slice_of_prefix (directory_stands before) rfl
  have hrecords : readRecords (endOf before items).shift (endOf before items).size (directoryOf 0 items) =
      .ok (membersFrom before.length items) := by
    rw [length_behind] at hlength
    rw [shift_endOf]
    exact readRecords_directoryOf before.length items 0 (by omega)
  refine ⟨setLimits (endOf before items).directoryStart [] (membersFrom before.length items), ?_, ?_⟩
  · rw [readDirectory_eq, hend]
    dsimp only
    rw [if_neg (by omega), hstart, Int.toNat_natCast, hdirectory, hrecords]
    rfl
  · refine listed_setLimits items before.length [] (fun e he => absurd he List.not_mem_nil) (body_stands before) ?_
    rw [hstart]

end Standard

/-! ## Contents -/

/-- The stream of a stored member. -/
def Item.stream (i : Item) : Stream where
  name := i.name
  coding := .stored
  compressedSize := i.content.length
  crc := i.crc
  data := i.content
  left := i.content.length

theorem Item.header_stands {i : Item} {file : Bytes} {start : Nat} (h : i.stored <+: file.drop start) :
    i.header <+: file.drop start := by
  rw [Item.stored, List.append_assoc] at h
  exact (List.prefix_append _ _).trans h

theorem Item.name_stands {i : Item} {file : Bytes} {start : Nat} (h : i.stored <+: file.drop start) :
    ofString i.name <+: file.drop (start + Reader.headerSize) := by
  rw [Item.stored, List.append_assoc] at h
  have := Bytes.prefix_of_append h
  rw [i.length_header] at this
  exact (List.prefix_append _ _).trans this

theorem Item.content_stands {i : Item} {file : Bytes} {start : Nat} (h : i.stored <+: file.drop start) :
    i.content <+: file.drop (start + Reader.headerSize + i.name.length) := by
  have := Bytes.prefix_of_append h
  rw [List.length_append, i.length_header, i.plain.length_bytes, ← Nat.add_assoc] at this
  exact this

/-- It ends within the file. -/
theorem Item.end_le {i : Item} {file : Bytes} {start : Nat} (h : i.stored <+: file.drop start) :
    start + i.stored.length ≤ file.length := by
  refine Bytes.le_length_of_prefix h (List.length_pos_iff.1 ?_)
  rw [i.length_stored, Reader.headerSize]
  omega

theorem checkHeader_member (i : Item) (start limit : Int) :
    Reader.checkHeader (i.member start limit) i.header (ofString i.name) = .ok () := by
  have hmark : Reader.headerMark.isPrefixOf i.header = true := List.isPrefixOf_iff_prefix.2 i.header_mark
  have hlength : ¬ i.header.length < Reader.headerSize := Nat.not_lt.2 (Nat.le_of_eq i.length_header.symm)
  have hflags : i.header.natAt 6 2 = 0 := i.header_reads.1
  have hpatch : (i.member start limit).isPatch = false := Nat.zero_testBit 5
  have hstrong : (i.member start limit).isStronglyEncrypted = false := Nat.zero_testBit 6
  have hname : (i.member start limit).fullName = i.name := rfl
  rw [Reader.checkHeader, if_neg hlength, hmark, hpatch, hstrong, hflags, i.plain.decode_bytes, hname]
  exact if_neg (not_not_intro rfl)

section Opened

variable {r : Reader} {i : Item} {start : Nat} (ho : r.isOpen = true) (h : i.stored <+: r.file.drop start)
  (hs : start ≤ Reader.maxPosition)
include ho h hs

theorem dataStart_member (limit : Int) :
    r.dataStart (i.member start limit) = .ok (start + Reader.headerSize + i.name.length) := by
  obtain ⟨-, hname, hextra⟩ := i.header_reads
  have hheader : r.file.slice start Reader.headerSize = i.header := Bytes.slice_of_prefix (i.header_stands h) i.length_header
  have hslice : r.file.slice (start + Reader.headerSize) i.name.length = ofString i.name :=
    Bytes.slice_of_prefix (i.name_stands h) i.plain.length_bytes
  have hend := i.end_le h
  rw [i.length_stored] at hend
  have hoffset : (i.member start limit).offset = start := rfl
  rw [Reader.dataStart, ho, hoffset, if_neg (by decide), if_neg (by omega), if_neg (by omega)]
  dsimp only
  rw [Int.toNat_natCast, hheader, hname, hextra, hslice, checkHeader_member, Except.map, Nat.add_zero, Nat.min_eq_left (by omega)]

theorem openStream_member {limit : Int} (hl : ((start + i.stored.length : Nat) : Int) ≤ limit) :
    r.openStream (i.member start limit) = .ok i.stream := by
  have hdata : r.file.slice (start + Reader.headerSize + i.name.length) i.content.length = i.content :=
    Bytes.slice_of_prefix (i.content_stands h) rfl
  have hencrypted : (i.member start limit).isEncrypted = false := Nat.zero_testBit 0
  have hcrc : UInt32.ofNat i.crc.toNat = i.crc := UInt32.ofNat_toNat
  rw [i.length_stored] at hl
  rw [openStream_eq, dataStart_member ho h hs limit]
  dsimp only
  rw [if_neg]
  · unfold Reader.streamAt
    rw [hencrypted]
    dsimp only [Item.member]
    rw [hdata, hcrc]
    rfl
  · dsimp only [Item.member]
    omega

end Opened

section Stream

variable {i : Item} (h : i.content.length ≤ Stream.maxStep)
include h

/-- All data are taken at once. -/
theorem feed_stream :
    i.stream.feed Stream.maxStep = .ok (i.content, { i.stream with fed := i.content.length }) := by
  have hpromised : i.stream.promised = i.content.length := rfl
  rw [Stream.feed, hpromised]
  by_cases hempty : i.content = []
  · rw [if_pos (List.length_eq_zero_iff.2 hempty), hempty]
    rfl
  · have hne : i.content.length ≠ 0 := fun he => hempty (List.length_eq_zero_iff.1 he)
    have hmin : min (max Stream.maxStep Stream.minStep) i.content.length = i.content.length := by
      rw [Nat.min_eq_right]
      exact Nat.le_trans h (Nat.le_max_left _ _)
    have hchunk : i.stream.data.slice i.stream.fed i.content.length = i.content := List.take_length
    rw [if_neg hne, hmin]
    dsimp only
    rw [hchunk, if_neg (by simpa using hempty), show i.stream.fed = 0 from rfl, Nat.zero_add]

/-- The first step yields the content, and ends the stream. -/
theorem step_stream : ∃ t : Stream, t.ended = true ∧ i.stream.step Stream.maxStep = .ok (i.content, t) := by
  have hproduce : i.stream.produce Stream.maxStep =
      .ok (i.content, { i.stream with fed := i.content.length, ended := true }) := by
    have hpromised : ({ i.stream with fed := i.content.length } : Stream).promised = 0 := Nat.sub_self _
    have hcoding : i.stream.coding = .stored := rfl
    rw [Stream.produce, hcoding]
    dsimp only
    rw [feed_stream h]
    simp only [bind, Except.bind, hpromised, decide_true]
    rfl
  have htake : i.content.take i.stream.left = i.content := List.take_length
  have hnone : i.stream.left - i.content.length = 0 := Nat.sub_self _
  have hcheck : Crc32.resume i.stream.running i.content = i.stream.crc := rfl
  refine ⟨{ i.stream with fed := i.content.length, ended := true, left := 0, running := i.stream.crc }, rfl, ?_⟩
  have hopen : (i.stream.ended || decide (Stream.maxStep = 0)) = false := rfl
  rw [Stream.step, hopen]
  simp only [hproduce, bind, Except.bind, Stream.account, htake, hnone, hcheck]
  simp

theorem readAll_stream : ∃ t, i.stream.readAll = .ok (i.content, t) := by
  obtain ⟨t, hended, hstep⟩ := step_stream h
  have hsteps : i.stream.maxSteps = 3 * i.content.length + 1 + 1 := by
    have hmax : i.stream.maxSteps = 2 * i.content.length + i.content.length + 2 := rfl
    omega
  have hopen : i.stream.ended = false := rfl
  have hrest : ∀ n, t.drain (n + 1) = .ok ([], t) := fun n => by rw [Stream.drain, if_pos hended]
  refine ⟨t, ?_⟩
  rw [Stream.readAll, show ({ i.stream with ahead := [] } : Stream) = i.stream from rfl, hsteps, Stream.drain, hopen]
  simp only [hstep, bind, Except.bind, hrest, List.append_nil]
  rfl

end Stream

/-! ## Reading back -/

/-- A member that is listed in an open archive has its content. -/
theorem content_of_listed {r : Reader} {i : Item} {m : Member} (ho : r.isOpen = true) (hlength : r.file.length < 2 ^ 26)
    (h : Listed r.file i m) : m.name = i.name ∧ m.size = i.content.length ∧ r.content m = .ok i.content := by
  obtain ⟨start, limit, rfl, hstands, hlimit⟩ := h
  have hend := i.end_le hstands
  have hposition : start ≤ Reader.maxPosition := by
    rw [Reader.maxPosition]
    omega
  have hsize : i.content.length ≤ Stream.maxStep := by
    rw [i.length_stored] at hend
    rw [Stream.maxStep]
    omega
  obtain ⟨t, hread⟩ := readAll_stream hsize
  refine ⟨rfl, rfl, ?_⟩
  rw [Reader.content, openStream_member ho hstands hposition hlimit, Reader.contentFrom, hread]

theorem plain_of_listed {file : Bytes} {items : List Item} {ms : List Member} (h : List.Forall₂ (Listed file) items ms) :
    ∀ m ∈ ms, IsPlainName m.name := by
  induction h with
  | nil => exact nofun
  | @cons i m _ _ hm _ ih =>
    obtain ⟨_, _, rfl, -⟩ := hm
    exact List.forall_mem_cons.2 ⟨i.plain, ih⟩

/-- The members of such an archive are files, and all of them are listed. -/
theorem allEntries_of_listed {r : Reader} {items : List Item} (h : List.Forall₂ (Listed r.file) items r.members) :
    r.allEntries = .ok r.members := by
  have hplain := plain_of_listed h
  rw [Reader.allEntries_of_named fun m hm => (hplain m hm).ne_empty, List.filter_eq_self.2]
  exact fun m hm => decide_eq_true (hplain m hm).isFileName

/-- A standard archive is read back whole, whatever stands before it: it opens, its listing is that of the members in
their order, with their sizes, and each member has its content. -/
theorem openArchive_standard {s : Session} {path : String} {before : Bytes} {items : List Item}
    (hn : FileSystem.hasNull path = false) (hread : s.files.read path = .ok (before ++ standard items)) (hne : items ≠ [])
    (hlength : (before ++ standard items).length < 2 ^ 26) :
    ∃ r ms, ((openArchive path).on s).1 = .ok r ∧ r.allEntries = .ok ms ∧
      List.Forall₂ (fun i m => m.name = i.name ∧ m.size = i.content.length ∧ r.content m = .ok i.content) items ms := by
  obtain ⟨ms, hdirectory, hlisted⟩ := readDirectory_standard before hne hlength
  refine ⟨{ path := pathText path, file := before ++ standard items, members := ms }, ms, ?_, allEntries_of_listed hlisted,
    hlisted.imp fun i m => content_of_listed rfl hlength⟩
  rw [outcome_openArchive, archiveAt_of_read hn hread, openedFile_eq_ok]
  exact ⟨ms, hdirectory, rfl⟩

theorem isPlainName_spaced : IsPlainName "a b.txt" := ⟨by decide, by simp, by decide, by decide⟩

/-- Two members of one name, the second of which looks like the end of an archive. -/
def repeatedItems : List Item := [
  { name := "a b.txt", content := [1, 2, 3], plain := isPlainName_spaced },
  { name := "a b.txt", content := endRecord 0 0 0, creator := 0x31E, time := 7, date := 9, plain := isPlainName_spaced }]

/-- Behind bytes that look like a record they are read back, each with its own content. -/
theorem openArchive_standard_repeated : ∃ r ms,
    ((openArchive "/a.apk").on (sessionOver ([0x50, 0x4B, 1, 2] ++ standard repeatedItems))).1 = .ok r ∧
      r.allEntries = .ok ms ∧
      List.Forall₂ (fun i m => m.name = i.name ∧ m.size = i.content.length ∧ r.content m = .ok i.content) repeatedItems ms :=
  openArchive_standard (by decide) rfl (by decide) (by decide +kernel)

end ApkReport.Archive
