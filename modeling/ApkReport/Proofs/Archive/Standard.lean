/-
Standard archives: members stored as they are one after another, a directory that lists them in
the same order, and an end record. Each field of a header, a record and the end record is read
back where it stands.
-/
import ApkReport.Proofs.Archive.Opening
import ApkReport.Proofs.Bytes

namespace ApkReport.Archive

open Bytes (ofNatLE ofString)

/-! ## Members -/

/-- A printable name of a file, as long as a name can be. -/
structure IsPlainName (name : String) : Prop where
  ne_empty : name ≠ ""
  printable : ∀ c ∈ name.toList, ' ' ≤ c ∧ c ≤ '~'
  isFileName : IsFileName name
  fits : name.length < 256 ^ 2

/-- A member to be written. The version that made it and its time are for others than readers of its content. -/
structure Item where
  name : String
  content : Bytes
  creator : Nat := 20
  time : Nat := 0
  date : Nat := 0x21
  plain : IsPlainName name

/-- Numbers one after another, each with its width. -/
def fieldBytes (fields : List (Nat × Nat)) : Bytes := fields.flatMap fun (width, n) => ofNatLE width n

namespace Item

variable (i : Item)

def crc : UInt32 := Crc32.resume 0 i.content

/-- The fields that the header and the record of a member share: the version that it needs, its flags and its method,
its time, its check, its sizes, and the lengths of its name and of further fields. -/
def fields : List (Nat × Nat) := [
  (1, 20), (1, 0), (2, 0), (2, 0), (2, i.time), (2, i.date), (4, i.crc.toNat), (4, i.content.length),
  (4, i.content.length), (2, i.name.length), (2, 0)]

def header : Bytes := fieldBytes ((4, 0x04034B50) :: i.fields)

/-- The member with its header. -/
def stored : Bytes := i.header ++ ofString i.name ++ i.content

/-- The fields of its record: a comment, a disk and attributes of zero follow those of the header, and then its position. -/
def recordFields (position : Nat) : List (Nat × Nat) :=
  (4, 0x02014B50) :: (2, i.creator) :: i.fields ++ [(2, 0), (2, 0), (2, 0), (4, 0), (4, position)]

/-- Its record in the directory. -/
def record (position : Nat) : Bytes := fieldBytes (i.recordFields position) ++ ofString i.name

/-- What a reader makes of the record. -/
def member (start limit : Int) : Member where
  fullName := i.name
  name := i.name
  flags := 0
  method := 0
  crc := i.crc.toNat
  compressedSize := i.content.length
  size := i.content.length
  attributes := 0
  offset := start
  limit := limit

end Item

/-! ## Archives -/

/-- The members one after another. -/
def bodyOf (items : List Item) : Bytes := items.flatMap Item.stored

/-- Their directory, if the first stands at a position. -/
def directoryOf (position : Nat) : List Item → Bytes
  | [] => []
  | i :: rest => i.record position ++ directoryOf (position + i.stored.length) rest

/-- The fields of the record at the end: how many members there are, how long the directory is, where it starts, and
no comment. -/
def endFields (count size offset : Nat) : List (Nat × Nat) :=
  [(4, 0x06054B50), (2, 0), (2, 0), (2, count), (2, count), (4, size), (4, offset), (2, 0)]

def endRecord (count size offset : Nat) : Bytes := fieldBytes (endFields count size offset)

/-- The archive of the members. -/
def standard (items : List Item) : Bytes :=
  bodyOf items ++ directoryOf 0 items ++ endRecord items.length (directoryOf 0 items).length (bodyOf items).length

theorem bodyOf_cons (i : Item) (rest : List Item) : bodyOf (i :: rest) = i.stored ++ bodyOf rest := rfl

theorem bodyOf_append (items more : List Item) : bodyOf (items ++ more) = bodyOf items ++ bodyOf more :=
  List.flatMap_append

theorem directoryOf_append (position : Nat) (items more : List Item) :
    directoryOf position (items ++ more) =
      directoryOf position items ++ directoryOf (position + (bodyOf items).length) more := by
  induction items generalizing position with
  | nil => rfl
  | cons i rest ih =>
    rw [List.cons_append, directoryOf, ih, directoryOf, bodyOf_cons, List.length_append, Nat.add_assoc, List.append_assoc]

/-! ## Names -/

section Name

variable {name : String} (h : IsPlainName name)
include h

theorem IsPlainName.byte_lt {c : Char} (hc : c ∈ name.toList) : 0x20 ≤ c.toNat ∧ c.toNat < 0x7F := by
  obtain ⟨hlow, hhigh⟩ := h.printable c hc
  exact ⟨hlow, Nat.lt_succ_of_le hhigh⟩

theorem IsPlainName.bytes_eq : ofString name = name.toList.map fun c => UInt8.ofNat c.toNat :=
  Bytes.ofString_plain fun c hc => Nat.lt_trans (h.byte_lt hc).2 (by decide)

theorem IsPlainName.length_bytes : (ofString name).length = name.length := by
  rw [h.bytes_eq, List.length_map, String.length_toList]

theorem IsPlainName.bytes_ne_nil : ofString name ≠ [] := by
  rw [h.bytes_eq]
  simpa using h.ne_empty

/-- Its bytes are printable. -/
theorem IsPlainName.le_of_mem_bytes {b : UInt8} (hb : b ∈ ofString name) : 0x20 ≤ b.toNat := by
  rw [h.bytes_eq, List.mem_map] at hb
  obtain ⟨c, hc, rfl⟩ := hb
  obtain ⟨hlow, hhigh⟩ := h.byte_lt hc
  rw [UInt8.toNat_ofNat', Nat.mod_eq_of_lt (by omega)]
  exact hlow

theorem IsPlainName.decode_bytes : decodeName 0 (ofString name) = .ok name := by
  have hchars : (name.toList.map fun c => UInt8.ofNat c.toNat).map
      (fun x => if x < 0x80 then Char.ofNat x.toNat else Text.codePage437Upper.getD (x.toNat - 0x80) ' ') = name.toList := by
    rw [List.map_map]
    refine (List.map_congr_left fun c hc => ?_).trans (List.map_id _)
    obtain ⟨-, hhigh⟩ := h.byte_lt hc
    have hbyte : (UInt8.ofNat c.toNat).toNat = c.toNat := by rw [UInt8.toNat_ofNat', Nat.mod_eq_of_lt (by omega)]
    have hlt : UInt8.ofNat c.toNat < 0x80 := by
      rw [UInt8.lt_iff_toNat_lt, hbyte]
      exact Nat.lt_trans hhigh (by decide)
    simp only [Function.comp_apply, hlt, if_true, hbyte, Char.ofNat_toNat, id]
  rw [decodeName, h.bytes_eq]
  exact congrArg Except.ok (by rw [Text.decodeCodePage437, hchars, String.ofList_toList])

theorem IsPlainName.cutAtNull_eq : cutAtNull name = name := by
  have hprintable : ∀ c ∈ name.toList, decide (c ≠ '\x00') = true := by
    intro c hc
    obtain ⟨hlow, -⟩ := h.byte_lt hc
    have hne : c ≠ '\x00' := by
      rintro rfl
      exact absurd hlow (by decide)
    simpa using hne
  have hall : name.toList.takeWhile (· ≠ '\x00') = name.toList := by
    rw [← List.append_nil name.toList, List.takeWhile_append_of_pos hprintable, List.takeWhile_nil]
  rw [cutAtNull, hall, String.ofList_toList]

end Name

/-! ## Fields -/

/-- How many bytes fields take. -/
def width : List (Nat × Nat) → Nat
  | [] => 0
  | (w, _) :: fields => w + width fields

theorem length_fieldBytes (fields : List (Nat × Nat)) : (fieldBytes fields).length = width fields := by
  induction fields with
  | nil => rfl
  | cons x fields ih =>
    rw [fieldBytes, List.flatMap_cons, List.length_append, Bytes.length_ofNatLE, ← fieldBytes, ih]
    rfl

theorem fieldBytes_append (fields more : List (Nat × Nat)) :
    fieldBytes (fields ++ more) = fieldBytes fields ++ fieldBytes more :=
  List.flatMap_append

/-- Each number is read where its field stands. -/
theorem natAt_field {fields : List (Nat × Nat)} {k w n offset : Nat} (hk : fields[k]? = some (w, n))
    (ho : width (fields.take k) = offset) (hn : n < 256 ^ w) (rest : Bytes) :
    (fieldBytes fields ++ rest).natAt offset w = n := by
  obtain ⟨hlt, hget⟩ := List.getElem?_eq_some_iff.1 hk
  have hsplit : fields = fields.take k ++ (w, n) :: fields.drop (k + 1) := by
    rw [← hget, ← List.drop_eq_getElem_cons hlt, List.take_append_drop]
  have hbytes : fieldBytes fields = fieldBytes (fields.take k) ++ (ofNatLE w n ++ fieldBytes (fields.drop (k + 1))) :=
    (congrArg fieldBytes hsplit).trans (fieldBytes_append _ _)
  have hpart : ofNatLE w n <+: (fieldBytes fields ++ rest).drop offset := by
    refine ⟨fieldBytes (fields.drop (k + 1)) ++ rest, ?_⟩
    rw [hbytes, ← ho, ← length_fieldBytes, List.append_assoc, List.drop_left', List.append_assoc]
    rfl
  rw [Bytes.natAt, Bytes.slice_of_prefix hpart (Bytes.length_ofNatLE w n), Bytes.toNatLE_ofNatLE hn]

/-- A mark of four bytes comes first. -/
theorem mark_prefix (n : Nat) (fields : List (Nat × Nat)) (rest : Bytes) :
    ofNatLE 4 n <+: fieldBytes ((4, n) :: fields) ++ rest := by
  rw [fieldBytes, List.flatMap_cons, List.append_assoc]
  exact List.prefix_append _ _

namespace Item

variable (i : Item) (position : Nat)

theorem length_header : i.header.length = Reader.headerSize := by
  rw [header, length_fieldBytes]
  simp [width, fields, Reader.headerSize]

theorem length_recordFields : (fieldBytes (i.recordFields position)).length = recordSize := by
  rw [length_fieldBytes]
  simp [width, recordFields, fields, recordSize]

theorem length_record : (i.record position).length = recordSize + i.name.length := by
  rw [record, List.length_append, length_recordFields, i.plain.length_bytes]

theorem length_stored : i.stored.length = Reader.headerSize + i.name.length + i.content.length := by
  rw [stored, List.length_append, List.length_append, length_header, i.plain.length_bytes]

/-- What a reader finds in the record, which has no further fields and no comment. -/
theorem record_reads (hsize : i.content.length < 256 ^ 4) (hposition : position < 256 ^ 4) (rest : Bytes) :
    let r := i.record position ++ rest
    (r.natAt 6 1 = 20 ∧ r.natAt 8 2 = 0 ∧ r.natAt 10 2 = 0 ∧ r.natAt 16 4 = i.crc.toNat) ∧
      (r.natAt 20 4 = i.content.length ∧ r.natAt 24 4 = i.content.length) ∧
      (r.natAt 28 2 = i.name.length ∧ r.natAt 30 2 = 0 ∧ r.natAt 32 2 = 0) ∧
      r.natAt 38 4 = 0 ∧ r.natAt 42 4 = position := by
  have hread : ∀ {k w n offset : Nat}, (i.recordFields position)[k]? = some (w, n) →
      width ((i.recordFields position).take k) = offset → n < 256 ^ w →
      (i.record position ++ rest).natAt offset w = n := by
    intro k w n offset hk ho hn
    rw [record, List.append_assoc]
    exact natAt_field hk ho hn _
  have hcrc : i.crc.toNat < 256 ^ 4 := i.crc.toNat_lt
  refine ⟨⟨hread (k := 2) rfl ?_ (by decide), hread (k := 4) rfl ?_ (by decide), hread (k := 5) rfl ?_ (by decide),
    hread (k := 8) rfl ?_ hcrc⟩, ⟨hread (k := 9) rfl ?_ hsize, hread (k := 10) rfl ?_ hsize⟩,
    ⟨hread (k := 11) rfl ?_ i.plain.fits, hread (k := 12) rfl ?_ (by decide), hread (k := 13) rfl ?_ (by decide)⟩,
    hread (k := 16) rfl ?_ (by decide), hread (k := 17) rfl ?_ hposition⟩
  all_goals simp [width, recordFields, fields]

theorem record_mark (rest : Bytes) : directoryMark <+: i.record position ++ rest := by
  rw [record, List.append_assoc]
  exact mark_prefix 0x02014B50 _ _

/-- The name follows the fields. -/
theorem record_name (rest : Bytes) : (i.record position ++ rest).slice recordSize i.name.length = ofString i.name := by
  refine Bytes.slice_of_prefix ⟨rest, ?_⟩ i.plain.length_bytes
  rw [record, List.append_assoc, ← i.length_recordFields position, List.drop_left']
  rfl

/-- What a reader finds in the header. -/
theorem header_reads : i.header.natAt 6 2 = 0 ∧ i.header.natAt 26 2 = i.name.length ∧ i.header.natAt 28 2 = 0 := by
  have hread : ∀ {k w n offset : Nat}, ((4, 0x04034B50) :: i.fields)[k]? = some (w, n) →
      width (((4, 0x04034B50) :: i.fields).take k) = offset → n < 256 ^ w → i.header.natAt offset w = n := by
    intro k w n offset hk ho hn
    rw [← List.append_nil i.header, header]
    exact natAt_field hk ho hn _
  refine ⟨hread (k := 3) rfl ?_ (by decide), hread (k := 10) rfl ?_ i.plain.fits, hread (k := 11) rfl ?_ (by decide)⟩
  all_goals simp [width, fields]

theorem header_mark : Reader.headerMark <+: i.header := by
  rw [← List.append_nil i.header, header]
  exact mark_prefix 0x04034B50 _ _

end Item

end ApkReport.Archive
