/-
Parts of byte strings: a part of a part, parts that start behind the end, and parts that
stand at a position. A number that was written with enough bytes is read from them, what is read
is bounded by their number, and a text of plain characters is written with one byte each.
-/
import ApkReport.Bytes
import Mathlib.Algebra.Group.Nat.Defs

namespace ApkReport.Bytes

/-! ## Parts -/

theorem slice_slice {bytes : Bytes} {start n a b : Nat} (h : a + b ≤ n) :
    (bytes.slice start n).slice a b = bytes.slice (start + a) b := by
  simp only [slice, List.drop_take, List.drop_drop, List.take_take]
  rw [Nat.min_eq_left (by omega)]

theorem slice_min (bytes : Bytes) (start n : Nat) : bytes.slice (min start bytes.length) n = bytes.slice start n := by
  rw [slice, ← List.drop_eq_drop_min, slice]

/-- The part of a byte string that stands at a position. -/
theorem slice_of_prefix {bytes part : Bytes} {start n : Nat} (h : part <+: bytes.drop start) (hn : part.length = n) :
    bytes.slice start n = part := by
  obtain ⟨rest, hrest⟩ := h
  rw [slice, ← hrest, ← hn, List.take_left']
  rfl

/-- What follows a part that stands at a position. -/
theorem prefix_of_append {bytes part more : Bytes} {start : Nat} (h : part ++ more <+: bytes.drop start) :
    more <+: bytes.drop (start + part.length) := by
  obtain ⟨rest, hrest⟩ := h
  refine ⟨rest, ?_⟩
  rw [← List.drop_drop, ← hrest, List.append_assoc, List.drop_left']
  rfl

/-- A part that stands at a position ends before the end. -/
theorem le_length_of_prefix {bytes part : Bytes} {start : Nat} (h : part <+: bytes.drop start) (hp : part ≠ []) :
    start + part.length ≤ bytes.length := by
  have hlength := h.length_le
  have hpos := List.length_pos_iff.2 hp
  rw [List.length_drop] at hlength
  omega

/-! ## Numbers -/

theorem length_ofNatLE (width n : Nat) : (ofNatLE width n).length = width := by
  induction width generalizing n with
  | zero => rfl
  | succ width ih => rw [ofNatLE, List.length_cons, ih]

theorem toNatLE_ofNatLE {width n : Nat} (h : n < 256 ^ width) : toNatLE (ofNatLE width n) = n := by
  induction width generalizing n with
  | zero =>
    rw [Nat.pow_zero, Nat.lt_one_iff] at h
    rw [h]
    rfl
  | succ width ih =>
    have hrest : n / 256 < 256 ^ width := by
      rw [Nat.div_lt_iff_lt_mul (by decide)]
      exact h
    have hbyte : (UInt8.ofNat (n % 256)).toNat = n % 256 := by
      rw [UInt8.toNat_ofNat']
      exact Nat.mod_mod n 256
    rw [ofNatLE, toNatLE, ih hrest, hbyte]
    omega

theorem toNatLE_lt (b : Bytes) : toNatLE b < 256 ^ b.length := by
  induction b with
  | nil => exact Nat.one_pos
  | cons x b ih =>
    have hx : x.toNat < 256 := x.toNat_lt
    rw [toNatLE, List.length_cons, Nat.pow_succ']
    omega

theorem natAt_lt (b : Bytes) (offset width : Nat) : b.natAt offset width < 256 ^ width :=
  Nat.lt_of_lt_of_le (toNatLE_lt _) (Nat.pow_le_pow_right (by decide) (List.length_take_le _ _))

theorem toNatLE_append (a b : Bytes) : toNatLE (a ++ b) = toNatLE a + 256 ^ a.length * toNatLE b := by
  induction a with
  | nil => simp [toNatLE]
  | cons x a ih =>
    rw [List.cons_append, toNatLE, ih, toNatLE, List.length_cons, Nat.pow_succ', Nat.mul_add, Nat.mul_assoc, Nat.add_assoc]

/-! ## Plain text -/

theorem toList_loop (b : ByteArray) (i : Nat) (before : List UInt8) :
    ByteArray.toList.loop b i before = before.reverse ++ b.data.toList.drop i := by
  induction i, before using ByteArray.toList.loop.induct b with
  | case1 i before h ih =>
    have hi : i < b.data.toList.length := by simpa using h
    have hget : b.get! i = b.data.toList[i] := by
      simp [ByteArray.get!, getElem!_pos, h]
    rw [ByteArray.toList.loop, if_pos h, ih, List.reverse_cons, List.append_assoc, List.drop_eq_getElem_cons hi, hget]
    rfl
  | case2 i before h =>
    rw [ByteArray.toList.loop, if_neg h, List.drop_eq_nil_of_le, List.append_nil]
    simpa using h

theorem toList_eq (b : ByteArray) : b.toList = b.data.toList := by
  rw [ByteArray.toList, toList_loop, List.drop_zero]
  rfl

/-- A text is decoded from its bytes. -/
theorem fromUTF8?_ofString (s : String) : String.fromUTF8? (ofString s).toByteArray = some s := by
  have hbytes : (ofString s).toByteArray = s.toByteArray := by
    rw [ofString, toList_eq, String.toUTF8_eq_toByteArray]
    exact ByteArray.ext List.data_toByteArray
  rw [hbytes, String.fromUTF8?, dif_pos s.isValidUTF8]
  rfl

/-- A plain character is one byte. -/
theorem ofString_plain {s : String} (h : ∀ c ∈ s.toList, c.toNat < 0x80) :
    ofString s = s.toList.map fun c => UInt8.ofNat c.toNat := by
  rw [ofString, toList_eq, String.toUTF8, ← String.utf8Encode_toList, List.utf8Encode, List.toList_data_toByteArray]
  generalize s.toList = cs at h
  induction cs with
  | nil => rfl
  | cons c cs ih =>
    have hc : c.val.toNat ≤ 127 := Nat.le_of_lt_succ (h c List.mem_cons_self)
    have hone : String.utf8EncodeChar c = [UInt8.ofNat c.toNat] := by
      simp only [String.utf8EncodeChar, hc, if_true]
      rfl
    rw [List.flatMap_cons, hone, List.map_cons, ih fun x hx => h x (List.mem_cons_of_mem c hx)]
    rfl

end ApkReport.Bytes
