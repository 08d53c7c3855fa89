/-
What was compressed is expanded again. Compression stores the data in blocks as they are, so the
decoder reads numbers of whole bytes (`splitBits?_bitsOf`), skips to the next byte behind the header
of each block, and copies.
-/
import ApkReport.Gzip
import ApkReport.Proofs.Bytes
import Mathlib.Data.List.Range

namespace ApkReport.Deflate

open Bytes (ofNatLE toNatLE)

/-! ## Bits -/

theorem length_bitsOf (b : Bytes) : (bitsOf b).length = 8 * b.length := by
  induction b with
  | nil => rfl
  | cons x b ih =>
    rw [bitsOf, List.flatMap_cons, List.length_append, ← bitsOf, ih, byteBits, List.length_map, List.length_range,
      List.length_cons]
    omega

theorem bitsOf_append (a b : Bytes) : bitsOf (a ++ b) = bitsOf a ++ bitsOf b := List.flatMap_append

/-- The bits of a number are read as the number. -/
theorem splitBits?_testBits (n v : Nat) (rest : List Bool) :
    splitBits? n ((List.range n).map (v.testBit ·) ++ rest) = some (v % 2 ^ n, rest) := by
  induction n generalizing v with
  | zero => simp [splitBits?, Nat.mod_one]
  | succ n ih =>
    have hbits : (List.range (n + 1)).map (v.testBit ·) = v.testBit 0 :: (List.range n).map ((v / 2).testBit ·) := by
      rw [List.range_succ_eq_map, List.map_cons, List.map_map]
      congr 1
      refine List.map_congr_left fun i _ => ?_
      rw [Function.comp_apply, Nat.succ_eq_add_one, Nat.testBit_succ]
    have hvalue : 2 * (v / 2 % 2 ^ n) + (v.testBit 0).toNat = v % 2 ^ (n + 1) := by
      rw [Nat.pow_succ', Nat.mod_mul, Nat.toNat_testBit, Nat.pow_zero, Nat.div_one]
      omega
    rw [hbits, List.cons_append, splitBits?, ih, Option.map_some]
    dsimp only
    rw [hvalue]

/-- Numbers are read one behind the other, the low bits first. -/
theorem splitBits?_add (m n : Nat) (bits : List Bool) :
    splitBits? (m + n) bits = (splitBits? m bits).bind fun (v, rest) =>
      (splitBits? n rest).map fun (w, rest) => (v + 2 ^ m * w, rest) := by
  induction m generalizing bits with
  | zero =>
    rw [Nat.zero_add, splitBits?, Option.bind_some]
    simp
  | succ m ih =>
    rw [Nat.succ_add]
    cases bits with
    | nil => rfl
    | cons b bits =>
      rw [splitBits?, splitBits?, ih, Option.map_bind, Option.bind_map]
      cases splitBits? m bits with
      | none => rfl
      | some x =>
        simp only [Option.bind_some, Function.comp_apply, Option.map_map]
        congr 1
        funext y
        simp only [Function.comp_apply, Prod.mk.injEq, and_true]
        rw [Nat.pow_succ', Nat.mul_assoc]
        omega

theorem splitBits?_bitsOf (b : Bytes) (rest : List Bool) :
    splitBits? (8 * b.length) (bitsOf b ++ rest) = some (toNatLE b, rest) := by
  induction b with
  | nil => rfl
  | cons x b ih =>
    have hlength : 8 * (x :: b).length = 8 + 8 * b.length := by
      rw [List.length_cons]
      omega
    have hfirst : splitBits? 8 (byteBits x ++ (bitsOf b ++ rest)) = some (x.toNat, bitsOf b ++ rest) := by
      rw [byteBits, splitBits?_testBits, Nat.mod_eq_of_lt x.toNat_lt]
    rw [hlength, bitsOf, List.flatMap_cons, ← bitsOf, List.append_assoc, splitBits?_add, hfirst, Option.bind_some]
    dsimp only
    rw [ih]
    rfl

/-! ## Operations -/

/-- What an operation of the decoder comes to, and the progress after it. -/
def outcome {α : Type} (x : Decoder α) (p : Progress) : Except Halt α × Progress := x.run.run p

/-- The bytes that are written. -/
def Progress.bytes (p : Progress) : Bytes := p.written.toList.map (·.byte)

/-- The operation succeeds: it takes bits from the front and leaves the rest, and writes bytes behind those before. -/
def Takes {α : Type} (x : Decoder α) (a : α) (bits : List Bool) (rest : List Bool) (more : Bytes) : Prop :=
  ∀ p : Progress, p.bits = bits → ∃ q : Progress, outcome x p = (.ok a, q) ∧ q.bits = rest ∧ q.bytes = p.bytes ++ more

namespace Takes

variable {α β : Type} {x : Decoder α} {a : α} {k : α → Decoder β} {b : β} {bits rest last : List Bool} {more more' : Bytes}

theorem pure (a : α) (bits : List Bool) : Takes (Pure.pure a) a bits bits [] :=
  fun p hp => ⟨p, rfl, hp, (List.append_nil _).symm⟩

theorem bind (hx : Takes x a bits rest more) (hk : Takes (k a) b rest last more') :
    Takes (x >>= k) b bits last (more ++ more') := by
  intro p hp
  obtain ⟨q, hq, hbits, hbytes⟩ := hx p hp
  obtain ⟨q', hq', hbits', hbytes'⟩ := hk q hbits
  refine ⟨q', ?_, hbits', by rw [hbytes', hbytes, List.append_assoc]⟩
  change (ExceptT.bindCont k (outcome x p).1) (outcome x p).2 = _
  rw [hq]
  exact hq'

/-- An operation that writes nothing. -/
theorem bind_nil (hx : Takes x a bits rest []) (hk : Takes (k a) b rest last more) : Takes (x >>= k) b bits last more := by
  rw [← List.nil_append more]
  exact hx.bind hk

/-- What follows may depend on the progress. -/
theorem get {k : Progress → Decoder β} (h : ∀ p : Progress, p.bits = bits → Takes (k p) b bits rest more) :
    Takes (MonadState.get >>= k) b bits rest more := by
  intro p hp
  obtain ⟨q, hq⟩ := h p hp p hp
  exact ⟨q, hq⟩

theorem push (byte : UInt8) (needs held : Progress → Nat) (bits : List Bool) :
    Takes (modify fun p => { p with written := p.written.push ⟨byte, needs p, held p⟩ }) () bits bits [byte] := by
  intro p hp
  refine ⟨{ p with written := p.written.push ⟨byte, needs p, held p⟩ }, rfl, hp, ?_⟩
  simp [Progress.bytes]

end Takes

theorem takes_readBits {n v : Nat} {bits rest : List Bool} (h : splitBits? n bits = some (v, rest)) :
    Takes (readBits n) v bits rest [] := by
  unfold readBits
  refine .get fun p hp => ?_
  rw [hp, h]
  exact fun q _ => ⟨{ q with bits := rest, taken := q.taken + n }, rfl, rfl, (List.append_nil _).symm⟩

theorem takes_alignToByte (bits : List Bool) : Takes alignToByte () bits (bits.drop (bits.length % 8)) [] := by
  intro p hp
  subst hp
  exact ⟨_, rfl, rfl, (List.append_nil _).symm⟩

/-- Bytes are copied as they are. -/
theorem takes_copyStored (b : Bytes) (rest : List Bool) : Takes (copyStored b.length) () (bitsOf b ++ rest) rest b := by
  induction b with
  | nil => exact .pure () rest
  | cons x b ih =>
    have hfirst : splitBits? 8 (bitsOf (x :: b) ++ rest) = some (x.toNat, bitsOf b ++ rest) := by
      rw [bitsOf, List.flatMap_cons, ← bitsOf, List.append_assoc]
      simpa [bitsOf, toNatLE] using splitBits?_bitsOf [x] (bitsOf b ++ rest)
    have hbyte : UInt8.ofNat x.toNat = x := UInt8.ofNat_toNat
    refine .get fun p _ => ?_
    refine .bind_nil (takes_readBits hfirst) ?_
    rw [hbyte]
    exact .bind (.push x (·.taken) (fun _ => p.taken) _) ih

/-! ## Blocks -/

/-- A block of stored bytes without its header: the number of the bytes, the same in ones' complement, and the bytes. -/
def storedBody (b : Bytes) : Bytes := ofNatLE 2 b.length ++ ofNatLE 2 (Gzip.blockSize - b.length) ++ b

/-- Both numbers in front of the bytes, as they are read. -/
def storedLengths (b : Bytes) : Nat := b.length + 0x10000 * (Gzip.blockSize - b.length)

/-- What is left of the byte of a header. -/
def headerRest : List Bool := List.replicate 5 false

theorem takes_header {marked : UInt8} (h : marked = 0 ∨ marked = 1) (rest : Bytes) :
    Takes (readBits 3) marked.toNat (bitsOf (marked :: rest)) (headerRest ++ bitsOf rest) [] := by
  refine takes_readBits ?_
  rw [bitsOf, List.flatMap_cons, ← bitsOf]
  rcases h with rfl | rfl <;> rfl

theorem takes_storedLengths {b : Bytes} (hb : b.length ≤ Gzip.blockSize) (rest : Bytes) :
    Takes (readBits 32) (storedLengths b) (bitsOf (storedBody b ++ rest)) (bitsOf (b ++ rest)) [] := by
  have hnumber : toNatLE (ofNatLE 2 b.length ++ ofNatLE 2 (Gzip.blockSize - b.length)) = storedLengths b := by
    unfold storedLengths
    unfold Gzip.blockSize at hb ⊢
    rw [Bytes.toNatLE_append, Bytes.length_ofNatLE, Bytes.toNatLE_ofNatLE (by omega), Bytes.toNatLE_ofNatLE (by omega)]
    rfl
  have hread := splitBits?_bitsOf (ofNatLE 2 b.length ++ ofNatLE 2 (Gzip.blockSize - b.length)) (bitsOf (b ++ rest))
  rw [List.length_append, Bytes.length_ofNatLE, Bytes.length_ofNatLE, hnumber, ← bitsOf_append, ← List.append_assoc] at hread
  exact takes_readBits hread

/-- The block starts at the next byte. -/
theorem takes_storedBlock {b : Bytes} (hb : b.length ≤ Gzip.blockSize) (rest : Bytes) :
    Takes storedBlock () (headerRest ++ bitsOf (storedBody b ++ rest)) (bitsOf rest) b := by
  have hskip := takes_alignToByte (headerRest ++ bitsOf (storedBody b ++ rest))
  have hbits : (headerRest ++ bitsOf (storedBody b ++ rest)).length % 8 = headerRest.length := by
    rw [List.length_append, length_bitsOf, headerRest, List.length_replicate]
    omega
  rw [hbits, List.drop_left] at hskip
  have hlength : storedLengths b % 0x10000 = b.length := by
    unfold Gzip.blockSize at hb
    unfold storedLengths
    omega
  have hcomplement : storedLengths b / 0x10000 + b.length = 0xFFFF := by
    unfold Gzip.blockSize at hb
    unfold storedLengths Gzip.blockSize
    omega
  have hcopy := takes_copyStored b (bitsOf rest)
  rw [← bitsOf_append] at hcopy
  unfold storedBlock
  refine .bind_nil hskip ?_
  refine .bind_nil (takes_storedLengths hb rest) ?_
  dsimp only
  rw [hlength, if_pos hcomplement]
  exact hcopy

/-- Behind the marked block the decoder stops, and it is at a byte there. -/
theorem takes_lastBlock (steps : Nat) {b : Bytes} (hb : b.length ≤ Gzip.blockSize) (tail : Bytes) :
    Takes (readBlocks (steps + 1)) () (bitsOf (1 :: storedBody b ++ tail)) (bitsOf tail) b := by
  have hskip : Takes alignToByte () (bitsOf tail) (bitsOf tail) [] := by
    have h := takes_alignToByte (bitsOf tail)
    rwa [length_bitsOf, Nat.mul_mod_right, List.drop_zero] at h
  have hend := Takes.bind (k := fun _ => alignToByte) (takes_storedBlock hb tail) hskip
  rw [List.append_nil] at hend
  unfold readBlocks
  exact .bind_nil (takes_header (.inr rfl) (storedBody b ++ tail)) hend

/-- Behind another block it goes on. -/
theorem takes_blockBefore {steps : Nat} {b : Bytes} (hb : b.length ≤ Gzip.blockSize) {rest tail more : Bytes}
    (hnext : Takes (readBlocks steps) () (bitsOf rest) (bitsOf tail) more) :
    Takes (readBlocks (steps + 1)) () (bitsOf (0 :: storedBody b ++ rest)) (bitsOf tail) (b ++ more) := by
  unfold readBlocks
  refine .bind_nil (takes_header (.inl rfl) (storedBody b ++ rest)) ?_
  exact .bind (takes_storedBlock hb rest) hnext

/-- Data that fit into one block are written as the marked block, others as a block and what follows it. -/
theorem storedBlocks_eq (blocks : Nat) {b : Bytes} (hb : b.length ≤ Gzip.blockSize * (blocks + 1)) :
    (b.length ≤ Gzip.blockSize ∧ Gzip.storedBlocks blocks b = 1 :: storedBody b) ∨
      ∃ fewer, blocks = fewer + 1 ∧ (b.drop Gzip.blockSize).length ≤ Gzip.blockSize * (fewer + 1) ∧
        Gzip.storedBlocks blocks b =
          0 :: storedBody (b.take Gzip.blockSize) ++ Gzip.storedBlocks fewer (b.drop Gzip.blockSize) := by
  by_cases hone : b.length ≤ Gzip.blockSize
  · left
    refine ⟨hone, ?_⟩
    unfold Gzip.storedBlocks
    rw [List.take_of_length_le hone, List.drop_of_length_le hone]
    cases blocks <;> rfl
  · right
    cases blocks with
    | zero => exact absurd (by simpa using hb) hone
    | succ fewer =>
      have hrest : (b.drop Gzip.blockSize).length ≤ Gzip.blockSize * (fewer + 1) := by
        rw [Nat.mul_succ] at hb
        rw [List.length_drop]
        omega
      have hmore : b.drop Gzip.blockSize ≠ [] := by
        rw [ne_eq, List.drop_eq_nil_iff]
        exact hone
      obtain ⟨x, rest, hcons⟩ := List.exists_cons_of_ne_nil hmore
      refine ⟨fewer, rfl, hrest, ?_⟩
      conv_lhs => unfold Gzip.storedBlocks
      rw [hcons]
      rfl

/-- Stored blocks are read up to the marked one, if they may be so many. -/
theorem takes_readBlocks (blocks steps : Nat) (b : Bytes) (hblocks : b.length ≤ Gzip.blockSize * (blocks + 1))
    (hsteps : blocks < steps) (tail : Bytes) :
    Takes (readBlocks steps) () (bitsOf (Gzip.storedBlocks blocks b ++ tail)) (bitsOf tail) b := by
  induction steps generalizing blocks b with
  | zero => exact absurd hsteps (Nat.not_lt_zero _)
  | succ steps ih =>
    rcases storedBlocks_eq blocks hblocks with ⟨hone, h⟩ | ⟨fewer, rfl, hrest, h⟩
    · rw [h]
      exact takes_lastBlock steps hone tail
    · have hnext := takes_blockBefore (List.length_take_le _ b) (ih fewer _ hrest (by omega))
      rw [List.take_append_drop] at hnext
      rw [h, List.append_assoc]
      exact hnext

/-- Blocks are longer than what they hold. -/
theorem lt_length_storedBlocks {blocks : Nat} {b : Bytes} (hblocks : b.length ≤ Gzip.blockSize * (blocks + 1)) :
    b.length < (Gzip.storedBlocks blocks b).length := by
  induction blocks using Nat.strong_induction_on generalizing b with
  | h blocks ih =>
    rcases storedBlocks_eq blocks hblocks with ⟨-, h⟩ | ⟨fewer, rfl, hrest, h⟩
    · rw [h, List.length_cons, storedBody, List.length_append]
      omega
    · have hmore := ih fewer (Nat.lt_succ_self fewer) hrest
      rw [List.length_drop] at hmore
      rw [h, List.length_append, List.length_cons, storedBody, List.length_append, List.length_take]
      omega

/-- What follows the blocks is ignored. -/
theorem inflateAll?_storedBlocks {blocks : Nat} {b : Bytes} (hblocks : b.length ≤ Gzip.blockSize * (blocks + 1))
    (tail : Bytes) (henough : blocks ≤ 8 * (Gzip.storedBlocks blocks b ++ tail).length) :
    inflateAll? (Gzip.storedBlocks blocks b ++ tail) = some b := by
  have hsteps : blocks < (bitsOf (Gzip.storedBlocks blocks b ++ tail)).length + 1 := by
    rw [length_bitsOf]
    omega
  have hread := takes_readBlocks blocks _ b hblocks hsteps tail
  obtain ⟨q, hq, -, hbytes⟩ := hread ⟨bitsOf (Gzip.storedBlocks blocks b ++ tail), 0, #[]⟩ rfl
  have htrace : trace (Gzip.storedBlocks blocks b ++ tail) = ⟨q.written.toList, q.taken, none⟩ := by
    rw [outcome] at hq
    unfold trace
    dsimp only
    rw [hq]
  rw [inflateAll?, htrace]
  exact congrArg some hbytes

end ApkReport.Deflate

namespace ApkReport.Gzip

open Deflate

/-- What was compressed is expanded again. -/
theorem expand?_compress (data : Bytes) : expand? (compress data) = some data := by
  have hblocks : data.length ≤ blockSize * (data.length / blockSize + 1 + 1) := by
    have h := Nat.lt_mul_div_succ data.length (show 0 < blockSize by decide)
    rw [Nat.mul_succ]
    omega
  have hlength := lt_length_storedBlocks hblocks
  have hdiv := Nat.div_le_self data.length blockSize
  rw [compress, List.append_assoc, List.append_assoc]
  refine inflateAll?_storedBlocks hblocks _ ?_
  rw [List.length_append]
  omega

end ApkReport.Gzip
