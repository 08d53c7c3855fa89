/-
What the decoder records is true of its input: the bits that it has read and those that are left are
all there were, and no byte that it has written needs a bit that it has not read. Every operation
keeps that (`Keeps`), so with the whole input at hand, everything that is written can be written
(`reached_trace`).
-/
import ApkReport.Proofs.Gzip
import Mathlib.Data.List.TakeWhile

namespace ApkReport.Deflate

/-- The record is true of an input of so many bits. -/
structure Progress.IsTrue (total : Nat) (p : Progress) : Prop where
  bits : p.taken + p.bits.length = total
  needs : ∀ w ∈ p.written, w.needs ≤ p.taken

/-- The operation keeps the record true, whether it succeeds or not. -/
def Keeps {α : Type} (x : Decoder α) : Prop :=
  ∀ (total : Nat) (p : Progress), p.IsTrue total → (outcome x p).2.IsTrue total

namespace Keeps

variable {α β : Type}

theorem pure (a : α) : Keeps (Pure.pure a : Decoder α) := fun _ _ hp => hp

theorem throw (h : Halt) : Keeps (MonadExcept.throw h : Decoder α) := fun _ _ hp => hp

theorem bind {x : Decoder α} {k : α → Decoder β} (hx : Keeps x) (hk : ∀ a, Keeps (k a)) : Keeps (x >>= k) := by
  intro total p hp
  have hq := hx total p hp
  change ((ExceptT.bindCont k (outcome x p).1) (outcome x p).2).2.IsTrue total
  cases hresult : (outcome x p).1 with
  | error h => exact hq
  | ok a => exact hk a total _ hq

theorem get {k : Progress → Decoder β} (hk : ∀ p, Keeps (k p)) : Keeps (MonadState.get >>= k) :=
  fun total p hp => hk p total p hp

theorem map (f : α → β) {x : Decoder α} (hx : Keeps x) : Keeps (f <$> x) := by
  rw [map_eq_pure_bind]
  exact .bind hx fun a => .pure (f a)

/-- What follows may use what is true of the progress so far. -/
theorem get_of {k : Progress → Decoder β} (hk : ∀ total p, p.IsTrue total → (outcome (k p) p).2.IsTrue total) :
    Keeps (MonadState.get >>= k) :=
  hk

theorem modify {f : Progress → Progress} (hf : ∀ total p, p.IsTrue total → (f p).IsTrue total) :
    Keeps (modify f : Decoder PUnit) :=
  hf

/-- A check of what was read, and what follows it. -/
theorem guard {c : Prop} [Decidable c] {h : Halt} {next : Unit → Decoder α} (hnext : ∀ r, Keeps (next r)) :
    Keeps (if c then (do let r ← MonadExcept.throw h; next r) else next ()) := by
  split
  · exact .bind (.throw h) hnext
  · exact hnext ()

end Keeps

/-! ## Bits -/

theorem length_of_splitBits? {n v : Nat} {bits rest : List Bool} (h : splitBits? n bits = some (v, rest)) :
    n + rest.length = bits.length := by
  induction n generalizing bits v with
  | zero =>
    cases h
    exact Nat.zero_add _
  | succ n ih =>
    cases bits with
    | nil => exact nomatch h
    | cons b bits =>
      rw [splitBits?, Option.map_eq_some_iff] at h
      obtain ⟨⟨v', rest'⟩, hsplit, hx⟩ := h
      cases hx
      have := ih hsplit
      rw [List.length_cons]
      omega

theorem length_of_walk? {t : Tree} {symbol? : Option Nat} {bits rest : List Bool} (h : t.walk? bits = some (symbol?, rest)) :
    rest.length ≤ bits.length := by
  induction t generalizing bits with
  | leaf s =>
    rw [Tree.walk?] at h
    cases h
    exact Nat.le_refl _
  | empty =>
    rw [Tree.walk?] at h
    cases h
    exact Nat.le_refl _
  | node l r ihl ihr =>
    cases bits with
    | nil => exact nomatch h
    | cons b bits =>
      rw [Tree.walk?] at h
      rw [List.length_cons]
      cases b with
      | false => exact Nat.le_succ_of_le (ihl h)
      | true => exact Nat.le_succ_of_le (ihr h)

/-- Bits are taken from the front. -/
theorem Progress.IsTrue.take {total n : Nat} {p : Progress} (hp : p.IsTrue total) {rest : List Bool}
    (h : n + rest.length = p.bits.length) : ({ p with bits := rest, taken := p.taken + n } : Progress).IsTrue total where
  bits := by
    have := hp.bits
    dsimp only
    omega
  needs w hw := Nat.le_trans (hp.needs w hw) (Nat.le_add_right _ _)

theorem Progress.IsTrue.push {total : Nat} {p : Progress} (hp : p.IsTrue total) (byte : UInt8) (held : Nat) :
    ({ p with written := p.written.push ⟨byte, p.taken, held⟩ } : Progress).IsTrue total where
  bits := hp.bits
  needs w hw := by
    rcases Array.mem_push.1 hw with hw | rfl
    · exact hp.needs w hw
    · exact Nat.le_refl _

theorem keeps_readBits (n : Nat) : Keeps (readBits n) := by
  unfold readBits
  refine .get_of fun total p hp => ?_
  cases h : splitBits? n p.bits with
  | none => exact hp
  | some x => exact hp.take (length_of_splitBits? h)

theorem keeps_readSymbol (t : Tree) (f : Fault) : Keeps (readSymbol t f) := by
  unfold readSymbol
  refine .get_of fun total p hp => ?_
  cases h : t.walk? p.bits with
  | none => exact hp
  | some x =>
    obtain ⟨symbol?, rest⟩ := x
    have hle := length_of_walk? h
    have htake := hp.take (show p.bits.length - rest.length + rest.length = p.bits.length by omega)
    cases symbol? with
    | none => exact htake
    | some s => exact htake

theorem keeps_alignToByte : Keeps alignToByte := .modify fun total p hp => hp.take (by
  rw [List.length_drop]
  omega)

/-! ## Output -/

theorem keeps_write (byte : UInt8) : Keeps (write byte) := .modify fun _ _ hp => hp.push byte _

theorem keeps_copyBack (distance length : Nat) : Keeps (copyBack distance length) := by
  induction length with
  | zero => exact .pure _
  | succ length ih =>
    unfold copyBack
    refine .get fun p => ?_
    dsimp only
    split
    · exact .throw _
    · exact .bind (keeps_write _) fun _ => ih

theorem keeps_copyStored (length : Nat) : Keeps (copyStored length) := by
  induction length with
  | zero => exact .pure _
  | succ length ih =>
    unfold copyStored
    refine .get fun p => .bind (keeps_readBits 8) fun v => ?_
    exact .bind (.modify fun _ _ hp => hp.push _ _) fun _ => ih

/-! ## Blocks -/

theorem keeps_readExtra (table : List (Nat × Nat)) (symbol : Nat) (f : Fault) : Keeps (readExtra table symbol f) := by
  unfold readExtra
  split
  · exact .throw _
  · exact .bind (keeps_readBits _) fun _ => .pure _

theorem keeps_readSymbols (literals distances : Tree) (steps : Nat) : Keeps (readSymbols literals distances steps) := by
  induction steps with
  | zero => exact .throw _
  | succ steps ih =>
    unfold readSymbols
    refine .bind (keeps_readSymbol _ _) fun symbol => ?_
    split
    · exact .pure _
    · split
      · exact .bind (keeps_write _) fun _ => ih
      · refine .bind (keeps_readExtra _ _ _) fun length => .bind (keeps_readSymbol _ _) fun d => ?_
        exact .bind (keeps_readExtra _ _ _) fun distance => .bind (keeps_copyBack _ _) fun _ => ih

theorem keeps_storedBlock : Keeps storedBlock := by
  unfold storedBlock
  refine .bind keeps_alignToByte fun _ => .bind (keeps_readBits 32) fun lengths => ?_
  dsimp only
  split
  · exact keeps_copyStored _
  · exact .throw _

theorem keeps_readCodeLengths (t : Tree) (total steps : Nat) (lengths : List Nat) :
    Keeps (readCodeLengths t total steps lengths) := by
  induction steps generalizing lengths with
  | zero => exact .pure _
  | succ steps ih =>
    unfold readCodeLengths
    split
    · exact .pure _
    · refine .bind (keeps_readSymbol _ _) fun symbol => ?_
      split
      · exact ih _
      · -- a repetition, of which the count is read in one of three ways
        extract_lets repeated append next
        have happend : ∀ count, Keeps (append count) := by
          intro count
          unfold append
          split
          · exact .throw _
          · exact ih _
        have hnext : ∀ r, Keeps (next r) := by
          intro r
          unfold next
          split
          · exact .bind (.map _ (keeps_readBits 2)) happend
          · split
            · exact .bind (.map _ (keeps_readBits 3)) happend
            · exact .bind (.map _ (keeps_readBits 7)) happend
        split
        · exact .bind (keeps_readBits 2) fun _ => .bind (.throw _) hnext
        · exact hnext ()

theorem keeps_readLengthsOfLengths (n : Nat) : Keeps (readLengthsOfLengths n) := by
  induction n with
  | zero => exact .pure _
  | succ n ih => exact .bind (keeps_readBits 3) fun _ => .bind ih fun _ => .pure _

theorem keeps_readCodes : Keeps readCodes := by
  unfold readCodes
  refine .bind (keeps_readBits 14) fun header => ?_
  refine .guard fun _ => .bind (keeps_readLengthsOfLengths _) fun lengthsOfLengths => ?_
  refine .guard fun _ => .bind (keeps_readCodeLengths _ _ _ _) fun lengths => ?_
  exact .guard fun _ => .guard fun _ => .guard fun _ => .pure _

theorem keeps_readBlocks (steps : Nat) : Keeps (readBlocks steps) := by
  induction steps with
  | zero => exact .throw _
  | succ steps ih =>
    unfold readBlocks
    refine .bind (keeps_readBits 3) fun header => ?_
    extract_lets symbols next
    have hsymbols : ∀ codes, Keeps (symbols codes) := fun codes => .get fun p => keeps_readSymbols _ _ _
    have hnext : ∀ r, Keeps (next r) := by
      intro r
      unfold next
      split
      · exact keeps_alignToByte
      · exact ih
    split
    · exact .bind keeps_storedBlock hnext
    · exact .bind (hsymbols _) hnext
    · exact .bind keeps_readCodes fun codes => .bind (hsymbols codes) hnext
    · exact .bind (.throw _) hnext

/-! ## The whole input -/

/-- With the whole input at hand, everything that is written can be written. -/
theorem reached_trace (input : Bytes) :
    (trace input).reached input.length = (trace input).written ∧ (trace input).taken ≤ 8 * input.length := by
  have htrue : (Progress.mk (bitsOf input) 0 #[]).IsTrue (8 * input.length) := by
    refine ⟨?_, nofun⟩
    rw [Nat.zero_add, length_bitsOf]
  obtain ⟨hbits, hneeds⟩ := keeps_readBlocks ((bitsOf input).length + 1) _ _ htrue
  have hwritten : (trace input).written =
      (outcome (readBlocks ((bitsOf input).length + 1)) ⟨bitsOf input, 0, #[]⟩).2.written.toList := rfl
  have htaken : (trace input).taken = (outcome (readBlocks ((bitsOf input).length + 1)) ⟨bitsOf input, 0, #[]⟩).2.taken := rfl
  refine ⟨?_, by omega⟩
  rw [Trace.reached, List.takeWhile_eq_self_iff]
  intro w hw
  rw [hwritten, Array.mem_toList_iff] at hw
  have := hneeds w hw
  rw [decide_eq_true_eq]
  omega

end ApkReport.Deflate
