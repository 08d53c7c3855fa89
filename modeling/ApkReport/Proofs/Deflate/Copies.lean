/-
Data that expand far beyond their own length: a block of four literals and of repetitions of them,
which take little more than two bytes each. The repetitions are followed one by one (`leads_copies`),
and what they write has a check of zero however many there are.
-/
import ApkReport.Crc32
import ApkReport.Proofs.Deflate.Progress
import Mathlib

namespace ApkReport.Deflate

/-! ## Operations -/

/-- From those bits, and with those bytes written before, the operation comes to a result, and to other bits and bytes. -/
def Leads {α : Type} (x : Decoder α) (bits : List Bool) (before : Bytes) (result : Except Halt α) (rest : List Bool)
    (after : Bytes) : Prop :=
  ∀ p : Progress, p.bits = bits → p.bytes = before → ∃ q : Progress, outcome x p = (result, q) ∧ q.bits = rest ∧ q.bytes = after

section Leads

variable {α β : Type} {x : Decoder α} {k : α → Decoder β} {a : α} {result : Except Halt β} {bits middle rest : List Bool}
  {before more after : Bytes}

theorem Leads.bind (hx : Leads x bits before (.ok a) middle more) (hk : Leads (k a) middle more result rest after) :
    Leads (x >>= k) bits before result rest after := by
  intro p hp hb
  obtain ⟨q, hq, hbits, hbytes⟩ := hx p hp hb
  obtain ⟨q', hq', hlast⟩ := hk q hbits hbytes
  refine ⟨q', ?_, hlast⟩
  change (ExceptT.bindCont k (outcome x p).1) (outcome x p).2 = _
  rw [hq]
  exact hq'

theorem Leads.get {k : Progress → Decoder β}
    (hk : ∀ p : Progress, p.bits = bits → p.bytes = before → Leads (k p) bits before result rest after) :
    Leads (MonadState.get >>= k) bits before result rest after :=
  fun p hp hb => hk p hp hb p hp hb

theorem Leads.throw (h : Halt) : Leads (MonadExcept.throw h : Decoder α) bits before (.error h) bits before :=
  fun p hp hb => ⟨p, rfl, hp, hb⟩

theorem Leads.bind_error {h : Halt} (hx : Leads x bits before (.error h) middle more) :
    Leads (x >>= k) bits before (.error h) middle more := by
  intro p hp hb
  obtain ⟨q, hq, hlast⟩ := hx p hp hb
  refine ⟨q, ?_, hlast⟩
  change (ExceptT.bindCont k (outcome x p).1) (outcome x p).2 = _
  rw [hq]
  rfl

theorem Takes.leads (hx : Takes x a bits rest more) (before : Bytes) : Leads x bits before (.ok a) rest (before ++ more) := by
  intro p hp hb
  obtain ⟨q, hq, hbits, hbytes⟩ := hx p hp
  exact ⟨q, hq, hbits, by rw [hbytes, hb]⟩

/-- What follows an operation that writes nothing. -/
theorem Takes.leads_bind (hx : Takes x a bits middle []) (hk : Leads (k a) middle before result rest after) :
    Leads (x >>= k) bits before result rest after := by
  have h := hx.leads before
  rw [List.append_nil] at h
  exact h.bind hk

end Leads

theorem walk?_append {t : Tree} {symbol? : Option Nat} {bits left : List Bool} (h : t.walk? bits = some (symbol?, left))
    (rest : List Bool) : t.walk? (bits ++ rest) = some (symbol?, left ++ rest) := by
  induction t generalizing bits with
  | leaf s =>
    rw [Tree.walk?] at h
    cases h
    rw [Tree.walk?]
  | empty =>
    rw [Tree.walk?] at h
    cases h
    rw [Tree.walk?]
  | node l r ihl ihr =>
    cases bits with
    | nil =>
      rw [Tree.walk?] at h
      cases h
    | cons b bits =>
      rw [Tree.walk?] at h
      rw [List.cons_append, Tree.walk?]
      cases b with
      | false => exact ihl h
      | true => exact ihr h

theorem takes_readSymbol {t : Tree} {f : Fault} {s : Nat} {code : List Bool} (h : t.walk? code = some (some s, []))
    (rest : List Bool) : Takes (readSymbol t f) s (code ++ rest) rest [] := by
  unfold readSymbol
  refine .get fun p hp => ?_
  rw [hp, walk?_append h]
  exact fun q _ => ⟨_, rfl, rfl, (List.append_nil _).symm⟩

theorem takes_readExtra {table : List (Nat × Nat)} {symbol least extra v : Nat} {f : Fault} {bits rest : List Bool}
    (ht : table[symbol]? = some (least, extra)) (h : splitBits? extra bits = some (v, rest)) :
    Takes (readExtra table symbol f) (least + v) bits rest [] := by
  unfold readExtra
  rw [ht]
  exact .bind_nil (takes_readBits h) (.pure _ _)

/-! ## Repetition -/

/-- The first bytes of a unit that goes on and on. -/
def cycled : Nat → Bytes → Bytes
  | 0, _ => []
  | _ + 1, [] => []
  | n + 1, b :: unit => b :: cycled n (unit ++ [b])

theorem leads_copyBack (n : Nat) {unit : Bytes} (hne : unit ≠ []) (bits : List Bool) (before : Bytes) :
    Leads (copyBack unit.length n) bits (before ++ unit) (.ok ()) bits (before ++ unit ++ cycled n unit) := by
  induction n generalizing before unit with
  | zero =>
    rw [cycled, List.append_nil]
    exact fun p hp hb => ⟨p, rfl, hp, hb⟩
  | succ n ih =>
    obtain ⟨b, unit, rfl⟩ := List.exists_cons_of_ne_nil hne
    -- the byte written is the first of the unit, which then goes on with the next
    have hbyte : ∀ p : Progress, p.bytes = before ++ b :: unit → ∃ w : Written, w.byte = b ∧
        (if p.written.size < (b :: unit).length then none else p.written[p.written.size - (b :: unit).length]?) = some w := by
      intro p hb
      have hsize : p.written.size = before.length + (b :: unit).length := by
        rw [← Array.length_toList, ← List.length_append, ← hb, Progress.bytes, List.length_map]
      have hget : (p.bytes)[before.length]? = some b := by
        rw [hb, List.getElem?_append_right (Nat.le_refl _), Nat.sub_self]
        rfl
      rw [Progress.bytes, List.getElem?_map, Option.map_eq_some_iff] at hget
      obtain ⟨w, hw, hwb⟩ := hget
      refine ⟨w, hwb, ?_⟩
      rw [if_neg (by omega), hsize, Nat.add_sub_cancel, ← Array.getElem?_toList, hw]
    have hwrite : Leads (write b) bits (before ++ b :: unit) (.ok ()) bits (before ++ b :: unit ++ [b]) :=
      (Takes.push b (·.taken) (·.taken) bits).leads _
    have hrest := @ih (unit ++ [b]) (by simp) (before ++ [b])
    have hturned : before ++ [b] ++ (unit ++ [b]) = before ++ b :: unit ++ [b] := by simp
    have hlength : (unit ++ [b]).length = (b :: unit).length := by simp
    have hafter : before ++ b :: unit ++ b :: cycled n (unit ++ [b]) = before ++ b :: unit ++ [b] ++ cycled n (unit ++ [b]) :=
      List.append_cons _ _ _
    rw [hturned, hlength] at hrest
    rw [cycled, hafter]
    unfold copyBack
    refine .get fun p _ hb => ?_
    obtain ⟨w, rfl, hw⟩ := hbyte p hb
    dsimp only
    rw [hw]
    exact .bind hwrite hrest

/-! ## The fixed code -/

def literalTree : Tree := Tree.ofLengths fixedLiterals

def distanceTree : Tree := Tree.ofLengths fixedDistances

/-- A word of a code: the bits of a number, the highest first. -/
def word (bits n : Nat) : List Bool := ((List.range bits).map (n.testBit ·)).reverse

/-- The word of a symbol in the fixed code for literals and lengths. -/
def literalWord (symbol : Nat) : List Bool :=
  if symbol < 144 then word 8 (0x30 + symbol)
  else if symbol < 256 then word 9 (0x190 + (symbol - 144))
  else if symbol < 280 then word 7 (symbol - 256)
  else word 8 (0xC0 + (symbol - 280))

/-- The words of that code in canonical order, each with its length. -/
def literalWords : List (Nat × Nat) :=
  (List.range' 256 24).map (7, ·) ++ (List.range 144).map (8, ·) ++ (List.range' 280 8).map (8, ·) ++
    (List.range' 144 112).map (9, ·)

set_option maxRecDepth 20000 in
theorem canonicalWords_fixedLiterals : canonicalWords fixedLiterals = literalWords := by cbv

set_option maxRecDepth 20000 in
theorem canonicalWords_fixedDistances : canonicalWords fixedDistances = (List.range 32).map (5, ·) := by cbv

theorem walk?_literalWord : ∀ symbol < 288, literalTree.walk? (literalWord symbol) = some (some symbol, []) := by
  rw [literalTree, Tree.ofLengths, canonicalWords_fixedLiterals]
  decide +kernel

theorem walk?_distanceWord : ∀ symbol < 32, distanceTree.walk? (word 5 symbol) = some (some symbol, []) := by
  rw [distanceTree, Tree.ofLengths, canonicalWords_fixedDistances]
  decide +kernel

/-! ## A block of repetitions -/

/-- Four bytes after which the remainder of the check is what it was. -/
def unit : Bytes := [157, 10, 217, 109]

def repeated (n : Nat) : Bytes := (List.replicate n unit).flatten

theorem repeated_add (m n : Nat) : repeated (m + n) = repeated m ++ repeated n := by
  rw [repeated, ← List.replicate_append_replicate, List.flatten_append, repeated, repeated]

theorem length_repeated (n : Nat) : (repeated n).length = 4 * n := by
  rw [repeated, List.length_flatten, List.map_replicate, List.sum_replicate_nat, unit, Nat.mul_comm]
  rfl

theorem take_repeated (m n : Nat) : (repeated (m + n)).take (4 * m) = repeated m := by
  rw [repeated_add]
  exact List.take_left' (length_repeated m)

theorem check_repeated (n : Nat) : Crc32.check (repeated n) = 0 := by
  have hfold : (repeated n).foldl Crc32.byte (~~~0) = ~~~0 := by
    induction n with
    | zero => rfl
    | succ n ih =>
      have hunit : unit.foldl Crc32.byte (~~~0) = ~~~0 := by decide +kernel
      rw [repeated_add, List.foldl_append, ih]
      exact hunit
  rw [Crc32.check, Crc32.resume, hfold]
  rfl

/-- A repetition of 256 bytes, from four bytes before. -/
def copyBits : List Bool := literalWord 284 ++ [true, false, true, true, true] ++ word 5 3

section Symbols

variable {steps : Nat} {bits rest : List Bool} {before after : Bytes} {result : Except Halt Unit}

theorem leads_literal {symbol : Nat} (hs : symbol < 256)
    (hnext : Leads (readSymbols literalTree distanceTree steps) bits (before ++ [UInt8.ofNat symbol]) result rest after) :
    Leads (readSymbols literalTree distanceTree (steps + 1)) (literalWord symbol ++ bits) before result rest after := by
  unfold readSymbols
  refine (takes_readSymbol (walk?_literalWord symbol (by omega)) bits).leads_bind ?_
  rw [if_neg (by omega), if_pos hs]
  exact ((Takes.push _ (·.taken) (·.taken) bits).leads _).bind hnext

theorem leads_end : Leads (readSymbols literalTree distanceTree (steps + 1)) (literalWord 256 ++ bits) before (.ok ()) bits before := by
  unfold readSymbols
  refine (takes_readSymbol (walk?_literalWord 256 (by decide)) bits).leads_bind ?_
  rw [if_pos rfl]
  exact fun p hp hb => ⟨p, rfl, hp, hb⟩

/-- There is a word in the code for which there is no length. -/
theorem leads_bad : Leads (readSymbols literalTree distanceTree (steps + 1)) (literalWord 286 ++ bits) before
    (.error (.faulty .badLiteral)) bits before := by
  unfold readSymbols
  refine (takes_readSymbol (walk?_literalWord 286 (by decide)) bits).leads_bind ?_
  exact .bind_error (.throw _)

theorem leads_copy {m : Nat}
    (hnext : Leads (readSymbols literalTree distanceTree steps) bits (repeated (m + 1 + 64)) result rest after) :
    Leads (readSymbols literalTree distanceTree (steps + 1)) (copyBits ++ bits) (repeated (m + 1)) result rest after := by
  have hcopy := leads_copyBack 256 (show unit ≠ [] by decide) bits (repeated m)
  have hcycled : cycled 256 unit = repeated 64 := by decide +kernel
  have hunit : unit = repeated 1 := rfl
  rw [hcycled, hunit, ← repeated_add, ← repeated_add] at hcopy
  unfold readSymbols
  rw [copyBits, List.append_assoc, List.append_assoc]
  refine (takes_readSymbol (walk?_literalWord 284 (by decide)) _).leads_bind ?_
  rw [if_neg (by decide), if_neg (by decide)]
  refine (takes_readExtra (show lengthTable[27]? = some (227, 5) from rfl) rfl).leads_bind ?_
  refine (takes_readSymbol (walk?_distanceWord 3 (by decide)) _).leads_bind ?_
  refine (takes_readExtra (show distanceTable[3]? = some (4, 0) from rfl) rfl).leads_bind ?_
  exact hcopy.bind hnext

theorem leads_copies (k : Nat) {m : Nat}
    (hnext : Leads (readSymbols literalTree distanceTree steps) bits (repeated (m + 1 + 64 * k)) result rest after) :
    Leads (readSymbols literalTree distanceTree (steps + k)) ((List.replicate k copyBits).flatten ++ bits)
      (repeated (m + 1)) result rest after := by
  induction k generalizing m with
  | zero => exact hnext
  | succ k ih =>
    rw [List.replicate_succ, List.flatten_cons, List.append_assoc, ← Nat.add_assoc]
    refine leads_copy (@ih (m + 64) ?_)
    rwa [show m + 64 + 1 + 64 * k = m + 1 + 64 * (k + 1) by omega]

/-- The words of the unit, and repetitions of it, from the start of a block. -/
theorem leads_start (k : Nat)
    (hnext : ∀ steps, Leads (readSymbols literalTree distanceTree (steps + 1)) bits (repeated (1 + 64 * k)) result rest after) :
    Leads (MonadState.get >>= fun p => readSymbols literalTree distanceTree (p.bits.length + 1))
      (unit.flatMap (literalWord ·.toNat) ++ ((List.replicate k copyBits).flatten ++ bits)) [] result rest after := by
  refine .get fun p hp _ => ?_
  have hlength : k ≤ (List.replicate k copyBits).flatten.length := by
    rw [List.length_flatten, List.map_replicate, List.sum_replicate_nat]
    exact Nat.le_mul_of_pos_right k (by decide)
  have hwords : (unit.flatMap (literalWord ·.toNat)).length = 34 := by decide
  obtain ⟨more, hmore⟩ : ∃ more, p.bits.length + 1 = more + 1 + k + 4 := by
    refine ⟨p.bits.length - k - 4, ?_⟩
    rw [hp, List.length_append, List.length_append, hwords]
    omega
  have hcopies := leads_copies k (hnext more)
  rw [hmore]
  exact leads_literal (show 157 < 256 by decide) <| leads_literal (show 10 < 256 by decide) <|
    leads_literal (show 217 < 256 by decide) <| leads_literal (show 109 < 256 by decide) hcopies

end Symbols

/-- The bits that say that a block is the last, and in the fixed code. -/
def blockHeader : List Bool := [true, true, false]

/-- The bytes of such a block, whose last repetition ends in the bytes given. -/
def expanding (n : Nat) (last : Bytes) : Bytes :=
  [155, 203, 117, 51, 119] ++ (List.replicate n [164, 227, 145, 142, 71, 58, 30, 233, 120]).flatten ++ last

theorem length_expanding (n : Nat) (last : Bytes) : (expanding n last).length = 9 * n + last.length + 5 := by
  rw [expanding, List.length_append, List.length_append, List.length_flatten, List.map_replicate, List.sum_replicate_nat]
  simp only [List.length_cons, List.length_nil]
  omega

/-- Nine bytes hold four repetitions, the first of which starts before them. -/
theorem bitsOf_expanding (n : Nat) {last : Bytes} {bits : List Bool} (h : copyBits.take 3 ++ bitsOf last = copyBits ++ bits) :
    bitsOf (expanding n last) = blockHeader ++ (unit.flatMap (literalWord ·.toNat) ++
      ((List.replicate (4 * n + 1) copyBits).flatten ++ bits)) := by
  have hfirst : bitsOf [155, 203, 117, 51, 119] = blockHeader ++ (unit.flatMap (literalWord ·.toNat) ++ copyBits.take 3) := by
    decide +kernel
  have hfour : bitsOf [164, 227, 145, 142, 71, 58, 30, 233, 120] =
      copyBits.drop 3 ++ (copyBits ++ (copyBits ++ (copyBits ++ copyBits.take 3))) := by decide +kernel
  have hcopies : copyBits.take 3 ++ (bitsOf (List.replicate n [164, 227, 145, 142, 71, 58, 30, 233, 120]).flatten ++ bitsOf last) =
      (List.replicate (4 * n + 1) copyBits).flatten ++ bits := by
    induction n with
    | zero =>
      have hnil : bitsOf [] = [] := rfl
      simpa [hnil] using h
    | succ n ih =>
      rw [List.replicate_succ, List.flatten_cons, bitsOf_append, hfour]
      simp only [List.append_assoc]
      rw [ih, ← List.append_assoc (copyBits.take 3), List.take_append_drop, show 4 * (n + 1) + 1 = 4 * n + 1 + 4 by omega]
      simp only [List.replicate_succ, List.flatten_cons, List.append_assoc]
  rw [expanding, bitsOf_append, bitsOf_append, hfirst]
  simp only [List.append_assoc]
  rw [hcopies]

/-- Why a decoder with that result stops. -/
def haltOf : Except Halt Unit → Option Halt
  | .ok () => none
  | .error halt => some halt

theorem trace_of_leads {input : Bytes} {result : Except Halt Unit} {rest : List Bool} {after : Bytes}
    (h : Leads (readBlocks ((bitsOf input).length + 1)) (bitsOf input) [] result rest after) :
    (trace input).bytes = after ∧ (trace input).halt = haltOf result := by
  obtain ⟨q, hq, -, hbytes⟩ := h ⟨bitsOf input, 0, #[]⟩ rfl rfl
  rw [outcome] at hq
  unfold trace
  dsimp only
  rw [hq]
  refine ⟨hbytes, ?_⟩
  cases result <;> rfl

theorem takes_blockHeader (rest : List Bool) : Takes (readBits 3) 3 (blockHeader ++ rest) rest [] := takes_readBits rfl

section Block

variable (k : Nat) {steps : Nat} (bits : List Bool)

/-- A block that ends properly, whatever follows it. -/
theorem leads_block : Leads (readBlocks (steps + 1)) (blockHeader ++ (unit.flatMap (literalWord ·.toNat) ++
      ((List.replicate k copyBits).flatten ++ (literalWord 256 ++ bits)))) []
    (.ok ()) (bits.drop (bits.length % 8)) (repeated (1 + 64 * k)) := by
  have halign := (takes_alignToByte bits).leads (repeated (1 + 64 * k))
  rw [List.append_nil] at halign
  unfold readBlocks
  refine (takes_blockHeader _).leads_bind ?_
  exact .bind (leads_start k fun steps => leads_end) halign

/-- A block with a word in it that stands for nothing. -/
theorem leads_badBlock : Leads (readBlocks (steps + 1)) (blockHeader ++ (unit.flatMap (literalWord ·.toNat) ++
      ((List.replicate k copyBits).flatten ++ (literalWord 286 ++ bits)))) []
    (.error (.faulty .badLiteral)) bits (repeated (1 + 64 * k)) := by
  unfold readBlocks
  refine (takes_blockHeader _).leads_bind ?_
  exact .bind_error (leads_start k fun steps => leads_bad)

end Block

/-- Such data decode to the unit again and again. -/
theorem trace_expanding (n : Nat) (more : Bytes) :
    (trace (expanding n [164, 99, 0] ++ more)).bytes = repeated (65 + 256 * n) ∧
      (trace (expanding n [164, 99, 0] ++ more)).halt = none := by
  have hlast : copyBits.take 3 ++ bitsOf [164, 99, 0] = copyBits ++ (literalWord 256 ++ [false, false]) := by decide +kernel
  have hbits : bitsOf (expanding n [164, 99, 0] ++ more) = blockHeader ++ (unit.flatMap (literalWord ·.toNat) ++
      ((List.replicate (4 * n + 1) copyBits).flatten ++ (literalWord 256 ++ ([false, false] ++ bitsOf more)))) := by
    rw [bitsOf_append, bitsOf_expanding n hlast]
    simp only [List.append_assoc]
  have hblock := @leads_block (4 * n + 1) (bitsOf (expanding n [164, 99, 0] ++ more)).length ([false, false] ++ bitsOf more)
  rw [← hbits, show 1 + 64 * (4 * n + 1) = 65 + 256 * n by omega] at hblock
  exact trace_of_leads hblock

/-- They may have a fault behind all of it. -/
theorem trace_expanding_bad (n : Nat) :
    (trace (expanding n [164, 227, 49])).bytes = repeated (65 + 256 * n) ∧
      (trace (expanding n [164, 227, 49])).halt = some (.faulty .badLiteral) := by
  have hlast : copyBits.take 3 ++ bitsOf [164, 227, 49] = copyBits ++ (literalWord 286 ++ [false]) := by decide +kernel
  have hblock := @leads_badBlock (4 * n + 1) (bitsOf (expanding n [164, 227, 49])).length [false]
  rw [← bitsOf_expanding n hlast, show 1 + 64 * (4 * n + 1) = 65 + 256 * n by omega] at hblock
  exact trace_of_leads hblock

end ApkReport.Deflate
