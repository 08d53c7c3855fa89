/-
One step of a stream. Whatever a step asks for, it moves the decoder on along the same data, so
what a stream has yielded is what its decoder has made of the bytes that were fed to it, cut to
the size (`After`). A step of a stream that has not ended brings it nearer to its end
(`Stream.due`), and fails only for the sake of the data, not of what was asked for (`IsSound`).
-/
import ApkReport.Archive.Stream

namespace ApkReport

/-! ## Checks -/

theorem Crc32.check_append (a b : Bytes) : Crc32.check (a ++ b) = Crc32.resume (Crc32.check a) b := by
  rw [check, check, resume, resume, resume, UInt32.not_not, List.foldl_append]

/-! ## The decoder -/

namespace Deflate.Trace

variable {t : Trace} {available more : Nat} {f : Fault}

/-- A reader of the first bytes of the input gets to the fault: it can write everything before it. -/
structure Meets (t : Trace) (available : Nat) (f : Fault) : Prop where
  written : (t.reached available).length = t.written.length
  taken : t.taken ≤ 8 * available
  halt : t.halt = some (.faulty f)

theorem reached_mono (h : available ≤ more) : t.reached available <+: t.reached more := by
  unfold reached
  induction t.written with
  | nil => exact List.prefix_refl _
  | cons w rest ih =>
    by_cases hw : w.needs ≤ 8 * available
    · have hmore : w.needs ≤ 8 * more := by omega
      simpa [hw, hmore] using ih
    · simp [hw]

theorem length_reached_le : (t.reached available).length ≤ t.written.length :=
  (List.takeWhile_prefix _).length_le

/-- Where everything is written, more input adds nothing. -/
theorem reached_of_length (hall : (t.reached available).length = t.written.length) (h : available ≤ more) :
    t.reached more = t.reached available :=
  ((reached_mono h).eq_of_length (Nat.le_antisymm (reached_mono h).length_le (hall ▸ length_reached_le))).symm

theorem Meets.mono (h : t.Meets available f) (hle : available ≤ more) : t.Meets more f where
  written := by rw [reached_of_length h.written hle, h.written]
  taken := Nat.le_trans h.taken (Nat.mul_le_mul_left 8 hle)
  halt := h.halt

/-- Where a reader stands says how much it can write, and whether it gets to a fault. -/
theorem position_spec (t : Trace) (available room : Nat) :
    match t.position available room with
    | .full unread => unread ≤ available ∧ (room < (t.reached available).length ∨
        t.Meets available .tooFarBack ∧ room = (t.reached available).length)
    | .starved => (t.reached available).length ≤ room ∧ ∀ f, ¬ t.Meets available f
    | .finished => (t.reached available).length ≤ room ∧ (t.reached available).length = t.written.length ∧
        ∀ f, ¬ t.Meets available f
    | .broken f => (t.reached available).length ≤ room ∧ t.Meets available f := by
  have hle := @length_reached_le t available
  unfold position
  cases hroom : (t.reached available)[room]? with
  | some w => exact ⟨Nat.sub_le _ _, .inl (List.getElem?_eq_some_iff.1 hroom).1⟩
  | none =>
    have hall : (t.reached available).length ≤ room := List.getElem?_eq_none_iff.1 hroom
    dsimp only
    by_cases hmore : (t.reached available).length < t.written.length ∨ 8 * available < t.taken
    · rw [if_pos hmore]
      refine ⟨hall, fun f hf => ?_⟩
      have := hf.written
      have := hf.taken
      omega
    · rw [if_neg hmore]
      have hlength : (t.reached available).length = t.written.length := by omega
      have htaken : t.taken ≤ 8 * available := by omega
      cases hhalt : t.halt with
      | none => exact ⟨hall, hlength, fun f hf => nomatch hhalt.symm.trans hf.halt⟩
      | some halt =>
        cases halt with
        | inputEnds => exact ⟨hall, fun f hf => nomatch hhalt.symm.trans hf.halt⟩
        | faulty f =>
          have hmeets : t.Meets available f := ⟨hlength, htaken, hhalt⟩
          dsimp only
          by_cases hback : f = .tooFarBack ∧ room ≤ t.written.length
          · rw [if_pos hback]
            exact ⟨Nat.sub_le _ _, .inr ⟨hback.1 ▸ hmeets, by omega⟩⟩
          · rw [if_neg hback]
            exact ⟨hall, hmeets⟩

end Deflate.Trace

/-! ## Decoders that write what they can -/

namespace Expansion

variable {Fault : Type} {x : Expansion Fault} {available more : Nat}

theorem reached_mono (h : available ≤ more) : x.reached available <+: x.reached more := by
  unfold reached
  induction x.written with
  | nil => exact List.prefix_refl _
  | cons w rest ih =>
    by_cases hw : w.needs ≤ available
    · have hmore : w.needs ≤ more := by omega
      simpa [hw, hmore] using ih
    · simp [hw]

theorem length_reached_le : (x.reached available).length ≤ x.written.length := (List.takeWhile_prefix _).length_le

/-- Where everything is written, more input adds nothing. -/
theorem reached_of_length (hall : (x.reached available).length = x.written.length) (h : available ≤ more) :
    x.reached more = x.reached available :=
  ((reached_mono h).eq_of_length (Nat.le_antisymm (reached_mono h).length_le (hall ▸ length_reached_le))).symm

/-- A reader that stands at the end or at a fault has written everything. -/
theorem length_reached_of_position (h : x.position available ≠ .starved) :
    (x.reached available).length = x.written.length := by
  have hle := @length_reached_le Fault x available
  unfold position at h
  split at h
  · exact absurd rfl h
  · omega

theorem ending_of_position {f : Fault} (h : x.position available = .broken f) : ∃ needs, x.ending = .faulty needs f := by
  unfold position at h
  split at h
  · exact nomatch h
  · split at h
    · exact nomatch h
    · split at h <;> exact nomatch h
    · rename_i needs g hending
      split at h
      · cases h
        exact ⟨needs, hending⟩
      · exact nomatch h

/-- A fault that is met is met with more input too. -/
theorem position_mono {f : Fault} (h : x.position available = .broken f) (hle : available ≤ more) :
    x.position more = .broken f := by
  have hlength : (x.reached available).length = x.written.length :=
    length_reached_of_position (h ▸ nofun)
  rw [position, if_neg (by omega)] at h
  rw [position, reached_of_length hlength hle, if_neg (by omega)]
  cases hending : x.ending with
  | cut => exact nomatch hending ▸ h
  | complete needs =>
    rw [hending] at h
    dsimp only at h
    split at h <;> exact nomatch h
  | faulty needs g =>
    rw [hending] at h
    dsimp only at h ⊢
    split at h
    · cases h
      rw [if_pos (by omega)]
    · exact nomatch h

end Expansion

theorem Bzip2.le_roomIn (written taken : Nat) (sizes : List Nat) : written ≤ roomIn written taken sizes := by
  induction sizes generalizing taken with
  | nil =>
    have hround := Nat.div_add_mod (written - taken + lastPiece - 1) lastPiece
    have hless := Nat.mod_lt (written - taken + lastPiece - 1) (show 0 < lastPiece by decide)
    rw [roomIn, Nat.mul_comm]
    omega
  | cons size sizes ih =>
    rw [roomIn]
    split
    · assumption
    · exact ih _

theorem Bzip2.le_room (written : Nat) : written ≤ room written :=
  Nat.le_trans (Nat.le_max_left _ _) (le_roomIn _ _ _)

namespace Archive

/-! ## Outcomes -/

/-- What an operation on a stream comes to: bytes and a stream of which something holds, or a failure that has a cause. -/
def Gives (x : Except EntryFault (Bytes × Stream)) (P : Bytes → Stream → Prop) (Q : Prop) : Prop :=
  match x with
  | .ok (chunk, s) => P chunk s
  | .error _ => Q

namespace Gives

variable {x : Except EntryFault (Bytes × Stream)} {P P' : Bytes → Stream → Prop} {Q Q' : Prop}

theorem bind {k : Bytes × Stream → Except EntryFault (Bytes × Stream)} (hx : Gives x P Q)
    (hk : ∀ chunk s, P chunk s → Gives (k (chunk, s)) P' Q) : Gives (x >>= k) P' Q := by
  rcases x with f | ⟨chunk, s⟩
  · exact hx
  · exact hk chunk s hx

theorem imp (hx : Gives x P Q) (hP : ∀ chunk s, P chunk s → P' chunk s) (hQ : Q → Q') : Gives x P' Q' := by
  rcases x with f | ⟨chunk, s⟩
  · exact hQ hx
  · exact hP chunk s hx

theorem of_ok {chunk : Bytes} {s : Stream} (hx : Gives x P Q) (h : x = .ok (chunk, s)) : P chunk s := by
  rw [h] at hx
  exact hx

theorem of_error {f : EntryFault} (hx : Gives x P Q) (h : x = .error f) : Q := by
  rw [h] at hx
  exact hx

end Gives

/-! ## Data -/

/-- No part of the data is refused by the decoder of the coding. -/
def Coding.Accepts (data : Bytes) : Coding → Prop
  | .stored => True
  | .deflated t => ∀ f, ¬ t.Meets data.length f
  | .bzip2 x => ∀ f, x.position data.length ≠ .broken f
  | .lzma x => ∀ f, x.position data.length ≠ .broken f

/-- The decoder of the coding finds no fault in the data, or the first step of reading them at once, which has to get to
all bytes that the directory promises, comes to it. -/
def Coding.IsSafe (data : Bytes) (promised : Nat) : Coding → Prop
  | .stored => True
  | .deflated t => (∀ f, t.halt ≠ some (.faulty f)) ∨ promised ≤ Stream.maxStep ∧ t.bytes.length < Stream.maxStep
  | .bzip2 x => (∀ f, x.position data.length ≠ .broken f) ∨ promised ≤ Stream.maxStep
  | .lzma x => (∀ f, x.position data.length ≠ .broken f) ∨ promised ≤ Stream.maxStep

/-- What the decoder of the coding can write for the first bytes of the data. -/
def Coding.reach (data : Bytes) (available : Nat) : Coding → Bytes
  | .stored => data.take available
  | .deflated t => (t.reached available).map (·.byte)
  | .bzip2 x => (x.reached available).map (·.byte)
  | .lzma x => (x.reached available).map (·.byte)

theorem Coding.reach_mono (c : Coding) (data : Bytes) {available more : Nat} (h : available ≤ more) :
    c.reach data available <+: c.reach data more := by
  cases c with
  | stored => exact List.take_prefix_take_left h
  | deflated t => exact (Deflate.Trace.reached_mono h).map _
  | bzip2 x => exact (Expansion.reached_mono h).map _
  | lzma x => exact (Expansion.reached_mono h).map _

namespace Stream

/-- What the decoder can write by now. -/
def reach (s : Stream) : Bytes := s.coding.reach s.data s.fed

/-- What the decoder makes of all data. -/
def decoded (s : Stream) : Bytes := s.coding.reach s.data s.data.length

/-- What the decoder has made of what was fed to it; stored data have none. -/
def made (s : Stream) : Bytes := if s.coding = .stored then s.reach else s.reach.take s.written

/-- The content, if nothing is wrong with the data. -/
def content (s : Stream) : Bytes := s.decoded.take s.left

/-- No sorted block takes just all the data: the decoder would hold back what there is no room for, and how much
that is depends on the blocks that it has written at the same time. -/
def HoldsNothing (s : Stream) : Prop :=
  ∀ x, s.coding = .bzip2 x → x.reached s.data.length = x.reached (s.data.length - 1)

theorem holdsNothing_of_coding {s : Stream} (h : ∀ x, s.coding ≠ .bzip2 x) : s.HoldsNothing := fun x hx => absurd hx (h x)

/-- What is fed stands in the data, what is written can be written by then, and input is left over only for want of room. -/
structure IsRegular (s : Stream) : Prop where
  fed : s.fed ≤ s.data.length
  data : s.data.length ≤ s.compressedSize
  written : s.coding ≠ .stored → s.written ≤ s.reach.length
  unread : ∀ t, s.coding = .deflated t → 0 < s.unread →
    s.written < (t.reached s.fed).length ∨ t.Meets s.fed .tooFarBack

/-- The data end behind what the content needs, hold no fault, and decode to something with the right check. -/
structure IsSound (s : Stream) : Prop where
  whole : s.data.length = s.compressedSize ∨ s.coding = .stored ∧ s.data ≠ [] ∧ s.left ≤ s.data.length
  accepted : s.coding.Accepts s.data
  settled : s.HoldsNothing
  check : Crc32.check s.content = s.crc

theorem reach_front {s : Stream} (h : s.IsRegular) : s.reach <+: s.decoded := s.coding.reach_mono s.data h.fed

theorem made_front {s : Stream} (h : s.IsRegular) : s.made <+: s.decoded := by
  unfold made
  split
  · exact reach_front h
  · exact (List.take_prefix _ _).trans (reach_front h)

theorem made_stored {s : Stream} (hc : s.coding = .stored) : s.made = s.data.take s.fed := by
  rw [made, if_pos hc, reach, hc]
  rfl

theorem made_coded {s : Stream} (hc : s.coding ≠ .stored) : s.made = s.reach.take s.written := if_neg hc

theorem reach_deflated {s : Stream} {t : Deflate.Trace} (hc : s.coding = .deflated t) :
    s.reach = (t.reached s.fed).map (·.byte) := by
  rw [reach, hc]
  rfl

/-! ## Taking data -/

theorem minStep_pos : 0 < minStep := by decide

/-- Data end early if fewer are there than the directory promises. -/
def EndsEarly (s : Stream) : Prop := s.fed = s.data.length ∧ s.data.length < s.compressedSize

theorem feed_gives {s : Stream} (h : s.IsRegular) (n : Nat) :
    Gives (s.feed n)
      (fun chunk u => ∃ fed, u = { s with fed } ∧ fed ≤ s.data.length ∧ s.data.take fed = s.data.take s.fed ++ chunk ∧
        (s.fed < fed ∧ chunk ≠ [] ∨ s.fed = fed ∧ chunk = [] ∧ s.promised = 0))
      s.EndsEarly := by
  unfold feed
  by_cases hnone : s.promised = 0
  · rw [if_pos hnone]
    exact ⟨s.fed, rfl, h.fed, (List.append_nil _).symm, .inr ⟨rfl, rfl, hnone⟩⟩
  · rw [if_neg hnone]
    dsimp only
    generalize hsize : min (max n minStep) s.promised = size
    have hpos : 0 < size := by
      have := minStep_pos
      omega
    have hlength : (s.data.slice s.fed size).length = min size (s.data.length - s.fed) := by
      rw [Bytes.slice, List.length_take, List.length_drop]
    have hfed := h.fed
    by_cases hempty : s.data.slice s.fed size = []
    · rw [if_pos (by rw [hempty]; rfl)]
      rw [hempty, List.length_nil] at hlength
      have hall : s.fed = s.data.length := by omega
      rw [promised] at hnone
      exact ⟨hall, by omega⟩
    · rw [if_neg (by simpa using hempty)]
      have hne := List.length_pos_iff.2 hempty
      refine ⟨s.fed + (s.data.slice s.fed size).length, rfl, by omega, ?_, .inl ⟨by omega, hempty⟩⟩
      rw [List.take_add, hlength]
      congr 1
      rw [Bytes.slice, ← List.length_drop, ← List.take_eq_take_min]

/-- More data for the decoder leave what it has made, and the stream regular. -/
theorem IsRegular.feed {s : Stream} (h : s.IsRegular) {fed : Nat} (hle : s.fed ≤ fed) (hfed : fed ≤ s.data.length) :
    ({ s with fed } : Stream).IsRegular where
  fed := hfed
  data := h.data
  written hc := Nat.le_trans (h.written hc) (s.coding.reach_mono s.data hle).length_le
  unread t hc hu := (h.unread t hc hu).imp
    (fun hlt => Nat.lt_of_lt_of_le hlt (Deflate.Trace.reached_mono hle).length_le) (·.mono hle)

theorem made_feed {s : Stream} (h : s.IsRegular) (hc : s.coding ≠ .stored) {fed : Nat} (hle : s.fed ≤ fed) :
    ({ s with fed } : Stream).made = s.made := by
  have hfront : s.reach <+: ({ s with fed } : Stream).reach := s.coding.reach_mono s.data hle
  rw [made_coded (s := { s with fed }) hc, made_coded hc, List.prefix_iff_eq_take.1 hfront, List.take_take,
    Nat.min_eq_left (h.written hc)]

/-- All that can be written is everything that the data decode to, once they have been fed. -/
theorem reach_eq_decoded {s : Stream} (h : s.IsRegular) (hnone : s.promised = 0) : s.reach = s.decoded := by
  have hfed := h.fed
  have hdata := h.data
  rw [promised] at hnone
  rw [reach, decoded, show s.fed = s.data.length by omega]

/-! ## Decoding -/

/-- The decoder moves on with what was fed, and has made more by what it yields. -/
structure Decodes (s : Stream) (chunk : Bytes) (u : Stream) : Prop where
  same : ∃ written unread ended, u = { s with written, unread, ended }
  regular : u.IsRegular
  made : u.made = s.made ++ chunk
  ended : u.ended = true → s.HoldsNothing → u.made = u.decoded

theorem drop_take_ne_nil {b : Bytes} {start upTo : Nat} (h : start < min upTo b.length) : (b.take upTo).drop start ≠ [] := by
  intro hnil
  have hlength := congrArg List.length hnil
  rw [List.length_drop, List.length_take, List.length_nil] at hlength
  omega

/-- Decoding up to some point yields what is new there. -/
theorem decodes_to {s : Stream} (h : s.IsRegular) (hc : s.coding ≠ .stored) {upTo unread : Nat} {ended : Bool}
    (hfrom : s.written ≤ min upTo s.reach.length)
    (hunread : ∀ t, s.coding = .deflated t → 0 < unread →
      min upTo s.reach.length < (t.reached s.fed).length ∨ t.Meets s.fed .tooFarBack)
    (hended : ended = true → s.HoldsNothing → s.reach.length ≤ upTo ∧ s.reach = s.decoded) :
    Decodes s ((s.reach.take upTo).drop s.written) { s with written := min upTo s.reach.length, unread, ended } := by
  have hmade : ({ s with written := min upTo s.reach.length, unread, ended } : Stream).made = s.reach.take upTo := by
    rw [List.take_eq_take_min]
    exact made_coded hc
  have hbefore : s.made = (s.reach.take upTo).take s.written := by
    rw [made_coded hc, List.take_take, Nat.min_eq_left (by omega)]
  refine ⟨⟨_, _, _, rfl⟩, ⟨h.fed, h.data, fun _ => Nat.min_le_right _ _, hunread⟩, ?_, fun he hs => ?_⟩
  · rw [hmade, hbefore, List.take_append_drop]
  · obtain ⟨hall, hend⟩ := hended he hs
    rw [hmade, List.take_of_length_le hall, hend]
    rfl

section Deflated

variable {s : Stream} (h : s.IsRegular) {t : Deflate.Trace} (hc : s.coding = .deflated t)
include h hc

/-- Once nothing is left to write, all that can be written is everything that the data decode to. -/
theorem reach_of_length (hlength : (t.reached s.fed).length = t.written.length) : s.reach = s.decoded := by
  rw [decoded, reach_deflated hc, hc, Coding.reach, Deflate.Trace.reached_of_length hlength h.fed]

/-- A decoder that has to do with more data, or with what it has left unread, yields something. -/
theorem decode_gives (n : Nat) :
    Gives (s.decode t n)
      (fun chunk u => Decodes s chunk u ∧ (u.ended = false → s.promised = 0 ∨ 0 < s.unread → chunk ≠ []))
      (∃ f, t.Meets s.fed f) := by
  have hcoded : s.coding ≠ .stored := hc ▸ nofun
  have hreach : s.reach.length = (t.reached s.fed).length := by rw [reach_deflated hc, List.length_map]
  have hchunk : ∀ upTo, (((t.reached s.fed).take upTo).drop s.written).map (·.byte) = (s.reach.take upTo).drop s.written :=
    fun upTo => by rw [reach_deflated hc, List.map_drop, List.map_take]
  have hwritten := h.written hcoded
  have hroom : s.written < s.written + max n minStep := by
    have := minStep_pos
    omega
  have hspec := t.position_spec s.fed (s.written + max n minStep)
  unfold decode
  simp only [hchunk]
  simp only [← hreach] at hspec ⊢
  generalize s.written + max n minStep = room at hroom hspec
  cases hposition : t.position s.fed room with
  | broken f =>
    rw [hposition] at hspec
    exact ⟨f, hspec.2⟩
  | finished =>
    rw [hposition] at hspec
    obtain ⟨hle, hall, -⟩ := hspec
    exact ⟨decodes_to h hcoded (by omega) nofun fun _ _ => ⟨hle, reach_of_length h hc (hreach ▸ hall)⟩, nofun⟩
  | starved =>
    rw [hposition] at hspec
    obtain ⟨hle, hmeets⟩ := hspec
    refine ⟨decodes_to h hcoded (by omega) nofun fun he _ => ⟨hle, reach_eq_decoded h (of_decide_eq_true he)⟩, fun he hs => ?_⟩
    have hpromised : s.promised ≠ 0 := of_decide_eq_false he
    rcases h.unread t hc (hs.resolve_left hpromised) with hlt | hmeet
    · exact drop_take_ne_nil (by omega)
    · exact absurd hmeet (hmeets _)
  | full unread =>
    rw [hposition] at hspec
    dsimp only
    have hle : room ≤ s.reach.length := by
      rcases hspec.2 with hlt | ⟨-, heq⟩
      · exact Nat.le_of_lt hlt
      · exact Nat.le_of_eq heq
    by_cases hlast : s.promised = 0 ∧ unread = 0
    · -- nothing is left to read, so everything that can be written is yielded at once
      rw [if_pos hlast]
      exact ⟨decodes_to h hcoded (by omega) nofun fun _ _ => ⟨Nat.le_refl _, reach_eq_decoded h hlast.1⟩, nofun⟩
    · rw [if_neg hlast]
      refine ⟨decodes_to h hcoded (by omega) (fun t' hc' _ => ?_) nofun, fun _ _ => drop_take_ne_nil (by omega)⟩
      cases hc.symm.trans hc'
      exact hspec.2.imp (fun hlt => by omega) And.left

end Deflated

/-! ## Decoding as much as can be written -/

/-- What the stream can write, and everything that the data decode to, are what the record says. -/
structure Records {Fault : Type} (s : Stream) (x : Expansion Fault) : Prop where
  reach : s.reach = (x.reached s.fed).map (·.byte)
  decoded : s.decoded = (x.reached s.data.length).map (·.byte)
  isCoded : s.coding ≠ .stored
  notDeflated : ∀ t, s.coding ≠ .deflated t

theorem records_bzip2 {s : Stream} {x : Expansion Unit} (hc : s.coding = .bzip2 x) : s.Records x := by
  refine ⟨?_, ?_, hc ▸ nofun, fun t ht => nomatch hc.symm.trans ht⟩
  · rw [Stream.reach, hc]
    rfl
  · rw [Stream.decoded, hc]
    rfl

theorem records_lzma {s : Stream} {x : Expansion Lzma.Fault} (hc : s.coding = .lzma x) : s.Records x := by
  refine ⟨?_, ?_, hc ▸ nofun, fun t ht => nomatch hc.symm.trans ht⟩
  · rw [Stream.reach, hc]
    rfl
  · rw [Stream.decoded, hc]
    rfl

/-- Decoding up to some point, which in the end is behind everything if no sorted block takes just all the data. -/
theorem expand_gives {Fault : Type} {s : Stream} {x : Expansion Fault} (h : s.IsRegular) (hx : s.Records x) {upTo : Nat}
    (hfrom : s.written ≤ upTo) (faultOf : Fault → EntryFault)
    (hhold : s.promised = 0 → s.HoldsNothing → s.reach.length ≤ upTo) :
    Gives (s.expand x faultOf upTo)
      (fun chunk u => Decodes s chunk u ∧ (u.ended = false → s.promised ≠ 0))
      (∃ f, x.position s.fed = .broken f) := by
  have hreach : s.reach.length = (x.reached s.fed).length := by rw [hx.reach, List.length_map]
  have hchunk : (((x.reached s.fed).take upTo).drop s.written).map (·.byte) = (s.reach.take upTo).drop s.written := by
    rw [hx.reach, List.map_drop, List.map_take]
  have hwritten := h.written hx.isCoded
  have hdeflated : ∀ {P : Deflate.Trace → Prop}, ∀ t, s.coding = .deflated t → P t := fun t ht => absurd ht (hx.notDeflated t)
  -- what is yielded, whether that is the end or not
  have hyield : ∀ ended : Bool, (ended = true → s.HoldsNothing → s.reach.length ≤ upTo ∧ s.reach = s.decoded) →
      (ended = false → s.promised ≠ 0) →
      Decodes s ((s.reach.take upTo).drop s.written) { s with written := min upTo s.reach.length, ended } ∧
        (({ s with written := min upTo s.reach.length, ended } : Stream).ended = false → s.promised ≠ 0) :=
    fun ended hended hmore => ⟨decodes_to h hx.isCoded (by omega) hdeflated hended, hmore⟩
  have hstarved := hyield (s.promised = 0)
    (fun he hs => ⟨hhold (of_decide_eq_true he) hs, reach_eq_decoded h (of_decide_eq_true he)⟩) of_decide_eq_false
  unfold expand
  simp only [hchunk]
  simp only [← hreach]
  split
  · exact hstarved
  · rename_i hall
    cases hposition : x.position s.fed with
    | broken f => exact ⟨f, rfl⟩
    | starved => exact hstarved
    | finished =>
      refine hyield true (fun _ _ => ⟨Nat.not_lt.1 hall, ?_⟩) nofun
      have hlength := Expansion.length_reached_of_position (hposition ▸ nofun : x.position s.fed ≠ .starved)
      rw [hx.reach, hx.decoded, Expansion.reached_of_length hlength h.fed]

/-! ## Producing -/

/-- The stream moves on along its data, and has made more by what it yields. -/
structure Advances (s : Stream) (chunk : Bytes) (u : Stream) : Prop where
  same : ∃ fed unread written ended, u = { s with fed, unread, written, ended }
  regular : u.IsRegular
  fed : s.fed ≤ u.fed
  made : u.made = s.made ++ chunk
  ended : u.ended = true → (s.HoldsNothing → u.made = u.decoded) ∧ (s.coding = .stored → s.data.length = s.compressedSize)
  progress : u.ended = false → s.fed < u.fed ∨ chunk ≠ []

theorem Advances.decoded {s u : Stream} {chunk : Bytes} (h : Advances s chunk u) : u.decoded = s.decoded := by
  obtain ⟨_, _, _, _, rfl⟩ := h.same
  rfl

/-- Decoding behind a feeding is an advance. -/
theorem Decodes.advances {s u : Stream} {chunk : Bytes} {fed : Nat} (h : s.IsRegular) (hc : s.coding ≠ .stored)
    (hle : s.fed ≤ fed) (hu : Decodes { s with fed } chunk u) (hprogress : u.ended = false → s.fed < fed ∨ chunk ≠ []) :
    Advances s chunk u := by
  obtain ⟨⟨written, unread, ended, rfl⟩, hregular, hmade, hended⟩ := hu
  exact ⟨⟨_, _, _, _, rfl⟩, hregular, hle, by rw [hmade, made_feed h hc hle],
    fun he => ⟨hended he, fun hs => absurd hs hc⟩, hprogress⟩

theorem produce_stored {s : Stream} (h : s.IsRegular) (hc : s.coding = .stored) (n : Nat) :
    Gives (s.produce n) (Advances s) s.EndsEarly := by
  unfold produce
  rw [hc]
  refine (feed_gives h n).bind ?_
  rintro chunk _ ⟨fed, rfl, hfed, htake, hcases⟩
  have hle : s.fed ≤ fed := by
    rcases hcases with ⟨hlt, -⟩ | ⟨heq, -⟩
    · exact Nat.le_of_lt hlt
    · exact Nat.le_of_eq heq
  have hdata := h.data
  refine ⟨⟨_, _, _, _, rfl⟩, ⟨hfed, hdata, fun hs => absurd hc hs, fun t ht => nomatch hc.symm.trans ht⟩, hle, ?_,
    fun he => ?_, fun he => ?_⟩
  · rw [made_stored hc, ← htake]
    exact made_stored hc
  · have hpromised := of_decide_eq_true he
    rw [promised] at hpromised
    dsimp only at hpromised
    refine ⟨fun _ => ?_, fun _ => by omega⟩
    have hall : fed = s.data.length := by omega
    subst hall
    exact if_pos hc
  · refine hcases.imp And.left fun ⟨heq, _, hnone⟩ => ?_
    subst heq
    exact absurd hnone (of_decide_eq_false he)

theorem produce_deflated {s : Stream} (h : s.IsRegular) {t : Deflate.Trace} (hc : s.coding = .deflated t) {n : Nat}
    (hn : 0 < n) : Gives (s.produce n) (Advances s) (s.EndsEarly ∨ ∃ f, t.Meets s.data.length f) := by
  unfold produce
  rw [hc]
  dsimp only
  -- what follows the feeding, if any, that a step starts with
  have hdecode : ∀ fed, s.fed ≤ fed → fed ≤ s.data.length → (s.fed < fed ∨ s.promised = 0 ∨ 0 < s.unread) →
      Gives (({ s with fed } : Stream).decode t n) (Advances s) (s.EndsEarly ∨ ∃ f, t.Meets s.data.length f) := by
    intro fed hle hfed hmore
    refine (decode_gives (h.feed hle hfed) hc n).imp ?_ fun ⟨f, hf⟩ => .inr ⟨f, hf.mono hfed⟩
    rintro chunk u ⟨hu, hprogress⟩
    refine hu.advances h (hc ▸ nofun) hle fun he => ?_
    by_cases hlt : s.fed < fed
    · exact .inl hlt
    · have heq : s.fed = fed := by omega
      subst heq
      exact .inr (hprogress he (hmore.resolve_left hlt))
  by_cases hfew : s.unread < n
  · rw [if_pos hfew]
    refine ((feed_gives h (n - s.unread)).imp (fun _ _ => id) .inl).bind ?_
    rintro chunk _ ⟨fed, rfl, hfed, -, hcases⟩
    rcases hcases with ⟨hlt, -⟩ | ⟨heq, -, hnone⟩
    · exact hdecode fed (Nat.le_of_lt hlt) hfed (.inl hlt)
    · exact hdecode fed (Nat.le_of_eq heq) hfed (.inr (.inl hnone))
  · rw [if_neg hfew]
    exact hdecode s.fed (Nat.le_refl _) h.fed (.inr (.inr (by omega)))

/-- Feeding, and then decoding as much as can be written up to some point. -/
theorem produce_expansion {Fault : Type} {s : Stream} {x : Expansion Fault} (h : s.IsRegular) (hx : s.Records x)
    (hrecords : ∀ fed, ({ s with fed } : Stream).Records x) {n : Nat} (faultOf : Fault → EntryFault) (upTo : Stream → Nat)
    (hfrom : ∀ fed, let u : Stream := { s with fed }
      u.IsRegular → u.Records x → u.written ≤ upTo u ∧ (u.promised = 0 → u.HoldsNothing → u.reach.length ≤ upTo u)) :
    Gives (s.feed n >>= fun (_, u) => u.expand x faultOf (upTo u)) (Advances s)
      (s.EndsEarly ∨ ∃ f, x.position s.data.length = .broken f) := by
  refine ((feed_gives h n).imp (fun _ _ => id) .inl).bind ?_
  rintro chunk _ ⟨fed, rfl, hfed, -, hcases⟩
  have hle : s.fed ≤ fed := hcases.elim (fun hlt => Nat.le_of_lt hlt.1) fun heq => Nat.le_of_eq heq.1
  have hregular := h.feed hle hfed
  obtain ⟨hwritten, hhold⟩ := hfrom fed hregular (hrecords fed)
  refine (expand_gives hregular (hrecords fed) hwritten faultOf hhold).imp ?_
    fun ⟨f, hf⟩ => .inr ⟨f, Expansion.position_mono hf hfed⟩
  rintro chunk u ⟨hu, hmore⟩
  refine hu.advances h hx.isCoded hle fun he => hcases.imp And.left fun ⟨heq, _, hnone⟩ => ?_
  subst heq
  exact absurd hnone (hmore he)

theorem produce_of_bzip2 {s : Stream} {x : Expansion Unit} (hc : s.coding = .bzip2 x) (n : Nat) :
    s.produce n = s.feed n >>= fun (_, u) => u.expand x (fun _ => .bzip2) (u.blockRoom x) := by
  unfold produce
  rw [hc]

theorem produce_of_lzma {s : Stream} {x : Expansion Lzma.Fault} (hc : s.coding = .lzma x) (n : Nat) :
    s.produce n = s.feed n >>= fun (_, u) => u.expand x .lzma (x.reached u.fed).length := by
  unfold produce
  rw [hc]

theorem produce_bzip2 {s : Stream} (h : s.IsRegular) {x : Expansion Unit} (hc : s.coding = .bzip2 x) (n : Nat) :
    Gives (s.produce n) (Advances s) (s.EndsEarly ∨ ∃ f, x.position s.data.length = .broken f) := by
  rw [produce_of_bzip2 hc]
  refine produce_expansion h (records_bzip2 hc) (fun fed => records_bzip2 (s := { s with fed }) hc) _ (·.blockRoom x)
    fun fed hu hx => ⟨Nat.le_add_right _ _, fun hnone hs => ?_⟩
  have hlength := congrArg List.length hx.reach
  have hall : fed = s.data.length := by
    have hfed := hu.fed
    have hdata := hu.data
    rw [promised] at hnone
    dsimp only at hfed hdata hnone
    omega
  have hbefore : x.reached fed = x.reached (fed - 1) := hall ▸ hs x hc
  have hroom := Bzip2.le_room ((x.reached (fed - 1)).length - s.written)
  rw [List.length_map] at hlength
  dsimp only at hlength
  rw [hlength, blockRoom, hbefore]
  dsimp only
  omega

theorem produce_lzma {s : Stream} (h : s.IsRegular) {x : Expansion Lzma.Fault} (hc : s.coding = .lzma x) (n : Nat) :
    Gives (s.produce n) (Advances s) (s.EndsEarly ∨ ∃ f, x.position s.data.length = .broken f) := by
  rw [produce_of_lzma hc]
  refine produce_expansion h (records_lzma hc) (fun fed => records_lzma (s := { s with fed }) hc) _
    (fun u => (x.reached u.fed).length) fun fed hu hx => ?_
  have hlength := congrArg List.length hx.reach
  rw [List.length_map] at hlength
  exact ⟨hlength ▸ hu.written hx.isCoded, fun _ _ => Nat.le_of_eq hlength⟩

theorem produce_gives {s : Stream} (h : s.IsRegular) {n : Nat} (hn : 0 < n) :
    Gives (s.produce n) (Advances s) (s.EndsEarly ∨ ¬ s.coding.Accepts s.data) := by
  cases hc : s.coding with
  | stored => exact (produce_stored h hc n).imp (fun _ _ => id) .inl
  | deflated t =>
    refine (produce_deflated h hc hn).imp (fun _ _ => id) (.imp_right ?_)
    exact fun ⟨f, hf⟩ hall => hall f hf
  | bzip2 x =>
    refine (produce_bzip2 h hc n).imp (fun _ _ => id) (.imp_right ?_)
    exact fun ⟨f, hf⟩ hall => hall f hf
  | lzma x =>
    refine (produce_lzma h hc n).imp (fun _ _ => id) (.imp_right ?_)
    exact fun ⟨f, hf⟩ hall => hall f hf

/-! ## Steps -/

/-- A stream that nothing was read from. -/
structure IsFresh (s : Stream) : Prop where
  data : s.data.length ≤ s.compressedSize
  fed : s.fed = 0
  unread : s.unread = 0
  written : s.written = 0
  running : s.running = 0
  ended : s.ended = false
  ahead : s.ahead = []

/-- What holds of a stream once it has yielded some bytes: they are what the decoder has made, and in the end they are the
content. -/
structure After (s₀ : Stream) (y : Bytes) (s : Stream) : Prop where
  regular : s.IsRegular
  coding : s.coding = s₀.coding
  data : s.data = s₀.data
  compressedSize : s.compressedSize = s₀.compressedSize
  crc : s.crc = s₀.crc
  left : y.length + s.left = s₀.left
  running : s.running = Crc32.check y
  front : y <+: s₀.content
  going : s.ended = false → y = s.made ∧ (s.left = 0 → s.fed = 0)
  ended : s.ended = true → (s₀.HoldsNothing → y = s₀.content) ∧ s.running = s₀.crc ∧
    (s.coding = .stored → s.left = 0 ∨ s.data.length = s.compressedSize)

/-- How far a stream is from its end; none of its steps can be made in vain. -/
def due (s : Stream) : Nat := if s.ended then 0 else s.data.length - s.fed + s.left + 1

theorem IsFresh.after {s : Stream} (h : s.IsFresh) : After s [] s where
  regular := {
    fed := h.fed ▸ Nat.zero_le _
    data := h.data
    written := fun _ => h.written ▸ Nat.zero_le _
    unread := fun _ _ hu => absurd h.unread (Nat.ne_of_gt hu) }
  coding := rfl
  data := rfl
  compressedSize := rfl
  crc := rfl
  left := Nat.zero_add _
  running := h.running
  front := List.nil_prefix
  going _ := by
    refine ⟨?_, fun _ => h.fed⟩
    by_cases hc : s.coding = .stored
    · rw [made_stored hc, h.fed, List.take_zero]
    · rw [made_coded hc, h.written, List.take_zero]
  ended he := nomatch h.ended.symm.trans he

section Step

variable {s₀ s : Stream} {y : Bytes} (h : After s₀ y s)
include h

theorem After.decoded : s.decoded = s₀.decoded := by
  unfold Stream.decoded
  rw [h.coding, h.data]

theorem After.holdsNothing (hs : s₀.HoldsNothing) : s.HoldsNothing := by
  unfold HoldsNothing
  rw [h.coding, h.data]
  exact hs

section Account

variable {chunk : Bytes} {u : Stream} (hopen : s.ended = false) (hu : Advances s chunk u)
include hopen hu

/-- What is made next follows what was yielded, up to the size. -/
theorem After.append_take : y ++ chunk.take s.left = u.made.take s₀.left := by
  rw [hu.made, ← (h.going hopen).1, ← h.left, List.take_length_add_append]

theorem After.append_take_front : y ++ chunk.take s.left <+: s₀.content := by
  rw [h.append_take hopen hu, content, ← h.decoded, ← hu.decoded]
  exact List.prefix_take_iff.2 ⟨(List.take_prefix _ _).trans (made_front hu.regular), List.length_take_le _ _⟩

/-- At the end of the decoder, or of the size, the content is complete. -/
theorem After.append_take_of_end (hend : (u.ended = true ∧ s₀.HoldsNothing) ∨ s.left ≤ chunk.length) :
    y ++ chunk.take s.left = s₀.content := by
  rcases hend with ⟨he, hs⟩ | hall
  · rw [h.append_take hopen hu, (hu.ended he).1 (h.holdsNothing hs), hu.decoded, h.decoded]
    rfl
  · have hlength : (y ++ chunk.take s.left).length = s₀.left := by
      rw [List.length_append, List.length_take_of_le hall, h.left]
    have hfront := h.append_take_front hopen hu
    refine hfront.eq_of_length_le ?_
    rw [hlength, content]
    exact List.length_take_le _ _

theorem account_gives :
    Gives (u.account chunk) (fun c v => After s₀ (y ++ c) v ∧ v.ahead = s.ahead ∧ v.due < s.due) (¬ s₀.IsSound) := by
  have hfront := h.append_take_front hopen hu
  have hend := h.append_take_of_end hopen hu
  have hmade := hu.made
  have hleft := h.left
  have hlength : (chunk.take s.left).length = min s.left chunk.length := List.length_take
  have hrunning : Crc32.resume s.running (chunk.take s.left) = Crc32.check (y ++ chunk.take s.left) := by
    rw [Crc32.check_append, h.running]
  obtain ⟨⟨fed, unread, written, ended, rfl⟩, hregular, hfed, -, hended, hprogress⟩ := hu
  have hends : (ended || decide (s.left - (chunk.take s.left).length = 0)) = true → ended = true ∨ s.left ≤ chunk.length := by
    rw [Bool.or_eq_true, decide_eq_true_eq]
    exact Or.imp_right fun hnone => by omega
  unfold account
  dsimp only
  rw [hrunning]
  split
  case isTrue hbad =>
    -- the check of the content is wrong
    refine fun hsound => hbad.2 ?_
    rw [hend ((hends hbad.1).imp_left fun he => ⟨he, hsound.settled⟩)]
    exact hsound.check.trans h.crc.symm
  case isFalse hgood =>
    refine ⟨⟨⟨hregular.fed, h.regular.data, hregular.written, hregular.unread⟩, h.coding, h.data, h.compressedSize, h.crc,
      ?_, rfl, hfront, fun he => ?_, fun he => ?_⟩, rfl, ?_⟩
    · rw [List.length_append]
      dsimp only
      omega
    · -- the size is not reached, so nothing was cut off
      rw [Bool.or_eq_false_iff, decide_eq_false_iff_not] at he
      have hall : chunk.take s.left = chunk := List.take_of_length_le (by omega)
      rw [hall, (h.going hopen).1, ← hmade]
      exact ⟨rfl, fun hnone => absurd hnone (hall ▸ he.2)⟩
    · refine ⟨fun hs => hend ((hends he).imp_left fun he => ⟨he, hs⟩), ?_, fun hs => ?_⟩
      · rw [← h.crc]
        exact Decidable.byContradiction fun hne => hgood ⟨he, hne⟩
      · rcases hends he with he | hall
        · exact .inr ((hended he).2 hs)
        · exact .inl (by dsimp only; omega)
    · rw [due, due, hopen]
      split
      case isTrue => exact Nat.succ_pos _
      case isFalse he =>
        rw [Bool.not_eq_true, Bool.or_eq_false_iff, decide_eq_false_iff_not] at he
        have hle := hregular.fed
        dsimp only at hle hfed hprogress he ⊢
        rcases hprogress he.1 with hlt | hne
        · simp only [Bool.false_eq_true, if_false]
          omega
        · have := List.length_pos_iff.2 hne
          simp only [Bool.false_eq_true, if_false]
          omega

end Account

/-- One step of a stream that has not ended: it yields the next bytes and comes nearer to its end, unless something is
wrong with the data. -/
theorem step_gives {n : Nat} (hopen : s.ended = false) (hn : 0 < n) :
    Gives (s.step n) (fun c v => After s₀ (y ++ c) v ∧ v.ahead = s.ahead ∧ v.due < s.due) (¬ s₀.IsSound) := by
  have hgo : (s.ended || decide (n = 0)) = false := by
    rw [hopen, decide_eq_false (Nat.ne_of_gt hn)]
    rfl
  unfold step
  rw [hgo]
  refine ((produce_gives h.regular hn).imp (fun _ _ => id) ?_).bind fun chunk u hu => account_gives h hopen hu
  rintro (⟨hfed, hless⟩ | hrefused) hsound
  · -- the data are at their end, but the content is not
    have hleft := h.left
    obtain ⟨hy, hnone⟩ := h.going hopen
    rw [h.data] at hfed hless
    rw [h.compressedSize] at hless
    rcases hsound.whole with hwhole | ⟨hstored, hne, hsize⟩
    · omega
    · have hpos := List.length_pos_iff.2 hne
      have hlength : y.length = s.fed := by
        rw [hy, made_stored (h.coding.trans hstored), h.data, List.length_take]
        omega
      omega
  · rw [h.coding, h.data] at hrefused
    exact hrefused hsound.accepted

end Step

end Stream

end Archive

end ApkReport
