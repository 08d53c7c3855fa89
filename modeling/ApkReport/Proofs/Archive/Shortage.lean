/-
Deflated data that can be read at once and by no other way. Reading at once is over when the first
step has decoded the content (`readAll_of_first`). Reading in portions takes more steps: the second
wants more data where the directory promises some, and there are none (`read_of_cut`); and with more
room than that, the first comes to a fault behind the content (`read_of_fault`).
-/
import ApkReport.Proofs.Archive.Portions
import ApkReport.Proofs.Deflate.Progress

namespace ApkReport.Archive.Stream

open Deflate (trace)

/-! ## First steps -/

section Decode

variable {s : Stream} {n : Nat} (hw : s.written = 0) (hf : s.fed = s.data.length)

include hf in
/-- With all data at hand, everything that they decode to can be written. -/
theorem reached_fed : (trace s.data).reached s.fed = (trace s.data).written := by
  rw [hf]
  exact (Deflate.reached_trace s.data).1

include hf in
theorem length_reached_fed : ((trace s.data).reached s.fed).length = (trace s.data).bytes.length := by
  rw [reached_fed hf, Deflate.Trace.bytes, List.length_map]

include hw hf

/-- A first step decodes as much as there is room for, and perhaps more. -/
theorem decode_first (hok : (trace s.data).halt = none ∨ max n minStep < (trace s.data).bytes.length) :
    ∃ chunk written unread ended, s.decode (trace s.data) n = .ok (chunk, { s with written, unread, ended }) ∧
      (trace s.data).bytes.take (max n minStep) <+: chunk ∧ chunk <+: (trace s.data).bytes := by
  have hlength := length_reached_fed hf
  have hchunk : ∀ upTo, ((((trace s.data).reached s.fed).take upTo).drop s.written).map (·.byte) =
      (trace s.data).bytes.take upTo := by
    intro upTo
    rw [reached_fed hf, hw, List.drop_zero, List.map_take, Deflate.Trace.bytes]
  have hspec := (trace s.data).position_spec s.fed (max n minStep)
  unfold decode
  dsimp only
  simp only [hchunk]
  rw [hw, Nat.zero_add]
  cases hposition : (trace s.data).position s.fed (max n minStep) with
  | broken f =>
    rw [hposition] at hspec
    obtain ⟨hle, hmeets⟩ := hspec
    rcases hok with hnone | hmore
    · cases hnone.symm.trans hmeets.halt
    · omega
  | finished => exact ⟨_, _, _, _, rfl, List.prefix_refl _, List.take_prefix _ _⟩
  | starved => exact ⟨_, _, _, _, rfl, List.prefix_refl _, List.take_prefix _ _⟩
  | full unread =>
    dsimp only
    split
    · refine ⟨_, _, _, _, rfl, ?_, List.take_prefix _ _⟩
      rw [hlength, List.take_length]
      exact List.take_prefix _ _
    · exact ⟨_, _, _, _, rfl, List.prefix_refl _, List.take_prefix _ _⟩

/-- Where more data are promised, it decodes just as much as there is room for. -/
theorem decode_full (hmore : max n minStep < (trace s.data).bytes.length) (hpromised : s.promised ≠ 0) :
    ∃ unread ≤ s.fed, s.decode (trace s.data) n =
      .ok ((trace s.data).bytes.take (max n minStep), { s with written := max n minStep, unread, ended := false }) := by
  have hlength := length_reached_fed hf
  have hspec := (trace s.data).position_spec s.fed (max n minStep)
  unfold decode
  dsimp only
  rw [hw, Nat.zero_add]
  cases hposition : (trace s.data).position s.fed (max n minStep) with
  | broken f =>
    rw [hposition] at hspec
    exact absurd hspec.1 (by omega)
  | finished =>
    rw [hposition] at hspec
    exact absurd hspec.1 (by omega)
  | starved =>
    rw [hposition] at hspec
    exact absurd hspec.1 (by omega)
  | full unread =>
    rw [hposition] at hspec
    refine ⟨unread, hspec.1, ?_⟩
    dsimp only
    rw [if_neg fun hlast => hpromised hlast.1, List.drop_zero, List.map_take, Nat.min_eq_left (by omega), reached_fed hf,
      Deflate.Trace.bytes]

end Decode

/-! ## Reads of one step -/

section Read

variable {s : Stream} {n : Nat} (ho : s.ended = false) (ha : s.ahead = []) (hn : 0 < n)
include ho ha hn

theorem read_of_step_error {f : EntryFault} (hs : s.step n = .error f) : s.read n = .error f := by
  unfold read
  rw [setAhead_nil ha, ha, maxSteps_eq_succ, List.length_nil, Nat.sub_zero, if_neg (Nat.not_lt_zero n), fill, ho]
  simp [hs, Nat.ne_of_gt hn, bind, Except.bind]

theorem read_of_step_ok {c : Bytes} {t : Stream} (hs : s.step n = .ok (c, t)) (hc : c.length = n) : s.read n = .ok (c, t) := by
  have hrest : t.fill 0 (2 * s.data.length + s.left + 1) = .ok ([], t) := by simp [fill]
  unfold read
  rw [setAhead_nil ha, ha, maxSteps_eq_succ, List.length_nil, Nat.sub_zero, if_neg (Nat.not_lt_zero n), fill, ho]
  simp [hs, hc, hrest, Nat.ne_of_gt hn, bind, Except.bind, pure, Except.pure]

end Read

theorem answers_of_read {s t : Stream} {n : Nat} {c : Bytes} (h : s.read n = .ok (c, t)) (sizes : List Int) :
    s.answers ((n : Int) :: sizes) = (t.answers sizes).map (c :: ·) := by
  have hanswer : s.answer n = s.read n := if_neg (Int.not_lt.2 (Int.natCast_nonneg n))
  rw [answers, hanswer, h]
  rfl

theorem answers_of_read_error {s : Stream} {n : Nat} {f : EntryFault} (h : s.read n = .error f) (sizes : List Int) :
    s.answers ((n : Int) :: sizes) = .error f := by
  have hanswer : s.answer n = s.read n := if_neg (Int.not_lt.2 (Int.natCast_nonneg n))
  rw [answers, hanswer, h]
  rfl

/-! ## Reading at once -/

section Deflated

variable {s : Stream} (h : s.IsFresh) (hc : s.coding = .deflated (trace s.data)) (hne : s.data ≠ [])
include h hc hne

/-- The first step is fed all data, if it asks for so many. -/
theorem produce_first {n : Nat} (hn : s.data.length ≤ n) (hmin : minStep ≤ n) :
    s.produce n = ({ s with fed := s.data.length } : Stream).decode (trace s.data) n := by
  have hfeed := feed_fresh h hmin fun he => absurd he hne
  have hasked : n - s.unread = n := by rw [h.unread, Nat.sub_zero]
  have hunread : s.unread < n := by
    have := List.length_pos_iff.2 hne
    rw [h.unread]
    omega
  rw [Nat.min_eq_right hn] at hfeed
  unfold produce
  conv_lhs => rw [hc]
  dsimp only
  rw [if_pos hunread, hasked, hfeed]
  rfl

/-- Reading at once is over when the first step has decoded the content, whatever else the data hold. -/
theorem readAll_of_first (hlength : s.data.length ≤ maxStep) (hleft : s.left ≤ maxStep)
    (hle : s.left ≤ (trace s.data).bytes.length)
    (hok : (trace s.data).halt = none ∨ maxStep < (trace s.data).bytes.length)
    (hcrc : Crc32.check ((trace s.data).bytes.take s.left) = s.crc) :
    ∃ t, s.readAll = .ok ((trace s.data).bytes.take s.left, t) := by
  have hroom : max maxStep minStep = maxStep := by decide
  have hproduce := produce_first h hc hne hlength (by decide)
  obtain ⟨chunk, written, unread, ended, hdecode, hfront, hback⟩ :=
    @decode_first { s with fed := s.data.length } maxStep h.written rfl (hroom.symm ▸ hok)
  rw [hdecode] at hproduce
  rw [hroom] at hfront
  dsimp only at hfront hback
  have hchunk : s.left ≤ chunk.length := by
    have := hfront.length_le
    rw [List.length_take] at this
    omega
  have htake : chunk.take s.left = (trace s.data).bytes.take s.left := by
    rw [List.prefix_iff_eq_take.1 hback, List.take_take, Nat.min_eq_left hchunk]
  have hsize : ((trace s.data).bytes.take s.left).length = s.left := List.length_take_of_le hle
  have hrunning : Crc32.resume s.running ((trace s.data).bytes.take s.left) = s.crc := by
    rw [h.running]
    exact hcrc
  have hstep : ∃ t : Stream, t.ended = true ∧ s.step maxStep = .ok ((trace s.data).bytes.take s.left, t) := by
    refine ⟨{ s with fed := s.data.length, written, unread, ended := ended || true, left := 0, running := s.crc },
      Bool.or_true _, ?_⟩
    unfold step
    rw [h.ended]
    simp [hproduce, bind, Except.bind, account, htake, hsize, hrunning, show maxStep ≠ 0 by decide]
  obtain ⟨t, hended, hstep⟩ := hstep
  have hrest : t.drain (2 * s.data.length + s.left + 1) = .ok ([], t) := by
    unfold drain
    rw [hended]
    rfl
  refine ⟨t, ?_⟩
  unfold readAll
  rw [setAhead_nil h.ahead, maxSteps_eq_succ, drain, h.ended]
  simp [hstep, hrest, bind, Except.bind, h.ahead]
  rfl

/-! ## Reading in portions -/

/-- With more room than the data decode to, a fault behind them is met. -/
theorem read_of_fault {n : Nat} {f : Deflate.Fault} (hlength : s.data.length ≤ n) (hmin : minStep ≤ n)
    (hmore : (trace s.data).bytes.length < n) (hhalt : (trace s.data).halt = some (.faulty f)) :
    ∃ f, s.read n = .error f := by
  obtain ⟨hall, htaken⟩ := Deflate.reached_trace s.data
  have hmeets : (trace s.data).Meets s.data.length f := ⟨by rw [hall], htaken, hhalt⟩
  have hroom : ((trace s.data).reached s.data.length).length < s.written + max n minStep := by
    have hle := Nat.le_max_left n minStep
    rw [hall]
    rw [Deflate.Trace.bytes, List.length_map] at hmore
    omega
  obtain ⟨g, hg⟩ := @decode_of_meets { s with fed := s.data.length } _ _ _ hmeets hroom
  have hproduce := (produce_first h hc hne hlength hmin).trans hg
  have hn : 0 < n := by
    have := minStep_pos
    omega
  refine ⟨g, read_of_step_error h.ended h.ahead hn ?_⟩
  unfold step
  rw [h.ended]
  simp [hproduce, Nat.ne_of_gt hn, bind, Except.bind]

/-- Where the directory promises more data than there are, a second step wants them. -/
theorem read_of_cut {n : Nat} (hcut : s.data.length < s.compressedSize) (hlength : s.data.length < n) (hmin : minStep ≤ n)
    (hleft : n < s.left) (hmore : n < (trace s.data).bytes.length) :
    ∃ t, s.read n = .ok ((trace s.data).bytes.take n, t) ∧ t.read n = .error .dataEnd := by
  have hn : 0 < n := by omega
  have hroom : max n minStep = n := Nat.max_eq_left hmin
  have hpromised : ({ s with fed := s.data.length } : Stream).promised ≠ 0 := by
    rw [promised]
    dsimp only
    omega
  obtain ⟨unread, hunread, hdecode⟩ :=
    @decode_full { s with fed := s.data.length } n h.written rfl (by rw [hroom]; exact hmore) hpromised
  rw [hroom] at hdecode
  have hproduce := (produce_first h hc hne (Nat.le_of_lt hlength) hmin).trans hdecode
  have hchunk : ((trace s.data).bytes.take n).length = n := List.length_take_of_le (Nat.le_of_lt hmore)
  have htake : ((trace s.data).bytes.take n).take s.left = (trace s.data).bytes.take n :=
    List.take_of_length_le (by omega)
  have hleft' : s.left - n ≠ 0 := by omega
  obtain ⟨t, hstep, hended, hahead, hearly, hcoding, hasks⟩ : ∃ t : Stream, s.step n = .ok ((trace s.data).bytes.take n, t) ∧
      t.ended = false ∧ t.ahead = [] ∧ t.EndsEarly ∧ t.coding = .deflated (trace s.data) ∧ t.unread < n := by
    refine ⟨{ s with
      fed := s.data.length, written := n, unread, ended := false, left := s.left - n
      running := Crc32.resume s.running ((trace s.data).bytes.take n) }, ?_, rfl, h.ahead, ⟨rfl, hcut⟩, hc,
      Nat.lt_of_le_of_lt hunread hlength⟩
    unfold step
    rw [h.ended]
    simp [hproduce, Nat.ne_of_gt hn, bind, Except.bind, account, htake, hchunk, hleft']
  refine ⟨t, read_of_step_ok h.ended h.ahead hn hstep hchunk, read_of_step_error hended hahead hn ?_⟩
  unfold step produce
  rw [hended, hcoding]
  dsimp only
  rw [if_pos hasks, feed_of_endsEarly hearly]
  simp [Nat.ne_of_gt hn, bind, Except.bind]

/-- So a copy does not get beyond its first read. -/
theorem copyStream_of_cut (hcut : s.data.length < s.compressedSize) (hlength : s.data.length < copySize)
    (hleft : copySize < s.left) (hmore : copySize < (trace s.data).bytes.length) :
    copyStream (s.left + 1) s = ((trace s.data).bytes.take copySize, some .dataEnd) := by
  obtain ⟨t, hread, hnext⟩ := read_of_cut h hc hne hcut hlength (by decide) hleft hmore
  obtain ⟨steps, hsteps⟩ : ∃ steps, s.left = steps + 1 := ⟨s.left - 1, by omega⟩
  have hchunk : ((trace s.data).bytes.take copySize).length = copySize := List.length_take_of_le (Nat.le_of_lt hmore)
  have hrest : copyStream s.left t = ([], some .dataEnd) := by
    rw [hsteps, copyStream, hnext]
  unfold copyStream
  rw [hread]
  cases hbytes : (trace s.data).bytes.take copySize with
  | nil =>
    rw [hbytes] at hchunk
    exact absurd hchunk (by decide)
  | cons b chunk =>
    dsimp only
    rw [hrest, List.append_nil]

end Deflated

end ApkReport.Archive.Stream
