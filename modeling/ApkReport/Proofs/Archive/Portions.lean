/-
Reading a stream in portions. Every read hands out the front of what is left of the content, as long
as it was asked for or to the end (`Given`), and none fails if the data are sound. That everything
can be read at once says so of data that are all there (`isSound_of_readAll`), so then the portions
are those of the content.
-/
import ApkReport.Bundle.Extraction
import ApkReport.Proofs.Archive.Decoding
import ApkReport.Proofs.Bytes

namespace ApkReport

namespace Archive.Stream

variable {s₀ s : Stream} {y z : Bytes}

/-! ## Loops of steps -/

theorem After.keep (h : After s₀ y s) (ahead : Bytes) : After s₀ y { s with ahead } :=
  ⟨⟨h.regular.fed, h.regular.data, h.regular.written, h.regular.unread⟩, h.coding, h.data, h.compressedSize, h.crc, h.left,
    h.running, h.front, h.going, h.ended⟩

/-- What holds of a stream once some bytes of it were handed out: what else it has yielded is kept. -/
def Given (s₀ : Stream) (z : Bytes) (s : Stream) : Prop := After s₀ (z ++ s.ahead) s

/-- The stream has nothing more to hand out. -/
def IsSpent (s : Stream) : Prop := s.ended = true ∧ s.ahead = []

/-- A stream that keeps nothing has handed out everything it has yielded. -/
theorem After.given (h : After s₀ z s) (ha : s.ahead = []) : Given s₀ (z ++ []) s := by
  rw [Given, ha, List.append_nil, List.append_nil]
  exact h

/-- Of what a stream has yielded, a front is handed out and the rest is kept. -/
theorem After.split (h : After s₀ (z ++ y) s) (n : Nat) : Given s₀ (z ++ y.take n) { s with ahead := y.drop n } := by
  rw [Given, List.append_assoc, List.take_append_drop]
  exact h.keep _

theorem IsFresh.given (h : s.IsFresh) : Given s [] s := by
  rw [Given, h.ahead]
  exact h.after

theorem Given.front (h : Given s₀ z s) : z <+: s₀.content :=
  (List.prefix_append z s.ahead).trans (After.front h)

theorem append_ahead_of_isSpent (hs : s.IsSpent) : z ++ s.ahead = z := by rw [hs.2, List.append_nil]

/-- What was handed out in all has the right check, -/
theorem Given.check (h : Given s₀ z s) (hs : s.IsSpent) : Crc32.check z = s₀.crc := by
  obtain ⟨-, hcrc, -⟩ := After.ended h hs.1
  rwa [After.running h, append_ahead_of_isSpent hs] at hcrc

/-- and is the content, if nothing is held back. -/
theorem Given.complete (h : Given s₀ z s) (hs : s.IsSpent) (hn : s₀.HoldsNothing) : z = s₀.content := by
  have hcontent := (After.ended h hs.1).1 hn
  rwa [append_ahead_of_isSpent hs] at hcontent

theorem ended_of_due (h : s.due ≤ 0) : s.ended = true := by
  unfold due at h
  split at h
  · assumption
  · omega

theorem due_le_maxSteps (s : Stream) : s.due ≤ s.maxSteps := by
  unfold due maxSteps
  split <;> omega

/-- Some bytes were handed out, no more than `n`, and no less unless that is all. -/
def Hands (s₀ : Stream) (z : Bytes) (n : Nat) (c : Bytes) (s : Stream) : Prop :=
  Given s₀ (z ++ c) s ∧ c.length ≤ n ∧ (c.length = n ∨ s.IsSpent)

theorem fill_gives (steps : Nat) {n : Nat} (h : After s₀ z s) (ha : s.ahead = []) (hsteps : s.due ≤ steps) :
    Gives (s.fill n steps) (Hands s₀ z n) (¬ s₀.IsSound) := by
  induction steps generalizing s z n with
  | zero => exact ⟨h.given ha, Nat.zero_le _, .inr ⟨ended_of_due hsteps, ha⟩⟩
  | succ steps ih =>
    unfold fill
    cases he : s.ended with
    | true => exact ⟨h.given ha, Nat.zero_le _, .inr ⟨he, ha⟩⟩
    | false =>
      by_cases hn : n = 0
      · rw [if_pos (by simp [hn])]
        exact ⟨h.given ha, Nat.zero_le _, .inl hn.symm⟩
      · rw [if_neg (by simp [hn])]
        refine (step_gives h he (Nat.pos_of_ne_zero hn)).bind ?_
        rintro chunk t ⟨ht, hahead, hdue⟩
        dsimp only
        by_cases hmany : n < chunk.length
        · rw [if_pos hmany]
          have hlength := List.length_take_of_le (Nat.le_of_lt hmany)
          exact ⟨ht.split n, Nat.le_of_eq hlength, .inl hlength⟩
        · rw [if_neg hmany]
          have hkept : t.ahead = [] := hahead.trans ha
          refine (ih ht hkept (by omega)).bind ?_
          rintro more u ⟨hu, hle, hlength⟩
          dsimp only
          have hboth : (chunk ++ more).length = chunk.length + more.length := List.length_append
          rw [List.append_assoc] at hu
          exact ⟨hu, by omega, hlength.imp_left fun _ => by omega⟩

theorem drain_gives (steps : Nat) (h : After s₀ z s) (ha : s.ahead = []) (hsteps : s.due ≤ steps) :
    Gives (s.drain steps) (fun c t => Given s₀ (z ++ c) t ∧ t.IsSpent) (¬ s₀.IsSound) := by
  induction steps generalizing s z with
  | zero => exact ⟨h.given ha, ended_of_due hsteps, ha⟩
  | succ steps ih =>
    unfold drain
    cases he : s.ended with
    | true => exact ⟨h.given ha, he, ha⟩
    | false =>
      refine (step_gives h he (by decide)).bind ?_
      rintro chunk t ⟨ht, hahead, hdue⟩
      have hkept : t.ahead = [] := hahead.trans ha
      refine (ih ht hkept (by omega)).bind ?_
      rintro more u ⟨hu, hspent⟩
      rw [List.append_assoc] at hu
      exact ⟨hu, hspent⟩

/-! ## Reads -/

theorem read_gives (h : Given s₀ z s) (n : Nat) : Gives (s.read n) (Hands s₀ z n) (¬ s₀.IsSound) := by
  unfold read
  by_cases hfew : n < s.ahead.length
  · rw [if_pos hfew]
    have hlength := List.length_take_of_le (Nat.le_of_lt hfew)
    exact ⟨After.split h n, Nat.le_of_eq hlength, .inl hlength⟩
  · rw [if_neg hfew]
    refine (fill_gives _ (After.keep h []) rfl (due_le_maxSteps { s with ahead := [] })).bind ?_
    rintro more t ⟨ht, hle, hlength⟩
    have hboth : (s.ahead ++ more).length = s.ahead.length + more.length := List.length_append
    rw [List.append_assoc] at ht
    exact ⟨ht, by omega, hlength.imp_left fun _ => by omega⟩

theorem readAll_gives (h : Given s₀ z s) :
    Gives s.readAll (fun c t => Given s₀ (z ++ c) t ∧ t.IsSpent) (¬ s₀.IsSound) := by
  unfold readAll
  refine (drain_gives _ (After.keep h []) rfl (due_le_maxSteps { s with ahead := [] })).bind ?_
  rintro rest t ⟨ht, hspent⟩
  rw [List.append_assoc] at ht
  exact ⟨ht, hspent⟩

/-- What a read asks for: a number of bytes, or everything if the number is negative. -/
def answer (s : Stream) (size : Int) : Except EntryFault (Bytes × Stream) :=
  if size < 0 then s.readAll else s.read size.toNat

/-- What a sequence of reads is answered. -/
def answers : Stream → List Int → Except EntryFault (List Bytes)
  | _, [] => .ok []
  | s, size :: sizes => do
    let (chunk, s) ← s.answer size
    return chunk :: (← s.answers sizes)

end Archive.Stream

/-- The next portions of a byte string, each of a size; a negative size stands for the rest. -/
def Bytes.portions (b : Bytes) : List Int → List Bytes
  | [] => []
  | size :: sizes =>
    let n := if size < 0 then b.length else size.toNat
    b.take n :: portions (b.drop n) sizes

namespace Archive.Stream

variable {s₀ s : Stream} {z : Bytes}

/-- The bytes handed out are the next ones of the content. -/
theorem Hands.eq_take {n : Nat} {c : Bytes} (h : Hands s₀ z n c s) (hn : s₀.HoldsNothing) :
    c = (s₀.content.drop z.length).take n := by
  obtain ⟨hgiven, hle, hlength⟩ := h
  obtain ⟨rest, hrest⟩ := hgiven.front
  rw [← hrest, List.append_assoc, List.drop_left' rfl]
  rcases hlength with rfl | hspent
  · exact (List.take_left' rfl).symm
  · have hnone : rest = [] := by
      rw [← hgiven.complete hspent hn] at hrest
      exact List.append_right_eq_self.1 hrest
    rw [hnone, List.append_nil, List.take_of_length_le hle]

/-- What is left to hand out. -/
theorem drop_of_eq_take {c : Bytes} {n : Nat} (hc : c = (s₀.content.drop z.length).take n) :
    s₀.content.drop (z ++ c).length = (s₀.content.drop z.length).drop n := by
  rw [List.length_append, ← List.drop_drop, hc, List.length_take, ← List.drop_eq_drop_min]

/-- One read: the next bytes, unless something is wrong with the data. -/
theorem answer_gives (h : Given s₀ z s) (hn : s₀.HoldsNothing) (size : Int) :
    Gives (s.answer size) (fun c t => Given s₀ (z ++ c) t ∧
      c = (s₀.content.drop z.length).take (if size < 0 then (s₀.content.drop z.length).length else size.toNat))
      (¬ s₀.IsSound) := by
  unfold answer
  by_cases hall : size < 0
  · rw [if_pos hall, if_pos hall]
    refine (readAll_gives h).imp ?_ id
    rintro c t ⟨hgiven, hspent⟩
    refine ⟨hgiven, ?_⟩
    rw [List.take_length, ← hgiven.complete hspent hn, List.drop_left' rfl]
  · rw [if_neg hall, if_neg hall]
    exact (read_gives h _).imp (fun c t hc => ⟨hc.1, hc.eq_take hn⟩) id

/-- A sequence of reads: the next portions, unless something is wrong with the data. -/
theorem answers_spec (h : Given s₀ z s) (hn : s₀.HoldsNothing) (sizes : List Int) :
    match s.answers sizes with
    | .ok chunks => chunks = Bytes.portions (s₀.content.drop z.length) sizes
    | .error _ => ¬ s₀.IsSound := by
  induction sizes generalizing s z with
  | nil => rfl
  | cons size sizes ih =>
    have hgives := answer_gives h hn size
    rw [answers, Bytes.portions]
    cases ha : s.answer size with
    | error f => exact hgives.of_error ha
    | ok x =>
      obtain ⟨c, t⟩ := x
      obtain ⟨ht, hc⟩ := hgives.of_ok ha
      have hrest := ih ht
      rw [drop_of_eq_take hc] at hrest
      cases hanswers : t.answers sizes with
      | error f =>
        rw [hanswers] at hrest
        simpa only [bind, Except.bind, hanswers] using hrest
      | ok chunks =>
        rw [hanswers] at hrest
        simp only [bind, Except.bind, hanswers, ← hc]
        exact congrArg (c :: ·) hrest

/-! ## Copies -/

/-- A copy ends with the right check, and with the whole content if nothing is held back, unless something is wrong with
the data. -/
theorem copyStream_spec (steps : Nat) (h : Given s₀ z s) (hsteps : s₀.left < z.length + steps) :
    match copyStream steps s with
    | (bytes, none) => z ++ bytes <+: s₀.content ∧ (s₀.HoldsNothing → z ++ bytes = s₀.content) ∧
        Crc32.check (z ++ bytes) = s₀.crc
    | (_, some _) => ¬ s₀.IsSound := by
  induction steps generalizing s z with
  | zero =>
    have hle := h.front.length_le
    rw [content, List.length_take] at hle
    omega
  | succ steps ih =>
    have hgives := read_gives h copySize
    unfold copyStream
    cases hr : s.read copySize with
    | error f => exact hgives.of_error hr
    | ok x =>
      obtain ⟨c, t⟩ := x
      obtain ⟨ht, -, hlength⟩ := hgives.of_ok hr
      cases c with
      | nil =>
        have hspent := hlength.resolve_left (by decide)
        exact ⟨ht.front, ht.complete hspent, ht.check hspent⟩
      | cons b c =>
        have hmore := ih ht (by rw [List.length_append, List.length_cons]; omega)
        dsimp only
        generalize copyStream steps t = copy at hmore
        obtain ⟨rest, _ | f⟩ := copy
        · dsimp only at hmore ⊢
          rwa [← List.append_assoc]
        · exact hmore

/-! ## Reading everything at once -/

/-- The data are all there, as far as they are read: stored data always, and others if they are as long as the directory
says, hold nothing back and no fault that reading them at once does not get to. -/
def IsWhole (s : Stream) : Prop :=
  s.coding = .stored ∨
    s.data.length = s.compressedSize ∧ s.HoldsNothing ∧ s.coding.IsSafe s.data s.compressedSize

/-- Data that end before they start cannot be fed. -/
theorem feed_of_endsEarly {s : Stream} (h : s.EndsEarly) (n : Nat) : s.feed n = .error .dataEnd := by
  obtain ⟨hfed, hless⟩ := h
  have hnone : s.promised ≠ 0 := by
    rw [promised]
    omega
  have hempty : ∀ size, s.data.slice s.fed size = [] := fun size => by
    rw [Bytes.slice, hfed, List.drop_length, List.take_nil]
  unfold feed
  rw [if_neg hnone]
  dsimp only
  rw [hempty]
  rfl

/-- A stream that keeps nothing is not changed by giving up what it keeps. -/
theorem setAhead_nil {s : Stream} (ha : s.ahead = []) : ({ s with ahead := [] } : Stream) = s := by
  rw [← ha]

theorem maxSteps_eq_succ (s : Stream) : s.maxSteps = 2 * s.data.length + s.left + 1 + 1 := rfl

theorem produce_of_readAll {s : Stream} {x : Bytes × Stream} (h : s.IsFresh) (hr : s.readAll = .ok x) :
    ∃ x, s.produce maxStep = .ok x := by
  unfold readAll at hr
  rw [setAhead_nil h.ahead, maxSteps_eq_succ, drain, h.ended] at hr
  unfold step at hr
  rw [h.ended] at hr
  cases hp : s.produce maxStep with
  | error f =>
    have hn : maxStep ≠ 0 := by decide
    simp [hp, hn, bind, Except.bind] at hr
  | ok x => exact ⟨x, rfl⟩

/-- With room for more than what is before a fault, the fault is met. -/
theorem decode_of_meets {s : Stream} {t : Deflate.Trace} {n : Nat} {f : Deflate.Fault} (hf : t.Meets s.fed f)
    (hroom : (t.reached s.fed).length < s.written + max n minStep) : ∃ f, s.decode t n = .error f := by
  have hspec := t.position_spec s.fed (s.written + max n minStep)
  unfold decode
  dsimp only
  cases hposition : t.position s.fed (s.written + max n minStep) with
  | broken f => exact ⟨_, rfl⟩
  | finished =>
    rw [hposition] at hspec
    exact absurd hf (hspec.2.2 f)
  | starved =>
    rw [hposition] at hspec
    exact absurd hf (hspec.2 f)
  | full unread =>
    rw [hposition] at hspec
    dsimp only at hspec
    omega

/-- A first step is fed everything at once, as far as it asks for it. -/
theorem feed_fresh {s : Stream} (h : s.IsFresh) {n : Nat} (hn : minStep ≤ n) (hsome : s.data = [] → s.compressedSize = 0) :
    s.feed n = .ok (s.data.take n, { s with fed := min n s.data.length }) := by
  have hdata := h.data
  have hpromised : s.promised = s.compressedSize := by rw [promised, h.fed, Nat.sub_zero]
  unfold feed
  rw [hpromised, Nat.max_eq_left hn]
  by_cases hempty : s.compressedSize = 0
  · have hnil : s.data = [] := List.length_eq_zero_iff.1 (by omega)
    have hfed : min n s.data.length = s.fed := by rw [h.fed, hnil, List.length_nil, Nat.min_zero]
    have hnone : s.data.take n = [] := by rw [hnil, List.take_nil]
    rw [hfed, hnone, if_pos hempty]
  · have hchunk : s.data.slice s.fed (min n s.compressedSize) = s.data.take n := by
      rw [h.fed, Bytes.slice, List.drop_zero, ← List.take_take, List.take_of_length_le hdata]
    have hne : s.data.take n ≠ [] := by
      have := minStep_pos
      rw [ne_eq, List.take_eq_nil_iff]
      exact fun he => he.elim (by omega) fun hnil => hempty (hsome hnil)
    rw [if_neg hempty]
    dsimp only
    rw [hchunk, if_neg (by simpa using hne), h.fed, Nat.zero_add, List.length_take]

section FirstStep

variable {s : Stream} (h : s.IsFresh) (hw : s.data.length = s.compressedSize) {x : Bytes × Stream}
  (hp : s.produce maxStep = .ok x)
include h hw

theorem feed_maxStep : s.feed maxStep = .ok (s.data.take maxStep, { s with fed := min maxStep s.data.length }) :=
  feed_fresh h (by decide) fun he => by rw [← hw, he, List.length_nil]

include hp

/-- Data that a first step decodes have no fault, unless they go beyond it. -/
theorem not_meets_of_produce {t : Deflate.Trace} (hc : s.coding = .deflated t) (hsize : s.compressedSize ≤ maxStep)
    (hroom : t.bytes.length < maxStep) (f : Deflate.Fault) : ¬ t.Meets s.data.length f := by
  intro hf
  have hunread : s.unread < maxStep := by rw [h.unread]; decide
  have hfed : min maxStep s.data.length = s.data.length := Nat.min_eq_right (by omega)
  unfold produce at hp
  rw [hc] at hp
  dsimp only at hp
  rw [if_pos hunread, h.unread, Nat.sub_zero, feed_maxStep h hw, hfed] at hp
  dsimp only [bind, Except.bind] at hp
  have hless : (t.reached s.data.length).length < s.written + max maxStep minStep := by
    have hle := @Deflate.Trace.length_reached_le t s.data.length
    have hmax : maxStep ≤ max maxStep minStep := Nat.le_max_left _ _
    rw [Deflate.Trace.bytes, List.length_map] at hroom
    omega
  obtain ⟨g, hg⟩ := @decode_of_meets { s with fed := s.data.length } t maxStep f hf hless
  exact nomatch hp.symm.trans hg

/-- Nor have data that a first step decodes as far as it can. -/
theorem not_broken_of_produce {Fault : Type} {y : Expansion Fault} {faultOf : Fault → EntryFault} (upTo : Stream → Nat)
    (he : s.produce maxStep = s.feed maxStep >>= fun (_, u) => u.expand y faultOf (upTo u))
    (hsize : s.compressedSize ≤ maxStep)
    (hupTo : (y.reached s.data.length).length ≤ upTo { s with fed := s.data.length }) (f : Fault) :
    y.position s.data.length ≠ .broken f := by
  intro hf
  have hfed : min maxStep s.data.length = s.data.length := Nat.min_eq_right (by omega)
  rw [he, feed_maxStep h hw, hfed] at hp
  dsimp only [bind, Except.bind, expand] at hp
  rw [if_neg (by omega), hf] at hp
  exact nomatch hp

theorem accepts_of_produce (hwhole : s.IsWhole) : s.coding.Accepts s.data := by
  rcases hwhole with hs | ⟨-, hholds, hsafe⟩
  · rw [hs]
    trivial
  · cases hc : s.coding with
    | stored => trivial
    | deflated t =>
      rw [hc] at hsafe
      rcases hsafe with hnone | ⟨hsize, hroom⟩
      · exact fun f hf => hnone f hf.halt
      · exact not_meets_of_produce h hw hp hc hsize hroom
    | bzip2 y =>
      rw [hc] at hsafe
      refine hsafe.elim id fun hsize => not_broken_of_produce h hw hp (·.blockRoom y) (produce_of_bzip2 hc maxStep) hsize ?_
      -- what is fed in the first step is all data, and nothing of them is held back
      have hroom := Bzip2.le_room ((y.reached (s.data.length - 1)).length - s.written)
      rw [hholds y hc, blockRoom]
      dsimp only
      omega
    | lzma y =>
      rw [hc] at hsafe
      refine hsafe.elim id fun hsize => ?_
      exact not_broken_of_produce h hw hp (fun u => (y.reached u.fed).length) (produce_of_lzma hc maxStep) hsize (Nat.le_refl _)

end FirstStep

/-- Stored data of which something can be read do not end before the content does. -/
theorem stored_of_readAll {s t : Stream} {p : Bytes} (h : s.IsFresh) (hs : s.coding = .stored)
    (hr : s.readAll = .ok (p, t)) : s.data.length = s.compressedSize ∨ s.data ≠ [] ∧ s.left ≤ s.data.length := by
  obtain ⟨hgiven, hspent⟩ := (readAll_gives h.given).of_ok hr
  have hcontent := hgiven.complete hspent (holdsNothing_of_coding (hs ▸ nofun))
  have hafter : After s p t := by rwa [Given, hspent.2, List.append_nil] at hgiven
  by_cases hw : s.data.length = s.compressedSize
  · exact .inl hw
  · have hdata := h.data
    refine .inr ⟨fun hempty => ?_, ?_⟩
    · -- nothing could be fed then
      have hnone : s.EndsEarly := ⟨by rw [h.fed, hempty]; rfl, by omega⟩
      obtain ⟨x, hx⟩ := produce_of_readAll h hr
      unfold produce at hx
      rw [hs, feed_of_endsEarly hnone] at hx
      exact nomatch hx
    · have hleft := hafter.left
      have hnone : t.left = 0 := by
        have hend := (hafter.ended hspent.1).2.2 (hafter.coding.trans hs)
        rw [hafter.data, hafter.compressedSize] at hend
        exact hend.resolve_right hw
      rw [List.nil_append] at hcontent
      have hlength : p.length ≤ s.data.length := by
        rw [hcontent, content, decoded, hs, Coding.reach, List.take_length, List.length_take]
        exact Nat.min_le_right _ _
      omega

/-- What is read at once has the right check, and is the content if nothing is held back. -/
theorem of_readAll {s t : Stream} {p : Bytes} (h : s.IsFresh) (hr : s.readAll = .ok (p, t)) :
    (s.HoldsNothing → p = s.content) ∧ Crc32.check p = s.crc := by
  obtain ⟨hgiven, hspent⟩ := (readAll_gives h.given).of_ok hr
  exact ⟨hgiven.complete hspent, hgiven.check hspent⟩

theorem IsWhole.holdsNothing {s : Stream} (h : s.IsWhole) : s.HoldsNothing :=
  h.elim (fun hs => holdsNothing_of_coding (hs ▸ nofun)) fun hw => hw.2.1

/-- Where everything can be read at once, and the data are all there, they are sound. -/
theorem isSound_of_readAll {s t : Stream} {p : Bytes} (h : s.IsFresh) (hwhole : s.IsWhole) (hr : s.readAll = .ok (p, t)) :
    s.IsSound := by
  obtain ⟨hcontent, hcheck⟩ := of_readAll h hr
  refine ⟨?_, ?_, hwhole.holdsNothing, hcontent hwhole.holdsNothing ▸ hcheck⟩
  · rcases hwhole with hs | ⟨hw, -⟩
    · exact (stored_of_readAll h hs hr).imp_right fun hstored => ⟨hs, hstored⟩
    · exact .inl hw
  · by_cases hs : s.coding = .stored
    · rw [hs]
      trivial
    · obtain ⟨x, hx⟩ := produce_of_readAll h hr
      exact accepts_of_produce h (hwhole.resolve_left hs).1 hx hwhole

section Whole

variable {s t : Stream} {p : Bytes} (h : s.IsFresh) (hr : s.readAll = .ok (p, t))
include h hr

/-- Reads in portions, if they do not fail, are answered with the portions of what is read at once, -/
theorem eq_portions_of_readAll (hn : s.HoldsNothing) {sizes : List Int} {chunks : List Bytes}
    (ha : s.answers sizes = .ok chunks) : chunks = Bytes.portions p sizes := by
  have hspec := answers_spec h.given hn sizes
  rwa [ha, List.length_nil, List.drop_zero, ← (of_readAll h hr).1 hn] at hspec

/-- and they do not fail if the data are all there. -/
theorem answers_of_readAll (hwhole : s.IsWhole) (sizes : List Int) : s.answers sizes = .ok (Bytes.portions p sizes) := by
  cases ha : s.answers sizes with
  | error f =>
    have hspec := answers_spec h.given hwhole.holdsNothing sizes
    rw [ha] at hspec
    exact absurd (isSound_of_readAll h hwhole hr) hspec
  | ok chunks => rw [eq_portions_of_readAll h hr hwhole.holdsNothing ha]

/-- The same goes for a copy. -/
theorem eq_of_copyStream (hn : s.HoldsNothing) {bytes : Bytes} (hc : copyStream (s.left + 1) s = (bytes, none)) :
    bytes = p := by
  have hcopy := copyStream_spec (s.left + 1) h.given (by rw [List.length_nil]; omega)
  rw [hc] at hcopy
  rw [(of_readAll h hr).1 hn]
  exact hcopy.2.1 hn

theorem copyStream_of_readAll (hwhole : s.IsWhole) : copyStream (s.left + 1) s = (p, none) := by
  rcases hc : copyStream (s.left + 1) s with ⟨bytes, _ | f⟩
  · rw [eq_of_copyStream h hr hwhole.holdsNothing hc]
  · have hcopy := copyStream_spec (s.left + 1) h.given (by rw [List.length_nil]; omega)
    rw [hc] at hcopy
    exact absurd (isSound_of_readAll h hwhole hr) hcopy

end Whole

/-- Whatever the data are, a copy that ends well is not longer than the size, and has the right check. -/
theorem check_of_copyStream {s : Stream} {bytes : Bytes} (h : s.IsFresh) (hc : copyStream (s.left + 1) s = (bytes, none)) :
    bytes.length ≤ s.left ∧ Crc32.check bytes = s.crc := by
  have hcopy := copyStream_spec (s.left + 1) h.given (by rw [List.length_nil]; omega)
  rw [hc] at hcopy
  obtain ⟨hfront, -, hcheck⟩ := hcopy
  exact ⟨Nat.le_trans hfront.length_le (List.length_take_le _ _), hcheck⟩

end Archive.Stream

end ApkReport
