/-
Two operations side by side. They are coupled if in sessions that stand in some relation
they add related events and nothing else, and come to related values or to failures of one
kind. Their texts need not be equal, only related part by part: an operation that is told
another path says the same about it.
-/
import ApkReport.Proofs.Session.Run
import Mathlib.Data.List.Forall2

namespace ApkReport

/-! ## Relations -/

/-- A relation of texts that holds of equal texts, and part by part. -/
structure Textual (T : String → String → Prop) : Prop where
  refl : ∀ a, T a a
  append : ∀ {a b c d}, T a b → T c d → T (a ++ c) (b ++ d)

theorem Textual.around {T : String → String → Prop} (hT : Textual T) {a b : String} (h : T a b) (before after : String) :
    T (before ++ a ++ after) (before ++ b ++ after) :=
  hT.append (hT.append (hT.refl before) h) (hT.refl after)

/-- Failures of one kind with related messages. -/
def Failure.Alike (T : String → String → Prop) (e f : Failure) : Prop := e.kind = f.kind ∧ T e.message f.message

/-- Records of the log with related texts. -/
inductive Event.Alike (T : String → String → Prop) : Event → Event → Prop
  | note {component : Component} {level : Int} {a b : String} : T a b →
    Alike T (.note component level a none) (.note component level b none)
  | told {component : Component} {level : Int} {a b : String} {e f : Failure} : T a b → Failure.Alike T e f →
    Alike T (.note component level a (some e)) (.note component level b (some f))

/-- Related values, or failures of one kind with related messages. -/
inductive Outcome.Alike (T : String → String → Prop) {α β : Type} (V : α → β → Prop) :
    Except Failure α → Except Failure β → Prop
  | ok {a : α} {b : β} : V a b → Alike T V (.ok a) (.ok b)
  | error {e f : Failure} : Failure.Alike T e f → Alike T V (.error e) (.error f)

/-- A relation of sessions that log at one level, which events do not break. -/
structure Steady (P : Session → Session → Prop) : Prop where
  level : ∀ {s t}, P s t → s.level = t.level
  append : ∀ {s t} more last, P s t → P (s.append more) (t.append last)

variable {T : String → String → Prop} {P : Session → Session → Prop} {α β γ δ : Type}

theorem Failure.Alike.refl (hT : Textual T) (e : Failure) : Failure.Alike T e e := ⟨rfl, hT.refl _⟩

theorem Outcome.Alike.refl (hT : Textual T) (x : Except Failure α) : Outcome.Alike T (· = ·) x x := by
  cases x with
  | ok a => exact .ok rfl
  | error e => exact .error (.refl hT e)

theorem Outcome.Alike.imp {V W : α → β → Prop} (h : ∀ a b, V a b → W a b) {x : Except Failure α} {y : Except Failure β}
    (hx : Outcome.Alike T V x y) : Outcome.Alike T W x y := by
  cases hx with
  | ok hv => exact .ok (h _ _ hv)
  | error he => exact .error he

/-- Equal values are the same result, and failures are none. -/
theorem Outcome.Alike.toOption_eq {x y : Except Failure α} (h : Outcome.Alike T (· = ·) x y) : x.toOption = y.toOption := by
  cases h with
  | ok hv => rw [hv]
  | error _ => rfl

theorem noted_alike {threshold : Int} {component : Component} {level : Int} {a b : String} (h : T a b) :
    List.Forall₂ (Event.Alike T) (noted threshold component level a) (noted threshold component level b) := by
  rcases noted_eq threshold component level with hn | hn
  · rw [hn, hn]
    exact .cons (.note h) .nil
  · rw [hn, hn]
    exact .nil

/-- So it is with notes that tell failures. -/
theorem noted_told_alike {threshold : Int} {component : Component} {level : Int} {a b : String} {e f : Failure} (h : T a b)
    (hf : Failure.Alike T e f) :
    List.Forall₂ (Event.Alike T) (noted threshold component level a (some e)) (noted threshold component level b (some f)) := by
  rcases noted_eq threshold component level with hn | hn
  · rw [hn, hn]
    exact .cons (.told h hf) .nil
  · rw [hn, hn]
    exact .nil

/-! ## Coupled operations -/

/-- The operations add related events, nothing else, and come to related outcomes. -/
def Coupled (P : Session → Session → Prop) (T : String → String → Prop) (V : α → β → Prop) (x : Run α) (y : Run β) : Prop :=
  ∀ s t, P s t → ∃ more more', (x.on s).2 = s.append more ∧ (y.on t).2 = t.append more' ∧
    List.Forall₂ (Event.Alike T) more more' ∧ Outcome.Alike T V (x.on s).1 (y.on t).1

namespace Coupled

/-- An operation that is coupled with itself leaves the files as they are. -/
theorem files {V : α → α → Prop} {x : Run α} (h : Coupled P T V x x) {s : Session} (hs : P s s) :
    (x.on s).2.files = s.files := by
  obtain ⟨more, _, hm, -⟩ := h s s hs
  rw [hm, Session.append_files]

theorem outcome {V : α → β → Prop} {x : Run α} {y : Run β} (h : Coupled P T V x y) {s t : Session} (hst : P s t) :
    Outcome.Alike T V (x.on s).1 (y.on t).1 := by
  obtain ⟨_, _, -, -, -, hout⟩ := h s t hst
  exact hout

theorem pure {V : α → β → Prop} {a : α} {b : β} (h : V a b) : Coupled P T V (Pure.pure a) (Pure.pure b) :=
  fun s t _ => ⟨[], [], s.append_nil.symm, t.append_nil.symm, .nil, .ok h⟩

theorem throw {V : α → β → Prop} {e f : Failure} (h : Failure.Alike T e f) :
    Coupled P T V (MonadExcept.throw e) (MonadExcept.throw f) :=
  fun s t _ => ⟨[], [], s.append_nil.symm, t.append_nil.symm, .nil, .error h⟩

theorem lift {V : α → β → Prop} {x : Except Failure α} {y : Except Failure β} (h : Outcome.Alike T V x y) :
    Coupled P T V (liftM x : Run α) (liftM y : Run β) := by
  intro s t _
  refine ⟨[], [], ?_, ?_, .nil, ?_⟩
  · rw [Run.on_lift, Session.append_nil]
  · rw [Run.on_lift, Session.append_nil]
  · rw [Run.on_lift, Run.on_lift]
    exact h

theorem note (hP : Steady P) {component : Component} {level : Int} {a b : String} (h : T a b) :
    Coupled P T (fun _ _ => True) (Run.note component level a) (Run.note component level b) := by
  intro s t hst
  refine ⟨_, _, congrArg Prod.snd (Run.on_note s component level a none), congrArg Prod.snd (Run.on_note t component level b none),
    ?_, ?_⟩
  · rw [hP.level hst]
    exact noted_alike h
  · rw [Run.on_note, Run.on_note]
    exact .ok trivial

theorem bind (hP : Steady P) {V : α → β → Prop} {W : γ → δ → Prop} {x : Run α} {y : Run β} {k : α → Run γ} {l : β → Run δ}
    (hx : Coupled P T V x y) (hk : ∀ a b, V a b → Coupled P T W (k a) (l b)) : Coupled P T W (x >>= k) (y >>= l) := by
  intro s t hst
  obtain ⟨more, more', hs, ht, hevents, hout⟩ := hx s t hst
  rw [Run.on_bind, Run.on_bind]
  rcases hxs : x.on s with ⟨e | a, s'⟩ <;> rcases hyt : y.on t with ⟨f | b, t'⟩ <;>
    rw [hxs] at hs hout <;> rw [hyt] at ht hout <;> cases hout
  case error.error he => exact ⟨more, more', hs, ht, hevents, .error he⟩
  case ok.ok hv =>
    obtain ⟨last, last', hs', ht', hlast, hout⟩ := hk a b hv _ _ (hP.append more more' hst)
    dsimp only at hs ht
    subst hs ht
    refine ⟨more ++ last, more' ++ last', ?_, ?_, List.rel_append hevents hlast, hout⟩
    · rw [hs', Session.append_append]
    · rw [ht', Session.append_append]

end Coupled

end ApkReport
