/-
What an operation comes to in a session, and the session that it leaves behind: one
equation for each way of building an operation. Notes are the only trace that most
operations leave, so a session is mostly described as an earlier one with more events
(`Session.append`).
-/
import ApkReport.Session

namespace ApkReport

/-- The session with more events. -/
def Session.append (s : Session) (more : List Event) : Session := { s with events := s.events ++ more }

/-- The session with other files. -/
def Session.withFiles (s : Session) (files : FileSystem) : Session := { s with files }

/-- The events that a note leaves in a session that logs at a level. -/
def noted (threshold : Int) (component : Component) (level : Int) (text : String) (cause : Option Failure := none) :
    List Event :=
  if (if threshold = 0 then Journal.warning else threshold) ≤ level then [.note component level text cause] else []

/-- Whether a note leaves an event is up to its level alone. -/
theorem noted_eq (threshold : Int) (component : Component) (level : Int) :
    (∀ text cause, noted threshold component level text cause = [.note component level text cause]) ∨
      ∀ text cause, noted threshold component level text cause = [] := by
  by_cases h : (if threshold = 0 then Journal.warning else threshold) ≤ level
  · exact .inl fun _ _ => if_pos h
  · exact .inr fun _ _ => if_neg h

namespace Session

variable (s : Session) (more : List Event) (fs : FileSystem)

@[simp] theorem append_files : (s.append more).files = s.files := rfl
@[simp] theorem append_tempRoot : (s.append more).tempRoot = s.tempRoot := rfl
@[simp] theorem append_serial : (s.append more).serial = s.serial := rfl
@[simp] theorem append_level : (s.append more).level = s.level := rfl
@[simp] theorem append_output : (s.append more).output = s.output := rfl
@[simp] theorem append_events : (s.append more).events = s.events ++ more := rfl
@[simp] theorem append_nil : s.append [] = s := by simp [append]

@[simp] theorem append_append (last : List Event) : (s.append more).append last = s.append (more ++ last) := by
  simp [append]

@[simp] theorem withFiles_files : (s.withFiles fs).files = fs := rfl
@[simp] theorem withFiles_tempRoot : (s.withFiles fs).tempRoot = s.tempRoot := rfl
@[simp] theorem withFiles_serial : (s.withFiles fs).serial = s.serial := rfl
@[simp] theorem withFiles_level : (s.withFiles fs).level = s.level := rfl
@[simp] theorem withFiles_output : (s.withFiles fs).output = s.output := rfl
@[simp] theorem withFiles_events : (s.withFiles fs).events = s.events := rfl
@[simp] theorem withFiles_self : s.withFiles s.files = s := rfl
@[simp] theorem withFiles_withFiles (last : FileSystem) : (s.withFiles fs).withFiles last = s.withFiles last := rfl

theorem append_withFiles : (s.append more).withFiles fs = (s.withFiles fs).append more := rfl

end Session

/-! ## Outcomes -/

theorem bind_eq_ok_iff {ε α β : Type} {x : Except ε α} {f : α → Except ε β} {b : β} :
    (x >>= f) = .ok b ↔ ∃ a, x = .ok a ∧ f a = .ok b := by
  cases x <;> simp [bind, Except.bind]

theorem mapError_eq_ok_iff {ε ε' α : Type} {x : Except ε α} {f : ε → ε'} {a : α} : x.mapError f = .ok a ↔ x = .ok a := by
  cases x with
  | error e => exact ⟨fun h => (by cases h), fun h => (by cases h)⟩
  | ok b => exact ⟨fun h => (by cases h; rfl), fun h => (by cases h; rfl)⟩

/-- An outcome that is a value with some property, as it can be decided. -/
theorem exists_ok {ε α : Type} {x : Except ε α} {p : α → Bool} (h : x.toOption.any p) : ∃ a, x = .ok a ∧ p a := by
  cases x with
  | error e => simp [Except.toOption] at h
  | ok a => exact ⟨a, rfl, by simpa [Except.toOption] using h⟩

/-! ## Operations -/

namespace Run

variable {α β : Type}

/-- What an operation comes to in a session, and the session after it. -/
def on (x : Run α) (s : Session) : Except Failure α × Session := x.run.run s

variable (s : Session)

@[simp] theorem on_pure (a : α) : (pure a : Run α).on s = (.ok a, s) := rfl

@[simp] theorem on_throw (f : Failure) : (throw f : Run α).on s = (.error f, s) := rfl

theorem on_bind (x : Run α) (k : α → Run β) :
    (x >>= k).on s = match x.on s with | (.ok a, t) => (k a).on t | (.error f, t) => (.error f, t) := by
  change (ExceptT.bindCont k (x.on s).1) (x.on s).2 = _
  rcases x.on s with ⟨_ | _, t⟩ <;> rfl

/-- An operation that succeeds hands its value and its session on. -/
theorem on_bind_ok {x : Run α} {s t : Session} {a : α} (h : x.on s = (.ok a, t)) (k : α → Run β) :
    (x >>= k).on s = (k a).on t := by
  rw [on_bind, h]

/-- An operation that fails ends the whole. -/
theorem on_bind_error {x : Run α} {s t : Session} {f : Failure} (h : x.on s = (.error f, t)) (k : α → Run β) :
    (x >>= k).on s = (.error f, t) := by
  rw [on_bind, h]

/-- What succeeds as a whole succeeds step by step. -/
theorem on_bind_eq_ok {x : Run α} {k : α → Run β} {s u : Session} {b : β} :
    (x >>= k).on s = (.ok b, u) ↔ ∃ a t, x.on s = (.ok a, t) ∧ (k a).on t = (.ok b, u) := by
  rw [on_bind]
  rcases x.on s with ⟨f | a, t⟩
  · simp
  · constructor
    · exact fun h => ⟨a, t, rfl, h⟩
    · rintro ⟨_, _, hx, hk⟩
      cases hx
      exact hk

@[simp] theorem on_get : (get : Run Session).on s = (.ok s, s) := rfl

@[simp] theorem on_modify (g : Session → Session) : (modify g : Run Unit).on s = (.ok (), g s) := rfl

@[simp] theorem on_setFiles (fs : FileSystem) : (setFiles fs).on s = (.ok (), s.withFiles fs) := rfl

@[simp] theorem on_complain (text : String) : (complain text).on s = (.ok (), s.append [.line text]) := rfl

@[simp] theorem on_print (text : String) : (print text).on s = (.ok (), { s with output := s.output ++ text }) := rfl

@[simp] theorem on_note (component : Component) (level : Int) (text : String) (cause : Option Failure) :
    (note component level text cause).on s = (.ok (), s.append (noted s.level component level text cause)) := by
  rw [note, on_modify, noted]
  by_cases h : (if s.level = 0 then Journal.warning else s.level) ≤ level
  · simp only [h, if_true]; rfl
  · simp only [h, if_false, Session.append_nil]

@[simp] theorem on_ofExcept (x : Except Failure α) : (ofExcept x).on s = (x, s) := by
  cases x <;> rfl

@[simp] theorem on_lift (x : Except Failure α) : (liftM x : Run α).on s = (x, s) := by
  cases x <;> rfl

@[simp] theorem on_attempt (x : Run α) : (attempt x).on s = (.ok (x.on s).1, (x.on s).2) := rfl

theorem on_ite (c : Prop) [Decidable c] (x y : Run α) :
    (if c then x else y).on s = if c then x.on s else y.on s := by
  split <;> rfl

end Run

end ApkReport
