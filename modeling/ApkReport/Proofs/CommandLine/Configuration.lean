/-
The settings that a run is made with. Reading and overriding them leaves records of the log
and nothing else (`Yields`), and settings that come through have an output format: the text
report or the list of results, and never both. Their level is then that of the log.
-/
import ApkReport.CommandLine.Program
import ApkReport.Proofs.Session.Run

namespace ApkReport

open CommandLine

/-! ## Operations that yield -/

/-- The operation adds records of the log and nothing else, and a value that it yields has the property. -/
structure Yields {α : Type} (P : α → Prop) (x : Run α) : Prop where
  notes : ∀ s, ∃ more, (x.on s).2 = s.append more
  value : ∀ {s : Session} {a : α}, (x.on s).1 = .ok a → P a

namespace Yields

variable {α β : Type} {P : α → Prop} {Q : β → Prop}

theorem pure {a : α} (h : P a) : Yields P (Pure.pure a) where
  notes s := ⟨[], s.append_nil.symm⟩
  value he := Except.ok.inj he ▸ h

theorem throw (f : Failure) : Yields P (MonadExcept.throw f) where
  notes s := ⟨[], s.append_nil.symm⟩
  value he := nomatch he

theorem get : Yields (fun _ => True) (MonadState.get : Run Session) where
  notes s := ⟨[], s.append_nil.symm⟩
  value _ := trivial

theorem note (component : Component) (level : Int) (text : String) (cause : Option Failure) :
    Yields (fun _ => True) (Run.note component level text cause) where
  notes s := ⟨_, congrArg Prod.snd (Run.on_note s component level text cause)⟩
  value _ := trivial

theorem ofExcept {x : Except Failure α} (h : ∀ a, x = .ok a → P a) : Yields P (Run.ofExcept x) where
  notes s := ⟨[], by rw [Run.on_ofExcept, Session.append_nil]⟩
  value {s a} he := by
    rw [Run.on_ofExcept] at he
    exact h a he

theorem lift {x : Except Config.Fault α} (h : ∀ a, x = .ok a → P a) : Yields P (Config.lift x) := by
  refine .ofExcept fun a he => ?_
  cases x with
  | error f => cases he
  | ok b => exact h a (congrArg Except.ok (Except.ok.inj he))

theorem bind {x : Run α} {k : α → Run β} (hx : Yields P x) (hk : ∀ a, P a → Yields Q (k a)) : Yields Q (x >>= k) where
  notes s := by
    obtain ⟨more, hm⟩ := hx.notes s
    rw [Run.on_bind]
    rcases hon : x.on s with ⟨f | a, t⟩
    · rw [hon] at hm
      exact ⟨more, hm⟩
    · rw [hon] at hm
      obtain ⟨last, hl⟩ := (hk a (hx.value (congrArg Prod.fst hon))).notes t
      refine ⟨more ++ last, ?_⟩
      dsimp only at hm
      rw [← Session.append_append, ← hm]
      exact hl
  value {s b} he := by
    rw [Run.on_bind] at he
    rcases hon : x.on s with ⟨f | a, t⟩
    · rw [hon] at he
      cases he
    · rw [hon] at he
      exact (hk a (hx.value (congrArg Prod.fst hon))).value he

end Yields

/-! ## Output formats -/

/-- The output format is one of those that there are. -/
def Settings.IsValid (s : Settings) : Prop := ∃ format ∈ Config.outputFormats, Settings.text? s.outputFormat = some format

namespace Settings

variable {s s' : Settings}

theorem eq_of_text? {v : Value} {text : String} (h : text? v = some text) : v = .scalar (.text text) := by
  unfold text? at h
  split at h
  · rw [Option.some.inj h]
  · cases h

theorem eq_of_isNull {v : Value} (h : isNull v = true) : v = .scalar .null := by
  unfold isNull at h
  split at h
  · rfl
  · cases h

theorem checked_eq_ok : checked s = .ok s' ↔ s.IsValid ∧ s = s' := by
  unfold checked IsValid
  cases text? s.outputFormat with
  | none => simp
  | some format =>
    by_cases h : format ∈ Config.outputFormats
    · simp [h]
    · simp [h]

/-- Settings that were checked are valid. -/
theorem isValid_of_checked {x : Except Config.Fault Settings} (h : x >>= checked = .ok s) : s.IsValid := by
  cases x with
  | error f => cases h
  | ok changed =>
    obtain ⟨hv, rfl⟩ := checked_eq_ok.1 h
    exact hv

theorem isValid_of_ofValues {values : List (String × Value)} (h : ofValues values = .ok s) : s.IsValid := by
  unfold ofValues at h
  exact isValid_of_checked h

theorem isValid_of_withOverrides (hs : s.IsValid) {overrides : List (String × Value)}
    (h : s.withOverrides overrides = .ok s') : s'.IsValid := by
  unfold withOverrides at h
  dsimp only at h
  split at h
  · cases h
    exact hs
  · exact isValid_of_checked h

theorem isValid_default : ({} : Settings).IsValid := ⟨"text", by decide, rfl⟩

/-- One output format is set, and not the other. -/
theorem IsValid.writesJson_eq (h : s.IsValid) : writesJson s = !writesText s := by
  obtain ⟨format, hf, htext⟩ := h
  have hformat : format = "text" ∨ format = "json" := by simpa [Config.outputFormats] using hf
  unfold writesJson writesText
  rw [htext]
  rcases hformat with rfl | rfl
  · decide
  · decide

end Settings

/-! ## Loading -/

theorem yields_noteUnknown (keys : List Value) : Yields (fun _ => True) (Config.noteUnknown keys) := by
  induction keys with
  | nil => exact .pure trivial
  | cons key keys ih => exact .bind (.lift fun _ _ => trivial) fun _ _ => .bind (.note _ _ _ _) fun _ _ => ih

theorem isValid_of_settingsOf {marks : List (Nat × Value)} {entries : List (Value × Value)} {settings : Settings}
    (h : Config.settingsOf marks entries = .ok settings) : settings.IsValid := by
  obtain ⟨_, -, hvalues⟩ := bind_eq_ok_iff.1 h
  exact Settings.isValid_of_ofValues hvalues

/-- What holds of the defaults and of settings from entries holds of settings that are loaded. -/
theorem yields_load_of {P : Settings → Prop} (hdefault : P {})
    (hsettings : ∀ {marks entries settings}, Config.settingsOf marks entries = .ok settings → P settings)
    (reader : Config.DocumentReader) (path? : Option String) : Yields P (Config.load reader path?) := by
  unfold Config.load
  cases path? with
  | none => exact .pure hdefault
  | some path =>
    refine .bind .get fun s _ => ?_
    split
    · exact .bind (.note _ _ _ _) fun _ _ => .pure hdefault
    · refine .bind .get fun s _ => ?_
      split
      · exact .throw _
      · refine .bind (.lift fun _ _ => trivial) fun v _ => ?_
        refine .bind (.lift fun _ _ => trivial) fun found _ => ?_
        refine .bind (.lift fun _ _ => trivial) fun unknown _ => ?_
        exact .bind (yields_noteUnknown unknown) fun _ _ => .lift fun _ => hsettings

/-- Settings that are loaded are valid. -/
theorem yields_load (reader : Config.DocumentReader) (path? : Option String) :
    Yields Settings.IsValid (Config.load reader path?) :=
  yields_load_of Settings.isValid_default isValid_of_settingsOf reader path?

/-! ## Configuring -/

/-- The session with another level of its log. -/
def Session.atLevel (s : Session) (level : Int) : Session := { s with level }

/-- The level that settings name. -/
def Settings.level? (s : Settings) : Except Journal.LevelFault Journal.Level :=
  Journal.Level.ofValue Journal.Level.ofAnyName s.logLevel

theorem on_setLevel (settings : Settings) (s : Session) :
    (setLevel settings.logLevel).on s = match settings.level? with
      | .ok level => (.ok (), s.atLevel level.value)
      | .error f => (.error (.level f), s) := by
  unfold setLevel
  rw [← Settings.level?]
  cases settings.level? with
  | ok level => rfl
  | error f => rfl

/-- Reads the settings and overrides them, which is all but setting the level. -/
def readSettings (reader : Config.DocumentReader) (a : Arguments) : Run Settings := do
  let settings ← Config.load reader (← Run.ofExcept a.configPath?)
  Config.lift (settings.withOverrides a.overrides)

theorem configure_eq (reader : Config.DocumentReader) (a : Arguments) : configure reader a = (do
    let settings ← readSettings reader a
    setLevel settings.logLevel
    return settings) := by
  simp only [configure, readSettings, bind_assoc]

theorem yields_readSettings (reader : Config.DocumentReader) (a : Arguments) :
    Yields Settings.IsValid (readSettings reader a) := by
  refine .bind (.ofExcept fun _ _ => trivial) fun path? _ => ?_
  exact .bind (yields_load reader path?) fun loaded hv => .lift fun _ => Settings.isValid_of_withOverrides hv

/-- The settings that a session came to are valid, and from then on it logs at their level. But for records of the log,
nothing else is left of how it came to them. -/
structure Configured (settings : Settings) (s t : Session) : Prop where
  valid : settings.IsValid
  session : ∃ level more, settings.level? = .ok level ∧ t = (s.append more).atLevel level.value

theorem configured {reader : Config.DocumentReader} {a : Arguments} {settings : Settings} {s t : Session}
    (h : (configure reader a).on s = (.ok settings, t)) : Configured settings s t := by
  obtain ⟨more, hmore⟩ := (yields_readSettings reader a).notes s
  rw [configure_eq, Run.on_bind] at h
  rcases hon : (readSettings reader a).on s with ⟨f | found, u⟩
  · rw [hon] at h
    cases h
  · rw [hon] at h hmore
    dsimp only at h hmore
    rw [Run.on_bind, on_setLevel] at h
    cases hlevel : found.level? with
    | error f =>
      rw [hlevel] at h
      cases h
    | ok level =>
      rw [hlevel] at h
      cases h
      exact ⟨(yields_readSettings reader a).value (congrArg Prod.fst hon), level, more, hlevel, by rw [hmore]⟩

namespace Configured

variable {settings : Settings} {s t : Session} (h : Configured settings s t)
include h

theorem files : t.files = s.files := by
  obtain ⟨_, _, -, rfl⟩ := h.session
  rfl

theorem tempRoot : t.tempRoot = s.tempRoot := by
  obtain ⟨_, _, -, rfl⟩ := h.session
  rfl

theorem output : t.output = s.output := by
  obtain ⟨_, _, -, rfl⟩ := h.session
  rfl

theorem level {other : Settings} {s' t' : Session} (h' : Configured other s' t') (hlevel : settings.level? = other.level?) :
    t.level = t'.level := by
  obtain ⟨level, _, hl, rfl⟩ := h.session
  obtain ⟨level', _, hl', rfl⟩ := h'.session
  rw [hl, hl'] at hlevel
  exact congrArg Journal.Level.value (Except.ok.inj hlevel)

end Configured

end ApkReport
