/-
What goes wrong while the settings are read. The program refuses errors of the configuration
and bad values, and ends with a code for them. Three kinds of failures are neither, and come out
as they are (`EscapesReading`): a value in the place of the path, other errors of the reader of
documents, and unknown keys that cannot be sorted.
-/
import ApkReport.Proofs.CommandLine.Options
import ApkReport.Proofs.Config.Loading

namespace ApkReport.CommandLine

open Config

/-! ## What escapes -/

/-- An error of a reader is neither bytes that are no text nor a bad value. -/
def isUncaught : ReaderError → Bool
  | .encoding | .badValue => false
  | _ => true

theorem refusesSettings_reader (e : ReaderError) (message : String) :
    refusesSettings (.settings (.reader e message)) = !isUncaught e := by
  cases e <;> rfl

/-- The file that is to hold the settings, if it is there, has this content. -/
def ReadsContent (a : Arguments) (s : Session) (content : Bytes) : Prop :=
  ∃ path, a.config = some (.scalar (.text path)) ∧ s.files.isFile path = true ∧ s.files.read path = .ok content

/-- A failure that comes out while the settings are read. -/
inductive EscapesReading (reader : DocumentReader) (a : Arguments) (s : Session) : Failure → Prop
  | notAPath {v : Value} : a.config = some v → Settings.text? v = none → EscapesReading reader a s (.notAPath v)
  | reader {content : Bytes} {e : ReaderError} {message : String} : ReadsContent a s content →
    reader content = .error (.failed e message) → isUncaught e = true → EscapesReading reader a s (.settings (.reader e message))
  | keys {content : Bytes} {v : Value} {found : List (Value × Value)} {clash : KeyClash} : ReadsContent a s content →
    Document reader content v → entries? v = some found → keyClash? (unknownKeys found) = some clash →
    EscapesReading reader a s (.settings (.unorderedKeys clash))

/-! ## Levels -/

/-- A number or a text. -/
def IsNumberOrText (v : Value) : Prop := (∃ n : Int, v = .scalar (.integer n)) ∨ ∃ text : String, v = .scalar (.text text)

theorem isNumberOrText_taken (marks : List (Nat × Value)) (x : String × Value) : IsNumberOrText (taken marks x).2 := by
  unfold taken
  dsimp only
  split
  · next h =>
    unfold isNumericLevel at h
    split at h
    · exact .inl ⟨_, rfl⟩
    · cases h
  · exact .inr ⟨_, rfl⟩

/-- The level that entries give is a number or a text, and so is the default. -/
theorem isNumberOrText_of_settingsOf {marks : List (Nat × Value)} {found : List (Value × Value)} {settings : Settings}
    (h : settingsOf marks found = .ok settings) : IsNumberOrText settings.logLevel := by
  rw [settingsOf_eq] at h
  split at h
  · obtain ⟨changed, hset, hchecked⟩ := bind_eq_ok_iff.1 h
    obtain ⟨-, rfl⟩ := Settings.checked_eq_ok.1 hchecked
    have hlevel : some changed.logLevel = some (.scalar (.text "INFO")) ∨
        ∃ v, some changed.logLevel = some (taken marks ("log_level", v)).2 := value?_of_setAll_taken hset "log_level"
    rcases hlevel with hdefault | ⟨v, htaken⟩
    · exact .inr ⟨_, Option.some.inj hdefault⟩
    · rw [Option.some.inj htaken]
      exact isNumberOrText_taken marks _
  · cases h

theorem yields_load_level (reader : DocumentReader) (path? : Option String) :
    Yields (fun settings => IsNumberOrText settings.logLevel) (load reader path?) :=
  yields_load_of (.inr ⟨_, rfl⟩) isNumberOrText_of_settingsOf reader path?

/-- A number is a level, and a text that is none is refused as a bad value. -/
theorem refusesSettings_of_level {settings : Settings} {f : Journal.LevelFault} (h : IsNumberOrText settings.logLevel)
    (hf : settings.level? = .error f) : refusesSettings (.level f) = true := by
  unfold Settings.level? at hf
  rcases h with ⟨n, hn⟩ | ⟨name, hname⟩
  · rw [hn] at hf
    cases hf
  · rw [hname] at hf
    change Journal.Level.ofAnyName name = _ at hf
    unfold Journal.Level.ofAnyName at hf
    split at hf
    · cases hf
    · cases hf
      rfl

/-! ## Loading -/

/-- A document's entries fail to give settings as settings or bad values, unless unknown keys cannot be sorted. -/
theorem settle_error {marks : List (Nat × Value)} {found : List (Value × Value)} {s : Session} {f : Failure}
    (h : ((settle marks found).on s).1 = .error f) :
    refusesSettings f = true ∨ ∃ clash, keyClash? (unknownKeys found) = some clash ∧ f = .settings (.unorderedKeys clash) := by
  by_cases hunsettled : Unsettled marks found
  · rcases on_settle_error hunsettled s with ⟨clash, hclash, herror⟩ | herror
    · cases herror.symm.trans h
      exact .inr ⟨clash, hclash, rfl⟩
    · cases herror.symm.trans h
      exact .inl rfl
  · obtain ⟨settings, sorted, hset, -, hon⟩ := on_settle hunsettled s
    rw [hon] at h
    cases hchecked : settings.checked with
    | ok checked =>
      rw [hchecked] at h
      cases h
    | error g =>
      obtain ⟨text, htext⟩ := exists_format_text hset
      obtain ⟨-, rfl⟩ := Settings.checked_error hchecked
      rw [hchecked, htext] at h
      cases h
      exact .inl rfl

/-- A content that cannot be read fails as settings or bad values, unless its reader fails in another way. -/
theorem readDocument_error {reader : DocumentReader} {path : String} {content : Bytes} {g : Config.Fault}
    (h : readDocument reader path content = .error g) :
    refusesSettings (.settings g) = true ∨ ∃ e message, reader content = .error (.failed e message) ∧ isUncaught e = true ∧
      g = .reader e message := by
  unfold readDocument at h
  split at h
  · cases h
  · cases h
    exact .inl rfl
  · next e message hfailed =>
    cases h
    cases he : isUncaught e with
    | true => exact .inr ⟨e, message, hfailed, he, rfl⟩
    | false => exact .inl (by rw [refusesSettings_reader, he]; rfl)

/-- Loading settings fails as settings or bad values, or one of the failures comes out that no guard is for. -/
theorem load_error {reader : DocumentReader} {a : Arguments} {path : String} {s : Session} {f : Failure}
    (hconfig : a.config = some (.scalar (.text path))) (h : ((load reader (some path)).on s).1 = .error f) :
    refusesSettings f = true ∨ EscapesReading reader a s f := by
  cases hfile : s.files.isFile path with
  | false =>
    rw [on_load_missing hfile] at h
    cases h
  | true =>
    obtain ⟨content, hread⟩ := read_of_isFile hfile
    have hcontent : ReadsContent a s content := ⟨path, hconfig, hfile, hread⟩
    rw [on_load_file hfile hread] at h
    cases hdocument : readDocument reader path content with
    | error g =>
      rw [on_loadContent_error hdocument] at h
      cases h
      refine (readDocument_error hdocument).imp_right ?_
      rintro ⟨e, message, hfailed, he, rfl⟩
      exact .reader hcontent hfailed he
    | ok v =>
      have hv : Document reader content v := readDocument_eq_ok.1 hdocument
      rw [on_loadContent_document hv, Run.on_bind, on_lift] at h
      cases hfound : entries? v with
      | none =>
        rw [entries_of_none hfound] at h
        cases hempty : isEmpty v with
        | true =>
          -- an empty document has no keys that could clash
          rw [hempty] at h
          have hsettle : ((settle v.marks []).on s).1 = .error f := h
          refine (settle_error hsettle).imp_right ?_
          rintro ⟨clash, hclash, -⟩
          cases hclash
        | false =>
          rw [hempty] at h
          cases h
          exact .inl rfl
      | some found =>
        rw [entries_of_entries? hfound] at h
        refine (settle_error h).imp_right ?_
        rintro ⟨clash, hclash, rfl⟩
        exact .keys hcontent hv hfound hclash

/-! ## Configuring -/

section Configuring

variable {reader : DocumentReader} {a : Arguments} {s : Session}

theorem configPath?_text {path : String} (h : a.config = some (.scalar (.text path))) : a.configPath? = .ok (some path) := by
  rw [Arguments.configPath?, h]

/-- A path that is there was named. -/
theorem config_of_configPath? {path : String} (h : a.configPath? = .ok (some path)) : a.config = some (.scalar (.text path)) := by
  unfold Arguments.configPath? at h
  split at h
  · cases h
  · next hconfig =>
    cases h
    exact hconfig
  · cases h

theorem configPath?_error {v : Value} (h : a.config = some v) (hv : Settings.text? v = none) : a.configPath? = .error (.notAPath v) := by
  unfold Arguments.configPath?
  rw [h]
  split
  · next hnone => cases hnone
  · next hsome =>
    cases hsome
    cases hv
  · next hsome =>
    cases hsome
    rfl

/-- What is wrong with the path or the document is wrong with the configuration. -/
theorem configure_load_error {path? : Option String} {f : Failure} (hpath : a.configPath? = .ok path?)
    (h : ((load reader path?).on s).1 = .error f) : ((configure reader a).on s).1 = .error f := by
  have hon : (Run.ofExcept a.configPath?).on s = (.ok path?, s) := by rw [Run.on_ofExcept, hpath]
  rw [configure, Run.on_bind_ok hon, Run.on_bind_error (Prod.ext h rfl)]

/-- Settings that are loaded are overridden, and if their level is one, that is all. -/
theorem on_configure_loaded {path? : Option String} {t : Session} {loaded settings : Settings} (hpath : a.configPath? = .ok path?)
    (hload : (load reader path?).on s = (.ok loaded, t)) (hset : loaded.withOverrides a.overrides = .ok settings) :
    ((configure reader a).on s).1 = (settings.level?.mapError Failure.level).map fun _ => settings := by
  have hon : (Run.ofExcept a.configPath?).on s = (.ok path?, s) := by rw [Run.on_ofExcept, hpath]
  rw [configure, Run.on_bind_ok hon, Run.on_bind_ok hload, Run.on_bind_ok (on_lift_ok hset t), Run.on_bind, on_setLevel]
  cases settings.level? <;> rfl

/-- What escapes while settings are read is what the reading fails with, and it is not refused. -/
theorem configure_of_escapesReading {f : Failure} (h : EscapesReading reader a s f) :
    ((configure reader a).on s).1 = .error f ∧ refusesSettings f = false := by
  cases h with
  | @notAPath v hconfig hv =>
    have hon : (Run.ofExcept a.configPath?).on s = (.error (.notAPath v), s) := by
      rw [Run.on_ofExcept, configPath?_error hconfig hv]
    rw [configure, Run.on_bind_error hon]
    exact ⟨rfl, rfl⟩
  | @reader content e message hcontent hfailed he =>
    obtain ⟨path, hconfig, hfile, hread⟩ := hcontent
    have hdocument : readDocument reader path content = .error (.reader e message) := by rw [readDocument, hfailed]
    refine ⟨configure_load_error (configPath?_text hconfig) ?_, by rw [refusesSettings_reader, he]; rfl⟩
    rw [on_load_file hfile hread, on_loadContent_error hdocument]
  | @keys content v found clash hcontent hdocument hfound hclash =>
    obtain ⟨path, hconfig, hfile, hread⟩ := hcontent
    have hsort : sortKeys (unknownKeys found) = .error (.unorderedKeys clash) := by rw [sortKeys, hclash]
    refine ⟨configure_load_error (configPath?_text hconfig) ?_, rfl⟩
    rw [on_load_file hfile hread, on_loadContent_entries hdocument (entries_of_entries? hfound), settle,
      Run.on_bind_error (on_lift_error hsort s)]

/-- Options keep a level that is a number or a text. -/
theorem isNumberOrText_of_flags {loaded settings : Settings} (h : IsNumberOrText loaded.logLevel)
    (hvalues : ∀ name, settings.value? name = (a.flag? name).or (loaded.value? name)) : IsNumberOrText settings.logLevel := by
  have hlevel : some settings.logLevel = (a.flag? "log_level").or (some loaded.logLevel) := hvalues "log_level"
  unfold Arguments.flag? at hlevel
  cases hverbose : a.verbose with
  | true =>
    rw [hverbose] at hlevel
    exact .inr ⟨"DEBUG", Option.some.inj hlevel⟩
  | false =>
    rw [hverbose] at hlevel
    rwa [Option.some.inj hlevel]

/-- Reading the settings fails as settings or bad values, or it is one of the failures that escape. -/
theorem configure_error (ha : a.HasValues) {f : Failure} (h : ((configure reader a).on s).1 = .error f) :
    refusesSettings f = true ∨ EscapesReading reader a s f := by
  cases hpath : a.configPath? with
  | error g =>
    have hon : (Run.ofExcept a.configPath?).on s = (.error g, s) := by rw [Run.on_ofExcept, hpath]
    rw [configure, Run.on_bind_error hon] at h
    cases h
    unfold Arguments.configPath? at hpath
    split at hpath
    · cases hpath
    · cases hpath
    · next v htext hconfig =>
      cases hpath
      refine .inr (.notAPath hconfig ?_)
      cases hv : Settings.text? v with
      | none => rfl
      | some path => exact absurd (Settings.eq_of_text? hv) (htext path)
  | ok path? =>
    rcases hload : (load reader path?).on s with ⟨g | loaded, t⟩
    · rw [configure_load_error hpath (congrArg Prod.fst hload)] at h
      cases h
      cases path? with
      | none => cases hload
      | some path => exact load_error (config_of_configPath? hpath) (congrArg Prod.fst hload)
    · have hvalid := (yields_load reader path?).value (congrArg Prod.fst hload)
      obtain ⟨settings, hset, -, hvalues⟩ := withOverrides_flags ha hvalid
      have hlevel := isNumberOrText_of_flags ((yields_load_level reader path?).value (congrArg Prod.fst hload)) hvalues
      rw [on_configure_loaded hpath hload hset] at h
      cases hl : settings.level? with
      | ok level =>
        rw [hl] at h
        cases h
      | error g =>
        rw [hl] at h
        cases h
        exact .inl (refusesSettings_of_level hlevel hl)

end Configuring

end ApkReport.CommandLine
