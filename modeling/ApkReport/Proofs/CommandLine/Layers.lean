/-
The layers of the settings. Over a document whose keys are texts and whose values are scalars,
each setting is the value of its option, else that of the document, else the default
(`layered`). The order of the entries does not count, nor do unknown keys, each of which is
warned of once; but a document with an output format that is none is refused, also where an
option replaces it.
-/
import ApkReport.Proofs.CommandLine.Options
import ApkReport.Proofs.CommandLine.Reports
import ApkReport.Proofs.Config.FlatDocument

namespace ApkReport

open CommandLine Config

namespace Config

/-! ## Layers -/

/-- The settings in layers: the value of an option, else that of the document, else the default. -/
def layered (a : Arguments) (found : List (Value × Value)) : Settings where
  logLevel := ((a.flag? "log_level").or (fileValue? found "log_level")).getD ({} : Settings).logLevel
  outputFormat := ((a.flag? "output_format").or (fileValue? found "output_format")).getD ({} : Settings).outputFormat
  csvOutput := ((a.flag? "csv_output").or (fileValue? found "csv_output")).getD ({} : Settings).csvOutput
  tempPrefix := ((a.flag? "temp_prefix").or (fileValue? found "temp_prefix")).getD ({} : Settings).tempPrefix

/-- The document is accepted: its values can be taken, and if it gives an output format, that is one. -/
structure IsAccepted (found : List (Value × Value)) : Prop where
  takeable : ∀ x ∈ given found, IsTakeable [] x
  format : ∀ v, fileValue? found "output_format" = some v → Settings.IsFormat v

theorem eq_of_value? {s s' : Settings} (h : ∀ name ∈ Settings.names, s.value? name = s'.value? name) : s = s' := by
  obtain ⟨level, format, csv, temp⟩ := s
  obtain ⟨level', format', csv', temp'⟩ := s'
  have hlevel := h "log_level" (by decide)
  have hformat := h "output_format" (by decide)
  have hcsv := h "csv_output" (by decide)
  have htemp := h "temp_prefix" (by decide)
  cases hlevel
  cases hformat
  cases hcsv
  cases htemp
  rfl

section Layers

variable {a : Arguments} {found : List (Value × Value)}

theorem value?_layered {name : String} (hname : name ∈ Settings.names) :
    (layered a found).value? name = ((a.flag? name).or (fileValue? found name)).or (({} : Settings).value? name) := by
  simp only [Settings.names, List.mem_cons, List.not_mem_nil, or_false] at hname
  rcases hname with rfl | rfl | rfl | rfl
  all_goals
    simp only [Settings.value?, layered, Option.or_some]

theorem flag?_none (name : String) : ({} : Arguments).flag? name = none := by
  unfold Arguments.flag?
  split <;> rfl

theorem value?_layered_none {name : String} (hname : name ∈ Settings.names) :
    (layered {} found).value? name = (fileValue? found name).or (({} : Settings).value? name) := by
  rw [value?_layered hname, flag?_none, Option.none_or]

/-- Without options, the output format is that of the document, or the default. -/
theorem isValid_layered_iff :
    (layered {} found).IsValid ↔ ∀ v, fileValue? found "output_format" = some v → Settings.IsFormat v := by
  have hformat : (layered {} found).outputFormat = (fileValue? found "output_format").getD (.scalar (.text "text")) := rfl
  unfold Settings.IsValid
  rw [hformat]
  cases fileValue? found "output_format" with
  | none => exact ⟨nofun, fun _ => Settings.isValid_default⟩
  | some v =>
    change Settings.IsFormat v ↔ _
    constructor
    · rintro h _ ⟨⟩
      exact h
    · exact fun h => h v rfl

/-- Entries of scalars give the settings of their layer, if they are accepted. -/
theorem settingsOf_flat {marks : List (Nat × Value)} (hflat : IsFlat found) (h : DistinctKeys found) (settings : Settings) :
    settingsOf marks found = .ok settings ↔ IsAccepted found ∧ settings = layered {} found := by
  have hkeys : ∀ x ∈ given found, x.2.isKey = true := fun x hx => (hflat _ (mem_given.1 hx).1).2
  have htaken : (given found).map (taken marks) = (given found).map (taken []) :=
    List.map_congr_left fun x hx => taken_of_isKey (hkeys x hx)
  have htakeable : (∀ x ∈ given found, IsTakeable marks x) ↔ ∀ x ∈ given found, IsTakeable [] x :=
    forall₂_congr fun x hx => isTakeable_of_isKey (hkeys x hx)
  -- the values are set one after another, and no name comes twice
  obtain ⟨changed, hset⟩ := setAll_taken [] found {}
  have hchanged : changed = layered {} found := by
    refine eq_of_value? fun name hname => ?_
    rw [(Settings.setAll_ok hset).2, lookup_of_perm (nodup_taken h) (List.reverse_perm _), ← fileValue?_eq h hname, value?_layered_none hname]
  rw [settingsOf_eq, htaken, Settings.ofValues, hset]
  by_cases hall : ∀ x ∈ given found, IsTakeable marks x
  · rw [if_pos hall]
    change changed.checked = .ok settings ↔ _
    rw [Settings.checked_eq_ok, hchanged, isValid_layered_iff]
    constructor
    · rintro ⟨hformat, rfl⟩
      exact ⟨⟨htakeable.1 hall, hformat⟩, rfl⟩
    · rintro ⟨haccepted, rfl⟩
      exact ⟨haccepted.format, rfl⟩
  · rw [if_neg hall]
    constructor
    · intro h
      cases h
    · exact fun haccepted => absurd (htakeable.2 haccepted.1.takeable) hall

/-- Options over accepted settings of a document give the settings in layers. -/
theorem withOverrides_layered (ha : a.HasValues) (h : (layered {} found).IsValid) :
    (layered {} found).withOverrides a.overrides = .ok (layered a found) := by
  obtain ⟨settings, hsettings, -, hvalues⟩ := withOverrides_flags ha h
  rw [hsettings]
  refine congrArg _ (eq_of_value? fun name hname => ?_)
  rw [hvalues, value?_layered_none hname, value?_layered hname, Option.or_assoc]

/-! ## Configuring -/

/-- The settings in layers can be run with: the document is accepted, and the level is one. -/
def IsRunnable (a : Arguments) (found : List (Value × Value)) : Prop :=
  IsAccepted found ∧ ∃ level, (layered a found).level? = .ok level

/-- Whether a document is accepted, and what it gives, is up to its entries of settings and not to their order. -/
theorem isRunnable_of_perm {found' : List (Value × Value)} (h : DistinctKeys found) (h' : DistinctKeys found')
    (hperm : (found'.filter isKnown).Perm (found.filter isKnown)) :
    layered a found' = layered a found ∧ (IsRunnable a found' ↔ IsRunnable a found) := by
  have hgiven := given_perm hperm
  have hvalue : ∀ name ∈ Settings.names, fileValue? found' name = fileValue? found name := by
    intro name hname
    rw [fileValue?_eq h hname, fileValue?_eq h' hname, lookup_of_perm (nodup_taken h) (hgiven.map _)]
  have hlayered : layered a found' = layered a found := by
    refine eq_of_value? fun name hname => ?_
    rw [value?_layered hname, value?_layered hname, hvalue name hname]
  have haccepted : IsAccepted found' ↔ IsAccepted found := by
    have hformat := hvalue "output_format" (by decide)
    constructor
    · exact fun hf => ⟨fun x hx => hf.takeable x (hgiven.mem_iff.2 hx), hformat ▸ hf.format⟩
    · exact fun hf => ⟨fun x hx => hf.takeable x (hgiven.mem_iff.1 hx), hformat ▸ hf.format⟩
  exact ⟨hlayered, by rw [IsRunnable, IsRunnable, hlayered, haccepted]⟩

/-- The document at the path that the arguments name has these entries, with texts for keys and scalars for values. -/
structure ReadsFlat (reader : DocumentReader) (a : Arguments) (s : Session) (found : List (Value × Value)) : Prop where
  document : ∃ path content v, a.config = some (.scalar (.text path)) ∧ s.files.isFile path = true ∧
    s.files.read path = .ok content ∧ Document reader content v ∧ entries? v = some found
  flat : IsFlat found

theorem ReadsFlat.distinct {reader : DocumentReader} (hreader : MakesDictionaries reader) {s : Session}
    (h : ReadsFlat reader a s found) : DistinctKeys found := by
  obtain ⟨_, _, _, -, -, -, hdocument, hfound⟩ := h.document
  exact distinctKeys_of_document hreader hdocument hfound

/-- Options over a document of scalars: the settings, if they can be run with, are those in layers, and each unknown key is
noted once. -/
theorem on_configure_flat {reader : DocumentReader} (hreader : MakesDictionaries reader) {s : Session} (ha : a.HasValues)
    (h : ReadsFlat reader a s found) :
    (∀ settings, ((configure reader a).on s).1 = .ok settings ↔ IsRunnable a found ∧ settings = layered a found) ∧
      ∃ unknown, AreUnknown found unknown ∧ ((configure reader a).on s).2.events =
        s.events ++ unknown.flatMap fun name => unknownNote s.level (.scalar (.text name)) := by
  obtain ⟨path, content, v, hconfig, hfile, hread, hdocument, hfound⟩ := h.document
  obtain ⟨unknown, hunknown, hsettle⟩ := on_settle_flat h.flat (h.distinct hreader) v.marks s
  have hload := @on_load_file reader s path content hfile hread
  rw [on_loadContent_entries hdocument (entries_of_entries? hfound), hsettle] at hload
  have hpath : (Run.ofExcept a.configPath?).on s = (.ok (some path), s) := by
    rw [Run.on_ofExcept, Arguments.configPath?, hconfig]
  have hsettings : ∀ settings, settingsOf v.marks found = .ok settings ↔ IsAccepted found ∧ settings = layered {} found :=
    settingsOf_flat h.flat (h.distinct hreader)
  rw [configure, Run.on_bind_ok hpath]
  cases hof : settingsOf v.marks found with
  | error f =>
    rw [hof] at hload hsettings
    have hrefused : ¬ IsAccepted found := by
      intro haccepted
      cases (hsettings _).2 ⟨haccepted, rfl⟩
    rw [Run.on_bind_error hload]
    refine ⟨fun settings => ⟨fun hok => ?_, fun hrun => absurd hrun.1.1 hrefused⟩, unknown, hunknown, rfl⟩
    cases hok
  | ok loaded =>
    obtain ⟨haccepted, rfl⟩ := (hsettings loaded).1 hof
    rw [hof] at hload
    have hvalid : (layered {} found).IsValid := isValid_layered_iff.2 haccepted.format
    rw [Run.on_bind_ok hload, Run.on_bind_ok (on_lift_ok (withOverrides_layered ha hvalid) _), Run.on_bind, on_setLevel]
    cases hlevel : (layered a found).level? with
    | error f =>
      have hno : ¬ IsRunnable a found := by
        rintro ⟨-, level, hsome⟩
        rw [hlevel] at hsome
        cases hsome
      refine ⟨fun settings => ⟨fun hok => ?_, fun hrun => absurd hrun.1 hno⟩, unknown, hunknown, rfl⟩
      cases hok
    | ok level =>
      refine ⟨fun settings => ⟨fun hok => ?_, fun hrun => ?_⟩, unknown, hunknown, rfl⟩
      · cases hok
        exact ⟨⟨haccepted, level, hlevel⟩, rfl⟩
      · rw [hrun.2]
        rfl

end Layers

/-- Over a document of scalars that is accepted, a run is made with the settings in layers, and no other. They depend on the
entries of settings alone, in whatever order these stand; each unknown key is warned of once, in the order of the keys. -/
theorem configure_layered (libs : Libraries) (hreader : MakesDictionaries libs.reader) {words : List String} {a : Arguments}
    {found : List (Value × Value)} {s : Session} (hparse : parse words = .ok (.inspect a)) (h : ReadsFlat libs.reader a s found) :
    (∀ settings, ((configure libs.reader a).on s).1 = .ok settings ↔ IsRunnable a found ∧ settings = layered a found) ∧
      (a.files ≠ [] → IsRunnable a found → (run libs words).on s =
        (do inspectAndReport libs (layered a found) a.files; return 0 : Run Nat).on ((configure libs.reader a).on s).2) ∧
      (∀ s' found', ReadsFlat libs.reader a s' found' → (found'.filter isKnown).Perm (found.filter isKnown) →
        ∀ settings, ((configure libs.reader a).on s').1 = .ok settings ↔ ((configure libs.reader a).on s).1 = .ok settings) ∧
      ∃ unknown, AreUnknown found unknown ∧
        ((configure libs.reader a).on s).2.events = s.events ++ unknown.flatMap (fun name => unknownNote s.level (.scalar (.text name))) ∧
        (s.level ≤ Journal.warning → ((configure libs.reader a).on s).2.events = s.events ++ unknown.map fun name =>
          .note .settings Journal.warning ("Ignoring unknown config key: " ++ name) none) := by
  have ha := hasValues_of_parse hparse
  obtain ⟨hsettings, unknown, hunknown, hevents⟩ := on_configure_flat hreader ha h
  refine ⟨hsettings, fun hfiles hrun => ?_, fun s' found' h' hperm settings => ?_, unknown, hunknown, hevents, fun hlevel => ?_⟩
  · have hon : (configure libs.reader a).on s = (.ok (layered a found), ((configure libs.reader a).on s).2) :=
      Prod.ext ((hsettings _).2 ⟨hrun, rfl⟩) rfl
    rw [on_run hparse hfiles hon, Run.on_bind]
    rcases (inspectAndReport libs (layered a found) a.files).on ((configure libs.reader a).on s).2 with ⟨f | ⟨⟩, u⟩ <;> rfl
  · obtain ⟨hlayered, hrunnable⟩ := isRunnable_of_perm (a := a) (h.distinct hreader) (h'.distinct hreader) hperm
    rw [hsettings, (on_configure_flat hreader ha h').1, hlayered, hrunnable]
  · simp only [hevents, unknownNote_text hlevel, List.map_eq_flatMap]

/-! ## Runs over given documents -/

open Archive (sessionOver)

/-- The settings are read from a file of this content. -/
theorem readsFlat_of_content {a : Arguments} {content : Bytes} {pairs : List (Scalar × Scalar)}
    (hconfig : a.config = some (.scalar (.text "/a.apk")))
    (hcontent : (Yaml.reader content).toOption.any (fun v => (entries? v).any (areScalars · pairs)) = true)
    (hkeys : ∀ x ∈ pairs, ∃ name, x.1 = .text name) : ReadsFlat Yaml.reader a (sessionOver content) (scalarEntries pairs) := by
  obtain ⟨v, hv, hentries⟩ := exists_ok hcontent
  obtain ⟨found, hfound, hscalars⟩ := (Option.any_eq_true _ _).1 hentries
  obtain rfl := eq_scalarEntries hscalars
  refine ⟨⟨"/a.apk", content, v, hconfig, ?_, ?_, hv, hfound⟩, fun x hx => ?_⟩
  · rfl
  · rfl
  · obtain ⟨y, hy, rfl⟩ := List.mem_map.1 hx
    obtain ⟨name, hname⟩ := hkeys y hy
    exact ⟨⟨name, congrArg Value.scalar hname⟩, rfl⟩

/-- The arguments for a missing file, with a summary at no path and a document. -/
def layersArguments : Arguments where
  files := ["/none.apk"]
  csv := some (.scalar (.text ""))
  config := some (.scalar (.text "/a.apk"))

/-- An unknown key without a value, and two settings. -/
def mixedPairs : List (Scalar × Scalar) := [(.text "zoom", .null), (.text "log_level", .integer 10), (.text "csv_output", .flag true)]

def mixedDocument : Bytes := Bytes.ofString "zoom: ~\nlog_level: 10\ncsv_output: yes\n"

/-- The same settings in another order, and no unknown key. -/
def shuffledPairs : List (Scalar × Scalar) := [(.text "csv_output", .flag true), (.text "log_level", .integer 10)]

def shuffledDocument : Bytes := Bytes.ofString "csv_output: yes\nlog_level: 10\n"

set_option maxRecDepth 20000 in
/-- The number of the document is the level, and the option's empty path replaces the flag of the document, in either order. -/
theorem configure_layered_mixed :
    ((configure Yaml.reader layersArguments).on (sessionOver mixedDocument)).1 = .ok {
        logLevel := .scalar (.integer 10), csvOutput := .scalar (.text "") } ∧
      ((configure Yaml.reader layersArguments).on (sessionOver shuffledDocument)).1 = .ok {
        logLevel := .scalar (.integer 10), csvOutput := .scalar (.text "") } := by
  have hparse : parse ["--csv", "", "--config", "/a.apk", "/none.apk"] = .ok (.inspect layersArguments) := rfl
  have hmixed : ReadsFlat Yaml.reader layersArguments (sessionOver mixedDocument) (scalarEntries mixedPairs) :=
    readsFlat_of_content rfl (by decide +kernel) (by simp [mixedPairs])
  have hshuffled : ReadsFlat Yaml.reader layersArguments (sessionOver shuffledDocument) (scalarEntries shuffledPairs) :=
    readsFlat_of_content rfl (by decide +kernel) (by simp [shuffledPairs])
  have hrunnable : IsRunnable layersArguments (scalarEntries mixedPairs) := by
    refine ⟨⟨by decide, fun v hv => ?_⟩, _, rfl⟩
    cases hv
  obtain ⟨hsettings, -, hsame, -⟩ := configure_layered (standardLibraries emptyManifest) makesDictionaries_reader hparse hmixed
  have hok := (hsettings _).2 ⟨hrunnable, rfl⟩
  refine ⟨hok, (hsame _ _ hshuffled ?_ _).2 hok⟩
  rw [scalarEntries, scalarEntries, List.filter_map, List.filter_map]
  exact List.Perm.map _ (by decide +kernel)

/-- The arguments for a missing file, with a list of results instead of texts and a document. -/
def jsonArguments : Arguments where
  files := ["/none.apk"]
  json := true
  config := some (.scalar (.text "/a.apk"))

set_option maxRecDepth 20000 in
/-- A document whose output format is none is refused, though an option replaces it and the settings in layers are valid. -/
theorem configure_refuses_format :
    parse ["--json", "--config", "/a.apk", "/none.apk"] = .ok (.inspect jsonArguments) ∧
      ReadsFlat Yaml.reader jsonArguments (sessionOver (Bytes.ofString "output_format: xml\n"))
        (scalarEntries [(.text "output_format", .text "xml")]) ∧
      (layered jsonArguments (scalarEntries [(.text "output_format", .text "xml")])).IsValid ∧
      (∃ level, (layered jsonArguments (scalarEntries [(.text "output_format", .text "xml")])).level? = .ok level) ∧
      failureKind? ((configure Yaml.reader jsonArguments).on (sessionOver (Bytes.ofString "output_format: xml\n"))).1 = some .settings := by
  refine ⟨rfl, readsFlat_of_content rfl (by decide +kernel) (by simp), ⟨"json", by decide, rfl⟩, ⟨_, rfl⟩, ?_⟩
  decide +kernel

end Config

end ApkReport
