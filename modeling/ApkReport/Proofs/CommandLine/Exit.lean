/-
How the program ends. Once its command line is read, it is to end with 1 if no file is named
or the configuration is not valid, and with 0 otherwise, whatever becomes of the files. It does,
unless a failure escapes (`Escapes`): one that comes out while the settings are read, or any
that keeps the summary from being saved.
-/
import ApkReport.Proofs.CommandLine.Indifference
import ApkReport.Proofs.CommandLine.Reading

namespace ApkReport.CommandLine

open Config

/-! ## Configurations -/

section Configuring

variable {reader : DocumentReader} {a : Arguments} {s : Session}

/-- The settings to start from: the defaults if no document is named or none is there, else those that it promises. -/
inductive Starts (reader : DocumentReader) (a : Arguments) (s : Session) : Settings → Prop
  | absent : a.config = none → Starts reader a s {}
  | missing {path : String} : a.config = some (.scalar (.text path)) → s.files.isFile path = false → Starts reader a s {}
  | document {content : Bytes} {v : Value} {settings : Settings} : ReadsContent a s content → Document reader content v →
    Promises v settings → Starts reader a s settings

/-- The configuration is valid: there are settings to start from, and with the options over them their level is one. -/
def IsConfigurable (reader : DocumentReader) (a : Arguments) (s : Session) : Prop :=
  ∃ loaded settings level, Starts reader a s loaded ∧ loaded.withOverrides a.overrides = .ok settings ∧ settings.level? = .ok level

/-- The document, if there is one, is named by a path and guarded. -/
structure IsGuarded (reader : DocumentReader) (a : Arguments) (s : Session) : Prop where
  named : ∀ v, a.config = some v → ∃ path : String, v = .scalar (.text path)
  guarded : ∀ content, ReadsContent a s content → ¬ Unguarded reader content

theorem starts_iff {path? : Option String} (h : IsGuarded reader a s) (hpath : a.configPath? = .ok path?) {loaded : Settings} :
    Starts reader a s loaded ↔ ((load reader path?).on s).1 = .ok loaded := by
  cases hconfig : a.config with
  | none =>
    rw [Arguments.configPath?, hconfig] at hpath
    cases hpath
    constructor
    · rintro (_ | ⟨hc, -⟩ | ⟨⟨_, hc, -⟩, -, -⟩)
      · rfl
      · cases hconfig.symm.trans hc
      · cases hconfig.symm.trans hc
    · intro hload
      cases hload
      exact .absent hconfig
  | some v =>
    obtain ⟨path, rfl⟩ := h.named v hconfig
    rw [configPath?_text hconfig] at hpath
    cases hpath
    cases hfile : s.files.isFile path with
    | false =>
      rw [on_load_missing hfile]
      constructor
      · rintro (hc | _ | ⟨⟨_, hc, hthere, -⟩, -, -⟩)
        · cases hconfig.symm.trans hc
        · rfl
        · cases hconfig.symm.trans hc
          cases hfile.symm.trans hthere
      · intro hload
        cases hload
        exact .missing hconfig hfile
    | true =>
      obtain ⟨content, hread⟩ := read_of_isFile hfile
      have hcontent : ReadsContent a s content := ⟨path, hconfig, hfile, hread⟩
      have hstarts : Starts reader a s loaded ↔ ∃ v, Document reader content v ∧ Promises v loaded := by
        constructor
        · rintro (hc | ⟨hc, hmissing⟩ | ⟨⟨_, hc, -, hother⟩, hv, hpromise⟩)
          · cases hconfig.symm.trans hc
          · cases hconfig.symm.trans hc
            cases hfile.symm.trans hmissing
          · cases hconfig.symm.trans hc
            cases hread.symm.trans hother
            exact ⟨_, hv, hpromise⟩
        · rintro ⟨v, hv, hpromise⟩
          exact .document hcontent hv hpromise
      rw [hstarts, on_load_file hfile hread]
      rcases loadContent_of_guarded (h.guarded content hcontent) path s with
        ⟨v, found, settings, _, hv, hfound, hpromise, -, hon⟩ | ⟨⟨f, hf, -⟩, hnone⟩
      · rw [hon]
        constructor
        · rintro ⟨w, hw, hother⟩
          rw [hw.unique hv] at hother
          rw [hpromise.unique hother]
        · intro hload
          cases hload
          exact ⟨v, hv, hpromise⟩
      · rw [hf]
        constructor
        · rintro ⟨v, hv, hpromise⟩
          exact absurd hpromise (hnone v _ hv)
        · intro hload
          cases hload

/-- If the document is guarded, settings come out exactly if the configuration is valid. -/
theorem configure_guarded (ha : a.HasValues) (h : IsGuarded reader a s) :
    (∃ settings, ((configure reader a).on s).1 = .ok settings) ↔ IsConfigurable reader a s := by
  have hpath : ∃ path?, a.configPath? = .ok path? := by
    cases hconfig : a.config with
    | none => exact ⟨none, by rw [Arguments.configPath?, hconfig]⟩
    | some v =>
      obtain ⟨path, rfl⟩ := h.named v hconfig
      exact ⟨some path, configPath?_text hconfig⟩
  obtain ⟨path?, hpath⟩ := hpath
  rcases hload : (load reader path?).on s with ⟨f | loaded, t⟩
  · rw [configure_load_error hpath (congrArg Prod.fst hload)]
    constructor
    · rintro ⟨settings, hok⟩
      cases hok
    · rintro ⟨loaded, _, _, hstarts, -⟩
      have hok := (starts_iff h hpath).1 hstarts
      rw [hload] at hok
      cases hok
  · have hvalid := (yields_load reader path?).value (congrArg Prod.fst hload)
    obtain ⟨settings, hset, -⟩ := withOverrides_flags ha hvalid
    rw [on_configure_loaded hpath hload hset]
    constructor
    · rintro ⟨_, hok⟩
      cases hlevel : settings.level? with
      | error f =>
        rw [hlevel] at hok
        cases hok
      | ok level => exact ⟨loaded, settings, level, (starts_iff h hpath).2 (congrArg Prod.fst hload), hset, hlevel⟩
    · rintro ⟨loaded', settings', level, hstarts, hset', hlevel⟩
      have hok := (starts_iff h hpath).1 hstarts
      rw [hload] at hok
      cases hok
      cases hset.symm.trans hset'
      rw [hlevel]
      exact ⟨settings, rfl⟩

end Configuring

/-! ## Exit codes -/

/-- A failure that comes out of a run over files. -/
inductive Escapes (libs : Libraries) (a : Arguments) (s : Session) : Failure → Prop
  | reading {f : Failure} : EscapesReading libs.reader a s f → Escapes libs a s f
  | saving {settings : Settings} {t : Session} {rs : List InspectionResult} {path : String} {f : Failure} :
    (configure libs.reader a).on s = (.ok settings, t) → ((inspectArguments libs.decoder settings a.files).on t).1 = .ok rs →
    csvPath? settings = some path →
    (Report.saved libs.writer s.files (pathText path) (Report.summaryTable rs)).1 = .error f → Escapes libs a s f

/-- The program, once its settings are refused or something goes wrong with them. -/
theorem on_run_error (libs : Libraries) {words : List String} {a : Arguments} {s : Session} {f : Failure}
    (hparse : parse words = .ok (.inspect a)) (hfiles : a.files ≠ [])
    (hconfigure : ((configure libs.reader a).on s).1 = .error f) :
    ((run libs words).on s).1 = if refusesSettings f then .ok 1 else .error f := by
  have hempty : a.files.isEmpty = false := by simpa using hfiles
  have hon : (configure libs.reader a).on s = (.error f, ((configure libs.reader a).on s).2) := Prod.ext hconfigure rfl
  unfold run
  rw [hparse]
  dsimp only
  unfold inspect
  rw [hempty]
  simp only [Bool.false_eq_true, if_false]
  rw [Run.on_bind, Run.on_attempt, hon]
  dsimp only
  cases refusesSettings f <;> rfl

/-- The code to end with: 1 if no file is named or no settings are come to, else 0. -/
def exitCode (reader : DocumentReader) (a : Arguments) (s : Session) : Nat :=
  if a.files.isEmpty || !((configure reader a).on s).1.isOk then 1 else 0

theorem summarized_error {writer : Report.TableWriter} {settings : Settings} {files : FileSystem} {rs : List InspectionResult}
    {f : Failure} : (summarized writer settings files rs).1 = .error f ↔
      ∃ path, csvPath? settings = some path ∧
        (Report.saved writer files (pathText path) (Report.summaryTable rs)).1 = .error f := by
  unfold summarized
  cases csvPath? settings with
  | none => simp
  | some path => simp

section Codes

variable {libs : Libraries} {a : Arguments} {s : Session}

/-- Over settings that are not come to, only a failure of the reading escapes. -/
theorem escapes_of_error {f g : Failure} (h : ((configure libs.reader a).on s).1 = .error f) :
    Escapes libs a s g ↔ f = g ∧ refusesSettings f = false ∧ EscapesReading libs.reader a s f := by
  constructor
  · rintro (hreading | ⟨hok, -, -, -⟩)
    · obtain ⟨hg, hrefuses⟩ := configure_of_escapesReading hreading
      cases h.symm.trans hg
      exact ⟨rfl, hrefuses, hreading⟩
    · rw [hok] at h
      cases h
  · rintro ⟨rfl, -, hreading⟩
    exact .reading hreading

/-- Over settings that are come to, only a failure to save the summary of the results escapes. -/
theorem escapes_of_ok {settings : Settings} {t : Session} {rs : List InspectionResult} {f : Failure}
    (h : (configure libs.reader a).on s = (.ok settings, t))
    (hrs : ((inspectArguments libs.decoder settings a.files).on t).1 = .ok rs) :
    Escapes libs a s f ↔ (summarized libs.writer settings s.files rs).1 = .error f := by
  rw [summarized_error]
  constructor
  · rintro (hreading | ⟨hok, hresults, hpath, hsaved⟩)
    · have herror := (configure_of_escapesReading hreading).1
      rw [h] at herror
      cases herror
    · cases h.symm.trans hok
      cases hrs.symm.trans hresults
      exact ⟨_, hpath, hsaved⟩
  · rintro ⟨path, hpath, hsaved⟩
    exact .saving h hrs hpath hsaved

/-- A run over files refuses its settings or fails with them, or it is up to saving the summary of its results. -/
theorem run_outcome (libs : Libraries) {words : List String} (hw : s.files.WellFormed) (hparse : parse words = .ok (.inspect a))
    (hfiles : a.files ≠ []) :
    (∃ f, ((configure libs.reader a).on s).1 = .error f ∧
        ((run libs words).on s).1 = if refusesSettings f then .ok 1 else .error f) ∨
      ∃ settings t rs, (configure libs.reader a).on s = (.ok settings, t) ∧
        ((inspectArguments libs.decoder settings a.files).on t).1 = .ok rs ∧
        ((run libs words).on s).1 = (summarized libs.writer settings s.files rs).1.map fun _ => 0 := by
  rcases hon : (configure libs.reader a).on s with ⟨f | settings, t⟩
  · exact .inl ⟨f, rfl, on_run_error libs hparse hfiles (congrArg Prod.fst hon)⟩
  · obtain ⟨n, events, hinspect⟩ := on_inspectArguments libs.decoder settings ((configured hon).files.symm ▸ hw) a.files
    exact .inr ⟨settings, t, _, rfl, congrArg Prod.fst hinspect, (run_reported libs hw hparse hfiles hon).outcome⟩

end Codes

/-- Once its command line is read, the program ends with its exit code, unless it is over files and a failure escapes, which
then comes out. If the document is guarded, the code is 0 exactly for some files and a valid configuration. -/
theorem exit_code (libs : Libraries) {words : List String} {a : Arguments} {s : Session} (hw : s.files.WellFormed)
    (hparse : parse words = .ok (.inspect a)) :
    (∀ f, ((run libs words).on s).1 = .error f ↔ a.files ≠ [] ∧ Escapes libs a s f) ∧
      ((a.files = [] ∨ ∀ f, ¬ Escapes libs a s f) → ((run libs words).on s).1 = .ok (exitCode libs.reader a s)) ∧
      (IsGuarded libs.reader a s → (exitCode libs.reader a s = 0 ↔ a.files ≠ [] ∧ IsConfigurable libs.reader a s)) := by
  have ha := hasValues_of_parse hparse
  refine ⟨?_, ?_, fun hguarded => ?_⟩
  · intro g
    by_cases hfiles : a.files = []
    · rw [on_run_empty libs hparse hfiles]
      exact ⟨nofun, fun h => absurd hfiles h.1⟩
    · rcases run_outcome libs hw hparse hfiles with ⟨f, herror, hrun⟩ | ⟨settings, t, rs, hon, hrs, hrun⟩
      · rw [hrun, escapes_of_error herror]
        rcases configure_error ha herror with hrefused | hreading
        · simp [hrefused]
        · have hrefuses := (configure_of_escapesReading hreading).2
          simp [hrefuses, hfiles, hreading]
      · rw [hrun, escapes_of_ok hon hrs]
        cases (summarized libs.writer settings s.files rs).1 with
        | error f => simp [hfiles, Except.map]
        | ok u => simp [Except.map]
  · intro hnone
    by_cases hfiles : a.files = []
    · rw [on_run_empty libs hparse hfiles, exitCode, hfiles]
      rfl
    · have hkept : ∀ f, ¬ Escapes libs a s f := hnone.resolve_left hfiles
      have hempty : a.files.isEmpty = false := by simpa using hfiles
      rcases run_outcome libs hw hparse hfiles with ⟨f, herror, hrun⟩ | ⟨settings, t, rs, hon, hrs, hrun⟩
      · have hrefused : refusesSettings f = true :=
          (configure_error ha herror).resolve_right fun hreading => hkept f (.reading hreading)
        rw [hrun, if_pos hrefused, exitCode, hempty, herror]
        rfl
      · rw [hrun, exitCode, hempty, hon]
        cases hsummary : (summarized libs.writer settings s.files rs).1 with
        | error f => exact absurd ((escapes_of_ok hon hrs).2 hsummary) (hkept f)
        | ok u => rfl
  · rw [← configure_guarded ha hguarded]
    unfold exitCode
    cases ((configure libs.reader a).on s).1 with
    | error f => simp [Except.isOk, Except.toBool]
    | ok settings => simp [Except.isOk, Except.toBool]

open Archive (sessionOver)

/-- The arguments for a missing file, with a summary or without. -/
def missingArguments (csv : Option Value) : Arguments where
  files := ["/none.apk"]
  csv

/-- A missing file leads to 0, but a summary in a directory that is a file fails with the error of the files. -/
theorem exit_code_missing :
    ((run (standardLibraries emptyManifest) ["/none.apk"]).on (sessionOver [])).1 = .ok 0 ∧
      ∃ f, ((run (standardLibraries emptyManifest) ["--csv", "/a.apk/r.csv", "/none.apk"]).on (sessionOver [])).1 = .error f ∧
        f.kind = .os (some .fileExists) := by
  have hw : (sessionOver []).files.WellFormed := by decide
  constructor
  · have hparse : parse ["/none.apk"] = .ok (.inspect (missingArguments none)) := rfl
    obtain ⟨-, hcode, hvalid⟩ := exit_code (standardLibraries emptyManifest) hw hparse
    have hconfigure : (configure Yaml.reader (missingArguments none)).on (sessionOver []) = (.ok {}, sessionOver []) := rfl
    have hkept : ∀ f, ¬ Escapes (standardLibraries emptyManifest) (missingArguments none) (sessionOver []) f := fun f h =>
      nomatch (@escapes_of_ok (standardLibraries emptyManifest) _ _ _ _ [] f hconfigure rfl).1 h
    have hguarded : IsGuarded Yaml.reader (missingArguments none) (sessionOver []) := ⟨nofun, fun _ ⟨_, h, _⟩ => nomatch h⟩
    rw [hcode (.inr hkept)]
    exact congrArg Except.ok ((hvalid hguarded).2 ⟨List.cons_ne_nil _ _, {}, {}, _, .absent rfl, rfl, rfl⟩)
  · have hparse : parse ["--csv", "/a.apk/r.csv", "/none.apk"] =
        .ok (.inspect (missingArguments (some (.scalar (.text "/a.apk/r.csv"))))) := rfl
    have hconfigure : (configure Yaml.reader (missingArguments (some (.scalar (.text "/a.apk/r.csv"))))).on (sessionOver []) =
        (.ok { csvOutput := .scalar (.text "/a.apk/r.csv") }, sessionOver []) := rfl
    have hkind : failureKind? (Report.saved Report.fileWriter (sessionOver []).files (pathText "/a.apk/r.csv")
        (Report.summaryTable [])).1 = some (.os (some .fileExists)) := by
      decide +kernel
    obtain ⟨hescapes, -⟩ := exit_code (standardLibraries emptyManifest) hw hparse
    cases hsaved : (Report.saved Report.fileWriter (sessionOver []).files (pathText "/a.apk/r.csv")
        (Report.summaryTable [])).1 with
    | ok u =>
      rw [hsaved] at hkind
      cases hkind
    | error f =>
      rw [hsaved] at hkind
      exact ⟨f, (hescapes f).2 ⟨List.cons_ne_nil _ _, .saving hconfigure rfl rfl hsaved⟩, Option.some.inj hkind⟩

set_option maxRecDepth 20000 in
/-- A flag that is none and keys of two kinds come out of the program as the errors that they are. -/
theorem run_fails_uncaught :
    failureKind? ((run (standardLibraries emptyManifest) ["--config", "/a.apk", "/none.apk"]).on
        (sessionOver (Bytes.ofString "csv_output: !!bool x\n"))).1 = some .missingKey ∧
      failureKind? ((run (standardLibraries emptyManifest) ["--config", "/a.apk", "/none.apk"]).on
        (sessionOver (Bytes.ofString "1: a\nb: c\n"))).1 = some .badType := by
  decide +kernel

end ApkReport.CommandLine
