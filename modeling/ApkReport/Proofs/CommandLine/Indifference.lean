/-
Settings that are nothing to the reports: how much is logged, and how temporary directories
are called. Runs that differ in these alone print the same, leave the same files and end
alike, since each file inspects to the same in both.
-/
import ApkReport.Proofs.CommandLine.Reports
import ApkReport.Proofs.Inspection.Indifference

namespace ApkReport

open CommandLine

/-! ## Results -/

/-- Sessions that came to settings are over the files that they started with. -/
theorem Configured.sameFiles {settings : Settings} {s t : Session} (h : Configured settings s t) : SameFiles s t :=
  ⟨h.files.symm, h.tempRoot.symm⟩

/-- What a file inspects to is up neither to the log nor to the prefix. -/
theorem inspected?_indifferent {decoder : Decoder} {settings settings' : Settings} {s t : Session} (hw : s.files.WellFormed)
    (hu : IsUsable settings.tempPrefix s) (hu' : IsUsable settings'.tempPrefix t) (h : SameFiles s t) (argument : String) :
    inspected? decoder settings s argument = inspected? decoder settings' t argument := by
  have halike := @inspectFile_indifferent decoder settings settings' (argumentPath s.files argument) s t hw
    (.inr (no_parent_absolutePath _ _)) hu hu' h
  unfold inspected?
  dsimp only
  rw [← h.files, halike.toOption_eq]

/-! ## Runs -/

/-- The runs end alike, print the same, and leave the same files. Of these, what a writer of tables has left of one table at
one path may differ, if it is up to the time of writing. -/
structure SameRun (writer writer' : Report.TableWriter) (s s' : Session) (x x' : Except Failure Nat × Session) : Prop where
  outcome : x.1 = x'.1
  output : ∃ printed, x.2.output = s.output ++ printed ∧ x'.2.output = s'.output ++ printed
  files : x.2.files = x'.2.files ∨ ∃ made path table, x.2.files = (writer made path table).2 ∧ x'.2.files = (writer' made path table).2

/-- Without files the program tells how it is used. -/
theorem on_run_empty (libs : Libraries) {words : List String} {a : Arguments} (hparse : parse words = .ok (.inspect a))
    (hfiles : a.files = []) (s : Session) :
    (run libs words).on s = (.ok 1, { s with output := s.output ++ (shortUsage ++ "\n\n" ++ purpose ++ "\n") }) := by
  unfold run
  rw [hparse]
  dsimp only
  unfold inspect
  rw [hfiles]
  rfl

/-- Tables are saved with the same success whatever the time is. -/
def SameSuccess (writer writer' : Report.TableWriter) : Prop :=
  ∀ files path table, (writer files path table).1 = (writer' files path table).1

/-- The summary of one list is saved with the same success, and the files are the same but for what the writers left. -/
theorem summarized_sameSuccess {writer writer' : Report.TableWriter} (h : SameSuccess writer writer') (settings : Settings)
    (files : FileSystem) (rs : List InspectionResult) :
    (summarized writer settings files rs).1 = (summarized writer' settings files rs).1 ∧
      ((summarized writer settings files rs).2 = (summarized writer' settings files rs).2 ∨
        ∃ made path table, (summarized writer settings files rs).2 = (writer made path table).2 ∧
          (summarized writer' settings files rs).2 = (writer' made path table).2) := by
  unfold summarized
  split
  · exact ⟨rfl, .inl rfl⟩
  · next path _ =>
    unfold Report.saved
    split
    · exact ⟨rfl, .inl rfl⟩
    split
    · exact ⟨rfl, .inl rfl⟩
    · next made _ => exact ⟨h made _ _, .inr ⟨made, _, _, rfl, rfl⟩⟩

/-- One list of results is reported alike, if the settings agree in the reports that they ask for. -/
theorem Reported.sameRun {writer writer' : Report.TableWriter} (hwriter : SameSuccess writer writer')
    {settings settings' : Settings} {rs : List InspectionResult} {s s' : Session}
    {x x' : Except Failure Nat × Session} (h : Reported writer settings rs s x) (h' : Reported writer' settings' rs s' x')
    (hfiles : s.files = s'.files) (hformat : settings.outputFormat = settings'.outputFormat)
    (hcsv : settings.csvOutput = settings'.csvOutput) : SameRun writer writer' s s' x x' := by
  have hsummary : summarized writer' settings' s'.files rs = summarized writer' settings s.files rs := by
    unfold summarized csvPath?
    rw [hfiles, hcsv]
  have hprinted : textReports settings rs ++ listReport settings rs = textReports settings' rs ++ listReport settings' rs := by
    unfold textReports listReport writesText writesJson
    rw [hformat]
  obtain ⟨hsame, hleft⟩ := summarized_sameSuccess hwriter settings s.files rs
  refine ⟨?_, ⟨textReports settings rs ++ listReport settings rs, ?_, ?_⟩, ?_⟩
  · rw [h.outcome, h'.outcome, hsummary, hsame]
  · rw [h.output, String.append_assoc]
  · rw [h'.output, String.append_assoc, hprinted]
  · rw [h.files, h'.files, hsummary]
    exact hleft

/-- Runs over the same files whose settings differ in the level of the log and in the prefix of temporary directories
alone print the same, leave the same files and end alike, if the summary is written at one time; at another its file may
differ, as far as the writer notices the time. Every file that is there, and every path that an argument names, inspects to
the same result or to the same kind of failure, wherever the runs stand. -/
theorem run_indifferent (libs : Libraries) {writer : Report.TableWriter} (hwriter : SameSuccess libs.writer writer)
    {words words' : List String} {a a' : Arguments} {settings settings' : Settings}
    {s s' t t' : Session} (hw : s.files.WellFormed) (hsame : SameFiles s s') (hparse : parse words = .ok (.inspect a))
    (hparse' : parse words' = .ok (.inspect a')) (hfiles : a.files = a'.files)
    (hconfigure : (configure libs.reader a).on s = (.ok settings, t))
    (hconfigure' : (configure libs.reader a').on s' = (.ok settings', t'))
    (hsettings : settings' = { settings with logLevel := settings'.logLevel, tempPrefix := settings'.tempPrefix })
    (hu : IsUsable settings.tempPrefix s) (hu' : IsUsable settings'.tempPrefix s') :
    SameRun libs.writer writer s s' ((run libs words).on s) ((run (libs.saving writer) words').on s') ∧
      (writer = libs.writer → ((run libs words).on s).2.files = ((run (libs.saving writer) words').on s').2.files) ∧
      ∀ path, s.files.pathExists path = true ∨ (∃ argument, path = argumentPath s.files argument) →
        ∀ u u', SameFiles s u → SameFiles s' u' → Outcome.Alike AnyTexts (· = ·)
          ((inspectFile libs.decoder settings path).on u).1 ((inspectFile libs.decoder settings' path).on u').1 := by
  have hrun : SameRun libs.writer writer s s' ((run libs words).on s) ((run (libs.saving writer) words').on s') := by
    by_cases hsome : a.files = []
    · rw [on_run_empty libs hparse hsome, on_run_empty (libs.saving writer) hparse' (hfiles ▸ hsome)]
      exact ⟨rfl, ⟨_, rfl, rfl⟩, .inl hsame.files⟩
    · have hread := configured hconfigure
      have hread' := configured hconfigure'
      have hground : SameFiles t t' :=
        ⟨by rw [hread.files, hread'.files, hsame.files], by rw [hread.tempRoot, hread'.tempRoot, hsame.tempRoot]⟩
      have hrs : inspected? libs.decoder settings t = inspected? libs.decoder settings' t' :=
        funext (inspected?_indifferent (hread.files.symm ▸ hw) (hu.of_sameFiles hread.sameFiles)
          (hu'.of_sameFiles hread'.sameFiles) hground)
      have hreported := run_reported libs hw hparse hsome hconfigure
      have hreported' : Reported writer settings' (a'.files.filterMap (inspected? libs.decoder settings' t')) s'
          ((run (libs.saving writer) words').on s') :=
        run_reported (libs.saving writer) (hsame.files ▸ hw) hparse' (hfiles ▸ hsome) hconfigure'
      rw [← hfiles, ← hrs] at hreported'
      refine hreported.sameRun hwriter hreported' hsame.files ?_ ?_
      · rw [hsettings]
      · rw [hsettings]
  refine ⟨hrun, ?_, fun path hpath u u' hs hs' => ?_⟩
  · rintro rfl
    rcases hrun.files with hequal | ⟨made, path, table, hleft, hleft'⟩
    · exact hequal
    · rw [hleft, hleft']
  · have hleads : (u.files.find path).isOk = true ∨ ".." ∉ components path := by
      rcases hpath with hexists | ⟨argument, rfl⟩
      · obtain ⟨e, hfind⟩ := FileSystem.find_of_pathExists (hs.files ▸ hexists)
        exact .inl (by rw [hfind]; rfl)
      · exact .inr (no_parent_absolutePath _ _)
    have hground : SameFiles u u' :=
      ⟨by rw [← hs.files, ← hs'.files, hsame.files], by rw [← hs.tempRoot, ← hs'.tempRoot, hsame.tempRoot]⟩
    exact inspectFile_indifferent (hs.files ▸ hw) hleads (hu.of_sameFiles hs) (hu'.of_sameFiles hs') hground

/-- A session over a package and a bundle, with settings beside them. -/
def prefixSession : Session :=
  { packageSession with files := packageSession.files.adding [(["c.yml"], .file (Bytes.ofString "temp_prefix: x-\n"))] }

def quietWords : List String := ["/none.apk", "/p.apk", "/b.apkm"]

def quietArguments : Arguments where
  files := quietWords

/-- The words for more records, and for directories of another name. -/
def loudWords : List String := "-v" :: "--config" :: "/c.yml" :: quietWords

def loudArguments : Arguments where
  files := quietWords
  config := some (.scalar (.text "/c.yml"))
  verbose := true

def loudSettings : Settings where
  logLevel := .scalar (.text "DEBUG")
  tempPrefix := .scalar (.text "x-")

/-- The settings are those, as it can be decided. -/
def isLoud (settings : Settings) : Bool :=
  Settings.text? settings.logLevel = some "DEBUG" && Settings.text? settings.outputFormat = some "text" &&
    Settings.isNull settings.csvOutput && Settings.text? settings.tempPrefix = some "x-"

theorem eq_loudSettings {settings : Settings} (h : isLoud settings = true) : settings = loudSettings := by
  simp only [isLoud, Bool.and_eq_true, decide_eq_true_eq] at h
  obtain ⟨⟨⟨hlevel, hformat⟩, hcsv⟩, hprefix⟩ := h
  obtain ⟨level, format, csv, pre⟩ := settings
  rw [loudSettings, ← Settings.eq_of_text? hlevel, ← Settings.eq_of_text? hformat, ← Settings.eq_of_isNull hcsv,
    ← Settings.eq_of_text? hprefix]

set_option maxRecDepth 20000 in
/-- A loud run with directories of another name does what the quiet one does. -/
theorem run_indifferent_loud :
    SameRun Report.fileWriter Report.fileWriter prefixSession prefixSession
        ((run (standardLibraries emptyManifest) loudWords).on prefixSession)
        ((run (standardLibraries emptyManifest) quietWords).on prefixSession) ∧
      ((run (standardLibraries emptyManifest) loudWords).on prefixSession).2.files =
        ((run (standardLibraries emptyManifest) quietWords).on prefixSession).2.files ∧
      ∀ path, prefixSession.files.pathExists path = true ∨ (∃ argument, path = argumentPath prefixSession.files argument) →
        ∀ u u', SameFiles prefixSession u → SameFiles prefixSession u' →
          Outcome.Alike AnyTexts (· = ·) ((inspectFile emptyManifest loudSettings path).on u).1
            ((inspectFile emptyManifest {} path).on u').1 := by
  have hdecided : ((configure Yaml.reader loudArguments).on prefixSession).1.toOption.any isLoud := by decide +kernel
  obtain ⟨settings, hconfigure, hloud⟩ := exists_ok hdecided
  obtain rfl := eq_loudSettings hloud
  obtain ⟨hrun, hsame, hinspect⟩ := run_indifferent (standardLibraries emptyManifest) (fun _ _ _ => rfl) (by decide) ⟨rfl, rfl⟩
    (show parse loudWords = .ok (.inspect loudArguments) from rfl)
    (show parse quietWords = .ok (.inspect quietArguments) from rfl) rfl (Prod.ext hconfigure rfl)
    (show (configure Yaml.reader quietArguments).on prefixSession = (.ok {}, prefixSession) from rfl) rfl (by decide +kernel)
    (by decide +kernel)
  exact ⟨hrun, hsame rfl, hinspect⟩

end ApkReport
