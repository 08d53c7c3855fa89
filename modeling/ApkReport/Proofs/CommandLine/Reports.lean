/-
The reports of a run. The text report is printed file by file while the run goes on, the
list of results and the summary are written when it is over; yet all of them are made from
one list (`run_reported`). It holds what each argument's file inspects to on its own
(`inspected?`), whatever stands before it and however it is to be reported.
-/
import ApkReport.Proofs.CommandLine.Configuration
import ApkReport.Proofs.CommandLine.Isolation
import ApkReport.Proofs.Report.SummaryReading
import ApkReport.Yaml.Reader

namespace ApkReport

open CommandLine Contribution

/-! ## Results -/

/-- What the file of an argument inspects to, if it is there, of a type that is supported, and inspected without failure. -/
def inspected? (decoder : Decoder) (settings : Settings) (s : Session) (argument : String) : Option InspectionResult :=
  let path := argumentPath s.files argument
  if s.files.pathExists path && isSupported (fileExtension path) then ((inspectFile decoder settings path).on s).1.toOption
  else none

/-- Of the settings, an inspection needs the prefix of temporary directories alone. -/
theorem inspectFile_congr (decoder : Decoder) {settings settings' : Settings} (h : settings.tempPrefix = settings'.tempPrefix)
    (path : String) : inspectFile decoder settings path = inspectFile decoder settings' path := by
  unfold inspectFile withPackage withBundle
  rw [h]

section Results

variable {decoder : Decoder} {settings : Settings} {s t : Session} (h : SameGround s t) (hw : s.files.WellFormed)
include h hw

/-- Over the same files a file inspects to one result, or to none. -/
theorem inspectFile_result {path : String} (hexists : s.files.pathExists path = true) :
    ((inspectFile decoder settings path).on s).1.toOption = ((inspectFile decoder settings path).on t).1.toOption := by
  obtain ⟨e, hfind⟩ := FileSystem.find_of_pathExists hexists
  obtain ⟨_, _, _, _, _, _, -, -, -, hout⟩ := @inspectFile_alikeOn decoder settings path s t h hw e hfind
  exact (hout.imp fun _ _ => SameBut.eq).toOption_eq

/-- What a file inspects to is up to the files, and of the settings to the prefix of temporary directories. -/
theorem inspected?_congr {settings' : Settings} (htemp : settings.tempPrefix = settings'.tempPrefix) (argument : String) :
    inspected? decoder settings s argument = inspected? decoder settings' t argument := by
  unfold inspected?
  dsimp only
  rw [← h.files, ← inspectFile_congr decoder htemp]
  by_cases hexists : s.files.pathExists (argumentPath s.files argument) = true
  · rw [inspectFile_result h hw hexists]
  · simp only [hexists, Bool.false_and, Bool.false_eq_true, if_false]

omit h in
/-- What an argument contributes to the results is what its file inspects to. -/
theorem Contributes.result_eq {argument : String} {c : Contribution} (hc : Contributes decoder settings s argument c) :
    c.result = inspected? decoder settings s argument := by
  unfold inspected?
  dsimp only
  cases hc with
  | missing hexists he =>
    rw [hexists, he.result]
    rfl
  | unsupported hexists hx he =>
    rw [hexists, hx, he.result]
    rfl
  | failed hexists hx hu hon he =>
    rw [inspectFile_result hu hw hexists, hexists, hx, hon, he.result]
    rfl
  | inspected hexists hx hu hon _ hr =>
    rw [inspectFile_result hu hw hexists, hexists, hx, hon, hr.result]
    rfl

omit h in
theorem results_of_contributes {arguments : List String} {cs : List Contribution}
    (hcs : List.Forall₂ (Contributes decoder settings s) arguments cs) :
    results cs = arguments.filterMap (inspected? decoder settings s) := by
  induction hcs with
  | nil => rfl
  | @cons argument c arguments cs hc _ ih =>
    rw [results_cons, ih, hc.result_eq hw, List.filterMap_cons]
    cases inspected? decoder settings s argument <;> rfl

end Results

/-! ## Output -/

/-- What is printed of results while files are inspected. -/
def textReports (settings : Settings) (rs : List InspectionResult) : String :=
  if writesText settings then String.join (rs.map fun r => Report.text r ++ "\n") else ""

/-- What is printed of results once all files are inspected. -/
def listReport (settings : Settings) (rs : List InspectionResult) : String :=
  if writesJson settings then Report.json rs else ""

theorem textReports_append (settings : Settings) (rs rs' : List InspectionResult) :
    textReports settings (rs ++ rs') = textReports settings rs ++ textReports settings rs' := by
  unfold textReports
  split
  · rw [List.map_append, String.join_append]
  · rfl

/-- Only results are printed, and each is printed as it is contributed. -/
theorem Contributes.output_eq {decoder : Decoder} {settings : Settings} {s : Session} {argument : String} {c : Contribution}
    (hc : Contributes decoder settings s argument c) : c.output = textReports settings c.result.toList := by
  have hnone : c.result = none → c.output = "" → c.output = textReports settings c.result.toList := by
    intro hr ho
    rw [hr, ho]
    unfold textReports
    split <;> rfl
  cases hc with
  | missing _ he => exact hnone he.result he.output
  | unsupported _ _ he => exact hnone he.result he.output
  | failed _ _ _ _ he => exact hnone he.result he.output
  | @inspected u r _ _ _ _ _ hr =>
    rw [hr.output, hr.result, textReports]
    split
    · simp
    · rfl

theorem outputs_of_contributes {decoder : Decoder} {settings : Settings} {s : Session} {arguments : List String}
    {cs : List Contribution} (hcs : List.Forall₂ (Contributes decoder settings s) arguments cs) :
    outputs cs = textReports settings (results cs) := by
  induction hcs with
  | nil =>
    unfold textReports
    split <;> rfl
  | @cons argument c arguments cs hc _ ih =>
    rw [results_cons, textReports_append, ← hc.output_eq, ← ih, outputs, List.map_cons, String.join_cons]
    rfl

/-! ## Runs -/

/-- The inspection of arguments comes to what their files inspect to, prints the text reports of that, and does nothing
else but to make and remove directories and to write to the error output. -/
theorem on_inspectArguments (decoder : Decoder) (settings : Settings) {s : Session} (hw : s.files.WellFormed)
    (arguments : List String) :
    ∃ n events, (inspectArguments decoder settings arguments).on s = (.ok (arguments.filterMap (inspected? decoder settings s)),
      { s with
        serial := n
        output := s.output ++ textReports settings (arguments.filterMap (inspected? decoder settings s))
        events }) := by
  obtain ⟨cs, -, n, -, hcs, -, hon, -⟩ := @inspectArguments_isolated decoder settings s s .refl hw arguments
  refine ⟨n, (s.after n cs).events, ?_⟩
  rw [← results_of_contributes hw hcs, ← outputs_of_contributes hcs]
  exact hon

/-- Saves the summary of results, if it is to be saved. -/
def writeSummary (writer : Report.TableWriter) (settings : Settings) (rs : List InspectionResult) : Run Unit :=
  match csvPath? settings with
  | none => pure ()
  | some path => do
    let count ← Report.saveCsv writer rs path
    Run.note .commandLine Journal.info ("Wrote " ++ path ++ " (" ++ toString count ++ " rows)")

/-- Once all files are inspected, the list is printed and the summary saved. -/
theorem on_inspectAndReport_of_results {libs : Libraries} {settings : Settings} {arguments : List String} {s t : Session}
    {rs : List InspectionResult} (h : (inspectArguments libs.decoder settings arguments).on s = (.ok rs, t)) :
    (inspectAndReport libs settings arguments).on s =
      (writeSummary libs.writer settings rs).on { t with output := t.output ++ listReport settings rs } := by
  unfold inspectAndReport writeSummary listReport
  rw [Run.on_bind_ok h]
  cases writesJson settings with
  | true =>
    simp only [if_true]
    rw [Run.on_bind, Run.on_print]
    cases csvPath? settings <;> rfl
  | false =>
    simp only [Bool.false_eq_true, if_false, String.append_empty]
    cases csvPath? settings <;> rfl

/-- What is left of the files when the summary is saved, if it is to be, and whether that succeeds. -/
def summarized (writer : Report.TableWriter) (settings : Settings) (files : FileSystem) (rs : List InspectionResult) :
    Except Failure Unit × FileSystem :=
  match csvPath? settings with
  | none => (.ok (), files)
  | some path => Report.saved writer files (pathText path) (Report.summaryTable rs)

theorem on_writeSummary (writer : Report.TableWriter) (settings : Settings) (rs : List InspectionResult) (s : Session) :
    ∃ more, (writeSummary writer settings rs).on s =
      ((summarized writer settings s.files rs).1, (s.withFiles (summarized writer settings s.files rs).2).append more) := by
  unfold writeSummary summarized
  cases csvPath? settings with
  | none =>
    refine ⟨[], ?_⟩
    rw [Session.append_nil]
    rfl
  | some path =>
    dsimp only
    rw [Run.on_bind, Report.on_saveCsv]
    rcases Report.saved writer s.files (pathText path) (Report.summaryTable rs) with ⟨f | ⟨⟩, files⟩
    · refine ⟨[], ?_⟩
      rw [Session.append_nil]
    · exact ⟨_, Run.on_note _ _ _ _ _⟩

/-- The program, once it has come to its settings: it ends well, unless the files cannot be inspected and reported. -/
theorem on_run {libs : Libraries} {words : List String} {a : Arguments} {settings : Settings} {s t : Session}
    (hparse : parse words = .ok (.inspect a)) (hfiles : a.files ≠ [])
    (hconfigure : (configure libs.reader a).on s = (.ok settings, t)) :
    (run libs words).on s = match (inspectAndReport libs settings a.files).on t with
      | (.ok (), u) => (.ok 0, u)
      | (.error f, u) => (.error f, u) := by
  have hempty : a.files.isEmpty = false := by simpa using hfiles
  unfold run
  rw [hparse]
  dsimp only
  unfold inspect
  rw [hempty]
  simp only [Bool.false_eq_true, if_false]
  rw [Run.on_bind, Run.on_attempt, hconfigure]
  dsimp only
  rw [Run.on_bind]
  rcases (inspectAndReport libs settings a.files).on t with ⟨f | ⟨⟩, u⟩ <;> rfl

/-- The program has run over files: the reports of these results are printed, and their summary is saved. -/
structure Reported (writer : Report.TableWriter) (settings : Settings) (rs : List InspectionResult) (s : Session)
    (x : Except Failure Nat × Session) : Prop where
  outcome : x.1 = (summarized writer settings s.files rs).1.map fun _ => 0
  files : x.2.files = (summarized writer settings s.files rs).2
  output : x.2.output = s.output ++ textReports settings rs ++ listReport settings rs

theorem run_reported (libs : Libraries) {words : List String} {a : Arguments} {settings : Settings} {s t : Session}
    (hw : s.files.WellFormed) (hparse : parse words = .ok (.inspect a)) (hfiles : a.files ≠ [])
    (hconfigure : (configure libs.reader a).on s = (.ok settings, t)) :
    Reported libs.writer settings (a.files.filterMap (inspected? libs.decoder settings t)) s ((run libs words).on s) := by
  have hread := configured hconfigure
  obtain ⟨n, events, hon⟩ := on_inspectArguments libs.decoder settings (hread.files.symm ▸ hw) a.files
  have hreport := on_inspectAndReport_of_results hon
  generalize a.files.filterMap (inspected? libs.decoder settings t) = rs at hreport ⊢
  obtain ⟨last, hsummary⟩ := on_writeSummary libs.writer settings rs
    { t with serial := n, output := t.output ++ textReports settings rs ++ listReport settings rs, events }
  rw [on_run hparse hfiles hconfigure, hreport, hsummary]
  dsimp only
  rw [hread.files, hread.output]
  rcases hsum : summarized libs.writer settings s.files rs with ⟨f | ⟨⟩, files⟩
  · constructor <;> simp only [hsum] <;> rfl
  · constructor <;> simp only [hsum] <;> rfl

/-! ## Formats -/

/-- The libraries as they are at another time, which only what saves tables may notice. -/
def CommandLine.Libraries.saving (libs : Libraries) (writer : Report.TableWriter) : Libraries := { libs with writer }

/-- The reports that a run over files leaves of its results, by what its settings ask for: a text for each, or one list
of all; and where the summary can be saved, the summary, with one record for each of them behind its header. -/
structure Reports (target : String → String) (text? : String → Bytes → Option String) (settings : Settings)
    (rs : List InspectionResult) (s : Session) (x : Except Failure Nat × Session) : Prop where
  format : writesJson settings = !writesText settings
  text : writesText settings = true → x.2.output = s.output ++ String.join (rs.map fun r => Report.text r ++ "\n")
  json : writesJson settings = true → x.2.output = s.output ++ Report.json rs
  unsaved : csvPath? settings = none → x.1 = .ok 0 ∧ x.2.files = s.files
  saved : ∀ {path}, csvPath? settings = some path → Report.Writable target s.files (pathText path) →
    x.1 = .ok 0 ∧ ∃ content text, x.2.files.read (target (pathText path)) = .ok content ∧
      text? (pathText path) content = some text ∧ Report.readCsv? text = some (Report.csvColumns :: rs.map Report.csvFields)

theorem Reported.reports {writer : Report.TableWriter} {target : String → String} {text? : String → Bytes → Option String}
    (hwriter : writer.SavesAt target text?) {settings : Settings} {rs : List InspectionResult} {s : Session}
    {x : Except Failure Nat × Session} (h : Reported writer settings rs s x) (hv : settings.IsValid) :
    Reports target text? settings rs s x where
  format := hv.writesJson_eq
  text ht := by
    have hj : writesJson settings = false := by rw [hv.writesJson_eq, ht]; rfl
    rw [h.output, textReports, listReport, if_pos ht, hj]
    simp
  json hj := by
    have ht : writesText settings = false := by simpa [hj] using hv.writesJson_eq
    rw [h.output, textReports, listReport, if_pos hj, ht]
    simp
  unsaved hpath := by
    rw [h.outcome, h.files, summarized, hpath]
    exact ⟨rfl, rfl⟩
  saved {path} hpath hwritable := by
    obtain ⟨written, content, hsaved, hread, htext⟩ := Report.saved_of_writable hwriter hwritable (Report.summaryTable rs)
    rw [h.outcome, h.files, summarized, hpath]
    dsimp only
    rw [hsaved]
    exact ⟨rfl, content, Report.csv rs, hread, htext, Report.readCsv?_csv rs⟩

/-- Runs over the same files whose settings differ in the output format alone come to one list of results. Each prints
it in its own format, and where the summary can be saved, each saves it with a row for each of them. If the summary is
written at one time, both end alike and leave the same files behind. -/
theorem run_reports_one_list (libs : Libraries) {writer : Report.TableWriter} {target : String → String}
    {text? : String → Bytes → Option String} (hwriter : libs.writer.SavesAt target text?) (hwriter' : writer.SavesAt target text?)
    {words words' : List String} {a a' : Arguments} {settings settings' : Settings}
    {s s' t t' : Session} (hw : s.files.WellFormed) (hground : s.files = s'.files) (hroot : s.tempRoot = s'.tempRoot)
    (hparse : parse words = .ok (.inspect a)) (hparse' : parse words' = .ok (.inspect a')) (hfiles : a.files = a'.files)
    (hsome : a.files ≠ []) (hconfigure : (configure libs.reader a).on s = (.ok settings, t))
    (hconfigure' : (configure libs.reader a').on s' = (.ok settings', t'))
    (hformat : settings' = { settings with outputFormat := settings'.outputFormat }) :
    ∃ rs, ((inspectArguments libs.decoder settings a.files).on t).1 = .ok rs ∧
      ((inspectArguments libs.decoder settings' a'.files).on t').1 = .ok rs ∧
      Reports target text? settings rs s ((run libs words).on s) ∧
      Reports target text? settings' rs s' ((run (libs.saving writer) words').on s') ∧
      (writer = libs.writer → ((run libs words).on s).1 = ((run (libs.saving writer) words').on s').1 ∧
        ((run libs words).on s).2.files = ((run (libs.saving writer) words').on s').2.files) := by
  have hlevel : settings.level? = settings'.level? := by rw [hformat]; rfl
  have htemp : settings.tempPrefix = settings'.tempPrefix := by rw [hformat]
  have hread := configured hconfigure
  have hread' := configured hconfigure'
  have hw' : s'.files.WellFormed := hground ▸ hw
  have hsame : SameGround t t' :=
    ⟨by rw [hread.files, hread'.files, hground], by rw [hread.tempRoot, hread'.tempRoot, hroot], hread.level hread' hlevel⟩
  -- the results are up to what the runs share
  have hrs : a'.files.filterMap (inspected? libs.decoder settings' t') =
      a.files.filterMap (inspected? libs.decoder settings t) := by
    rw [← hfiles, funext (inspected?_congr hsame (hread.files.symm ▸ hw) htemp)]
  obtain ⟨n, events, hinspect⟩ := on_inspectArguments libs.decoder settings (hread.files.symm ▸ hw) a.files
  obtain ⟨n', events', hinspect'⟩ := on_inspectArguments libs.decoder settings' (hread'.files.symm ▸ hw') a'.files
  have hreported := run_reported libs hw hparse hsome hconfigure
  have hreported' : Reported writer settings' (a'.files.filterMap (inspected? libs.decoder settings' t')) s'
      ((run (libs.saving writer) words').on s') :=
    run_reported (libs.saving writer) hw' hparse' (hfiles ▸ hsome) hconfigure'
  rw [hrs] at hreported' hinspect'
  refine ⟨_, congrArg Prod.fst hinspect, congrArg Prod.fst hinspect', hreported.reports hwriter hread.valid,
    hreported'.reports hwriter' hread'.valid, ?_⟩
  rintro rfl
  have hsummary : ∀ rs, summarized libs.writer settings s.files rs = summarized libs.writer settings' s'.files rs := by
    intro rs
    rw [hformat, ← hground]
    rfl
  constructor
  · rw [hreported.outcome, hreported'.outcome, hsummary]
  · rw [hreported.files, hreported'.files, hsummary]

/-- The arguments for a missing file, a package and a bundle, and for a summary in a directory that is not there. -/
def summaryArguments (json : Bool) : Arguments where
  files := ["/none.apk", "/p.apk", "/b.apkm"]
  csv := some (.scalar (.text "/out/r.csv"))
  json := json

/-- The words that give these arguments, without the option for the list of results. -/
def summaryWords : List String := ["/none.apk", "/p.apk", "/b.apkm", "--csv", "/out/r.csv"]

/-- The settings that these arguments come to. -/
def summarySettings (format : String) : Settings where
  csvOutput := .scalar (.text "/out/r.csv")
  outputFormat := .scalar (.text format)

/-- Libraries of which only the decoder of manifests is no real one. -/
def standardLibraries (decoder : Decoder) : Libraries := ⟨decoder, Yaml.reader, Report.fileWriter⟩

set_option maxRecDepth 20000 in
/-- A run that prints texts and one that prints a list come to the same two results, and the summary can be saved. -/
theorem run_reports_one_list_summary :
    (∃ rs,
      ((inspectArguments emptyManifest (summarySettings "text") (summaryArguments false).files).on packageSession).1 = .ok rs ∧
      ((inspectArguments emptyManifest (summarySettings "json") (summaryArguments true).files).on packageSession).1 = .ok rs ∧
      Reports id Report.fileText? (summarySettings "text") rs packageSession
        ((run (standardLibraries emptyManifest) summaryWords).on packageSession) ∧
      Reports id Report.fileText? (summarySettings "json") rs packageSession
        ((run (standardLibraries emptyManifest) ("--json" :: summaryWords)).on packageSession) ∧
      ((run (standardLibraries emptyManifest) summaryWords).on packageSession).2.files =
        ((run (standardLibraries emptyManifest) ("--json" :: summaryWords)).on packageSession).2.files) ∧
    ((inspectArguments emptyManifest (summarySettings "text") (summaryArguments false).files).on packageSession).1.toOption.map
      (·.map (·.filePath)) = some ["/p.apk", "/b.apkm"] ∧
    Report.Writable id packageSession.files (pathText "/out/r.csv") := by
  refine ⟨?_, by decide +kernel, by decide, (packageSession.files.makeDirectories "/out" 1).2, ?_, by decide,
    ["out", "r.csv"], ?_, ?_⟩
  · have hparse : parse summaryWords = .ok (.inspect (summaryArguments false)) := rfl
    have hparse' : parse ("--json" :: summaryWords) = .ok (.inspect (summaryArguments true)) := rfl
    have hconfigure : (configure Yaml.reader (summaryArguments false)).on packageSession =
        (.ok (summarySettings "text"), packageSession) := rfl
    have hconfigure' : (configure Yaml.reader (summaryArguments true)).on packageSession =
        (.ok (summarySettings "json"), packageSession) := rfl
    obtain ⟨rs, hinspect, hinspect', hreports, hreports', hsame⟩ := run_reports_one_list (standardLibraries emptyManifest)
      Report.savesAt_fileWriter Report.savesAt_fileWriter (by decide) rfl rfl hparse hparse' rfl (List.cons_ne_nil _ _)
      hconfigure hconfigure' rfl
    exact ⟨rs, hinspect, hinspect', hreports, hreports', (hsame rfl).2⟩
  · decide +kernel
  · decide +kernel
  · decide +kernel

end ApkReport
