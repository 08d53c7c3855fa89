/-
Files are inspected one by one, and none gets in the way of another. What an argument
contributes, a result or a line that says why there is none, depends on the files alone,
which each inspection leaves as they were; just the numbers of temporary directories go on
from file to file. So the contributions of a run are those of its parts, in order.
-/
import ApkReport.Proofs.CommandLine.Contribution
import ApkReport.Proofs.Inspection.Transparency

namespace ApkReport

open CommandLine Contribution

/-! ## One argument -/

/-- What is written when an inspection failed, behind its notes. -/
def failureEvents (threshold : Int) (argument path : String) (notes : List Event) (f : Failure) : List Event :=
  notes ++ .line ("Error inspecting " ++ argument ++ ": " ++ f.message) ::
    noted threshold .commandLine Journal.debug ("Inspection of " ++ path ++ " failed") (some f)

theorem lines_failureEvents {threshold : Int} {argument path : String} {notes : List Event} {f : Failure}
    (h : notes.filterMap line? = []) :
    (failureEvents threshold argument path notes f).filterMap line? = ["Error inspecting " ++ argument ++ ": " ++ f.message] := by
  have hnoted : ∀ text cause, (noted threshold .commandLine Journal.debug text cause).filterMap line? = [] := by
    intro text cause
    rcases noted_eq threshold .commandLine Journal.debug with hn | hn
    · rw [hn]
      rfl
    · rw [hn]
      rfl
  rw [failureEvents, List.filterMap_append, h, List.nil_append, List.filterMap_cons, hnoted]
  rfl

theorem failureEvents_alike {threshold : Int} {argument path : String} {n m : Nat} {notes notes' : List Event} {f g : Failure}
    (h : List.Forall₂ (Event.Alike (Renumbered n m)) notes notes') (hf : Failure.Alike (Renumbered n m) f g) :
    Renumbered n m (ofError (failureEvents threshold argument path notes f)).errorText
      (ofError (failureEvents threshold argument path notes' g)).errorText := by
  have hT := renumbered_textual n m
  have hline : Renumbered n m ("Error inspecting " ++ argument ++ ": " ++ f.message ++ "\n")
      ("Error inspecting " ++ argument ++ ": " ++ g.message ++ "\n") := hT.around hf.2 _ _
  simp only [Contribution.errorText, ofError, failureEvents, List.map_append, List.map_cons, String.join_append, String.join_cons]
  exact .append (errorText_alike h) (.append hline (errorText_alike (noted_told_alike (.same _) hf)))

section Argument

variable {decoder : Decoder} {settings : Settings} {argument : String} {s : Session}

theorem on_inspectArgument_missing (h : s.files.pathExists (argumentPath s.files argument) = false) :
    (inspectArgument decoder settings argument).on s =
      (.ok none, s.append [.line ("Error: File not found: " ++ argumentPath s.files argument)]) := by
  unfold inspectArgument
  rw [Run.on_bind, Run.on_get]
  simp only [h, Bool.not_false, if_true, Run.on_bind, Run.on_complain, Run.on_pure]

theorem on_inspectArgument_unsupported (h : s.files.pathExists (argumentPath s.files argument) = true)
    (hx : isSupported (fileExtension (argumentPath s.files argument)) = false) :
    (inspectArgument decoder settings argument).on s =
      (.ok none, s.append [.line ("Error: Unsupported file type: " ++ fileExtension (argumentPath s.files argument))]) := by
  unfold inspectArgument
  rw [Run.on_bind, Run.on_get]
  simp only [h, hx, Bool.not_false, Bool.not_true, Bool.false_eq_true, if_true, if_false, Run.on_bind, Run.on_complain, Run.on_pure]

theorem on_inspectArgument_supported (h : s.files.pathExists (argumentPath s.files argument) = true)
    (hx : isSupported (fileExtension (argumentPath s.files argument)) = true) {outcome : Except Failure InspectionResult}
    {t : Session} (hon : (inspectFile decoder settings (argumentPath s.files argument)).on s = (outcome, t)) :
    (inspectArgument decoder settings argument).on s =
      (conclude settings argument (argumentPath s.files argument) outcome).on t := by
  unfold inspectArgument
  rw [Run.on_bind, Run.on_get]
  simp only [h, hx, Bool.not_true, Bool.false_eq_true, if_false]
  rw [Run.on_bind, Run.on_attempt, hon]

theorem on_conclude_ok (path : String) (r : InspectionResult) (k : Nat) (notes : List Event) :
    (conclude settings argument path (.ok r)).on ((s.numbered k).append notes) =
      (.ok (some r), s.after k [.ofResult settings r notes]) := by
  unfold conclude
  have hafter : s.after k [.ofResult settings r notes] = { (s.numbered k).append notes with
      output := s.output ++ if writesText settings then Report.text r ++ "\n" else "" } := by
    simp [Session.after, outputs, ofResult, Session.append, Session.numbered]
  rw [hafter]
  cases hw : writesText settings with
  | false =>
    simp only [Bool.false_eq_true, if_false, Run.on_pure, String.append_empty]
    rfl
  | true =>
    simp only [if_true, Run.on_bind, Run.on_print, Run.on_pure]
    rfl

theorem on_conclude_error (path : String) (f : Failure) (k : Nat) (notes : List Event) :
    (conclude settings argument path (.error f)).on ((s.numbered k).append notes) =
      (.ok none, s.after k [.ofError (failureEvents s.level argument path notes f)]) := by
  unfold conclude
  rw [Run.on_bind, Run.on_complain]
  dsimp only
  rw [Run.on_bind, Run.on_note]
  simp [Session.after, outputs, ofError, Session.append, Session.numbered, failureEvents]

/-- In two sessions an argument contributes what it may, and the same but for a number. -/
def Isolated (decoder : Decoder) (settings : Settings) (argument : String) (s t : Session) : Prop :=
  ∃ c d k l, Contributes decoder settings s argument c ∧ c.Alike d ∧
    (inspectArgument decoder settings argument).on s = (.ok c.result, s.after k [c]) ∧
    (inspectArgument decoder settings argument).on t = (.ok d.result, t.after l [d])

theorem isolated_of_line {t : Session} {text : String}
    (hs : (inspectArgument decoder settings argument).on s = (.ok none, s.append [.line text]))
    (ht : (inspectArgument decoder settings argument).on t = (.ok none, t.append [.line text]))
    (hc : Contributes decoder settings s argument (.ofError [.line text])) : Isolated decoder settings argument s t := by
  refine ⟨.ofError [.line text], .ofError [.line text], s.serial, t.serial, hc, .refl _, ?_, ?_⟩
  · rw [hs, Session.append_eq_after]
    rfl
  · rw [ht, Session.append_eq_after]
    rfl

theorem isolated_of_inspection {t : Session} (h : SameGround s t)
    (hexists : s.files.pathExists (argumentPath s.files argument) = true)
    (hx : isSupported (fileExtension (argumentPath s.files argument)) = true)
    (hon : AlikeOn (SameBut (argumentPath s.files argument) (argumentPath s.files argument))
      (inspectFile decoder settings (argumentPath s.files argument)) s t) : Isolated decoder settings argument s t := by
  obtain ⟨k, l, n, m, notes, notes', hs, ht, hnotes, hout⟩ := hon
  have hexists' := hexists
  have hx' := hx
  rw [h.files] at hexists' hx'
  have htold := @on_inspectArgument_supported decoder settings argument s hexists hx
  have htold' := @on_inspectArgument_supported decoder settings argument t hexists' hx'
  rw [← h.files] at htold'
  -- what the inspections come to matters from here on, not how
  generalize hpath : argumentPath s.files argument = path at *
  generalize hended : (inspectFile decoder settings path).on s = ended at hs hout htold
  generalize (inspectFile decoder settings path).on t = ended' at ht hout htold'
  obtain ⟨outcome, s'⟩ := ended
  obtain ⟨outcome', t'⟩ := ended'
  dsimp only at hs ht hout
  subst hs ht
  have hrecords := lines_of_alike hnotes
  have htexts := errorText_alike hnotes
  cases hout with
  | @ok r r' hr =>
    obtain rfl : r = r' := hr.eq
    refine ⟨.ofResult settings r notes, .ofResult settings r notes', k, l, ?_, ⟨rfl, rfl, n, m, htexts⟩, ?_, ?_⟩
    · subst hpath
      exact .inspected hexists hx .refl (congrArg Prod.fst hended) hr.2 ⟨rfl, rfl, hrecords⟩
    · rw [htold rfl, on_conclude_ok]
      rfl
    · rw [htold' rfl, on_conclude_ok]
      rfl
  | @error f f' hf =>
    refine ⟨.ofError (failureEvents s.level argument path notes f), .ofError (failureEvents t.level argument path notes' f'), k, l,
      ?_, ⟨rfl, rfl, n, m, ?_⟩, ?_, ?_⟩
    · subst hpath
      exact .failed hexists hx .refl (congrArg Prod.fst hended) ⟨rfl, rfl, lines_failureEvents hrecords⟩
    · rw [← h.level]
      exact failureEvents_alike hnotes hf
    · rw [htold rfl, on_conclude_error]
      rfl
    · rw [htold' rfl, on_conclude_error]
      rfl

/-- In two sessions over the same files, an argument contributes the same, but for a number. -/
theorem inspectArgument_isolated {t : Session} (h : SameGround s t) (hw : s.files.WellFormed) :
    Isolated decoder settings argument s t := by
  cases hexists : s.files.pathExists (argumentPath s.files argument) with
  | false =>
    have ht := @on_inspectArgument_missing decoder settings argument t (h.files ▸ hexists)
    rw [← h.files] at ht
    exact isolated_of_line (on_inspectArgument_missing hexists) ht (.missing hexists ⟨rfl, rfl, rfl⟩)
  | true =>
    cases hx : isSupported (fileExtension (argumentPath s.files argument)) with
    | false =>
      have ht := @on_inspectArgument_unsupported decoder settings argument t (h.files ▸ hexists) (h.files ▸ hx)
      rw [← h.files] at ht
      exact isolated_of_line (on_inspectArgument_unsupported hexists hx) ht (.unsupported hexists hx ⟨rfl, rfl, rfl⟩)
    | true =>
      obtain ⟨e, hfind⟩ := FileSystem.find_of_pathExists hexists
      exact isolated_of_inspection h hexists hx (inspectFile_alikeOn h hw hfind)

end Argument

/-! ## Runs -/

/-- What the arguments of a run contribute in two sessions over the same files. -/
theorem inspectArguments_isolated {decoder : Decoder} {settings : Settings} {s t : Session} (h : SameGround s t)
    (hw : s.files.WellFormed) (arguments : List String) :
    ∃ cs ds k l, List.Forall₂ (Contributes decoder settings s) arguments cs ∧ List.Forall₂ Alike cs ds ∧
      (inspectArguments decoder settings arguments).on s = (.ok (results cs), s.after k cs) ∧
      (inspectArguments decoder settings arguments).on t = (.ok (results ds), t.after l ds) := by
  induction arguments generalizing s t with
  | nil =>
    refine ⟨[], [], s.serial, t.serial, .nil, .nil, ?_, ?_⟩
    · rw [Session.after_nil]
      rfl
    · rw [Session.after_nil]
      rfl
  | cons argument arguments ih =>
    obtain ⟨c, d, k, l, hc, hcd, hs, ht⟩ := @inspectArgument_isolated decoder settings argument s t h hw
    -- the files are the same after the first argument, so the others meet what they would meet without it
    obtain ⟨cs, ds, k', l', hcs, hcds, hs', ht'⟩ := ih (h.after k l [c] [d]) hw
    have hground : SameGround s (s.after k [c]) := ⟨rfl, rfl, rfl⟩
    refine ⟨c :: cs, d :: ds, k', l', .cons hc (hcs.imp fun _ _ => .of_sameGround hground), .cons hcd hcds, ?_, ?_⟩
    · rw [inspectArguments, Run.on_bind_ok hs, Run.on_bind_ok hs', Run.on_pure, Session.after_after, results_cons]
      rfl
    · rw [inspectArguments, Run.on_bind_ok ht, Run.on_bind_ok ht', Run.on_pure, Session.after_after, results_cons]
      rfl

/-- A run of some arguments and more is a run of the former and one of the latter. -/
theorem inspectArguments_append_eq (decoder : Decoder) (settings : Settings) (xs ys : List String) :
    inspectArguments decoder settings (xs ++ ys) = (do
      let first ← inspectArguments decoder settings xs
      let others ← inspectArguments decoder settings ys
      return first ++ others) := by
  induction xs with
  | nil => simp [inspectArguments]
  | cons x xs ih => simp only [List.cons_append, inspectArguments, ih, bind_assoc, pure_bind, List.append_assoc]

/-- The results of a run, and what it adds to the output and to the error output, are those of some contributions. -/
structure Adds (decoder : Decoder) (settings : Settings) (s : Session) (arguments : List String) (cs : List Contribution) :
    Prop where
  results : ((inspectArguments decoder settings arguments).on s).1 = .ok (results cs)
  output : ((inspectArguments decoder settings arguments).on s).2.output = s.output ++ outputs cs
  errorText : ((inspectArguments decoder settings arguments).on s).2.errorText = s.errorText ++ errorTexts cs
  files : ((inspectArguments decoder settings arguments).on s).2.files = s.files

theorem adds_of_after {decoder : Decoder} {settings : Settings} {s : Session} {arguments : List String} {cs : List Contribution}
    {n : Nat} (h : (inspectArguments decoder settings arguments).on s = (.ok (results cs), s.after n cs)) :
    Adds decoder settings s arguments cs := by
  constructor <;> rw [h]
  · rfl
  · rw [Session.after_errorText]
  · rfl

/-- The run of two lists of arguments comes to the results of the one and of the other, prints what the one prints
and the other, and tells what they tell but for the numbers of temporary directories. Each argument contributes one
result or one line of its own, whatever the others contribute. -/
theorem inspectArguments_append (decoder : Decoder) (settings : Settings) {s : Session} (hw : s.files.WellFormed)
    (xs ys : List String) :
    ∃ cs ds es, List.Forall₂ (Contributes decoder settings s) xs cs ∧ List.Forall₂ (Contributes decoder settings s) ys ds ∧
      List.Forall₂ Alike ds es ∧ Adds decoder settings s xs cs ∧ Adds decoder settings s ys ds ∧
      Adds decoder settings s (xs ++ ys) (cs ++ es) ∧ results (cs ++ es) = results cs ++ results ds ∧
      outputs (cs ++ es) = outputs cs ++ outputs ds ∧ errorTexts (cs ++ es) = errorTexts cs ++ errorTexts es := by
  obtain ⟨cs, -, k, -, hcs, -, hx, -⟩ := @inspectArguments_isolated decoder settings s s .refl hw xs
  have hground : SameGround s (s.after k cs) := ⟨rfl, rfl, rfl⟩
  obtain ⟨ds, es, l, m, hds, halike, hy, hlater⟩ := @inspectArguments_isolated decoder settings s _ hground hw ys
  have hresults : results ds = results es := results_alike halike
  refine ⟨cs, ds, es, hcs, hds, halike, adds_of_after hx, adds_of_after hy, adds_of_after (n := m) ?_, ?_, ?_, ?_⟩
  · rw [inspectArguments_append_eq, Run.on_bind_ok hx, Run.on_bind_ok hlater, Session.after_after, results_append]
    rfl
  · rw [results_append, hresults]
  · rw [outputs_append, outputs_alike halike]
  · rw [errorTexts_append]

set_option maxRecDepth 20000 in
/-- A file that is missing and one of another type stand between a package and a bundle. -/
theorem inspectArguments_append_failing :
    (∃ cs ds es, List.Forall₂ (Contributes emptyManifest {} packageSession) ["/none.apk", "/p.apk"] cs ∧
      List.Forall₂ (Contributes emptyManifest {} packageSession) ["/tmp", "/b.apkm"] ds ∧ List.Forall₂ Alike ds es ∧
      Adds emptyManifest {} packageSession ["/none.apk", "/p.apk"] cs ∧ Adds emptyManifest {} packageSession ["/tmp", "/b.apkm"] ds ∧
      Adds emptyManifest {} packageSession ["/none.apk", "/p.apk", "/tmp", "/b.apkm"] (cs ++ es) ∧
      results (cs ++ es) = results cs ++ results ds ∧ outputs (cs ++ es) = outputs cs ++ outputs ds ∧
      errorTexts (cs ++ es) = errorTexts cs ++ errorTexts es) ∧
    ((inspectArguments emptyManifest {} ["/none.apk", "/p.apk", "/tmp", "/b.apkm"]).on packageSession).1.toOption.map
      (·.map (·.filePath)) = some ["/p.apk", "/b.apkm"] := by
  constructor
  · exact inspectArguments_append emptyManifest {} (by decide) ["/none.apk", "/p.apk"] ["/tmp", "/b.apkm"]
  · decide +kernel

end ApkReport
