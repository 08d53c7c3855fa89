/-
What the inspection of an argument's file adds to a run: a result and what is printed of it,
or a line that says why there is none, and records of the log with either. Contributions
are alike if only the number of a temporary directory tells them apart, on the error output.
-/
import ApkReport.CommandLine.Program
import ApkReport.Proofs.Inspection.Renumbering

namespace ApkReport

open CommandLine

/-! ## Contributions -/

/-- The line of an event that is no record of the log. -/
def line? : Event → Option String
  | .line text => some text
  | .note .. => none

/-- What the inspection of a file adds to the results, to the output and to the error output. -/
structure Contribution where
  result : Option InspectionResult
  output : String
  events : List Event

namespace Contribution

def errorText (c : Contribution) : String := String.join (c.events.map (Event.text Failure.message))

/-- The lines that are not records of the log. -/
def lines (c : Contribution) : List String := c.events.filterMap line?

/-- Contributions that differ in the number of a temporary directory at most, and that on the error output. -/
structure Alike (c d : Contribution) : Prop where
  result : c.result = d.result
  output : c.output = d.output
  errorText : ∃ n m, Renumbered n m c.errorText d.errorText

/-- The contribution is a result, with the text that is printed of it. -/
structure IsResult (settings : Settings) (c : Contribution) (r : InspectionResult) : Prop where
  result : c.result = some r
  output : c.output = if writesText settings then Report.text r ++ "\n" else ""
  lines : c.lines = []

/-- The contribution is a line that says why there is no result. -/
structure IsError (c : Contribution) (text : String) : Prop where
  result : c.result = none
  output : c.output = ""
  lines : c.lines = [text]

def ofResult (settings : Settings) (r : InspectionResult) (notes : List Event) : Contribution where
  result := some r
  output := if writesText settings then Report.text r ++ "\n" else ""
  events := notes

def ofError (events : List Event) : Contribution := ⟨none, "", events⟩

theorem Alike.refl (c : Contribution) : c.Alike c := ⟨rfl, rfl, 0, 0, .same _⟩

/-- Alike records are written alike. -/
theorem errorText_alike {n m : Nat} {es fs : List Event} (h : List.Forall₂ (Event.Alike (Renumbered n m)) es fs) :
    Renumbered n m (String.join (es.map (Event.text Failure.message))) (String.join (fs.map (Event.text Failure.message))) := by
  have hT := renumbered_textual n m
  refine hT.join ?_
  rw [List.forall₂_map_left_iff, List.forall₂_map_right_iff]
  exact h.imp fun _ _ he => he.text hT

/-- Records of the log are no lines. -/
theorem lines_of_alike {T : String → String → Prop} {es fs : List Event} (h : List.Forall₂ (Event.Alike T) es fs) :
    es.filterMap line? = [] := by
  induction h with
  | nil => rfl
  | cons he _ ih =>
    cases he with
    | note _ => exact ih
    | told _ _ => exact ih

def results (cs : List Contribution) : List InspectionResult := cs.filterMap (·.result)

theorem results_cons (c : Contribution) (cs : List Contribution) : results (c :: cs) = c.result.toList ++ results cs := by
  rw [results, List.filterMap_cons]
  cases c.result <;> rfl

theorem results_append (cs ds : List Contribution) : results (cs ++ ds) = results cs ++ results ds := List.filterMap_append

def outputs (cs : List Contribution) : String := String.join (cs.map (·.output))

theorem outputs_append (cs ds : List Contribution) : outputs (cs ++ ds) = outputs cs ++ outputs ds := by
  rw [outputs, List.map_append, String.join_append, outputs, outputs]

def errorTexts (cs : List Contribution) : String := String.join (cs.map (·.errorText))

theorem errorTexts_append (cs ds : List Contribution) : errorTexts (cs ++ ds) = errorTexts cs ++ errorTexts ds := by
  rw [errorTexts, List.map_append, String.join_append, errorTexts, errorTexts]

theorem results_alike {cs ds : List Contribution} (h : List.Forall₂ Alike cs ds) : results cs = results ds := by
  induction h with
  | nil => rfl
  | cons hc _ ih => rw [results_cons, results_cons, hc.result, ih]

theorem outputs_alike {cs ds : List Contribution} (h : List.Forall₂ Alike cs ds) : outputs cs = outputs ds := by
  induction h with
  | nil => rfl
  | @cons c d cs ds hc _ ih =>
    rw [← List.singleton_append, outputs_append, ih, ← List.singleton_append (l := ds), outputs_append]
    simp [outputs, hc.output]

end Contribution

open Contribution

/-- What an argument may contribute to a run over the files of a session. -/
inductive Contributes (decoder : Decoder) (settings : Settings) (s : Session) (argument : String) (c : Contribution) : Prop
  | missing :
    s.files.pathExists (argumentPath s.files argument) = false →
    c.IsError ("Error: File not found: " ++ argumentPath s.files argument) → Contributes decoder settings s argument c
  | unsupported :
    s.files.pathExists (argumentPath s.files argument) = true →
    isSupported (fileExtension (argumentPath s.files argument)) = false →
    c.IsError ("Error: Unsupported file type: " ++ fileExtension (argumentPath s.files argument)) →
    Contributes decoder settings s argument c
  | failed {u : Session} {f : Failure} :
    s.files.pathExists (argumentPath s.files argument) = true →
    isSupported (fileExtension (argumentPath s.files argument)) = true →
    SameGround s u → ((inspectFile decoder settings (argumentPath s.files argument)).on u).1 = .error f →
    c.IsError ("Error inspecting " ++ argument ++ ": " ++ f.message) → Contributes decoder settings s argument c
  | inspected {u : Session} {r : InspectionResult} :
    s.files.pathExists (argumentPath s.files argument) = true →
    isSupported (fileExtension (argumentPath s.files argument)) = true →
    SameGround s u → ((inspectFile decoder settings (argumentPath s.files argument)).on u).1 = .ok r →
    r.filePath = argumentPath s.files argument → c.IsResult settings r → Contributes decoder settings s argument c

/-! ## Sessions -/

/-- What was written to the error output. -/
def Session.errorText (s : Session) : String := String.join (s.events.map (Event.text Failure.message))

/-- The session after some contributions, when so many temporary directories were made. -/
def Session.after (s : Session) (n : Nat) (cs : List Contribution) : Session :=
  { s with serial := n, output := s.output ++ outputs cs, events := s.events ++ cs.flatMap (·.events) }

namespace Session

variable (s : Session) (n : Nat) (cs : List Contribution)

theorem after_nil : s.after s.serial [] = s := by
  simp [after, outputs]

theorem after_errorText : (s.after n cs).errorText = s.errorText ++ errorTexts cs := by
  simp only [Session.errorText, Session.after, List.map_append, String.join_append]
  congr 1
  induction cs with
  | nil => rfl
  | cons c cs ih =>
    rw [List.flatMap_cons, List.map_append, String.join_append, ih, errorTexts, errorTexts, List.map_cons, String.join_cons]
    rfl

theorem append_eq_after (events : List Event) : s.append events = s.after s.serial [.ofError events] := by
  simp [after, outputs, ofError, append]

theorem after_after (m : Nat) (ds : List Contribution) : (s.after n cs).after m ds = s.after m (cs ++ ds) := by
  simp [after, outputs, String.join_append, String.append_assoc]

end Session

theorem SameGround.after {s t : Session} (h : SameGround s t) (n m : Nat) (cs ds : List Contribution) :
    SameGround (s.after n cs) (t.after m ds) :=
  ⟨h.files, h.tempRoot, h.level⟩

/-- What an argument may contribute is up to the files. -/
theorem Contributes.of_sameGround {decoder : Decoder} {settings : Settings} {argument : String} {c : Contribution} {s t : Session}
    (h : SameGround s t) (hc : Contributes decoder settings t argument c) : Contributes decoder settings s argument c := by
  cases hc with
  | missing hexists he =>
    rw [← h.files] at hexists he
    exact .missing hexists he
  | unsupported hexists hx he =>
    rw [← h.files] at hexists hx he
    exact .unsupported hexists hx he
  | failed hexists hx hu hon he =>
    rw [← h.files] at hexists hx hon
    exact .failed hexists hx (h.trans hu) hon he
  | inspected hexists hx hu hon hfile hr =>
    rw [← h.files] at hexists hx hon hfile
    exact .inspected hexists hx (h.trans hu) hon hfile hr

end ApkReport
