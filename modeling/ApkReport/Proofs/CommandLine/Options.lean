/-
The options as overrides of the settings. Each option that was given sets one setting, and a
command line cannot give a null; so overriding settings with options always succeeds
(`withOverrides_flags`).
-/
import ApkReport.CommandLine.Program
import ApkReport.Proofs.Config.Overrides

namespace ApkReport.CommandLine

/-- The value that an option gives a setting. -/
def Arguments.flag? (a : Arguments) : String → Option Value
  | "output_format" => if a.json then some (.scalar (.text "json")) else none
  | "csv_output" => a.csv
  | "log_level" => if a.verbose then some (.scalar (.text "DEBUG")) else none
  | _ => none

/-- The path for the summary, if there is one, is a value other than null. -/
def Arguments.HasValues (a : Arguments) : Prop := ∀ v, a.csv = some v → Settings.isNull v = false

theorem isNull_argumentValue (text : String) : Settings.isNull (argumentValue text) = false := by
  unfold argumentValue
  split <;> rfl

namespace Progress

theorem leaveFiles_arguments (p : Progress) : p.leaveFiles.arguments = p.arguments := by
  unfold leaveFiles
  split <;> rfl

theorem csv_takePlain (p : Progress) (text : String) : (p.takePlain text).arguments.csv = p.arguments.csv := by
  unfold takePlain
  split <;> rfl

theorem csv_takeEndMark (p : Progress) : p.takeEndMark.arguments.csv = p.arguments.csv := by
  unfold takeEndMark
  split <;> rfl

theorem csv_takeUnknown (p : Progress) (text : String) : (p.takeUnknown text).arguments.csv = p.arguments.csv :=
  congrArg Arguments.csv p.leaveFiles_arguments

theorem csv_switch (p : Progress) (flag : Flag) : (p.switch flag).arguments.csv = p.arguments.csv := by
  cases flag <;> rfl

theorem csv_switches (p : Progress) (flags : List Flag) : (flags.foldl switch p).arguments.csv = p.arguments.csv := by
  induction flags generalizing p with
  | nil => rfl
  | cons flag flags ih => rw [List.foldl_cons, ih, csv_switch]

theorem hasValues_give {p : Progress} (h : p.arguments.HasValues) (flag : Flag) (text : String) :
    (p.give flag text).arguments.HasValues := by
  cases flag with
  | csv =>
    intro v hv
    cases hv
    exact isNull_argumentValue text
  | _ => exact h

end Progress

theorem hasValues_of_requestFrom {p : Progress} {words : List Word} {a : Arguments} (hp : p.arguments.HasValues)
    (h : requestFrom p words = .ok (.inspect a)) : a.HasValues := by
  fun_induction requestFrom p words with
  | case1 p _ =>
    cases h
    exact hp
  | case3 p text rest ih => exact ih (by rwa [Arguments.HasValues, p.csv_takePlain]) h
  | case4 p rest ih => exact ih (by rwa [Arguments.HasValues, p.csv_takeEndMark]) h
  | case5 p text rest ih => exact ih (by rwa [Arguments.HasValues, p.csv_takeUnknown]) h
  | case6 p m _ text rest _ ih | case7 p m _ text rest _ ih => exact ih (Progress.hasValues_give hp m.flag text) h
  | case11 p m rest _ flags _ _ ih =>
    refine ih ?_ h
    rwa [Arguments.HasValues, p.leaveFiles.csv_switches, p.leaveFiles_arguments]
  | case2 | case8 | case9 | case10 => cases h

/-- Arguments as a command line gives them have values. -/
theorem hasValues_of_parse {words : List String} {a : Arguments} (h : parse words = .ok (.inspect a)) : a.HasValues := by
  obtain ⟨read, -, hread⟩ := bind_eq_ok_iff.1 h
  refine hasValues_of_requestFrom (fun v hv => ?_) hread
  cases hv

theorem lastGiven?_singleton (name other : String) (v : Value) :
    Settings.lastGiven? name [(other, v)] = if name = other then (some v).filter (!Settings.isNull ·) else none := by
  rw [Settings.lastGiven?, List.filter_cons]
  by_cases hv : Settings.isNull v = true
  · simp [hv, Option.filter]
  · by_cases hname : name = other
    · simp [hv, hname, Option.filter]
    · have hbeq : (name == other) = false := by simpa using hname
      simp [hv, hname, hbeq, List.lookup_cons]

/-- What options give settings are the values of the options. -/
theorem lastGiven?_overrides {a : Arguments} (h : a.HasValues) (name : String) :
    Settings.lastGiven? name a.overrides = a.flag? name := by
  have hjson : (some (Value.scalar (if a.json then .text "json" else .null))).filter (!Settings.isNull ·) =
      a.flag? "output_format" := by
    unfold Arguments.flag?
    cases a.json <;> rfl
  have hcsv : (some (a.csv.getD (.scalar .null))).filter (!Settings.isNull ·) = a.flag? "csv_output" := by
    unfold Arguments.flag?
    cases hv : a.csv with
    | none => rfl
    | some v => simp [h v hv, Option.filter]
  have hlevel : (some (Value.scalar (if a.verbose then .text "DEBUG" else .null))).filter (!Settings.isNull ·) =
      a.flag? "log_level" := by
    unfold Arguments.flag?
    cases a.verbose <;> rfl
  have hsplit : a.overrides = [("output_format", .scalar (if a.json then .text "json" else .null))] ++
      [("csv_output", a.csv.getD (.scalar .null))] ++ [("log_level", .scalar (if a.verbose then .text "DEBUG" else .null))] := rfl
  rw [hsplit, Settings.lastGiven?_append, Settings.lastGiven?_append]
  simp only [lastGiven?_singleton, hjson, hcsv, hlevel]
  -- the names of the three options differ, and other settings have none
  by_cases hisLevel : name = "log_level"
  · simp [hisLevel]
  by_cases hisCsv : name = "csv_output"
  · simp [hisCsv]
  by_cases hisFormat : name = "output_format"
  · simp [hisFormat]
  simp [hisLevel, hisCsv, hisFormat, Arguments.flag?]

/-- Options override the settings that they are for, and valid settings stay valid. -/
theorem withOverrides_flags {a : Arguments} (ha : a.HasValues) {loaded : Settings} (h : loaded.IsValid) :
    ∃ settings, loaded.withOverrides a.overrides = .ok settings ∧ settings.IsValid ∧
      ∀ name, settings.value? name = (a.flag? name).or (loaded.value? name) := by
  have hcases := Settings.withOverrides_cases h a.overrides
  generalize loaded.withOverrides a.overrides = outcome at hcases
  cases hcases with
  | unknown hunknown =>
    obtain ⟨x, hx, -, hname⟩ := hunknown
    have hgiven : x.1 ∈ ["output_format", "csv_output", "log_level"] := List.mem_map_of_mem (f := Prod.fst) hx
    exact absurd ((by decide : ["output_format", "csv_output", "log_level"] ⊆ Settings.names) hgiven) hname
  | badFormat _ hv hformat =>
    rw [lastGiven?_overrides ha] at hv
    simp only [Arguments.flag?] at hv
    split at hv
    · cases hv
      exact absurd ⟨"json", by decide, rfl⟩ hformat
    · cases hv
  | @taken settings _ _ hvalid hvalues =>
    exact ⟨settings, rfl, hvalid, fun name => by rw [hvalues, lastGiven?_overrides ha]⟩

end ApkReport.CommandLine
