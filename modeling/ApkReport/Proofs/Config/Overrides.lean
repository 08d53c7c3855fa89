/-
Overriding settings, once and many times. An override takes all its values or none: it fails
if it names a setting that there is not, or gives an output format that is none, and null
values count for nothing. So after any number of overrides each setting has the last value
that one of those that succeeded gave it (`overrides_run`).
-/
import ApkReport.Failure
import ApkReport.Proofs.Config.Loading

namespace ApkReport.Settings

open Config

variable {s s' : Settings} {name : String} {v : Value} {values overrides : List (String × Value)}

/-! ## One override -/

/-- The last value that overrides give a setting, null values left out. -/
def lastGiven? (name : String) (overrides : List (String × Value)) : Option Value :=
  (overrides.filter fun x => !isNull x.2).reverse.lookup name

theorem lastGiven?_append (name : String) (overrides more : List (String × Value)) :
    lastGiven? name (overrides ++ more) = (lastGiven? name more).or (lastGiven? name overrides) := by
  rw [lastGiven?, List.filter_append, List.reverse_append, List.lookup_append]
  rfl

/-- A value other than null is given to a setting that there is not. -/
def NamesUnknown (overrides : List (String × Value)) : Prop := ∃ x ∈ overrides, isNull x.2 = false ∧ x.1 ∉ names

/-- The value is an output format. -/
def IsFormat (v : Value) : Prop := ∃ format ∈ outputFormats, text? v = some format

/-- An output format is given that is none. -/
def GivesBadFormat (overrides : List (String × Value)) : Prop := ∃ v, lastGiven? "output_format" overrides = some v ∧ ¬ IsFormat v

/-- All that an override can come to. -/
inductive Overriding (s : Settings) (overrides : List (String × Value)) : Except Fault Settings → Prop
  | unknown {name : String} : NamesUnknown overrides → Overriding s overrides (.error (.unknownSetting name))
  | badFormat {v : Value} : ¬ NamesUnknown overrides → lastGiven? "output_format" overrides = some v → ¬ IsFormat v →
    Overriding s overrides (.error (formatFault v))
  | taken {s' : Settings} : ¬ NamesUnknown overrides → ¬ GivesBadFormat overrides → s'.IsValid →
    (∀ name, s'.value? name = (lastGiven? name overrides).or (s.value? name)) → Overriding s overrides (.ok s')

/-- A format that is none is a fault of the settings, if it can be written. -/
theorem kind_formatFault (v : Value) :
    (Failure.settings (formatFault v)).kind = if v.isWritable [] then .settings else .badValue := by
  unfold formatFault
  cases v.isWritable [] <;> rfl

/-- Overrides are settings set one after another, which are then checked. If there are none nothing is checked, which is
the same for settings that are valid. -/
theorem withOverrides_eq (hs : s.IsValid) (overrides : List (String × Value)) :
    s.withOverrides overrides = s.setAll (overrides.filter fun x => !isNull x.2) >>= checked := by
  unfold withOverrides
  dsimp only
  cases hchanges : overrides.filter fun x => !isNull x.2 with
  | nil => exact (checked_eq_ok.2 ⟨hs, rfl⟩).symm
  | cons x changes => rfl

theorem mem_changes {x : String × Value} : x ∈ overrides.filter (fun x => !isNull x.2) ↔ x ∈ overrides ∧ isNull x.2 = false := by
  rw [List.mem_filter, Bool.not_eq_true']

theorem withOverrides_cases (hs : s.IsValid) (overrides : List (String × Value)) :
    Overriding s overrides (s.withOverrides overrides) := by
  rw [withOverrides_eq hs]
  cases hset : s.setAll (overrides.filter fun x => !isNull x.2) with
  | error f =>
    obtain ⟨x, hx, hname, rfl⟩ := setAll_error hset
    obtain ⟨hmem, hnull⟩ := mem_changes.1 hx
    exact .unknown ⟨x, hmem, hnull, hname⟩
  | ok changed =>
    obtain ⟨hnames, hvalues⟩ := setAll_ok hset
    have hknown : ¬ NamesUnknown overrides := fun ⟨x, hmem, hnull, hname⟩ => hname (hnames x (mem_changes.2 ⟨hmem, hnull⟩))
    -- the new format is the last one given, and without one the old format, which is one
    have hchanged : some changed.outputFormat = (lastGiven? "output_format" overrides).or (some s.outputFormat) :=
      hvalues "output_format"
    have hformat : GivesBadFormat overrides ↔ ¬ changed.IsValid := by
      unfold GivesBadFormat
      cases hgiven : lastGiven? "output_format" overrides with
      | none =>
        rw [hgiven] at hchanged
        have hvalid : changed.IsValid := by
          rw [IsValid, Option.some.inj hchanged]
          exact hs
        simp [hvalid]
      | some v =>
        rw [hgiven] at hchanged
        have hv : changed.outputFormat = v := Option.some.inj hchanged
        simp [IsFormat, IsValid, hv]
    change Overriding s overrides changed.checked
    cases hchecked : changed.checked with
    | error f =>
      obtain ⟨hinvalid, rfl⟩ := checked_error hchecked
      obtain ⟨v, hv, hbad⟩ := hformat.2 hinvalid
      rw [hv] at hchanged
      rw [Option.some.inj hchanged]
      exact .badFormat hknown hv hbad
    | ok s' =>
      obtain ⟨hvalid, rfl⟩ := checked_eq_ok.1 hchecked
      exact .taken hknown (fun hbad => hformat.1 hbad hvalid) hvalid hvalues

/-! ## Runs of overrides -/

/-- The settings after an attempt to override them, which are the old ones if it fails. -/
def attempt (s : Settings) (overrides : List (String × Value)) : Settings :=
  match s.withOverrides overrides with
  | .ok s' => s'
  | .error _ => s

/-- The settings after some attempts. -/
def overridden (s : Settings) (attempts : List (List (String × Value))) : Settings := attempts.foldl attempt s

/-- The attempts that succeed when they are made one after another. -/
def accepted (s : Settings) : List (List (String × Value)) → List (List (String × Value))
  | [] => []
  | overrides :: rest => (if (s.withOverrides overrides).isOk then [overrides] else []) ++ accepted (s.attempt overrides) rest

/-- What one attempt leaves: valid settings, with the values given if it succeeds. -/
theorem attempt_step (hs : s.IsValid) (overrides : List (String × Value)) :
    (s.attempt overrides).IsValid ∧ ∀ name, (s.attempt overrides).value? name =
      (lastGiven? name (if (s.withOverrides overrides).isOk then [overrides] else []).flatten).or (s.value? name) := by
  have hcases := withOverrides_cases hs overrides
  rw [attempt]
  generalize s.withOverrides overrides = outcome at hcases
  cases hcases with
  | unknown _ => exact ⟨hs, fun _ => rfl⟩
  | badFormat _ _ _ => exact ⟨hs, fun _ => rfl⟩
  | taken _ _ hvalid hvalues =>
    refine ⟨hvalid, fun name => ?_⟩
    simp [hvalues name, Except.isOk, Except.toBool]

theorem overridden_spec (hs : s.IsValid) (attempts : List (List (String × Value))) :
    (s.overridden attempts).IsValid ∧ ∀ name,
      (s.overridden attempts).value? name = (lastGiven? name (s.accepted attempts).flatten).or (s.value? name) := by
  induction attempts generalizing s with
  | nil => exact ⟨hs, fun _ => rfl⟩
  | cons overrides rest ih =>
    obtain ⟨hvalid, hvalues⟩ := attempt_step hs overrides
    obtain ⟨hlast, hlater⟩ := ih hvalid
    refine ⟨hlast, fun name => ?_⟩
    rw [accepted, List.flatten_append, lastGiven?_append, Option.or_assoc, ← hvalues name]
    exact hlater name

/-- Whatever overrides are attempted on settings that could be made: the settings stay valid, and each has the last value
that an attempt which succeeded gave it, else its first one. A further attempt fails exactly if it gives a value to an unknown
setting, or a format that is none; the former counts first. The latter is told as a fault of the settings, if the value can be
written. Either way the settings stay as they are. -/
theorem overrides_run {values : List (String × Value)} {initial : Settings} (hinitial : ofValues values = .ok initial)
    (attempts : List (List (String × Value))) :
    let s := initial.overridden attempts
    s.IsValid ∧
      (∀ name, s.value? name = (lastGiven? name (initial.accepted attempts).flatten).or (initial.value? name)) ∧
      ∀ overrides, ((∃ f, s.withOverrides overrides = .error f) ↔ NamesUnknown overrides ∨ GivesBadFormat overrides) ∧
        ∀ f, s.withOverrides overrides = .error f → initial.overridden (attempts ++ [overrides]) = s ∧
          (NamesUnknown overrides → (Failure.settings f).kind = .badType) ∧
          (¬ NamesUnknown overrides → ∃ v, lastGiven? "output_format" overrides = some v ∧ ¬ IsFormat v ∧
            (Failure.settings f).kind = if v.isWritable [] then .settings else .badValue) := by
  intro s
  obtain ⟨hvalid, hvalues⟩ := overridden_spec (isValid_of_ofValues hinitial) attempts
  refine ⟨hvalid, hvalues, fun overrides => ?_⟩
  have hkeeps : ∀ f, s.withOverrides overrides = .error f → initial.overridden (attempts ++ [overrides]) = s := by
    intro f hf
    rw [overridden, List.foldl_append]
    change s.attempt overrides = s
    rw [attempt, hf]
  have hcases := withOverrides_cases hvalid overrides
  change Overriding s overrides (s.withOverrides overrides) at hcases
  generalize s.withOverrides overrides = outcome at hcases hkeeps
  cases hcases with
  | unknown hunknown =>
    refine ⟨⟨fun _ => .inl hunknown, fun _ => ⟨_, rfl⟩⟩, fun f hf => ⟨hkeeps f hf, ?_, fun hknown => absurd hunknown hknown⟩⟩
    cases hf
    exact fun _ => rfl
  | @badFormat v hknown hv hbad =>
    refine ⟨⟨fun _ => .inr ⟨v, hv, hbad⟩, fun _ => ⟨_, rfl⟩⟩, fun f hf =>
      ⟨hkeeps f hf, fun hunknown => absurd hunknown hknown, fun _ => ⟨v, hv, hbad, ?_⟩⟩⟩
    cases hf
    exact kind_formatFault v
  | taken hknown hgood _ _ =>
    exact ⟨⟨nofun, fun hor => hor.elim (absurd · hknown) (absurd · hgood)⟩, nofun⟩

/-- Attempts of which the first and the third fail: one names a setting that there is not, the other gives a format that is
none. -/
def mixedAttempts : List (List (String × Value)) := [
  [("csv_output", .scalar (.text "a.csv")), ("color", .scalar (.integer 1))],
  [("csv_output", .scalar (.text "b.csv")), ("color", .scalar .null), ("log_level", .scalar .null)],
  [("temp_prefix", .scalar (.text "x-")), ("output_format", .list [.scalar (.text "text")])]]

/-- The values of the second attempt count and no others, and a format that is a number is refused afterwards. -/
theorem overrides_run_mixed :
    ofValues [("output_format", .scalar (.text "json"))] = .ok { outputFormat := .scalar (.text "json") } ∧
      (∀ name, (({ outputFormat := .scalar (.text "json") } : Settings).overridden mixedAttempts).value? name =
        (lastGiven? name [("csv_output", .scalar (.text "b.csv")), ("color", .scalar .null), ("log_level", .scalar .null)]).or
          (({ outputFormat := .scalar (.text "json") } : Settings).value? name)) ∧
      ∃ f, (({ outputFormat := .scalar (.text "json") } : Settings).overridden mixedAttempts).withOverrides
        [("output_format", .scalar (.integer 1))] = .error f ∧ (Failure.settings f).kind = .settings := by
  have hinitial : ofValues [("output_format", .scalar (.text "json"))] = .ok { outputFormat := .scalar (.text "json") } := rfl
  obtain ⟨-, hvalues, hnext⟩ := overrides_run hinitial mixedAttempts
  obtain ⟨hfails, hkind⟩ := hnext [("output_format", .scalar (.integer 1))]
  have hbad : GivesBadFormat [("output_format", .scalar (.integer 1))] := ⟨_, rfl, by simp [IsFormat, text?]⟩
  have hknown : ¬ NamesUnknown [("output_format", .scalar (.integer 1))] := by simp [NamesUnknown, names]
  obtain ⟨f, hf⟩ := hfails.2 (.inr hbad)
  obtain ⟨v, hv, -, hkindOf⟩ := (hkind f hf).2.2 hknown
  cases hv
  have hwritable : (Value.scalar (.integer 1)).isWritable [] = true := by decide +kernel
  rw [hwritable] at hkindOf
  exact ⟨hinitial, hvalues, f, hf, hkindOf⟩

/-- The least integer of too many digits. -/
def longInteger : Value := .scalar (.integer (Int.ofNat (Nat.pow 10 Text.maxDigits)))

/-- A format that is an integer of too many digits is refused, though not as a fault of the settings. -/
theorem withOverrides_longInteger :
    ∃ f, ({} : Settings).withOverrides [("output_format", longInteger)] = .error f ∧ (Failure.settings f).kind = .badValue := by
  have hlong : longInteger.isWritable [] = false := by decide +kernel
  refine ⟨formatFault longInteger, rfl, ?_⟩
  rw [kind_formatFault, hlong]
  rfl

end ApkReport.Settings
