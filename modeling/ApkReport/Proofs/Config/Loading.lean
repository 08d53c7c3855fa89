/-
What loading settings comes to. A document that is null or a mapping gives its settings, if
their output format is one, and everything else is refused as settings: that is the promise.
It is kept for a content exactly if nothing in it is `Unguarded`. No guard stands before the
errors of a reader that refuses nothing, keys that cannot be sorted and integers that cannot
be written, which come out as they are, nor before an empty document that is no mapping, which
counts as none.
-/
import ApkReport.Config.Load
import ApkReport.Proofs.Archive.Written
import ApkReport.Proofs.CommandLine.Configuration
import ApkReport.Yaml.Reader

namespace ApkReport.Settings

open Config

/-! ## Values by name -/

/-- The value of a setting by its name. -/
def value? (s : Settings) : String → Option Value
  | "log_level" => some s.logLevel
  | "output_format" => some s.outputFormat
  | "csv_output" => some s.csvOutput
  | "temp_prefix" => some s.tempPrefix
  | _ => none

variable {s s' : Settings} {name : String} {v : Value} {values : List (String × Value)}

theorem value?_set? (h : s.set? name v = some s') (other : String) :
    s'.value? other = if other = name then some v else s.value? other := by
  unfold set? at h
  split at h <;> cases h
  all_goals
    unfold value?
    split <;> simp_all

theorem set?_isSome (s : Settings) (name : String) (v : Value) : (s.set? name v).isSome = names.contains name := by
  unfold set?
  split
  · rfl
  · rfl
  · rfl
  · rfl
  · simp_all [names]

/-- Values that are set one after another have names of settings, and the last value of a name counts. -/
theorem setAll_ok (h : s.setAll values = .ok s') :
    (∀ x ∈ values, x.1 ∈ names) ∧ ∀ other, s'.value? other = (values.reverse.lookup other).or (s.value? other) := by
  induction values generalizing s with
  | nil =>
    cases h
    exact ⟨by simp, fun _ => rfl⟩
  | cons x values ih =>
    obtain ⟨name, v⟩ := x
    have hsome := set?_isSome s name v
    rw [setAll] at h
    cases hset : s.set? name v with
    | none =>
      rw [hset] at h
      cases h
    | some changed =>
      rw [hset] at h hsome
      obtain ⟨hnames, hvalues⟩ := ih h
      refine ⟨List.forall_mem_cons.2 ⟨List.contains_iff_mem.1 hsome.symm, hnames⟩, fun other => ?_⟩
      rw [hvalues, List.reverse_cons, List.lookup_append, value?_set? hset other]
      by_cases hother : other = name
      · simp [hother]
      · have hbeq : (other == name) = false := by simpa using hother
        simp [hother, hbeq, List.lookup_cons]

/-- The first name that is none is refused. -/
theorem setAll_error {f : Fault} (h : s.setAll values = .error f) : ∃ x ∈ values, x.1 ∉ names ∧ f = .unknownSetting x.1 := by
  induction values generalizing s with
  | nil => cases h
  | cons x values ih =>
    obtain ⟨name, v⟩ := x
    have hsome := set?_isSome s name v
    rw [setAll] at h
    cases hset : s.set? name v with
    | none =>
      rw [hset] at h hsome
      cases h
      exact ⟨(name, v), List.mem_cons_self, fun hname => by simp [hname] at hsome, rfl⟩
    | some changed =>
      rw [hset] at h
      obtain ⟨y, hy, hrest⟩ := ih h
      exact ⟨y, List.mem_cons_of_mem _ hy, hrest⟩

theorem checked_error {f : Fault} (h : s.checked = .error f) : ¬ s.IsValid ∧ f = formatFault s.outputFormat := by
  refine ⟨fun hvalid => ?_, ?_⟩
  · rw [checked_eq_ok.2 ⟨hvalid, rfl⟩] at h
    cases h
  · unfold checked at h
    split at h
    · split at h
      · cases h
      · exact (Except.error.inj h).symm
    · exact (Except.error.inj h).symm

end ApkReport.Settings

namespace ApkReport.Config

open Text

/-! ## Settings from entries -/

/-- A level that is a number. -/
def isNumericLevel : String × Value → Bool
  | ("log_level", .scalar (.integer _)) => true
  | _ => false

/-- A setting can be taken from a document: it is a level that is a number, or every integer in it can be written. -/
def IsTakeable (marks : List (Nat × Value)) (x : String × Value) : Prop := isNumericLevel x = true ∨ x.2.isWritable marks = true

instance (marks : List (Nat × Value)) : DecidablePred (IsTakeable marks) := fun x =>
  inferInstanceAs (Decidable (isNumericLevel x = true ∨ x.2.isWritable marks = true))

/-- A setting as it is taken from a document: a level that is a number stays one, any other value becomes its text. -/
def taken (marks : List (Nat × Value)) (x : String × Value) : String × Value :=
  (x.1, if isNumericLevel x then x.2 else .scalar (.text (x.2.displayWith marks)))

section Entries

variable (marks : List (Nat × Value))

theorem settingValue_eq (x : String × Value) :
    settingValue marks x.1 x.2 = if IsTakeable marks x then .ok (taken marks x).2 else .error .longInteger := by
  obtain ⟨name, v⟩ := x
  have hsplit : settingValue marks name v =
      if isNumericLevel (name, v) then .ok v else (textOf marks v).map fun text => .scalar (.text text) := by
    unfold settingValue isNumericLevel
    split
    · rfl
    · split
      · simp_all
      · rfl
  rw [hsplit]
  unfold IsTakeable taken textOf
  by_cases hlevel : isNumericLevel (name, v) = true
  · simp [hlevel]
  · by_cases hw : v.isWritable marks = true
    · simp [hlevel, hw, Except.map]
    · simp [hlevel, hw, Except.map]

/-- The settings of entries are those of the values taken, if all of them can be. -/
theorem settingsOf_eq (found : List (Value × Value)) :
    settingsOf marks found =
      if ∀ x ∈ given found, IsTakeable marks x then Settings.ofValues ((given found).map (taken marks))
      else .error .longInteger := by
  have hmapM : ∀ xs : List (String × Value),
      (xs.mapM fun x => do return (x.1, ← settingValue marks x.1 x.2) : Except Fault (List (String × Value))) =
        if ∀ x ∈ xs, IsTakeable marks x then .ok (xs.map (taken marks)) else .error .longInteger := by
    intro xs
    induction xs with
    | nil => simp [pure, Except.pure]
    | cons x xs ih =>
      rw [List.mapM_cons, ih, settingValue_eq]
      by_cases hx : IsTakeable marks x
      · by_cases hxs : ∀ y ∈ xs, IsTakeable marks y
        · have hall : ∀ y ∈ x :: xs, IsTakeable marks y := List.forall_mem_cons.2 ⟨hx, hxs⟩
          rw [if_pos hx, if_pos hxs, if_pos hall]
          rfl
        · have hall : ¬ ∀ y ∈ x :: xs, IsTakeable marks y := fun h => hxs (List.forall_mem_cons.1 h).2
          rw [if_pos hx, if_neg hxs, if_neg hall]
          rfl
      · have hall : ¬ ∀ y ∈ x :: xs, IsTakeable marks y := fun h => hx (List.forall_mem_cons.1 h).1
        rw [if_neg hx, if_neg hall]
        rfl
  unfold settingsOf
  rw [hmapM]
  split <;> rfl

end Entries

/-- The names of settings are those that there are. -/
theorem mem_names_of_given {found : List (Value × Value)} {x : String × Value} (h : x ∈ given found) : x.1 ∈ Settings.names := by
  obtain ⟨⟨key, v⟩, -, hx⟩ := List.mem_filterMap.1 h
  obtain ⟨name, hname, hx⟩ := Option.bind_eq_some_iff.1 hx
  have hnamed : Settings.names.contains name = true := (Option.filter_eq_some_iff.1 hname).2
  split at hx
  · cases hx
  · cases hx
    exact List.contains_iff_mem.1 hnamed

/-- Settings of known names can be set. -/
theorem setAll_eq_ok {values : List (String × Value)} (h : ∀ x ∈ values, x.1 ∈ Settings.names) (s : Settings) :
    ∃ changed, s.setAll values = .ok changed := by
  induction values generalizing s with
  | nil => exact ⟨s, rfl⟩
  | cons x values ih =>
    obtain ⟨name, v⟩ := x
    obtain ⟨hname, hrest⟩ := List.forall_mem_cons.1 h
    have hset : ∃ changed, s.set? name v = some changed := by
      simp only [Settings.names, List.mem_cons, List.not_mem_nil, or_false] at hname
      rcases hname with rfl | rfl | rfl | rfl <;> exact ⟨_, rfl⟩
    obtain ⟨changed, hchanged⟩ := hset
    obtain ⟨last, hlast⟩ := ih hrest changed
    exact ⟨last, by rw [Settings.setAll, hchanged]; exact hlast⟩

/-- The values taken from entries can be set. -/
theorem setAll_taken (marks : List (Nat × Value)) (found : List (Value × Value)) (s : Settings) :
    ∃ changed, s.setAll ((given found).map (taken marks)) = .ok changed := by
  refine setAll_eq_ok (fun x hx => ?_) s
  obtain ⟨y, hy, rfl⟩ := List.mem_map.1 hx
  exact mem_names_of_given (x := y) hy

section Taken

variable {marks : List (Nat × Value)} {found : List (Value × Value)} {settings : Settings}
  (h : Settings.setAll {} ((given found).map (taken marks)) = .ok settings)
include h

/-- The value of a setting is the default, or one that was taken from the entries. -/
theorem value?_of_setAll_taken (name : String) :
    settings.value? name = ({} : Settings).value? name ∨ ∃ v, settings.value? name = some (taken marks (name, v)).2 := by
  have hvalue := (Settings.setAll_ok h).2 name
  cases hlookup : ((given found).map (taken marks)).reverse.lookup name with
  | none =>
    rw [hlookup] at hvalue
    exact .inl hvalue
  | some w =>
    rw [hlookup] at hvalue
    obtain ⟨before, after, hsplit, -⟩ := List.lookup_eq_some_iff.1 hlookup
    have hmem : (name, w) ∈ (given found).map (taken marks) := by
      rw [← List.mem_reverse, hsplit]
      simp
    obtain ⟨⟨other, v⟩, -, hx⟩ := List.mem_map.1 hmem
    obtain rfl : other = name := congrArg Prod.fst hx
    exact .inr ⟨v, hvalue.trans (congrArg some (congrArg Prod.snd hx).symm)⟩

/-- An output format that comes from entries is a text. -/
theorem exists_format_text : ∃ text, settings.outputFormat = .scalar (.text text) := by
  have hformat : some settings.outputFormat = some (.scalar (.text "text")) ∨
      ∃ v, some settings.outputFormat = some (taken marks ("output_format", v)).2 := value?_of_setAll_taken h "output_format"
  rcases hformat with hdefault | ⟨v, htaken⟩
  · exact ⟨_, Option.some.inj hdefault⟩
  · exact ⟨_, Option.some.inj htaken⟩

end Taken

/-! ## Documents -/

/-- The document in a content. -/
def Document (reader : DocumentReader) (content : Bytes) (v : Value) : Prop := reader content = .ok v

/-- The entries of a document that is a mapping, or null. -/
def entries? (v : Value) : Option (List (Value × Value)) :=
  match v.unmarked with
  | .scalar .null => some []
  | .mapping found => some found
  | _ => none

theorem readDocument_eq_ok {reader : DocumentReader} {path : String} {content : Bytes} {v : Value} :
    readDocument reader path content = .ok v ↔ Document reader content v := by
  unfold readDocument Document
  rcases reader content with (reason | ⟨e, message⟩) | w <;> simp

theorem Document.unique {reader : DocumentReader} {content : Bytes} {v w : Value} (h : Document reader content v)
    (h' : Document reader content w) : v = w :=
  Except.ok.inj (h.symm.trans h')

theorem isEmpty_unmarked (v : Value) : isEmpty v.unmarked = isEmpty v := by
  fun_induction Value.unmarked v with
  | case1 label v ih => rw [ih, isEmpty]
  | case2 v _ => rfl

theorem entries_of_entries? {path : String} {v : Value} {found : List (Value × Value)} (h : entries? v = some found) :
    entries path v = .ok found := by
  unfold entries
  rw [← isEmpty_unmarked]
  unfold entries? at h
  split at h
  next hv =>
    cases h
    rw [hv]
    rfl
  next hv =>
    cases h
    rw [hv]
    cases found with
    | nil => rfl
    | cons x found => rfl
  next => cases h

theorem entries_of_none {path : String} {v : Value} (h : entries? v = none) :
    entries path v = if isEmpty v then .ok [] else .error (.notMapping path v.unmarked.kindName) := by
  unfold entries
  split
  · rfl
  · unfold entries? at h
    split
    next found hv =>
      rw [hv] at h
      cases h
    next => rfl

/-! ## Loading -/

/-- The settings that a document promises. -/
def Promises (v : Value) (settings : Settings) : Prop :=
  ∃ found, entries? v = some found ∧ Settings.setAll {} ((given found).map (taken v.marks)) = .ok settings ∧ settings.IsValid

theorem Promises.unique {v : Value} {settings other : Settings} (h : Promises v settings) (h' : Promises v other) :
    settings = other := by
  obtain ⟨found, hfound, hset, -⟩ := h
  obtain ⟨found', hfound', hset', -⟩ := h'
  cases hfound.symm.trans hfound'
  cases hset.symm.trans hset'
  rfl

/-- Entries that no guard of the loading is for. -/
inductive Unsettled (marks : List (Nat × Value)) (found : List (Value × Value)) : Prop
  | keys {clash : KeyClash} : keyClash? (unknownKeys found) = some clash → Unsettled marks found
  | longKey {key : Value} : key ∈ unknownKeys found → key.isWritable [] = false → Unsettled marks found
  | longValue {x : String × Value} : x ∈ given found → ¬ IsTakeable marks x → Unsettled marks found

/-- A content that no guard of the loading is for. -/
inductive Unguarded (reader : DocumentReader) (content : Bytes) : Prop
  | failed {e : ReaderError} {message : String} : reader content = .error (.failed e message) → Unguarded reader content
  | emptyRoot {v : Value} : Document reader content v → entries? v = none → isEmpty v = true → Unguarded reader content
  | entries {v : Value} {found : List (Value × Value)} :
    Document reader content v → entries? v = some found → Unsettled v.marks found → Unguarded reader content

/-- The warning of an unknown key. -/
def unknownNote (threshold : Int) (key : Value) : List Event :=
  noted threshold .settings Journal.warning ("Ignoring unknown config key: " ++ key.displayWith [])

theorem on_lift {α : Type} (x : Except Fault α) (s : Session) : (lift x).on s = (x.mapError .settings, s) := by
  cases x <;> rfl

theorem on_lift_ok {α : Type} {x : Except Fault α} {a : α} (h : x = .ok a) (s : Session) : (lift x).on s = (.ok a, s) := by
  rw [on_lift, h]
  rfl

theorem on_lift_error {α : Type} {x : Except Fault α} {f : Fault} (h : x = .error f) (s : Session) :
    (lift x).on s = (.error (.settings f), s) := by
  rw [on_lift, h]
  rfl

theorem textOf_of_isWritable {marks : List (Nat × Value)} {v : Value} (h : v.isWritable marks = true) :
    textOf marks v = .ok (v.displayWith marks) :=
  if_pos h

/-- Keys that can be written are noted one by one. -/
theorem on_noteUnknown {keys : List Value} (h : ∀ key ∈ keys, key.isWritable [] = true) (s : Session) :
    (noteUnknown keys).on s = (.ok (), s.append (keys.flatMap (unknownNote s.level))) := by
  induction keys generalizing s with
  | nil => simp [noteUnknown]
  | cons key keys ih =>
    obtain ⟨hkey, hrest⟩ := List.forall_mem_cons.1 h
    rw [noteUnknown, Run.on_bind_ok (on_lift_ok (textOf_of_isWritable hkey) s), Run.on_bind, Run.on_note]
    dsimp only
    rw [ih hrest, Session.append_append, Session.append_level, List.flatMap_cons]
    rfl

/-- A key that cannot be written ends the noting. -/
theorem on_noteUnknown_error {keys : List Value} (h : ∃ key ∈ keys, key.isWritable [] = false) (s : Session) :
    ((noteUnknown keys).on s).1 = .error (.settings .longInteger) := by
  induction keys generalizing s with
  | nil => simp at h
  | cons key keys ih =>
    cases hkey : key.isWritable [] with
    | false =>
      have htext : textOf [] key = .error .longInteger := if_neg (by simp [hkey])
      rw [noteUnknown, Run.on_bind_error (on_lift_error htext s)]
    | true =>
      have hrest : ∃ key ∈ keys, key.isWritable [] = false := by
        obtain ⟨other, hmem, hother⟩ := h
        rcases List.mem_cons.1 hmem with rfl | hmem
        · rw [hkey] at hother
          cases hother
        · exact ⟨other, hmem, hother⟩
      rw [noteUnknown, Run.on_bind_ok (on_lift_ok (textOf_of_isWritable hkey) s), Run.on_bind, Run.on_note]
      exact ih hrest _

/-- What is done with the entries of a document. -/
def settle (marks : List (Nat × Value)) (found : List (Value × Value)) : Run Settings := do
  noteUnknown (← lift (sortKeys (unknownKeys found)))
  lift (settingsOf marks found)

theorem sortKeys_of_none {keys : List Value} (h : keyClash? keys = none) :
    ∃ sorted, sortKeys keys = .ok sorted ∧ sorted.Perm keys := by
  rw [sortKeys, h]
  exact ⟨_, rfl, List.mergeSort_perm _ _⟩

/-- Entries that are guarded in all respects give their settings, with a warning of each unknown key. -/
theorem on_settle {marks : List (Nat × Value)} {found : List (Value × Value)} (h : ¬ Unsettled marks found) (s : Session) :
    ∃ (settings : Settings) (sorted : List Value), Settings.setAll {} ((given found).map (taken marks)) = .ok settings ∧
      sorted.Perm (unknownKeys found) ∧
      (settle marks found).on s =
        ((Settings.checked settings).mapError .settings, s.append (sorted.flatMap (unknownNote s.level))) := by
  have hclash : keyClash? (unknownKeys found) = none := by
    cases hc : keyClash? (unknownKeys found) with
    | none => rfl
    | some clash => exact absurd (.keys hc) h
  obtain ⟨sorted, hsort, hperm⟩ := sortKeys_of_none hclash
  have hwritable : ∀ key ∈ sorted, key.isWritable [] = true := by
    intro key hkey
    cases hk : key.isWritable [] with
    | true => rfl
    | false => exact absurd (.longKey (hperm.mem_iff.1 hkey) hk) h
  have htaken : ∀ x ∈ given found, IsTakeable marks x := fun x hx =>
    Decidable.byContradiction fun hnot => h (.longValue hx hnot)
  obtain ⟨settings, hset⟩ := setAll_taken marks found {}
  refine ⟨settings, sorted, hset, hperm, ?_⟩
  rw [settle, Run.on_bind_ok (on_lift_ok hsort s), Run.on_bind_ok (on_noteUnknown hwritable s), on_lift, settingsOf_eq,
    if_pos htaken, Settings.ofValues, hset]
  rfl

theorem not_unsettled_nil (marks : List (Nat × Value)) : ¬ Unsettled marks [] := by
  rintro (hclash | hkey | hx)
  · cases hclash
  · cases hkey
  · cases hx

/-- Entries that are not fail: their unknown keys cannot be sorted, or else an integer cannot be written. -/
theorem on_settle_error {marks : List (Nat × Value)} {found : List (Value × Value)} (h : Unsettled marks found) (s : Session) :
    (∃ clash, keyClash? (unknownKeys found) = some clash ∧
        ((settle marks found).on s).1 = .error (.settings (.unorderedKeys clash))) ∨
      ((settle marks found).on s).1 = .error (.settings .longInteger) := by
  cases hclash : keyClash? (unknownKeys found) with
  | some clash =>
    have hsort : sortKeys (unknownKeys found) = .error (.unorderedKeys clash) := by rw [sortKeys, hclash]
    refine .inl ⟨clash, rfl, ?_⟩
    rw [settle, Run.on_bind_error (on_lift_error hsort s)]
  | none =>
    obtain ⟨sorted, hsort, hperm⟩ := sortKeys_of_none hclash
    refine .inr ?_
    rw [settle, Run.on_bind_ok (on_lift_ok hsort s)]
    by_cases hlong : ∃ key ∈ sorted, key.isWritable [] = false
    · exact congrArg Prod.fst (Run.on_bind_error (Prod.ext (on_noteUnknown_error hlong s) rfl) _)
    · have hwritable : ∀ key ∈ sorted, key.isWritable [] = true := fun key hkey =>
        Decidable.byContradiction fun hne => hlong ⟨key, hkey, by simpa using hne⟩
      have huntaken : ¬ ∀ x ∈ given found, IsTakeable marks x := by
        cases h with
        | keys hc =>
          rw [hclash] at hc
          cases hc
        | longKey hkey hk => exact absurd ⟨_, hperm.mem_iff.2 hkey, hk⟩ hlong
        | longValue hx hnot => exact fun hall => hnot (hall _ hx)
      rw [Run.on_bind_ok (on_noteUnknown hwritable s), on_lift, settingsOf_eq, if_neg huntaken]
      rfl

/-! ## Files -/

/-- What is done with the content of a file. -/
def loadContent (reader : DocumentReader) (path : String) (content : Bytes) : Run Settings := do
  let v ← lift (readDocument reader path content)
  settle v.marks (← lift (entries path v))

theorem read_of_isFile {files : FileSystem} {path : String} (h : files.isFile path = true) :
    ∃ content, files.read path = .ok content := by
  unfold FileSystem.isFile at h
  unfold FileSystem.read
  rcases hf : files.find path with e | (content | _)
  · simp [hf] at h
  · exact ⟨content, rfl⟩
  · simp [hf] at h

theorem on_load_file {reader : DocumentReader} {s : Session} {path : String} {content : Bytes}
    (hfile : s.files.isFile path = true) (hread : s.files.read path = .ok content) :
    (load reader (some path)).on s = (loadContent reader path content).on s := by
  unfold load loadContent settle
  simp only [Run.on_bind, Run.on_get, hfile, hread, Bool.not_true, Bool.false_eq_true, if_false]

theorem on_load_missing {reader : DocumentReader} {s : Session} {path : String} (h : s.files.isFile path = false) :
    (load reader (some path)).on s = (.ok {}, s.append (noted s.level .settings Journal.warning
      ("Config file not found: " ++ path ++ "; using defaults"))) := by
  unfold load
  simp only [Run.on_bind, Run.on_get, h, Bool.not_false, if_true, Run.on_note, Run.on_pure]

section Content

variable {reader : DocumentReader} {path : String} {content : Bytes} {s : Session}

theorem on_loadContent_error {f : Fault} (h : readDocument reader path content = .error f) :
    (loadContent reader path content).on s = (.error (.settings f), s) := by
  rw [loadContent, Run.on_bind_error (on_lift_error h s)]

theorem on_loadContent_document {v : Value} (h : Document reader content v) :
    (loadContent reader path content).on s = (lift (entries path v) >>= settle v.marks).on s := by
  rw [loadContent, Run.on_bind_ok (on_lift_ok (readDocument_eq_ok.2 h) s)]

theorem on_loadContent_entries {v : Value} {found : List (Value × Value)} (h : Document reader content v) (hf : entries path v = .ok found) :
    (loadContent reader path content).on s = (settle v.marks found).on s := by
  rw [on_loadContent_document h, Run.on_bind_ok (on_lift_ok hf s)]

/-! ## The promise -/

/-- What a reader fails with, if it refuses nothing, is no fault of the settings. -/
theorem readerKind_ne (e : ReaderError) : Failure.readerKind e ≠ .settings := by
  cases e <;> exact nofun

/-- A content that no guard is for comes out with an error of another kind, or as an empty document. -/
theorem loadContent_of_unguarded (h : Unguarded reader content) (path : String) (s : Session) :
    (∃ f, ((loadContent reader path content).on s).1 = .error f ∧ f.kind ≠ .settings) ∨
      ((loadContent reader path content).on s).1 = .ok {} ∧ ∀ v, Document reader content v → entries? v = none := by
  cases h with
  | @failed e message hfailed =>
    have hread : readDocument reader path content = .error (.reader e message) := by rw [readDocument, hfailed]
    exact .inl ⟨.settings (.reader e message), by rw [on_loadContent_error hread], readerKind_ne e⟩
  | @emptyRoot v hv hnone hempty =>
    have hentries : entries path v = .ok [] := by rw [entries_of_none hnone, if_pos hempty]
    refine .inr ⟨?_, fun w hw => ?_⟩
    · obtain ⟨settings, sorted, hset, -, hon⟩ := on_settle (not_unsettled_nil v.marks) s
      cases hset
      rw [on_loadContent_entries hv hentries, hon]
      rfl
    · rwa [hw.unique hv]
  | @entries v found hv hfound hun =>
    rw [on_loadContent_entries hv (entries_of_entries? hfound)]
    rcases on_settle_error hun s with ⟨clash, -, herror⟩ | herror
    · exact .inl ⟨_, herror, nofun⟩
    · exact .inl ⟨_, herror, nofun⟩

/-- A content that is guarded gives the settings that it promises, and is refused as settings if it promises none. -/
theorem loadContent_of_guarded (h : ¬ Unguarded reader content) (path : String) (s : Session) :
    (∃ v found settings, ∃ sorted : List Value, Document reader content v ∧ entries? v = some found ∧ Promises v settings ∧
        sorted.Perm (unknownKeys found) ∧
        (loadContent reader path content).on s = (.ok settings, s.append (sorted.flatMap (unknownNote s.level)))) ∨
      (∃ f, ((loadContent reader path content).on s).1 = .error f ∧ f.kind = .settings) ∧
        ∀ v settings, Document reader content v → ¬ Promises v settings := by
  cases hread : readDocument reader path content with
  | error f =>
    have hkind : (Failure.settings f).kind = .settings := by
      unfold readDocument at hread
      rcases hvalue : reader content with (reason | ⟨e, message⟩) | v
      · rw [hvalue] at hread
        cases hread
        rfl
      · exact absurd (.failed hvalue) h
      · rw [hvalue] at hread
        cases hread
    refine .inr ⟨⟨_, by rw [on_loadContent_error hread], hkind⟩, fun v _ hv => ?_⟩
    rw [readDocument_eq_ok.2 hv] at hread
    cases hread
  | ok v =>
    have hv : Document reader content v := readDocument_eq_ok.1 hread
    cases hfound : entries? v with
    | none =>
      have hempty : isEmpty v = false := by
        cases he : isEmpty v with
        | false => rfl
        | true => exact absurd (.emptyRoot hv hfound he) h
      have hentries : entries path v = .error (.notMapping path v.unmarked.kindName) := by
        rw [entries_of_none hfound, hempty]
        rfl
      refine .inr ⟨⟨_, by rw [on_loadContent_document hv, Run.on_bind_error (on_lift_error hentries s)], rfl⟩, ?_⟩
      rintro w settings hw ⟨found, hsome, -⟩
      rw [hw.unique hv, hfound] at hsome
      cases hsome
    | some found =>
      obtain ⟨settings, sorted, hset, hperm, hon⟩ := on_settle (fun hun => h (.entries hv hfound hun)) s
      rw [on_loadContent_entries hv (entries_of_entries? hfound), hon]
      cases hchecked : Settings.checked settings with
      | ok checked =>
        obtain ⟨hvalid, rfl⟩ := Settings.checked_eq_ok.1 hchecked
        exact .inl ⟨v, found, settings, sorted, hv, hfound, ⟨found, hfound, hset, hvalid⟩, hperm, rfl⟩
      | error f =>
        have hkind : (Failure.settings f).kind = .settings := by
          rw [(Settings.checked_error hchecked).2]
          obtain ⟨text, htext⟩ := exists_format_text hset
          rw [htext]
          rfl
        refine .inr ⟨⟨_, rfl, hkind⟩, ?_⟩
        rintro w other hw ⟨found', hfound', hset', hvalid⟩
        rw [hw.unique hv] at hfound' hset'
        cases hfound.symm.trans hfound'
        cases hset.symm.trans hset'
        rw [Settings.checked_eq_ok.2 ⟨hvalid, rfl⟩] at hchecked
        cases hchecked

end Content

/-- Loading a file gives the settings that its document promises, and if it promises none, fails as settings. -/
def KeepsPromise (reader : DocumentReader) (s : Session) (path : String) (content : Bytes) : Prop :=
  (∀ settings, ((load reader (some path)).on s).1 = .ok settings ↔ ∃ v, Document reader content v ∧ Promises v settings) ∧
    ∀ f, ((load reader (some path)).on s).1 = .error f → f.kind = .settings

/-- Without a path or a file the defaults hold, the latter with a warning. A file is loaded as promised exactly if its
content is guarded, with a warning of each unknown key; else an error of another kind comes out, or the defaults. -/
theorem load_keeps_promise_iff (reader : DocumentReader) (s : Session) :
    (load reader none).on s = (.ok {}, s) ∧
    (∀ path, s.files.isFile path = false → (load reader (some path)).on s = (.ok {}, s.append (noted s.level .settings
      Journal.warning ("Config file not found: " ++ path ++ "; using defaults")))) ∧
    ∀ path, s.files.isFile path = true → ∃ content, s.files.read path = .ok content ∧
      (KeepsPromise reader s path content ↔ ¬ Unguarded reader content) ∧
      (¬ Unguarded reader content → ∀ v settings, Document reader content v → Promises v settings →
        ∃ found, ∃ sorted : List Value, entries? v = some found ∧ sorted.Perm (unknownKeys found) ∧
          (load reader (some path)).on s = (.ok settings, s.append (sorted.flatMap (unknownNote s.level)))) ∧
      (Unguarded reader content → (∃ f, ((load reader (some path)).on s).1 = .error f ∧ f.kind ≠ .settings) ∨
        ((load reader (some path)).on s).1 = .ok {} ∧ ∀ v, Document reader content v → entries? v = none) := by
  refine ⟨rfl, fun path => on_load_missing, fun path hfile => ?_⟩
  obtain ⟨content, hread⟩ := read_of_isFile hfile
  have hload := @on_load_file reader s path content hfile hread
  refine ⟨content, hread, ⟨fun hkeeps hun => ?_, fun hguarded => ?_⟩, fun hguarded v settings hv hpromise => ?_, fun hun => ?_⟩
  · rw [KeepsPromise, hload] at hkeeps
    rcases loadContent_of_unguarded hun path s with ⟨f, hf, hkind⟩ | ⟨hok, hnone⟩
    · exact hkind (hkeeps.2 f hf)
    · obtain ⟨v, hv, found, hsome, -⟩ := (hkeeps.1 {}).1 hok
      rw [hnone v hv] at hsome
      cases hsome
  · rw [KeepsPromise, hload]
    rcases loadContent_of_guarded hguarded path s with ⟨v, found, settings, _, hv, hfound, hpromise, -, hon⟩ | ⟨⟨f, hf, hkind⟩, hnone⟩
    · rw [hon]
      refine ⟨fun other => ⟨fun h => ?_, ?_⟩, nofun⟩
      · cases h
        exact ⟨v, hv, hpromise⟩
      · rintro ⟨w, hw, hother⟩
        rw [hw.unique hv] at hother
        rw [hpromise.unique hother]
    · rw [hf]
      refine ⟨fun settings => ⟨nofun, ?_⟩, fun g hg => ?_⟩
      · rintro ⟨v, hv, hpromise⟩
        exact absurd hpromise (hnone v settings hv)
      · cases hg
        exact hkind
  · rcases loadContent_of_guarded hguarded path s with ⟨w, found, other, sorted, hw, hfound, hother, hperm, hon⟩ | ⟨-, hnone⟩
    · cases hv.unique hw
      cases hpromise.unique hother
      exact ⟨found, sorted, hfound, hperm, hload.trans hon⟩
    · exact absurd hpromise (hnone v settings hv)
  · rw [hload]
    exact loadContent_of_unguarded hun path s

open Archive (sessionOver)

/-- The reader takes an empty content for an empty document. -/
theorem document_empty : Document Yaml.reader [] (.scalar .null) := by
  have htext : decodeUtf8 [] = .ok "" := by
    rw [decodeUtf8, utf8Pieces]
    rfl
  rw [Document, Yaml.reader, htext]
  rfl

theorem not_unguarded_empty : ¬ Unguarded Yaml.reader [] := by
  rintro (h | ⟨hv, hnone, -⟩ | ⟨hv, hfound, hun⟩)
  · cases h.symm.trans document_empty
  · cases hv.unique document_empty
    cases hnone
  · cases hv.unique document_empty
    cases hfound
    exact not_unsettled_nil _ hun

/-- An empty file keeps the promise and gives the defaults, as a missing one does; a byte that starts no character breaks it. -/
theorem load_keeps_promise_empty :
    (KeepsPromise Yaml.reader (sessionOver []) "/a.apk" [] ∧ (load Yaml.reader (some "/a.apk")).on (sessionOver []) = (.ok {}, sessionOver [])) ∧
      (load Yaml.reader (some "/b")).on (sessionOver []) = (.ok {}, (sessionOver []).append (noted Journal.info .settings
        Journal.warning ("Config file not found: /b; using defaults"))) ∧
      ¬ KeepsPromise Yaml.reader (sessionOver [0xFF]) "/a.apk" [0xFF] := by
  have hpromise : Promises (.scalar .null) {} := ⟨[], rfl, rfl, Settings.isValid_default⟩
  have hbad : decodeUtf8 [0xFF] = .error ⟨0, [0xFF], .badStart⟩ := by
    rw [decodeUtf8, utf8Pieces]
    rfl
  have hfailed : Yaml.reader [0xFF] = .error (.failed .encoding (Utf8Error.message ⟨0, [0xFF], .badStart⟩)) := by
    rw [Yaml.reader, hbad]
  refine ⟨?_, (load_keeps_promise_iff Yaml.reader (sessionOver [])).2.1 "/b" (by decide +kernel), ?_⟩
  · obtain ⟨content, hread, hkeeps, hnoted, -⟩ := (load_keeps_promise_iff Yaml.reader (sessionOver [])).2.2 "/a.apk" (by decide +kernel)
    cases hread
    obtain ⟨found, sorted, hfound, hperm, hon⟩ := hnoted not_unguarded_empty _ _ document_empty hpromise
    cases hfound
    obtain rfl := hperm.eq_nil
    exact ⟨hkeeps.2 not_unguarded_empty, by simpa using hon⟩
  · obtain ⟨content, hread, hkeeps, -⟩ := (load_keeps_promise_iff Yaml.reader (sessionOver [0xFF])).2.2 "/a.apk" (by decide +kernel)
    cases hread
    exact fun h => hkeeps.1 h (.failed hfailed)

/-- The kind of the failure that an outcome is, if it is one. -/
def failureKind? {α : Type} : Except Failure α → Option Failure.Kind
  | .ok _ => none
  | .error f => some f.kind

set_option maxRecDepth 20000 in
/-- Bytes that are no text, a flag that is none, keys of two kinds: none of them fails as settings. An empty list gives the
defaults, where a list that is not empty fails. -/
theorem load_fails_otherwise :
    failureKind? ((load Yaml.reader (some "/a.apk")).on (sessionOver [0xFF])).1 = some .encoding ∧
      failureKind? ((load Yaml.reader (some "/a.apk")).on (sessionOver (Bytes.ofString "!!bool x"))).1 = some .missingKey ∧
      failureKind? ((load Yaml.reader (some "/a.apk")).on (sessionOver (Bytes.ofString "1: a\nb: c"))).1 = some .badType ∧
      failureKind? ((load Yaml.reader (some "/a.apk")).on (sessionOver (Bytes.ofString "[]"))).1 = none ∧
      failureKind? ((load Yaml.reader (some "/a.apk")).on (sessionOver (Bytes.ofString "[1]"))).1 = some .settings := by
  decide +kernel

end ApkReport.Config
