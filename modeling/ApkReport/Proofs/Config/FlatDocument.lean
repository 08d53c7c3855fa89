/-
Documents of scalars: their keys are texts, and their values have no parts. The entries are
then told apart by their names alone, so that their order does not count, and the unknown keys
among them have an order of their own.
-/
import ApkReport.Proofs.Config.Overrides
import ApkReport.Proofs.Dex.Match
import ApkReport.Proofs.Yaml.Keys
import Mathlib.Data.List.Basic
import Mathlib.Data.Set.List

namespace ApkReport.Config

/-- The keys are texts, and the values are scalars. -/
def IsFlat (found : List (Value × Value)) : Prop :=
  ∀ x ∈ found, (∃ name : String, x.1 = .scalar (.text name)) ∧ x.2.isKey = true

/-- The value that a document gives a setting, if it gives one other than null. -/
def fileValue? (found : List (Value × Value)) (name : String) : Option Value :=
  (((found.find? fun x => Settings.text? x.1 = some name).map (·.2)).filter (!Settings.isNull ·)).map fun v =>
    (taken [] (name, v)).2

section Scalars

variable {marks : List (Nat × Value)} {v : Value}

/-- The text of a scalar has nothing to do with marked collections. -/
theorem displayWith_of_isKey (h : v.isKey = true) : v.displayWith marks = v.displayWith [] := by
  cases v with
  | bytes b => simp [Value.displayWith, Value.literalWith, Value.literalIn]
  | scalar _ | date _ | moment _ => rfl
  | _ => cases h

theorem isWritable_of_isKey (h : v.isKey = true) : v.isWritable marks = v.isWritable [] := by
  cases v with
  | bytes _ | date _ | moment _ => simp [Value.isWritable, Value.showsTooLong]
  | scalar _ => rfl
  | _ => cases h

theorem taken_of_isKey {name : String} (h : v.isKey = true) : taken marks (name, v) = taken [] (name, v) := by
  unfold taken
  rw [displayWith_of_isKey h]

theorem isTakeable_of_isKey {name : String} (h : v.isKey = true) : IsTakeable marks (name, v) ↔ IsTakeable [] (name, v) := by
  unfold IsTakeable
  rw [isWritable_of_isKey h]

end Scalars

theorem isSameKey_text {a b : String} : (Value.scalar (.text a)).isSameKey (.scalar (.text b)) = decide (a = b) := by
  simp [Value.isSameKey, Scalar.worth?]

/-! ## Entries by name -/

/-- Among entries with distinct names, the entry of a name is the only one. -/
theorem lookup_eq_some_iff {values : List (String × Value)} (h : (values.map Prod.fst).Nodup) {name : String} {v : Value} :
    values.lookup name = some v ↔ (name, v) ∈ values := by
  induction values with
  | nil => simp
  | cons x values ih =>
    obtain ⟨other, w⟩ := x
    obtain ⟨hnew, hrest⟩ := List.nodup_cons.1 h
    by_cases hname : name = other
    · subst hname
      have hnone : (name, v) ∉ values := fun hmem => hnew (List.mem_map.2 ⟨(name, v), hmem, rfl⟩)
      simp [hnone, eq_comm]
    · have hbeq : (name == other) = false := by simpa using hname
      simp [List.lookup_cons, hbeq, hname, ih hrest]

/-- The order of entries with distinct names does not count. -/
theorem lookup_of_perm {values values' : List (String × Value)} (h : (values.map Prod.fst).Nodup) (hperm : values'.Perm values)
    (name : String) : values'.lookup name = values.lookup name := by
  have h' : (values'.map Prod.fst).Nodup := (hperm.map Prod.fst).nodup_iff.2 h
  ext v
  rw [lookup_eq_some_iff h, lookup_eq_some_iff h', hperm.mem_iff]

section Flat

variable {found : List (Value × Value)}

/-- The mappings that a reader makes are dictionaries, in which no key comes twice. -/
def MakesDictionaries (reader : DocumentReader) : Prop :=
  ∀ {content : Bytes} {v : Value} {found : List (Value × Value)}, Document reader content v → v.unmarked = .mapping found →
    DistinctKeys found

theorem makesDictionaries_reader : MakesDictionaries Yaml.reader := by
  intro content v found h hmapping
  unfold Document Yaml.reader at h
  split at h
  · cases h
  · next text _ =>
    cases hread : Yaml.readValue text with
    | error f =>
      rw [hread] at h
      cases h
    | ok w =>
      rw [hread] at h
      cases h
      exact Yaml.distinctKeys_of_readValue hread hmapping

/-- The keys of a document are distinct. -/
theorem distinctKeys_of_document {reader : DocumentReader} (hreader : MakesDictionaries reader) {content : Bytes} {v : Value}
    (h : Document reader content v) (hfound : entries? v = some found) : DistinctKeys found := by
  unfold entries? at hfound
  split at hfound
  · cases hfound
    exact .nil
  · next hmapping =>
    cases hfound
    exact hreader h hmapping
  · cases hfound

theorem settingName?_text (name : String) : settingName? (.scalar (.text name)) = if name ∈ Settings.names then some name else none := by
  unfold settingName? Settings.text?
  by_cases h : name ∈ Settings.names <;> simp [h, Option.filter]

theorem settingName?_eq_some {key : Value} {name : String} :
    settingName? key = some name ↔ key = .scalar (.text name) ∧ name ∈ Settings.names := by
  constructor
  · intro h
    obtain ⟨htext, hname⟩ := Option.filter_eq_some_iff.1 h
    exact ⟨Settings.eq_of_text? htext, List.contains_iff_mem.1 hname⟩
  · rintro ⟨rfl, hname⟩
    rw [settingName?_text, if_pos hname]

/-- An entry gives a setting a value if its key is the name and its value is not null. -/
theorem givenBy_eq_some {key w v : Value} {name : String} :
    ((settingName? key).bind fun name => if Settings.isNull w then none else some (name, w)) = some (name, v) ↔
      (key = .scalar (.text name) ∧ w = v) ∧ name ∈ Settings.names ∧ Settings.isNull v = false := by
  rw [Option.bind_eq_some_iff]
  constructor
  · rintro ⟨other, hother, hx⟩
    obtain ⟨rfl, hname⟩ := settingName?_eq_some.1 hother
    split at hx
    · cases hx
    · next hnull =>
      cases hx
      exact ⟨⟨rfl, rfl⟩, hname, by simpa using hnull⟩
  · rintro ⟨⟨rfl, rfl⟩, hname, hnull⟩
    exact ⟨name, settingName?_eq_some.2 ⟨rfl, hname⟩, by rw [hnull]; rfl⟩

theorem mem_given {name : String} {v : Value} :
    (name, v) ∈ given found ↔ (.scalar (.text name), v) ∈ found ∧ name ∈ Settings.names ∧ Settings.isNull v = false := by
  unfold given
  rw [List.mem_filterMap]
  constructor
  · rintro ⟨⟨key, w⟩, hmem, hx⟩
    obtain ⟨⟨rfl, rfl⟩, hrest⟩ := givenBy_eq_some.1 hx
    exact ⟨hmem, hrest⟩
  · rintro ⟨hmem, hrest⟩
    exact ⟨_, hmem, givenBy_eq_some.2 ⟨⟨rfl, rfl⟩, hrest⟩⟩

theorem nodup_given (h : DistinctKeys found) : ((given found).map Prod.fst).Nodup := by
  unfold given
  rw [List.Nodup, List.pairwise_map, List.pairwise_filterMap]
  refine h.imp fun {x y} hxy a ha b hb hab => ?_
  obtain ⟨⟨hx, -⟩, -⟩ := givenBy_eq_some.1 ha
  obtain ⟨⟨hy, -⟩, -⟩ := givenBy_eq_some.1 hb
  rw [hx, hy, isSameKey_text] at hxy
  exact of_decide_eq_false hxy hab

/-- Among distinct keys, the first entry with a key is the only one. -/
theorem find?_eq_some_iff (h : DistinctKeys found) {name : String} {v : Value} :
    (found.find? fun x => Settings.text? x.1 = some name).map (·.2) = some v ↔ (.scalar (.text name), v) ∈ found := by
  induction found with
  | nil => simp
  | cons x found ih =>
    obtain ⟨key, w⟩ := x
    obtain ⟨hnew, hrest⟩ := List.pairwise_cons.1 h
    rw [List.find?_cons]
    by_cases htext : Settings.text? key = some name
    · obtain rfl := Settings.eq_of_text? htext
      have hnone : (.scalar (.text name), v) ∉ found := by
        intro hmem
        have hdistinct := hnew _ hmem
        rw [isSameKey_text, decide_eq_true rfl] at hdistinct
        cases hdistinct
      simp [htext, hnone, eq_comm]
    · have hkey : .scalar (.text name) ≠ key := by
        rintro rfl
        exact htext rfl
      simp only [htext, decide_false, List.mem_cons, Prod.mk.injEq, hkey, false_and, false_or]
      exact ih hrest

/-- The values taken have distinct names. -/
theorem nodup_taken (h : DistinctKeys found) : (((given found).map (taken [])).map Prod.fst).Nodup := by
  rw [List.map_map]
  exact nodup_given h

/-- The value that a document gives a setting is the one taken from it. -/
theorem fileValue?_eq (h : DistinctKeys found) {name : String} (hname : name ∈ Settings.names) :
    fileValue? found name = ((given found).map (taken [])).lookup name := by
  ext v
  rw [lookup_eq_some_iff (nodup_taken h), fileValue?, Option.map_eq_some_iff, List.mem_map]
  constructor
  · rintro ⟨w, hw, rfl⟩
    obtain ⟨hfind, hnull⟩ := Option.filter_eq_some_iff.1 hw
    exact ⟨(name, w), mem_given.2 ⟨(find?_eq_some_iff h).1 hfind, hname, by simpa using hnull⟩, rfl⟩
  · rintro ⟨⟨other, w⟩, hmem, hx⟩
    obtain rfl : other = name := congrArg Prod.fst hx
    obtain ⟨hfound, -, hnull⟩ := mem_given.1 hmem
    exact ⟨w, Option.filter_eq_some_iff.2 ⟨(find?_eq_some_iff h).2 hfound, by simpa using hnull⟩, congrArg Prod.snd hx⟩

/-- An entry of a setting. -/
def isKnown (x : Value × Value) : Bool := (settingName? x.1).isSome

/-- Settings are given by the entries of settings alone. -/
theorem given_filter_isKnown (found : List (Value × Value)) : given (found.filter isKnown) = given found := by
  unfold given
  rw [List.filterMap_filter]
  refine List.filterMap_congr fun (key, v) _ => ?_
  cases h : settingName? key <;> simp [isKnown, h]

/-- The order of entries and unknown keys among them make no difference to what is given. -/
theorem given_perm {found' : List (Value × Value)} (h : (found'.filter isKnown).Perm (found.filter isKnown)) :
    (given found').Perm (given found) := by
  rw [← given_filter_isKnown found, ← given_filter_isKnown found']
  exact h.filterMap _

/-! ## Unknown keys -/

/-- The unknown keys are texts, each of which stands for an entry that is not a setting. -/
theorem unknownKeys_of_flat (hflat : IsFlat found) (h : DistinctKeys found) :
    ∃ names : List String, unknownKeys found = names.map (fun name => .scalar (.text name)) ∧ names.Nodup ∧
      ∀ name, name ∈ names ↔ (∃ v, (.scalar (.text name), v) ∈ found) ∧ name ∉ Settings.names := by
  have htexts : unknownKeys found ∈ Set.range (List.map fun name : String => Value.scalar (.text name)) := by
    rw [Set.range_list_map]
    intro key hkey
    obtain ⟨x, hx, rfl⟩ := List.mem_map.1 (List.mem_filter.1 hkey).1
    obtain ⟨name, hname⟩ := (hflat x hx).1
    exact ⟨name, hname.symm⟩
  obtain ⟨names, hnames⟩ := htexts
  refine ⟨names, hnames.symm, ?_, fun name => ?_⟩
  · have hkeys : (found.map (·.1)).Pairwise fun a b => a.isSameKey b = false := List.pairwise_map.2 h
    have hunknown : (unknownKeys found).Pairwise fun a b => a.isSameKey b = false := hkeys.sublist List.filter_sublist
    rw [← hnames, List.pairwise_map] at hunknown
    exact hunknown.imp fun hab => of_decide_eq_false (isSameKey_text ▸ hab)
  · have hmem : name ∈ names ↔ Value.scalar (.text name) ∈ unknownKeys found := by
      rw [← hnames, List.mem_map]
      constructor
      · exact fun h => ⟨name, h, rfl⟩
      · rintro ⟨other, hother, heq⟩
        cases heq
        exact hother
    rw [hmem, unknownKeys, List.mem_filter, List.mem_map, settingName?_text]
    simp

/-- Texts are sorted in their own order. -/
theorem sortKeys_texts {names : List String} (h : names.Nodup) :
    ∃ sorted : List String, sortKeys (names.map fun name => .scalar (.text name)) = .ok (sorted.map fun name => .scalar (.text name)) ∧
      sorted.Perm names ∧ sorted.Pairwise (· < ·) := by
  have hclash : keyClash? (names.map fun name => .scalar (.text name)) = none := by
    cases names with
    | nil => rfl
    | cons name names =>
      have hranks : (((name :: names).map fun name => Value.scalar (.text name)).map (·.rank)).eraseDups = [.text] := by
        have htext : (Value.rank ∘ fun name : String => .scalar (.text name)) = fun _ => Value.Rank.text := rfl
        rw [List.map_map, htext, List.map_cons, List.eraseDups_cons]
        simp [List.map_const']
      unfold keyClash?
      dsimp only
      rw [hranks]
      rfl
  have hle : (names.mergeSort fun a b => a ≤ b).Pairwise (· ≤ ·) := Dex.pairwise_mergeSort_key id names
  have hne : (names.mergeSort fun a b => a ≤ b).Pairwise (· ≠ ·) := (List.mergeSort_perm _ _).symm.nodup h
  refine ⟨names.mergeSort fun a b => a ≤ b, ?_, List.mergeSort_perm _ _, ?_⟩
  · rw [sortKeys, hclash, List.map_mergeSort]
    intro a _ b _
    change decide (a ≤ b) = !decide (b < a)
    rw [← decide_not, decide_eq_decide, String.not_lt]
  · exact (hle.and hne).imp fun {a b} hab => Decidable.byContradiction fun hn => hab.2 (String.le_antisymm hab.1 hn)

/-- The unknown keys of entries, each of them once and in order. -/
structure AreUnknown (found : List (Value × Value)) (unknown : List String) : Prop where
  sorted : unknown.Pairwise (· < ·)
  mem_iff : ∀ name, name ∈ unknown ↔ (∃ v, (.scalar (.text name), v) ∈ found) ∧ name ∉ Settings.names

/-- Unknown keys that are texts are noted in order, whatever the settings come to. -/
theorem on_settle_flat (hflat : IsFlat found) (h : DistinctKeys found) (marks : List (Nat × Value)) (s : Session) :
    ∃ unknown, AreUnknown found unknown ∧ (settle marks found).on s = ((settingsOf marks found).mapError .settings,
      s.append (unknown.flatMap fun name => unknownNote s.level (.scalar (.text name)))) := by
  obtain ⟨names, hnames, hnodup, hmem⟩ := unknownKeys_of_flat hflat h
  obtain ⟨sorted, hsort, hperm, hsorted⟩ := sortKeys_texts hnodup
  rw [← hnames] at hsort
  have hwritable : ∀ key ∈ sorted.map fun name => Value.scalar (.text name), key.isWritable [] = true := by
    intro key hkey
    obtain ⟨name, -, rfl⟩ := List.mem_map.1 hkey
    rfl
  refine ⟨sorted, ⟨hsorted, fun name => by rw [hperm.mem_iff, hmem]⟩, ?_⟩
  rw [settle, Run.on_bind_ok (on_lift_ok hsort s), Run.on_bind_ok (on_noteUnknown hwritable s), on_lift, List.flatMap_map]

end Flat

/-- An unknown key is warned of where warnings are logged. -/
theorem unknownNote_text {threshold : Int} (h : threshold ≤ Journal.warning) (name : String) :
    unknownNote threshold (.scalar (.text name)) =
      [.note .settings Journal.warning ("Ignoring unknown config key: " ++ name) none] := by
  refine if_pos ?_
  split
  · exact le_rfl
  · exact h

/-! ## Documents that are given -/

/-- Entries of scalars. -/
def scalarEntries (pairs : List (Scalar × Scalar)) : List (Value × Value) := pairs.map fun (k, v) => (.scalar k, .scalar v)

/-- Entries are of these scalars, as it can be decided. -/
def areScalars : List (Value × Value) → List (Scalar × Scalar) → Bool
  | [], [] => true
  | (.scalar k, .scalar v) :: found, (k', v') :: pairs => k = k' && v = v' && areScalars found pairs
  | _, _ => false

theorem eq_scalarEntries {found : List (Value × Value)} {pairs : List (Scalar × Scalar)} (h : areScalars found pairs = true) :
    found = scalarEntries pairs := by
  fun_induction areScalars found pairs with
  | case1 => rfl
  | case2 k v found k' v' pairs ih =>
    simp only [Bool.and_eq_true, decide_eq_true_eq] at h
    obtain ⟨⟨rfl, rfl⟩, hrest⟩ := h
    rw [ih hrest]
    rfl
  | case3 => cases h

end ApkReport.Config
