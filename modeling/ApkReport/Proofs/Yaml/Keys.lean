/-
The keys of a mapping that is read from a text are distinct. Entries are set one after
another, where a key that is already there keeps its place and takes the new value
(`distinctKeys_entriesOf`); the mapping at the root of a document is made in this way, whether
it is marked or not, and scalars are never mappings (`distinctKeys_of_readValue`).
-/
import ApkReport.Yaml.Meaning
import ApkReport.Proofs.Session.Run

namespace ApkReport

/-- No key is the same as a later one. -/
def DistinctKeys (entries : List (Value × Value)) : Prop := entries.Pairwise fun a b => a.1.isSameKey b.1 = false

namespace Value

theorem mem_setEntry {key v : Value} {entries : List (Value × Value)} {x : Value × Value} (h : x ∈ setEntry key v entries) :
    (∃ y ∈ entries, y.1 = x.1) ∨ x.1 = key := by
  induction entries with
  | nil =>
    cases List.mem_singleton.1 h
    exact .inr rfl
  | cons y entries ih =>
    obtain ⟨k, old⟩ := y
    rw [setEntry] at h
    split at h
    · rcases List.mem_cons.1 h with rfl | h
      · exact .inl ⟨(k, old), List.mem_cons_self, rfl⟩
      · exact .inl ⟨x, List.mem_cons_of_mem _ h, rfl⟩
    · rcases List.mem_cons.1 h with rfl | h
      · exact .inl ⟨(k, old), List.mem_cons_self, rfl⟩
      · exact (ih h).imp_left fun ⟨z, hz, he⟩ => ⟨z, List.mem_cons_of_mem _ hz, he⟩

theorem distinctKeys_setEntry {entries : List (Value × Value)} (h : DistinctKeys entries) (key v : Value) :
    DistinctKeys (setEntry key v entries) := by
  induction entries with
  | nil => exact List.pairwise_singleton _ _
  | cons y entries ih =>
    obtain ⟨k, old⟩ := y
    obtain ⟨hfirst, hrest⟩ := List.pairwise_cons.1 h
    rw [setEntry]
    split
    next => exact List.pairwise_cons.2 ⟨hfirst, hrest⟩
    next hk =>
      refine List.pairwise_cons.2 ⟨fun x hx => ?_, ih hrest⟩
      rcases mem_setEntry hx with ⟨z, hz, he⟩ | he
      · exact he ▸ hfirst z hz
      · exact he ▸ (by simpa using hk)

theorem distinctKeys_entriesOf (entries : List (Value × Value)) : DistinctKeys (entriesOf entries) := by
  have hfold : ∀ done : List (Value × Value), DistinctKeys done →
      DistinctKeys (entries.foldl (fun done x => setEntry x.1 x.2 done) done) := by
    induction entries with
    | nil => exact fun _ h => h
    | cons x entries ih => exact fun done h => ih _ (distinctKeys_setEntry h x.1 x.2)
  exact hfold [] .nil

theorem unmarked_of_isKey {v : Value} (h : v.isKey = true) : v.unmarked = v := by
  cases v with
  | marked label v => cases h
  | _ => rfl

theorem unmarked_mark (label : Nat) (v : Value) : (mark label v).unmarked = v.unmarked := by
  unfold mark
  split
  · rfl
  · rfl

end Value

namespace Yaml

/-! ## Scalars -/

/-- What is computed in steps is a key if the last step makes one. -/
theorem isKey_of_bind {α : Type} {x : Except Fault α} {f : α → Except Fault Value} {v : Value} (h : x >>= f = .ok v)
    (hf : ∀ a, f a = .ok v → v.isKey = true) : v.isKey = true := by
  obtain ⟨a, -, ha⟩ := bind_eq_ok_iff.1 h
  exact hf a ha

theorem isKey_of_pure {u v : Value} (hu : u.isKey = true) (h : (pure u : Except Fault Value) = .ok v) : v.isKey = true := by
  cases h
  exact hu

theorem isKey_of_toValue {s : Stamp} {v : Value} (h : s.toValue = .ok v) : v.isKey = true := by
  unfold Stamp.toValue at h
  split at h
  · exact isKey_of_bind h fun _ => isKey_of_pure rfl
  · dsimp only at h
    split at h
    all_goals
      exact isKey_of_bind h fun _ h => isKey_of_bind h fun _ h => isKey_of_bind h fun _ => isKey_of_pure rfl

theorem isKey_of_integerValue {text : String} {v : Value} (h : integerValue text = .ok v) : v.isKey = true := by
  unfold integerValue at h
  dsimp only at h
  split at h
  · cases h
  · exact isKey_of_bind h fun _ => isKey_of_pure rfl

theorem isKey_of_decimalValue {text : String} {v : Value} (h : decimalValue text = .ok v) : v.isKey = true := by
  have hscalar : ∀ x : Scalar, (pure (.scalar x) : Except Fault Value) = .ok v → v.isKey = true := fun x => isKey_of_pure rfl
  unfold decimalValue at h
  dsimp only at h
  split at h
  · exact nomatch h
  · split at h
    · exact hscalar _ h
    · exact isKey_of_bind h fun x => hscalar _

/-- Scalars are no collections, whatever their tag. -/
theorem isKey_of_scalarValue {tag : Tag} {text : String} {v : Value} (h : scalarValue tag text = .ok v) : v.isKey = true := by
  cases tag with
  | null => cases h; rfl
  | str => cases h; rfl
  | bool =>
    simp only [scalarValue, flagValue] at h
    split at h
    · cases h; rfl
    · split at h
      · cases h; rfl
      · cases h
  | int =>
    rw [scalarValue] at h
    exact isKey_of_integerValue h
  | float =>
    rw [scalarValue] at h
    exact isKey_of_decimalValue h
  | binary =>
    simp only [scalarValue, binaryValue] at h
    split at h
    · split at h
      · cases h; rfl
      · cases h
    · cases h
  | timestamp =>
    simp only [scalarValue, momentValue] at h
    split at h
    · cases h
    · exact isKey_of_toValue h
  | _ => cases h

/-! ## Documents -/

/-- A scalar has no entries, and nor has what stands for one that cannot be read. -/
theorem ofExcept_ne_mapping {level : Nat} {tag : Tag} {text : String} {found : List (Value × Value)} :
    (Meaning.ofExcept level (scalarValue tag text)).value.unmarked ≠ .mapping found := by
  intro h
  cases hv : scalarValue tag text with
  | error f =>
    rw [hv] at h
    cases h
  | ok v =>
    have hkey : v.isKey = true := isKey_of_scalarValue hv
    rw [hv] at h
    change v.unmarked = _ at h
    rw [Value.unmarked_of_isKey hkey] at h
    rw [h] at hkey
    cases hkey

/-- The keys of a mapping are distinct, whatever stands in the text. -/
theorem distinctKeys_of_meaning {level : Nat} {found : List (Value × Value)} :
    ∀ n : Node, (n.meaning level).value.unmarked = .mapping found → DistinctKeys found
  | .again label, h => by
    rw [Node.meaning] at h
    cases h
  | .marked label n, h => by
    rw [Node.meaning] at h
    change ((n.meaning level).value.mark label).unmarked = _ at h
    rw [Value.unmarked_mark] at h
    exact distinctKeys_of_meaning n h
  | .scalar tag text, h => by
    unfold Node.meaning at h
    split at h
    case h_6 => exact absurd h ofExcept_ne_mapping
    all_goals cases h
  | .sequence tag items, h => by
    unfold Node.meaning at h
    split at h <;> cases h
  | .mapping tag entries, h => by
    unfold Node.meaning at h
    split at h
    case h_1 =>
      cases h
      exact Value.distinctKeys_entriesOf _
    case h_6 =>
      split at h
      · exact absurd h ofExcept_ne_mapping
      · cases h
    all_goals cases h

/-- The keys of a document that is a mapping are distinct. -/
theorem distinctKeys_of_readValue {text : String} {v : Value} {found : List (Value × Value)} (h : readValue text = .ok v)
    (hfound : v.unmarked = .mapping found) : DistinctKeys found := by
  obtain ⟨node?, -, hnode⟩ := bind_eq_ok_iff.1 h
  cases node? with
  | none =>
    cases hnode
    cases hfound
  | some n =>
    change (n.meaning 0).toExcept = .ok v at hnode
    unfold Meaning.toExcept at hnode
    split at hnode
    · cases hnode
      exact distinctKeys_of_meaning n hfound
    · cases hnode

end Yaml

end ApkReport
