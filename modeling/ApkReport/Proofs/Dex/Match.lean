/-
What a scan looks for, said without the search: `IsDexName` is the language of the names
of bytecode members, and `Refers` says that the bytes of a descriptor stand in one piece
in a content. The labels of a scan are strictly increasing, so their members determine
them (`sortedLabels_congr`).
-/
import ApkReport.Dex.Catalog
import ApkReport.Dex.Entry

namespace ApkReport.Dex

/-! ## Names -/

/-- `classes`, decimal digits of any script, `.dex`, and at most one line feed. -/
def IsDexName (name : String) : Prop :=
  ∃ digits : List Char, (∀ d ∈ digits, Text.isDigit d = true) ∧
    (name.toList = "classes".toList ++ digits ++ ".dex".toList ∨
      name.toList = "classes".toList ++ digits ++ ".dex\n".toList)

theorem dropWhile_digits {digits rest : List Char} (hd : ∀ d ∈ digits, Text.isDigit d = true) :
    (digits ++ '.' :: rest).dropWhile Text.isDigit = '.' :: rest := by
  have hdot : Text.isDigit '.' = false := by decide
  rw [List.dropWhile_append_of_pos hd, List.dropWhile_cons, hdot]
  rfl

theorem isDexEntry_iff {name : String} : isDexEntry name = true ↔ IsDexName name := by
  unfold isDexEntry IsDexName
  simp only [Bool.and_eq_true, Bool.or_eq_true, decide_eq_true_eq, List.isPrefixOf_iff_prefix]
  constructor
  · rintro ⟨⟨rest, hrest⟩, htail⟩
    rw [← hrest, List.drop_left] at htail
    refine ⟨rest.takeWhile Text.isDigit, fun d hd => List.all_eq_true.1 List.all_takeWhile d hd, ?_⟩
    have hsplit : rest = rest.takeWhile Text.isDigit ++ rest.dropWhile Text.isDigit :=
      List.takeWhile_append_dropWhile.symm
    rcases htail with h | h
    · left; rw [← hrest, List.append_assoc, ← h, ← hsplit]
    · right; rw [← hrest, List.append_assoc, ← h, ← hsplit]
  · rintro ⟨digits, hd, h | h⟩
    · refine ⟨⟨digits ++ ".dex".toList, by rw [h, List.append_assoc]⟩, ?_⟩
      rw [h, List.append_assoc, List.drop_left]
      exact .inl (dropWhile_digits hd)
    · refine ⟨⟨digits ++ ".dex\n".toList, by rw [h, List.append_assoc]⟩, ?_⟩
      rw [h, List.append_assoc, List.drop_left]
      exact .inr (dropWhile_digits hd)

instance : DecidablePred IsDexName := fun _ => decidable_of_iff _ isDexEntry_iff

/-! ## Contents -/

theorem occursIn_iff {needle text : List Char} : occursIn needle text = true ↔ needle <:+: text := by
  induction text with
  | nil => simp [occursIn]
  | cons c rest ih => rw [occursIn, Bool.or_eq_true, List.isPrefixOf_iff_prefix, ih, List.infix_cons_iff]

/-- The bytes of the descriptor stand in one piece in the content. -/
def Refers (content : Bytes) (api : HardwareApi) : Prop := Bytes.ofString api.pattern <:+: content

theorem toNat_ofNat_byte : ∀ n : Fin 256, (Char.ofNat n).toNat = n := by decide +kernel

theorem ofNat_byte_injective (x y : UInt8) (h : Char.ofNat x.toNat = Char.ofNat y.toNat) : x = y := by
  have hx := toNat_ofNat_byte ⟨x.toNat, x.toNat_lt⟩
  have hy := toNat_ofNat_byte ⟨y.toNat, y.toNat_lt⟩
  exact UInt8.toNat_inj.1 (hx.symm.trans ((congrArg Char.toNat h).trans hy))

theorem byteText_infix {a b : Bytes} : byteText a <:+: byteText b ↔ a <:+: b := by
  constructor
  · intro h
    obtain ⟨l, hl, he⟩ := List.infix_map_iff.1 h
    exact (List.map_inj_right ofNat_byte_injective).1 he ▸ hl
  · exact fun h => h.map _

/-- Descriptors are plain: each byte is a character of its own. -/
theorem byteText_pattern : ∀ api ∈ catalog, byteText (Bytes.ofString api.pattern) = api.pattern.toList := by
  decide +kernel

theorem mem_matchesIn {content : Bytes} {api : HardwareApi} :
    api ∈ matchesIn (byteText content) ↔ api ∈ catalog ∧ Refers content api := by
  unfold matchesIn Refers
  rw [List.mem_filter, occursIn_iff]
  constructor
  · rintro ⟨hm, h⟩
    exact ⟨hm, byteText_infix.1 (byteText_pattern api hm ▸ h)⟩
  · rintro ⟨hm, h⟩
    exact ⟨hm, byteText_pattern api hm ▸ byteText_infix.2 h⟩

/-! ## Labels -/

theorem eraseDups_nodup (labels : List String) : labels.eraseDups.Nodup := by
  cases labels with
  | nil => exact .nil
  | cons l rest =>
    rw [List.eraseDups_cons, List.nodup_cons]
    exact ⟨fun h => by simp at h, eraseDups_nodup _⟩
  termination_by labels.length
  decreasing_by
    have := List.length_filter_le (fun b => !b == l) rest
    simp only [List.length_cons]
    omega

theorem mem_sortedLabels {label : String} {labels : List String} : label ∈ sortedLabels labels ↔ label ∈ labels := by
  rw [sortedLabels, List.mem_mergeSort, List.mem_eraseDups]

/-- Sorting by a key puts the keys in order. -/
theorem pairwise_mergeSort_key {α : Type} (key : α → String) (items : List α) :
    (items.mergeSort fun a b => key a ≤ key b).Pairwise fun a b => key a ≤ key b := by
  refine (List.pairwise_mergeSort ?_ ?_ items).imp fun h => of_decide_eq_true h
  · intro a b c hab hbc
    simp only [decide_eq_true_eq] at *
    exact String.le_trans hab hbc
  · intro a b
    simp only [Bool.or_eq_true, decide_eq_true_eq]
    exact String.le_total _ _

theorem sortedLabels_pairwise (labels : List String) : (sortedLabels labels).Pairwise (· < ·) := by
  have hle : (sortedLabels labels).Pairwise (· ≤ ·) := pairwise_mergeSort_key id labels.eraseDups
  have hne : (sortedLabels labels).Pairwise (· ≠ ·) :=
    (List.mergeSort_perm _ _).symm.nodup (eraseDups_nodup labels)
  refine (hle.and hne).imp fun {a b} h => ?_
  exact Decidable.byContradiction fun hn => h.2 (String.le_antisymm h.1 hn)

/-- Lists of labels with the same members are sorted into the same list. -/
theorem sortedLabels_congr {labels others : List String} (h : ∀ l, l ∈ labels ↔ l ∈ others) :
    sortedLabels labels = sortedLabels others := by
  refine List.Perm.eq_of_pairwise ?_ (sortedLabels_pairwise labels) (sortedLabels_pairwise others) ?_
  · intro a b _ _ hab hba
    exact absurd hba (String.lt_asymm hab)
  · refine (List.mergeSort_perm _ _).trans (.trans ?_ (List.mergeSort_perm _ _).symm)
    refine (List.perm_ext_iff_of_nodup (eraseDups_nodup _) (eraseDups_nodup _)).2 fun l => ?_
    rw [List.mem_eraseDups, List.mem_eraseDups, h l]

end ApkReport.Dex
