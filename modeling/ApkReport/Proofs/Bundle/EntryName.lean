/-
The names of base packages. Behind the last separator of the name there are eight characters,
each from a short list (`baseLetters`); what stands before plays no part (`isBaseEntry_iff`).
Both the slash and the backslash separate.
-/
import ApkReport.Bundle
import ApkReport.Proofs.Text.LastPart
import ApkReport.Proofs.Text.LowerCase

namespace ApkReport

open Text

/-! ## The last part -/

def isSeparator (c : Char) : Bool := c = '/' || c = '\\'

/-- The part of a name behind its last separator. -/
def lastPart (name : List Char) : List Char := name.rtakeWhile (!isSeparator ·)

theorem not_isSeparator_of_mem_lastPart {name : List Char} {c : Char} (h : c ∈ lastPart name) : isSeparator c = false := by
  simpa using List.mem_rtakeWhile_imp h

theorem lastPart_of_free {part : List Char} (h : ∀ c ∈ part, isSeparator c = false) : lastPart part = part :=
  List.rtakeWhile_eq_self_iff.2 fun c hc => by rw [h c hc, Bool.not_false]

theorem lastPart_append (folder part : List Char) {c : Char} (hc : isSeparator c) :
    lastPart (folder ++ c :: part) = lastPart part :=
  rtakeWhile_append_cons folder part (by rw [hc]; decide)

/-- A name is its last part, or has it behind a separator. -/
theorem lastPart_cases (name : List Char) :
    lastPart name = name ∨ ∃ folder c, isSeparator c ∧ name = folder ++ c :: lastPart name :=
  (rtakeWhile_cases name).imp_right fun ⟨folder, c, hc, hname⟩ => ⟨folder, c, by simpa using hc, hname⟩

/-! ## Names of base packages -/

/-- The name with slashes only. -/
def slashed (name : List Char) : List Char := name.map fun c => if c = '\\' then '/' else c

/-- The characters that may stand in each place of the name of a base package. -/
def baseLetters : List (List Char) :=
  [['b', 'B'], ['a', 'A'], ['s', 'S'], ['e', 'E'], ['.'], ['a', 'A'], ['p', 'P'], ['k', 'K', '\u212A']]

theorem slashed_of_free {part : List Char} (h : ∀ c ∈ part, isSeparator c = false) : slashed part = part := by
  refine (List.map_congr_left fun c hc => if_neg ?_).trans (List.map_id _)
  rintro rfl
  exact absurd (h '\\' hc) (by decide)

/-- With a slash in front, the slashed name is a slash before the last part and something before that. -/
theorem exists_slash (name : List Char) : ∃ front, '/' :: slashed name = front ++ '/' :: lastPart name := by
  have hpart : slashed (lastPart name) = lastPart name := slashed_of_free fun _ => not_isSeparator_of_mem_lastPart
  rcases lastPart_cases name with hwhole | ⟨folder, c, hc, hname⟩
  · rw [← hwhole, hpart, lastPart_of_free fun _ => not_isSeparator_of_mem_lastPart]
    exact ⟨[], rfl⟩
  · have hslash : (if c = '\\' then '/' else c) = '/' := by
      rw [isSeparator, Bool.or_eq_true, decide_eq_true_eq, decide_eq_true_eq] at hc
      rcases hc with rfl | rfl <;> rfl
    refine ⟨'/' :: slashed folder, ?_⟩
    conv_lhs => rw [hname, slashed, List.map_append, List.map_cons, hslash]
    rw [← slashed, ← slashed, hpart, List.cons_append]

theorem isPlain_of_mem_baseEntryName : ∀ x ∈ baseEntryName.toList, IsPlain x := isPlain_of_all (by decide)

theorem spells_base_iff {s : List Char} : Spells s baseEntryName.toList ↔ List.Forall₂ (· ∈ ·) s baseLetters := by
  have hletters : baseLetters = baseEntryName.toList.map spellings := by decide
  rw [hletters, forall₂_spellings_iff]

/-- A separator has no place in the name of a base package. -/
theorem not_isSeparator_of_spells {s : List Char} (h : Spells s baseEntryName.toList) : ∀ c ∈ s, isSeparator c = false := by
  have hall : baseEntryName.toList.all fun x => (spellings x).all fun c => !isSeparator c := by decide
  refine h.forall fun x hx c hc => ?_
  simpa using List.all_eq_true.1 (List.all_eq_true.1 hall x hx) c hc

/-- The name of a base package, with slashes only, has the name proper behind a slash, the one in front of it counting. -/
theorem isBaseEntry_iff_slash (name : String) :
    isBaseEntry name = true ↔
      ∃ front back, '/' :: slashed name.toList = front ++ '/' :: back ∧ Spells back baseEntryName.toList := by
  have hslash : ∀ x ∈ '/' :: baseEntryName.toList, IsPlain x := isPlain_of_all (by decide)
  rw [isBaseEntry, ← slashed]
  rw [lower, String.toList_ofList, String.toList_ofList, Bool.or_eq_true, decide_eq_true_iff, List.isSuffixOf_iff_suffix,
    lowerAfter_eq_iff [] isPlain_of_mem_baseEntryName, suffix_lowerAfter_iff [] hslash]
  constructor
  · rintro (hwhole | ⟨front, back, hsplit, hback⟩)
    · exact ⟨[], _, rfl, hwhole⟩
    · cases hback with
      | @cons c _ back _ hc hback =>
        obtain rfl : c = '/' := List.mem_singleton.1 hc
        exact ⟨'/' :: front, back, by rw [hsplit, List.cons_append], hback⟩
  · rintro ⟨front, back, hsplit, hback⟩
    cases front with
    | nil => exact .inl ((List.cons.inj hsplit).2 ▸ hback)
    | cons _ front => exact .inr ⟨front, '/' :: back, (List.cons.inj hsplit).2, .cons (List.mem_singleton.2 rfl) hback⟩

theorem isBaseEntry_iff (name : String) :
    isBaseEntry name = true ↔ List.Forall₂ (· ∈ ·) (lastPart name.toList) baseLetters := by
  rw [isBaseEntry_iff_slash, ← spells_base_iff]
  obtain ⟨front, hfront⟩ := exists_slash name.toList
  constructor
  · rintro ⟨front', back, hback, hspells⟩
    have hlast := congrArg lastPart (hfront.symm.trans hback)
    rw [lastPart_append _ _ rfl, lastPart_append _ _ rfl, lastPart_of_free fun _ => not_isSeparator_of_mem_lastPart,
      lastPart_of_free (not_isSeparator_of_spells hspells)] at hlast
    rwa [hlast]
  · exact fun h => ⟨front, _, hfront, h⟩

/-- A member is the base package exactly if the part of its name behind the last separator has one of the letters that may
stand there in each of the eight places. What stands before a separator plays no part. -/
theorem isBaseEntry_of_last :
    (∀ name : String, isBaseEntry name = true ↔ List.Forall₂ (· ∈ ·) (lastPart name.toList) baseLetters) ∧
      ∀ (folder part : List Char) (c : Char), isSeparator c →
        isBaseEntry (String.ofList (folder ++ c :: part)) = isBaseEntry (String.ofList part) := by
  refine ⟨isBaseEntry_iff, fun folder part c hc => ?_⟩
  rw [Bool.eq_iff_iff, isBaseEntry_iff, isBaseEntry_iff, String.toList_ofList, String.toList_ofList,
    lastPart_append folder part hc]

/-- A Kelvin sign ends the name, and in the folder there are a character whose lower case is longer and a sigma that is
final in its word. -/
theorem isBaseEntry_of_last_kelvin :
    isSeparator '\\' ∧ isBaseEntry "İ/ΑΣ\\BaSe.aP\u212A" = true ∧ isBaseEntry "BaSe.aP\u212A" = true ∧
      isBaseEntry "İ/ΑΣ\\base.apſ" = false := by
  obtain ⟨hletters, hfolder⟩ := isBaseEntry_of_last
  have hbase : isBaseEntry "BaSe.aP\u212A" = true := (hletters _).2 (by decide)
  refine ⟨by decide, (hfolder "İ/ΑΣ".toList _ '\\' (by decide)).trans hbase, hbase, ?_⟩
  rw [← Bool.not_eq_true, hletters]
  decide

end ApkReport
