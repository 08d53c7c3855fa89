/-
The end of a list behind its last element of some kind, `List.rtakeWhile`: what stands before such
an element plays no part (`rtakeWhile_append_cons`), and the end behind a separator is the one part
without it that is the whole or stands behind it (`rtakeWhile_ne_iff`).
-/
import Mathlib.Data.List.DropRight

namespace ApkReport

variable {α : Type*} {p : α → Bool}

theorem rtakeWhile_append_cons (front back : List α) {c : α} (hc : ¬ p c) :
    (front ++ c :: back).rtakeWhile p = back.rtakeWhile p := by
  induction back using List.reverseRecOn with
  | nil => rw [List.rtakeWhile_concat_neg p front c hc, List.rtakeWhile_nil]
  | append_singleton back x ih =>
    rw [← List.cons_append, ← List.append_assoc, List.rtakeWhile_concat, List.rtakeWhile_concat, ih]

/-- A list is its end, or has it behind an element that stops it. -/
theorem rtakeWhile_cases (s : List α) :
    s.rtakeWhile p = s ∨ ∃ front c, ¬ p c ∧ s = front ++ c :: s.rtakeWhile p := by
  have hsplit : s.rdropWhile p ++ s.rtakeWhile p = s := List.rdropWhile_append_rtakeWhile
  by_cases hfront : s.rdropWhile p = []
  · rw [hfront, List.nil_append] at hsplit
    exact .inl hsplit
  · refine .inr ⟨(s.rdropWhile p).dropLast, (s.rdropWhile p).getLast hfront, List.rdropWhile_last_not _ _ hfront, ?_⟩
    rw [List.append_cons, List.dropLast_append_getLast hfront, hsplit]

theorem rtakeWhile_ne_iff [DecidableEq α] {separator : α} {s part : List α} :
    s.rtakeWhile (· ≠ separator) = part ↔ separator ∉ part ∧ (s = part ∨ ∃ front, s = front ++ separator :: part) := by
  constructor
  · rintro rfl
    refine ⟨fun hmem => by simpa using List.mem_rtakeWhile_imp hmem, ?_⟩
    rcases rtakeWhile_cases (p := (· ≠ separator)) s with hwhole | ⟨front, c, hc, hs⟩
    · exact .inl hwhole.symm
    · obtain rfl : c = separator := by simpa using hc
      exact .inr ⟨front, hs⟩
  · rintro ⟨hpart, hs⟩
    have hself : part.rtakeWhile (· ≠ separator) = part := by
      rw [List.rtakeWhile_eq_self_iff]
      exact fun x hx => decide_eq_true fun he => hpart (he ▸ hx)
    rcases hs with rfl | ⟨front, rfl⟩
    · exact hself
    · rw [rtakeWhile_append_cons front part (by simp), hself]

end ApkReport
