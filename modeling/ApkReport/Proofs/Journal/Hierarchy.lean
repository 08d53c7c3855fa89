/-
The names above a name. What stands before the last dot of a name is the nearest name above it
(`enclosing_dot`), and for a name of parts that are not empty the names above are all that stand
before its dots (`enclosing_eq_beforeDots`). They come the nearest first, and after each of them
come the names above that one (`above_split`).
-/
import ApkReport.Proofs.Journal.History
import Mathlib.Data.List.Basic

namespace ApkReport.Journal

/-! ## Names above a name -/

theorem findIdx?_dot {s : List Char} (h : '.' ∉ s) : s.reverse.findIdx? (· = '.') = none := by
  rw [List.findIdx?_eq_none_iff]
  intro c hc
  rw [decide_eq_false_iff_not]
  rintro rfl
  exact h (List.mem_reverse.1 hc)

theorem lastDot?_of_free {s : List Char} (h : '.' ∉ s) : lastDot? s = none := by
  rw [lastDot?, findIdx?_dot h]

theorem lastDot?_append (front : List Char) {part : List Char} (h : '.' ∉ part) :
    lastDot? (front ++ '.' :: part) = some front.length := by
  have hsome : (front ++ '.' :: part).reverse.findIdx? (· = '.') = some part.length := by
    rw [List.reverse_append, List.reverse_cons, List.append_assoc, List.findIdx?_append, findIdx?_dot h]
    simp [List.findIdx?_cons]
  rw [lastDot?, hsome, List.length_append, List.length_cons]
  dsimp only
  rw [Option.some.injEq]
  omega

/-- A text has no dot, or it has a last one. -/
theorem lastDot_cases (s : List Char) : '.' ∉ s ∨ ∃ front part, s = front ++ '.' :: part ∧ '.' ∉ part := by
  by_cases h : '.' ∈ s
  · obtain ⟨back, front, hsplit, hfree⟩ := List.eq_append_cons_of_mem (List.mem_reverse.2 h)
    refine .inr ⟨front.reverse, back.reverse, ?_, fun hmem => hfree (List.mem_reverse.1 hmem)⟩
    rw [← List.reverse_inj, hsplit]
    simp
  · exact .inl h

theorem enclosing_of_free {s : List Char} (h : '.' ∉ s) : enclosing s = [] := by
  rw [enclosing]
  split
  next => rfl
  next => rfl
  next hdot =>
    rw [lastDot?_of_free h] at hdot
    cases hdot

theorem enclosing_front {part : List Char} (h : '.' ∉ part) : enclosing ('.' :: part) = [] := by
  have hdot := lastDot?_append [] h
  rw [enclosing]
  split
  next => rfl
  next => rfl
  next hsome =>
    rw [List.nil_append] at hdot
    rw [hdot] at hsome
    cases hsome

/-- The nearest name above is what stands before the last dot. -/
theorem enclosing_dot {front part : List Char} (hfront : front ≠ []) (h : '.' ∉ part) :
    enclosing (front ++ '.' :: part) = front :: enclosing front.dropLast := by
  have hdot := lastDot?_append front h
  have hpos : front.length ≠ 0 := fun he => hfront (List.length_eq_zero_iff.1 he)
  rw [enclosing]
  split
  next hnone =>
    rw [hdot] at hnone
    cases hnone
  next hzero =>
    rw [hdot, Option.some.injEq] at hzero
    exact absurd hzero hpos
  next i hi =>
    rw [hdot, Option.some.injEq] at hi
    have hsucc : i + 1 = front.length := hi.symm
    have htake : i = front.length - 1 := by omega
    rw [hsucc, List.take_left, htake, List.take_append_of_le_length (by omega), ← List.dropLast_eq_take]

/-- A last character that is no dot plays no part. -/
theorem enclosing_concat (s : List Char) {c : Char} (hc : c ≠ '.') : enclosing (s ++ [c]) = enclosing s := by
  have hsingle : '.' ∉ [c] := fun hmem => hc (List.mem_singleton.1 hmem).symm
  rcases lastDot_cases s with hfree | ⟨front, part, rfl, hfree⟩
  · rw [enclosing_of_free hfree, enclosing_of_free fun hmem => (List.mem_append.1 hmem).elim hfree hsingle]
  · have hpart : '.' ∉ part ++ [c] := fun hmem => (List.mem_append.1 hmem).elim hfree hsingle
    rw [List.append_assoc, List.cons_append]
    cases front with
    | nil => rw [List.nil_append, List.nil_append, enclosing_front hfree, enclosing_front hpart]
    | cons first front => rw [enclosing_dot (List.cons_ne_nil _ _) hfree, enclosing_dot (List.cons_ne_nil _ _) hpart]

/-! ## Names of parts -/

/-- The name is a part, or is a part more than such a name, behind a dot. No part is empty. -/
inductive IsDotted : List Char → Prop
  | part {part : List Char} : part ≠ [] → '.' ∉ part → IsDotted part
  | dot {front part : List Char} : IsDotted front → part ≠ [] → '.' ∉ part → IsDotted (front ++ '.' :: part)

theorem IsDotted.ne_nil {s : List Char} (h : IsDotted s) : s ≠ [] := by
  cases h with
  | part hne _ => exact hne
  | dot => simp

/-- The last character of such a name is no dot. -/
theorem IsDotted.enclosing_dropLast {s : List Char} (h : IsDotted s) : enclosing s.dropLast = enclosing s := by
  have hlast : ∀ part : List Char, part ≠ [] → '.' ∉ part → ∃ init c, part = init ++ [c] ∧ c ≠ '.' := by
    intro part hne hfree
    refine ⟨part.dropLast, part.getLast hne, (List.dropLast_append_getLast hne).symm, ?_⟩
    exact fun hc => hfree (hc ▸ List.getLast_mem hne)
  cases h with
  | part hne hfree =>
    obtain ⟨init, c, rfl, hc⟩ := hlast _ hne hfree
    rw [List.dropLast_concat, enclosing_concat init hc]
  | @dot front part _ hne hfree =>
    obtain ⟨init, c, rfl, hc⟩ := hlast _ hne hfree
    rw [← List.cons_append, ← List.append_assoc, List.dropLast_concat, enclosing_concat _ hc]

/-- What stands before each dot, the last dot first. -/
def beforeDots : List Char → List (List Char)
  | [] => []
  | c :: s => (beforeDots s).map (c :: ·) ++ if c = '.' then [[]] else []

theorem mem_beforeDots {a s : List Char} : a ∈ beforeDots s ↔ ∃ rest, s = a ++ '.' :: rest := by
  induction s generalizing a with
  | nil => simp [beforeDots]
  | cons c s ih =>
    rw [beforeDots, List.mem_append, List.mem_map]
    constructor
    · rintro (⟨a, ha, rfl⟩ | ha)
      · obtain ⟨rest, rfl⟩ := ih.1 ha
        exact ⟨rest, rfl⟩
      · split at ha
        next hc =>
          obtain rfl := List.mem_singleton.1 ha
          exact ⟨s, by rw [hc, List.nil_append]⟩
        next => exact absurd ha List.not_mem_nil
    · rintro ⟨rest, hrest⟩
      cases a with
      | nil =>
        obtain ⟨rfl, rfl⟩ := List.cons.inj hrest
        exact .inr (by simp)
      | cons first a =>
        obtain ⟨rfl, rfl⟩ := List.cons.inj hrest
        exact .inl ⟨a, ih.2 ⟨rest, rfl⟩, rfl⟩

theorem beforeDots_of_free {s : List Char} (h : '.' ∉ s) : beforeDots s = [] := by
  refine List.eq_nil_iff_forall_not_mem.2 fun a ha => h ?_
  obtain ⟨rest, rfl⟩ := mem_beforeDots.1 ha
  simp

theorem beforeDots_append (front rest : List Char) :
    beforeDots (front ++ '.' :: rest) = (beforeDots rest).map (front ++ '.' :: ·) ++ front :: beforeDots front := by
  induction front with
  | nil => simp [beforeDots]
  | cons c front ih => simp [beforeDots, ih, List.map_append, Function.comp_def]

theorem beforeDots_dot (front : List Char) {part : List Char} (h : '.' ∉ part) :
    beforeDots (front ++ '.' :: part) = front :: beforeDots front := by
  rw [beforeDots_append, beforeDots_of_free h, List.map_nil, List.nil_append]

/-- Above a name of parts are all the names before its dots. -/
theorem enclosing_eq_beforeDots {s : List Char} (h : IsDotted s) : enclosing s = beforeDots s := by
  induction h with
  | part _ hfree => rw [enclosing_of_free hfree, beforeDots_of_free hfree]
  | dot hfront _ hfree ih => rw [enclosing_dot hfront.ne_nil hfree, hfront.enclosing_dropLast, ih, beforeDots_dot _ hfree]

theorem IsDotted.of_mem_beforeDots {s a : List Char} (h : IsDotted s) (ha : a ∈ beforeDots s) : IsDotted a := by
  induction h with
  | part _ hfree =>
    rw [beforeDots_of_free hfree] at ha
    exact absurd ha List.not_mem_nil
  | dot hfront _ hfree ih =>
    rw [beforeDots_dot _ hfree] at ha
    rcases List.mem_cons.1 ha with rfl | ha
    · exact hfront
    · exact ih ha

/-! ## Lineage -/

/-- The names before the dots of a name, nearest first. -/
def above (name : String) : List String := (beforeDots name.toList).map String.ofList

/-- A name and the names before its dots, nearest first. -/
def lineage (name : String) : List String := name :: above name

theorem mem_above {a name : String} : a ∈ above name ↔ ∃ rest, name.toList = a.toList ++ '.' :: rest := by
  rw [above, List.mem_map]
  constructor
  · rintro ⟨s, hs, rfl⟩
    rw [String.toList_ofList]
    exact mem_beforeDots.1 hs
  · rintro ⟨rest, hrest⟩
    exact ⟨a.toList, mem_beforeDots.2 ⟨rest, hrest⟩, String.ofList_toList⟩

theorem length_lt_of_mem_above {a name : String} (h : a ∈ above name) : a.length < name.length := by
  obtain ⟨rest, hrest⟩ := mem_above.1 h
  have hlength := congrArg List.length hrest
  rw [List.length_append, List.length_cons, String.length_toList, String.length_toList] at hlength
  omega

theorem not_mem_above (name : String) : name ∉ above name :=
  fun h => absurd (length_lt_of_mem_above h) (Nat.lt_irrefl _)

theorem isPrefix_of_mem_above {a name : String} (h : a ∈ above name) : a.toList <+: name.toList := by
  obtain ⟨rest, hrest⟩ := mem_above.1 h
  exact ⟨'.' :: rest, hrest.symm⟩

/-- Names come nearest first: after one of them those above it, and before it others that it is above as well. -/
theorem above_split {a name : String} (h : a ∈ above name) :
    ∃ nearer, above name = nearer ++ lineage a ∧ ∀ b ∈ nearer, a ∈ above b := by
  obtain ⟨rest, hrest⟩ := mem_above.1 h
  refine ⟨((beforeDots rest).map (a.toList ++ '.' :: ·)).map String.ofList, ?_, fun b hb => ?_⟩
  · rw [above, hrest, beforeDots_append, List.map_append, List.map_cons, String.ofList_toList, lineage, above]
  · obtain ⟨s, hs, rfl⟩ := List.mem_map.1 hb
    obtain ⟨t, -, rfl⟩ := List.mem_map.1 hs
    exact mem_above.2 ⟨t, by rw [String.toList_ofList]⟩

theorem IsDotted.above_eq {name : String} (h : IsDotted name.toList) :
    above name = (enclosing name.toList).map String.ofList := by
  rw [enclosing_eq_beforeDots h, above]

theorem IsDotted.of_mem_above {a name : String} (h : IsDotted name.toList) (ha : a ∈ above name) : IsDotted a.toList := by
  obtain ⟨s, hs, rfl⟩ := List.mem_map.1 ha
  rw [String.toList_ofList]
  exact h.of_mem_beforeDots hs

end ApkReport.Journal
