/-
The links between loggers. A logger is linked to the nearest one above it when it is made, and
again when a nearer one is made later (`Linked.obtain`), so that the loggers on the way up from a
name are those of its lineage (`Linked.chain_eq`) in whatever order they came. This takes names of
parts. The names that `root` starts with are linked to their elders only, so they may not come
after a name below them.
-/
import ApkReport.Proofs.Journal.Hierarchy
import Mathlib.Data.List.Find

namespace ApkReport.Journal

/-- The name that a step sets up. -/
def Step.name? : Step → Option String
  | .setup name _ _ => some name
  | .setLevel _ => none

theorem exists_name?_iff {name : String} {steps : List Step} :
    (∃ x ∈ steps, x.name? = some name) ↔ ∃ level format, Step.setup name level format ∈ steps := by
  constructor
  · rintro ⟨x, hx, hname⟩
    cases x with
    | setup n level format =>
      cases hname
      exact ⟨level, format, hx⟩
    | setLevel level => cases hname
  · rintro ⟨level, format, hmem⟩
    exact ⟨_, hmem, rfl⟩

theorem firstFormat?_isSome_iff {name : String} {steps : List Step} :
    (firstFormat? name steps).isSome ↔ ∃ x ∈ steps, x.name? = some name := by
  rw [firstFormat?, List.findSome?_isSome_iff]
  refine exists_congr fun x => and_congr_right fun _ => ?_
  cases x with
  | setup n level format => by_cases h : n = name <;> simp [Step.format?, Step.name?, h]
  | setLevel level => simp [Step.format?, Step.name?]

theorem lookup_map_pair (names : List String) (value key : String) :
    (names.map (·, value)).lookup key = if key ∈ names then some value else none := by
  induction names with
  | nil => rfl
  | cons first rest ih =>
    by_cases h : key = first
    · subst h
      simp
    · have hne : (key == first) = false := by simpa using h
      simp [List.lookup_cons, hne, ih, h]

theorem takeWhile_subset {α : Type} {p q : α → Bool} (h : ∀ a, p a → q a) (l : List α) : l.takeWhile p ⊆ l.takeWhile q := by
  induction l with
  | nil => exact List.Subset.refl _
  | cons a l ih =>
    intro b hb
    rw [List.takeWhile_cons] at hb ⊢
    split at hb
    next ha =>
      rw [if_pos (h a ha)]
      exact (List.mem_cons.1 hb).elim (fun he => he ▸ List.mem_cons_self) fun hb => List.mem_cons_of_mem _ (ih hb)
    next => exact absurd hb List.not_mem_nil

/-- A name of parts, of which the first is none that `root` starts with. -/
structure IsOrdinary (name : String) : Prop where
  dotted : IsDotted name.toList
  free : ∀ a ∈ lineage name, ¬ a.toList <+: Registry.rootName.toList

theorem IsOrdinary.of_mem_above {name a : String} (h : IsOrdinary name) (ha : a ∈ above name) : IsOrdinary a := by
  obtain ⟨nearer, hsplit, -⟩ := above_split ha
  refine ⟨h.dotted.of_mem_above ha, fun b hb => h.free b ?_⟩
  rw [lineage, hsplit]
  exact List.mem_cons_of_mem _ (List.mem_append_right _ hb)

theorem firstFormat?_isSome_of_split {before rest : List Step} {x : Step} {name : String} (hname : x.name? = some name) :
    (firstFormat? name (before ++ x :: rest)).isSome :=
  firstFormat?_isSome_iff.2 ⟨x, List.mem_append_right _ List.mem_cons_self, hname⟩

namespace Registry

variable {r r' : Registry} {name other : String} {level : Value} {format : Option String}

/-! ## Names with a logger -/

theorem has_obtain (r : Registry) (name other : String) : (r.obtain name).has other = (r.has other || other = name) := by
  by_cases h : other = name
  · subst h
    simp [has, find?_obtain_self]
  · simp [has, find?_obtain_other r h, h]

@[simp] theorem has_register (r : Registry) (name other : String) : (r.register name).has other = r.has other := by
  rw [has, find?_register, has]

theorem has_update (r : Registry) {change : Logger → Logger} (hname : ∀ l, (change l).name = l.name) (name other : String) :
    (r.update name change).has other = r.has other := by
  by_cases h : other = name
  · subst h
    rw [has, find?_update_self r hname, Option.isSome_map, has]
  · rw [has, find?_update_other r hname h, has]

@[simp] theorem parents_register (r : Registry) (name : String) : (r.register name).parents = r.parents := by
  unfold register
  split <;> rfl

@[simp] theorem places_register (r : Registry) (name : String) : (r.register name).places = r.places := by
  unfold register
  split <;> rfl

/-- Whatever comes of a set-up, it has made the logger and the links. -/
theorem setup_obtain (r : Registry) (name : String) (level : Value) (format : Option String) :
    (∀ other, (r.setup name level format).2.has other = (r.obtain name).has other) ∧
      (r.setup name level format).2.parents = (r.obtain name).parents ∧
      (r.setup name level format).2.places = (r.obtain name).places := by
  have hleveled : ∀ l other, (r.leveled name l).has other = (r.obtain name).has other := fun l other => by
    rw [leveled, has_update]
    exact fun _ => rfl
  generalize hx : r.setup name level format = x
  have hup := setup_cases r name level format
  rw [hx] at hup
  cases hup with
  | badLevel _ => exact ⟨fun _ => rfl, rfl, rfl⟩
  | again _ _ =>
    refine ⟨fun other => ?_, parents_register _ _, places_register _ _⟩
    rw [has_register, hleveled]
  | badFormat _ _ _ => exact ⟨hleveled _, rfl, rfl⟩
  | @first l t _ _ _ =>
    refine ⟨fun other => ?_, parents_register _ _, places_register _ _⟩
    rw [has_register, has_update, hleveled]
    exact fun _ => rfl

theorem has_setup (r : Registry) (name : String) (level : Value) (format : Option String) (other : String) :
    (r.setup name level format).2.has other = (r.has other || other = name) := by
  rw [(setup_obtain r name level format).1, has_obtain]

theorem setLevel_links (h : r.setLevel level = .ok r') :
    (∀ name, r'.has name = r.has name) ∧ r'.parents = r.parents ∧ r'.places = r.places := by
  unfold setLevel at h
  split at h
  next l _ =>
    cases h
    refine ⟨fun name => ?_, rfl, rfl⟩
    have hkeeps : ∀ x : Logger, (if r.configured.contains x.name then { x with level := l } else x).name = x.name := by
      intro x
      split <;> rfl
    rw [has, find?_map hkeeps, Option.isSome_map, has]
  next =>
    split at h
    next => cases h; exact ⟨fun _ => rfl, rfl, rfl⟩
    next => cases h
  next => cases h

/-- A step makes the logger of the name that it sets up, and no other. -/
theorem has_step (r : Registry) (x : Step) (name : String) : (r.step x).2.has name ↔ r.has name ∨ x.name? = some name := by
  cases x with
  | setup n level format =>
    rw [step, has_setup, Bool.or_eq_true, decide_eq_true_eq, Step.name?, Option.some.injEq, @eq_comm _ n]
  | setLevel level =>
    have hsame : (r.step (.setLevel level)).2.has name = r.has name := by
      rw [step]
      cases hx : r.setLevel level with
      | ok r' => exact (setLevel_links hx).1 name
      | error f => rfl
    rw [hsame, Step.name?]
    simp

theorem has_run (r : Registry) (steps : List Step) (name : String) :
    (r.run steps).has name ↔ r.has name ∨ ∃ x ∈ steps, x.name? = some name := by
  induction steps generalizing r with
  | nil => simp [run]
  | cons x rest ih =>
    have hrest := ih (r.step x).2
    rw [has_step, or_assoc] at hrest
    rw [List.exists_mem_cons_iff]
    exact hrest

/-! ## Links -/

/-- The nearest name above a name that has a logger. -/
def upper? (r : Registry) (name : String) : Option String := (above name).find? r.has

/-- Loggers have names of parts and are linked to the nearest above them, and they wait at all names in between. -/
structure Linked (r : Registry) : Prop where
  configured : ∀ name ∈ r.configured, r.has name
  dotted : ∀ name, r.has name → IsDotted name.toList
  parents : ∀ name, r.parents.lookup name = if r.has name then r.upper? name else none
  waits : ∀ name, r.has name → ∀ a ∈ (above name).takeWhile (!r.has ·), (a, name) ∈ r.places
  below : ∀ p ∈ r.places, r.has p.2 ∧ p.1 ∈ above p.2

theorem linked_empty : Linked {} where
  configured name h := absurd h List.not_mem_nil
  dotted name h := by cases h
  parents name := rfl
  waits name h := by cases h
  below p h := absurd h List.not_mem_nil

/-- A logger of the name is there, or can be made with its links: the name is of parts, and it is none that `root` starts with
or has no logger below. -/
structure Admits (r : Registry) (name : String) : Prop where
  dotted : IsDotted name.toList
  free : r.has name ∨ ¬ name.toList <+: rootName.toList ∨ ∀ other, r.has other → name ∉ above other

theorem admits_of_isOrdinary (h : IsOrdinary name) : r.Admits name :=
  ⟨h.dotted, .inr (.inl (h.free name List.mem_cons_self))⟩

theorem upper?_eq_some {p : String} (h : r.upper? name = some p) :
    p ∈ above name ∧ r.has p ∧ ∃ nearer, above name = nearer ++ lineage p ∧ ∀ b ∈ nearer, ¬ r.has b := by
  have hmem : p ∈ above name := List.mem_of_find?_eq_some h
  have hhas : r.has p = true := List.find?_some (p := r.has) h
  obtain ⟨nearer, hsplit, hnearer⟩ := above_split hmem
  refine ⟨hmem, hhas, nearer, hsplit, fun b hb hlogger => ?_⟩
  -- A nearer logger would have been found first, but the name that was found is above all nearer ones.
  have hsome : (nearer.find? r.has).isSome := List.find?_isSome.2 ⟨b, hb, hlogger⟩
  obtain ⟨c, hc⟩ := Option.isSome_iff_exists.1 hsome
  rw [upper?, hsplit, List.find?_append, hc, Option.some_or, Option.some.injEq] at h
  subst h
  exact not_mem_above _ (hnearer _ (List.mem_of_find?_eq_some hc))

/-- Of other names the same ones have a logger. -/
theorem find?_has_obtain {names : List String} (h : name ∉ names) : names.find? (r.obtain name).has = names.find? r.has := by
  refine List.find?_congr fun a ha => ?_
  have hne : a ≠ name := fun he => h (he ▸ ha)
  rw [has_obtain, decide_eq_false hne, Bool.or_false]

/-- A new logger is linked to the nearest above it, and those that it adopts are linked to it. -/
theorem lookup_parents_obtain (hnew : r.has name = false) (hname : IsDotted name.toList) (n : String) :
    (r.obtain name).parents.lookup n = (if n = name then r.upper? name else none).or
      ((if n ∈ r.adopted name then some name else none).or (r.parents.lookup n)) := by
  have hself : ((r.upper? name).map (name, ·)).toList.lookup n = if n = name then r.upper? name else none := by
    cases r.upper? name <;> simp
  rw [obtain, hnew, ← lookup_map_pair, ← hself, ← Option.or_assoc, ← List.lookup_append, ← List.lookup_append, upper?,
    hname.above_eq]
  rfl

/-- A new logger waits at the names that are passed before there is a logger. -/
theorem mem_places_obtain (hnew : r.has name = false) (hname : IsDotted name.toList) {p : String × String} :
    p ∈ (r.obtain name).places ↔ p.2 = name ∧ p.1 ∈ (above name).takeWhile (!r.has ·) ∨ p ∈ r.places := by
  obtain ⟨a, n⟩ := p
  have hplaces : (r.obtain name).places = ((above name).takeWhile (!r.has ·)).map (·, name) ++ r.places := by
    rw [obtain, hnew, hname.above_eq]
    rfl
  rw [hplaces, List.mem_append, List.mem_map]
  refine or_congr_left ⟨?_, fun h => ⟨a, h.2, by rw [← h.1]⟩⟩
  rintro ⟨b, hb, hpair⟩
  cases hpair
  exact ⟨rfl, hb⟩

namespace Linked

theorem mem_adopted (h : r.Linked) : other ∈ r.adopted name ↔
    (name, other) ∈ r.places ∧ ¬ name.toList <+: ((r.upper? other).getD rootName).toList := by
  have hlookup : (name, other) ∈ r.places → r.parents.lookup other = r.upper? other := fun hplace => by
    rw [h.parents, if_pos (h.below _ hplace).1]
  rw [adopted, List.mem_filter, List.mem_map]
  simp only [Bool.not_eq_true', ← Bool.not_eq_true, List.isPrefixOf_iff_prefix]
  constructor
  · rintro ⟨⟨⟨a, n⟩, hmem, rfl⟩, hprefix⟩
    obtain ⟨hplace, hsame⟩ := List.mem_filter.1 hmem
    obtain rfl : a = name := of_decide_eq_true hsame
    rw [hlookup hplace] at hprefix
    exact ⟨hplace, hprefix⟩
  · rintro ⟨hplace, hprefix⟩
    rw [← hlookup hplace] at hprefix
    exact ⟨⟨_, List.mem_filter.2 ⟨hplace, decide_eq_true rfl⟩, rfl⟩, hprefix⟩

theorem of_mem_adopted (h : r.Linked) (hother : other ∈ r.adopted name) : r.has other ∧ name ∈ above other :=
  h.below _ (h.mem_adopted.1 hother).1

/-- A new logger adopts one that has nothing nearer above it. -/
theorem mem_adopted_of_split (h : r.Linked) (hnew : r.has name = false) (hname : r.Admits name) (hother : r.has other)
    {nearer : List String} (hsplit : above other = nearer ++ lineage name) (hnearer : nearer.find? r.has = none) :
    other ∈ r.adopted name := by
  have hall : ∀ b ∈ nearer, (!r.has b) = true := by simpa using hnearer
  have hmem : name ∈ above other := by
    rw [hsplit]
    exact List.mem_append_right _ List.mem_cons_self
  refine h.mem_adopted.2 ⟨h.waits other hother name ?_, ?_⟩
  · rw [hsplit, List.takeWhile_append_of_pos hall, lineage, List.takeWhile_cons, hnew]
    exact List.mem_append_right _ List.mem_cons_self
  · rw [upper?, hsplit, List.find?_append, hnearer, lineage, List.find?_cons, hnew, Option.none_or, ← upper?]
    cases hupper : r.upper? name with
    | none =>
      rcases hname.free with hhas | hfree | hnone
      · rw [hnew] at hhas
        cases hhas
      · exact hfree
      · exact absurd hmem (hnone other hother)
    | some p =>
      intro hprefix
      have hlt := length_lt_of_mem_above (upper?_eq_some hupper).1
      have hle := hprefix.length_le
      rw [Option.getD_some, String.length_toList, String.length_toList] at hle
      omega

/-- The nearest name above a logger, after another logger has been made: that of the new one if it adopted it. -/
theorem upper?_obtain (h : r.Linked) (hnew : r.has name = false) (hname : r.Admits name) (hother : r.has other) :
    (r.obtain name).upper? other = if other ∈ r.adopted name then some name else r.upper? other := by
  by_cases hmem : name ∈ above other
  · obtain ⟨nearer, hsplit, hnearer⟩ := above_split hmem
    have hfree : name ∉ nearer := fun hin => not_mem_above name (hnearer name hin)
    have hself : (r.obtain name).has name = true := by simp [has_obtain]
    have hupper : (r.obtain name).upper? other = (nearer.find? r.has).or (some name) := by
      rw [upper?, hsplit, List.find?_append, lineage, List.find?_cons, hself, find?_has_obtain hfree]
    cases hfound : nearer.find? r.has with
    | some p =>
      have hold : r.upper? other = some p := by rw [upper?, hsplit, List.find?_append, hfound, Option.some_or]
      have hnot : other ∉ r.adopted name := by
        rw [h.mem_adopted, hold]
        exact fun hadopted => hadopted.2 (isPrefix_of_mem_above (hnearer p (List.mem_of_find?_eq_some hfound)))
      rw [hupper, if_neg hnot, hold, hfound, Option.some_or]
    | none => rw [hupper, if_pos (h.mem_adopted_of_split hnew hname hother hsplit hfound), hfound, Option.none_or]
  · have hnot : other ∉ r.adopted name := fun hadopted => hmem (h.of_mem_adopted hadopted).2
    rw [if_neg hnot, upper?, find?_has_obtain hmem, upper?]

/-- A new logger is linked, and so are all others still. -/
theorem obtain (h : r.Linked) (hname : r.Admits name) : (r.obtain name).Linked := by
  cases hnew : r.has name with
  | true =>
    have hsame : r.obtain name = r := by rw [Registry.obtain, if_pos hnew]
    rw [hsame]
    exact h
  | false =>
    have hself : (r.obtain name).has name = true := by simp [has_obtain]
    have hkeeps : ∀ {n}, r.has n → (r.obtain name).has n := fun hn => by simp [has_obtain, hn]
    have hthere : ∀ n, (r.obtain name).has n → r.has n ∨ n = name := fun n hn => by simpa [has_obtain] using hn
    refine ⟨fun n hn => ?_, fun n hn => ?_, fun n => ?_, fun n hn a ha => ?_, fun p hp => ?_⟩
    · rw [configured_obtain] at hn
      exact hkeeps (h.configured n hn)
    · exact (hthere n hn).elim (h.dotted n) fun he => he ▸ hname.dotted
    · rw [lookup_parents_obtain hnew hname.dotted, h.parents]
      by_cases hn : n = name
      · subst hn
        have hnot : n ∉ r.adopted n := fun hadopted => not_mem_above n (h.of_mem_adopted hadopted).2
        rw [if_pos rfl, if_neg hnot, hnew, if_pos hself, upper?, upper?, find?_has_obtain (not_mem_above n)]
        exact Option.or_none
      · have hhas : (r.obtain name).has n = r.has n := by rw [has_obtain, decide_eq_false hn, Bool.or_false]
        rw [if_neg hn, Option.none_or, hhas]
        cases hold : r.has n with
        | true =>
          rw [if_pos rfl, if_pos rfl, h.upper?_obtain hnew hname hold]
          split <;> rfl
        | false =>
          have hnot : n ∉ r.adopted name := fun hadopted => by
            rw [(h.of_mem_adopted hadopted).1] at hold
            cases hold
          rw [if_neg hnot]
          rfl
    · -- Fewer names are without a logger than before.
      have hfewer : (above n).takeWhile (!(r.obtain name).has ·) ⊆ (above n).takeWhile (!r.has ·) := by
        refine takeWhile_subset (fun b hb => ?_) _
        rw [has_obtain, Bool.not_or, Bool.and_eq_true] at hb
        exact hb.1
      rw [mem_places_obtain hnew hname.dotted]
      rcases hthere n hn with hn | rfl
      · exact .inr (h.waits n hn a (hfewer ha))
      · exact .inl ⟨rfl, hfewer ha⟩
    · rcases (mem_places_obtain hnew hname.dotted).1 hp with ⟨hsame, hmem⟩ | hold
      · rw [hsame]
        exact ⟨hself, (List.takeWhile_sublist _).subset hmem⟩
      · exact ⟨hkeeps (h.below p hold).1, (h.below p hold).2⟩

/-- The loggers on the way up from a logger are those of the names above it: by induction on the number of steps. -/
theorem ancestors_eq (h : r.Linked) {steps : Nat} (hname : r.has name) (hsteps : name.length ≤ steps) :
    r.ancestors steps name = (above name).filterMap r.find? := by
  induction steps generalizing name with
  | zero =>
    have hnil : above name = [] := List.eq_nil_iff_forall_not_mem.2 fun a ha => by
      have hlt := length_lt_of_mem_above ha
      omega
    rw [ancestors, hnil, List.filterMap_nil]
  | succ steps ih =>
    have hparent : r.parent? name = (r.upper? name).bind r.find? := by rw [parent?, h.parents, if_pos hname]
    cases hupper : r.upper? name with
    | none =>
      have hnone : (above name).filterMap r.find? = [] := by
        refine List.filterMap_eq_nil_iff.2 fun a ha => ?_
        simpa [has] using List.find?_eq_none.1 hupper a ha
      rw [hupper, Option.bind_none] at hparent
      rw [ancestors, hparent, hnone]
    | some p =>
      obtain ⟨hmem, hp, nearer, hsplit, hnearer⟩ := upper?_eq_some hupper
      obtain ⟨l, hl⟩ := Option.isSome_iff_exists.1 hp
      have hskip : nearer.filterMap r.find? = [] := by
        refine List.filterMap_eq_nil_iff.2 fun a ha => ?_
        simpa [has] using hnearer a ha
      have hlt := length_lt_of_mem_above hmem
      rw [hupper, Option.bind_some, hl] at hparent
      rw [ancestors, hparent, hsplit, List.filterMap_append, hskip, List.nil_append, lineage, List.filterMap_cons, hl]
      dsimp only
      rw [name_of_find? hl, ih hp (by omega)]

theorem chain_eq (h : r.Linked) (hname : r.has name) : r.chain name = (lineage name).filterMap r.find? := by
  obtain ⟨l, hl⟩ := Option.isSome_iff_exists.1 hname
  rw [chain, h.ancestors_eq hname (Nat.le_refl _), lineage, List.filterMap_cons, hl]
  rfl

/-! ## Steps -/

/-- Links and names with a logger are all that matters. -/
theorem congr (h : r.Linked) (hhas : ∀ n, r'.has n = r.has n) (hparents : r'.parents = r.parents)
    (hplaces : r'.places = r.places) (hconfigured : ∀ n ∈ r'.configured, r.has n) : r'.Linked := by
  have hfun : r'.has = r.has := funext hhas
  refine ⟨fun n hn => ?_, ?_, fun n => ?_, ?_, ?_⟩
  · rw [hhas]
    exact hconfigured n hn
  · rw [hfun]
    exact h.dotted
  · rw [hparents, hfun, upper?, hfun, ← upper?]
    exact h.parents n
  · rw [hfun, hplaces]
    exact h.waits
  · rw [hfun, hplaces]
    exact h.below

theorem step (h : r.Linked) {x : Step} (hx : ∀ name, x.name? = some name → r.Admits name) : (r.step x).2.Linked := by
  cases x with
  | setup name level format =>
    have hmade := h.obtain (hx name rfl)
    obtain ⟨hhas, hparents, hplaces⟩ := setup_obtain r name level format
    refine hmade.congr hhas hparents hplaces fun n hn => ?_
    rw [has_obtain, Bool.or_eq_true, decide_eq_true_eq]
    exact ((mem_configured_setup r name level format).1 hn).imp (h.configured n) And.right
  | setLevel level =>
    rw [Registry.step]
    cases hout : r.setLevel level with
    | ok r' =>
      obtain ⟨hhas, hparents, hplaces⟩ := setLevel_links hout
      have hsame : r'.configured = r.configured := (find?_setLevel hout).1
      exact h.congr hhas hparents hplaces fun n hn => h.configured n (hsame ▸ hn)
    | error f => exact h

/-- A set-up of an ordinary name keeps the links, whatever comes of it. -/
theorem setup (h : r.Linked) (hname : IsOrdinary name) (level : Value) (format : Option String) :
    (r.setup name level format).2.Linked :=
  h.step (x := .setup name level format) fun _ hn => Option.some.inj hn ▸ admits_of_isOrdinary hname

theorem setLevel (h : r.Linked) (hlevel : r.setLevel level = .ok r') : r'.Linked := by
  have hstep := h.step (x := .setLevel level) fun _ hn => by cases hn
  rw [Registry.step, hlevel] at hstep
  exact hstep

theorem run (h : r.Linked) (steps : List Step)
    (hsteps : ∀ before x rest, steps = before ++ x :: rest → ∀ name, x.name? = some name → (r.run before).Admits name) :
    (r.run steps).Linked := by
  induction steps generalizing r with
  | nil => exact h
  | cons x rest ih =>
    refine ih (h.step (hsteps [] x rest rfl)) fun before y after hsplit => ?_
    exact hsteps (x :: before) y after (by rw [hsplit, List.cons_append])

end Linked

end Registry

end ApkReport.Journal
