/-
Who writes a record. After set-ups and changes of level that all succeed, over names of parts,
every logger there is was set up. So a record is held back by the nearest level that is not
zero on the way up, and otherwise each name that was set up on the way writes one line, in its
own first format. All of this is read off the steps (`Reflects.log_eq`): first formats and last
levels count, the order of the steps does not (`log_after_successes`). The order counts for the names
that `root` starts with: set up after a name below them, they are not found on the way up from it
(`log_lacks_lines`).
-/
import ApkReport.Proofs.Journal.Links
import Mathlib.Data.List.Forall2

namespace ApkReport.Journal

/-! ## Templates -/

/-- The piece is filled in from every record: it is a character, or a field with a conversion for the values of the field. -/
def Piece.fits : Piece → Bool
  | .text _ => true
  | .field "name" form | .field "levelname" form | .field "message" form | .field "msg" form =>
    "sra".toList.contains form.conversion
  | .field "levelno" form => "sradiuoxX".toList.contains form.conversion
  | .field .. | .broken => false

/-- The format is built from the fields of a record. -/
def IsBuilt (format : Option String) : Prop := ∃ t, Registry.templateOf format = .ok t ∧ t.all Piece.fits

namespace Template

theorem fillText_isSome {form : Form} (h : "sra".toList.contains form.conversion) (s : String) : (fillText form s).isSome := by
  have hcases : form.conversion = 's' ∨ form.conversion = 'r' ∨ form.conversion = 'a' := by simpa using h
  unfold fillText
  rcases hcases with hc | hc | hc <;> rw [hc] <;> rfl

theorem fillNumber_isSome {form : Form} (h : "sradiuoxX".toList.contains form.conversion) (n : Int) :
    (fillNumber form n).isSome := by
  have hcases : form.conversion = 's' ∨ form.conversion = 'r' ∨ form.conversion = 'a' ∨ form.conversion = 'd' ∨
      form.conversion = 'i' ∨ form.conversion = 'u' ∨ form.conversion = 'o' ∨ form.conversion = 'x' ∨
      form.conversion = 'X' := by simpa using h
  unfold fillNumber
  rcases hcases with hc | hc | hc | hc | hc | hc | hc | hc | hc <;> rw [hc] <;> rfl

theorem fillPiece_isSome {p : Piece} (h : p.fits) (r : Record) : (fillPiece r p).isSome := by
  unfold Piece.fits at h
  split at h
  next => rfl
  next => exact fillText_isSome h _
  next => exact fillText_isSome h _
  next => exact fillText_isSome h _
  next => exact fillText_isSome h _
  next => exact fillNumber_isSome h _
  next => cases h
  next => cases h

theorem fill?_isSome {t : Template} (h : t.all Piece.fits) (r : Record) : (t.fill? r).isSome := by
  have hpieces : (t.mapM (fillPiece r)).isSome := by
    induction t with
    | nil => rfl
    | cons p t ih =>
      rw [List.all_cons, Bool.and_eq_true] at h
      obtain ⟨filled, hp⟩ := Option.isSome_iff_exists.1 (fillPiece_isSome h.1 r)
      obtain ⟨rest, ht⟩ := Option.isSome_iff_exists.1 (ih h.2)
      rw [List.mapM_cons, hp, ht]
      rfl
  rw [fill?, Option.isSome_map]
  exact hpieces

end Template

/-! ## What the steps say -/

/-- The names that were set up among a name and those before its dots. -/
def writers (steps : List Step) (name : String) : List String :=
  (lineage name).filter fun n => (firstFormat? n steps).isSome

/-- The level that holds records of a name back: the nearest that is not zero, or that of warnings. -/
def leastLevel (steps : List Step) (name : String) : Int :=
  ((((writers steps name).filterMap fun n => (lastLevel? n steps).map Level.value)).find? (· ≠ 0)).getD warning

/-- The line that a name writes, in its first format. -/
def line? (steps : List Step) (record : Record) (name : String) : Option String := do
  let format ← firstFormat? name steps
  let t ← (Registry.templateOf format).toOption
  t.fill? record

/-- What a record of a level leaves: nothing if it is below the level that holds records back, and otherwise a line of each name
that writes, in order, each in the first format of that name. -/
def Leaves (steps : List Step) (record : Record) (written : List String) : Prop :=
  if record.level < leastLevel steps record.name then written = []
  else List.Forall₂ (fun name line => ∃ format t, firstFormat? name steps = some format ∧ Registry.templateOf format = .ok t ∧
    t.fill? record = some line) (writers steps record.name) written

/-- None of the names that `root` starts with is set up for the first time after a name below it. -/
def IsOrderly (steps : List Step) : Prop :=
  ∀ before name level format after, steps = before ++ .setup name level format :: after →
    name.toList <+: Registry.rootName.toList →
    (firstFormat? name before).isSome ∨ ∀ other, (firstFormat? other before).isSome → name ∉ above other

/-- What is written of a record. -/
def logged (steps : List Step) (record : Record) : Except Fault (List String) :=
  if (firstFormat? record.name steps).isSome then
    if 0 < record.level ∧ leastLevel steps record.name ≤ record.level then
      if Registry.isTooLong record.level then .error .longLevel else .ok ((writers steps record.name).filterMap (line? steps record))
    else .ok []
  else .error (.unknownLogger record.name)

theorem forall₂_filterMap {α β : Type} {f : α → Option β} {l : List α} (h : ∀ a ∈ l, (f a).isSome) :
    List.Forall₂ (fun a b => f a = some b) l (l.filterMap f) := by
  induction l with
  | nil => exact .nil
  | cons a l ih =>
    obtain ⟨b, hb⟩ := Option.isSome_iff_exists.1 (h a List.mem_cons_self)
    rw [List.filterMap_cons, hb]
    exact .cons hb (ih fun x hx => h x (List.mem_cons_of_mem _ hx))

/-- A name that was set up with a format that is built from fields has a line for every record. -/
theorem line?_isSome {steps : List Step} {name : String} {format : Option String} (hfirst : firstFormat? name steps = some format)
    (h : IsBuilt format) (record : Record) : (line? steps record name).isSome := by
  obtain ⟨t, htemplate, hfits⟩ := h
  rw [line?, hfirst]
  change ((Registry.templateOf format).toOption.bind _).isSome
  rw [htemplate]
  exact Template.fill?_isSome hfits record

theorem line?_eq_some {steps : List Step} {record : Record} {name line : String} (h : line? steps record name = some line) :
    ∃ format t, firstFormat? name steps = some format ∧ Registry.templateOf format = .ok t ∧ t.fill? record = some line := by
  obtain ⟨format, hfirst, h⟩ := Option.bind_eq_some_iff.1 h
  obtain ⟨t, htemplate, hline⟩ := Option.bind_eq_some_iff.1 h
  cases hof : Registry.templateOf format with
  | error f =>
    rw [hof] at htemplate
    cases htemplate
  | ok found =>
    rw [hof] at htemplate
    obtain rfl : found = t := Option.some.inj htemplate
    exact ⟨format, found, hfirst, hof, hline⟩

/-- First formats and last levels say what is written. -/
theorem logged_congr {steps others : List Step} (hformats : ∀ name, firstFormat? name others = firstFormat? name steps)
    (hlevels : ∀ name, (firstFormat? name steps).isSome →
      (lastLevel? name others).map Level.value = (lastLevel? name steps).map Level.value) (record : Record) :
    logged others record = logged steps record := by
  have hwriters : writers others record.name = writers steps record.name := by
    simp only [writers, hformats]
  have hleast : leastLevel others record.name = leastLevel steps record.name := by
    have hvalues : (writers steps record.name).filterMap (fun n => (lastLevel? n others).map Level.value) =
        (writers steps record.name).filterMap fun n => (lastLevel? n steps).map Level.value :=
      List.filterMap_congr fun n hn => hlevels n (List.mem_filter.1 hn).2
    rw [leastLevel, leastLevel, hwriters, hvalues]
  have hline : line? others record = line? steps record := by
    funext name
    rw [line?, line?, hformats]
  rw [logged, logged, hformats, hwriters, hleast, hline]

namespace Registry

variable {r r' : Registry}

/-- All loggers that there are were set up to the end. -/
def IsComplete (r : Registry) : Prop := ∀ name, (r.find? name).isSome → name ∈ r.configured

theorem isComplete_setup (h : r.IsComplete) {name : String} {level : Value} {format : Option String}
    (hok : (r.setup name level format).1 = .ok ()) : (r.setup name level format).2.IsComplete := by
  intro other hother
  rw [mem_configured_setup]
  by_cases hsame : other = name
  · exact .inr ⟨hok, hsame⟩
  · rw [find?_setup_other r level format hsame] at hother
    exact .inl (h other hother)

theorem isComplete_setLevel (h : r.IsComplete) {level : Value} (hok : r.setLevel level = .ok r') : r'.IsComplete := by
  intro name hname
  rw [(find?_setLevel hok).1]
  by_contra hnot
  rw [find?_setLevel_other hok hnot] at hname
  exact hnot (h name hname)

theorem length_succeeded_le (r : Registry) (steps : List Step) : (r.succeeded steps).length ≤ steps.length := by
  induction steps generalizing r with
  | nil => exact Nat.le_refl _
  | cons x rest ih =>
    have hrest := ih (r.step x).2
    rw [succeeded, List.length_append, List.length_cons]
    split
    · rw [List.length_singleton]
      omega
    · rw [List.length_nil]
      omega

theorem isComplete_run {steps : List Step} (h : r.IsComplete) (hok : r.succeeded steps = steps) : (r.run steps).IsComplete := by
  induction steps generalizing r with
  | nil => exact h
  | cons x rest ih =>
    have hlength := length_succeeded_le (r.step x).2 rest
    rw [succeeded] at hok
    split at hok
    next hx =>
      have hrest : (r.step x).2.succeeded rest = rest := (List.cons.inj hok).2
      refine ih (r := (r.step x).2) ?_ hrest
      cases x with
      | setup name level format =>
        rw [step] at hx ⊢
        cases hout : (r.setup name level format).1 with
        | ok _ => exact isComplete_setup h hout
        | error f =>
          rw [hout] at hx
          cases hx
      | setLevel level =>
        rw [step] at hx ⊢
        cases hout : r.setLevel level with
        | ok r' => exact isComplete_setLevel h hout
        | error f =>
          rw [hout] at hx
          cases hx
    next =>
      rw [List.nil_append] at hok
      rw [hok, List.length_cons] at hlength
      omega

/-! ## Records -/

variable {steps : List Step}

theorem Reflects.mem_configured_iff (h : r.Reflects steps) {name : String} :
    name ∈ r.configured ↔ (firstFormat? name steps).isSome := by
  rw [h.configured, firstFormat?_isSome_iff, exists_name?_iff]

/-- A logger that was set up is what the steps say of its name. -/
theorem Reflects.exists_logger (h : r.Reflects steps) {name : String} (hname : (firstFormat? name steps).isSome) :
    ∃ l t, r.find? name = some l ∧ l.handlers = [t] ∧ (∀ record, line? steps record name = t.fill? record) ∧
      lastLevel? name steps = some l.level := by
  obtain ⟨l, t, format, hfind, hhandlers, hfirst, htemplate, hlast⟩ := h.logger name (h.mem_configured_iff.2 hname)
  refine ⟨l, t, hfind, hhandlers, fun record => ?_, hlast⟩
  rw [line?, hfirst]
  change (templateOf format).toOption.bind _ = _
  rw [htemplate]
  rfl

/-- The loggers on the way up from a name are those of the names that were set up. -/
theorem Reflects.chain_eq (h : r.Reflects steps) (hlinked : r.Linked) (hcomplete : r.IsComplete) {name : String}
    (hname : r.has name) : r.chain name = (writers steps name).filterMap r.find? := by
  have hmissing : ∀ n, ¬ (firstFormat? n steps).isSome → r.find? n = none := by
    intro n hn
    rw [← h.mem_configured_iff] at hn
    simpa using fun hfind => hn (hcomplete n hfind)
  rw [hlinked.chain_eq hname, writers, List.filterMap_filter]
  refine List.filterMap_congr fun n _ => ?_
  split
  next => rfl
  next hn => exact hmissing n hn

theorem Reflects.fill_eq (h : r.Reflects steps) (record : Record) {names : List String}
    (hnames : ∀ n ∈ names, (firstFormat? n steps).isSome) :
    ((names.filterMap r.find?).flatMap (·.handlers)).filterMap (·.fill? record) = names.filterMap (line? steps record) := by
  induction names with
  | nil => rfl
  | cons n names ih =>
    obtain ⟨l, t, hfind, hhandlers, hline, -⟩ := h.exists_logger (hnames n List.mem_cons_self)
    have hrest := ih fun m hm => hnames m (List.mem_cons_of_mem _ hm)
    rw [List.filterMap_cons, hfind]
    dsimp only
    rw [List.flatMap_cons, hhandlers, List.singleton_append, List.filterMap_cons, List.filterMap_cons, hline, hrest]

theorem Reflects.threshold_eq (h : r.Reflects steps) {names : List String}
    (hnames : ∀ n ∈ names, (firstFormat? n steps).isSome) :
    threshold (names.filterMap r.find?) =
      ((names.filterMap fun n => (lastLevel? n steps).map Level.value).find? (· ≠ 0)).getD warning := by
  have hlevels : names.filterMap (fun n => (lastLevel? n steps).map Level.value) =
      (names.filterMap r.find?).map (·.level.value) := by
    rw [List.map_filterMap]
    refine List.filterMap_congr fun n hn => ?_
    obtain ⟨l, t, hfind, -, -, hlast⟩ := h.exists_logger (hnames n hn)
    rw [hlast, hfind]
    rfl
  rw [hlevels, List.find?_map, threshold]
  rfl

/-- What is written of a record is what the steps say. -/
theorem Reflects.log_eq (h : r.Reflects steps) (hlinked : r.Linked) (hcomplete : r.IsComplete) (record : Record) :
    r.log record = logged steps record := by
  unfold log logged
  by_cases hname : (firstFormat? record.name steps).isSome
  · have hmem : record.name ∈ r.configured := h.mem_configured_iff.2 hname
    have hwriters : ∀ n ∈ writers steps record.name, (firstFormat? n steps).isSome := fun n hn => (List.mem_filter.1 hn).2
    have hpasses : passes ((writers steps record.name).filterMap r.find?) record.level =
        (decide (0 < record.level) && decide (leastLevel steps record.name ≤ record.level)) := by
      rw [passes, h.threshold_eq hwriters, ← leastLevel]
    rw [if_pos hname, if_pos (List.contains_iff_mem.2 hmem), lines, h.chain_eq hlinked hcomplete (hlinked.configured _ hmem),
      h.fill_eq record hwriters, hpasses]
    by_cases hlet : 0 < record.level ∧ leastLevel steps record.name ≤ record.level
    · simp [hlet]
    · simp only [← Bool.decide_and, hlet, decide_false, Bool.and_false, Bool.false_eq_true, if_false]
  · have hcontains : ¬ r.configured.contains record.name = true := fun hc =>
      hname (h.mem_configured_iff.1 (List.contains_iff_mem.1 hc))
    rw [if_neg hname, if_neg hcontains]

/-- The names that have a logger are those that were set up. -/
theorem has_run_empty (steps : List Step) (name : String) :
    (({} : Registry).run steps).has name ↔ (firstFormat? name steps).isSome := by
  rw [has_run, firstFormat?_isSome_iff]
  exact or_iff_right Bool.false_ne_true

theorem isOrderly_of_not_isPrefix (h : ∀ name, (firstFormat? name steps).isSome → ¬ name.toList <+: rootName.toList) :
    IsOrderly steps := by
  intro before name level format after hsplit hprefix
  refine absurd hprefix (h name ?_)
  rw [hsplit]
  exact firstFormat?_isSome_of_split rfl

theorem linked_run_empty (hnames : ∀ name, (firstFormat? name steps).isSome → IsDotted name.toList) (horder : IsOrderly steps) :
    (({} : Registry).run steps).Linked := by
  refine linked_empty.run steps fun before x rest hsplit name hname => ?_
  cases x with
  | setLevel level => cases hname
  | setup n level format =>
    cases hname
    have hsetup : (firstFormat? name steps).isSome := by
      rw [hsplit]
      exact firstFormat?_isSome_of_split rfl
    refine ⟨hnames name hsetup, ?_⟩
    by_cases hprefix : name.toList <+: rootName.toList
    · rcases horder before name level format rest hsplit hprefix with hthere | hnone
      · exact .inl ((has_run_empty before name).2 hthere)
      · exact .inr (.inr fun other hother => hnone other ((has_run_empty before other).1 hother))
    · exact .inr (.inl hprefix)

/-- After steps that succeed over names of parts, in order as far as names are concerned that `root` starts with, a record that
is held back by the nearest level that is not zero leaves nothing, and any other whose level can be written leaves one line for
each name on the way up that was set up, nearest first, in the first format of that name. Steps with the same first formats and
last levels leave the same lines. -/
theorem log_after_successes {steps : List Step} (hok : ({} : Registry).succeeded steps = steps)
    (hnames : ∀ name, (firstFormat? name steps).isSome → IsDotted name.toList ∧ name ≠ rootName)
    (hformats : ∀ name format, firstFormat? name steps = some format → IsBuilt format) (horder : IsOrderly steps) :
    (∀ record : Record, 1 ≤ record.level → isTooLong record.level = false → (firstFormat? record.name steps).isSome →
      ∃ written, (({} : Registry).run steps).log record = .ok written ∧ Leaves steps record written) ∧
      ∀ others, ({} : Registry).succeeded others = others → IsOrderly others →
        (∀ name, firstFormat? name others = firstFormat? name steps) →
        (∀ name, (firstFormat? name steps).isSome →
          (lastLevel? name others).map Level.value = (lastLevel? name steps).map Level.value) →
        ∀ record, (({} : Registry).run others).log record = (({} : Registry).run steps).log record := by
  have hlog : ∀ {done : List Step}, ({} : Registry).succeeded done = done → IsOrderly done →
      (∀ name, (firstFormat? name done).isSome → IsDotted name.toList) →
      ∀ record, (({} : Registry).run done).log record = logged done record := by
    intro done hdone horderly hdotted record
    have hreflects := reflects_empty.run done
    rw [List.nil_append, hdone] at hreflects
    have hcomplete : (({} : Registry).run done).IsComplete := isComplete_run (fun name hname => by cases hname) hdone
    exact hreflects.log_eq (linked_run_empty hdotted horderly) hcomplete record
  have hsteps := hlog hok horder fun name hname => (hnames name hname).1
  refine ⟨fun record hpositive hshort hset => ?_, fun others hothers horderly hsame hlevels record => ?_⟩
  · rw [hsteps, logged, if_pos hset, hshort]
    by_cases hheld : record.level < leastLevel steps record.name
    · exact ⟨[], if_neg fun hpasses => absurd hpasses.2 (by omega), by rw [Leaves, if_pos hheld]⟩
    · have hlines : ∀ n ∈ writers steps record.name, (line? steps record n).isSome := by
        intro n hn
        obtain ⟨format, hfirst⟩ := Option.isSome_iff_exists.1 (List.mem_filter.1 hn).2
        exact line?_isSome hfirst (hformats n format hfirst) record
      refine ⟨_, if_pos ⟨by omega, by omega⟩, ?_⟩
      rw [Leaves, if_neg hheld]
      exact (forall₂_filterMap hlines).imp fun _ _ => line?_eq_some
  · rw [hlog hothers horderly fun name hname => (hnames name (hsame name ▸ hname)).1, hsteps]
    exact logged_congr hsame hlevels record

/-- A name is set up before the one above it, in a format of its own, and its level is then zero. -/
def childFirst : List Step := [
  .setup "a.b.c" (.scalar (.integer 35)) (some "<%(name)s %(levelno)d>"),
  .setLevel (.scalar (.integer 0)),
  .setup "a" (.scalar (.integer 20)) none]

/-- The same names, formats and levels in another order. -/
def childLast : List Step := [
  .setup "a" (.scalar (.text "INFO")) none,
  .setup "a.b.c" (.scalar (.flag false)) (some "<%(name)s %(levelno)d>")]

theorem firstFormat?_childLast (name : String) : firstFormat? name childLast = firstFormat? name childFirst := by
  by_cases hchild : "a.b.c" = name
  · subst hchild
    rfl
  · by_cases hparent : "a" = name
    · subst hparent
      rfl
    · simp [firstFormat?, childFirst, childLast, Step.format?, List.findSome?_cons, hchild, hparent]

theorem log_after_childFirst :
    (({} : Registry).run childFirst).log ⟨"a.b.c", 25, "x"⟩ = .ok ["<a.b.c 25>", "[Level 25] a.b.c: x"] ∧
      ∀ record, (({} : Registry).run childLast).log record = (({} : Registry).run childFirst).log record := by
  have hcases : ∀ name, (firstFormat? name childFirst).isSome → name = "a.b.c" ∨ name = "a" := by
    intro name hname
    simpa [childFirst, Step.name?, @eq_comm _ _ name] using firstFormat?_isSome_iff.1 hname
  have hdotted : ∀ name, (firstFormat? name childFirst).isSome → IsDotted name.toList ∧ name ≠ rootName := by
    intro name hname
    have ha : IsDotted ['a'] := .part (by decide) (by decide)
    have hb : IsDotted (['a'] ++ '.' :: ['b']) := .dot ha (by decide) (by decide)
    have hc : IsDotted (['a', '.', 'b'] ++ '.' :: ['c']) := .dot hb (by decide) (by decide)
    rcases hcases name hname with rfl | rfl
    · exact ⟨hc, by decide⟩
    · exact ⟨ha, by decide⟩
  have hfree : ∀ name, (firstFormat? name childFirst).isSome → ¬ name.toList <+: rootName.toList := by
    intro name hname
    rcases hcases name hname with rfl | rfl <;> decide
  have hbuilt : ∀ name format, firstFormat? name childFirst = some format → IsBuilt format := by
    intro name format hfirst
    rcases hcases name (by rw [hfirst]; rfl) with rfl | rfl
    · obtain rfl : some "<%(name)s %(levelno)d>" = format := Option.some.inj hfirst
      exact ⟨_, rfl, by decide +kernel⟩
    · obtain rfl : none = format := Option.some.inj hfirst
      exact ⟨_, rfl, by decide +kernel⟩
  have hlast : IsOrderly childLast := isOrderly_of_not_isPrefix fun name hname => hfree name (firstFormat?_childLast name ▸ hname)
  obtain ⟨hrecords, horder⟩ := @log_after_successes childFirst rfl hdotted hbuilt (isOrderly_of_not_isPrefix hfree)
  obtain ⟨written, hlog, hlines⟩ := hrecords ⟨"a.b.c", 25, "x"⟩ (by decide) (by decide +kernel) (by decide +kernel)
  have hwriters : writers childFirst "a.b.c" = ["a.b.c", "a"] := by decide +kernel
  have hpasses : ¬ (25 : Int) < leastLevel childFirst "a.b.c" := by decide +kernel
  rw [Leaves, if_neg hpasses, hwriters] at hlines
  refine ⟨?_, horder childLast rfl hlast firstFormat?_childLast fun name hname => ?_⟩
  · rw [hlog]
    cases hlines with
    | @cons _ first _ _ hchild hrest =>
    cases hrest with
    | @cons _ second _ _ hparent hnone =>
    cases hnone
    obtain ⟨_, t, hformat, htemplate, hfirst⟩ := hchild
    obtain ⟨_, u, hstandard, hdefault, hsecond⟩ := hparent
    have ht : t.fill? ⟨"a.b.c", 25, "x"⟩ = some "<a.b.c 25>" := by
      cases hformat
      cases htemplate
      decide +kernel
    have hu : u.fill? ⟨"a.b.c", 25, "x"⟩ = some "[Level 25] a.b.c: x" := by
      cases hstandard
      cases hdefault
      decide +kernel
    cases ht.symm.trans hfirst
    cases hu.symm.trans hsecond
    rfl
  · rcases hcases name hname with rfl | rfl <;> decide +kernel

/-- The name `r` is set up after one below it. -/
def lateElder : List Step := [.setup "r.x" (.scalar (.integer 20)) none, .setup "r" (.scalar (.integer 20)) none]

theorem log_after_lateElder :
    ((({} : Registry).run lateElder).log ⟨"r.x", 25, "x"⟩).toOption = some ["[Level 25] r.x: x"] := by decide +kernel

/-- Without the order of the names that `root` starts with, a line can be missing: that of `r` is, after `lateElder`. A format
with a conversion that does not take the value of its field leaves no line, nor does a level that cannot be written, and the line
of an empty format is the message. -/
theorem log_lacks_lines :
    (¬ ∀ steps : List Step, ({} : Registry).succeeded steps = steps →
      (∀ name, (firstFormat? name steps).isSome → IsDotted name.toList ∧ name ≠ rootName) →
      (∀ name format, firstFormat? name steps = some format → IsBuilt format) →
      ∀ record : Record, 1 ≤ record.level → (firstFormat? record.name steps).isSome →
        ∃ written, (({} : Registry).run steps).log record = .ok written ∧ Leaves steps record written) ∧
      ((({} : Registry).run [.setup "a" (.scalar (.integer 20)) (some "%(name)d")]).log ⟨"a", 20, "x"⟩).toOption = some [] ∧
      ((({} : Registry).run [.setup "a" (.scalar (.integer 20)) none]).log ⟨"a", Int.ofNat (Nat.pow 10 Text.maxDigits), "x"⟩).toOption =
        none ∧
      ((({} : Registry).run [.setup "a" (.scalar (.integer 20)) (some "")]).log ⟨"a", 20, "x"⟩).toOption = some ["x"] ∧
      (Template.pieces 0 "".toList).fill? ⟨"a", 20, "x"⟩ = some "" := by
  refine ⟨fun h => ?_, by decide +kernel, by decide +kernel, by decide +kernel, by decide +kernel⟩
  have hcases : ∀ name, (firstFormat? name lateElder).isSome → name = "r.x" ∨ name = "r" := by
    intro name hname
    simpa [lateElder, Step.name?, @eq_comm _ _ name] using firstFormat?_isSome_iff.1 hname
  have hdotted : ∀ name, (firstFormat? name lateElder).isSome → IsDotted name.toList ∧ name ≠ rootName := by
    intro name hname
    have hr : IsDotted ['r'] := .part (by decide) (by decide)
    have hx : IsDotted (['r'] ++ '.' :: ['x']) := .dot hr (by decide) (by decide)
    rcases hcases name hname with rfl | rfl
    · exact ⟨hx, by decide⟩
    · exact ⟨hr, by decide⟩
  have hbuilt : ∀ name format, firstFormat? name lateElder = some format → IsBuilt format := by
    intro name format hfirst
    have hstandard : none = format := by
      rcases hcases name (by rw [hfirst]; rfl) with rfl | rfl
      · exact Option.some.inj hfirst
      · exact Option.some.inj hfirst
    rw [← hstandard]
    exact ⟨_, rfl, by decide +kernel⟩
  obtain ⟨written, hlog, hleaves⟩ := h lateElder rfl hdotted hbuilt ⟨"r.x", 25, "x"⟩ (by decide) (by decide +kernel)
  have hwriters : writers lateElder "r.x" = ["r.x", "r"] := by decide +kernel
  have hpasses : ¬ (25 : Int) < leastLevel lateElder "r.x" := by decide +kernel
  rw [Leaves, if_neg hpasses, hwriters] at hleaves
  have hone := log_after_lateElder
  rw [hlog] at hone
  cases hone
  cases hleaves with
  | cons _ hrest => cases hrest

end Registry

end ApkReport.Journal
