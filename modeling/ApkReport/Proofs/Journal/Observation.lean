/-
What can be seen of loggers. They are configured, and records are logged; what comes back are the
outcomes of the steps, the numbers of handlers and the lines (`answers`). A logger without
handlers, which nobody set up to the end, is seen only by what its level does to the loggers below
it: two registries that differ in the level of such a logger, or in whether it is there, answer
everything alike if that level has the same weight (`Alike.answers_eq`). Names are ordinary here, so that
the loggers above a logger are those of the names above its name.
-/
import ApkReport.Proofs.Journal.Links

namespace ApkReport.Journal

/-- What a program does with its loggers. -/
inductive Use where
  | configure (x : Step)
  | log (record : Record)

/-- The name that is set up is ordinary. -/
def Step.IsOrdinary (x : Step) : Prop := ∀ name, x.name? = some name → Journal.IsOrdinary name

/-- The names that are set up are ordinary. Records are logged under any name. -/
def Use.IsOrdinary : Use → Prop
  | .configure x => x.IsOrdinary
  | .log _ => True

/-- A record that is logged after some steps, as uses. -/
theorem isOrdinary_of_steps {steps : List Step} (h : ∀ x ∈ steps, x.IsOrdinary) (record : Record) :
    ∀ u ∈ steps.map Use.configure ++ [.log record], u.IsOrdinary := by
  intro u hu
  rcases List.mem_append.1 hu with hu | hu
  · obtain ⟨x, hx, rfl⟩ := List.mem_map.1 hu
    exact h x hx
  · obtain rfl := List.mem_singleton.1 hu
    trivial

theorem isOrdinary_setup {name : String} (h : IsOrdinary name) (level : Value) (format : Option String) :
    (Step.setup name level format).IsOrdinary :=
  fun _ hn => Option.some.inj hn ▸ h

/-- What comes back: the outcome of a step, with the number of handlers of a logger that it set up, or the lines of a record. -/
inductive Answer where
  | configured (outcome : Except Fault Unit) (handlers : Nat)
  | logged (outcome : Except Fault (List String))

/-- The least level of the records that a logger of that level lets through; there is none where that is up to the loggers
above it. -/
def weight (name : String) (level : Int) : Option Int :=
  if level ≠ 0 then some (max 1 level) else if above name = [] then some warning else none

namespace Registry

variable {r r₁ r₂ : Registry} {name : String}

/-! ## Uses -/

/-- The number of handlers of the logger that a step sets up. -/
def handlersAfter (r : Registry) : Step → Nat
  | .setup name _ _ => (r.handlers name).length
  | .setLevel _ => 0

def use (r : Registry) : Use → Answer × Registry
  | .configure x => (.configured (r.step x).1 ((r.step x).2.handlersAfter x), (r.step x).2)
  | .log record => (.logged (r.log record), r)

def answers (r : Registry) : List Use → List Answer
  | [] => []
  | u :: rest => (r.use u).1 :: (r.use u).2.answers rest

/-- A record that is logged after some steps is answered last. -/
theorem answers_log (r : Registry) (steps : List Step) (record : Record) :
    (r.answers (steps.map .configure ++ [.log record])).getLast? = some (.logged ((r.run steps).log record)) := by
  induction steps generalizing r with
  | nil => rfl
  | cons x rest ih =>
    have hlast := ih (r.step x).2
    rw [List.map_cons, List.cons_append, answers, List.getLast?_cons]
    change some ((((r.step x).2.answers _).getLast?).getD _) = _
    rw [hlast]
    rfl

/-! ## Chains -/

/-- Two chains have the same handlers, and hold the same records back. -/
structure Matching (c d : List Logger) : Prop where
  handlers : c.flatMap (·.handlers) = d.flatMap (·.handlers)
  passes : ∀ level, passes c level = passes d level

theorem Matching.refl (c : List Logger) : Matching c c := ⟨rfl, fun _ => rfl⟩

theorem passes_eq (c : List Logger) (level : Int) : Registry.passes c level = decide (max 1 (threshold c) ≤ level) := by
  rw [Registry.passes, ← Bool.decide_and, decide_eq_decide]
  omega

/-- The first of some loggers holds records back if its level is not zero; otherwise it is up to the others. -/
theorem passes_cons (l : Logger) (rest : List Logger) (level : Int) :
    Registry.passes (l :: rest) level =
      if l.level.value ≠ 0 then decide (0 < level) && decide (l.level.value ≤ level) else Registry.passes rest level := by
  unfold Registry.passes threshold
  rw [List.find?_cons]
  by_cases h : l.level.value = 0 <;> simp [h]

theorem Matching.append (first : List Logger) {c d : List Logger} (h : Matching c d) : Matching (first ++ c) (first ++ d) := by
  induction first with
  | nil => exact h
  | cons l first ih =>
    refine ⟨?_, fun level => ?_⟩
    · rw [List.cons_append, List.cons_append, List.flatMap_cons, List.flatMap_cons, ih.handlers]
    · rw [List.cons_append, List.cons_append, passes_cons, passes_cons, ih.passes]

/-- The level of the logger of a name, zero if there is none. -/
def levelAt (r : Registry) (name : String) : Int := ((r.find? name).map (·.level.value)).getD 0

theorem weight_zero_of_none {level : Int} (h : weight name level = none) : weight name 0 = none := by
  unfold weight at h
  split_ifs at h with hlevel hempty
  rw [weight, if_neg (by decide), if_neg hempty]

theorem passes_nil (level : Int) : Registry.passes [] level = decide (warning ≤ level) := passes_eq [] level

theorem lineage_filterMap (r : Registry) (name : String) :
    (lineage name).filterMap r.find? = (r.find? name).toList ++ (above name).filterMap r.find? := by
  rw [lineage, List.filterMap_cons]
  cases r.find? name <;> rfl

/-- A level that is not zero, or that has nothing above it, decides; otherwise the loggers above do. -/
theorem passes_lineage (r : Registry) (name : String) (level : Int) :
    Registry.passes ((lineage name).filterMap r.find?) level =
      match weight name (r.levelAt name) with
      | some w => decide (w ≤ level)
      | none => Registry.passes ((above name).filterMap r.find?) level := by
  have hzero : Registry.passes ((above name).filterMap r.find?) level =
      match weight name 0 with
      | some w => decide (w ≤ level)
      | none => Registry.passes ((above name).filterMap r.find?) level := by
    rw [weight, if_neg (by decide)]
    split_ifs with hempty
    · rw [hempty]
      exact passes_nil level
    · rfl
  rw [lineage_filterMap, levelAt]
  cases hfind : r.find? name with
  | none => exact hzero
  | some l =>
    rw [Option.toList_some, List.singleton_append, passes_cons, Option.map_some, Option.getD_some]
    by_cases hlevel : l.level.value = 0
    · rw [if_neg (not_not.2 hlevel), hlevel]
      exact hzero
    · rw [if_pos hlevel, weight, if_pos hlevel]
      dsimp only
      rw [← Bool.decide_and, decide_eq_decide]
      omega

/-! ## One logger without handlers -/

/-- At that name, no logger that was set up is there in either registry, and what is there weighs the same. -/
structure Faint (name : String) (r₁ r₂ : Registry) : Prop where
  notConfigured : name ∉ r₁.configured
  bare₁ : r₁.handlers name = []
  bare₂ : r₂.handlers name = []
  weight : weight name (r₁.levelAt name) = weight name (r₂.levelAt name)

/-- The registries are linked and differ at most at that name, and there in nothing that can be seen. -/
structure Alike (name : String) (r₁ r₂ : Registry) : Prop where
  linked₁ : r₁.Linked
  linked₂ : r₂.Linked
  configured : r₁.configured = r₂.configured
  other : ∀ n, n ≠ name → r₁.find? n = r₂.find? n
  self : r₁.find? name = r₂.find? name ∨ Faint name r₁ r₂

theorem Faint.lineage (h : Faint name r₁ r₂) (hup : Matching ((above name).filterMap r₁.find?) ((above name).filterMap r₂.find?)) :
    Matching ((lineage name).filterMap r₁.find?) ((lineage name).filterMap r₂.find?) := by
  have hhandlers : ∀ r : Registry, r.handlers name = [] → (r.find? name).toList.flatMap (·.handlers) = [] := by
    intro r hbare
    rw [Registry.handlers] at hbare
    cases hfind : r.find? name with
    | none => rfl
    | some l =>
      rw [hfind] at hbare
      rw [Option.toList_some, List.flatMap_singleton]
      exact hbare
  refine ⟨?_, fun level => ?_⟩
  · rw [lineage_filterMap, lineage_filterMap, List.flatMap_append, List.flatMap_append, hhandlers r₁ h.bare₁,
      hhandlers r₂ h.bare₂, hup.handlers]
  · rw [passes_lineage, passes_lineage, h.weight, hup.passes]

namespace Alike

theorem filterMap_eq (h : Alike name r₁ r₂) {names : List String} (hfree : name ∉ names) :
    names.filterMap r₁.find? = names.filterMap r₂.find? :=
  List.filterMap_congr fun n hn => h.other n fun he => hfree (he ▸ hn)

/-- What is above a name matches: nearer than the name where the registries differ, and farther, it is the same. -/
theorem above (h : Alike name r₁ r₂) (s : String) :
    Matching ((Journal.above s).filterMap r₁.find?) ((Journal.above s).filterMap r₂.find?) := by
  by_cases hmem : name ∈ Journal.above s
  · obtain ⟨nearer, hsplit, hnearer⟩ := above_split hmem
    have hfree : name ∉ nearer := fun hin => not_mem_above name (hnearer name hin)
    have hfar := h.filterMap_eq (not_mem_above name)
    rw [hsplit, List.filterMap_append, List.filterMap_append, h.filterMap_eq hfree]
    refine Matching.append _ ?_
    rcases h.self with hself | hfaint
    · rw [lineage_filterMap, lineage_filterMap, hself, hfar]
      exact .refl _
    · exact hfaint.lineage (hfar ▸ .refl _)
  · rw [h.filterMap_eq hmem]
    exact .refl _

/-- Records of loggers that were set up leave the same lines. -/
theorem log_eq (h : Alike name r₁ r₂) (record : Record) : r₁.log record = r₂.log record := by
  unfold log
  rw [h.configured]
  split
  next hcontains =>
    have hmem : record.name ∈ r₂.configured := List.contains_iff_mem.1 hcontains
    have hchain : Matching (r₁.chain record.name) (r₂.chain record.name) := by
      have hfind : r₁.find? record.name = r₂.find? record.name := by
        by_cases hname : record.name = name
        · refine hname ▸ h.self.resolve_right fun hfaint => hfaint.notConfigured ?_
          rw [h.configured, ← hname]
          exact hmem
        · exact h.other _ hname
      rw [h.linked₁.chain_eq (h.linked₁.configured _ (h.configured ▸ hmem)), h.linked₂.chain_eq (h.linked₂.configured _ hmem),
        lineage_filterMap, lineage_filterMap, hfind]
      exact (h.above record.name).append _
    rw [lines, lines, hchain.passes, hchain.handlers]
  next => rfl

end Alike

/-! ## Steps -/

/-- What a set-up comes to, and the logger that it leaves, where there may have been one before. -/
def settle (name : String) (old : Option Logger) (level : Value) (format : Option String) : Except Fault Unit × Logger :=
  let l := old.getD { name }
  match Level.ofValue Level.ofName level with
  | .error f => (.error (.level f), l)
  | .ok level =>
    if l.handlers ≠ [] then (.ok (), { l with level })
    else
      match templateOf format with
      | .error f => (.error f, { l with level })
      | .ok t => (.ok (), { l with level, handlers := [t] })

theorem setup_settle (r : Registry) (name : String) (level : Value) (format : Option String) :
    (r.setup name level format).1 = (settle name (r.find? name) level format).1 ∧
      (r.setup name level format).2.find? name = some (settle name (r.find? name) level format).2 := by
  have hbare : r.handlers name = ((r.find? name).getD { name }).handlers := by
    rw [handlers]
    cases r.find? name <;> rfl
  generalize hx : r.setup name level format = x
  have hup := setup_cases r name level format
  rw [hx] at hup
  cases hup with
  | badLevel hlevel =>
    rw [settle, hlevel]
    exact ⟨rfl, find?_obtain_self r name⟩
  | again hlevel hhandlers =>
    rw [hbare] at hhandlers
    simp only [settle, hlevel]
    rw [if_pos hhandlers, find?_register, find?_leveled_self]
    exact ⟨rfl, rfl⟩
  | badFormat hlevel hnil hformat =>
    rw [hbare] at hnil
    simp only [settle, hlevel, hformat]
    rw [if_neg (not_not.2 hnil), find?_leveled_self]
    exact ⟨rfl, rfl⟩
  | first hlevel hnil hformat =>
    rw [hbare] at hnil
    simp only [settle, hlevel, hformat]
    rw [if_neg (not_not.2 hnil), find?_register, find?_update_self, find?_leveled_self]
    · simp [hnil]
    · exact fun _ => rfl

theorem configured_register (r : Registry) (name : String) :
    (r.register name).configured = if name ∈ r.configured then r.configured else r.configured ++ [name] := by
  simp only [register, List.contains_iff_mem]
  split <;> rfl

theorem configured_setup (r : Registry) (name : String) (level : Value) (format : Option String) :
    (r.setup name level format).2.configured =
      if (r.setup name level format).1.isOk then (r.register name).configured else r.configured := by
  generalize hx : r.setup name level format = x
  have hup := setup_cases r name level format
  rw [hx] at hup
  cases hup with
  | badLevel _ => exact configured_obtain r name
  | again _ _ => simp [configured_register, leveled, Except.isOk, Except.toBool]
  | badFormat _ _ _ => exact configured_obtain r name
  | first _ _ _ => simp [configured_register, leveled, Except.isOk, Except.toBool]

theorem levelAt_eq (r : Registry) (name : String) : r.levelAt name = ((r.find? name).getD { name }).level.value := by
  rw [levelAt]
  cases r.find? name <;> rfl

/-- A logger without handlers is its name and a level. -/
theorem getD_of_bare (h : r.handlers name = []) : ∃ level, (r.find? name).getD { name } = { name, level } := by
  rw [handlers] at h
  cases hfind : r.find? name with
  | none => exact ⟨_, rfl⟩
  | some l =>
    rw [hfind] at h
    obtain rfl : l.name = name := name_of_find? hfind
    obtain ⟨_, level, _⟩ := l
    obtain rfl := h
    exact ⟨level, rfl⟩

/-- What is there may change in other places. -/
theorem Faint.congr {r₁' r₂' : Registry} (h : Faint name r₁ r₂) (h₁ : r₁'.find? name = r₁.find? name)
    (h₂ : r₂'.find? name = r₂.find? name) (hnot : name ∉ r₁'.configured) : Faint name r₁' r₂' where
  notConfigured := hnot
  bare₁ := by rw [handlers, h₁, ← handlers, h.bare₁]
  bare₂ := by rw [handlers, h₂, ← handlers, h.bare₂]
  weight := by rw [levelAt_eq, h₁, ← levelAt_eq, levelAt_eq r₂', h₂, ← levelAt_eq, h.weight]

/-- A set-up of the name leaves the same, unless its level is refused. -/
theorem Faint.settle (h : Faint name r₁ r₂) (level : Value) (format : Option String) :
    Registry.settle name (r₁.find? name) level format = Registry.settle name (r₂.find? name) level format ∨
      ∃ f, Level.ofValue Level.ofName level = .error f := by
  obtain ⟨level₁, hbare₁⟩ := getD_of_bare h.bare₁
  obtain ⟨level₂, hbare₂⟩ := getD_of_bare h.bare₂
  cases hlevel : Level.ofValue Level.ofName level with
  | error f => exact .inr ⟨f, rfl⟩
  | ok l =>
    refine .inl ?_
    simp only [Registry.settle, hbare₁, hbare₂, hlevel]

namespace Alike

variable {n : String} {level : Value} {format : Option String}

theorem configured_setup (h : Alike name r₁ r₂) (hout : (r₁.setup n level format).1 = (r₂.setup n level format).1) :
    (r₁.setup n level format).2.configured = (r₂.setup n level format).2.configured := by
  rw [Registry.configured_setup, Registry.configured_setup, configured_register, configured_register, hout, h.configured]

theorem find?_setup (h : Alike name r₁ r₂) {m : String} (hm : m ≠ name) (hmn : m ≠ n) :
    (r₁.setup n level format).2.find? m = (r₂.setup n level format).2.find? m := by
  rw [find?_setup_other r₁ level format hmn, find?_setup_other r₂ level format hmn, h.other m hm]

/-- A set-up comes to the same where it leaves the same. -/
theorem setup_of_settle (h : Alike name r₁ r₂) (hn : IsOrdinary n)
    (hsettle : Registry.settle n (r₁.find? n) level format = Registry.settle n (r₂.find? n) level format) :
    (r₁.setup n level format).1 = (r₂.setup n level format).1 ∧
      (r₁.setup n level format).2.handlers n = (r₂.setup n level format).2.handlers n ∧
      Alike name (r₁.setup n level format).2 (r₂.setup n level format).2 := by
  obtain ⟨hout₁, hfind₁⟩ := setup_settle r₁ n level format
  obtain ⟨hout₂, hfind₂⟩ := setup_settle r₂ n level format
  have hout : (r₁.setup n level format).1 = (r₂.setup n level format).1 := by rw [hout₁, hout₂, hsettle]
  have hfind : (r₁.setup n level format).2.find? n = (r₂.setup n level format).2.find? n := by rw [hfind₁, hfind₂, hsettle]
  refine ⟨hout, by rw [handlers, hfind, handlers], h.linked₁.setup hn level format, h.linked₂.setup hn level format,
    h.configured_setup hout, fun m hm => ?_, ?_⟩
  · by_cases hmn : m = n
    · rw [hmn, hfind]
    · exact h.find?_setup hm hmn
  · by_cases hsame : name = n
    · exact .inl (hsame ▸ hfind)
    · have hkeeps₁ := find?_setup_other r₁ level format hsame
      have hkeeps₂ := find?_setup_other r₂ level format hsame
      rw [hkeeps₁, hkeeps₂]
      refine h.self.imp_right fun hfaint => hfaint.congr hkeeps₁ hkeeps₂ ?_
      rw [mem_configured_setup]
      exact fun hmem => hmem.elim hfaint.notConfigured fun hnew => hsame hnew.2

/-- A set-up of the name where the registries differ comes to the same if its level is refused: both have its logger then. -/
theorem setup_refused (h : Alike name r₁ r₂) (hname : IsOrdinary name) (hfaint : Faint name r₁ r₂) {f : LevelFault}
    (hlevel : Level.ofValue Level.ofName level = .error f) :
    (r₁.setup name level format).1 = (r₂.setup name level format).1 ∧
      (r₁.setup name level format).2.handlers name = (r₂.setup name level format).2.handlers name ∧
      Alike name (r₁.setup name level format).2 (r₂.setup name level format).2 := by
  have hsettle : ∀ r : Registry, Registry.settle name (r.find? name) level format = (.error (.level f), (r.find? name).getD { name }) := by
    intro r
    simp only [Registry.settle, hlevel]
  obtain ⟨hout₁, hfind₁⟩ := setup_settle r₁ name level format
  obtain ⟨hout₂, hfind₂⟩ := setup_settle r₂ name level format
  rw [hsettle] at hout₁ hfind₁ hout₂ hfind₂
  have hbare₁ := (handlers_setup_error hout₁ name).trans hfaint.bare₁
  have hbare₂ := (handlers_setup_error hout₂ name).trans hfaint.bare₂
  have hlevel₁ : (r₁.setup name level format).2.levelAt name = r₁.levelAt name := by
    rw [levelAt_eq, hfind₁, Option.getD_some, ← levelAt_eq]
  have hlevel₂ : (r₂.setup name level format).2.levelAt name = r₂.levelAt name := by
    rw [levelAt_eq, hfind₂, Option.getD_some, ← levelAt_eq]
  have hnot : name ∉ (r₁.setup name level format).2.configured := configured_setup_error hout₁ ▸ hfaint.notConfigured
  have hfaint' : Faint name (r₁.setup name level format).2 (r₂.setup name level format).2 :=
    ⟨hnot, hbare₁, hbare₂, by rw [hlevel₁, hlevel₂, hfaint.weight]⟩
  have hout := hout₁.trans hout₂.symm
  exact ⟨hout, hbare₁.trans hbare₂.symm, h.linked₁.setup hname level format, h.linked₂.setup hname level format,
    h.configured_setup hout, fun m hm => h.find?_setup hm hm, .inr hfaint'⟩

/-- A set-up comes to the same. -/
theorem setup (h : Alike name r₁ r₂) (hordinary : IsOrdinary n) (level : Value) (format : Option String) :
    (r₁.setup n level format).1 = (r₂.setup n level format).1 ∧
      (r₁.setup n level format).2.handlers n = (r₂.setup n level format).2.handlers n ∧
      Alike name (r₁.setup n level format).2 (r₂.setup n level format).2 := by
  by_cases hn : n = name
  · subst hn
    rcases h.self with hself | hfaint
    · exact h.setup_of_settle hordinary (by rw [hself])
    · rcases hfaint.settle level format with hsettle | ⟨f, hlevel⟩
      · exact h.setup_of_settle hordinary hsettle
      · exact h.setup_refused hordinary hfaint hlevel
  · exact h.setup_of_settle hordinary (by rw [h.other n hn])

/-- A change of level comes to the same. -/
theorem setLevel (h : Alike name r₁ r₂) (level : Value) :
    (∃ f, r₁.setLevel level = .error f ∧ r₂.setLevel level = .error f) ∨
      ∃ r₁' r₂', r₁.setLevel level = .ok r₁' ∧ r₂.setLevel level = .ok r₂' ∧ Alike name r₁' r₂' := by
  have houtcome : (∃ f, r₁.setLevel level = .error f ∧ r₂.setLevel level = .error f) ∨
      ∃ r₁' r₂', r₁.setLevel level = .ok r₁' ∧ r₂.setLevel level = .ok r₂' := by
    unfold Registry.setLevel
    rw [h.configured]
    split
    next => exact .inr ⟨_, _, rfl, rfl⟩
    next =>
      split
      next => exact .inr ⟨_, _, rfl, rfl⟩
      next => exact .inl ⟨_, rfl, rfl⟩
    next => exact .inl ⟨_, rfl, rfl⟩
  refine houtcome.imp_right ?_
  rintro ⟨r₁', r₂', h₁, h₂⟩
  obtain ⟨hconfigured₁, -, l₁, hset₁⟩ := find?_setLevel h₁
  obtain ⟨hconfigured₂, -, l₂, hset₂⟩ := find?_setLevel h₂
  -- The loggers that were set up get one level in both, the others keep theirs.
  have hfind : ∀ m, r₁.find? m = r₂.find? m → r₁'.find? m = r₂'.find? m := by
    intro m hm
    by_cases hmem : m ∈ r₂.configured
    · obtain ⟨hlevel₁, hfind₁⟩ := hset₁ m (h.configured ▸ hmem)
      obtain ⟨hlevel₂, hfind₂⟩ := hset₂ m hmem
      obtain rfl : l₁ = l₂ := Except.ok.inj (hlevel₁.symm.trans hlevel₂)
      rw [hfind₁, hfind₂, hm]
    · rw [find?_setLevel_other h₁ (h.configured ▸ hmem), find?_setLevel_other h₂ hmem, hm]
  refine ⟨r₁', r₂', h₁, h₂, ⟨h.linked₁.setLevel h₁, h.linked₂.setLevel h₂, by rw [hconfigured₁, hconfigured₂, h.configured],
    fun m hm => hfind m (h.other m hm), ?_⟩⟩
  rcases h.self with hself | hfaint
  · exact .inl (hfind name hself)
  · have hnot := hfaint.notConfigured
    exact .inr (hfaint.congr (find?_setLevel_other h₁ hnot) (find?_setLevel_other h₂ (h.configured ▸ hnot)) (hconfigured₁ ▸ hnot))

theorem step (h : Alike name r₁ r₂) {x : Step} (hx : x.IsOrdinary) :
    (r₁.step x).1 = (r₂.step x).1 ∧ (r₁.step x).2.handlersAfter x = (r₂.step x).2.handlersAfter x ∧
      Alike name (r₁.step x).2 (r₂.step x).2 := by
  cases x with
  | setup n level format =>
    obtain ⟨hout, hhandlers, halike⟩ := h.setup (hx n rfl) level format
    exact ⟨hout, congrArg List.length hhandlers, halike⟩
  | setLevel level =>
    rcases h.setLevel level with ⟨f, h₁, h₂⟩ | ⟨r₁', r₂', h₁, h₂, halike⟩
    · rw [Registry.step, Registry.step, h₁, h₂]
      exact ⟨rfl, rfl, h⟩
    · rw [Registry.step, Registry.step, h₁, h₂]
      exact ⟨rfl, rfl, halike⟩

/-- All answers are the same. -/
theorem answers_eq (h : Alike name r₁ r₂) {uses : List Use} (huses : ∀ u ∈ uses, u.IsOrdinary) :
    r₁.answers uses = r₂.answers uses := by
  induction uses generalizing r₁ r₂ with
  | nil => rfl
  | cons u rest ih =>
    have hrest : ∀ u ∈ rest, u.IsOrdinary := fun u hu => huses u (List.mem_cons_of_mem _ hu)
    cases u with
    | configure x =>
      obtain ⟨hout, hhandlers, halike⟩ := h.step (huses _ List.mem_cons_self)
      rw [answers, answers, use, use, hout, hhandlers]
      exact congrArg _ (ih halike hrest)
    | log record =>
      rw [answers, answers, use, use, h.log_eq record]
      exact congrArg _ (ih h hrest)

end Alike

end Registry

end ApkReport.Journal
