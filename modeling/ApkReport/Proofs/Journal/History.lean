/-
What the loggers of a program keep of the steps that configured them. Set-ups and changes of
level succeed or fail, in any order; after all of them the registry holds what the steps that
succeeded say (`Reflects`): each name that was ever set up has one handler, with the template
of its first set-up, and the level of the last step that gave it one.
-/
import ApkReport.Journal.Registry

namespace ApkReport.Journal

/-- A step that configures loggers. -/
inductive Step where
  | setup (name : String) (level : Value) (format : Option String)
  | setLevel (level : Value)

namespace Step

/-- The format with which a step sets up the logger of a name. -/
def format? (name : String) : Step → Option (Option String)
  | .setup n _ format => if n = name then some format else none
  | .setLevel _ => none

/-- The level that a step gives the logger of a name. -/
def level? (name : String) : Step → Option Level
  | .setup n level _ => if n = name then (Level.ofValue Level.ofName level).toOption else none
  | .setLevel level => (Level.ofValue Level.ofAnyName level).toOption

end Step

/-- The format of the first set-up of a name. -/
def firstFormat? (name : String) (steps : List Step) : Option (Option String) := steps.findSome? (Step.format? name)

/-- The level that the last of some steps gives the logger of a name. -/
def lastLevel? (name : String) (steps : List Step) : Option Level := steps.reverse.findSome? (Step.level? name)

theorem firstFormat?_concat (name : String) (steps : List Step) (x : Step) :
    firstFormat? name (steps ++ [x]) = (firstFormat? name steps).or (x.format? name) := by
  simp [firstFormat?, List.findSome?_append]

theorem lastLevel?_concat (name : String) (steps : List Step) (x : Step) :
    lastLevel? name (steps ++ [x]) = (x.level? name).or (lastLevel? name steps) := by
  simp only [lastLevel?, List.reverse_append, List.reverse_singleton, List.singleton_append, List.findSome?_cons]
  cases x.level? name <;> rfl

theorem firstFormat?_eq_none {name : String} {steps : List Step} (h : ¬ ∃ level format, Step.setup name level format ∈ steps) :
    firstFormat? name steps = none := by
  refine List.findSome?_eq_none_iff.2 fun x hx => ?_
  cases x with
  | setLevel _ => rfl
  | setup n level format =>
    have hne : n ≠ name := fun he => h ⟨level, format, he ▸ hx⟩
    exact if_neg hne

namespace Registry

variable {r r' : Registry} {name other : String} {level : Value} {format : Option String}

/-! ## Looking up -/

theorem name_of_find? {l : Logger} (h : r.find? name = some l) : l.name = name := by
  simpa using List.find?_some h

theorem find?_map {change : Logger → Logger} (hname : ∀ l, (change l).name = l.name) (name : String) :
    ({ r with loggers := r.loggers.map change } : Registry).find? name = (r.find? name).map change := by
  simp only [find?, List.find?_map, Function.comp_def, hname]

theorem find?_obtain_self (r : Registry) (name : String) :
    (r.obtain name).find? name = some ((r.find? name).getD { name }) := by
  unfold obtain has
  cases h : r.find? name with
  | some l => simp [h]
  | none =>
    rw [find?] at h
    simp [find?, List.find?_append, h]

theorem find?_obtain_other (r : Registry) (h : other ≠ name) : (r.obtain name).find? other = r.find? other := by
  unfold obtain
  split
  · rfl
  · have hnew : ¬ name = other := fun he => h he.symm
    simp [find?, List.find?_append, hnew]

theorem find?_update_self (r : Registry) {change : Logger → Logger} (hname : ∀ l, (change l).name = l.name) :
    (r.update name change).find? name = (r.find? name).map change := by
  have hkeeps : ∀ l : Logger, (if l.name = name then change l else l).name = l.name := by
    intro l
    split
    · exact hname l
    · rfl
  rw [update, find?_map hkeeps]
  cases h : r.find? name with
  | none => rfl
  | some l => simp [name_of_find? h]

theorem find?_update_other (r : Registry) {change : Logger → Logger} (hname : ∀ l, (change l).name = l.name)
    (h : other ≠ name) : (r.update name change).find? other = r.find? other := by
  have hkeeps : ∀ l : Logger, (if l.name = name then change l else l).name = l.name := by
    intro l
    split
    · exact hname l
    · rfl
  rw [update, find?_map hkeeps]
  cases hfind : r.find? other with
  | none => rfl
  | some l => simp [name_of_find? hfind, h]

@[simp] theorem find?_register (r : Registry) (name other : String) : (r.register name).find? other = r.find? other := by
  unfold register
  split <;> rfl

theorem mem_register : other ∈ (r.register name).configured ↔ other ∈ r.configured ∨ other = name := by
  unfold register
  split
  next h =>
    have hmem : name ∈ r.configured := List.contains_iff_mem.1 h
    exact ⟨.inl, fun hor => hor.elim id fun he => he ▸ hmem⟩
  next => simp

@[simp] theorem configured_obtain (r : Registry) (name : String) : (r.obtain name).configured = r.configured := by
  unfold obtain
  split <;> rfl

@[simp] theorem configured_update (r : Registry) (name : String) (change : Logger → Logger) :
    (r.update name change).configured = r.configured := rfl

/-! ## One step -/

/-- The registry in which the logger of a name has been made and given a level. -/
def leveled (r : Registry) (name : String) (level : Level) : Registry :=
  (r.obtain name).update name fun l => { l with level }

theorem find?_leveled_self (r : Registry) (name : String) (level : Level) :
    (r.leveled name level).find? name = some { (r.find? name).getD { name } with level } := by
  rw [leveled, find?_update_self, find?_obtain_self]
  · rfl
  · exact fun _ => rfl

theorem find?_leveled_other (r : Registry) (level : Level) (h : other ≠ name) :
    (r.leveled name level).find? other = r.find? other := by
  rw [leveled, find?_update_other, find?_obtain_other r h]
  · exact fun _ => rfl
  · exact h

theorem handlers_leveled (r : Registry) (name : String) (level : Level) :
    (r.leveled name level).handlers name = r.handlers name := by
  rw [handlers, find?_leveled_self, handlers]
  cases r.find? name <;> rfl

/-- All that a set-up can do. -/
inductive SetUp (r : Registry) (name : String) (level : Value) (format : Option String) : Except Fault Unit × Registry → Prop
  | badLevel {f : LevelFault} :
    Level.ofValue Level.ofName level = .error f → SetUp r name level format (.error (.level f), r.obtain name)
  | again {l : Level} :
    Level.ofValue Level.ofName level = .ok l → r.handlers name ≠ [] →
    SetUp r name level format (.ok (), (r.leveled name l).register name)
  | badFormat {l : Level} {f : Fault} :
    Level.ofValue Level.ofName level = .ok l → r.handlers name = [] → templateOf format = .error f →
    SetUp r name level format (.error f, r.leveled name l)
  | first {l : Level} {t : Template} :
    Level.ofValue Level.ofName level = .ok l → r.handlers name = [] → templateOf format = .ok t →
    SetUp r name level format
      (.ok (), ((r.leveled name l).update name fun x => { x with handlers := x.handlers ++ [t] }).register name)

theorem setup_cases (r : Registry) (name : String) (level : Value) (format : Option String) :
    SetUp r name level format (r.setup name level format) := by
  unfold setup
  dsimp only
  cases hlevel : Level.ofValue Level.ofName level with
  | error f => exact .badLevel hlevel
  | ok l =>
    have hhandlers := handlers_leveled r name l
    rw [leveled] at hhandlers
    dsimp only
    rw [hhandlers]
    cases hempty : (r.handlers name).isEmpty with
    | false =>
      have hne : r.handlers name ≠ [] := by simpa using hempty
      exact .again hlevel hne
    | true =>
      have hnil : r.handlers name = [] := by simpa using hempty
      cases hformat : templateOf format with
      | error f => exact .badFormat hlevel hnil hformat
      | ok t => exact .first hlevel hnil hformat

/-- A set-up, whatever comes of it, is nothing to the loggers of other names. -/
theorem find?_setup_other (r : Registry) (level : Value) (format : Option String) (h : other ≠ name) :
    (r.setup name level format).2.find? other = r.find? other := by
  generalize hx : r.setup name level format = x
  have hup := setup_cases r name level format
  rw [hx] at hup
  cases hup with
  | badLevel _ => exact find?_obtain_other r h
  | again _ _ => rw [find?_register, find?_leveled_other r _ h]
  | badFormat _ _ _ => exact find?_leveled_other r _ h
  | first _ _ _ =>
    rw [find?_register, find?_update_other, find?_leveled_other r _ h]
    · exact fun _ => rfl
    · exact h

/-- A set-up that fails is nothing to a logger that has a handler, not even to the one of its own name. -/
theorem find?_setup_error {f : Fault} (h : (r.setup name level format).1 = .error f) (hhandlers : r.handlers other ≠ []) :
    (r.setup name level format).2.find? other = r.find? other := by
  by_cases hother : other = name
  · subst hother
    generalize hx : r.setup other level format = x at h ⊢
    have hup := setup_cases r other level format
    rw [hx] at hup
    cases hup with
    | badLevel _ =>
      rw [find?_obtain_self]
      cases hfind : r.find? other with
      | some l => rfl
      | none => exact absurd (by rw [handlers, hfind]; rfl) hhandlers
    | again _ _ => cases h
    | badFormat _ hnil _ => exact absurd hnil hhandlers
    | first _ _ _ => cases h
  · exact find?_setup_other r level format hother

/-- A set-up that fails adds no handler. -/
theorem handlers_setup_error {f : Fault} (h : (r.setup name level format).1 = .error f) (other : String) :
    (r.setup name level format).2.handlers other = r.handlers other := by
  by_cases hother : other = name
  · subst hother
    generalize hx : r.setup other level format = x at h ⊢
    have hup := setup_cases r other level format
    rw [hx] at hup
    cases hup with
    | badLevel _ =>
      rw [handlers, find?_obtain_self, handlers]
      cases r.find? other <;> rfl
    | again _ _ => cases h
    | badFormat _ _ _ => exact handlers_leveled r other _
    | first _ _ _ => cases h
  · rw [handlers, find?_setup_other r level format hother, handlers]

theorem configured_setup_error {f : Fault} (h : (r.setup name level format).1 = .error f) :
    (r.setup name level format).2.configured = r.configured := by
  generalize hx : r.setup name level format = x at h ⊢
  have hup := setup_cases r name level format
  rw [hx] at hup
  cases hup with
  | badLevel _ => exact configured_obtain r name
  | again _ _ => cases h
  | badFormat _ _ _ => exact configured_obtain r name
  | first _ _ _ => cases h

/-- The names that are set up after a set-up. -/
theorem mem_configured_setup (r : Registry) (name : String) (level : Value) (format : Option String) :
    other ∈ (r.setup name level format).2.configured ↔
      other ∈ r.configured ∨ (r.setup name level format).1 = .ok () ∧ other = name := by
  generalize hx : r.setup name level format = x
  have hup := setup_cases r name level format
  rw [hx] at hup
  cases hup with
  | badLevel _ => simp
  | again _ _ => simp [mem_register, leveled]
  | badFormat _ _ _ => simp [leveled]
  | first _ _ _ => simp [mem_register, leveled]

/-- A set-up succeeds with a level, and a format that is one unless there is a handler already. -/
theorem setup_ok_iff : (r.setup name level format).1 = .ok () ↔
    (Level.ofValue Level.ofName level).isOk ∧ (r.handlers name ≠ [] ∨ (templateOf format).isOk) := by
  generalize hx : r.setup name level format = x
  have hup := setup_cases r name level format
  rw [hx] at hup
  cases hup with
  | badLevel hlevel => simp [hlevel, Except.isOk, Except.toBool]
  | again hlevel hhandlers => simp [hlevel, hhandlers, Except.isOk, Except.toBool]
  | badFormat hlevel hnil hformat => simp [hlevel, hnil, hformat, Except.isOk, Except.toBool]
  | first hlevel hnil hformat => simp [hlevel, hnil, hformat, Except.isOk, Except.toBool]

/-- What a set-up that succeeds leaves under its name. -/
theorem find?_setup_self (h : (r.setup name level format).1 = .ok ()) :
    ∃ l, Level.ofValue Level.ofName level = .ok l ∧
      (r.handlers name ≠ [] ∧ (r.setup name level format).2.find? name = (r.find? name).map (fun x => { x with level := l }) ∨
        r.handlers name = [] ∧ ∃ t, templateOf format = .ok t ∧
          (r.setup name level format).2.find? name = some { name, level := l, handlers := [t] }) := by
  generalize hx : r.setup name level format = x at h ⊢
  have hup := setup_cases r name level format
  rw [hx] at hup
  cases hup with
  | badLevel _ => cases h
  | badFormat _ _ _ => cases h
  | @again l hlevel hhandlers =>
    refine ⟨l, hlevel, .inl ⟨hhandlers, ?_⟩⟩
    rw [find?_register, find?_leveled_self]
    cases hfind : r.find? name with
    | some old => rfl
    | none => exact absurd (by rw [handlers, hfind]; rfl) hhandlers
  | @first l t hlevel hnil hformat =>
    refine ⟨l, hlevel, .inr ⟨hnil, t, hformat, ?_⟩⟩
    rw [find?_register, find?_update_self, find?_leveled_self]
    · cases hfind : r.find? name with
      | none => rfl
      | some old =>
        have hold : old.handlers = [] := by simpa [handlers, hfind] using hnil
        simp [hold, name_of_find? hfind]
    · exact fun _ => rfl

/-- A change of level gives all loggers that were set up one level. -/
theorem find?_setLevel (h : r.setLevel level = .ok r') :
    r'.configured = r.configured ∧ (∀ name, r'.handlers name = r.handlers name) ∧
      ∃ l, ∀ name ∈ r.configured, Level.ofValue Level.ofAnyName level = .ok l ∧
        r'.find? name = (r.find? name).map fun x => { x with level := l } := by
  unfold setLevel at h
  split at h
  next l hlevel =>
    cases h
    have hkeeps : ∀ x : Logger, (if r.configured.contains x.name then { x with level := l } else x).name = x.name := by
      intro x
      split <;> rfl
    refine ⟨rfl, fun name => ?_, l, fun name hname => ⟨hlevel, ?_⟩⟩
    · rw [handlers, find?_map hkeeps, handlers]
      cases r.find? name with
      | none => rfl
      | some x =>
        simp only [Option.map_some, Option.getD_some]
        split <;> rfl
    · rw [find?_map hkeeps]
      cases hfind : r.find? name with
      | none => rfl
      | some x =>
        have hcontains : r.configured.contains x.name = true := List.contains_iff_mem.2 (name_of_find? hfind ▸ hname)
        simp only [Option.map_some, hcontains, if_true]
  next =>
    split at h
    next hempty =>
      cases h
      have hnil : r.configured = [] := by simpa using hempty
      exact ⟨rfl, fun _ => rfl, .number 0, fun name hname => by simp [hnil] at hname⟩
    next => cases h
  next => cases h

/-- A logger that was not set up keeps its level. -/
theorem find?_setLevel_other (h : r.setLevel level = .ok r') (hname : name ∉ r.configured) : r'.find? name = r.find? name := by
  unfold setLevel at h
  split at h
  next l hlevel =>
    cases h
    have hkeeps : ∀ x : Logger, (if r.configured.contains x.name then { x with level := l } else x).name = x.name := by
      intro x
      split <;> rfl
    rw [find?_map hkeeps]
    cases hfind : r.find? name with
    | none => rfl
    | some x =>
      have hcontains : ¬ r.configured.contains x.name = true := fun hc => hname (name_of_find? hfind ▸ List.contains_iff_mem.1 hc)
      rw [Option.map_some, if_neg hcontains]
  next =>
    split at h
    next => cases h; rfl
    next => cases h
  next => cases h

/-- Where some logger was set up, a change of level succeeds with levels and names of levels. -/
theorem setLevel_isOk (h : name ∈ r.configured) (level : Value) :
    (r.setLevel level).isOk = (Level.ofValue Level.ofAnyName level).isOk := by
  have hempty : r.configured.isEmpty = false := by simpa using List.ne_nil_of_mem h
  unfold setLevel
  split
  next hlevel => rw [hlevel]; rfl
  next hlevel => rw [hlevel, hempty]; rfl
  next hlevel => rw [hlevel]; rfl

/-! ## Runs -/

/-- What a step comes to, and the registry after it. -/
def step (r : Registry) : Step → Except Fault Unit × Registry
  | .setup name level format => r.setup name level format
  | .setLevel level =>
    match r.setLevel level with
    | .ok r' => (.ok (), r')
    | .error f => (.error f, r)

/-- The registry after some steps. -/
def run (r : Registry) (steps : List Step) : Registry := steps.foldl (fun r x => (r.step x).2) r

/-- The steps that succeed when they are taken one after another. -/
def succeeded (r : Registry) : List Step → List Step
  | [] => []
  | x :: rest => (if (r.step x).1.isOk then [x] else []) ++ succeeded (r.step x).2 rest

/-- The registry is what the steps that succeeded say: the names are those that were set up, and each has one handler, with
the template of its first set-up, and the level of the last step that gave it one. -/
structure Reflects (r : Registry) (done : List Step) : Prop where
  configured : ∀ name, name ∈ r.configured ↔ ∃ level format, Step.setup name level format ∈ done
  logger : ∀ name ∈ r.configured, ∃ l t format, r.find? name = some l ∧ l.handlers = [t] ∧
    firstFormat? name done = some format ∧ templateOf format = .ok t ∧ lastLevel? name done = some l.level
  bare : ∀ name, name ∉ r.configured → r.handlers name = []

theorem reflects_empty : Reflects {} [] where
  configured name := by simp
  logger name h := by simp at h
  bare name _ := rfl

namespace Reflects

variable {done : List Step}

theorem handlers_ne_nil (h : r.Reflects done) (hname : name ∈ r.configured) : r.handlers name ≠ [] := by
  obtain ⟨l, t, _, hfind, hhandlers, -⟩ := h.logger name hname
  simp [handlers, hfind, hhandlers]

/-- Other names are told of by the steps that they were told of by. -/
theorem setup_ok (h : r.Reflects done) (hok : (r.setup name level format).1 = .ok ()) :
    (r.setup name level format).2.Reflects (done ++ [.setup name level format]) where
  configured other := by
    rw [mem_configured_setup, h.configured other]
    constructor
    · rintro (⟨l, f, hmem⟩ | ⟨-, rfl⟩)
      · exact ⟨l, f, List.mem_append_left _ hmem⟩
      · exact ⟨level, format, List.mem_append_right _ (List.mem_singleton.2 rfl)⟩
    · rintro ⟨l, f, hmem⟩
      rcases List.mem_append.1 hmem with hmem | hmem
      · exact .inl ⟨l, f, hmem⟩
      · cases List.mem_singleton.1 hmem
        exact .inr ⟨hok, rfl⟩
  logger other hother := by
    by_cases hsame : other = name
    · subst hsame
      obtain ⟨l, hlevel, hcases⟩ := find?_setup_self hok
      have hlast : lastLevel? other (done ++ [.setup other level format]) = some l := by
        rw [lastLevel?_concat, Step.level?, if_pos rfl, hlevel]
        rfl
      rcases hcases with ⟨hhandlers, hfind⟩ | ⟨hnil, t, hformat, hfind⟩
      · have hold : other ∈ r.configured := Decidable.byContradiction fun hnot => hhandlers (h.bare other hnot)
        obtain ⟨old, t, first, hfound, hhandler, hfirst, htemplate, -⟩ := h.logger other hold
        rw [hfound] at hfind
        exact ⟨_, t, first, hfind, hhandler, by rw [firstFormat?_concat, hfirst]; rfl, htemplate, hlast⟩
      · have hnew : other ∉ r.configured := fun hold => h.handlers_ne_nil hold hnil
        have hfirst : firstFormat? other done = none := firstFormat?_eq_none fun hmem => hnew ((h.configured other).2 hmem)
        refine ⟨_, t, format, hfind, rfl, ?_, hformat, hlast⟩
        rw [firstFormat?_concat, hfirst, Step.format?, if_pos rfl]
        rfl
    · have hold : other ∈ r.configured := ((mem_configured_setup r name level format).1 hother).resolve_right fun hn => hsame hn.2
      obtain ⟨l, t, first, hfound, hhandler, hfirst, htemplate, hlast⟩ := h.logger other hold
      refine ⟨l, t, first, ?_, hhandler, by rw [firstFormat?_concat, hfirst]; rfl, htemplate, ?_⟩
      · rw [find?_setup_other r level format hsame, hfound]
      · rw [lastLevel?_concat, Step.level?, if_neg fun he => hsame he.symm]
        exact hlast
  bare other hother := by
    rw [mem_configured_setup, not_or] at hother
    have hsame : other ≠ name := fun he => hother.2 ⟨hok, he⟩
    rw [handlers, find?_setup_other r level format hsame]
    exact h.bare other hother.1

theorem setup_error (h : r.Reflects done) {f : Fault} (herror : (r.setup name level format).1 = .error f) :
    (r.setup name level format).2.Reflects done := by
  have hconfigured := configured_setup_error herror
  refine ⟨fun other => ?_, fun other hother => ?_, fun other hother => ?_⟩
  · rw [hconfigured]
    exact h.configured other
  · rw [hconfigured] at hother
    rw [find?_setup_error herror (h.handlers_ne_nil hother)]
    exact h.logger other hother
  · rw [handlers_setup_error herror]
    exact h.bare other (hconfigured ▸ hother)

theorem setLevel_ok (h : r.Reflects done) (hok : r.setLevel level = .ok r') : r'.Reflects (done ++ [.setLevel level]) := by
  obtain ⟨hconfigured, hhandlers, l, hlogger⟩ := find?_setLevel hok
  refine ⟨fun name => ?_, fun name hname => ?_, fun name hname => ?_⟩
  · rw [hconfigured, h.configured name]
    simp
  · rw [hconfigured] at hname
    obtain ⟨hlevel, hfind⟩ := hlogger name hname
    obtain ⟨old, t, first, hfound, hhandler, hfirst, htemplate, -⟩ := h.logger name hname
    rw [hfound] at hfind
    refine ⟨_, t, first, hfind, hhandler, by rw [firstFormat?_concat, hfirst]; rfl, htemplate, ?_⟩
    rw [lastLevel?_concat, Step.level?, hlevel]
    rfl
  · rw [hhandlers]
    exact h.bare name (hconfigured ▸ hname)

/-- A step that succeeds is told of, one that fails is not. -/
theorem step (h : r.Reflects done) (x : Step) :
    (r.step x).2.Reflects (done ++ if (r.step x).1.isOk then [x] else []) := by
  cases x with
  | setup name level format =>
    rw [Registry.step]
    cases hx : (r.setup name level format).1 with
    | ok _ => exact h.setup_ok hx
    | error f =>
      change Reflects _ (done ++ [])
      rw [List.append_nil]
      exact h.setup_error hx
  | setLevel level =>
    rw [Registry.step]
    cases hx : r.setLevel level with
    | ok r' => exact h.setLevel_ok hx
    | error f =>
      change r.Reflects (done ++ [])
      rw [List.append_nil]
      exact h

theorem run (h : r.Reflects done) (steps : List Step) : (r.run steps).Reflects (done ++ r.succeeded steps) := by
  induction steps generalizing r done with
  | nil =>
    rw [succeeded, List.append_nil]
    exact h
  | cons x rest ih =>
    rw [succeeded, ← List.append_assoc]
    exact ih (h.step x)

end Reflects

/-- A step that fails leaves every logger that was set up as it is. -/
theorem step_error {done : List Step} (h : r.Reflects done) {x : Step} {f : Fault} (hf : (r.step x).1 = .error f) :
    (r.step x).2.configured = r.configured ∧ ∀ name ∈ r.configured, (r.step x).2.find? name = r.find? name := by
  cases x with
  | setup name level format =>
    exact ⟨configured_setup_error hf, fun other hother => find?_setup_error hf (h.handlers_ne_nil hother)⟩
  | setLevel level =>
    rw [step] at hf ⊢
    cases hx : r.setLevel level with
    | ok r' =>
      rw [hx] at hf
      cases hf
    | error f => exact ⟨rfl, fun _ _ => rfl⟩

/-- After any steps the registry is what those that succeeded say. Of the next step: a set-up is nothing to the loggers
of other names, a change of level gives one level to all loggers that were set up, and a step that fails leaves all of
them as they are. -/
theorem loggers_after_steps (steps : List Step) :
    let r := ({} : Registry).run steps
    r.Reflects (({} : Registry).succeeded steps) ∧
      (∀ name level format, ((r.setup name level format).1 = .ok () ↔
          (Level.ofValue Level.ofName level).isOk ∧ (name ∈ r.configured ∨ (templateOf format).isOk)) ∧
        ∀ other ∈ r.configured, other ≠ name → (r.setup name level format).2.find? other = r.find? other) ∧
      (∀ level, (r.configured ≠ [] → (r.setLevel level).isOk = (Level.ofValue Level.ofAnyName level).isOk) ∧
        ∀ r', r.setLevel level = .ok r' → r'.configured = r.configured ∧ ∃ l, ∀ name ∈ r.configured,
          Level.ofValue Level.ofAnyName level = .ok l ∧ r'.find? name = (r.find? name).map fun x => { x with level := l }) ∧
      ∀ x f, (r.step x).1 = .error f → (r.step x).2.configured = r.configured ∧
        ∀ name ∈ r.configured, (r.step x).2.find? name = r.find? name := by
  intro r
  have hr : r.Reflects (({} : Registry).succeeded steps) := reflects_empty.run steps
  refine ⟨hr, fun name level format => ⟨?_, fun other _ hne => find?_setup_other r level format hne⟩,
    fun level => ⟨fun hsome => ?_, fun r' hok => ?_⟩, fun x f hf => step_error hr hf⟩
  · have hhandlers : r.handlers name ≠ [] ↔ name ∈ r.configured :=
      ⟨fun hne => Decidable.byContradiction fun hnot => hne (hr.bare name hnot), hr.handlers_ne_nil⟩
    rw [setup_ok_iff, hhandlers]
  · obtain ⟨name, hname⟩ := List.exists_mem_of_ne_nil _ hsome
    exact setLevel_isOk hname level
  · obtain ⟨hconfigured, -, hlevel⟩ := find?_setLevel hok
    exact ⟨hconfigured, hlevel⟩

/-- Set-ups and changes of level of which the second, the third and the last fail. -/
def mixedSteps : List Step := [
  .setup "a" (.scalar (.integer 20)) none,
  .setup "a.b" (.scalar (.text "DEBUG")) (some "no field"),
  .setup "a" (.scalar (.text "debug")) none,
  .setLevel (.scalar (.text "error")),
  .setup "a.b" (.scalar (.flag true)) (some "<%(message)s>"),
  .setup "a" (.scalar (.integer 35)) (some "no field"),
  .setLevel (.scalar .null)]

/-- Each of the two names has one handler, of its first set-up; the level of one is that of a later set-up with a format
that is none, the level of the other that of its only set-up, though all levels were changed before. -/
theorem loggers_after_mixedSteps :
    (∃ l, (({} : Registry).run mixedSteps).find? "a" = some l ∧ l.handlers = [.standard] ∧ l.level = .number 35) ∧
      ∃ l, (({} : Registry).run mixedSteps).find? "a.b" = some l ∧
        l.handlers = [[.text '<', .field "message" { conversion := 's' }, .text '>']] ∧ l.level = .flag true := by
  obtain ⟨h, -⟩ := loggers_after_steps mixedSteps
  constructor
  · obtain ⟨l, t, format, hfind, hhandlers, hfirst, htemplate, hlast⟩ := h.logger "a" (by decide +kernel)
    have hformat : firstFormat? "a" (({} : Registry).succeeded mixedSteps) = some none := by decide +kernel
    have hlevel : lastLevel? "a" (({} : Registry).succeeded mixedSteps) = some (.number 35) := by decide +kernel
    cases hfirst.symm.trans hformat
    cases htemplate
    exact ⟨l, hfind, hhandlers, Option.some.inj (hlast.symm.trans hlevel)⟩
  · obtain ⟨l, t, format, hfind, hhandlers, hfirst, htemplate, hlast⟩ := h.logger "a.b" (by decide +kernel)
    have hformat : firstFormat? "a.b" (({} : Registry).succeeded mixedSteps) = some (some "<%(message)s>") := by decide +kernel
    have hlevel : lastLevel? "a.b" (({} : Registry).succeeded mixedSteps) = some (.flag true) := by decide +kernel
    cases hfirst.symm.trans hformat
    cases htemplate
    exact ⟨l, hfind, hhandlers, Option.some.inj (hlast.symm.trans hlevel)⟩

end Registry

end ApkReport.Journal
