/-
What a set-up that fails leaves behind. The logger has been made by then, and if only the format
is refused it has its new level too. The level is heard through the loggers below: nothing can be
told from the answers exactly if it weighs what the one before did (`failed_setup_unheard_iff`). To
tell two weights apart, the nearest name above is set up with a level that is neither, and a new
name below with none of its own; a record of the new name then passes in one registry only.
-/
import ApkReport.Proofs.Journal.Lines
import ApkReport.Proofs.Journal.Observation

namespace ApkReport.Journal

/-- A name below another, as long as is asked for. -/
def child (name : String) (k : Nat) : String := String.ofList (name.toList ++ '.' :: List.replicate (k + 1) 'x')

theorem length_child (name : String) (k : Nat) : (child name k).length = name.length + k + 2 := by
  simp only [child, String.length_ofList, List.length_append, List.length_cons, List.length_replicate, String.length_toList]
  omega

theorem not_mem_replicate (k : Nat) : '.' ∉ List.replicate k 'x' :=
  fun hmem => absurd (List.eq_of_mem_replicate hmem) (by decide)

theorem above_child (name : String) (k : Nat) : above (child name k) = lineage name := by
  rw [above, child, String.toList_ofList, beforeDots_dot _ (not_mem_replicate _), List.map_cons, String.ofList_toList, lineage, above]

theorem IsOrdinary.child {name : String} (h : IsOrdinary name) (k : Nat) : IsOrdinary (child name k) := by
  refine ⟨?_, fun a ha hprefix => ?_⟩
  · rw [Journal.child, String.toList_ofList]
    exact .dot h.dotted (List.cons_ne_nil _ _) (not_mem_replicate _)
  · rw [lineage, above_child] at ha
    rcases List.mem_cons.1 ha with rfl | ha
    · have hname : name ∈ above (Journal.child name k) := by
        rw [above_child]
        exact List.mem_cons_self
      exact h.free name List.mem_cons_self ((isPrefix_of_mem_above hname).trans hprefix)
    · exact h.free a ha hprefix

namespace Registry

variable {r r₁ r₂ : Registry} {name : String}

/-- Every name has a logger below it that there is not. -/
theorem exists_fresh (r : Registry) (name : String) : ∃ k, r.find? (child name k) = none := by
  have hbound : ∃ k, ∀ l ∈ r.loggers, l.name.length ≤ k := by
    induction r.loggers with
    | nil => exact ⟨0, fun l hl => absurd hl List.not_mem_nil⟩
    | cons first rest ih =>
      obtain ⟨k, hk⟩ := ih
      refine ⟨max first.name.length k, fun l hl => ?_⟩
      rcases List.mem_cons.1 hl with rfl | hl
      · exact Nat.le_max_left _ _
      · exact Nat.le_trans (hk l hl) (Nat.le_max_right _ _)
  obtain ⟨k, hk⟩ := hbound
  refine ⟨k, List.find?_eq_none.2 fun l hl hsame => ?_⟩
  have hlength := length_child name k
  have hle := hk l hl
  rw [← of_decide_eq_true hsame] at hlength
  omega

/-- The level of a logger after a set-up of its name, whatever came of it. -/
theorem settle_level (name : String) (old : Option Logger) (level : Value) (format : Option String) :
    (settle name old level format).2.level =
      match Level.ofValue Level.ofName level with
      | .error _ => (old.getD { name }).level
      | .ok l => l := by
  unfold settle
  cases Level.ofValue Level.ofName level with
  | error f => rfl
  | ok l =>
    dsimp only
    split_ifs
    · rfl
    · cases templateOf format <;> rfl

theorem levelAt_setup (r : Registry) (name : String) (level : Value) (format : Option String) :
    (r.setup name level format).2.levelAt name =
      match Level.ofValue Level.ofName level with
      | .error _ => r.levelAt name
      | .ok l => l.value := by
  rw [levelAt_eq, (setup_settle r name level format).2, Option.getD_some, settle_level]
  cases Level.ofValue Level.ofName level with
  | error f => exact (levelAt_eq r name).symm
  | ok l => rfl

/-! ## Telling registries apart -/

theorem filterMap_find?_setup_other (r : Registry) (level : Value) (format : Option String) {names : List String} (h : name ∉ names) :
    names.filterMap (r.setup name level format).2.find? = names.filterMap r.find? :=
  List.filterMap_congr fun _ hn => find?_setup_other r level format fun he => h (he ▸ hn)

/-- A logger that is new and has no level of its own writes a line of its own first for a record that passes, unless the level
cannot be written. -/
theorem log_new (hlinked : r.Linked) {below : String} (hbelow : IsOrdinary below) (hfresh : r.find? below = none) (level : Int) :
    ∃ heard, heard ≠ .ok [] ∧ (r.setup below (.scalar (.integer 0)) none).2.log ⟨below, level, ""⟩ =
      if passes ((above below).filterMap r.find?) level then heard else .ok [] := by
  obtain ⟨hout, hfind⟩ := setup_settle r below (.scalar (.integer 0)) none
  have hsettle : settle below none (.scalar (.integer 0)) none = (.ok (), { name := below, handlers := [.standard] }) := rfl
  rw [hfresh, hsettle] at hout hfind
  dsimp only at hfind
  have hmem : below ∈ (r.setup below (.scalar (.integer 0)) none).2.configured :=
    (mem_configured_setup r below _ none).2 (.inr ⟨hout, rfl⟩)
  have hafter := hlinked.setup hbelow (.scalar (.integer 0)) none
  have hpasses : passes ({ name := below, handlers := [.standard] } :: (above below).filterMap r.find?) level =
      passes ((above below).filterMap r.find?) level := by
    rw [passes_cons]
    rfl
  have hfits : Template.standard.all Piece.fits := by decide +kernel
  obtain ⟨line, hline⟩ := Option.isSome_iff_exists.1 (Template.fill?_isSome hfits ⟨below, level, ""⟩)
  let rest := (((above below).filterMap r.find?).flatMap (·.handlers)).filterMap (·.fill? ⟨below, level, ""⟩)
  refine ⟨if isTooLong level then .error .longLevel else .ok (line :: rest), ?_, ?_⟩
  · split <;> simp
  · rw [log, if_pos (List.contains_iff_mem.2 hmem), lines, hafter.chain_eq (hafter.configured _ hmem), lineage_filterMap, hfind,
      filterMap_find?_setup_other r _ none (not_mem_above below), Option.toList_some, List.singleton_append, hpasses,
      List.flatMap_cons, List.singleton_append, List.filterMap_cons, hline]
    cases passes ((above below).filterMap r.find?) level <;> cases isTooLong level <;> rfl

theorem Linked.run_ordinary (h : r.Linked) {steps : List Step} (hsteps : ∀ x ∈ steps, x.IsOrdinary) : (r.run steps).Linked := by
  refine h.run steps fun before x rest hsplit name hname => admits_of_isOrdinary (hsteps x ?_ name hname)
  rw [hsplit]
  exact List.mem_append_right _ List.mem_cons_self

/-- Registries that are the same but for one name are told apart if its lineage has other records held back, after steps that
are nothing to names as long as that. -/
theorem answers_ne (hlinked₁ : r₁.Linked) (hlinked₂ : r₂.Linked) (hname : IsOrdinary name)
    (hother : ∀ n, n ≠ name → r₁.find? n = r₂.find? n) {steps : List Step} (hordinary : ∀ x ∈ steps, x.IsOrdinary)
    (hsteps : ∀ (r : Registry) (n : String), name.length ≤ n.length → (r.run steps).find? n = r.find? n) {level : Int}
    (h : passes ((lineage name).filterMap (r₁.run steps).find?) level ≠
      passes ((lineage name).filterMap (r₂.run steps).find?) level) :
    ∃ uses : List Use, (∀ u ∈ uses, u.IsOrdinary) ∧ r₁.answers uses ≠ r₂.answers uses := by
  obtain ⟨k, hfresh⟩ := r₂.exists_fresh name
  have hlength := length_child name k
  have hchild : child name k ≠ name := by
    intro he
    rw [he] at hlength
    omega
  have hfresh₁ : (r₁.run steps).find? (child name k) = none := by rw [hsteps r₁ _ (by omega), hother _ hchild, hfresh]
  have hfresh₂ : (r₂.run steps).find? (child name k) = none := by rw [hsteps r₂ _ (by omega), hfresh]
  let new := Step.setup (child name k) (.scalar (.integer 0)) none
  refine ⟨(steps ++ [new]).map .configure ++ [.log ⟨child name k, level, ""⟩], ?_, fun hsame => h ?_⟩
  · refine isOrdinary_of_steps (List.forall_mem_append.2 ⟨hordinary, ?_⟩) _
    exact List.forall_mem_singleton.2 (isOrdinary_setup (hname.child k) _ _)
  · have hlast := congrArg List.getLast? hsame
    obtain ⟨heard₁, hheard₁, hlog₁⟩ := log_new (hlinked₁.run_ordinary hordinary) (hname.child k) hfresh₁ level
    obtain ⟨heard₂, hheard₂, hlog₂⟩ := log_new (hlinked₂.run_ordinary hordinary) (hname.child k) hfresh₂ level
    have hrun : ∀ r : Registry, r.run (steps ++ [new]) = ((r.run steps).setup (child name k) (.scalar (.integer 0)) none).2 :=
      fun r => List.foldl_concat ..
    rw [answers_log, answers_log, hrun, hrun, hlog₁, hlog₂, Option.some.injEq, Answer.logged.injEq, above_child] at hlast
    cases h₁ : passes ((lineage name).filterMap (r₁.run steps).find?) level <;>
      cases h₂ : passes ((lineage name).filterMap (r₂.run steps).find?) level
    · rfl
    · rw [h₁, h₂] at hlast
      exact absurd hlast.symm hheard₂
    · rw [h₁, h₂] at hlast
      exact absurd hlast hheard₁
    · rfl

/-! ## Levels for what is above -/

/-- The nearest name above a name, if there is one, gets a level. -/
def weigh (name : String) (level : Int) : List Step :=
  match above name with
  | [] => []
  | nearest :: _ => [.setup nearest (.scalar (.integer level)) none]

theorem isOrdinary_weigh (hname : IsOrdinary name) (level : Int) : ∀ x ∈ weigh name level, x.IsOrdinary := by
  intro x hx
  unfold weigh at hx
  split at hx
  next => exact absurd hx List.not_mem_nil
  next nearest rest habove =>
    obtain rfl := List.mem_singleton.1 hx
    exact isOrdinary_setup (hname.of_mem_above (habove ▸ List.mem_cons_self)) _ _

theorem find?_weigh (r : Registry) (level : Int) {other : String} (h : name.length ≤ other.length) :
    (r.run (weigh name level)).find? other = r.find? other := by
  unfold weigh
  split
  next => rfl
  next nearest rest habove =>
    refine find?_setup_other r _ none fun he => ?_
    have hlt := length_lt_of_mem_above (habove ▸ List.mem_cons_self : nearest ∈ above name)
    rw [he] at h
    exact absurd h (Nat.not_le_of_lt hlt)

/-- What is above the name then lets the same through as that level, if there can be anything above it. -/
theorem passes_above_weigh (r : Registry) (name : String) {least : Int} (hleast : 0 < least) (level : Int) :
    passes ((above name).filterMap (r.run (weigh name least)).find?) level = decide ((weight name 0).getD least ≤ level) := by
  rw [weight, if_neg (not_not.2 rfl)]
  cases hsplit : above name with
  | nil =>
    rw [if_pos rfl]
    exact passes_nil level
  | cons nearest rest =>
    obtain ⟨-, hfind⟩ := setup_settle r nearest (.scalar (.integer least)) none
    have hrun : r.run (weigh name least) = (r.setup nearest (.scalar (.integer least)) none).2 := by
      rw [weigh, hsplit]
      rfl
    have hvalue : (settle nearest (r.find? nearest) (.scalar (.integer least)) none).2.level.value = least := by
      rw [settle_level]
      rfl
    rw [if_neg (List.cons_ne_nil _ _), Option.getD_none, List.filterMap_cons, hrun, hfind]
    dsimp only
    rw [passes_cons, hvalue, if_pos (by omega), ← Bool.decide_and, decide_eq_decide]
    omega

theorem passes_lineage_weigh (r : Registry) (name : String) {least : Int} (hleast : 0 < least) (level : Int) :
    passes ((lineage name).filterMap (r.run (weigh name least)).find?) level =
      decide ((weight name (r.levelAt name)).getD least ≤ level) := by
  have hlevel : (r.run (weigh name least)).levelAt name = r.levelAt name := by
    rw [levelAt, find?_weigh r least (Nat.le_refl name.length), levelAt]
  rw [passes_lineage, hlevel]
  cases hweight : weight name (r.levelAt name) with
  | some w => rfl
  | none =>
    dsimp only
    rw [passes_above_weigh r name hleast, weight_zero_of_none hweight]

/-- Weights that differ can be told apart by a level for what is above, and the level of a record. -/
theorem exists_level {a b : Option Int} (h : a ≠ b) :
    ∃ least level : Int, 0 < least ∧ decide (a.getD least ≤ level) ≠ decide (b.getD least ≤ level) := by
  have hdecide : ∀ x y level : Int, ¬ (x ≤ level ↔ y ≤ level) → decide (x ≤ level) ≠ decide (y ≤ level) :=
    fun x y level hiff hsame => hiff (decide_eq_decide.1 hsame)
  cases a with
  | none =>
    cases b with
    | none => exact absurd rfl h
    | some y => exact ⟨max 1 (y + 1), y, by omega, hdecide _ _ _ (by simp only [Option.getD_none, Option.getD_some]; omega)⟩
  | some x =>
    cases b with
    | none => exact ⟨max 1 (x + 1), x, by omega, hdecide _ _ _ (by simp only [Option.getD_none, Option.getD_some]; omega)⟩
    | some y =>
      have hne : x ≠ y := fun he => h (he ▸ rfl)
      exact ⟨1, min x y, by omega, hdecide _ _ _ (by simp only [Option.getD_some]; omega)⟩

/-- Levels that weigh differently are told apart. -/
theorem answers_ne_of_weight (hlinked₁ : r₁.Linked) (hlinked₂ : r₂.Linked) (hname : IsOrdinary name)
    (hother : ∀ n, n ≠ name → r₁.find? n = r₂.find? n)
    (hweight : weight name (r₁.levelAt name) ≠ weight name (r₂.levelAt name)) :
    ∃ uses : List Use, (∀ u ∈ uses, u.IsOrdinary) ∧ r₁.answers uses ≠ r₂.answers uses := by
  obtain ⟨least, level, hleast, hlevel⟩ := exists_level hweight
  rw [← passes_lineage_weigh r₁ name hleast, ← passes_lineage_weigh r₂ name hleast] at hlevel
  exact answers_ne hlinked₁ hlinked₂ hname hother (isOrdinary_weigh hname least) (fun r n => find?_weigh r least) hlevel

/-- What comes of a set-up that fails, over ordinary names: all later answers are the same exactly if the level was refused, or
weighs what the one before did. -/
theorem failed_setup_unheard_iff {steps : List Step} (hsteps : ∀ x ∈ steps, x.IsOrdinary) {name : String} (hname : IsOrdinary name)
    {level : Value} {format : Option String} {f : Fault}
    (hfails : ((({} : Registry).run steps).setup name level format).1 = .error f) :
    let before := ({} : Registry).run steps
    let after := (before.setup name level format).2
    (∀ uses : List Use, (∀ u ∈ uses, u.IsOrdinary) → after.answers uses = before.answers uses) ↔
      ∀ l, Level.ofValue Level.ofName level = .ok l → weight name l.value = weight name (before.levelAt name) := by
  intro before after
  have hreflects := reflects_empty.run steps
  have hbefore : before.Linked := linked_empty.run_ordinary hsteps
  have hafter : after.Linked := hbefore.setup hname level format
  have hother : ∀ n, n ≠ name → after.find? n = before.find? n := fun n hn => find?_setup_other before level format hn
  have hconfigured : after.configured = before.configured := configured_setup_error hfails
  have hlevel := levelAt_setup before name level format
  constructor
  · intro hsame l hl
    by_contra hne
    rw [hl] at hlevel
    obtain ⟨uses, hordinary, huses⟩ := answers_ne_of_weight hafter hbefore hname hother (hlevel ▸ hne)
    exact huses (hsame uses hordinary)
  · intro hweight uses hordinary
    by_cases hmem : name ∈ before.configured
    · have hself := find?_setup_error hfails (hreflects.handlers_ne_nil hmem)
      exact (Alike.mk hafter hbefore hconfigured hother (.inl hself)).answers_eq hordinary
    · have hbare := hreflects.bare name hmem
      have hfaint : Faint name after before := by
        refine ⟨hconfigured ▸ hmem, (handlers_setup_error hfails name).trans hbare, hbare, ?_⟩
        rw [hlevel]
        cases hl : Level.ofValue Level.ofName level with
        | error _ => rfl
        | ok l => exact hweight l hl
      exact (Alike.mk hafter hbefore hconfigured hother (.inr hfaint)).answers_eq hordinary

theorem isOrdinary_ab : IsOrdinary "a.b" := by
  have ha : IsDotted ['a'] := .part (by decide) (by decide)
  have hlineage : lineage "a.b" = ["a.b", "a"] := by decide
  refine ⟨.dot ha (by decide) (by decide), ?_⟩
  rw [hlineage]
  decide

/-- A format that is none leaves a level that is heard; a level that is none leaves nothing. -/
theorem failed_setup_unheard_iff_refused :
    (¬ ∀ uses : List Use, (∀ u ∈ uses, u.IsOrdinary) →
      (({} : Registry).setup "a.b" (.scalar (.integer 10)) (some "no field")).2.answers uses = ({} : Registry).answers uses) ∧
      ∀ uses : List Use, (∀ u ∈ uses, u.IsOrdinary) →
        (({} : Registry).setup "a.b" (.scalar (.text "debug")) none).2.answers uses = ({} : Registry).answers uses := by
  have hnone : ∀ x ∈ ([] : List Step), x.IsOrdinary := fun x hx => absurd hx List.not_mem_nil
  have hformat := @failed_setup_unheard_iff [] hnone "a.b" isOrdinary_ab (.scalar (.integer 10)) (some "no field") (.format "no field") rfl
  have hlevel :=
    @failed_setup_unheard_iff [] hnone "a.b" isOrdinary_ab (.scalar (.text "debug")) none (.level (.unknownLevel "debug")) rfl
  refine ⟨fun hsame => ?_, hlevel.2 fun l hl => ?_⟩
  · have hweight : weight "a.b" 10 = weight "a.b" 0 := hformat.1 hsame (.number 10) rfl
    exact absurd hweight (by decide)
  · cases hl

/-- A set-up that fails is not always as if it had not been made: the level that it leaves lets a record of a new logger below
pass. -/
theorem failed_setup_heard :
    ¬ ∀ (steps : List Step) (name : String) (level : Value) (format : Option String) (f : Fault),
      (∀ x ∈ steps, x.IsOrdinary) → IsOrdinary name → ((({} : Registry).run steps).setup name level format).1 = .error f →
      ∀ uses : List Use, (∀ u ∈ uses, u.IsOrdinary) →
        ((({} : Registry).run steps).setup name level format).2.answers uses = (({} : Registry).run steps).answers uses := by
  intro h
  have ha : IsOrdinary "a" := isOrdinary_ab.of_mem_above (by decide)
  have hnew : ∀ x ∈ [Step.setup "a.b" (.scalar (.integer 0)) none], x.IsOrdinary :=
    List.forall_mem_singleton.2 (isOrdinary_setup isOrdinary_ab _ _)
  have hsame := h [] "a" (.scalar (.integer 10)) (some "no field") (.format "no field")
    (fun x hx => absurd hx List.not_mem_nil) ha rfl _ (isOrdinary_of_steps hnew ⟨"a.b", 10, "x"⟩)
  have hlast := congrArg List.getLast? hsame
  rw [answers_log, answers_log, Option.some.injEq, Answer.logged.injEq] at hlast
  exact absurd (congrArg Except.toOption hlast) (by decide +kernel)

end Registry

end ApkReport.Journal
