/-
The components of a path. A slash separates them, so two paths joined by one have the
components of both, and a tail without slashes belongs to the last component, whatever
the tail is (`components_append_tail`). `pathText` leaves out single dots and nothing else.
-/
import ApkReport.FileSystem.Basic

namespace ApkReport

/-! ## Splitting -/

theorem splitSlashes_ne_nil (s : List Char) : splitSlashes s ≠ [] := by
  induction s with
  | nil => simp [splitSlashes]
  | cons c rest _ =>
    unfold splitSlashes
    split <;> simp_all
    split <;> simp

/-- A character that is no slash joins the first part. -/
theorem splitSlashes_cons {c : Char} {rest part : List Char} {parts : List (List Char)} (hc : c ≠ '/')
    (h : splitSlashes rest = part :: parts) : splitSlashes (c :: rest) = (c :: part) :: parts := by
  rw [splitSlashes.eq_3 c rest (by simpa using hc), h]

theorem splitSlashes_slash (a b : List Char) : splitSlashes (a ++ '/' :: b) = splitSlashes a ++ splitSlashes b := by
  induction a with
  | nil => rfl
  | cons c a ih =>
    by_cases hc : c = '/'
    · subst hc
      exact congrArg ([] :: ·) ih
    · obtain ⟨part, parts, ha⟩ := List.exists_cons_of_ne_nil (splitSlashes_ne_nil a)
      rw [ha, List.cons_append] at ih
      rw [List.cons_append, splitSlashes_cons hc ih, splitSlashes_cons hc ha, List.cons_append]

theorem splitSlashes_plain {s : List Char} (h : '/' ∉ s) : splitSlashes s = [s] := by
  induction s with
  | nil => rfl
  | cons c s ih =>
    rw [List.mem_cons, not_or] at h
    exact splitSlashes_cons (Ne.symm h.1) (ih h.2)

theorem mem_splitSlashes {s part : List Char} (h : part ∈ splitSlashes s) : '/' ∉ part ∧ ∀ c ∈ part, c ∈ s := by
  induction s generalizing part with
  | nil =>
    rw [splitSlashes, List.mem_singleton] at h
    simp [h]
  | cons c s ih =>
    by_cases hc : c = '/'
    · rw [hc, splitSlashes, List.mem_cons] at h
      rcases h with rfl | h
      · simp
      · exact ⟨(ih h).1, fun x hx => List.mem_cons_of_mem _ ((ih h).2 x hx)⟩
    · obtain ⟨first, parts, hs⟩ := List.exists_cons_of_ne_nil (splitSlashes_ne_nil s)
      rw [splitSlashes_cons hc hs, List.mem_cons] at h
      rcases h with rfl | h
      · obtain ⟨hslash, hmem⟩ := ih (hs ▸ List.mem_cons_self)
        refine ⟨fun h => (List.mem_cons.1 h).elim (fun he => hc he.symm) hslash, fun x hx => ?_⟩
        rcases List.mem_cons.1 hx with rfl | hx
        · exact List.mem_cons_self
        · exact List.mem_cons_of_mem _ (hmem x hx)
      · obtain ⟨hslash, hmem⟩ := ih (hs ▸ List.mem_cons_of_mem _ h)
        exact ⟨hslash, fun x hx => List.mem_cons_of_mem _ (hmem x hx)⟩

/-- What is appended without a slash belongs to the last part. -/
theorem splitSlashes_append_tail (s : List Char) :
    ∃ init stem, ∀ tail, '/' ∉ tail → splitSlashes (s ++ tail) = init ++ [stem ++ tail] := by
  induction s with
  | nil => exact ⟨[], [], fun tail h => splitSlashes_plain h⟩
  | cons c s ih =>
    obtain ⟨init, stem, h⟩ := ih
    by_cases hc : c = '/'
    · subst hc
      exact ⟨[] :: init, stem, fun tail ht => congrArg ([] :: ·) (h tail ht)⟩
    · cases init with
      | nil => exact ⟨[], c :: stem, fun tail ht => splitSlashes_cons hc (h tail ht)⟩
      | cons part init => exact ⟨(c :: part) :: init, stem, fun tail ht => splitSlashes_cons hc (h tail ht)⟩

/-! ## Components -/

/-- A name that can be a component. -/
def IsComponent (c : String) : Prop := c ≠ "" ∧ '/' ∉ c.toList

theorem components_slash (a b : String) : components (a ++ "/" ++ b) = components a ++ components b := by
  have hsplit : (a ++ "/" ++ b).toList = a.toList ++ '/' :: b.toList := by simp
  rw [components, hsplit, splitSlashes_slash, List.filter_append, List.map_append, components, components]

theorem components_root (path : String) : components ("/" ++ path) = components path := by
  simp [components, splitSlashes]

theorem components_plain {name : String} (h : IsComponent name) : components name = [name] := by
  rw [components, splitSlashes_plain h.2]
  simp [h.1]

theorem mem_components {path c : String} (h : c ∈ components path) :
    IsComponent c ∧ ∀ x ∈ c.toList, x ∈ path.toList := by
  simp only [components, List.mem_map, List.mem_filter] at h
  obtain ⟨part, ⟨hp, hne⟩, rfl⟩ := h
  obtain ⟨hslash, hmem⟩ := mem_splitSlashes hp
  rw [IsComponent, String.toList_ofList]
  refine ⟨⟨fun he => ?_, hslash⟩, hmem⟩
  rw [← String.toList_inj, String.toList_ofList] at he
  simp [he] at hne

theorem components_intercalate {cs : List String} (h : ∀ c ∈ cs, IsComponent c) : components ("/".intercalate cs) = cs := by
  induction cs with
  | nil => rfl
  | cons c cs ih =>
    have hc := h c List.mem_cons_self
    cases cs with
    | nil => rw [String.intercalate_singleton, components_plain hc]
    | cons d cs =>
      rw [String.intercalate_cons_cons, components_slash, components_plain hc,
        ih fun x hx => h x (List.mem_cons_of_mem _ hx), List.singleton_append]

theorem components_append_tail (path : String) :
    ∃ init stem, ∀ tail, IsComponent tail → components (path ++ tail) = init ++ [stem ++ tail] := by
  obtain ⟨init, stem, h⟩ := splitSlashes_append_tail path.toList
  refine ⟨(init.filter (!·.isEmpty)).map String.ofList, String.ofList stem, fun tail ht => ?_⟩
  have hne : stem ++ tail.toList ≠ [] := by simp [ht.1]
  rw [components, String.toList_append, h _ ht.2, List.filter_append, List.map_append]
  simp [hne]

/-! ## Text -/

theorem rootMark_eq (path : String) :
    rootMark path = "" ∧ isAbsolute path = false ∨
      (rootMark path = "/" ∨ rootMark path = "//") ∧ isAbsolute path = true := by
  unfold rootMark isAbsolute
  split <;> simp_all
  cases h : path.toList <;> simp_all

theorem components_mark (path text : String) : components (rootMark path ++ text) = components text := by
  rcases rootMark_eq path with ⟨h, -⟩ | ⟨h | h, -⟩
  · rw [h, String.empty_append]
  · rw [h, components_root]
  · rw [h, show "//" = "/" ++ "/" from rfl, String.append_assoc, components_root, components_root]

/-- The components that are more than a dot. -/
def properComponents (path : String) : List String := (components path).filter (· ≠ ".")

theorem mem_properComponents {path c : String} (h : c ∈ properComponents path) :
    IsComponent c ∧ ∀ x ∈ c.toList, x ∈ path.toList :=
  mem_components (List.mem_filter.1 h).1

/-- A path as text is its mark and its proper components, or a dot if there are none of either. -/
theorem pathText_eq (path : String) :
    pathText path = rootMark path ++ "/".intercalate (properComponents path) ∧
        (properComponents path ≠ [] ∨ isAbsolute path = true) ∨
      pathText path = "." ∧ properComponents path = [] ∧ isAbsolute path = false := by
  have hdef : pathText path = if (rootMark path ++ "/".intercalate (properComponents path)).isEmpty then "."
      else rootMark path ++ "/".intercalate (properComponents path) := rfl
  rcases rootMark_eq path with ⟨hm, ha⟩ | ⟨hm, ha⟩
  · cases hc : properComponents path with
    | nil => exact .inr ⟨by rw [hdef, hc, hm]; rfl, rfl, ha⟩
    | cons c cs =>
      have hne : c ≠ "" := (mem_properComponents (hc ▸ List.mem_cons_self)).1.1
      refine .inl ⟨?_, .inl (by simp)⟩
      rw [hdef, hc, if_neg]
      cases cs <;> simp [hm, hne, String.intercalate_cons_cons]
  · refine .inl ⟨?_, .inr ha⟩
    rw [hdef, if_neg]
    rcases hm with hm | hm <;> simp [hm]

theorem components_pathText {path : String} (h : properComponents path ≠ []) :
    components (pathText path) = properComponents path := by
  rcases pathText_eq path with ⟨ht, -⟩ | ⟨-, he, -⟩
  · rw [ht, components_mark, components_intercalate fun c hc => (mem_properComponents hc).1]
  · exact absurd he h

theorem getLast?_append_component (front : String) {c : String} (h : IsComponent c) :
    (front ++ c).toList.getLast? ≠ some '/' := by
  have hc : c.toList ≠ [] := fun he => h.1 (String.toList_eq_nil_iff.1 he)
  intro he
  rw [String.toList_append, List.getLast?_append, List.getLast?_eq_some_getLast hc, Option.some_or] at he
  exact h.2 (Option.some.inj he ▸ List.getLast_mem hc)

theorem intercalate_last (init : List String) (c : String) : ∃ front, "/".intercalate (init ++ [c]) = front ++ c := by
  cases init with
  | nil => exact ⟨"", by rw [List.nil_append, String.intercalate_singleton, String.empty_append]⟩
  | cons d init =>
    refine ⟨"/".intercalate (d :: init) ++ "/", ?_⟩
    rw [String.intercalate_append_of_ne_nil (List.cons_ne_nil _ _) (List.cons_ne_nil _ _), String.intercalate_singleton]

theorem mem_intercalate {cs : List String} {x : Char} (h : x ∈ ("/".intercalate cs).toList) :
    x = '/' ∨ ∃ c ∈ cs, x ∈ c.toList := by
  induction cs with
  | nil => simp at h
  | cons c cs ih =>
    cases cs with
    | nil => exact .inr ⟨c, List.mem_cons_self, by simpa using h⟩
    | cons d cs =>
      rw [String.intercalate_cons_cons, String.toList_append, String.toList_append, List.mem_append, List.mem_append] at h
      rcases h with (h | h) | h
      · exact .inr ⟨c, List.mem_cons_self, h⟩
      · exact .inl (by simpa using h)
      · rcases ih h with hx | ⟨e, he, hx⟩
        · exact .inl hx
        · exact .inr ⟨e, List.mem_cons_of_mem _ he, hx⟩

/-- A path as text ends in a component, if it has one that is more than a dot. -/
theorem getLast?_pathText {path : String} (h : properComponents path ≠ []) : (pathText path).toList.getLast? ≠ some '/' := by
  obtain ⟨init, c, hc⟩ := (List.eq_nil_or_concat (properComponents path)).resolve_left h
  rw [List.concat_eq_append] at hc
  have hcomp : IsComponent c := (mem_properComponents (hc ▸ List.mem_append_right init List.mem_cons_self)).1
  obtain ⟨front, hf⟩ := intercalate_last init c
  rcases pathText_eq path with ⟨ht, -⟩ | ⟨-, he, -⟩
  · rw [ht, hc, hf, ← String.append_assoc]
    exact getLast?_append_component _ hcomp
  · exact absurd he h

theorem head?_intercalate {cs : List String} (h : ∀ c ∈ cs, IsComponent c) :
    ("/".intercalate cs).toList.head? ≠ some '/' := by
  cases cs with
  | nil => simp
  | cons c cs =>
    have hc : IsComponent c := h c List.mem_cons_self
    have hhead : c.toList.head? ≠ some '/' := fun he => hc.2 (List.mem_of_mem_head? he)
    cases hlist : c.toList with
    | nil => exact absurd (String.toList_eq_nil_iff.1 hlist) hc.1
    | cons x rest =>
      rw [hlist] at hhead
      cases cs <;> simpa [String.intercalate_cons_cons, hlist] using hhead

theorem isAbsolute_pathText (path : String) : isAbsolute (pathText path) = isAbsolute path := by
  rcases pathText_eq path with ⟨ht, -⟩ | ⟨ht, -, ha⟩
  · have hhead := head?_intercalate fun c (hc : c ∈ properComponents path) => (mem_properComponents hc).1
    rcases rootMark_eq path with ⟨hm, ha⟩ | ⟨hm | hm, ha⟩
    · rw [ht, hm, ha, String.empty_append, isAbsolute, decide_eq_false_iff_not]
      exact hhead
    · rw [ht, hm, ha]
      simp [isAbsolute]
    · rw [ht, hm, ha]
      simp [isAbsolute]
  · rw [ht, ha]
    rfl

theorem rootMark_append {tail : String} (front : String) (h : tail.toList.head? ≠ some '/') :
    rootMark (front ++ tail) = rootMark front := by
  unfold rootMark
  rw [String.toList_append]
  generalize front.toList = cs
  cases ht : tail.toList with
  | nil => rw [List.append_nil]
  | cons c rest =>
    have hc : c ≠ '/' := fun he => h (by rw [ht, he]; rfl)
    match cs with
    | [] => split <;> simp_all
    | [a] => by_cases ha : a = '/' <;> simp [ha, hc]
    | [a, b] => by_cases ha : a = '/' <;> by_cases hb : b = '/' <;> simp [ha, hb, hc]
    | a :: b :: d :: cs => by_cases ha : a = '/' <;> by_cases hb : b = '/' <;> by_cases hd : d = '/' <;> simp [ha, hb, hd]

theorem properComponents_pathText (path : String) : properComponents (pathText path) = properComponents path := by
  rcases pathText_eq path with ⟨ht, -⟩ | ⟨ht, he, -⟩
  · rw [properComponents, ht, components_mark, components_intercalate fun c hc => (mem_properComponents hc).1, properComponents,
      List.filter_filter]
    simp
  · rw [ht, he]
    decide

/-- A path as text is its own text. -/
theorem pathText_pathText (path : String) : pathText (pathText path) = pathText path := by
  rcases pathText_eq path with ⟨ht, hne⟩ | ⟨ht, -⟩
  · have hmark : rootMark (pathText path) = rootMark path := by
      rw [ht, rootMark_append _ (head?_intercalate fun c hc => (mem_properComponents hc).1)]
      rcases rootMark_eq path with ⟨h, -⟩ | ⟨h | h, -⟩ <;> rw [h] <;> decide
    rcases pathText_eq (pathText path) with ⟨ht', -⟩ | ⟨-, hnil, habs⟩
    · rw [ht', hmark, properComponents_pathText, ht]
    · rw [properComponents_pathText] at hnil
      rw [isAbsolute_pathText] at habs
      exact absurd hne (by simp [hnil, habs])
  · rw [ht]
    decide

theorem FileSystem.hasNull_append (a b : String) : hasNull (a ++ b) = (hasNull a || hasNull b) := by
  rw [hasNull, String.toList_append, List.contains_append, hasNull, hasNull]

theorem hasNull_pathText {path : String} (h : FileSystem.hasNull path = false) : FileSystem.hasNull (pathText path) = false := by
  have hpath : '\x00' ∉ path.toList := by simpa [FileSystem.hasNull] using h
  have hcs : '\x00' ∉ ("/".intercalate (properComponents path)).toList := by
    intro hmem
    rcases mem_intercalate hmem with he | ⟨c, hc, hx⟩
    · exact absurd he (by decide)
    · exact hpath ((mem_properComponents hc).2 _ hx)
  rcases pathText_eq path with ⟨ht, -⟩ | ⟨ht, -⟩
  · rcases rootMark_eq path with ⟨hm, -⟩ | ⟨hm | hm, -⟩ <;> simpa [FileSystem.hasNull, ht, hm] using hcs
  · rw [ht]
    rfl

/-! ## Joining -/

theorem isAbsolute_append {name tail : String} (h : IsComponent tail) : isAbsolute (name ++ tail) = isAbsolute name := by
  unfold isAbsolute
  rw [String.toList_append]
  cases name.toList with
  | cons c rest => rfl
  | nil =>
    have hhead : tail.toList.head? ≠ some '/' := fun he => h.2 (List.mem_of_mem_head? he)
    simpa using hhead

theorem joinPath_append {name tail : String} (root : String) (h : IsComponent tail) :
    joinPath root (name ++ tail) = joinPath root name ++ tail := by
  unfold joinPath
  rw [isAbsolute_append h]
  split
  · rfl
  · split
    · exact String.append_assoc.symm
    · simp only [String.append_assoc]

theorem joinPath_plain {directory name : String} (hn : IsComponent name) (hd : directory ≠ "")
    (hl : directory.toList.getLast? ≠ some '/') : joinPath directory name = directory ++ "/" ++ name := by
  have habs : isAbsolute ("" ++ name) = isAbsolute "" := isAbsolute_append hn
  rw [String.empty_append, show isAbsolute "" = false from rfl] at habs
  unfold joinPath
  simp [habs, hd, hl]

/-- A directory that a name is appended to. -/
theorem joinPath_empty (directory : String) :
    joinPath directory "" = directory ∧ (directory = "" ∨ directory.toList.getLast? = some '/') ∨
      joinPath directory "" = directory ++ "/" ∧ directory ≠ "" := by
  have habs : isAbsolute "" = false := rfl
  by_cases hd : directory = ""
  · exact .inl ⟨by rw [hd]; rfl, .inl hd⟩
  · by_cases hl : directory.toList.getLast? = some '/'
    · exact .inl ⟨by simp [joinPath, habs, hl], .inr hl⟩
    · exact .inr ⟨by simp [joinPath, habs, hd, hl], hd⟩

/-- A name in a directory is the last component, however the directory is written. -/
theorem components_joinPath {name : String} (directory : String) (hn : IsComponent name) :
    components (joinPath directory name) = components directory ++ [name] := by
  rw [← String.empty_append (s := name), joinPath_append directory hn, String.empty_append]
  rcases joinPath_empty directory with ⟨hj, rfl | hl⟩ | ⟨hj, -⟩
  · rw [hj, String.empty_append, components_plain hn]
    rfl
  · obtain ⟨cs, hcs⟩ := List.getLast?_eq_some_iff.1 hl
    have hfront : directory = String.ofList cs ++ "/" := by
      rw [← String.toList_inj, hcs]
      simp
    have hdir : components (String.ofList cs ++ "/") = components (String.ofList cs) := by
      rw [← String.append_empty (s := String.ofList cs ++ "/"), components_slash]
      exact List.append_nil _
    rw [hj, hfront, hdir, components_slash, components_plain hn]
  · rw [hj, components_slash, components_plain hn]

theorem isAbsolute_joinPath {name : String} (directory : String) (hn : IsComponent name) :
    isAbsolute (joinPath directory name) = isAbsolute directory := by
  rw [← String.empty_append (s := name), joinPath_append directory hn, isAbsolute_append hn]
  rcases joinPath_empty directory with ⟨hj, -⟩ | ⟨hj, hd⟩
  · rw [hj]
  · rw [hj, isAbsolute, isAbsolute, String.toList_append]
    cases hcs : directory.toList with
    | nil => exact absurd (String.toList_eq_nil_iff.1 hcs) hd
    | cons _ _ => rfl

/-! ## Double dots -/

/-- Behind names that climb nowhere, what is left when double dots are resolved climbs nowhere. -/
theorem mem_resolveDots {done cs : List String} {c : String} (hd : ".." ∉ done) (h : c ∈ resolveDots true done cs) :
    c ≠ ".." ∧ (c ∈ done ∨ c ∈ cs) := by
  induction cs generalizing done with
  | nil =>
    rw [resolveDots, List.mem_reverse] at h
    exact ⟨fun he => hd (he ▸ h), .inl h⟩
  | cons name cs ih =>
    -- whatever the name does, what stays of it is the name
    have hstep : ∀ {rest : List String}, ".." ∉ rest → (∀ x ∈ rest, x ∈ done ∨ x = name) → c ∈ resolveDots true rest cs →
        c ≠ ".." ∧ (c ∈ done ∨ c ∈ name :: cs) := by
      intro rest hr hsub hc
      obtain ⟨hne, hmem | hmem⟩ := ih hr hc
      · exact ⟨hne, (hsub c hmem).imp_right fun he => List.mem_cons.2 (.inl he)⟩
      · exact ⟨hne, .inr (List.mem_cons_of_mem _ hmem)⟩
    unfold resolveDots at h
    split at h
    · exact hstep hd (fun _ => .inl) h
    · split at h
      · cases done with
        | nil => exact hstep List.not_mem_nil (fun x hx => absurd hx List.not_mem_nil) h
        | cons d ds =>
          have hds : ".." ∉ ds := fun hm => hd (List.mem_cons_of_mem _ hm)
          have hne : d ≠ ".." := fun he => hd (he ▸ List.mem_cons_self)
          simp only [hne, if_false] at h
          exact hstep hds (fun _ hx => .inl (List.mem_cons_of_mem _ hx)) h
      · refine hstep ?_ (fun x hx => (List.mem_cons.1 hx).symm) h
        rw [List.mem_cons, not_or]
        exact ⟨fun he => ‹¬name = ".."› he.symm, hd⟩

/-- A path from the root climbs nowhere. -/
theorem no_parent_absolutePath (directory path : String) : ".." ∉ components (absolutePath directory path) := by
  have hresolved : ∀ {c : String}, c ∈ resolveDots true [] (components (joinPath directory path)) →
      c ≠ ".." ∧ IsComponent c := by
    intro c hc
    obtain ⟨hne, hmem | hmem⟩ := mem_resolveDots List.not_mem_nil hc
    · exact absurd hmem List.not_mem_nil
    · exact ⟨hne, (mem_components hmem).1⟩
  rw [absolutePath, components_mark, components_intercalate fun c hc => (hresolved hc).2]
  exact fun h => (hresolved h).1 rfl

end ApkReport
