/-
A JSON text is read back as the value that it was written for, if no number stands in it. The
reading of a string undoes each escape on its own (`readString?_escapeChar`); the reading of a
value takes exactly the written text from the front, whatever follows, and needs no more steps
than the text has characters (`Numberless.readsBack`).
-/
import ApkReport.Json.Reader
import Mathlib.Data.List.TakeWhile

namespace ApkReport.Json

open Text

/-! ## Strings -/

/-- A control character is escaped by its number, in four digits. -/
theorem hexNumber?_hex {n : Nat} (h : n < 0x20) : hexNumber? (hex 4 n) = some n := by
  decide +revert

theorem readString?_hex {n : Nat} (h : n < 0x20) (s : List Char) :
    readString? ('\\' :: 'u' :: hex 4 n ++ s) = (readString? s).map fun (ns, rest) => (n :: ns, rest) := by
  have hnumber := hexNumber?_hex h
  have hdigits : hex 4 n = [hexDigit (n / 16 / 16 / 16 % 16), hexDigit (n / 16 / 16 % 16), hexDigit (n / 16 % 16),
    hexDigit (n % 16)] := rfl
  rw [hdigits] at hnumber ⊢
  simp only [List.cons_append, List.nil_append]
  rw [readString?, hnumber]
  cases readString? s <;> rfl

theorem readString?_short {c e : Char} (hc : c ≠ 'u') (he : shortEscape? c = some e) (s : List Char) :
    readString? ('\\' :: c :: s) = (readString? s).map fun (ns, rest) => (e.toNat :: ns, rest) := by
  rw [readString?, he]
  · cases readString? s <;> rfl
  · intro _ _ _ _ _ h
    exact absurd h hc

theorem readString?_plain {c : Char} (hquote : c ≠ '"') (hslash : c ≠ '\\') (hcontrol : ¬ c.toNat < 0x20) (s : List Char) :
    readString? (c :: s) = (readString? s).map fun (ns, rest) => (c.toNat :: ns, rest) := by
  rw [readString?, if_neg hcontrol]
  · cases readString? s <;> rfl
  · exact hquote
  · intro _ _ _ _ _ h
    exact absurd h hslash
  · intro _ _ h
    exact absurd h hslash

/-- Each escape is read as the character that it stands for. -/
theorem readString?_escapeChar (c : Char) (s : List Char) :
    readString? (escapeChar c ++ s) = (readString? s).map fun (ns, rest) => (c.toNat :: ns, rest) := by
  unfold escapeChar
  split
  case h_8 hquote hslash _ _ _ _ _ =>
    by_cases hcontrol : c.toNat < 0x20
    · rw [if_pos hcontrol]
      exact readString?_hex hcontrol s
    · rw [if_neg hcontrol]
      exact readString?_plain hquote hslash hcontrol s
  all_goals exact readString?_short (by decide) rfl s

theorem readString?_escaped (s rest : List Char) :
    readString? (s.flatMap escapeChar ++ '"' :: rest) = some (s.map Char.toNat, rest) := by
  induction s with
  | nil => rfl
  | cons c s ih => rw [List.flatMap_cons, List.append_assoc, readString?_escapeChar, ih, List.map_cons, Option.map_some]

/-- The number of a character is none of a surrogate. -/
theorem not_surrogate (c : Char) : ¬ (0xD800 ≤ c.toNat ∧ c.toNat < 0xE000) := by
  have h : c.toNat < 0xD800 ∨ 0xDFFF < c.toNat ∧ c.toNat < 0x110000 := c.valid
  omega

theorem joinSurrogates_characters (s : List Char) : joinSurrogates (s.map Char.toNat) = s := by
  induction s with
  | nil => rfl
  | cons c s ih =>
    have hc := not_surrogate c
    cases s with
    | nil => rw [List.map_cons, List.map_nil, joinSurrogates, if_neg hc, Char.ofNat_toNat]
    | cons d s =>
      rw [List.map_cons, List.map_cons, joinSurrogates, if_neg (by omega), if_neg hc, Char.ofNat_toNat, ← List.map_cons, ih]

theorem readText?_quote (s : String) (rest : List Char) :
    readText? (s.toList.flatMap escapeChar ++ '"' :: rest) = some (s, rest) := by
  rw [readText?, readString?_escaped, Option.map_some]
  dsimp only
  rw [joinSurrogates_characters, String.ofList_toList]

theorem quote_append (s : String) (rest : List Char) : quote s ++ rest = '"' :: (s.toList.flatMap escapeChar ++ '"' :: rest) := by
  simp [quote]

/-! ## Layout -/

theorem skipSpace_newLine (level : Nat) (s : List Char) : skipSpace (newLine level ++ s) = skipSpace s := by
  unfold skipSpace
  have hspace : ∀ c ∈ newLine level, isSpace c = true := by
    intro c hc
    rcases List.mem_cons.1 hc with rfl | hc
    · rfl
    · rw [List.eq_of_mem_replicate hc]
      rfl
  exact List.dropWhile_append_of_pos hspace

theorem skipSpace_of_head {c : Char} (h : isSpace c = false) (s : List Char) : skipSpace (c :: s) = c :: s :=
  List.dropWhile_cons_of_neg (by simp [h])

/-- No number stands in the value. -/
inductive Numberless : Json → Prop
  | null : Numberless .null
  | bool (b : Bool) : Numberless (.bool b)
  | string (s : String) : Numberless (.string s)
  | array {items : List Json} (h : ∀ v ∈ items, Numberless v) : Numberless (.array items)
  | object {members : List (String × Json)} (h : ∀ m ∈ members, Numberless m.2) : Numberless (.object members)

/-- A value starts neither with white space nor with the bracket that ends a list. -/
theorem Numberless.render_head {v : Json} (h : Numberless v) (level : Nat) :
    ∃ c s, render level v = c :: s ∧ isSpace c = false ∧ c ≠ ']' := by
  cases h with
  | null => exact ⟨_, _, rfl, rfl, by decide⟩
  | bool b => cases b <;> exact ⟨_, _, rfl, rfl, by decide⟩
  | string s => exact ⟨_, _, rfl, rfl, by decide⟩
  | @array items _ =>
    cases items with
    | nil => exact ⟨_, _, rfl, rfl, by decide⟩
    | cons v items => exact ⟨_, _, by rw [render]; rfl, rfl, by decide⟩
  | @object members _ =>
    cases members with
    | nil => exact ⟨_, _, rfl, rfl, by decide⟩
    | cons m members => exact ⟨_, _, by rw [render]; rfl, rfl, by decide⟩

theorem Numberless.skipSpace_render {v : Json} (h : Numberless v) (level : Nat) (rest : List Char) :
    skipSpace (render level v ++ rest) = render level v ++ rest := by
  obtain ⟨c, s, hv, hspace, -⟩ := h.render_head level
  rw [hv, List.cons_append, skipSpace_of_head hspace]

/-! ## Values -/

/-- Reading takes the value from the front of the text, in no more steps than it has characters. -/
def ReadsBack (v : Json) : Prop :=
  ∀ level steps rest, (render level v).length ≤ steps → readValue? steps (render level v ++ rest) = some (v, rest)

theorem readValue?_newLine (steps level : Nat) (s : List Char) : readValue? steps (newLine level ++ s) = readValue? steps s := by
  cases steps with
  | zero => rw [readValue?, readValue?]
  | succ steps => rw [readValue?, readValue?, skipSpace_newLine]

theorem readValue?_space (steps : Nat) (s : List Char) : readValue? steps (' ' :: s) = readValue? steps s := by
  cases steps with
  | zero => rw [readValue?, readValue?]
  | succ steps =>
    rw [readValue?, readValue?]
    rfl

theorem readItems?_newLine (steps level : Nat) (s : List Char) : readItems? steps (newLine level ++ s) = readItems? steps s := by
  cases steps with
  | zero => rw [readItems?, readItems?]
  | succ steps => rw [readItems?, readItems?, readValue?_newLine]

theorem readMembers?_newLine (steps level : Nat) (s : List Char) :
    readMembers? steps (newLine level ++ s) = readMembers? steps s := by
  cases steps with
  | zero => rw [readMembers?, readMembers?]
  | succ steps => rw [readMembers?, readMembers?, skipSpace_newLine]

/-- What is read of items behind the first is up to what follows it. -/
theorem readItems?_first {v : Json} (hv : ReadsBack v) {level steps : Nat} (hsteps : (render level v).length ≤ steps)
    (s : List Char) :
    readItems? (steps + 1) (render level v ++ s) = match skipSpace s with
      | ',' :: rest => (readItems? steps rest).map fun (items, rest) => (v :: items, rest)
      | ']' :: rest => some ([v], rest)
      | _ => none := by
  rw [readItems?, hv _ _ _ hsteps]
  simp only [Option.bind_eq_bind, Option.bind_some]
  generalize skipSpace s = t
  split
  · change _ = Option.map _ (readItems? steps _)
    cases readItems? steps _ <;> rfl
  · rfl
  · simp_all

theorem readMembers?_first {v : Json} (hv : ReadsBack v) {level steps : Nat} (hsteps : (render level v).length ≤ steps)
    (k : String) (s : List Char) :
    readMembers? (steps + 1) (quote k ++ ':' :: ' ' :: (render level v ++ s)) = match skipSpace s with
      | ',' :: rest => (readMembers? steps rest).map fun (members, rest) => ((k, v) :: members, rest)
      | '\x7d' :: rest => some ([(k, v)], rest)
      | _ => none := by
  have hkey : ∀ rest, skipSpace (quote k ++ rest) = '"' :: (k.toList.flatMap escapeChar ++ '"' :: rest) := by
    intro rest
    rw [quote_append, skipSpace_of_head rfl]
  simp only [readMembers?, hkey, readText?_quote, Option.bind_eq_bind, Option.bind_some, skipSpace_of_head (c := ':') rfl,
    readValue?_space, hv _ _ _ hsteps]
  generalize skipSpace s = t
  split
  · change _ = Option.map _ (readMembers? steps _)
    cases readMembers? steps _ <;> rfl
  · rfl
  · simp_all

theorem readItems?_render {v : Json} {items : List Json} (hv : ReadsBack v) (hitems : ∀ w ∈ items, ReadsBack w)
    (level steps : Nat) (hsteps : (render (level + 1) v).length + (renderItems level items).length < steps) (rest : List Char) :
    readItems? steps (render (level + 1) v ++ (renderItems level items ++ (newLine level ++ ']' :: rest))) =
      some (v :: items, rest) := by
  induction items generalizing v steps with
  | nil =>
    obtain ⟨steps, rfl⟩ := Nat.exists_eq_add_one_of_ne_zero (Nat.ne_zero_of_lt hsteps)
    rw [readItems?_first hv (by omega), renderItems, List.nil_append, skipSpace_newLine]
    rfl
  | cons w items ih =>
    obtain ⟨steps, rfl⟩ := Nat.exists_eq_add_one_of_ne_zero (Nat.ne_zero_of_lt hsteps)
    rw [renderItems] at hsteps ⊢
    simp only [List.length_append, List.length_cons] at hsteps
    have hrest := ih (hitems w List.mem_cons_self) (fun x hx => hitems x (List.mem_cons_of_mem w hx)) steps (by omega)
    rw [readItems?_first hv (by omega)]
    simp only [List.cons_append, List.append_assoc, skipSpace_of_head (c := ',') rfl, readItems?_newLine, hrest]
    rfl

theorem readMembers?_render {k : String} {v : Json} {members : List (String × Json)} (hv : ReadsBack v)
    (hmembers : ∀ m ∈ members, ReadsBack m.2) (level steps : Nat)
    (hsteps : (render (level + 1) v).length + (renderMembers level members).length < steps) (rest : List Char) :
    readMembers? steps (quote k ++ ':' :: ' ' :: (render (level + 1) v ++ (renderMembers level members ++
      (newLine level ++ '\x7d' :: rest)))) = some ((k, v) :: members, rest) := by
  induction members generalizing k v steps with
  | nil =>
    obtain ⟨steps, rfl⟩ := Nat.exists_eq_add_one_of_ne_zero (Nat.ne_zero_of_lt hsteps)
    rw [readMembers?_first hv (by omega), renderMembers, List.nil_append, skipSpace_newLine]
    rfl
  | cons m members ih =>
    obtain ⟨l, w⟩ := m
    obtain ⟨steps, rfl⟩ := Nat.exists_eq_add_one_of_ne_zero (Nat.ne_zero_of_lt hsteps)
    rw [renderMembers] at hsteps ⊢
    simp only [List.length_append, List.length_cons] at hsteps
    have hw : ReadsBack w := hmembers (l, w) List.mem_cons_self
    have hrest := ih (k := l) hw (fun x hx => hmembers x (List.mem_cons_of_mem _ hx)) steps (by omega)
    rw [readMembers?_first hv (by omega)]
    simp only [List.cons_append, List.append_assoc, skipSpace_of_head (c := ',') rfl, readMembers?_newLine, hrest]
    rfl

/-- A value is read in a step and those of its parts. -/
theorem ReadsBack.of_step {v : Json} (h : Numberless v)
    (hstep : ∀ level steps rest, (render level v).length ≤ steps + 1 →
      readValue? (steps + 1) (render level v ++ rest) = some (v, rest)) : ReadsBack v := by
  intro level steps rest hsteps
  obtain ⟨c, s, hv, -⟩ := h.render_head level
  have hpos : steps ≠ 0 := by
    rw [hv, List.length_cons] at hsteps
    omega
  obtain ⟨steps, rfl⟩ := Nat.exists_eq_add_one_of_ne_zero hpos
  exact hstep level steps rest hsteps

/-- Behind the bracket stand items, unless it is closed at once. -/
theorem readValue?_items {c : Char} {s t : List Char} (hs : skipSpace s = c :: t) (hc : c ≠ ']') (steps : Nat) :
    readValue? (steps + 1) ('[' :: s) = (readItems? steps (c :: t)).map fun (items, rest) => (.array items, rest) := by
  simp only [readValue?, skipSpace_of_head (c := '[') rfl, hs]
  split
  · rename_i h
    exact absurd (List.cons.inj h).1 hc
  · rfl

theorem readValue?_members {c : Char} {s t : List Char} (hs : skipSpace s = c :: t) (hc : c ≠ '\x7d') (steps : Nat) :
    readValue? (steps + 1) ('\x7b' :: s) =
      (readMembers? steps (c :: t)).map fun (members, rest) => (.object members, rest) := by
  simp only [readValue?, skipSpace_of_head (c := '\x7b') rfl, hs]
  split
  · rename_i h
    exact absurd (List.cons.inj h).1 hc
  · rfl

/-- A value without numbers is read back. -/
theorem Numberless.readsBack {v : Json} (h : Numberless v) : ReadsBack v := by
  induction h with
  | null =>
    refine .of_step .null fun level steps rest _ => ?_
    rw [readValue?, (Numberless.null).skipSpace_render]
    rfl
  | bool b =>
    refine .of_step (.bool b) fun level steps rest _ => ?_
    rw [readValue?, (Numberless.bool b).skipSpace_render]
    cases b <;> rfl
  | string s =>
    refine .of_step (.string s) fun level steps rest _ => ?_
    rw [readValue?, (Numberless.string s).skipSpace_render, render, quote_append]
    simp only [readText?_quote]
    rfl
  | @array items h ih =>
    refine .of_step (.array h) fun level steps rest hsteps => ?_
    cases items with
    | nil => rfl
    | cons v items =>
      rw [render] at hsteps ⊢
      simp only [List.length_append, List.length_cons] at hsteps
      have hitems := readItems?_render (ih v List.mem_cons_self) (fun w hw => ih w (List.mem_cons_of_mem v hw)) level steps
        (by omega) rest
      obtain ⟨c, s, hc, hspace, hbracket⟩ := (h v List.mem_cons_self).render_head (level + 1)
      simp only [List.cons_append, List.append_assoc, List.nil_append]
      rw [hc, List.cons_append] at hitems ⊢
      rw [readValue?_items (by rw [skipSpace_newLine]; exact skipSpace_of_head hspace _) hbracket, hitems]
      rfl
  | @object members h ih =>
    refine .of_step (.object h) fun level steps rest hsteps => ?_
    cases members with
    | nil => rfl
    | cons m members =>
      obtain ⟨k, v⟩ := m
      rw [render] at hsteps ⊢
      simp only [List.length_append, List.length_cons] at hsteps
      have hmembers := readMembers?_render (k := k) (ih (k, v) List.mem_cons_self)
        (fun m hm => ih m (List.mem_cons_of_mem _ hm)) level steps (by dsimp only; omega) rest
      simp only [List.cons_append, List.append_assoc, List.nil_append]
      rw [quote_append] at hmembers ⊢
      rw [readValue?_members (by rw [skipSpace_newLine]; exact skipSpace_of_head rfl _) (by decide), hmembers]
      rfl

/-- A text is read back with white space behind it. -/
theorem Numberless.read?_text {v : Json} (h : Numberless v) {tail : String} (htail : ∀ c ∈ tail.toList, isSpace c = true) :
    read? (v.text ++ tail) = some v := by
  have hvalue := h.readsBack 0 ((v.text ++ tail).toList.length + 1) tail.toList (by simp [text]; omega)
  have htext : (v.text ++ tail).toList = render 0 v ++ tail.toList := by simp [text]
  have hskip : skipSpace tail.toList = [] := List.dropWhile_eq_nil_iff.2 htail
  rw [htext] at hvalue
  rw [read?, htext, hvalue]
  dsimp only
  rw [hskip]
  rfl

end ApkReport.Json
