/-
What lower case makes of a text in plain characters. A character becomes a plain one in few
ways (`lowerChar_eq_iff`): the characters that do are `spellings`, the character itself and
its capital, and the Kelvin sign for `k`. All other images, the longer one and those of the
capital sigma among them, end in a character that is not plain. So a text has a plain word as
its lower case, or at the end of it, exactly if it spells the word there, whatever stands before.
-/
import ApkReport.Text.Case
import Mathlib.Data.List.Forall2

namespace ApkReport.Text

/-- The characters of seven bits. -/
def IsPlain (c : Char) : Prop := c.toNat < 0x80

instance (c : Char) : Decidable (IsPlain c) := inferInstanceAs (Decidable (_ < _))

theorem isPlain_of_all {word : List Char} (h : word.all (IsPlain ·)) : ∀ x ∈ word, IsPlain x := fun x hx =>
  of_decide_eq_true (List.all_eq_true.1 h x hx)

/-- The characters that have a plain one as their lower case. -/
def spellings (x : Char) : List Char :=
  if x = 'k' then ['k', 'K', '\u212A']
  else if x.isLower then [x, x.toUpper]
  else if x.isUpper then []
  else [x]

/-- A text spells a word: each of its characters is a spelling of the one in the same place. -/
def Spells (s word : List Char) : Prop := List.Forall₂ (fun c x => c ∈ spellings x) s word

theorem forall₂_spellings_iff {s word : List Char} : List.Forall₂ (· ∈ ·) s (word.map spellings) ↔ Spells s word := by
  rw [List.forall₂_map_right_iff, Spells]

theorem Spells.forall {P : Char → Prop} {s word : List Char} (h : Spells s word)
    (hword : ∀ x ∈ word, ∀ c ∈ spellings x, P c) : ∀ c ∈ s, P c := by
  induction h with
  | nil => exact fun _ hc => absurd hc List.not_mem_nil
  | @cons c x _ _ hfirst _ ih =>
    intro d hd
    rcases List.mem_cons.1 hd with rfl | hd
    · exact hword x List.mem_cons_self d hfirst
    · exact ih (fun y hy => hword y (List.mem_cons_of_mem _ hy)) d hd

/-! ## Characters -/

/-- The run of the plain capital letters. -/
def capitalRun : CaseRun := ⟨0x41, 0x5A, 1, 0x61⟩

/-- The run of the Kelvin sign. -/
def kelvinRun : CaseRun := ⟨0x212A, 0x212A, 1, 0x6B⟩

/-- A run yields no plain character, nor a number that is none of a character. -/
def CaseRun.StaysFar (r : CaseRun) : Prop :=
  0x80 ≤ r.image ∧ (r.image + (r.last - r.first) < 0xD800 ∨ 0xE000 ≤ r.image ∧ r.image + (r.last - r.first) < 0x110000)

instance (r : CaseRun) : Decidable r.StaysFar := inferInstanceAs (Decidable (_ ∧ _))

theorem lowerRuns_eq : lowerRuns = capitalRun :: lowerRuns.tail := rfl

theorem far_of_mem_tail : ∀ r ∈ lowerRuns.tail, 0x80 ≤ r.first ∧ (r = kelvinRun ∨ r.StaysFar) := by decide +kernel

theorem CaseRun.image?_eq_some {r : CaseRun} {n m : Nat} (h : r.image? n = some m) :
    r.first ≤ n ∧ n ≤ r.last ∧ m = r.image + (n - r.first) := by
  unfold image? at h
  split at h
  next hin =>
    cases h
    exact ⟨hin.1, hin.2.1, rfl⟩
  next => cases h

theorem CaseRun.StaysFar.not_isPlain {r : CaseRun} (h : r.StaysFar) {n m : Nat} (hm : r.image? n = some m) :
    ¬ IsPlain (Char.ofNat m) := by
  obtain ⟨hfirst, hlast, rfl⟩ := image?_eq_some hm
  obtain ⟨himage, hrange⟩ := h
  have hvalid : (r.image + (n - r.first)).isValidChar := by
    rcases hrange with hlow | ⟨hhigh, hend⟩
    · exact .inl (by omega)
    · exact .inr ⟨by omega, by omega⟩
  rw [IsPlain, Char.ofNat, dif_pos hvalid]
  exact Nat.not_lt.2 (Nat.le_add_right_of_le himage)

/-- The image of a character that no longer image is given for. -/
theorem lowerChar_eq (c : Char) (h : c ≠ 'İ') :
    lowerChar c = [Char.ofNat ((lowerRuns.findSome? (·.image? c.toNat)).getD c.toNat)] := by
  have hne : (c.toNat == 0x130) = false := by
    rw [beq_eq_false_iff_ne]
    exact fun he => h (Char.toNat_inj.1 he)
  rw [lowerChar, caseImage, lowerSpecial, List.lookup_cons, hne]
  rfl

/-- A plain character has the plain lower case. -/
theorem lowerChar_of_isPlain {c : Char} (hc : IsPlain c) : lowerChar c = [c.toLower] := by
  have hdotted : c ≠ 'İ' := fun he => absurd (he ▸ hc) (by decide)
  have htail : lowerRuns.tail.findSome? (·.image? c.toNat) = none := by
    refine List.findSome?_eq_none_iff.2 fun r hr => ?_
    cases hm : r.image? c.toNat with
    | none => rfl
    | some m =>
      have hfirst := (CaseRun.image?_eq_some hm).1
      have hfar := (far_of_mem_tail r hr).1
      rw [IsPlain] at hc
      omega
  have hcapital : ∀ n < 0x80, Char.ofNat ((capitalRun.image? n).getD n) = (Char.ofNat n).toLower := by decide +kernel
  have hlower := hcapital c.toNat hc
  rw [Char.ofNat_toNat] at hlower
  rw [lowerChar_eq c hdotted, lowerRuns_eq, List.findSome?_cons, htail, ← hlower]
  cases capitalRun.image? c.toNat <;> rfl

/-- Of the characters that are not plain only the Kelvin sign has an image that ends in a plain character. -/
theorem eq_kelvin {c x : Char} (hc : ¬ IsPlain c) (hx : IsPlain x) (h : (lowerChar c).getLast? = some x) :
    c = '\u212A' ∧ x = 'k' := by
  by_cases hdotted : c = 'İ'
  · have hlast : (lowerChar 'İ').getLast? = some '\u0307' := by decide +kernel
    rw [hdotted, hlast] at h
    cases h
    exact absurd hx (by decide)
  · rw [lowerChar_eq c hdotted, List.getLast?_singleton, Option.some.injEq] at h
    cases hfound : lowerRuns.findSome? (·.image? c.toNat) with
    | none =>
      rw [hfound, Option.getD_none, Char.ofNat_toNat] at h
      exact absurd (h ▸ hx) hc
    | some m =>
      rw [hfound, Option.getD_some] at h
      obtain ⟨r, hr, hm⟩ := List.exists_of_findSome?_eq_some hfound
      obtain ⟨hfirst, hlast, rfl⟩ := CaseRun.image?_eq_some hm
      rw [lowerRuns_eq, List.mem_cons] at hr
      rcases hr with rfl | hr
      · exact absurd (Nat.lt_of_le_of_lt hlast (by decide)) hc
      · rcases (far_of_mem_tail r hr).2 with rfl | hfar
        · have hkelvin : c = '\u212A' := Char.toNat_inj.1 (Nat.le_antisymm hlast hfirst)
          subst hkelvin
          exact ⟨rfl, h.symm⟩
        · rw [← h] at hx
          exact absurd hx (hfar.not_isPlain hm)

theorem mem_spellings_of_getLast? {c x : Char} (hx : IsPlain x) (h : (lowerChar c).getLast? = some x) : c ∈ spellings x := by
  by_cases hc : IsPlain c
  · rw [lowerChar_of_isPlain hc, List.getLast?_singleton, Option.some.injEq] at h
    have hall : ∀ n < 0x80, Char.ofNat n ∈ spellings (Char.ofNat n).toLower := by decide +kernel
    have hmem := hall c.toNat hc
    rwa [Char.ofNat_toNat, h] at hmem
  · obtain ⟨rfl, rfl⟩ := eq_kelvin hc hx h
    simp [spellings]

theorem lowerChar_of_mem_spellings {c x : Char} (hx : IsPlain x) (h : c ∈ spellings x) : lowerChar c = [x] := by
  have hall : ∀ n < 0x80, (spellings (Char.ofNat n)).all fun c =>
      c = '\u212A' ∧ Char.ofNat n = 'k' ∨ IsPlain c ∧ c.toLower = Char.ofNat n := by decide +kernel
  have hcase := hall x.toNat hx
  rw [Char.ofNat_toNat, List.all_eq_true] at hcase
  rcases of_decide_eq_true (hcase c h) with ⟨rfl, rfl⟩ | ⟨hc, rfl⟩
  · decide +kernel
  · exact lowerChar_of_isPlain hc

/-- A character has a plain one as its lower case exactly if it is one of its spellings. -/
theorem lowerChar_eq_iff {c x : Char} (hx : IsPlain x) : lowerChar c = [x] ↔ c ∈ spellings x :=
  ⟨fun h => mem_spellings_of_getLast? hx (by rw [h, List.getLast?_singleton]), lowerChar_of_mem_spellings hx⟩

/-- A plain character that is its own lower case spells itself alone. -/
theorem Spells.not_mem {s word : List Char} (h : Spells s word) (hword : ∀ x ∈ word, IsPlain x) {c : Char} (hc : IsPlain c)
    (hlower : c.toLower = c) (hout : c ∉ word) : c ∉ s := by
  refine fun hmem => h.forall (P := (· ≠ c)) ?_ c hmem rfl
  rintro x hx _ hspelled rfl
  have himage := lowerChar_of_mem_spellings (hword x hx) hspelled
  rw [lowerChar_of_isPlain hc, hlower] at himage
  exact hout ((List.cons.inj himage).1 ▸ hx)

/-! ## Texts -/

/-- What a character becomes in a text, before the rest of the text: where a plain character is at the end of it, that is
all of it, and the character is one of its spellings. -/
theorem lowerAfter_cons (before : List Char) (c : Char) (rest : List Char) :
    ∃ image, lowerAfter before (c :: rest) = image ++ lowerAfter (c :: before) rest ∧ image ≠ [] ∧
      ∀ x, IsPlain x → (image.getLast? = some x → c ∈ spellings x) ∧ (c ∈ spellings x → image = [x]) := by
  rw [lowerAfter]
  split
  next hsigma =>
    -- neither form of the small sigma is plain, and the capital one is no spelling
    refine ⟨[if meetsCased before && !meetsCased rest then 'ς' else 'σ'], rfl, List.cons_ne_nil _ _, fun x hx => ⟨fun h => ?_, fun h => ?_⟩⟩
    · rw [List.getLast?_singleton, Option.some.injEq] at h
      subst h
      revert hx
      split <;> exact fun hx => absurd hx (by decide)
    · rw [hsigma, ← lowerChar_eq_iff hx] at h
      have himage : lowerChar 'Σ' = ['σ'] := by decide +kernel
      rw [himage] at h
      cases h
      exact absurd hx (by decide)
  next =>
    refine ⟨lowerChar c, rfl, ?_, fun x hx => ⟨mem_spellings_of_getLast? hx, lowerChar_of_mem_spellings hx⟩⟩
    by_cases hdotted : c = 'İ'
    · rw [hdotted]
      decide +kernel
    · rw [lowerChar_eq c hdotted]
      exact List.cons_ne_nil _ _

/-- A text whose lower case is a plain word spells it, wherever it stands. -/
theorem lowerAfter_eq_iff {s word : List Char} (before : List Char) (hword : ∀ x ∈ word, IsPlain x) :
    lowerAfter before s = word ↔ Spells s word := by
  unfold Spells
  induction s generalizing before word with
  | nil =>
    rw [lowerAfter, List.forall₂_nil_left_iff]
    exact eq_comm
  | cons c rest ih =>
    obtain ⟨image, happend, hne, himage⟩ := lowerAfter_cons before c rest
    rw [happend]
    constructor
    · intro h
      obtain ⟨x, hlast⟩ := Option.ne_none_iff_exists'.1 (mt List.getLast?_eq_none_iff.1 hne)
      have hx : IsPlain x := hword x (h ▸ List.mem_append_left _ (List.mem_of_getLast? hlast))
      have hmem := (himage x hx).1 hlast
      rw [(himage x hx).2 hmem, List.singleton_append] at h
      subst h
      exact .cons hmem ((ih (c :: before) fun y hy => hword y (List.mem_cons_of_mem _ hy)).1 rfl)
    · intro h
      cases h with
      | @cons _ x _ word hmem hrest =>
        have hx : IsPlain x := hword x List.mem_cons_self
        rw [(himage x hx).2 hmem, (ih (c :: before) fun y hy => hword y (List.mem_cons_of_mem _ hy)).2 hrest]
        rfl

theorem lower_eq_iff {s word : String} (hword : ∀ x ∈ word.toList, IsPlain x) :
    lower s = word ↔ Spells s.toList word.toList := by
  rw [lower, ← String.toList_inj, String.toList_ofList, lowerAfter_eq_iff [] hword]

/-- What stands at the end of a text becomes the end of its lower case. -/
theorem lowerAfter_append (before front back : List Char) :
    lowerAfter (front.reverse ++ before) back <:+ lowerAfter before (front ++ back) := by
  induction front generalizing before with
  | nil => exact List.suffix_rfl
  | cons c front ih =>
    obtain ⟨image, happend, -⟩ := lowerAfter_cons before c (front ++ back)
    rw [List.cons_append, happend, List.reverse_cons, List.append_assoc]
    exact (ih (c :: before)).trans (List.suffix_append _ _)

/-- The lower case of a text ends with a plain word exactly if the text ends with a spelling of it. -/
theorem suffix_lowerAfter_iff {s word : List Char} (before : List Char) (hword : ∀ x ∈ word, IsPlain x) :
    word <:+ lowerAfter before s ↔ ∃ front back, s = front ++ back ∧ Spells back word := by
  constructor
  · intro h
    induction s generalizing before with
    | nil =>
      rw [lowerAfter, List.suffix_nil] at h
      exact ⟨[], [], rfl, h ▸ .nil⟩
    | cons c rest ih =>
      obtain ⟨image, happend, -, himage⟩ := lowerAfter_cons before c rest
      have hlater : word <:+ lowerAfter (c :: before) rest → ∃ front back, c :: rest = front ++ back ∧ Spells back word := by
        intro hrest
        obtain ⟨front, back, rfl, hback⟩ := ih (c :: before) hrest
        exact ⟨c :: front, back, rfl, hback⟩
      obtain ⟨start, hstart⟩ := h
      rw [happend] at hstart
      -- a word that begins within the image holds the end of it, and then the image is one plain character
      obtain ⟨part, rfl, hwhole⟩ | ⟨more, -, hrest⟩ := List.append_eq_append_iff.1 hstart
      · cases hpart : part.getLast? with
        | none =>
          rw [List.getLast?_eq_none_iff.1 hpart, List.nil_append] at hwhole
          exact hlater (hwhole ▸ List.suffix_rfl)
        | some x =>
          have hx : IsPlain x := hword x (hwhole ▸ List.mem_append_left _ (List.mem_of_getLast? hpart))
          have hlast : (start ++ part).getLast? = some x := by rw [List.getLast?_append, hpart, Option.some_or]
          have hone := (himage x hx).2 ((himage x hx).1 hlast)
          have hstart : start = [] := by
            rcases List.append_eq_singleton_iff.1 hone with ⟨hnil, -⟩ | ⟨-, hnil⟩
            · exact hnil
            · rw [hnil] at hpart
              cases hpart
          rw [hstart, List.nil_append, ← hwhole] at happend
          exact ⟨[], c :: rest, rfl, (lowerAfter_eq_iff before hword).1 happend⟩
      · exact hlater ⟨more, hrest.symm⟩
  · rintro ⟨front, back, rfl, hback⟩
    rw [← (lowerAfter_eq_iff (front.reverse ++ before) hword).2 hback]
    exact lowerAfter_append before front back

end ApkReport.Text
