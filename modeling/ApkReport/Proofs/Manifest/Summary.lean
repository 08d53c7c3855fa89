/-
Each child of a manifest adds to the summary on its own (`summary_additive`). A child adds one
permission or one feature at most, by its own tag and attributes: the attribute in the
platform's namespace hides the one in none, even if it is empty. A feature is optional if it
says `false`, in any case of its letters, which are the plain ones only.
-/
import ApkReport.Proofs.Inspection.Normalisation
import ApkReport.Proofs.Manifest.Views
import ApkReport.Proofs.Text.LowerCase

namespace ApkReport

open Text

namespace Element

/-! ## Attributes -/

/-- The attribute in the platform's namespace has that value, or there is none and the one in no namespace has it. -/
def Reads (e : Element) (name value : String) : Prop :=
  e.attribute? (.android name) = some value ∨
    e.attribute? (.android name) = none ∧ e.attribute? (.plain name) = some value

/-- The characters that may stand in each place of the word `false`. -/
def falseLetters : List (List Char) := [['f', 'F'], ['a', 'A'], ['l', 'L'], ['s', 'S'], ['e', 'E']]

/-- The element says that it is not required. -/
def ReadsFalse (e : Element) : Prop := ∃ value, e.Reads "required" value ∧ List.Forall₂ (· ∈ ·) value.toList falseLetters

variable {e : Element} {name value : String}

theorem androidAttribute?_eq_some_iff : e.androidAttribute? name = some value ↔ e.Reads name value := by
  unfold androidAttribute? Reads
  cases h : e.attribute? (.android name) with
  | some v => simp
  | none => simp

theorem declaredName?_eq_some_iff : e.declaredName? = some name ↔ e.Reads "name" name ∧ name ≠ "" := by
  rw [declaredName?, nonEmpty?_eq_some, androidAttribute?_eq_some_iff]

theorem lower_eq_false_iff : lower value = "false" ↔ List.Forall₂ (· ∈ ·) value.toList falseLetters := by
  have hletters : falseLetters = "false".toList.map spellings := by decide +kernel
  rw [lower_eq_iff (isPlain_of_all (by decide +kernel)), hletters, List.forall₂_map_right_iff, Spells]

/-- A value that is not given, or is empty, requires the feature. -/
theorem isRequired_eq_false_iff : e.isRequired = false ↔ e.ReadsFalse := by
  have htrue : lower "true" ≠ "false" := by decide +kernel
  rw [isRequired, decide_eq_false_iff_not, not_not, ReadsFalse]
  cases h : nonEmpty? (e.androidAttribute? "required") with
  | none =>
    rw [Option.getD_none]
    refine iff_of_false htrue ?_
    rintro ⟨value, hreads, hfalse⟩
    have hempty : value = "" := by
      by_contra hne
      rw [nonEmpty?_eq_some.2 ⟨androidAttribute?_eq_some_iff.2 hreads, hne⟩] at h
      cases h
    subst hempty
    cases hfalse
  | some value =>
    obtain ⟨hvalue, -⟩ := nonEmpty?_eq_some.1 h
    rw [Option.getD_some, lower_eq_false_iff]
    constructor
    · exact fun hfalse => ⟨value, androidAttribute?_eq_some_iff.1 hvalue, hfalse⟩
    · rintro ⟨value', hreads, hfalse⟩
      rw [← androidAttribute?_eq_some_iff, hvalue, Option.some.injEq] at hreads
      exact hreads ▸ hfalse

end Element

/-! ## Children -/

/-- A child of a manifest that asks for a permission. -/
def Xml.Permits (x : Xml) (name : String) : Prop :=
  ∃ e, x = .element e ∧ e.tag = .plain "uses-permission" ∧ e.Reads "name" name ∧ name ≠ ""

/-- A child of a manifest that uses a feature. -/
def Xml.Uses (x : Xml) (f : Feature) : Prop :=
  ∃ e, x = .element e ∧ e.tag = .plain "uses-feature" ∧ e.Reads "name" f.name ∧ f.name ≠ "" ∧
    (f.required = false ↔ e.ReadsFalse)

namespace Element

variable (tag : QName) (attributes : List (QName × String)) (package : Option String)

theorem childrenNamed_append (xs ys : List Xml) (name : QName) :
    (⟨tag, attributes, xs ++ ys⟩ : Element).childrenNamed name =
      (⟨tag, attributes, xs⟩ : Element).childrenNamed name ++ (⟨tag, attributes, ys⟩ : Element).childrenNamed name :=
  List.filterMap_append

theorem childrenNamed_single (x : Xml) (name : QName) :
    (⟨tag, attributes, [x]⟩ : Element).childrenNamed name = (x.element?.filter (·.tag = name)).toList := by
  cases x with
  | element e => by_cases he : e.tag = name <;> simp [childrenNamed, Xml.element?, Option.filter_some, he]
  | comment _ => rfl
  | instruction _ _ => rfl

theorem mem_childrenNamed_single {x : Xml} {name : QName} {e : Element} :
    e ∈ (⟨tag, attributes, [x]⟩ : Element).childrenNamed name ↔ x = .element e ∧ e.tag = name := by
  have helement : x.element? = some e ↔ x = .element e := by cases x <;> simp [Xml.element?]
  rw [childrenNamed_single, Option.mem_toList, Option.filter_eq_some_iff, helement, decide_eq_true_iff]

theorem permissions_append (xs ys : List Xml) :
    (⟨tag, attributes, xs ++ ys⟩ : Element).permissions =
      (⟨tag, attributes, xs⟩ : Element).permissions ++ (⟨tag, attributes, ys⟩ : Element).permissions := by
  rw [permissions, childrenNamed_append, List.filterMap_append, permissions, permissions]

theorem features_append (xs ys : List Xml) :
    (⟨tag, attributes, xs ++ ys⟩ : Element).features =
      (⟨tag, attributes, xs⟩ : Element).features ++ (⟨tag, attributes, ys⟩ : Element).features := by
  rw [features, childrenNamed_append, List.filterMap_append, features, features]

theorem mem_permissions_single {x : Xml} {name : String} :
    name ∈ (⟨tag, attributes, [x]⟩ : Element).permissions ↔ x.Permits name := by
  rw [permissions, List.mem_filterMap]
  simp only [mem_childrenNamed_single, declaredName?_eq_some_iff, and_assoc]
  rfl

theorem mem_features_single {x : Xml} {f : Feature} :
    f ∈ (⟨tag, attributes, [x]⟩ : Element).features ↔ x.Uses f := by
  rw [features, List.mem_filterMap]
  constructor
  · rintro ⟨e, he, hf⟩
    obtain ⟨rfl, htag⟩ := (mem_childrenNamed_single tag attributes).1 he
    obtain ⟨name, hname, rfl⟩ := Option.map_eq_some_iff.1 hf
    obtain ⟨hreads, hne⟩ := declaredName?_eq_some_iff.1 hname
    exact ⟨e, rfl, htag, hreads, hne, isRequired_eq_false_iff⟩
  · rintro ⟨e, rfl, htag, hreads, hne, hrequired⟩
    refine ⟨e, (mem_childrenNamed_single tag attributes).2 ⟨rfl, htag⟩, Option.map_eq_some_iff.2 ⟨f.name, ?_, ?_⟩⟩
    · exact declaredName?_eq_some_iff.2 ⟨hreads, hne⟩
    · have hsame : e.isRequired = f.required := by
        rw [Bool.eq_iff_iff, ← not_iff_not, Bool.not_eq_true, Bool.not_eq_true, isRequired_eq_false_iff, hrequired]
      rw [hsame]

/-- A child cannot be of both tags. -/
theorem length_single_le (x : Xml) :
    (⟨tag, attributes, [x]⟩ : Element).permissions.length + (⟨tag, attributes, [x]⟩ : Element).features.length ≤ 1 := by
  rw [permissions, features, childrenNamed_single, childrenNamed_single]
  refine Nat.le_trans (Nat.add_le_add (List.length_filterMap_le _ _) (List.length_filterMap_le _ _)) ?_
  cases x.element? with
  | none => exact Nat.zero_le _
  | some e =>
    rw [Option.filter_some, Option.filter_some]
    by_cases he : e.tag = .plain "uses-permission"
    · have hother : QName.plain "uses-permission" ≠ .plain "uses-feature" := by decide
      simp [he, hother]
    · simp only [he, decide_false, Bool.false_eq_true, if_false]
      split <;> simp

end Element

/-- The permissions and features of a manifest are those of its first children followed by those of its last. One child adds
one item at most: a permission or a feature that it has the tag of, under the name that its own attributes give it. -/
theorem summary_additive (tag : QName) (attributes : List (QName × String)) (package : Option String) :
    let read (children : List Xml) := (⟨tag, attributes, children⟩ : Element).summary package
    (∀ xs ys : List Xml,
      (read (xs ++ ys)).permissions = (read xs).permissions ++ (read ys).permissions ∧
        (read (xs ++ ys)).features = (read xs).features ++ (read ys).features) ∧
      ∀ x : Xml, (read [x]).permissions.length + (read [x]).features.length ≤ 1 ∧
        (∀ name, name ∈ (read [x]).permissions ↔ x.Permits name) ∧ ∀ f, f ∈ (read [x]).features ↔ x.Uses f := by
  intro read
  refine ⟨fun xs ys => ⟨?_, ?_⟩, fun x => ⟨?_, fun name => ?_, fun f => ?_⟩⟩
  · exact Element.permissions_append tag attributes xs ys
  · exact Element.features_append tag attributes xs ys
  · exact Element.length_single_le tag attributes x
  · exact Element.mem_permissions_single tag attributes
  · exact Element.mem_features_single tag attributes

end ApkReport
