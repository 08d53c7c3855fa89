/-
The list of results as JSON loses nothing: it is read back as one object for each result, in their
order, and the object shows all that the result holds (`InspectionResult.ofJson?`).
-/
import ApkReport.Proofs.Json.ReadBack
import ApkReport.Proofs.Report.Items
import ApkReport.Report.Json

namespace ApkReport

/-! ## Values -/

namespace Json

def text? : Json → Option String
  | .string s => some s
  | _ => none

def flag? : Json → Option Bool
  | .bool b => some b
  | _ => none

def items? : Json → Option (List Json)
  | .array items => some items
  | _ => none

/-- A text, or null in its place. -/
def optionalText? : Json → Option (Option String)
  | .null => some none
  | v => v.text?.map some

/-- A list of texts. -/
def texts? (v : Json) : Option (List String) := v.items?.bind (·.mapM text?)

theorem texts?_strings (items : List String) : (Json.array (items.map .string)).texts? = some items := by
  have htext : ∀ s, text? (.string s) = some s := fun _ => rfl
  rw [texts?, items?, Option.bind_some, mapM_map_of_read htext]

theorem Numberless.strings (items : List String) : Numberless (.array (items.map .string)) := by
  refine .array fun v hv => ?_
  obtain ⟨s, -, rfl⟩ := List.mem_map.1 hv
  exact .string s

end Json

/-! ## Results -/

/-- The feature that an object describes, whatever the order of its members. -/
def Feature.ofJson? (v : Json) : Option Feature := do
  let name ← (← v.member? "name").text?
  let required ← (← v.member? "required").flag?
  return { name, required }

/-- The result that an object describes, whatever the order of its members. -/
def InspectionResult.ofJson? (v : Json) : Option InspectionResult := do
  let filePath ← (← v.member? "filePath").text?
  let packageName ← (← v.member? "packageName").optionalText?
  let permissions ← (← v.member? "permissions").texts?
  let features ← (← (← v.member? "usesFeatures").items?).mapM Feature.ofJson?
  let hardwareApis ← (← v.member? "hardwareApis").texts?
  let queriedPackages ← (← v.member? "queriedPackages").texts?
  let queriedIntents ← (← v.member? "queriedIntents").texts?
  let queriedProviders ← (← v.member? "queriedProviders").texts?
  return { filePath, packageName, permissions, features, hardwareApis, queriedPackages, queriedIntents, queriedProviders }

theorem Feature.ofJson?_toJson (f : Feature) : ofJson? f.toJson = some f := by
  simp [ofJson?, toJson, Json.member?, List.lookup_cons, Json.text?, Json.flag?]

theorem InspectionResult.ofJson?_toJson (r : InspectionResult) : ofJson? r.toJson = some r := by
  obtain ⟨filePath, packageName, permissions, features, hardwareApis, packages, intents, providers⟩ := r
  have hfeatures : (features.map Feature.toJson).mapM Feature.ofJson? = some features :=
    mapM_map_of_read Feature.ofJson?_toJson _
  cases packageName <;>
    simp [ofJson?, toJson, Json.member?, List.lookup_cons, Json.text?, Json.optionalText?, Json.items?, Json.texts?_strings,
      hfeatures]

theorem Feature.numberless_toJson (f : Feature) : f.toJson.Numberless := by
  refine .object fun m hm => ?_
  simp only [List.mem_cons, List.not_mem_nil, or_false] at hm
  rcases hm with rfl | rfl
  · exact .string _
  · exact .bool _

theorem InspectionResult.numberless_toJson (r : InspectionResult) : r.toJson.Numberless := by
  refine .object fun m hm => ?_
  simp only [List.mem_cons, List.not_mem_nil, or_false] at hm
  rcases hm with rfl | rfl | rfl | rfl | rfl | rfl | rfl | rfl
  case inl => exact .string _
  case inr.inl =>
    cases r.packageName with
    | none => exact .null
    | some p => exact .string p
  case inr.inr.inr.inl =>
    refine .array fun v hv => ?_
    obtain ⟨f, -, rfl⟩ := List.mem_map.1 hv
    exact f.numberless_toJson
  all_goals exact .strings _

namespace Report

theorem read?_json (results : List InspectionResult) :
    Json.read? (json results) = some (.array (results.map InspectionResult.toJson)) := by
  have hend : ∀ c ∈ "\n".toList, Json.isSpace c = true := List.forall_mem_singleton.2 rfl
  refine Json.Numberless.read?_text (.array fun v hv => ?_) hend
  obtain ⟨r, -, rfl⟩ := List.mem_map.1 hv
  exact r.numberless_toJson

/-- The list is read back as an object for each result, in their order, and each object yields its result with all
fields; so the lists of different results differ. -/
theorem json_lossless :
    (∀ results : List InspectionResult, ∃ objects, Json.read? (json results) = some (.array objects) ∧
      objects.length = results.length ∧ objects.map InspectionResult.ofJson? = results.map some) ∧
    ∀ results results' : List InspectionResult, json results = json results' → results = results' := by
  have hback : ∀ results : List InspectionResult,
      (results.map InspectionResult.toJson).mapM InspectionResult.ofJson? = some results :=
    mapM_map_of_read InspectionResult.ofJson?_toJson
  constructor
  · intro results
    refine ⟨_, read?_json results, List.length_map _, ?_⟩
    rw [List.map_map]
    exact List.map_congr_left fun r _ => r.ofJson?_toJson
  · intro results results' h
    have hobjects : results.map InspectionResult.toJson = results'.map InspectionResult.toJson := by
      have hread := read?_json results
      rw [h, read?_json results'] at hread
      exact (Json.array.inj (Option.some.inj hread)).symm
    have hresults := hback results
    rw [hobjects, hback results'] at hresults
    exact (Option.some.inj hresults).symm

end Report

end ApkReport
