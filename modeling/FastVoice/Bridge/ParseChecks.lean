import FastVoice.Bridge.ParseCode
import FastVoice.Runtime.Outcome

/-! # Checked data

What `_validate_data` accepts, and what it makes of it.
-/
namespace FastVoice.Bridge
open Python Workflows Outcome

variable {F : Type}

structure Conforms (py : Interpreter F) (node : ParsedNode F) : Prop where
  known : ∀ field ∈ node.data, field.1 ∈ (nodeProperties py node.type).map PropertySpec.name
  required : ∀ prop ∈ nodeProperties py node.type, prop.required = true →
    prop.name ∈ node.data.map Prod.fst
  passes : ∀ field ∈ node.data, ∀ prop ∈ nodeProperties py node.type, prop.name = field.1 →
    propertyError py prop field.2 = .ok none

def PropertySpec.effective (prop : PropertySpec F) (data : Fields F) : Option (Value F) :=
  match data.lookup prop.name with
  | some value => some value
  | none => if prop.default.isNone then none else some prop.default

def filled (properties : List (PropertySpec F)) (data : Fields F) : Fields F :=
  properties.filterMap fun prop => (prop.effective data).map (prop.name, ·)

section Data

variable {py : Interpreter F}

theorem filled_cons_some {prop : PropertySpec F} {properties : List (PropertySpec F)} {data : Fields F}
    {value : Value F} (h : prop.effective data = some value) :
    filled (prop :: properties) data = (prop.name, value) :: filled properties data := by
  rw [filled, List.filterMap_cons_some (by rw [h, Option.map_some])]
  rfl

theorem filled_cons_none {prop : PropertySpec F} {properties : List (PropertySpec F)} {data : Fields F}
    (h : prop.effective data = none) : filled (prop :: properties) data = filled properties data := by
  rw [filled, List.filterMap_cons_none (by rw [h, Option.map_none])]
  rfl

theorem mem_filled_iff {properties : List (PropertySpec F)} {data : Fields F} {field : String × Value F} :
    field ∈ filled properties data ↔
      ∃ prop ∈ properties, prop.name = field.1 ∧ prop.effective data = some field.2 := by
  obtain ⟨name, value⟩ := field
  simp only [filled, List.mem_filterMap, Option.map_eq_some_iff, Prod.mk.injEq]
  constructor
  · rintro ⟨prop, hProp, given, hGiven, rfl, rfl⟩
    exact ⟨prop, hProp, rfl, hGiven⟩
  · rintro ⟨prop, hProp, hName, hValue⟩
    exact ⟨prop, hProp, value, hValue, hName, rfl⟩

theorem withDefaults_eq_ok_iff {data result : Fields F} {properties : List (PropertySpec F)} :
    withDefaults py data properties = .ok result ↔
      (∀ prop ∈ properties, prop.required = true → (prop.effective data).isSome = true) ∧
        result = filled properties data := by
  induction properties generalizing result with
  | nil =>
    constructor
    · rintro ⟨⟩
      exact ⟨fun _ h => absurd h List.not_mem_nil, rfl⟩
    · rintro ⟨-, rfl⟩
      rfl
  | cons prop properties ih =>
    have hSome : ∀ value, prop.effective data = some value →
        ((withDefaults py data properties).map ((prop.name, value) :: ·) = .ok result ↔
          (∀ other ∈ prop :: properties, other.required = true → (other.effective data).isSome = true) ∧
            result = filled (prop :: properties) data) := by
      intro value hValue
      rw [map_eq_ok_iff, List.forall_mem_cons, filled_cons_some hValue, hValue]
      constructor
      · rintro ⟨rest, hRest, rfl⟩
        obtain ⟨hRequired, rfl⟩ := ih.mp hRest
        exact ⟨⟨fun _ => rfl, hRequired⟩, rfl⟩
      · rintro ⟨⟨-, hRequired⟩, rfl⟩
        exact ⟨_, ih.mpr ⟨hRequired, rfl⟩, rfl⟩
    rw [withDefaults]
    split
    · rename_i value hGiven
      exact hSome value (by rw [PropertySpec.effective, hGiven])
    · rename_i hGiven
      split
      · rename_i hDefault
        have hNone : prop.effective data = none := by
          rw [PropertySpec.effective, hGiven]
          exact if_pos hDefault
        split
        · rename_i hRequired
          simp [hNone, hRequired]
        · rename_i hOptional
          rw [ih, List.forall_mem_cons, filled_cons_none hNone]
          simp [hOptional]
      · rename_i hDefault
        refine hSome prop.default ?_
        rw [PropertySpec.effective, hGiven]
        exact if_neg hDefault

theorem find?_property {properties : List (PropertySpec F)}
    (hNodup : (properties.map PropertySpec.name).Nodup) {prop : PropertySpec F}
    (hProp : prop ∈ properties) : properties.find? (·.name = prop.name) = some prop := by
  have hSome : (properties.find? (·.name = prop.name)).isSome = true :=
    List.find?_isSome.mpr ⟨prop, hProp, decide_eq_true rfl⟩
  obtain ⟨found, hFound⟩ := Option.isSome_iff_exists.mp hSome
  have hName : found.name = prop.name := by simpa using List.find?_some hFound
  rw [hFound, List.inj_on_of_nodup_map hNodup (List.mem_of_find?_eq_some hFound) hProp hName]

theorem firstFieldError_eq_none_iff {properties : List (PropertySpec F)}
    (hNodup : (properties.map PropertySpec.name).Nodup) {data : Fields F} :
    firstFieldError py properties data = .ok none ↔ ∀ field ∈ data, ∀ prop ∈ properties,
      prop.name = field.1 → propertyError py prop field.2 = .ok none := by
  induction data with
  | nil => exact ⟨fun _ _ h => absurd h List.not_mem_nil, fun _ => rfl⟩
  | cons field data ih =>
    obtain ⟨name, value⟩ := field
    rw [firstFieldError, List.forall_mem_cons, ← ih]
    split
    · rename_i hNone
      rw [List.find?_eq_none] at hNone
      exact (and_iff_right fun prop hProp hName => absurd (decide_eq_true hName) (hNone prop hProp)).symm
    · rename_i found hFound
      have hOnly : (∀ prop ∈ properties, prop.name = name → propertyError py prop value = .ok none) ↔
          propertyError py found value = .ok none := by
        have hName : found.name = name := by simpa using List.find?_some hFound
        refine ⟨fun h => h found (List.mem_of_find?_eq_some hFound) hName, fun h prop hProp hProp' => ?_⟩
        rw [← hProp', find?_property hNodup hProp] at hFound
        rwa [Option.some.inj hFound]
      rw [hOnly, bind_eq_ok_iff]
      constructor
      · rintro ⟨verdict, hVerdict, hRest⟩
        cases verdict with
        | some message => cases hRest
        | none => exact ⟨hVerdict, hRest⟩
      · rintro ⟨hVerdict, hRest⟩
        exact ⟨none, hVerdict, hRest⟩

theorem validateData_eq_ok_iff {properties : List (PropertySpec F)}
    (hNodup : (properties.map PropertySpec.name).Nodup) {data result : Fields F} :
    validateData py properties data = .ok (.ok result) ↔
      (∀ field ∈ data, field.1 ∈ properties.map PropertySpec.name) ∧
      (∀ prop ∈ properties, prop.required = true → (prop.effective data).isSome = true) ∧
      (∀ prop ∈ properties, ∀ value, prop.effective data = some value →
        propertyError py prop value = .ok none) ∧ result = filled properties data := by
  have hChecks : firstFieldError py properties (filled properties data) = .ok none ↔
      ∀ prop ∈ properties, ∀ value, prop.effective data = some value →
        propertyError py prop value = .ok none := by
    rw [firstFieldError_eq_none_iff hNodup]
    constructor
    · intro h prop hProp value hValue
      exact h (prop.name, value) (mem_filled_iff.mpr ⟨prop, hProp, rfl, hValue⟩) prop hProp rfl
    · intro h field hField prop hProp hName
      obtain ⟨other, hOther, hOtherName, hValue⟩ := mem_filled_iff.mp hField
      rw [List.inj_on_of_nodup_map hNodup hOther hProp (hOtherName.trans hName.symm)] at hValue
      exact h prop hProp field.2 hValue
  rw [validateData]
  split
  · rename_i hUnknown
    have hKnown : ∀ field ∈ data, field.1 ∈ properties.map PropertySpec.name := by
      simpa using hUnknown
    rw [and_iff_right hKnown, ← hChecks]
    cases hFilled : withDefaults py data properties with
    | error message =>
      refine ⟨fun h => (by cases h), fun h => ?_⟩
      rw [withDefaults_eq_ok_iff.mpr ⟨h.1, rfl⟩] at hFilled
      cases hFilled
    | ok whole =>
      obtain ⟨hRequired, rfl⟩ := withDefaults_eq_ok_iff.mp hFilled
      rw [and_iff_right hRequired]
      show (firstFieldError py properties (filled properties data) >>= _) = _ ↔ _
      rw [bind_eq_ok_iff]
      constructor
      · rintro ⟨verdict, hVerdict, hRest⟩
        cases verdict with
        | some message => cases hRest
        | none =>
          cases hRest
          exact ⟨hVerdict, rfl⟩
      · rintro ⟨hVerdict, rfl⟩
        exact ⟨none, hVerdict, rfl⟩
  · rename_i unknown hUnknown
    refine ⟨fun h => (by cases h), fun h => absurd ?_ hUnknown⟩
    simpa using h.1

theorem conforms_of_validateData {node : ParsedNode F} {data : Fields F}
    (h : validateData py (nodeProperties py node.type) node.data = .ok (.ok data)) :
    Conforms py { node with data := data } := by
  have hNodup := nodup_properties py node.type
  obtain ⟨hKnown, hRequired, hPasses, rfl⟩ := (validateData_eq_ok_iff hNodup).mp h
  constructor
  · intro field hField
    obtain ⟨prop, hProp, hName, -⟩ := mem_filled_iff.mp hField
    exact List.mem_map.mpr ⟨prop, hProp, hName⟩
  · intro prop hProp hNeeded
    obtain ⟨value, hValue⟩ := Option.isSome_iff_exists.mp (hRequired prop hProp hNeeded)
    exact List.mem_map.mpr ⟨(prop.name, value), mem_filled_iff.mpr ⟨prop, hProp, rfl, hValue⟩, rfl⟩
  · intro field hField prop hProp hName
    obtain ⟨other, hOther, hOtherName, hValue⟩ := mem_filled_iff.mp hField
    rw [List.inj_on_of_nodup_map hNodup hOther hProp (hOtherName.trans hName.symm)] at hValue
    exact hPasses prop hProp field.2 hValue

theorem addChecked_eq_ok_iff {node : ParsedNode F} {checked : Except String (Fields F)}
    {rest : Except (List ErrorItem) (List (ParsedNode F))} {nodes : List (ParsedNode F)} :
    addChecked node checked rest = .ok nodes ↔ ∃ data validated, checked = .ok data ∧
      rest = .ok validated ∧ nodes = { node with data := data } :: validated := by
  cases checked with
  | ok data =>
    cases rest with
    | ok validated => simp [addChecked, eq_comm]
    | error errors => simp [addChecked]
  | error message =>
    cases rest with
    | ok validated => simp [addChecked]
    | error errors => simp [addChecked]

theorem validateNodes_cons_iff {node : ParsedNode F} {nodes : List (ParsedNode F)}
    {result : Except (List ErrorItem) (List (ParsedNode F))} :
    validateNodes py (node :: nodes) = .ok result ↔ ∃ checked rest,
      validateData py (nodeProperties py node.type) node.data = .ok checked ∧
      validateNodes py nodes = .ok rest ∧ result = addChecked node checked rest := by
  simp only [validateNodes, bind_eq_ok_iff, pure, Except.pure, Except.ok.injEq]
  constructor
  · rintro ⟨checked, hChecked, rest, hRest, rfl⟩
    exact ⟨checked, rest, hChecked, hRest, rfl⟩
  · rintro ⟨checked, rest, hChecked, hRest, rfl⟩
    exact ⟨checked, hChecked, rest, hRest, rfl⟩

theorem validateNodes_eq_ok_iff {nodes validated : List (ParsedNode F)} :
    validateNodes py nodes = .ok (.ok validated) ↔ List.Forall₂ (fun node checked => ∃ data,
      validateData py (nodeProperties py node.type) node.data = .ok (.ok data) ∧
        checked = { node with data := data }) nodes validated := by
  induction nodes generalizing validated with
  | nil =>
    rw [List.forall₂_nil_left_iff, validateNodes]
    exact ⟨fun h => (by cases h; rfl), fun h => (by rw [h])⟩
  | cons node nodes ih =>
    rw [validateNodes_cons_iff]
    constructor
    · rintro ⟨checked, rest, hChecked, hRest, hResult⟩
      obtain ⟨data, later, rfl, rfl, rfl⟩ := addChecked_eq_ok_iff.mp hResult.symm
      exact .cons ⟨data, hChecked, rfl⟩ (ih.mp hRest)
    · rintro (_ | ⟨⟨data, hChecked, rfl⟩, hRest⟩)
      exact ⟨_, _, hChecked, ih.mpr hRest, rfl⟩

theorem validateNodes_spec {nodes validated : List (ParsedNode F)}
    (h : validateNodes py nodes = .ok (.ok validated)) :
    validated.map ParsedNode.id = nodes.map ParsedNode.id ∧ ∀ node ∈ validated, Conforms py node := by
  induction validateNodes_eq_ok_iff.mp h with
  | nil => exact ⟨rfl, fun _ h => absurd h List.not_mem_nil⟩
  | cons hFirst hRest ih =>
    obtain ⟨data, hChecked, rfl⟩ := hFirst
    obtain ⟨hIds, hConforms⟩ := ih (validateNodes_eq_ok_iff.mpr hRest)
    exact ⟨by rw [List.map_cons, List.map_cons, hIds],
      List.forall_mem_cons.mpr ⟨conforms_of_validateData hChecked, hConforms⟩⟩

theorem validateNodes_errors {nodes : List (ParsedNode F)} {errors : List ErrorItem}
    (h : validateNodes py nodes = .ok (.error errors)) : errors ≠ [] := by
  induction nodes generalizing errors with
  | nil => cases h
  | cons node nodes ih =>
    obtain ⟨checked, rest, hChecked, hRest, hResult⟩ := validateNodes_cons_iff.mp h
    match checked, rest, hResult with
    | .ok data, .error later, hResult =>
      cases hResult
      exact ih hRest
    | .error message, .ok later, hResult =>
      cases hResult
      exact List.cons_ne_nil _ _
    | .error message, .error later, hResult =>
      cases hResult
      exact List.cons_ne_nil _ _

theorem validateNodes_valid_iff {nodes : List (ParsedNode F)} :
    (∃ validated, validateNodes py nodes = .ok (.ok validated)) ↔ ∀ node ∈ nodes,
      ∃ data, validateData py (nodeProperties py node.type) node.data = .ok (.ok data) := by
  simp only [validateNodes_eq_ok_iff]
  induction nodes with
  | nil => exact ⟨fun _ _ h => absurd h List.not_mem_nil, fun _ => ⟨[], .nil⟩⟩
  | cons node nodes ih =>
    rw [List.forall_mem_cons, ← ih]
    constructor
    · rintro ⟨_, _ | ⟨⟨data, hChecked, -⟩, hRest⟩⟩
      exact ⟨⟨data, hChecked⟩, _, hRest⟩
    · rintro ⟨⟨data, hChecked⟩, validated, hRest⟩
      exact ⟨_, .cons ⟨data, hChecked, rfl⟩ hRest⟩

theorem validateNodes_returns {nodes : List (ParsedNode F)} :
    (∃ result, validateNodes py nodes = .ok result) ↔ ∀ node ∈ nodes,
      ∃ checked, validateData py (nodeProperties py node.type) node.data = .ok checked := by
  induction nodes with
  | nil => exact ⟨fun _ _ h => absurd h List.not_mem_nil, fun _ => ⟨_, rfl⟩⟩
  | cons node nodes ih =>
    rw [List.forall_mem_cons, ← ih]
    constructor
    · rintro ⟨result, h⟩
      obtain ⟨checked, rest, hChecked, hRest, -⟩ := validateNodes_cons_iff.mp h
      exact ⟨⟨checked, hChecked⟩, rest, hRest⟩
    · rintro ⟨⟨checked, hChecked⟩, rest, hRest⟩
      exact ⟨_, validateNodes_cons_iff.mpr ⟨checked, rest, hChecked, hRest, rfl⟩⟩

end Data

end FastVoice.Bridge
