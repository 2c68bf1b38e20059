import Mathlib.Algebra.Order.Ring.Rat
import FastVoice.Python.JsonPaths
import FastVoice.Runtime.Outcome

/-! # Models with typed fields

A model is a class with typed fields, a value of it a dictionary that has a value for each. A dump leaves out what
is `None`. Reading a dump again gives the same values, up to integers in the place of floats, where `None` is the
default of every field that may hold it.
-/
namespace FastVoice.Python
open Json

namespace JsonNumber

def isFloat (n : JsonNumber) : Bool := n.text.any fun c => c = '.' || c = 'e'

def toFloat (n : JsonNumber) : JsonNumber :=
  if n.isFloat then n
  else
    { text := n.text ++ ['.', '0']
      chars := by
        intro c hc
        rcases List.mem_append.mp hc with hc | hc
        · exact n.chars c hc
        · have hAll : ∀ c ∈ ['.', '0'], c ∈ numberChars := Text.forall_of_all (by decide)
          exact hAll c hc
      nonempty := by simp }

theorem toFloat_toFloat (n : JsonNumber) : n.toFloat.toFloat = n.toFloat := by
  have hFloat : n.toFloat.isFloat = true := by
    by_cases h : n.isFloat = true
    · rw [toFloat, if_pos h]
      exact h
    · rw [toFloat, if_neg h]
      simp [isFloat]
  conv_lhs => rw [toFloat, if_pos hFloat]

def digits (text : List Char) : Nat := text.foldl (fun value c => 10 * value + (c.toNat - '0'.toNat)) 0

def unsigned : List Char → List Char
  | '-' :: text => text
  | '+' :: text => text
  | text => text

def value (n : JsonNumber) : ℚ :=
  let mantissa := n.text.takeWhile (· ≠ 'e')
  let exponent := (n.text.dropWhile (· ≠ 'e')).drop 1
  let whole := (unsigned mantissa).takeWhile (· ≠ '.')
  let fraction := ((unsigned mantissa).dropWhile (· ≠ '.')).drop 1
  let magnitude : ℚ := digits (whole ++ fraction) / 10 ^ fraction.length
  let scale : ℚ := 10 ^ digits (unsigned exponent)
  let scaled := if exponent.head? = some '-' then magnitude / scale else magnitude * scale
  if mantissa.head? = some '-' then -scaled else scaled

end JsonNumber

/-- Values that compare equal as numbers are the same. -/
def Json.asFloat : Json → Json
  | .number n => .number n.toFloat
  | value => value

structure FloatRange where
  lower : ℚ
  /-- Whether the lower bound itself is left out. -/
  isOpen : Bool
  upper : ℚ
  deriving DecidableEq

def FloatRange.contains (range : FloatRange) (x : ℚ) : Bool :=
  (if range.isOpen then range.lower < x else range.lower ≤ x) && x ≤ range.upper

inductive FieldType where
  | literal (values : List String)
  | str
  | bool
  | float (range : FloatRange)
  /-- A text, or a list of texts that is not empty. -/
  | texts
  | optional (type : FieldType)
  deriving DecidableEq

namespace FieldType

def admits : FieldType → Json → Bool
  | .literal values, .str s => values.contains s
  | .str, .str _ => true
  | .bool, .bool _ => true
  | .float range, .number n => range.contains n.toFloat.value
  | .texts, .str _ => true
  | .texts, .arr items => !items.isEmpty && items.all fun item => item.text?.isSome
  | .optional _, .null => true
  | .optional type, value => type.admits value
  | _, _ => false

def read : FieldType → Json → Json
  | .float _, value => value.asFloat
  | .optional type, value => type.read value
  | _, value => value

theorem asFloat_read (type : FieldType) (value : Json) : (type.read value).asFloat = value.asFloat := by
  induction type with
  | float range =>
    cases value with
    | number n => exact congrArg Json.number n.toFloat_toFloat
    | _ => rfl
  | optional type ih => exact ih
  | _ => rfl

theorem read_null (type : FieldType) : type.read .null = .null := by
  induction type with
  | optional type ih => exact ih
  | _ => rfl

theorem admits_optional (type : FieldType) (value : Json) :
    (optional type).admits value = true ↔ value = .null ∨ type.admits value = true := by
  cases value with
  | null => simp [admits]
  | _ => simp [admits]

theorem admits_read {type : FieldType} {value : Json} (h : type.admits value = true) :
    type.admits (type.read value) = true := by
  induction type with
  | float range =>
    cases value with
    | number n =>
      change range.contains n.toFloat.toFloat.value = true
      rw [n.toFloat_toFloat]
      exact h
    | _ => exact h
  | optional type ih =>
    change (optional type).admits (type.read value) = true
    obtain rfl | hValue := (admits_optional type value).mp h
    · rw [read_null]
      rfl
    · exact (admits_optional type _).mpr (.inr (ih hValue))
  | _ => exact h

end FieldType

/-- The conversions of a value that is not of the type of its field. -/
structure Conversions where
  convert : FieldType → Json → Option Json
  admits_convert : ∀ type value converted, convert type value = some converted → type.admits converted = true
  parseFloat : String → Option JsonNumber
  message : String

def FieldType.validate (c : Conversions) (type : FieldType) (value : Json) : Option Json :=
  if type.admits value then some (type.read value) else c.convert type value

theorem FieldType.admits_validate {c : Conversions} {type : FieldType} {value validated : Json}
    (h : type.validate c value = some validated) : type.admits validated = true := by
  unfold validate at h
  split at h
  · rename_i hAdmits
    cases h
    exact admits_read hAdmits
  · exact c.admits_convert type value validated h

theorem FieldType.validate_of_admits {c : Conversions} {type : FieldType} {value : Json}
    (h : type.admits value = true) : type.validate c value = some (type.read value) := if_pos h

structure Field where
  name : String
  type : FieldType
  /-- A field without a default is required. -/
  default : Option Json
  deriving DecidableEq

/-- A text that follows from another field: the first of the parts that the text of the field contains. -/
structure ComputedField where
  name : String
  source : String
  parts : List (String × String)
  otherwise : String
  deriving DecidableEq

def ComputedField.value (computed : ComputedField) (values : Json) : Json :=
  match values.get computed.source with
  | .str text =>
    .str (((computed.parts.find? fun part => decide (part.1.toList <:+: text.toList)).map Prod.snd).getD
      computed.otherwise)
  | _ => .str computed.otherwise

/-- The tag is the value of the field that tells the classes of a union apart. -/
structure ModelClass where
  name : String
  tag : String
  fields : List Field
  computed : List ComputedField
  deriving DecidableEq

structure Instance where
  cls : ModelClass
  values : Json

namespace ModelClass

def readField (c : Conversions) (data : Json) (field : Field) : Option (String × Json) :=
  if data.has field.name then (field.type.validate c (data.get field.name)).map (field.name, ·)
  else field.default.map (field.name, ·)

def build (cls : ModelClass) (c : Conversions) (data : Json) : Option Instance :=
  if data.isDict then (cls.fields.mapM (readField c data)).map fun values => ⟨cls, .obj values⟩ else none

structure WellFormed (cls : ModelClass) : Prop where
  names : (cls.fields.map Field.name).Nodup
  defaults : ∀ field ∈ cls.fields, ∀ default ∈ field.default, field.type.admits default = true
  /-- A dump may leave out `None`. -/
  nulls : ∀ field ∈ cls.fields, field.type.admits .null = true → field.default = some .null
  computed : ∀ computed ∈ cls.computed, computed.name ∉ cls.fields.map Field.name

instance (cls : ModelClass) : Decidable cls.WellFormed :=
  decidable_of_iff ((cls.fields.map Field.name).Nodup ∧
      (∀ field ∈ cls.fields, ∀ default ∈ field.default, field.type.admits default = true) ∧
      (∀ field ∈ cls.fields, field.type.admits .null = true → field.default = some .null) ∧
      ∀ computed ∈ cls.computed, computed.name ∉ cls.fields.map Field.name)
    ⟨fun ⟨hNames, hDefaults, hNulls, hComputed⟩ => ⟨hNames, hDefaults, hNulls, hComputed⟩,
      fun h => ⟨h.names, h.defaults, h.nulls, h.computed⟩⟩

end ModelClass

namespace Instance

def get (i : Instance) (name : String) : Json := i.values.get name

/-- `model_copy(update=override)`: nothing is validated. -/
def modelCopy (i : Instance) (override : List (String × Json)) : Instance :=
  ⟨i.cls, override.foldl (fun values entry => values.set entry.1 entry.2) i.values⟩

def dumpField (i : Instance) (field : Field) : Option (String × Json) :=
  match i.get field.name with
  | .null => none
  | value => some (field.name, value)

def modelDump (i : Instance) : Json :=
  .obj (i.cls.fields.filterMap i.dumpField ++
    i.cls.computed.map fun computed => (computed.name, computed.value i.values))

structure Typed (i : Instance) : Prop where
  dict : i.values.isDict = true
  admits : ∀ field ∈ i.cls.fields, field.type.admits (i.get field.name) = true

structure Same (i j : Instance) : Prop where
  cls : i.cls = j.cls
  fields : ∀ field ∈ i.cls.fields, (i.get field.name).asFloat = (j.get field.name).asFloat

end Instance

def discriminator : String := "provider"

def classOf (union : List ModelClass) : Json → Option ModelClass
  | .str tag => union.find? fun cls => cls.tag = tag
  | _ => none

/-- A value that is an instance already is not validated again. -/
def acceptsInstance (union : List ModelClass) (i : Instance) : Bool :=
  classOf union (i.get discriminator) = some i.cls

def validateUnion (union : List ModelClass) (c : Conversions) (data : Json) : Option Instance :=
  (classOf union (data.get discriminator)).bind fun cls => cls.build c data

section Build

variable {c : Conversions} {cls : ModelClass} {data : Json} {i : Instance}

theorem readField_name {field : Field} {entry : String × Json}
    (h : ModelClass.readField c data field = some entry) : entry.1 = field.name := by
  unfold ModelClass.readField at h
  split at h
  · obtain ⟨value, -, rfl⟩ := Option.map_eq_some_iff.mp h
    rfl
  · obtain ⟨value, -, rfl⟩ := Option.map_eq_some_iff.mp h
    rfl

theorem lookup_of_forall₂ {fields : List Field} {entries : List (String × Json)}
    (h : List.Forall₂ (fun field entry => ModelClass.readField c data field = some entry) fields entries)
    (hNames : (fields.map Field.name).Nodup) {field : Field} (hField : field ∈ fields) :
    ∃ value, entries.lookup field.name = some value ∧
      ModelClass.readField c data field = some (field.name, value) := by
  induction h with
  | nil => cases hField
  | @cons first entry fields entries hFirst _ ih =>
    obtain ⟨hNotMem, hNames⟩ := List.nodup_cons.mp hNames
    have hName := readField_name hFirst
    obtain ⟨name, value⟩ := entry
    obtain rfl : name = first.name := hName
    rw [lookup_cons]
    obtain rfl | hField := List.mem_cons.mp hField
    · exact ⟨value, if_pos rfl, hFirst⟩
    · have hNe : field.name ≠ first.name := fun hEq => hNotMem (hEq ▸ List.mem_map_of_mem hField)
      rw [if_neg hNe]
      exact ih hNames hField

theorem build_eq_some (h : cls.build c data = some i) (hNames : (cls.fields.map Field.name).Nodup) :
    i.cls = cls ∧ i.values.isDict = true ∧
      ∀ field ∈ cls.fields, ModelClass.readField c data field = some (field.name, i.get field.name) := by
  unfold ModelClass.build at h
  split at h
  · obtain ⟨entries, hEntries, rfl⟩ := Option.map_eq_some_iff.mp h
    refine ⟨rfl, rfl, fun field hField => ?_⟩
    obtain ⟨value, hValue, hRead⟩ := lookup_of_forall₂ (Outcome.mapM_eq_some_iff.mp hEntries) hNames hField
    rw [hRead]
    change _ = some (field.name, (entries.lookup field.name).getD .null)
    rw [hValue]
    rfl
  · cases h

theorem build_exists (hDict : data.isDict = true) {value : Field → Json}
    (h : ∀ field ∈ cls.fields, ModelClass.readField c data field = some (field.name, value field)) :
    ∃ i, cls.build c data = some i := by
  have hEntries : cls.fields.mapM (ModelClass.readField c data) =
      some (cls.fields.map fun field => (field.name, value field)) := by
    rw [Outcome.mapM_eq_some_iff, List.forall₂_map_right_iff, List.forall₂_same]
    exact h
  exact ⟨_, by rw [ModelClass.build, if_pos hDict, hEntries]; rfl⟩

theorem typed_build (h : cls.build c data = some i) (hClass : cls.WellFormed) : i.Typed := by
  obtain ⟨rfl, hDict, hFields⟩ := build_eq_some h hClass.names
  refine ⟨hDict, fun field hField => ?_⟩
  have hRead := hFields field hField
  unfold ModelClass.readField at hRead
  split at hRead
  · obtain ⟨value, hValue, hEntry⟩ := Option.map_eq_some_iff.mp hRead
    rw [← (Prod.mk.inj hEntry).2]
    exact FieldType.admits_validate hValue
  · obtain ⟨value, hValue, hEntry⟩ := Option.map_eq_some_iff.mp hRead
    rw [← (Prod.mk.inj hEntry).2]
    exact hClass.defaults field hField value hValue

theorem Instance.Typed.modelCopy {override : List (String × Json)} (h : i.Typed)
    (hOverride : ∀ entry ∈ override, ∀ field ∈ i.cls.fields, field.name = entry.1 →
      field.type.admits entry.2 = true) : (i.modelCopy override).Typed := by
  obtain ⟨cls, values⟩ := i
  induction override generalizing values with
  | nil => exact h
  | cons entry override ih =>
    refine ih (values.set entry.1 entry.2) ?_ fun other hOther => hOverride other (List.mem_cons_of_mem _ hOther)
    refine ⟨(isDict_set values entry.1 entry.2).trans h.dict, fun field hField => ?_⟩
    change field.type.admits ((values.set entry.1 entry.2).get field.name) = true
    rw [get_set h.dict]
    split
    · rename_i hName
      exact hOverride entry List.mem_cons_self field hField hName
    · exact h.admits field hField

end Build

section Dump

variable {c : Conversions} {i : Instance}

theorem dumpField_eq (i : Instance) (field : Field) :
    i.dumpField field = if i.get field.name = .null then none else some (field.name, i.get field.name) := by
  unfold Instance.dumpField
  cases i.get field.name <;> rfl

theorem lookup_dumpFields (fields : List Field) (name : String) : (fields.filterMap i.dumpField).lookup name =
    if name ∈ fields.map Field.name ∧ i.get name ≠ .null then some (i.get name) else none := by
  induction fields with
  | nil => simp
  | cons first fields ih =>
    rw [List.filterMap_cons, dumpField_eq]
    by_cases hNull : i.get first.name = .null
    · rw [if_pos hNull, ih]
      by_cases hName : name = first.name
      · simp [hName, hNull]
      · simp [hName]
    · rw [if_neg hNull]
      change List.lookup name ((first.name, i.get first.name) :: _) = _
      rw [lookup_cons, ih]
      by_cases hName : name = first.name
      · simp [hName, hNull]
      · simp [hName]

theorem lookup_modelDump (hClass : i.cls.WellFormed) {field : Field} (hField : field ∈ i.cls.fields) :
    (i.cls.fields.filterMap i.dumpField ++ i.cls.computed.map fun computed =>
        (computed.name, computed.value i.values)).lookup field.name =
      if i.get field.name = .null then none else some (i.get field.name) := by
  have hName : field.name ∈ i.cls.fields.map Field.name := List.mem_map_of_mem hField
  have hComputed : (i.cls.computed.map fun computed => (computed.name, computed.value i.values)).lookup field.name =
      none := by
    rw [List.lookup_eq_none_iff]
    intro entry hEntry
    obtain ⟨computed, hMem, rfl⟩ := List.mem_map.mp hEntry
    have hOther := hClass.computed computed hMem
    refine bne_iff_ne.mpr fun (hEq : field.name = computed.name) => hOther ?_
    rw [← hEq]
    exact hName
  rw [List.lookup_append, hComputed, lookup_dumpFields, Option.or_none]
  by_cases hNull : i.get field.name = .null
  · simp [hNull]
  · simp [hName, hNull]

theorem readField_modelDump (hClass : i.cls.WellFormed) (h : i.Typed) {field : Field} (hField : field ∈ i.cls.fields) :
    ModelClass.readField c i.modelDump field = some (field.name, field.type.read (i.get field.name)) := by
  have hLookup := lookup_modelDump hClass hField
  unfold ModelClass.readField
  change (if (List.lookup field.name _).isSome then
    (field.type.validate c ((List.lookup field.name _).getD .null)).map _ else _) = _
  rw [hLookup]
  by_cases hNull : i.get field.name = .null
  · have hAdmits := h.admits field hField
    rw [hNull] at hAdmits
    rw [if_pos hNull, hNull, FieldType.read_null, hClass.nulls field hField hAdmits]
    rfl
  · rw [if_neg hNull]
    change (field.type.validate c (i.get field.name)).map _ = _
    rw [FieldType.validate_of_admits (h.admits field hField)]
    rfl

theorem build_modelDump (hClass : i.cls.WellFormed) (h : i.Typed) :
    ∃ j, i.cls.build c i.modelDump = some j ∧ i.Same j := by
  obtain ⟨j, hBuilt⟩ := build_exists rfl fun field hField => readField_modelDump hClass h hField
  obtain ⟨hCls, -, hFields⟩ := build_eq_some hBuilt hClass.names
  refine ⟨j, hBuilt, hCls.symm, fun field hField => ?_⟩
  have hRead := hFields field hField
  rw [readField_modelDump hClass h hField] at hRead
  rw [← (Prod.mk.inj (Option.some.inj hRead)).2, FieldType.asFloat_read]

end Dump

structure Discriminated (union : List ModelClass) : Prop where
  wellFormed : ∀ cls ∈ union, cls.WellFormed
  found : ∀ cls ∈ union, union.find? (fun other => other.tag = cls.tag) = some cls
  tagged : ∀ cls ∈ union, ∃ field ∈ cls.fields, field.name = discriminator ∧ field.type = .literal [cls.tag]

section Unions

variable {union : List ModelClass} {c : Conversions} {i : Instance}

theorem Discriminated.tag (h : Discriminated union) (hClass : i.cls ∈ union) (hTyped : i.Typed) :
    i.get discriminator = .str i.cls.tag := by
  obtain ⟨field, hField, hName, hType⟩ := h.tagged i.cls hClass
  have hAdmits := hTyped.admits field hField
  rw [hName, hType] at hAdmits
  cases hTag : i.get discriminator with
  | str tag =>
    rw [hTag] at hAdmits
    simpa [FieldType.admits] using hAdmits
  | _ =>
    rw [hTag] at hAdmits
    cases hAdmits

theorem validateUnion_modelDump (h : Discriminated union) (hClass : i.cls ∈ union) (hTyped : i.Typed) :
    ∃ j, validateUnion union c i.modelDump = some j ∧ i.Same j := by
  have hWellFormed := h.wellFormed i.cls hClass
  have hTag : i.modelDump.get discriminator = .str i.cls.tag := by
    obtain ⟨field, hField, hName, -⟩ := h.tagged i.cls hClass
    have hLookup := lookup_modelDump hWellFormed hField
    rw [hName, h.tag hClass hTyped] at hLookup
    change (List.lookup discriminator _).getD Json.null = _
    rw [hLookup]
    rfl
  obtain ⟨j, hBuilt, hSame⟩ := build_modelDump (c := c) hWellFormed hTyped
  refine ⟨j, ?_, hSame⟩
  rw [validateUnion, hTag]
  change (union.find? fun cls => cls.tag = i.cls.tag).bind _ = _
  rw [h.found i.cls hClass]
  exact hBuilt

end Unions

end FastVoice.Python
