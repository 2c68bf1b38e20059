import FastVoice.Python.Json

/-! # The parts of a JSON document

A program that holds a document as dictionaries and lists reads and changes it by key. A path names one
part of the document.
-/
namespace FastVoice.Python.Json

def get : Json → String → Json
  | .obj entries, key => (entries.lookup key).getD .null
  | _, _ => .null

def has : Json → String → Bool
  | .obj entries, key => (entries.lookup key).isSome
  | _, _ => false

def setEntry (key : String) (value : Json) : List (String × Json) → List (String × Json)
  | [] => [(key, value)]
  | entry :: entries =>
    if entry.1 = key then (key, value) :: entries else entry :: setEntry key value entries

def set : Json → String → Json → Json
  | .obj entries, key, value => .obj (setEntry key value entries)
  | j, _, _ => j

def pop : Json → String → Json
  | .obj entries, key => .obj (entries.filter fun entry => entry.1 ≠ key)
  | j, _ => j

def isDict : Json → Bool
  | .obj _ => true
  | _ => false

def truthy : Json → Bool
  | .null => false
  | .bool b => b
  | .number n => (n.text.takeWhile fun c => c ≠ 'e' && c ≠ 'E').any fun c => "123456789".toList.contains c
  | .str s => s ≠ ""
  | .arr items => !items.isEmpty
  | .obj entries => !entries.isEmpty

def text? : Json → Option String
  | .str s => some s
  | _ => none

/-- Each of the fields may get a new value, which depends on the one it has. -/
def overwrite (new : String → Json → Option Json) : List String → Json → Json
  | [], j => j
  | field :: fields, j =>
    overwrite new fields (((new field (j.get field)).map (j.set field)).getD j)

inductive Step where
  | key (name : String)
  | item (index : Nat)
  deriving DecidableEq

def read : Json → List Step → Option Json
  | j, [] => some j
  | .obj entries, .key name :: path => (entries.lookup name).bind fun part => part.read path
  | .arr items, .item index :: path => items[index]?.bind fun part => part.read path
  | _, _ :: _ => none

theorem lookup_cons (name first : String) (value : Json) (entries : List (String × Json)) :
    ((first, value) :: entries).lookup name = if name = first then some value else entries.lookup name := by
  by_cases h : name = first
  · simp [h]
  · have hBeq : (name == first) = false := by simpa using h
    simp [List.lookup_cons, hBeq, h]

theorem lookup_setEntry (key name : String) (value : Json) (entries : List (String × Json)) :
    (setEntry key value entries).lookup name = if name = key then some value else entries.lookup name := by
  induction entries with
  | nil => exact lookup_cons name key value []
  | cons entry entries ih =>
    obtain ⟨first, old⟩ := entry
    rw [setEntry]
    split
    · rename_i hFirst
      have hSame : first = key := hFirst
      rw [lookup_cons, lookup_cons, hSame]
      split <;> rfl
    · rename_i hFirst
      rw [lookup_cons, lookup_cons, ih]
      split
      · rename_i hName
        rw [if_neg (hName ▸ hFirst)]
      · rfl

theorem get_set {j : Json} (hDict : j.isDict = true) (key name : String) (value : Json) :
    (j.set key value).get name = if name = key then value else j.get name := by
  cases j with
  | obj entries =>
    simp only [set, get, lookup_setEntry]
    split <;> simp
  | _ => cases hDict

@[simp] theorem isDict_set (j : Json) (key : String) (value : Json) :
    (j.set key value).isDict = j.isDict := by
  cases j <;> rfl

theorem setEntry_setEntry (key : String) (value new : Json) (entries : List (String × Json)) :
    setEntry key new (setEntry key value entries) = setEntry key new entries := by
  induction entries with
  | nil => simp [setEntry]
  | cons entry entries ih =>
    by_cases hKey : entry.1 = key
    · simp [setEntry, hKey]
    · simp [setEntry, hKey, ih]

theorem set_set (j : Json) (key : String) (value new : Json) :
    (j.set key value).set key new = j.set key new := by
  cases j with
  | obj entries => exact congrArg Json.obj (setEntry_setEntry key value new entries)
  | _ => rfl

theorem pop_set (j : Json) (key : String) (value : Json) : (j.set key value).pop key = j.pop key := by
  cases j with
  | obj entries =>
    refine congrArg Json.obj ?_
    induction entries with
    | nil => simp [setEntry]
    | cons entry entries ih =>
      by_cases hKey : entry.1 = key
      · simp [setEntry, hKey]
      · simp only [setEntry, hKey, if_false, List.filter_cons]
        rw [ih]
  | _ => rfl

theorem has_set {j : Json} (h : j.isDict = true) (key name : String) (value : Json) :
    (j.set key value).has name = (decide (name = key) || j.has name) := by
  cases j with
  | obj entries =>
    simp only [set, has, lookup_setEntry]
    split <;> simp [*]
  | _ => cases h

theorem truthy_set {j : Json} (h : j.isDict = true) (key : String) (value : Json) :
    (j.set key value).truthy = true := by
  cases j with
  | obj entries =>
    cases entries with
    | nil => rfl
    | cons entry entries =>
      simp only [set, setEntry]
      split <;> rfl
  | _ => cases h

theorem lookup_filter_ne (key name : String) (entries : List (String × Json)) :
    (entries.filter fun entry => entry.1 ≠ key).lookup name =
      if name = key then none else entries.lookup name := by
  induction entries with
  | nil => simp
  | cons entry entries ih =>
    obtain ⟨first, value⟩ := entry
    by_cases hFirst : first = key
    · subst hFirst
      rw [List.filter_cons_of_neg (by simp), ih, lookup_cons]
      split <;> rfl
    · rw [List.filter_cons_of_pos (by simpa using hFirst), lookup_cons, lookup_cons, ih]
      split
      · rename_i hName
        rw [if_neg (hName ▸ hFirst)]
      · rfl

theorem get_pop (j : Json) (key name : String) :
    (j.pop key).get name = if name = key then .null else j.get name := by
  cases j with
  | obj entries =>
    simp only [pop, get, lookup_filter_ne]
    split <;> rfl
  | _ => simp [pop, get]

theorem get_of_not_isDict {j : Json} (h : j.isDict = false) (key : String) : j.get key = .null := by
  cases j with
  | obj entries => cases h
  | _ => rfl

theorem isDict_of_get_ne_null {j : Json} {key : String} (h : j.get key ≠ .null) : j.isDict = true := by
  by_contra hDict
  exact h (get_of_not_isDict (Bool.eq_false_iff.mpr hDict) key)

theorem truthy_ne_null {j : Json} (h : j.truthy = true) : j ≠ .null := by
  rintro rfl
  cases h

theorem truthy_of_get {j : Json} {key : String} (h : (j.get key).truthy = true) : j.truthy = true := by
  cases j with
  | obj entries =>
    cases entries with
    | nil => cases h
    | cons entry entries => rfl
  | _ => cases h

section Overwrite

variable {new : String → Json → Option Json}

@[simp] theorem isDict_overwrite (fields : List String) (j : Json) :
    (overwrite new fields j).isDict = j.isDict := by
  induction fields generalizing j with
  | nil => rfl
  | cons field fields ih =>
    rw [overwrite, ih]
    cases new field (j.get field) <;> simp

theorem overwrite_of_not_isDict {j : Json} (h : j.isDict = false) (fields : List String) :
    overwrite new fields j = j := by
  have hSet : ∀ key value, j.set key value = j := by
    intro key value
    cases j with
    | obj entries => cases h
    | _ => rfl
  induction fields with
  | nil => rfl
  | cons field fields ih =>
    rw [overwrite]
    cases new field (j.get field) with
    | none => exact ih
    | some value =>
      rw [Option.map_some, Option.getD_some, hSet]
      exact ih

theorem get_overwrite_of_notMem {fields : List String} {name : String} (h : name ∉ fields) (j : Json) :
    (overwrite new fields j).get name = j.get name := by
  induction fields generalizing j with
  | nil => rfl
  | cons field fields ih =>
    obtain ⟨hField, hFields⟩ := not_or.mp (List.mem_cons.not.mp h)
    rw [overwrite, ih hFields]
    cases new field (j.get field) with
    | none => rfl
    | some value =>
      by_cases hDict : j.isDict = true
      · simp [get_set hDict, hField]
      · have hSame : j.set field value = j := by cases j <;> simp_all [set, isDict]
        simp [hSame]

theorem get_overwrite {fields : List String} {name : String} {j : Json} (hNodup : fields.Nodup)
    (hMem : name ∈ fields) (hDict : j.isDict = true) :
    (overwrite new fields j).get name = (new name (j.get name)).getD (j.get name) := by
  induction fields generalizing j with
  | nil => cases hMem
  | cons field fields ih =>
    obtain ⟨hField, hNodup⟩ := List.nodup_cons.mp hNodup
    rw [overwrite]
    obtain rfl | hLater := List.mem_cons.mp hMem
    · rw [get_overwrite_of_notMem hField]
      cases new name (j.get name) with
      | none => rfl
      | some value => simp [get_set hDict]
    · have hNe : name ≠ field := fun hEq => hField (hEq ▸ hLater)
      have hSame : (((new field (j.get field)).map (j.set field)).getD j).get name = j.get name := by
        cases new field (j.get field) with
        | none => rfl
        | some value => simp [get_set hDict, hNe]
      rw [ih hNodup hLater, hSame]
      cases new field (j.get field) <;> simp [hDict]

end Overwrite

theorem read_key_cons (j : Json) (name : String) (step : Step) (path : List Step) :
    j.read (.key name :: step :: path) = (j.get name).read (step :: path) := by
  cases j with
  | obj entries =>
    simp only [read, get]
    cases entries.lookup name with
    | none => cases step <;> rfl
    | some part => rfl
  | _ => cases step <;> rfl

theorem read_key_iff {j value : Json} {name : String} (h : value ≠ .null) :
    j.read [.key name] = some value ↔ j.get name = value := by
  cases j with
  | obj entries =>
    simp only [read, get]
    cases hPart : entries.lookup name with
    | none => simpa using h.symm
    | some part => simp
  | _ => simpa [read, get] using h.symm

theorem read_set_of_ne {step : Step} {key : String} (h : step ≠ .key key) (j value : Json)
    (path : List Step) : (j.set key value).read (step :: path) = j.read (step :: path) := by
  cases j with
  | obj entries =>
    cases step with
    | key name =>
      have hName : name ≠ key := fun hEq => h (hEq ▸ rfl)
      simp [set, read, lookup_setEntry, hName]
    | item index => rfl
  | _ => rfl

theorem read_overwrite_of_ne {new : String → Json → Option Json} {fields : List String} {step : Step}
    (h : ∀ name ∈ fields, step ≠ .key name) (j : Json) (path : List Step) :
    (overwrite new fields j).read (step :: path) = j.read (step :: path) := by
  induction fields generalizing j with
  | nil => rfl
  | cons field fields ih =>
    obtain ⟨hField, hFields⟩ := List.forall_mem_cons.mp h
    rw [overwrite, ih hFields]
    cases new field (j.get field) with
    | none => rfl
    | some value => exact read_set_of_ne hField j value path

theorem read_pop_of_ne {step : Step} {key : String} (h : step ≠ .key key) (j : Json)
    (path : List Step) : (j.pop key).read (step :: path) = j.read (step :: path) := by
  cases j with
  | obj entries =>
    cases step with
    | key name =>
      have hName : name ≠ key := fun hEq => h (hEq ▸ rfl)
      simp only [pop, read, lookup_filter_ne, if_neg hName]
    | item index => rfl
  | _ => rfl

@[simp] theorem read_pop (j : Json) (key : String) (path : List Step) :
    (j.pop key).read (.key key :: path) = none := by
  cases j with
  | obj entries => simp only [pop, read, lookup_filter_ne, if_pos, Option.bind_none]
  | _ => rfl

theorem truthy_overwrite {new : String → Json → Option Json} {fields : List String} {j : Json}
    (h : j.truthy = true) : (overwrite new fields j).truthy = true := by
  induction fields generalizing j with
  | nil => exact h
  | cons field fields ih =>
    rw [overwrite]
    apply ih
    cases new field (j.get field) with
    | none => exact h
    | some value =>
      cases j with
      | obj entries =>
        cases entries with
        | nil => rfl
        | cons entry entries =>
          simp only [Option.map_some, Option.getD_some, set, setEntry]
          split <;> rfl
      | _ => exact h

end FastVoice.Python.Json
