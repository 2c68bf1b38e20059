import FastVoice.Configuration.Merge

/-! # The secrets of a configuration

Where the secrets of a document stand, what masking does at these places, and what the merge of one
service makes of a mask.
-/
namespace FastVoice.Configuration
open Python Json

def SecretAt (j : Json) (path : List Step) (field : String) (value : Json) : Prop :=
  field ∈ serviceSecretFields ∧ j.read (path ++ [.key field]) = some value ∧ value.truthy = true

def SecretsAreTexts (j : Json) : Prop :=
  ∀ path field value, SecretAt j path field value → IsText value

def Restored (saved stored : Json) : Prop :=
  ∀ path field value, SecretAt stored path field value →
    saved.read (path ++ [.key field]) = some value

def restoredValue (value : Json) : Json :=
  if containsMaskedKey (maskSecretValue value) then value else maskSecretValue value

/-- The mask shows the marker, or it hides nothing. -/
def Recovers (value : Json) : Prop :=
  containsMaskedKey (maskSecretValue value) = true ∨ maskSecretValue value = value

theorem restoredValue_eq_iff (value : Json) : restoredValue value = value ↔ Recovers value := by
  unfold restoredValue Recovers
  split
  · rename_i h
    simp [h]
  · rename_i h
    simp [h]

theorem truthy_restoredValue {value : Json} (hText : IsText value) (h : value.truthy = true) :
    (restoredValue value).truthy = true := by
  unfold restoredValue
  split
  · exact h
  · exact truthy_maskSecretValue hText h

section Places

variable {j value : Json} {path : List Step} {name field : String}

theorem secretFields_nodup : serviceSecretFields.Nodup := by decide

theorem read_below (j : Json) (name field : String) (path : List Step) :
    j.read (.key name :: path ++ [.key field]) = (j.get name).read (path ++ [.key field]) := by
  cases path <;> exact read_key_cons j name _ _

theorem secretAt_nil : SecretAt j [] field value ↔
      field ∈ serviceSecretFields ∧ j.get field = value ∧ value.truthy = true := by
  constructor
  · rintro ⟨hField, hRead, hTruthy⟩
    exact ⟨hField, (read_key_iff (truthy_ne_null hTruthy)).mp hRead, hTruthy⟩
  · rintro ⟨hField, hGet, hTruthy⟩
    exact ⟨hField, (read_key_iff (truthy_ne_null hTruthy)).mpr hGet, hTruthy⟩

theorem secretAt_cons :
    SecretAt j (.key name :: path) field value ↔ SecretAt (j.get name) path field value := by
  simp only [SecretAt, read_below]

theorem SecretsAreTexts.get (h : SecretsAreTexts j) (name : String) : SecretsAreTexts (j.get name) :=
  fun path field value hSecret => h (.key name :: path) field value (secretAt_cons.mpr hSecret)

theorem truthy_of_read {step : Step} (h : j.read (step :: path) = some value) : j.truthy = true := by
  cases j with
  | obj entries =>
    cases entries with
    | nil => cases step <;> simp [Json.read] at h
    | cons entry entries => rfl
  | arr items =>
    cases items with
    | nil => cases step <;> simp [Json.read] at h
    | cons item items => rfl
  | _ => cases step <;> cases h

theorem SecretAt.truthy (h : SecretAt j path field value) : j.truthy = true := by
  cases path with
  | nil => exact truthy_of_read h.2.1
  | cons step path => exact truthy_of_read h.2.1

theorem not_secretAt_text (h : IsText j) : ¬SecretAt j path field value := by
  rintro ⟨-, hRead, -⟩
  obtain ⟨k, rfl⟩ | ⟨ks, rfl⟩ := h
  · cases path with
    | nil => cases hRead
    | cons step path => cases step <;> cases hRead
  · cases path with
    | nil => cases hRead
    | cons step path =>
      cases step with
      | key name => cases hRead
      | item index =>
        simp only [List.cons_append, Json.read, List.getElem?_map] at hRead
        cases hItem : ks[index]? with
        | none => simp [hItem] at hRead
        | some k =>
          rw [hItem] at hRead
          cases path with
          | nil => cases hRead
          | cons step path => cases step <;> cases hRead

theorem SecretAt.name_notMem (h : SecretAt (j.get name) path field value) (hTexts : SecretsAreTexts j) :
    name ∉ serviceSecretFields := by
  intro hName
  exact not_secretAt_text (hTexts [] name _ (secretAt_nil.mpr ⟨hName, rfl, h.truthy⟩)) h

theorem SecretAt.isDict (h : SecretAt j [] field value) : j.isDict = true := by
  obtain ⟨-, rfl, hTruthy⟩ := secretAt_nil.mp h
  exact isDict_of_get_ne_null (truthy_ne_null hTruthy)

theorem SecretAt.isDict_of_get (h : SecretAt (j.get name) path field value) : j.isDict = true :=
  isDict_of_get_ne_null (truthy_ne_null h.truthy)

end Places

theorem read_overwrite_key {new : String → Json → Option Json} {fields : List String} {j : Json}
    {name : String} (hNodup : fields.Nodup) (hMem : name ∈ fields) (hDict : j.isDict = true)
    (path : List Step) (field : String) : (overwrite new fields j).read (.key name :: path ++ [.key field]) =
      ((new name (j.get name)).getD (j.get name)).read (path ++ [.key field]) := by
  rw [read_below, get_overwrite hNodup hMem hDict]

theorem lookup_maskEntries (name : String) (entries : List (String × Json)) :
    (maskEntries entries).lookup name = (entries.lookup name).map fun nested =>
      if serviceSecretFields.contains name && nested.truthy then maskSecretValue nested
      else maskSecretFields nested := by
  induction entries with
  | nil => simp [maskEntries]
  | cons entry entries ih =>
    obtain ⟨first, nested⟩ := entry
    rw [maskEntries, lookup_cons, lookup_cons, ih]
    split
    · rename_i hName
      rw [hName]
      rfl
    · rfl

theorem get_maskSecretFields (j : Json) (name : String) : (maskSecretFields j).get name =
      if serviceSecretFields.contains name && (j.get name).truthy then maskSecretValue (j.get name)
      else maskSecretFields (j.get name) := by
  cases j with
  | obj entries =>
    simp only [maskSecretFields, Json.get, lookup_maskEntries]
    obtain ⟨found, hFound⟩ : ∃ found, entries.lookup name = found := ⟨_, rfl⟩
    simp only [hFound]
    cases found with
    | none => simp [maskSecretFields, truthy]
    | some nested => rfl
  | _ => simp [maskSecretFields, Json.get, truthy]

theorem getElem_maskItems (items : List Json) (index : Nat) :
    (maskItems items)[index]? = items[index]?.map maskSecretFields := by
  induction items generalizing index with
  | nil => simp [maskItems]
  | cons item items ih =>
    cases index with
    | zero => simp [maskItems]
    | succ index => simpa [maskItems] using ih index

@[simp] theorem isDict_maskSecretFields (j : Json) : (maskSecretFields j).isDict = j.isDict := by
  cases j <;> simp [maskSecretFields, Json.isDict]

@[simp] theorem text_maskSecretFields (j : Json) : (maskSecretFields j).text? = j.text? := by
  cases j <;> simp [maskSecretFields, text?]

theorem get_maskSecretFields_of_notMem {name : String} (h : name ∉ serviceSecretFields) (j : Json) :
    (maskSecretFields j).get name = maskSecretFields (j.get name) := by
  rw [get_maskSecretFields, if_neg (by simp [h])]

theorem read_maskSecretFields {j value : Json} {path : List Step} {field : String}
    (hTexts : SecretsAreTexts j) (h : SecretAt j path field value) :
    (maskSecretFields j).read (path ++ [.key field]) = some (maskSecretValue value) := by
  induction path generalizing j with
  | nil =>
    obtain ⟨hField, rfl, hTruthy⟩ := secretAt_nil.mp h
    have hText := hTexts [] field _ h
    refine (read_key_iff (truthy_ne_null (truthy_maskSecretValue hText hTruthy))).mpr ?_
    rw [get_maskSecretFields, if_pos (by simp [hField, hTruthy])]
  | cons step path ih =>
    cases step with
    | key name =>
      have hInner := secretAt_cons.mp h
      rw [read_below, get_maskSecretFields_of_notMem (hInner.name_notMem hTexts)]
      exact ih (hTexts.get name) hInner
    | item index =>
      obtain ⟨hField, hRead, hTruthy⟩ := h
      cases j with
      | arr items =>
        simp only [List.cons_append, Json.read, maskSecretFields, getElem_maskItems] at hRead ⊢
        cases hItem : items[index]? with
        | none => simp [hItem] at hRead
        | some item =>
          rw [hItem] at hRead
          refine ih ?_ ⟨hField, hRead, hTruthy⟩
          rintro inner name found ⟨hName, hFound, hTrue⟩
          refine hTexts (.item index :: inner) name found ⟨hName, ?_, hTrue⟩
          simpa [Json.read, hItem] using hFound
      | _ => cases hRead

theorem get_maskService {service : Json} {field : String} (hField : field ∈ serviceSecretFields)
    (hTruthy : (service.get field).truthy = true) :
    (maskService service).get field = maskSecretValue (service.get field) := by
  have hDict := isDict_of_get_ne_null (truthy_ne_null hTruthy)
  rw [maskService, get_overwrite secretFields_nodup hField hDict, maskSecret, if_pos hTruthy]
  rfl

theorem get_maskService_of_notMem {name : String} (h : name ∉ serviceSecretFields) (service : Json) :
    (maskService service).get name = service.get name := get_overwrite_of_notMem h service

@[simp] theorem isDict_maskService (service : Json) : (maskService service).isDict = service.isDict :=
  isDict_overwrite _ service

theorem maskService_ne_null {service : Json} (h : service.truthy = true) : maskService service ≠ .null := by
  by_cases hDict : service.isDict = true
  · intro hNull
    have hMasked := isDict_maskService service
    rw [hNull, hDict] at hMasked
    cases hMasked
  · rw [maskService, overwrite_of_not_isDict (Bool.eq_false_iff.mpr hDict)]
    exact truthy_ne_null h

section Service

variable {preserveMissing full : Bool} {incoming existing value : Json} {field : String}

theorem has_of_truthy (h : (existing.get field).truthy = true) : has existing field = true := by
  cases existing with
  | obj entries =>
    simp only [Json.get] at h
    cases hFound : entries.lookup field with
    | none => simp [hFound, truthy] at h
    | some nested =>
      simp [has, hFound]
  | _ => cases h

theorem mergeServiceSecretFields_of_not_isDict (h : incoming.isDict = false) :
    mergeServiceSecretFields preserveMissing full incoming existing = incoming := by
  unfold mergeServiceSecretFields
  split
  · exact overwrite_of_not_isDict h _
  · rfl

@[simp] theorem isDict_mergeServiceSecretFields :
    (mergeServiceSecretFields preserveMissing full incoming existing).isDict = incoming.isDict := by
  unfold mergeServiceSecretFields
  split <;> simp

theorem get_mergeService_of_notMem {name : String} (h : name ∉ serviceSecretFields) :
    (mergeServiceSecretFields preserveMissing full incoming existing).get name = incoming.get name := by
  unfold mergeServiceSecretFields
  split
  · exact get_overwrite_of_notMem h incoming
  · rfl

theorem sameProvider_of_eq (h : (incoming.get "provider").text? = (existing.get "provider").text?) :
    sameProvider incoming existing = true := by
  unfold sameProvider
  rw [h]
  split
  · rename_i hFirst hSecond
    simpa using Option.some.inj (hSecond.symm.trans hFirst)
  · rfl

theorem get_mergeService (hProvider : sameProvider incoming existing = true)
    (hField : field ∈ serviceSecretFields) (hText : IsText value) (hTruthy : value.truthy = true)
    (hExisting : existing.get field = value) (hIncoming : incoming.get field = maskSecretValue value) :
    (mergeServiceSecretFields preserveMissing full incoming existing).get field = restoredValue value := by
  have hMasked := truthy_maskSecretValue hText hTruthy
  have hDict : incoming.isDict = true := by
    apply isDict_of_get_ne_null
    rw [hIncoming]
    exact truthy_ne_null hMasked
  have hHas : has existing field = true := has_of_truthy (hExisting ▸ hTruthy)
  rw [mergeServiceSecretFields, if_pos hProvider, get_overwrite secretFields_nodup hField hDict,
    if_pos hHas, hIncoming, hExisting, restoredValue]
  split
  · rename_i hNull
    rw [hNull] at hMasked
    cases hMasked
  · split
    · cases full with
      | false => simp [resolveMaskedApiKeys_mask hText]
      | true => simp
    · rfl

end Service

end FastVoice.Configuration
