import FastVoice.Bridge.ParseChecks

/-! # Exceptions of the checks

`_validate_data` raises where `repr` or `sorted` does: for a rejected option, or for the unknown keys of a
row. It comes to that only if everything before passes.
-/
namespace FastVoice.Bridge
open Python Workflows Outcome

variable {F : Type}

inductive CheckRaises (py : Interpreter F) : PropertySpec F → Value F → Prop where
  /-- A rejected option that has no text. -/
  | option {prop : PropertySpec F} {value : Value F} (hType : prop.type = .options)
      (hOptions : prop.options ≠ []) (hValue : isOption prop.options value = false)
      (hText : py.repr value = none) : CheckRaises py prop value
  /-- Unknown keys of which none is the least, or the least has no text. -/
  | unknownKey {prop : PropertySpec F} {before after : List (Value F)} {row : Row F}
      (hType : prop.type = .fixedCollection) (hBefore : propertyError py prop (.list before) = .ok none)
      (hUnknown : unknownKeys (prop.properties.map PropertySpec.name) row ≠ [])
      (hKey : ∀ key, py.least (unknownKeys (prop.properties.map PropertySpec.name) row) = some key →
        py.repr key = none) : CheckRaises py prop (.list (before ++ .dict row :: after))
  | field {prop sub : PropertySpec F} {before after : List (Value F)} {row : Row F}
      {earlier later : List (PropertySpec F)} {value : Value F}
      (hType : prop.type = .fixedCollection) (hBefore : propertyError py prop (.list before) = .ok none)
      (hKnown : unknownKeys (prop.properties.map PropertySpec.name) row = [])
      (hProperties : prop.properties = earlier ++ sub :: later)
      (hEarlier : rowError py earlier row = .ok none) (hValue : Row.get row sub.name = some value)
      (hRaises : CheckRaises py sub value) : CheckRaises py prop (.list (before ++ .dict row :: after))

def DataRaises (py : Interpreter F) (properties : List (PropertySpec F)) (data : Fields F) : Prop :=
  (∀ field ∈ data, field.1 ∈ properties.map PropertySpec.name) ∧
  (∀ prop ∈ properties, prop.required = true → (prop.effective data).isSome = true) ∧
  ∃ earlier prop later value, properties = earlier ++ prop :: later ∧
    (∀ other ∈ earlier, ∀ value, other.effective data = some value →
      propertyError py other value = .ok none) ∧
    prop.effective data = some value ∧ CheckRaises py prop value

section Checks

variable {py : Interpreter F}

theorem optionsError_raises_iff {options : List String} {value : Value F} :
    (∃ error, optionsError py options value = .error error) ↔
      options ≠ [] ∧ isOption options value = false ∧ py.repr value = none := by
  rw [optionsError]
  split
  · rename_i hAllowed
    constructor
    · rintro ⟨_, h⟩
      cases h
    · rintro ⟨hOptions, hValue, -⟩
      simp [hValue, hOptions] at hAllowed
  · rename_i hAllowed
    rw [reprOf]
    cases hText : py.repr value with
    | some text =>
      constructor
      · rintro ⟨_, h⟩
        cases h
      · rintro ⟨-, -, h⟩
        cases h
    | none =>
      have hRejected : options ≠ [] ∧ isOption options value = false := by simpa using hAllowed
      exact ⟨fun _ => ⟨hRejected.1, hRejected.2, rfl⟩, fun _ => ⟨.valueError, rfl⟩⟩

theorem unknownKeyError_raises_iff {names : List String} {row : Row F} :
    (∃ error, unknownKeyError py names row = .error error) ↔ unknownKeys names row ≠ [] ∧
      ∀ key, py.least (unknownKeys names row) = some key → py.repr key = none := by
  rw [unknownKeyError]
  cases unknownKeys names row with
  | nil => simp [pure, Except.pure]
  | cons key keys =>
    simp only [leastOf, reprOf]
    cases py.least (key :: keys) with
    | none => simp [bind, Except.bind]
    | some least =>
      cases hText : py.repr least with
      | none => simp [bind, Except.bind, hText]
      | some text => simp [bind, Except.bind, pure, Except.pure, hText]

theorem firstRowError_cons_iff {check : Row F → Verdict} {row : Row F} {rows : List (Value F)}
    {index : Nat} : firstRowError check (.dict row :: rows) index = .ok none ↔
      check row = .ok none ∧ firstRowError check rows (index + 1) = .ok none := by
  rw [firstRowError, bind_eq_ok_iff]
  constructor
  · rintro ⟨verdict, hVerdict, hRest⟩
    cases verdict with
    | some message => cases hRest
    | none => exact ⟨hVerdict, hRest⟩
  · rintro ⟨hVerdict, hRest⟩
    exact ⟨none, hVerdict, hRest⟩

theorem firstRowError_eq_none_index {check : Row F → Verdict} {rows : List (Value F)} {m n : Nat}
    (h : firstRowError check rows m = .ok none) : firstRowError check rows n = .ok none := by
  induction rows generalizing m n with
  | nil => rfl
  | cons row rows ih =>
    cases row with
    | dict row =>
      obtain ⟨hRow, hRest⟩ := firstRowError_cons_iff.mp h
      exact firstRowError_cons_iff.mpr ⟨hRow, ih hRest⟩
    | _ => cases h

theorem firstRowError_raises_iff {check : Row F → Verdict} {rows : List (Value F)} {index : Nat} :
    (∃ error, firstRowError check rows index = .error error) ↔ ∃ before row after,
      rows = before ++ .dict row :: after ∧ firstRowError check before 0 = .ok none ∧
        ∃ error, check row = .error error := by
  induction rows generalizing index with
  | nil =>
    constructor
    · rintro ⟨_, h⟩
      cases h
    · rintro ⟨before, row, after, h, -⟩
      cases before <;> cases h
  | cons first rows ih =>
    constructor
    · rintro ⟨error, h⟩
      cases first with
      | dict row =>
        rw [firstRowError, bind_eq_error_iff] at h
        rcases h with hRow | ⟨verdict, hVerdict, hRest⟩
        · exact ⟨[], row, rows, rfl, rfl, error, hRow⟩
        · cases verdict with
          | some message => cases hRest
          | none =>
            obtain ⟨before, other, after, rfl, hBefore, hOther⟩ := ih.mp ⟨error, hRest⟩
            exact ⟨.dict row :: before, other, after, rfl,
              firstRowError_cons_iff.mpr ⟨hVerdict, firstRowError_eq_none_index hBefore⟩, hOther⟩
      | _ => cases h
    · rintro ⟨before, row, after, hRows, hBefore, hRow⟩
      cases before with
      | nil =>
        cases hRows
        obtain ⟨error, hRow⟩ := hRow
        exact ⟨error, by rw [firstRowError, bind_eq_error_iff]; exact .inl hRow⟩
      | cons _ before =>
        obtain ⟨rfl, rfl⟩ := List.cons.inj hRows
        cases first with
        | dict other =>
          obtain ⟨hOther, hRest⟩ := firstRowError_cons_iff.mp hBefore
          have hLater : ∃ error, firstRowError check (before ++ .dict row :: after) (index + 1) =
              .error error :=
            ih.mpr ⟨before, row, after, rfl, firstRowError_eq_none_index hRest, hRow⟩
          obtain ⟨error, hError⟩ := hLater
          exact ⟨error, by rw [firstRowError, bind_eq_error_iff]; exact .inr ⟨none, hOther, hError⟩⟩
        | _ => cases hBefore

structure PassesIn (py : Interpreter F) (row : Row F) (prop : PropertySpec F) : Prop where
  given : ∀ value, Row.get row prop.name = some value → propertyError py prop value = .ok none
  missing : Row.get row prop.name = none → (prop.required && prop.default.isNone) = false

theorem PassesIn.rowError_eq {row : Row F} {prop : PropertySpec F} (h : PassesIn py row prop)
    (rest : List (PropertySpec F)) : rowError py (prop :: rest) row = rowError py rest row := by
  rw [rowError]
  cases hGet : Row.get row prop.name with
  | none =>
    dsimp only
    rw [h.missing hGet, if_neg Bool.false_ne_true]
  | some value =>
    dsimp only
    rw [h.given value hGet]
    rfl

theorem passesIn_of_rowError {row : Row F} {prop : PropertySpec F} {rest : List (PropertySpec F)}
    (h : rowError py (prop :: rest) row = .ok none) : PassesIn py row prop := by
  rw [rowError] at h
  cases hGet : Row.get row prop.name with
  | none =>
    refine ⟨fun value hValue => ?_, fun _ => ?_⟩
    · rw [hGet] at hValue
      cases hValue
    · by_contra hMissing
      rw [hGet, if_pos (by simpa using hMissing)] at h
      cases h
  | some value =>
    refine ⟨fun other hOther => ?_, fun hNone => ?_⟩
    · rw [hGet, bind_eq_ok_iff] at h
      obtain ⟨verdict, hVerdict, hRest⟩ := h
      rw [hGet] at hOther
      cases hOther
      cases verdict with
      | some message => cases hRest
      | none => exact hVerdict
    · rw [hGet] at hNone
      cases hNone

theorem rowError_error_cases {row : Row F} {prop : PropertySpec F} {rest : List (PropertySpec F)}
    {error : PyError} (h : rowError py (prop :: rest) row = .error error) :
    (∃ value, Row.get row prop.name = some value ∧ propertyError py prop value = .error error) ∨
      PassesIn py row prop ∧ rowError py rest row = .error error := by
  rw [rowError] at h
  cases hGet : Row.get row prop.name with
  | none =>
    rw [hGet] at h
    dsimp only at h
    split at h
    · cases h
    · rename_i hOptional
      exact .inr ⟨⟨fun value hValue => (by rw [hGet] at hValue; cases hValue),
        fun _ => by simpa using hOptional⟩, h⟩
  | some value =>
    rw [hGet, bind_eq_error_iff] at h
    rcases h with hError | ⟨verdict, hVerdict, hRest⟩
    · exact .inl ⟨value, rfl, hError⟩
    · cases verdict with
      | some message => cases hRest
      | none =>
        exact .inr ⟨⟨fun other hOther => (by rw [hGet] at hOther; cases hOther; exact hVerdict),
          fun hNone => (by rw [hGet] at hNone; cases hNone)⟩, hRest⟩

theorem rowError_raises_iff {properties : List (PropertySpec F)} {row : Row F} :
    (∃ error, rowError py properties row = .error error) ↔ ∃ earlier prop later value,
      properties = earlier ++ prop :: later ∧ rowError py earlier row = .ok none ∧
        Row.get row prop.name = some value ∧ ∃ error, propertyError py prop value = .error error := by
  induction properties with
  | nil =>
    constructor
    · rintro ⟨_, h⟩
      cases h
    · rintro ⟨earlier, prop, later, value, h, -⟩
      cases earlier <;> cases h
  | cons first properties ih =>
    constructor
    · rintro ⟨error, h⟩
      rcases rowError_error_cases h with ⟨value, hValue, hError⟩ | ⟨hFirst, hRest⟩
      · exact ⟨[], first, properties, value, rfl, rfl, hValue, error, hError⟩
      · obtain ⟨earlier, prop, later, value, rfl, hEarlier, hValue, hError⟩ := ih.mp ⟨error, hRest⟩
        exact ⟨first :: earlier, prop, later, value, rfl, (hFirst.rowError_eq earlier).trans hEarlier,
          hValue, hError⟩
    · rintro ⟨earlier, prop, later, value, hProperties, hEarlier, hValue, error, hError⟩
      cases earlier with
      | nil =>
        cases hProperties
        refine ⟨error, ?_⟩
        rw [rowError, hValue, bind_eq_error_iff]
        exact .inl hError
      | cons _ earlier =>
        obtain ⟨rfl, rfl⟩ := List.cons.inj hProperties
        have hFirst := passesIn_of_rowError hEarlier
        rw [hFirst.rowError_eq] at hEarlier ⊢
        exact ih.mpr ⟨earlier, prop, later, value, rfl, hEarlier, hValue, error, hError⟩

def rowCheck (py : Interpreter F) (properties : List (PropertySpec F)) (row : Row F) : Verdict := do
  match ← unknownKeyError py (properties.map PropertySpec.name) row with
  | some error => return some error
  | none => rowError py properties row

theorem propertyError_rows {prop : PropertySpec F} (h : prop.type = .fixedCollection)
    (rows : List (Value F)) :
    propertyError py prop (.list rows) = firstRowError (rowCheck py prop.properties) rows 0 := by
  obtain ⟨name, type, default, required, options, properties⟩ := prop
  subst h
  rw [propertyError]
  rfl

theorem propertyError_raises_cases {prop : PropertySpec F} {value : Value F} {error : PyError}
    (h : propertyError py prop value = .error error) :
    (prop.type = .options ∧ optionsError py prop.options value = .error error) ∨
      prop.type = .fixedCollection ∧ ∃ rows, value = .list rows := by
  obtain ⟨name, type, default, required, options, properties⟩ := prop
  rw [propertyError.eq_def] at h
  cases type with
  | options => exact .inl ⟨rfl, h⟩
  | fixedCollection =>
    cases value with
    | list rows => exact .inr ⟨rfl, rows, rfl⟩
    | _ => cases h
  | _ => cases h

theorem rowCheck_raises_iff {properties : List (PropertySpec F)} {row : Row F} :
    (∃ error, rowCheck py properties row = .error error) ↔
      (∃ error, unknownKeyError py (properties.map PropertySpec.name) row = .error error) ∨
        unknownKeys (properties.map PropertySpec.name) row = [] ∧
          ∃ error, rowError py properties row = .error error := by
  cases hUnknown : unknownKeys (properties.map PropertySpec.name) row with
  | nil => simp [rowCheck, unknownKeyError, hUnknown, pure, Except.pure, bind, Except.bind]
  | cons key keys =>
    have hReported : ∀ verdict, unknownKeyError py (properties.map PropertySpec.name) row = .ok verdict →
        verdict ≠ none := by
      intro verdict hVerdict
      rw [unknownKeyError, hUnknown] at hVerdict
      obtain ⟨least, -, hText⟩ := bind_eq_ok_iff.mp hVerdict
      obtain ⟨text, -, hText⟩ := bind_eq_ok_iff.mp hText
      cases hText
      exact Option.some_ne_none _
    constructor
    · rintro ⟨error, h⟩
      rw [rowCheck, bind_eq_error_iff] at h
      rcases h with hError | ⟨verdict, hVerdict, hRest⟩
      · exact .inl ⟨error, hError⟩
      · cases verdict with
        | some message => cases hRest
        | none => exact absurd rfl (hReported none hVerdict)
    · rintro (⟨error, hError⟩ | ⟨hNil, -⟩)
      · exact ⟨error, by rw [rowCheck, bind_eq_error_iff]; exact .inl hError⟩
      · cases hNil

theorem sizeOf_property {prop sub : PropertySpec F} (h : sub ∈ prop.properties) :
    sizeOf sub < sizeOf prop := by
  obtain ⟨name, type, default, required, options, properties⟩ := prop
  have hSub := List.sizeOf_lt_of_mem h
  simp only [PropertySpec.mk.sizeOf_spec]
  dsimp only at hSub
  omega

theorem checkRaises_of_error {prop : PropertySpec F} {value : Value F} {error : PyError}
    (h : propertyError py prop value = .error error) : CheckRaises py prop value := by
  rcases propertyError_raises_cases h with ⟨hType, hOptions⟩ | ⟨hType, rows, rfl⟩
  · obtain ⟨hNonempty, hRejected, hText⟩ := optionsError_raises_iff.mp ⟨error, hOptions⟩
    exact .option hType hNonempty hRejected hText
  · rw [propertyError_rows hType] at h
    obtain ⟨before, row, after, rfl, hBefore, hRow⟩ := firstRowError_raises_iff.mp ⟨error, h⟩
    rw [← propertyError_rows hType] at hBefore
    rcases rowCheck_raises_iff.mp hRow with hUnknown | ⟨hKnown, hFields⟩
    · obtain ⟨hNonempty, hKey⟩ := unknownKeyError_raises_iff.mp hUnknown
      exact .unknownKey hType hBefore hNonempty hKey
    · obtain ⟨earlier, sub, later, given, hProperties, hEarlier, hGiven, inner, hError⟩ :=
        rowError_raises_iff.mp hFields
      have hSmaller : sizeOf sub < sizeOf prop := sizeOf_property (by rw [hProperties]; simp)
      exact .field hType hBefore hKnown hProperties hEarlier hGiven (checkRaises_of_error hError)
termination_by sizeOf prop

theorem propertyError_raises_iff {prop : PropertySpec F} {value : Value F} :
    (∃ error, propertyError py prop value = .error error) ↔ CheckRaises py prop value := by
  constructor
  · rintro ⟨error, h⟩
    exact checkRaises_of_error h
  · intro h
    induction h with
    | @option prop value hType hOptions hValue hText =>
      obtain ⟨name, type, default, required, options, properties⟩ := prop
      subst hType
      rw [propertyError]
      exact optionsError_raises_iff.mpr ⟨hOptions, hValue, hText⟩
    | unknownKey hType hBefore hUnknown hKey =>
      rw [propertyError_rows hType] at hBefore ⊢
      exact firstRowError_raises_iff.mpr ⟨_, _, _, rfl, hBefore, rowCheck_raises_iff.mpr
        (.inl (unknownKeyError_raises_iff.mpr ⟨hUnknown, hKey⟩))⟩
    | field hType hBefore hKnown hProperties hEarlier hValue _ ih =>
      rw [propertyError_rows hType] at hBefore ⊢
      exact firstRowError_raises_iff.mpr ⟨_, _, _, rfl, hBefore, rowCheck_raises_iff.mpr
        (.inr ⟨hKnown, rowError_raises_iff.mpr ⟨_, _, _, _, hProperties, hEarlier, hValue, ih⟩⟩)⟩

section Fields

variable {properties : List (PropertySpec F)} {data : Fields F}

theorem firstFieldError_cons {prop : PropertySpec F} {value : Value F} {rest : Fields F}
    (hFind : properties.find? (·.name = prop.name) = some prop) :
    firstFieldError py properties ((prop.name, value) :: rest) = (do
      match ← propertyError py prop value with
      | some error => return some s!"Field {py.quote prop.name}: {error}."
      | none => firstFieldError py properties rest) := by
  rw [firstFieldError]
  split
  · rename_i hNone
    rw [hFind] at hNone
    cases hNone
  · rename_i found hFound
    rw [hFind] at hFound
    cases hFound
    rfl

theorem firstFieldError_filled_of_passes {prop : PropertySpec F} {rest : List (PropertySpec F)}
    (hFind : properties.find? (·.name = prop.name) = some prop)
    (hPasses : ∀ value, prop.effective data = some value → propertyError py prop value = .ok none) :
    firstFieldError py properties (filled (prop :: rest) data) =
      firstFieldError py properties (filled rest data) := by
  cases hValue : prop.effective data with
  | none => rw [filled_cons_none hValue]
  | some value =>
    rw [filled_cons_some hValue, firstFieldError_cons hFind, hPasses value hValue]
    rfl

theorem firstFieldError_filled_cases {prop : PropertySpec F} {rest : List (PropertySpec F)}
    {error : PyError} (hFind : properties.find? (·.name = prop.name) = some prop)
    (h : firstFieldError py properties (filled (prop :: rest) data) = .error error) :
    (∃ value, prop.effective data = some value ∧ propertyError py prop value = .error error) ∨
      (∀ value, prop.effective data = some value → propertyError py prop value = .ok none) ∧
        firstFieldError py properties (filled rest data) = .error error := by
  cases hValue : prop.effective data with
  | none =>
    rw [filled_cons_none hValue] at h
    exact .inr ⟨nofun, h⟩
  | some value =>
    rw [filled_cons_some hValue, firstFieldError_cons hFind, bind_eq_error_iff] at h
    rcases h with hError | ⟨verdict, hVerdict, hRest⟩
    · exact .inl ⟨value, rfl, hError⟩
    · cases verdict with
      | some message => cases hRest
      | none => exact .inr ⟨fun other hOther => Option.some.inj hOther ▸ hVerdict, hRest⟩

theorem firstFieldError_raises_iff {chosen : List (PropertySpec F)}
    (hFind : ∀ prop ∈ chosen, properties.find? (·.name = prop.name) = some prop) :
    (∃ error, firstFieldError py properties (filled chosen data) = .error error) ↔
      ∃ earlier prop later value, chosen = earlier ++ prop :: later ∧
        (∀ other ∈ earlier, ∀ value, other.effective data = some value →
          propertyError py other value = .ok none) ∧
        prop.effective data = some value ∧ CheckRaises py prop value := by
  induction chosen with
  | nil =>
    constructor
    · rintro ⟨_, h⟩
      cases h
    · rintro ⟨earlier, prop, later, value, h, -⟩
      cases earlier <;> cases h
  | cons first rest ih =>
    obtain ⟨hFirst, hRest⟩ := List.forall_mem_cons.mp hFind
    constructor
    · rintro ⟨error, h⟩
      rcases firstFieldError_filled_cases hFirst h with ⟨value, hValue, hError⟩ | ⟨hPasses, hLater⟩
      · exact ⟨[], first, rest, value, rfl, fun _ h => absurd h List.not_mem_nil, hValue,
          checkRaises_of_error hError⟩
      · obtain ⟨earlier, prop, later, value, rfl, hEarlier, hValue, hRaises⟩ :=
          (ih hRest).mp ⟨error, hLater⟩
        exact ⟨first :: earlier, prop, later, value, rfl,
          List.forall_mem_cons.mpr ⟨hPasses, hEarlier⟩, hValue, hRaises⟩
    · rintro ⟨earlier, prop, later, value, hSplit, hEarlier, hValue, hRaises⟩
      cases earlier with
      | nil =>
        cases hSplit
        obtain ⟨error, hError⟩ := propertyError_raises_iff.mpr hRaises
        refine ⟨error, ?_⟩
        rw [filled_cons_some hValue, firstFieldError_cons hFirst, bind_eq_error_iff]
        exact .inl hError
      | cons _ earlier =>
        obtain ⟨rfl, rfl⟩ := List.cons.inj hSplit
        obtain ⟨hPasses, hEarlier⟩ := List.forall_mem_cons.mp hEarlier
        rw [firstFieldError_filled_of_passes hFirst hPasses]
        exact (ih hRest).mpr ⟨earlier, prop, later, value, rfl, hEarlier, hValue, hRaises⟩

theorem validateData_raises_iff (hNodup : (properties.map PropertySpec.name).Nodup) :
    (∃ error, validateData py properties data = .error error) ↔ DataRaises py properties data := by
  rw [validateData, DataRaises, ← firstFieldError_raises_iff fun prop hProp => find?_property hNodup hProp]
  split
  · rename_i hUnknown
    have hKnown : ∀ field ∈ data, field.1 ∈ properties.map PropertySpec.name := by
      simpa using hUnknown
    rw [and_iff_right hKnown]
    cases hFilled : withDefaults py data properties with
    | error message =>
      constructor
      · rintro ⟨_, h⟩
        cases h
      · rintro ⟨hRequired, -⟩
        rw [withDefaults_eq_ok_iff.mpr ⟨hRequired, rfl⟩] at hFilled
        cases hFilled
    | ok whole =>
      obtain ⟨hRequired, rfl⟩ := withDefaults_eq_ok_iff.mp hFilled
      rw [and_iff_right hRequired]
      show (∃ error, (firstFieldError py properties (filled properties data) >>= _) = _) ↔ _
      simp only [bind_eq_error_iff]
      constructor
      · rintro ⟨error, hError | ⟨verdict, -, hRest⟩⟩
        · exact ⟨error, hError⟩
        · cases verdict <;> cases hRest
      · rintro ⟨error, hError⟩
        exact ⟨error, .inl hError⟩
  · rename_i unknown hUnknown
    constructor
    · rintro ⟨_, h⟩
      cases h
    · rintro ⟨hKnown, -⟩
      exact absurd (by simpa using hKnown) hUnknown

end Fields

end Checks

end FastVoice.Bridge
