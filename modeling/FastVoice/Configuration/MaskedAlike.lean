import FastVoice.Configuration.Merge

/-! # Definitions that are masked alike

Two nodes with one masked image have the same data, but for what is found under a secret field.
-/
namespace FastVoice.Configuration
open Python Json

inductive DiffersAt (field : String) : Json → Json → Prop where
  | same (data : Json) : DiffersAt field data data
  | entry (before after : List (String × Json)) (value value' : Json) (hFresh : field ∉ before.map Prod.fst) :
      DiffersAt field (.obj (before ++ (field, value) :: after)) (.obj (before ++ (field, value') :: after))

variable {field : String} {data data' : Json}

theorem setEntry_append {before after : List (String × Json)} {value masked : Json}
    (hFresh : field ∉ before.map Prod.fst) :
    setEntry field masked (before ++ (field, value) :: after) = before ++ (field, masked) :: after := by
  induction before with
  | nil => simp [setEntry]
  | cons entry before ih =>
    obtain ⟨hFirst, hRest⟩ : field ≠ entry.1 ∧ field ∉ before.map Prod.fst := by simpa using hFresh
    rw [List.cons_append, setEntry, if_neg hFirst.symm, ih hRest]
    rfl

theorem set_of_truthy (h : (data.get field).truthy = true) : ∃ before value after,
    field ∉ before.map Prod.fst ∧ data = .obj (before ++ (field, value) :: after) ∧
      ∀ masked, data.set field masked = .obj (before ++ (field, masked) :: after) := by
  cases data with
  | obj entries =>
    cases hFound : entries.lookup field with
    | none => simp [Json.get, hFound, truthy] at h
    | some value =>
      obtain ⟨before, after, rfl, hOther⟩ := List.lookup_eq_some_iff.mp hFound
      have hFresh : field ∉ before.map Prod.fst := by
        intro hMem
        obtain ⟨entry, hEntry, rfl⟩ := List.mem_map.mp hMem
        simpa using hOther entry hEntry
      refine ⟨before, value, after, hFresh, rfl, fun masked => ?_⟩
      rw [Json.set, setEntry_append hFresh]
  | _ => cases h

theorem entries_unique {before before' after after' : List (String × Json)} {value value' : Json}
    (hFresh : field ∉ before.map Prod.fst) (hFresh' : field ∉ before'.map Prod.fst)
    (h : before ++ (field, value) :: after = before' ++ (field, value') :: after') :
    before = before' ∧ after = after' := by
  induction before generalizing before' with
  | nil =>
    cases before' with
    | nil => exact ⟨rfl, (List.cons.inj h).2⟩
    | cons entry before' =>
      obtain rfl : (field, value) = entry := (List.cons.inj h).1
      exact absurd List.mem_cons_self hFresh'
  | cons entry before ih =>
    cases before' with
    | nil =>
      obtain rfl : entry = (field, value') := (List.cons.inj h).1
      exact absurd List.mem_cons_self hFresh
    | cons entry' before' =>
      obtain ⟨rfl, hRest⟩ := List.cons.inj h
      obtain ⟨rfl, hAfter⟩ := ih (fun hMem => hFresh (List.mem_cons_of_mem _ hMem))
        (fun hMem => hFresh' (List.mem_cons_of_mem _ hMem)) hRest
      exact ⟨rfl, hAfter⟩

variable {showList : List String → String}

theorem differsAt_of_masks (h : overwrite (maskRawSecret showList) [field] data =
    overwrite (maskRawSecret showList) [field] data') : DiffersAt field data data' := by
  have hMasked : ∀ data : Json, overwrite (maskRawSecret showList) [field] data =
      if (data.get field).truthy then data.set field (.str (maskRawKey showList (data.get field))) else data := by
    intro data
    rw [overwrite, overwrite, maskRawSecret]
    split <;> rfl
  rw [hMasked, hMasked] at h
  cases hTruthy : (data.get field).truthy with
  | false =>
    cases hTruthy' : (data'.get field).truthy with
    | false =>
      rw [hTruthy, hTruthy'] at h
      obtain rfl : data = data' := h
      exact .same data
    | true =>
      obtain ⟨before, value, after, hFresh, rfl, hSet⟩ := set_of_truthy hTruthy'
      rw [hTruthy, hTruthy', if_pos rfl, hSet] at h
      obtain rfl : data = _ := h
      exact .entry before after _ value hFresh
  | true =>
    obtain ⟨before, value, after, hFresh, rfl, hSet⟩ := set_of_truthy hTruthy
    rw [hTruthy, if_pos rfl, hSet] at h
    cases hTruthy' : (data'.get field).truthy with
    | false =>
      rw [hTruthy'] at h
      obtain rfl : _ = data' := h
      exact .entry before after value _ hFresh
    | true =>
      obtain ⟨before', value', after', hFresh', rfl, hSet'⟩ := set_of_truthy hTruthy'
      rw [hTruthy', if_pos rfl, hSet'] at h
      obtain ⟨rfl, rfl⟩ := entries_unique hFresh hFresh' (Json.obj.inj h)
      exact .entry before after value value' hFresh

theorem secretFields_cases (type : Option String) :
    secretFieldsForNodeType type = [] ∨ ∃ field, secretFieldsForNodeType type = [field] := by
  unfold secretFieldsForNodeType
  split <;> simp

theorem maskNode_inj {node node' : Node} (h : maskNode showList node = maskNode showList node') :
    node.id = node'.id ∧ node.type = node'.type ∧
      (node.data = node'.data ∨ ∃ field, node.secretFields = [field] ∧ DiffersAt field node.data node'.data) := by
  obtain ⟨hId, hType, hData⟩ := Node.mk.inj h
  have hFields : node'.secretFields = node.secretFields := congrArg secretFieldsForNodeType hType.symm
  refine ⟨hId, hType, ?_⟩
  rw [hFields] at hData
  obtain hNone | ⟨field, hField⟩ := secretFields_cases node.type
  · rw [Node.secretFields, hNone] at hData
    exact .inl hData
  · rw [Node.secretFields, hField] at hData
    exact .inr ⟨field, hField, differsAt_of_masks hData⟩

end FastVoice.Configuration
