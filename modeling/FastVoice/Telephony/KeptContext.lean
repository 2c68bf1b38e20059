import FastVoice.Telephony.GatheredContext

/-! # What the writers of a gathered context keep of each other's writes

The list of tags is replaced whole, and the final update of a pipeline stores the keys that it read before.
-/
namespace FastVoice.Telephony
open Async Python

variable {ι : Type}

abbrev GatheredRecord (ι : Type) := Recorded ι GatheredCommand Error GatheredStore GatheredMove

def entryTags : Entry ι GatheredCommand Error GatheredStore GatheredMove → List Json
  | .call _ command outcome found =>
    if outcome.executed then (found.storedTags command).getD [] else []
  | .environment _ _ => []

def entrySets (key : String) : Entry ι GatheredCommand Error GatheredStore GatheredMove → Option Json
  | .call _ command outcome found =>
    if outcome.executed then (found.ownFields command).lookup key else none
  | .environment _ _ => none

def lastSet (initial : Dict String Json) (s : GatheredRecord ι) (key : String) : Option Json :=
  (s.history.findSome? (entrySets key)).or (initial.lookup key)

/-- Each tag that was stored is there, and no key that was only read has been written back. -/
structure ContextKept (initial : Dict String Json) (s : GatheredRecord ι) : Prop where
  tags : ∀ entry ∈ s.history, ∀ tag ∈ entryTags entry, tag ∈ s.state.row.tags
  fields : ∀ key, s.state.row.fields.lookup key = lastSet initial s key

structure KeepsContext (command : GatheredCommand) (s : GatheredStore) : Prop where
  tags : ∀ tags, s.storedTags command = some tags → ∀ tag ∈ s.row.tags, tag ∈ tags
  fields : ∀ key value, (s.ownFields command).lookup key = none →
    (GatheredStore.carried command).lookup key = some value → s.row.fields.lookup key = some value

def keepingDiscipline : System.Discipline ι GatheredCommand.Reply Error (GatheredRecord ι) GatheredMove where
  call _ command outcome s := outcome.executed = true → KeepsContext command s.state
  environment _ _ := True

theorem execute_row (command : GatheredCommand) (s : GatheredStore) :
    (s.execute command).2.row = (s.updateWorkflowRun command).row := by
  have hSame : ∀ row : GatheredContext, row =
      { callTags := none.or row.callTags, fields := row.fields.update ((∅ : Dict String Json).update ∅) } := by
    rintro ⟨callTags, fields⟩
    simp [Dict.update]
  cases command with
  | getWorkflowRunById => exact hSame s.row
  | disposeCall => exact hSame s.row
  | recordDisposition reason => exact hSame s.row
  | finishContext read traceUrl hasUserSpeech =>
    have hRow : (s.finishContext read traceUrl hasUserSpeech).2.row = s.row := by
      unfold GatheredStore.finishContext
      cases s.engine.callTags <;> rfl
    exact hRow.trans (hSame s.row)
  | storeTags tags => rfl
  | storeEngineContext => rfl
  | storeFinishedContext context => rfl
  | storeStatus read newTags fields => rfl
  | other => exact hSame s.row

theorem tags_updateWorkflowRun (command : GatheredCommand) (s : GatheredStore) :
    (s.updateWorkflowRun command).row.tags = (s.storedTags command).getD s.row.tags := by
  unfold GatheredStore.updateWorkflowRun GatheredContext.tags
  cases s.storedTags command <;> rfl

theorem lookup_updateWorkflowRun (command : GatheredCommand) (s : GatheredStore) (key : String) :
    (s.updateWorkflowRun command).row.fields.lookup key = ((s.ownFields command).lookup key).or
        (((GatheredStore.carried command).lookup key).or (s.row.fields.lookup key)) := by
  simp only [GatheredStore.updateWorkflowRun, Dict.lookup_update, Option.or_assoc]

theorem keepsContext_iff (command : GatheredCommand) (s : GatheredStore) :
    ((∀ tag ∈ s.row.tags ++ (s.storedTags command).getD [], tag ∈ (s.updateWorkflowRun command).row.tags) ∧
      ∀ key, (s.updateWorkflowRun command).row.fields.lookup key =
        ((s.ownFields command).lookup key).or (s.row.fields.lookup key)) ↔ KeepsContext command s := by
  rw [tags_updateWorkflowRun]
  constructor
  · rintro ⟨hTags, hFields⟩
    constructor
    · intro tags hStored tag hTag
      have hKept := hTags tag (List.mem_append_left _ hTag)
      rwa [hStored] at hKept
    · intro key value hOwn hCarried
      have hKey := hFields key
      rw [lookup_updateWorkflowRun, hOwn, hCarried] at hKey
      exact hKey.symm
  · rintro ⟨hTags, hFields⟩
    constructor
    · intro tag hTag
      cases hStored : s.storedTags command with
      | none => simpa [hStored] using hTag
      | some tags =>
        rw [hStored] at hTag
        exact (List.mem_append.mp hTag).elim (hTags tags hStored tag) id
    · intro key
      rw [lookup_updateWorkflowRun]
      cases hOwn : (s.ownFields command).lookup key with
      | some value => rfl
      | none =>
        cases hCarried : (GatheredStore.carried command).lookup key with
        | none => rfl
        | some value => exact (hFields key value hOwn hCarried).symm

def TagsStored (s : GatheredRecord ι) : Prop :=
  ∀ tag ∈ s.state.row.tags, ∃ entry ∈ s.history, tag ∈ entryTags entry

section Record

variable {initial : Dict String Json} {s : GatheredRecord ι}

theorem perform_executed (proc : ι) (command : GatheredCommand) {outcome : Outcome Error}
    (h : outcome.executed = true) :
    ((gatheredServices ι).perform proc command outcome s.state).2 = (s.state.execute command).2 := by
  cases outcome with
  | reply => rfl
  | fail error applied =>
    have hApplied : applied = true := h
    rw [hApplied]
    rfl

theorem perform_not_executed (proc : ι) (command : GatheredCommand) {outcome : Outcome Error}
    (h : outcome.executed = false) :
    ((gatheredServices ι).perform proc command outcome s.state).2 = s.state := by
  cases outcome with
  | reply => cases h
  | fail error applied =>
    have hApplied : applied = false := h
    rw [hApplied]
    rfl

theorem contextKept_call_iff (h : ContextKept initial s) (hStored : TagsStored s) (proc : ι)
    (command : GatheredCommand) (outcome : Outcome Error) :
    ContextKept initial ((gatheredServices ι).recorded.perform proc command outcome s).2 ↔
      (outcome.executed = true → KeepsContext command s.state) := by
  cases hExecuted : outcome.executed with
  | false =>
    refine iff_of_true ⟨fun entry hEntry tag hTag => ?_, fun key => ?_⟩ (fun hTrue => Bool.noConfusion hTrue)
    · simp only [System.recorded, perform_not_executed proc command hExecuted]
      rcases List.mem_cons.mp hEntry with rfl | hOld
      · simp [entryTags, hExecuted] at hTag
      · exact h.tags entry hOld tag hTag
    · simp only [System.recorded, perform_not_executed proc command hExecuted, lastSet, List.findSome?_cons,
        entrySets, hExecuted]
      exact h.fields key
  | true =>
    have hTrue : (true = true → KeepsContext command s.state) ↔ KeepsContext command s.state := by simp
    rw [hTrue, ← keepsContext_iff]
    have hRow : ((gatheredServices ι).recorded.perform proc command outcome s).2.state.row =
        (s.state.updateWorkflowRun command).row := by
      simp only [System.recorded, perform_executed proc command hExecuted]
      exact execute_row command s.state
    have hLast : ∀ key, lastSet initial ((gatheredServices ι).recorded.perform proc command outcome s).2 key =
        ((s.state.ownFields command).lookup key).or (s.state.row.fields.lookup key) := by
      intro key
      rw [h.fields key]
      simp only [System.recorded, lastSet, List.findSome?_cons, entrySets, hExecuted, if_true]
      cases (s.state.ownFields command).lookup key <;> rfl
    constructor
    · rintro ⟨hTags, hFields⟩
      rw [hRow] at hTags hFields
      constructor
      · intro tag hTag
        rcases List.mem_append.mp hTag with hOld | hNew
        · obtain ⟨entry, hEntry, hIn⟩ := hStored tag hOld
          exact hTags entry (List.mem_cons_of_mem _ hEntry) tag hIn
        · exact hTags _ List.mem_cons_self tag (by simpa [entryTags, hExecuted] using hNew)
      · intro key
        rw [hFields key, hLast key]
    · rintro ⟨hTags, hFields⟩
      constructor
      · rw [hRow]
        intro entry hEntry tag hTag
        apply hTags tag
        rcases List.mem_cons.mp hEntry with rfl | hOld
        · exact List.mem_append_right _ (by simpa [entryTags, hExecuted] using hTag)
        · exact List.mem_append_left _ (h.tags entry hOld tag hTag)
      · intro key
        rw [hRow, hLast key, hFields key]

theorem tagsStored_call (hStored : TagsStored s) (proc : ι) (command : GatheredCommand)
    (outcome : Outcome Error) :
    TagsStored ((gatheredServices ι).recorded.perform proc command outcome s).2 := by
  intro tag hTag
  cases hExecuted : outcome.executed with
  | false =>
    simp only [System.recorded, perform_not_executed proc command hExecuted] at hTag
    obtain ⟨entry, hEntry, hIn⟩ := hStored tag hTag
    exact ⟨entry, List.mem_cons_of_mem _ hEntry, hIn⟩
  | true =>
    simp only [System.recorded, perform_executed proc command hExecuted, execute_row,
      tags_updateWorkflowRun] at hTag
    cases hNew : s.state.storedTags command with
    | none =>
      rw [hNew] at hTag
      obtain ⟨entry, hEntry, hIn⟩ := hStored tag hTag
      exact ⟨entry, List.mem_cons_of_mem _ hEntry, hIn⟩
    | some tags =>
      rw [hNew] at hTag
      exact ⟨_, List.mem_cons_self, by simpa [entryTags, hExecuted, hNew] using hTag⟩

theorem contextKept_environment (initial : Dict String Json) {move : GatheredMove} {s' : GatheredRecord ι}
    (hMove : (gatheredServices ι).recorded.environment move s = some s') :
    (ContextKept initial s' ↔ ContextKept initial s) ∧ (TagsStored s → TagsStored s') := by
  have hRow : s'.state.row = s.state.row := by
    have hState := environment_recorded hMove
    cases move with
    | extract extracted => rw [← Option.some.inj hState]
    | tagCall tag => rw [← Option.some.inj hState]
  obtain ⟨state, -, rfl⟩ := Option.map_eq_some_iff.mp hMove
  have hRow' : state.row = s.state.row := hRow
  have hLast : ∀ key, lastSet initial ⟨state, .environment move s.state :: s.history⟩ key = lastSet initial s key :=
    fun key => rfl
  refine ⟨⟨fun h => ⟨fun entry hEntry tag hTag => ?_, fun key => ?_⟩,
    fun h => ⟨fun entry hEntry tag hTag => ?_, fun key => ?_⟩⟩, fun hStored tag hTag => ?_⟩
  · rw [← hRow']
    exact h.tags entry (List.mem_cons_of_mem _ hEntry) tag hTag
  · rw [← hRow', ← hLast key]
    exact h.fields key
  · change tag ∈ state.row.tags
    rw [hRow']
    rcases List.mem_cons.mp hEntry with rfl | hOld
    · cases hTag
    · exact h.tags entry hOld tag hTag
  · change state.row.fields.lookup key = _
    rw [hRow', hLast key]
    exact h.fields key
  · change tag ∈ state.row.tags at hTag
    rw [hRow'] at hTag
    obtain ⟨entry, hEntry, hIn⟩ := hStored tag hTag
    exact ⟨entry, List.mem_cons_of_mem _ hEntry, hIn⟩

end Record

section Runs

variable [DecidableEq ι]

def createdRun (fields : Dict String Json) (engine : GatheredContext) (handlers : ι → GatheredHandler) :
    Config ι GatheredCommand.Reply Error Unit (GatheredRecord ι) where
  shared := ⟨⟨⟨none, fields⟩, engine, false⟩, []⟩
  procs := fun proc => (handlers proc).method

end Runs

def retriedCall : Bool → GatheredHandler
  | false => .dispatchCall "busy"
  | true => .endCallWithReason "user_hangup"

def retriedEvents : List (Event Bool Error GatheredMove) :=
  .resume false .reply :: List.replicate 5 (.resume true .reply)

def repeatedCallback : Bool → GatheredHandler := fun _ => .processStatusUpdate "call" (some .busy)

def repeatedEvents : List (Event Bool Error GatheredMove) :=
  List.replicate 7 (.resume false .reply) ++ List.replicate 7 (.resume true .reply)

end FastVoice.Telephony
