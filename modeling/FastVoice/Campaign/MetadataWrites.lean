import FastVoice.Campaign.Redial

/-! # Who wrote a metadata key last

Settings requests, counter statements and redial requests on one campaign, in any order. A key holds
the value of the last operation that wrote it exactly as long as each document that is written back
whole agrees with the stored one on the keys its operation does not concern.
-/
namespace FastVoice.Campaign
open Async

inductive MetadataOperation where
  | patch (campaignId : Nat) (request : UpdateCampaignRequest)
  | increment (key : String)
  | reset (key : String)
  | redial (request : RedialCampaignRequest)

namespace MetadataOperation

def method : MetadataOperation → MetadataMethod Unit
  | .patch campaignId request => patchCampaign campaignId request
  | .increment key => do
    let _ ← incrementCampaignMetadataCounter key
    return ()
  | .reset key => resetCampaignMetadataCounter key
  | .redial request => redialCampaign request

def concerns : MetadataOperation → List String
  | .patch _ request => request.settings.map Prod.fst
  | .increment key => [key]
  | .reset key => [key]
  | .redial _ => [redialedKey]

end MetadataOperation

def wholeDocument : MetadataCommand → Option Metadata
  | .commitCampaign loaded changes => changes.document loaded
  | .commitRedial _ metadata => some metadata
  | _ => none

def writtenValue (operation : MetadataOperation) (command : MetadataCommand) (found : MetadataStore)
    (key : String) : Option (Option MetadataValue) :=
  match operation, command with
  | .patch _ request, .commitCampaign loaded changes =>
    if (changes.document loaded).isSome then (request.settings.lookup key).map some else none
  | .redial _, .commitRedial child _ =>
    if key = redialedKey then some (some (.number child.id)) else none
  | .increment counter, .incrementCounter _ =>
    if key = counter then (found.nextCount counter).map fun value => some (.number value) else none
  | .reset counter, .resetCounter _ => if key = counter then some none else none
  | _, _ => none

section

variable {ι : Type}

abbrev MetadataRecord (ι : Type) := Recorded ι MetadataCommand RouteError MetadataStore MetadataMove

def entryWrite (operations : ι → MetadataOperation) (key : String) :
    Entry ι MetadataCommand RouteError MetadataStore MetadataMove → Option (Option MetadataValue)
  | .call proc command outcome found =>
    if outcome.executed then writtenValue (operations proc) command found key else none
  | .environment _ _ => none

def lastWritten (operations : ι → MetadataOperation) (initial : Metadata) (s : MetadataRecord ι)
    (key : String) : Option MetadataValue :=
  (s.history.findSome? (entryWrite operations key)).getD (initial.lookup key)

/-- No operation has reverted another one's write. -/
structure HoldsLastWrites (operations : ι → MetadataOperation) (initial : Metadata)
    (s : MetadataRecord ι) : Prop where
  present : s.state.campaign.isSome
  holds : ∀ key, s.state.metadata.lookup key = lastWritten operations initial s key

/-- The document agrees with the stored one on the keys that the operation does not concern. -/
def AgreesElsewhere (operation : MetadataOperation) (document : Metadata) (s : MetadataStore) : Prop :=
  ∀ key, key ∉ operation.concerns → document.lookup key = s.metadata.lookup key

def eraseAll (metadata : Metadata) (keys : List String) : Metadata :=
  keys.foldl (fun metadata key => metadata.erase key) metadata

theorem lookup_eraseAll (metadata : Metadata) (keys : List String) (key : String) :
    (eraseAll metadata keys).lookup key = if key ∈ keys then none else metadata.lookup key := by
  induction keys generalizing metadata with
  | nil => rfl
  | cons first keys ih =>
    have hStep : eraseAll metadata (first :: keys) = eraseAll (metadata.erase first) keys := rfl
    rw [hStep, ih]
    by_cases hFirst : key = first
    · subst hFirst
      simp [Finmap.lookup_erase]
    · simp [hFirst, Finmap.lookup_erase_ne hFirst]

theorem agreesElsewhere_iff (operation : MetadataOperation) (document : Metadata)
    (s : MetadataStore) : AgreesElsewhere operation document s ↔
      eraseAll document operation.concerns = eraseAll s.metadata operation.concerns := by
  constructor
  · intro h
    apply Finmap.ext_lookup
    intro key
    rw [lookup_eraseAll, lookup_eraseAll]
    split
    · rfl
    · exact h key ‹_›
  · intro h key hKey
    have hLookup := congrArg (Finmap.lookup key) h
    rwa [lookup_eraseAll, lookup_eraseAll, if_neg hKey, if_neg hKey] at hLookup

instance (operation : MetadataOperation) (document : Metadata) (s : MetadataStore) :
    Decidable (AgreesElsewhere operation document s) :=
  decidable_of_iff _ (agreesElsewhere_iff operation document s).symm

def agreementDiscipline (operations : ι → MetadataOperation) :
    System.Discipline ι MetadataCommand.Reply RouteError (MetadataRecord ι) MetadataMove where
  call proc command outcome s := outcome.executed = true →
    ∀ document ∈ wholeDocument command, AgreesElsewhere (operations proc) document s.state
  environment _ _ := True

instance (operations : ι → MetadataOperation) (proc : ι) (command : MetadataCommand)
    (outcome : Outcome RouteError) (s : MetadataRecord ι) :
    Decidable ((agreementDiscipline operations).call proc command outcome s) :=
  inferInstanceAs (Decidable (outcome.executed = true →
    ∀ document ∈ wholeDocument command, AgreesElsewhere (operations proc) document s.state))

instance (operations : ι → MetadataOperation) (move : MetadataMove) (s : MetadataRecord ι) :
    Decidable ((agreementDiscipline operations).environment move s) := isTrue trivial

def IsCommandOf : MetadataOperation → MetadataCommand → Prop
  | .patch _ request, .commitCampaign _ changes => ∀ document ∈ changes.metadata,
      ∀ key, ∀ value ∈ request.settings.lookup key, document.lookup key = some value
  | .patch _ _, .commitRedial _ _ => False
  | .redial _, .commitCampaign _ _ => False
  | .redial _, .commitRedial child metadata =>
    metadata.lookup redialedKey = some (.number child.id)
  | .increment counter, .incrementCounter key => key = counter
  | .reset counter, .resetCounter key => key = counter
  | _, .commitCampaign _ _ => False
  | _, .commitRedial _ _ => False
  | _, .incrementCounter _ => False
  | _, .resetCounter _ => False
  | _, _ => True

end

section Settings

theorem lookup_setAll (metadata : Metadata) (settings : List (String × MetadataValue)) (key : String)
    (hDistinct : (settings.map Prod.fst).Nodup) : (setAll metadata settings).lookup key =
      (settings.lookup key).or (metadata.lookup key) := by
  induction settings generalizing metadata with
  | nil => rfl
  | cons setting settings ih =>
    obtain ⟨hFresh, hRest⟩ := List.nodup_cons.mp hDistinct
    have hStep : setAll metadata (setting :: settings) =
        setAll (metadata.insert setting.1 setting.2) settings := rfl
    rw [hStep, ih _ hRest, List.lookup_cons]
    by_cases hKey : key = setting.1
    · rw [hKey]
      have hNone : settings.lookup setting.1 = none := by
        rw [List.lookup_eq_none_iff]
        intro other hOther
        apply bne_iff_ne.mpr
        intro hEq
        exact hFresh (hEq ▸ List.mem_map_of_mem hOther)
      rw [hNone, Finmap.lookup_insert, beq_self_eq_true]
      rfl
    · rw [Finmap.lookup_insert_of_ne _ hKey, beq_eq_false_iff_ne.mpr hKey]

theorem settings_nodup (request : UpdateCampaignRequest) : (request.settings.map Prod.fst).Nodup := by
  obtain ⟨name, retryConfig, _ | maxConcurrency, _ | scheduleConfig, _ | circuitBreaker⟩ := request
  all_goals simp [UpdateCampaignRequest.settings]

theorem lookup_settings_eq_none (operation : MetadataOperation) {campaignId : Nat}
    {request : UpdateCampaignRequest} (h : operation = .patch campaignId request) (key : String) :
    request.settings.lookup key = none ↔ key ∉ operation.concerns := by
  subst h
  rw [List.lookup_eq_none_iff, MetadataOperation.concerns, List.mem_map]
  constructor
  · rintro hNone ⟨setting, hSetting, rfl⟩
    simpa using hNone setting hSetting
  · intro hNot setting hSetting
    apply bne_iff_ne.mpr
    rintro rfl
    exact hNot ⟨setting, hSetting, rfl⟩

end Settings

section Programs

theorem updateCampaignDocument_issues {P : MetadataCommand → Prop} (campaignId : Nat)
    (changes : DocumentChanges) (hLoad : P .loadCampaign)
    (hCommit : ∀ loaded, P (.commitCampaign loaded changes)) :
    (updateCampaignDocument campaignId changes).Issues P := by
  refine (Program.issues_call hLoad).bind fun loaded => ?_
  cases loaded with
  | none => trivial
  | some loaded => exact Program.issues_call (hCommit loaded)

theorem validateRequest_issues {P : MetadataCommand → Prop} (request : UpdateCampaignRequest)
    (hLimit : P .getOrgConcurrentLimit) (hNumbers : P .getFromNumbersCount) :
    (validateRequest request).Issues P := by
  rw [validateRequest]
  split
  · trivial
  · refine (Program.issues_call hLimit).bind fun orgLimit =>
      (Program.issues_call hNumbers).bind fun fromNumbersCount => ?_
    simp only
    split_ifs <;> trivial

theorem patchCampaign_issues (campaignId : Nat) (request : UpdateCampaignRequest) :
    (patchCampaign campaignId request).Issues (IsCommandOf (.patch campaignId request)) := by
  have hGet : IsCommandOf (.patch campaignId request) .getCampaign := trivial
  refine (Program.issues_call hGet).bind fun campaign => ?_
  cases campaign with
  | none => trivial
  | some campaign =>
    simp only
    split
    · trivial
    · refine (validateRequest_issues request trivial trivial).bind fun _ => ?_
      split
      · split
        · apply updateCampaignDocument_issues
          · trivial
          · rintro loaded document ⟨⟩
        · trivial
      · split
        · apply updateCampaignDocument_issues
          · trivial
          · rintro loaded document ⟨⟩ key value hValue
            rw [lookup_setAll _ _ _ (settings_nodup request), Option.mem_def.mp hValue]
            rfl
        · trivial

theorem method_issues (operation : MetadataOperation) : operation.method.Issues (IsCommandOf operation) := by
  cases operation with
  | patch campaignId request => exact patchCampaign_issues campaignId request
  | increment key =>
    have hIncrement : IsCommandOf (.increment key) (.incrementCounter key) := rfl
    refine Program.Issues.bind ((Program.issues_call hIncrement).bind fun attempt => ?_)
      fun _ => trivial
    cases attempt <;> trivial
  | reset key =>
    have hReset : IsCommandOf (.reset key) (.resetCounter key) := rfl
    exact Program.issues_call hReset
  | redial request =>
    refine (redialCampaign_issues request).mono fun command hCommand => ?_
    cases command <;> exact hCommand

end Programs

section Steps

variable {operation : MetadataOperation} {command : MetadataCommand} {s : MetadataStore}

theorem metadata_commitCampaign (loaded : CampaignDocument) (changes : DocumentChanges)
    (h : s.campaign.isSome) : (s.execute (.commitCampaign loaded changes)).2.metadata =
      (changes.document loaded).getD s.metadata := by
  obtain ⟨row, hRow⟩ := Option.isSome_iff_exists.mp h
  simp [MetadataStore.execute, MetadataStore.metadata, hRow, CampaignDocument.write]

theorem metadata_incrementCounter (key : String) (h : s.campaign.isSome) :
    (s.execute (.incrementCounter key)).2.metadata =
      (s.nextCount key).elim s.metadata fun value => s.metadata.insert key (.number value) := by
  rw [MetadataStore.execute]
  cases s.nextCount key with
  | none => rfl
  | some value => exact metadata_setMetadata s _ h

theorem lookup_execute_iff (h : s.campaign.isSome) (hCommand : IsCommandOf operation command) :
    (∀ key, (s.execute command).2.metadata.lookup key =
        (writtenValue operation command s key).getD (s.metadata.lookup key)) ↔
      ∀ document ∈ wholeDocument command, AgreesElsewhere operation document s := by
  cases command with
  | commitCampaign loaded changes =>
    cases operation with
    | patch campaignId request =>
      rw [metadata_commitCampaign loaded changes h]
      cases hDocument : changes.document loaded with
      | none =>
        refine iff_of_true (fun key => ?_) fun document hNone => ?_
        · simp [writtenValue, hDocument]
        · simp [wholeDocument, hDocument] at hNone
      | some document =>
        have hWritten : document ∈ changes.metadata :=
          (Option.filter_eq_some_iff.mp hDocument).1
        have hSettings := hCommand document hWritten
        have hWhole : wholeDocument (.commitCampaign loaded changes) = some document := hDocument
        rw [hWhole, Option.getD_some]
        simp only [Option.mem_some_iff, forall_eq', AgreesElsewhere, writtenValue, hDocument,
          Option.isSome_some, if_true]
        refine forall_congr' fun key => ?_
        rw [← lookup_settings_eq_none (.patch campaignId request) rfl]
        cases hValue : request.settings.lookup key with
        | none => simp
        | some value => simp [hSettings key value hValue]
    | _ => exact hCommand.elim
  | commitRedial child metadata =>
    cases operation with
    | redial request =>
      have hMetadata : (s.execute (.commitRedial child metadata)).2.metadata = metadata :=
        metadata_setMetadata s metadata h
      have hWhole : wholeDocument (.commitRedial child metadata) = some metadata := rfl
      rw [hMetadata, hWhole]
      simp only [Option.mem_some_iff, forall_eq', AgreesElsewhere, writtenValue,
        MetadataOperation.concerns, List.mem_singleton]
      refine forall_congr' fun key => ?_
      by_cases hKey : key = redialedKey
      · subst hKey
        exact iff_of_true (by rw [if_pos rfl]; exact hCommand) fun hNot => absurd rfl hNot
      · simp [hKey]
    | _ => exact hCommand.elim
  | incrementCounter key =>
    cases operation with
    | increment counter =>
      obtain rfl : key = counter := hCommand
      refine iff_of_true (fun other => ?_) fun document hNone => by cases hNone
      rw [metadata_incrementCounter key h, writtenValue]
      by_cases hOther : other = key
      · subst hOther
        rw [if_pos rfl]
        cases s.nextCount other with
        | none => rfl
        | some value => exact Finmap.lookup_insert _
      · rw [if_neg hOther]
        cases s.nextCount key with
        | none => rfl
        | some value => exact Finmap.lookup_insert_of_ne _ hOther
    | _ => exact hCommand.elim
  | resetCounter key =>
    cases operation with
    | reset counter =>
      obtain rfl : key = counter := hCommand
      refine iff_of_true (fun other => ?_) fun document hNone => by cases hNone
      have hMetadata : (s.execute (.resetCounter key)).2.metadata = s.metadata.erase key :=
        metadata_setMetadata s _ h
      rw [hMetadata, writtenValue]
      by_cases hOther : other = key
      · subst hOther
        rw [if_pos rfl, Finmap.lookup_erase]
        rfl
      · rw [if_neg hOther, Finmap.lookup_erase_ne hOther]
        rfl
    | _ => exact hCommand.elim
  | _ =>
    refine iff_of_true (fun key => ?_) fun document hNone => by cases hNone
    cases operation <;> rfl

end Steps

section Runs

variable {ι : Type} {operations : ι → MetadataOperation} {initial : Metadata}

theorem lastWritten_cons (entry : Entry ι MetadataCommand RouteError MetadataStore MetadataMove)
    (state : MetadataStore) (s : MetadataRecord ι) (key : String) :
    lastWritten operations initial ⟨state, entry :: s.history⟩ key =
      (entryWrite operations key entry).getD (lastWritten operations initial s key) := by
  rw [lastWritten, List.findSome?_cons]
  cases entryWrite operations key entry <;> rfl

theorem present_execute {s : MetadataStore} (command : MetadataCommand) (h : s.campaign.isSome) :
    (s.execute command).2.campaign.isSome := by
  cases command with
  | commitCampaign loaded changes =>
    rw [MetadataStore.execute, Option.isSome_map]
    exact h
  | incrementCounter key =>
    rw [MetadataStore.execute]
    cases s.nextCount key with
    | none => exact h
    | some value =>
      simp only [MetadataStore.setMetadata, Option.isSome_map]
      exact h
  | resetCounter key =>
    rw [MetadataStore.execute, MetadataStore.setMetadata, Option.isSome_map]
    exact h
  | commitRedial child metadata =>
    simp only [MetadataStore.execute, MetadataStore.setMetadata, Option.isSome_map]
    exact h
  | _ => exact h

theorem holdsLastWrites_call {s : MetadataRecord ι} {proc : ι} {command : MetadataCommand}
    {outcome : Outcome RouteError} (h : HoldsLastWrites operations initial s)
    (hCommand : IsCommandOf (operations proc) command) : HoldsLastWrites operations initial
        ((metadataServices ι).recorded.perform proc command outcome s).2 ↔
      (agreementDiscipline operations).call proc command outcome s := by
  have hAfter : ((metadataServices ι).recorded.perform proc command outcome s).2 =
      ⟨if outcome.executed then (s.state.execute command).2 else s.state,
        .call proc command outcome s.state :: s.history⟩ := by
    rw [← metadata_perform proc command outcome s.state]
    rfl
  rw [hAfter]
  cases hExecuted : outcome.executed with
  | true =>
    have hWrite : ∀ key, entryWrite operations key (.call proc command outcome s.state) =
        writtenValue (operations proc) command s.state key := by
      intro key
      rw [entryWrite, if_pos hExecuted]
    have hStep := lookup_execute_iff h.present hCommand
    simp only [agreementDiscipline, hExecuted, if_true, forall_const]
    rw [← hStep]
    constructor
    · intro hHolds key
      have hKey := hHolds.holds key
      rw [lastWritten_cons, hWrite, ← h.holds key] at hKey
      exact hKey
    · intro hKeys
      refine ⟨present_execute command h.present, fun key => ?_⟩
      rw [lastWritten_cons, hWrite, ← h.holds key]
      exact hKeys key
  | false =>
    simp only [agreementDiscipline, hExecuted, Bool.false_eq_true, if_false, IsEmpty.forall_iff,
      iff_true]
    refine ⟨h.present, fun key => ?_⟩
    rw [lastWritten_cons, entryWrite, if_neg (by simp [hExecuted])]
    exact h.holds key

theorem holdsLastWrites_environment {s s' : MetadataRecord ι} {move : MetadataMove}
    (h : HoldsLastWrites operations initial s)
    (hMove : (metadataServices ι).recorded.environment move s = some s') :
    HoldsLastWrites operations initial s' := by
  obtain ⟨state, hState, rfl⟩ := Option.map_eq_some_iff.mp hMove
  have hSame : state.campaign.isSome ∧ state.metadata = s.state.metadata := by
    cases move with
    | limits orgConcurrentLimit fromNumbersCount =>
      cases hState
      exact ⟨h.present, rfl⟩
    | calls redialCandidates =>
      cases hState
      exact ⟨h.present, rfl⟩
    | state value =>
      cases hState
      obtain ⟨row, hRow⟩ := Option.isSome_iff_exists.mp h.present
      simp [MetadataStore.metadata, hRow]
  refine ⟨hSame.1, fun key => ?_⟩
  rw [lastWritten_cons, hSame.2]
  exact h.holds key

variable [DecidableEq ι]

def metadataOperations (operations : ι → MetadataOperation) (s : MetadataStore) :
    Config ι MetadataCommand.Reply RouteError Unit (MetadataRecord ι) where
  shared := ⟨s, []⟩
  procs proc := (operations proc).method

end Runs

def limitTwo : UpdateCampaignRequest := ⟨none, none, some 2, none, none⟩

def poolCounterKey : String := "phone_number_pool_exhausted_attempts"

def settingsAndCounter (settings : Bool) : MetadataOperation :=
  if settings then .patch 3 limitTwo else .increment poolCounterKey

end FastVoice.Campaign
