import FastVoice.Campaign.Metadata

/-! # Redialing a campaign once

Any number of redial requests for one campaign. The check and the new document come from a row that
was read before the transaction, so that what decides is the document which a commit finds.
-/
namespace FastVoice.Campaign
open Async

structure AtMostOneChild (s : MetadataStore) : Prop where
  present : s.campaign.isSome
  one : s.children.length ≤ 1
  named : ∀ child ∈ s.children, s.metadata.lookup redialedKey = some (.number child.id)
  unnamed : s.children = [] → s.metadata.lookup redialedKey = none

/-- A redial is committed to a document without a redial campaign. -/
def FindsUnredialed : MetadataCommand → MetadataStore → Prop
  | .commitRedial _ _, s => s.metadata.lookup redialedKey = none
  | _, _ => True

instance (command : MetadataCommand) (s : MetadataStore) : Decidable (FindsUnredialed command s) :=
  match command with
  | .commitRedial _ _ => inferInstanceAs (Decidable (s.metadata.lookup redialedKey = none))
  | .getCampaign => isTrue trivial
  | .getOrgConcurrentLimit => isTrue trivial
  | .getFromNumbersCount => isTrue trivial
  | .getRedialCandidates _ => isTrue trivial
  | .loadCampaign => isTrue trivial
  | .commitCampaign _ _ => isTrue trivial
  | .incrementCounter _ => isTrue trivial
  | .resetCounter _ => isTrue trivial
  | .flushChild => isTrue trivial

section

variable {ι : Type}

def redialDiscipline (ι : Type) :
    System.Discipline ι MetadataCommand.Reply RouteError MetadataStore MetadataMove where
  call _ command outcome s := outcome.executed = true → FindsUnredialed command s
  environment _ _ := True

instance (proc : ι) (command : MetadataCommand) (outcome : Outcome RouteError) (s : MetadataStore) :
    Decidable ((redialDiscipline ι).call proc command outcome s) :=
  inferInstanceAs (Decidable (outcome.executed = true → FindsUnredialed command s))

instance (move : MetadataMove) (s : MetadataStore) :
    Decidable ((redialDiscipline ι).environment move s) := isTrue trivial

def IsRedialCommand : MetadataCommand → Prop
  | .commitRedial child metadata => metadata.lookup redialedKey = some (.number child.id)
  | .commitCampaign _ _ => False
  | .incrementCounter _ => False
  | .resetCounter _ => False
  | _ => True

theorem createRedialCampaign_issues (parent : CampaignDocument) (newName : String)
    (retryConfig : RetryConfig) (queuedRuns : List RedialCandidate) :
    (createRedialCampaign parent newName retryConfig queuedRuns).Issues IsRedialCommand := by
  rw [createRedialCampaign]
  split
  · trivial
  · have hFlush : IsRedialCommand .flushChild := trivial
    have hLoad : IsRedialCommand .loadCampaign := trivial
    refine (Program.issues_call hFlush).bind fun childId =>
      (Program.issues_call hLoad).bind fun loaded => ?_
    cases loaded with
    | none => trivial
    | some row =>
      apply Program.issues_call
      exact Finmap.lookup_insert _

theorem redialCampaign_issues (request : RedialCampaignRequest) :
    (redialCampaign request).Issues IsRedialCommand := by
  have hGet : IsRedialCommand .getCampaign := trivial
  refine (Program.issues_call hGet).bind fun parent => ?_
  cases parent with
  | none => trivial
  | some parent =>
    simp only
    split
    · trivial
    · split
      · trivial
      · have hCandidates : IsRedialCommand (.getRedialCandidates ⟨request.retryOnVoicemail,
            request.retryOnNoAnswer, request.retryOnBusy⟩) := trivial
        refine (Program.issues_call hCandidates).bind fun candidates => ?_
        split
        · trivial
        · refine (createRedialCampaign_issues _ _ _ _).tryCatch fun error => ?_
          cases error <;> trivial

theorem metadata_perform (proc : ι) (command : MetadataCommand) (outcome : Outcome RouteError)
    (s : MetadataStore) : ((metadataServices ι).perform proc command outcome s).2 =
      if outcome.executed then (s.execute command).2 else s := by
  cases outcome with
  | reply => rfl
  | fail error applied => cases applied <;> rfl

theorem metadata_setMetadata (s : MetadataStore) (metadata : Metadata) (h : s.campaign.isSome) :
    (s.setMetadata metadata).metadata = metadata := by
  obtain ⟨row, hRow⟩ := Option.isSome_iff_exists.mp h
  simp [MetadataStore.setMetadata, MetadataStore.metadata, hRow]

theorem atMostOneChild_execute {command : MetadataCommand} {s : MetadataStore}
    (h : AtMostOneChild s) (hCommand : IsRedialCommand command) :
    AtMostOneChild (s.execute command).2 ↔ FindsUnredialed command s := by
  cases command with
  | commitRedial child metadata =>
    have hMetadata : (s.execute (.commitRedial child metadata)).2.metadata = metadata :=
      metadata_setMetadata s metadata h.present
    constructor
    · intro hAfter
      have hOne : s.children.length + 1 ≤ 1 := hAfter.one
      exact h.unnamed (List.eq_nil_of_length_eq_zero (by omega))
    · intro hFound
      have hNone : s.children = [] := by
        cases hChildren : s.children with
        | nil => rfl
        | cons first rest =>
          have hNamed := h.named first (hChildren ▸ List.mem_cons_self)
          rw [show s.metadata.lookup redialedKey = none from hFound] at hNamed
          cases hNamed
      have hChildren : (s.execute (.commitRedial child metadata)).2.children = [child] := by
        rw [← hNone]
        rfl
      refine ⟨?_, ?_, ?_, ?_⟩
      · show (s.setMetadata metadata).campaign.isSome
        rw [MetadataStore.setMetadata, Option.isSome_map]
        exact h.present
      · rw [hChildren]
        exact Nat.le_refl 1
      · rw [hChildren, hMetadata]
        intro other hOther
        rw [List.mem_singleton.mp hOther]
        exact hCommand
      · rw [hChildren]
        intro hEmpty
        cases hEmpty
  | commitCampaign loaded changes => exact hCommand.elim
  | incrementCounter key => exact hCommand.elim
  | resetCounter key => exact hCommand.elim
  | flushChild => exact iff_of_true ⟨h.present, h.one, h.named, h.unnamed⟩ trivial
  | _ => exact iff_of_true h trivial

theorem atMostOneChild_environment {move : MetadataMove} {s s' : MetadataStore}
    (h : AtMostOneChild s) (hMove : MetadataStore.environment move s = some s') : AtMostOneChild s' := by
  cases move with
  | limits orgConcurrentLimit fromNumbersCount =>
    cases hMove
    exact ⟨h.present, h.one, h.named, h.unnamed⟩
  | calls redialCandidates =>
    cases hMove
    exact ⟨h.present, h.one, h.named, h.unnamed⟩
  | state state =>
    cases hMove
    have hMetadata : ({ s with campaign := s.campaign.map fun row => { row with state } } :
        MetadataStore).metadata = s.metadata := by
      cases hRow : s.campaign with
      | none => simp [MetadataStore.metadata, hRow]
      | some row => simp [MetadataStore.metadata, hRow]
    refine ⟨?_, h.one, ?_, ?_⟩
    · rw [Option.isSome_map]
      exact h.present
    · rw [hMetadata]
      exact h.named
    · rw [hMetadata]
      exact h.unnamed

variable [DecidableEq ι]

def redialRequests (requests : ι → RedialCampaignRequest) (s : MetadataStore) :
    Config ι MetadataCommand.Reply RouteError Unit MetadataStore where
  shared := s
  procs proc := redialCampaign (requests proc)

/-- A campaign has at most one redial campaign throughout a run, and names it, exactly when every
redial is committed to a document without one. -/
theorem redialed_once_iff {requests : ι → RedialCampaignRequest} {s : MetadataStore}
    (hStart : AtMostOneChild s) {events : List (Event ι RouteError MetadataMove)}
    {last : Config ι MetadataCommand.Reply RouteError Unit MetadataStore}
    (hRun : (metadataServices ι).run (redialRequests requests s) events = some last) :
    (∀ n mid, (metadataServices ι).run (redialRequests requests s) (events.take n) = some mid →
        AtMostOneChild mid.shared) ↔
      (metadataServices ι).Follows (redialDiscipline ι) (redialRequests requests s) events := by
  refine System.throughout_iff (P := fun _ => IsRedialCommand) ?_ ?_ hRun
    (fun proc => redialCampaign_issues (requests proc)) hStart
  · intro proc command outcome s h hCommand
    rw [metadata_perform]
    cases hExecuted : outcome.executed with
    | true =>
      rw [if_pos rfl, atMostOneChild_execute h hCommand]
      simp [redialDiscipline, hExecuted]
    | false =>
      rw [if_neg Bool.false_ne_true]
      exact iff_of_true h fun hYes => by simp [hExecuted] at hYes
  · intro move s s' h hMove
    exact iff_of_true (atMostOneChild_environment h hMove) trivial

end

def CampaignDocument.plain (state : CampaignState) : CampaignDocument where
  id := 3
  name := "Leads"
  state := state
  origin := ⟨1, "csv", "campaigns/1/leads.csv", 2, 7, 1⟩
  retryConfig := defaultCampaignRetryConfig
  metadata := ∅

def MetadataStore.plain (state : CampaignState) : MetadataStore where
  campaign := some (.plain state)
  children := []
  lastCampaignId := 3
  orgConcurrentLimit := 10
  fromNumbersCount := 0
  redialCandidates := fun _ => [⟨"csv_1", ⟨some "+15550123", false, none, none⟩⟩]

def redialBusy : RedialCampaignRequest := ⟨none, false, false, true, none⟩

def redialStep (first : Bool) : Event Bool RouteError MetadataMove := .resume first .reply

theorem atMostOneChild_plain (state : CampaignState) : AtMostOneChild (.plain state) := by
  refine ⟨rfl, Nat.zero_le 1, fun child hChild => ?_, fun _ => rfl⟩
  cases hChild

theorem redialed_in_turn : ∃ last,
    (metadataServices Bool).run (redialRequests (fun _ => redialBusy) (.plain .completed))
      ([true, true, true, true, true, false].map redialStep) = some last ∧
    AtMostOneChild last.shared := by
  have hEnds : ((metadataServices Bool).run
      (redialRequests (fun _ => redialBusy) (.plain .completed))
      ([true, true, true, true, true, false].map redialStep)).isSome = true := by
    decide +kernel
  obtain ⟨last, hLast⟩ := Option.isSome_iff_exists.mp hEnds
  have hFollows := (redialed_once_iff (atMostOneChild_plain .completed) hLast).mpr
    (by decide +kernel)
  exact ⟨last, hLast, hFollows 6 last hLast⟩

theorem redialed_twice : ¬ ∀ (requests : Bool → RedialCampaignRequest) (s : MetadataStore)
    (events : List (Event Bool RouteError MetadataMove))
    (last : Config Bool MetadataCommand.Reply RouteError Unit MetadataStore),
    AtMostOneChild s → (metadataServices Bool).run (redialRequests requests s) events = some last →
    (∀ proc, (last.procs proc).finished = true) → AtMostOneChild last.shared := by
  intro h
  have hEnds : ((metadataServices Bool).run
      (redialRequests (fun _ => redialBusy) (.plain .completed))
      ([true, false, true, true, true, true, false, false, false, false].map redialStep)).any
        (fun last => decide ((∀ proc, (last.procs proc).finished = true) ∧
          last.shared.children.length = 2)) = true := by
    decide +kernel
  obtain ⟨last, hLast, hTwo⟩ := (Option.any_eq_true _ _).mp hEnds
  obtain ⟨hFinished, hLength⟩ := of_decide_eq_true hTwo
  have hOne := (h _ _ _ last (atMostOneChild_plain .completed) hLast hFinished).one
  omega

end FastVoice.Campaign
