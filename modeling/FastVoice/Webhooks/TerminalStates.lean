import FastVoice.Webhooks.Delivery

/-! # Terminal states of a delivery

Any number of delivery tasks and sweeps on one row. A claim is conditional, but the outcome of an
attempt is written whatever the row has become since the claim, and a request is sent without looking
at the row again.
-/
namespace FastVoice.Webhooks
open Async

section Statements

variable {ι : Type}

abbrev DeliveryEntry (ι : Type) := Entry ι DeliveryCommand DeliveryError DeliveryStore DeliveryMove

abbrev DeliveryRecord (ι : Type) :=
  Recorded ι DeliveryCommand DeliveryError DeliveryStore DeliveryMove

def foundSuccess (entry : DeliveryEntry ι) : Bool := entry.found.row.status = .succeeded

def isSend : DeliveryEntry ι → Bool
  | .call _ (.send _) outcome _ => outcome.executed
  | _ => false

def SilentAfterSuccess : List (DeliveryEntry ι) → Prop
  | [] => True
  | entry :: earlier => (isSend entry = true → ∀ other ∈ entry :: earlier, foundSuccess other = false) ∧
      SilentAfterSuccess earlier

structure TerminalStatesFinal (s : DeliveryRecord ι) : Prop where
  final : (∃ entry ∈ s.history, entry.found.row.status ≠ .pending) → s.state.row.status ≠ .pending
  silent : SilentAfterSuccess s.history

variable [DecidableEq ι]

def isClaimOf (proc : ι) : DeliveryEntry ι → Bool
  | .call caller (.claim _ _) outcome _ => decide (caller = proc) && outcome.executed
  | _ => false

def sinceClaim (proc : ι) (history : List (DeliveryEntry ι)) : List (DeliveryEntry ι) :=
  history.takeWhile fun entry => !isClaimOf proc entry

/-- A retry is scheduled for a row that is still pending, and a request is sent for a row that no
other task has delivered since the claim. -/
def FindsUnfinished (proc : ι) (s : DeliveryRecord ι) : DeliveryCommand → Prop
  | .scheduleRetry _ _ _ _ => s.state.row.status = .pending
  | .send _ => s.state.row.status ≠ .succeeded ∧
      ∀ entry ∈ sinceClaim proc s.history, foundSuccess entry = false
  | _ => True

instance (proc : ι) (s : DeliveryRecord ι) (command : DeliveryCommand) :
    Decidable (FindsUnfinished proc s command) := by
  unfold FindsUnfinished
  split <;> infer_instance

def deliveryDiscipline (ι : Type) [DecidableEq ι] :
    System.Discipline ι DeliveryCommand.Reply DeliveryError (DeliveryRecord ι) DeliveryMove where
  call proc command outcome s := outcome.executed = true → FindsUnfinished proc s command
  environment _ _ := True

instance (proc : ι) (command : DeliveryCommand) (outcome : Outcome DeliveryError)
    (s : DeliveryRecord ι) : Decidable ((deliveryDiscipline ι).call proc command outcome s) :=
  inferInstanceAs (Decidable (outcome.executed = true → FindsUnfinished proc s command))

instance (move : DeliveryMove) (s : DeliveryRecord ι) :
    Decidable ((deliveryDiscipline ι).environment move s) := isTrue trivial

end Statements

inductive DeliveryTask where
  | deliver
  | sweep

def DeliveryTask.method (config : WebhookDeliveryConfig) : DeliveryTask → DeliveryMethod Unit
  | .deliver => deliverWebhook config
  | .sweep => sweepWebhookDeliveries

def claimProtocol : Protocol DeliveryCommand.Reply DeliveryError Bool where
  permits claimed
    | .claim _ _ => claimed = false
    | .send _ => claimed = true
    | _ => True
  next claimed
    | .claim _ _, .ok granted => granted
    | _, _ => claimed

def ClaimsNothing : DeliveryCommand → Prop
  | .claim _ _ => False
  | _ => True

def SendsNothing : DeliveryCommand → Prop
  | .send _ => False
  | command => ClaimsNothing command

theorem enqueueDelivery_issues (deliveryId attemptCount deferBy : Nat) (reclaimToken : Option Nat) :
    (enqueueDelivery deliveryId attemptCount deferBy reclaimToken).Issues SendsNothing :=
  Program.issues_call trivial

theorem handleTransientFailure_issues (config : WebhookDeliveryConfig) (delivery : WebhookDelivery)
    (attempt : Nat) (error : String) (statusCode : Option Nat) :
    (handleTransientFailure config delivery attempt error statusCode).Issues ClaimsNothing := by
  rw [handleTransientFailure]
  split
  · exact Program.issues_call trivial
  · have hNow : ClaimsNothing .now := trivial
    refine (Program.issues_call hNow).bind fun now => ?_
    have hRetry : ClaimsNothing (.scheduleRetry attempt (later now (config.backoffSeconds attempt))
        error statusCode) := trivial
    exact (Program.issues_call hRetry).bind fun _ => Program.issues_call trivial

theorem request_issues (delivery : WebhookDelivery) (attempt : Nat) :
    (request delivery attempt).Issues ClaimsNothing := by
  have hHeaders : (buildHeaders delivery).Issues ClaimsNothing := by
    rw [buildHeaders]
    split
    · trivial
    · exact Program.issues_call trivial
  have hSend : ClaimsNothing (.send attempt) := trivial
  exact hHeaders.bind fun _ => (Program.issues_call hSend).bind fun _ => Program.issues_call trivial

theorem requested_issues (delivery : WebhookDelivery) (attempt : Nat) :
    (requested delivery attempt).Issues ClaimsNothing := by
  have hResponse : (request delivery attempt >>= fun response =>
      (.ret (Except.ok response) : DeliveryMethod (Except DeliveryError HttpResponse))).Issues
        ClaimsNothing := (request_issues delivery attempt).bind fun _ => trivial
  refine hResponse.tryCatch fun error => ?_
  cases error <;> trivial

theorem attemptDelivery_issues (config : WebhookDeliveryConfig) (delivery : WebhookDelivery) :
    (attemptDelivery config delivery).Issues ClaimsNothing := by
  refine (requested_issues delivery _).bind fun result => ?_
  cases result with
  | ok response =>
    simp only
    split
    · refine (Program.issues_call trivial).tryCatch fun error => ?_
      cases error <;> trivial
    · split
      · exact handleTransientFailure_issues _ _ _ _ _
      · exact Program.issues_call trivial
  | error error =>
    cases error with
    | cancelledError => trivial
    | requestError text => exact handleTransientFailure_issues _ _ _ _ _
    | exception text => exact Program.issues_call trivial

theorem enqueueDue_issues (due : List WebhookDelivery) : (enqueueDue due).Issues SendsNothing := by
  induction due with
  | nil => trivial
  | cons delivery due ih => exact (enqueueDelivery_issues _ _ _ _).bind fun _ => ih

theorem permits_claimed {command : DeliveryCommand} (h : ClaimsNothing command) :
    claimProtocol.permits true command := by
  cases command <;> first | exact h.elim | exact rfl | trivial

theorem permits_unclaimed {command : DeliveryCommand} (h : SendsNothing command) :
    claimProtocol.permits false command := by
  cases command <;> first | exact h.elim | trivial

theorem next_claimsNothing {command : DeliveryCommand} (h : ClaimsNothing command) (claimed : Bool)
    (result : Except DeliveryError command.Reply) : claimProtocol.next claimed command result = claimed := by
  cases command <;> first | exact h.elim | rfl

theorem claimWebhookDelivery_obeys (leaseSeconds : Nat) :
    (claimWebhookDelivery leaseSeconds).Obeys claimProtocol
      (fun result claimed => ∀ delivery, result = .ok (some delivery) → claimed = true) false := by
  rw [claimWebhookDelivery, Program.call_bind]
  refine ⟨trivial, fun result => ?_⟩
  cases result with
  | error error => exact nofun
  | ok now =>
    rw [Program.proceed_ok, Program.call_bind]
    refine ⟨rfl, fun result => ?_⟩
    cases result with
    | error error => exact nofun
    | ok granted =>
      cases granted with
      | false => exact nofun
      | true =>
        rw [Program.proceed_ok, if_pos rfl, Program.call_bind]
        refine ⟨trivial, fun result => ?_⟩
        cases result with
        | error error => exact nofun
        | ok delivery => exact fun _ _ => rfl

theorem deliverWebhook_obeys (config : WebhookDeliveryConfig) :
    (deliverWebhook config).Obeys claimProtocol (fun _ _ => True) false := by
  refine (claimWebhookDelivery_obeys _).bind (fun claimed granted hGranted => ?_) fun _ _ _ => trivial
  cases claimed with
  | none => trivial
  | some delivery =>
    obtain rfl := hGranted delivery rfl
    have hObeys := (attemptDelivery_issues config delivery).obeys (P := claimProtocol)
      (T := (· = true)) (t := true) (by
        rintro _ command rfl hCommand
        exact ⟨permits_claimed hCommand, next_claimsNothing hCommand true⟩) rfl
    exact hObeys.weaken fun _ _ _ => trivial

theorem sweepWebhookDeliveries_obeys :
    sweepWebhookDeliveries.Obeys claimProtocol (fun _ _ => True) false := by
  have hIssues : sweepWebhookDeliveries.Issues SendsNothing := by
    have hNow : SendsNothing .now := trivial
    refine (Program.issues_call hNow).bind fun now => ?_
    have hDue : SendsNothing (.getDue now) := trivial
    exact (Program.issues_call hDue).bind enqueueDue_issues
  have hObeys := hIssues.obeys (P := claimProtocol) (T := (· = false)) (t := false) (by
    rintro _ command rfl hCommand
    refine ⟨permits_unclaimed hCommand, next_claimsNothing ?_ false⟩
    cases command <;> first | exact hCommand.elim | exact hCommand) rfl
  exact hObeys.weaken fun _ _ _ => trivial

theorem DeliveryTask.obeys (config : WebhookDeliveryConfig) (task : DeliveryTask) :
    (task.method config).Obeys claimProtocol (fun _ _ => True) false := by
  cases task with
  | deliver => exact deliverWebhook_obeys config
  | sweep => exact sweepWebhookDeliveries_obeys

section Steps

variable {ι : Type}

def writtenStatus : DeliveryCommand → Option DeliveryStatus
  | .markSucceeded _ _ => some .succeeded
  | .scheduleRetry _ _ _ _ => some .pending
  | .markDeadLetter _ _ _ => some .deadLetter
  | _ => none

theorem status_execute (command : DeliveryCommand) (s : DeliveryStore) :
    (s.execute command).2.row.status = (writtenStatus command).getD s.row.status := by
  cases command with
  | claim now leaseUntil =>
    rw [DeliveryStore.execute]
    split <;> rfl
  | _ => rfl

theorem delivery_perform (proc : ι) (command : DeliveryCommand) (outcome : Outcome DeliveryError)
    (s : DeliveryStore) : ((deliveryServices ι).perform proc command outcome s).2 =
      if outcome.executed then (s.execute command).2 else s := by
  cases outcome with
  | reply => rfl
  | fail error applied => cases applied <;> rfl

theorem pending_of_granted {now leaseUntil : UnixTime} {s : DeliveryStore}
    (h : (s.execute (.claim now leaseUntil)).1 = true) : s.row.status = .pending := by
  rw [DeliveryStore.execute] at h
  split at h
  · rename_i hClaimable
    rw [WebhookDelivery.isClaimable, Bool.and_eq_true] at hClaimable
    exact of_decide_eq_true hClaimable.1
  · cases h

variable {s : DeliveryRecord ι} {state : DeliveryStore} {entry : DeliveryEntry ι}

def HasSucceeded (s : DeliveryRecord ι) : Prop :=
  s.state.row.status = .succeeded ∨ ∃ entry ∈ s.history, foundSuccess entry = true

theorem TerminalStatesFinal.pending (h : TerminalStatesFinal s)
    (hPending : s.state.row.status = .pending) : ¬HasSucceeded s := by
  rintro (hSucceeded | ⟨entry, hEntry, hFound⟩)
  · rw [hPending] at hSucceeded
    cases hSucceeded
  · refine h.final ⟨entry, hEntry, ?_⟩ hPending
    rw [show entry.found.row.status = .succeeded from of_decide_eq_true hFound]
    decide

theorem TerminalStatesFinal.step (h : TerminalStatesFinal s) (hFound : entry.found = s.state)
    (hKeeps : s.state.row.status ≠ .pending → state.row.status ≠ .pending)
    (hSilent : isSend entry = true → ¬HasSucceeded s) : TerminalStatesFinal ⟨state, entry :: s.history⟩ := by
  constructor
  · rintro ⟨other, hOther, hTerminal⟩
    obtain rfl | hEarlier := List.mem_cons.mp hOther
    · rw [hFound] at hTerminal
      exact hKeeps hTerminal
    · exact hKeeps (h.final ⟨other, hEarlier, hTerminal⟩)
  · refine ⟨fun hSend other hOther => ?_, h.silent⟩
    rw [Bool.eq_false_iff]
    intro hSuccess
    obtain rfl | hEarlier := List.mem_cons.mp hOther
    · refine hSilent hSend (.inl ?_)
      rw [← hFound]
      exact of_decide_eq_true hSuccess
    · exact hSilent hSend (.inr ⟨other, hEarlier, hSuccess⟩)

theorem deliveryRecord_call (proc : ι) (command : DeliveryCommand) (outcome : Outcome DeliveryError)
    (s : DeliveryRecord ι) : ((deliveryServices ι).recorded.perform proc command outcome s).2 =
      ⟨if outcome.executed then (s.state.execute command).2 else s.state,
        .call proc command outcome s.state :: s.history⟩ := by
  rw [← delivery_perform proc command outcome s.state]
  rfl

variable [DecidableEq ι]

def SucceededSince (proc : ι) (s : DeliveryRecord ι) : Prop :=
  s.state.row.status = .succeeded ∨ ∃ entry ∈ sinceClaim proc s.history, foundSuccess entry = true

theorem SucceededSince.hasSucceeded {proc : ι} (h : SucceededSince proc s) : HasSucceeded s := by
  obtain hState | ⟨entry, hEntry, hFound⟩ := h
  · exact .inl hState
  · exact .inr ⟨entry, (List.takeWhile_prefix _).subset hEntry, hFound⟩

theorem findsUnfinished_send (proc : ι) (s : DeliveryRecord ι) (attempt : Nat) :
    FindsUnfinished proc s (.send attempt) ↔ ¬SucceededSince proc s := by
  simp [FindsUnfinished, SucceededSince]

def ClaimsKnow (s : DeliveryRecord ι) (claimed : ι → Bool) : Prop :=
  ∀ proc, claimed proc = true → HasSucceeded s → SucceededSince proc s

theorem succeededSince_step {proc : ι} (hClaim : isClaimOf proc entry = false)
    (hFound : entry.found = s.state) (h : HasSucceeded s → SucceededSince proc s)
    (hSucceeded : HasSucceeded ⟨state, entry :: s.history⟩) :
    SucceededSince proc ⟨state, entry :: s.history⟩ := by
  have hSince : sinceClaim proc (entry :: s.history) = entry :: sinceClaim proc s.history := by
    rw [sinceClaim, List.takeWhile_cons, if_pos (by rw [hClaim]; rfl)]
    rfl
  have hEarlier : SucceededSince proc s → SucceededSince proc ⟨state, entry :: s.history⟩ := by
    rintro (hState | ⟨other, hOther, hSuccess⟩)
    · refine .inr ⟨entry, hSince ▸ List.mem_cons_self, ?_⟩
      rw [foundSuccess, hFound]
      exact decide_eq_true hState
    · exact .inr ⟨other, hSince ▸ List.mem_cons_of_mem _ hOther, hSuccess⟩
  obtain hState | ⟨other, hOther, hSuccess⟩ := hSucceeded
  · exact .inl hState
  · obtain rfl | hMem := List.mem_cons.mp hOther
    · exact .inr ⟨other, hSince ▸ List.mem_cons_self, hSuccess⟩
    · exact hEarlier (h (.inr ⟨other, hMem, hSuccess⟩))

theorem claimsKnow_call {proc : ι} {command : DeliveryCommand} {outcome : Outcome DeliveryError}
    {claimed : ι → Bool} (hClaims : ClaimsKnow s claimed) (h : TerminalStatesFinal s)
    (hPermits : claimProtocol.permits (claimed proc) command) :
    ClaimsKnow ((deliveryServices ι).recorded.perform proc command outcome s).2
      (Function.update claimed proc (claimProtocol.next (claimed proc) command
        ((deliveryServices ι).recorded.perform proc command outcome s).1)) := by
  intro other hOther hSucceeded
  rw [deliveryRecord_call] at hSucceeded ⊢
  by_cases hClaim : isClaimOf other (.call proc command outcome s.state) = true
  · -- The claim was granted, so that no success was recorded before it.
    cases command with
    | claim now leaseUntil =>
      obtain ⟨hCaller, -⟩ := Bool.and_eq_true_iff.mp hClaim
      obtain rfl : proc = other := of_decide_eq_true hCaller
      rw [Function.update_self] at hOther
      cases outcome with
      | fail error applied =>
        rw [show claimed proc = false from hPermits] at hOther
        cases hOther
      | reply =>
        have hPending := pending_of_granted hOther
        have hBefore := h.pending hPending
        obtain hState | ⟨entry, hEntry, hFound⟩ := hSucceeded
        · have hStatus := status_execute (.claim now leaseUntil) s.state
          exact absurd (.inl (hStatus.symm.trans hState)) hBefore
        · obtain rfl | hEarlier := List.mem_cons.mp hEntry
          · exact absurd (.inl (of_decide_eq_true hFound)) hBefore
          · exact absurd (.inr ⟨entry, hEarlier, hFound⟩) hBefore
    | _ => cases hClaim
  · have hBefore : HasSucceeded s → SucceededSince other s := by
      by_cases hSame : other = proc
      · subst hSame
        rw [Function.update_self] at hOther
        refine hClaims other ?_
        cases command with
        | claim now leaseUntil =>
          cases outcome with
          | reply => simp [isClaimOf, Outcome.executed] at hClaim
          | fail error applied => exact hOther
        | _ => exact hOther
      · rw [Function.update_of_ne hSame] at hOther
        exact hClaims other hOther
    exact succeededSince_step (Bool.eq_false_iff.mpr hClaim) rfl hBefore hSucceeded

theorem terminalStatesFinal_call {proc : ι} {command : DeliveryCommand}
    {outcome : Outcome DeliveryError} {claimed : ι → Bool} (hClaims : ClaimsKnow s claimed)
    (h : TerminalStatesFinal s) (hPermits : claimProtocol.permits (claimed proc) command) :
    TerminalStatesFinal ((deliveryServices ι).recorded.perform proc command outcome s).2 ↔
      (deliveryDiscipline ι).call proc command outcome s := by
  rw [deliveryRecord_call]
  cases hExecuted : outcome.executed with
  | false =>
    refine iff_of_true (h.step rfl (fun hTerminal => hTerminal) ?_) fun hYes => ?_
    swap
    · rw [hExecuted] at hYes
      cases hYes
    intro hSend
    cases command <;> simp [isSend, hExecuted] at hSend
  | true =>
    have hStatus := status_execute command s.state
    simp only [deliveryDiscipline, hExecuted, if_true, forall_const]
    cases command with
    | send attempt =>
      rw [findsUnfinished_send]
      constructor
      · intro hAfter hSince
        have hNone := hAfter.silent.1 hExecuted
        obtain hState | ⟨entry, hEntry, hFound⟩ := hSince.hasSucceeded
        · have hHead := hNone _ List.mem_cons_self
          rw [foundSuccess, Entry.found, hState] at hHead
          cases hHead
        · rw [hNone entry (List.mem_cons_of_mem _ hEntry)] at hFound
          cases hFound
      · intro hNot
        exact h.step rfl (fun hTerminal => hTerminal) fun _ hSucceeded =>
          hNot (hClaims proc hPermits hSucceeded)
    | scheduleRetry attemptCount scheduledFor lastError lastStatusCode =>
      constructor
      · intro hAfter
        by_contra hTerminal
        exact hAfter.final ⟨_, List.mem_cons_self, hTerminal⟩ rfl
      · intro hPending
        exact h.step rfl (fun hTerminal => absurd hPending hTerminal) nofun
    | _ =>
      refine iff_of_true (h.step rfl ?_ nofun) trivial
      intro hTerminal
      rw [hStatus]
      first | exact hTerminal | exact nofun

theorem terminalStatesFinal_environment {s' : DeliveryRecord ι} {move : DeliveryMove}
    {claimed : ι → Bool} (hClaims : ClaimsKnow s claimed) (h : TerminalStatesFinal s)
    (hMove : (deliveryServices ι).recorded.environment move s = some s') :
    ClaimsKnow s' claimed ∧ TerminalStatesFinal s' := by
  obtain ⟨state, hState, rfl⟩ := Option.map_eq_some_iff.mp hMove
  have hRow : state.row = s.state.row := by
    cases move with
    | tick now =>
      replace hState : DeliveryStore.environment (.tick now) s.state = some state := hState
      rw [DeliveryStore.environment] at hState
      split at hState
      · cases hState
        rfl
      · cases hState
    | answer response =>
      cases hState
      rfl
  refine ⟨fun proc hProc hSucceeded => ?_, h.step rfl (fun hTerminal => hRow ▸ hTerminal) nofun⟩
  exact succeededSince_step rfl rfl (hClaims proc hProc) hSucceeded

end Steps

section Runs

variable {ι : Type} [DecidableEq ι]

def deliveryTasks (config : WebhookDeliveryConfig) (tasks : ι → DeliveryTask) (s : DeliveryStore) :
    Config ι DeliveryCommand.Reply DeliveryError Unit (DeliveryRecord ι) where
  shared := ⟨s, []⟩
  procs proc := (tasks proc).method config

/-- A finished delivery stays finished and is sent no more, throughout a run, exactly when no task that
outlived its lease schedules a retry of it or sends it. -/
theorem terminal_states_final_iff (config : WebhookDeliveryConfig) (tasks : ι → DeliveryTask)
    (s : DeliveryStore) {events : List (Event ι DeliveryError DeliveryMove)}
    {last : Config ι DeliveryCommand.Reply DeliveryError Unit (DeliveryRecord ι)}
    (hRun : (deliveryServices ι).recorded.run (deliveryTasks config tasks s) events = some last) :
    (∀ n mid, (deliveryServices ι).recorded.run (deliveryTasks config tasks s) (events.take n) =
        some mid → TerminalStatesFinal mid.shared) ↔
      (deliveryServices ι).recorded.Follows (deliveryDiscipline ι) (deliveryTasks config tasks s)
        events := by
  have hClaims : ClaimsKnow (⟨s, []⟩ : DeliveryRecord ι) fun _ => false := by
    intro proc hClaimed
    cases hClaimed
  have hStart : TerminalStatesFinal (⟨s, []⟩ : DeliveryRecord ι) := by
    refine ⟨?_, trivial⟩
    rintro ⟨entry, hEntry, -⟩
    cases hEntry
  refine System.ghost_throughout_iff (P := fun _ => claimProtocol) (J := ClaimsKnow)
    (fun proc command outcome s claimed hClaims h hPermits =>
      ⟨claimsKnow_call hClaims h hPermits, terminalStatesFinal_call hClaims h hPermits⟩)
    (fun move s s' claimed hClaims h hMove => ?_) hRun (fun proc => (tasks proc).obeys config)
    hClaims hStart
  obtain ⟨hClaims, h⟩ := terminalStatesFinal_environment hClaims h hMove
  exact ⟨hClaims, iff_of_true h trivial⟩

end Runs

def defaultDeliveryConfig : WebhookDeliveryConfig := ⟨30, 600, 30⟩

def DeliveryStore.fresh : DeliveryStore where
  row := ⟨1, .pending, 0, 5, none, none, none, none⟩
  clock := ⟨1, UnixTime.one_pos⟩
  response := ⟨200, "ok"⟩
  jobs := []

def delivers (first : Bool) : Event Bool DeliveryError DeliveryMove := .resume first .reply

theorem terminal_states_final_in_turn : ∃ last,
    (deliveryServices Bool).recorded.run
      (deliveryTasks defaultDeliveryConfig (fun _ => .deliver) .fresh)
      ([true, true, true, true, true, true, false, false].map delivers) = some last ∧
    TerminalStatesFinal last.shared := by
  have hEnds : ((deliveryServices Bool).recorded.run
      (deliveryTasks defaultDeliveryConfig (fun _ => .deliver) .fresh)
      ([true, true, true, true, true, true, false, false].map delivers)).isSome = true := by
    decide +kernel
  obtain ⟨last, hLast⟩ := Option.isSome_iff_exists.mp hEnds
  have hFinal := (terminal_states_final_iff defaultDeliveryConfig (fun _ => .deliver) .fresh
    hLast).mpr (by decide +kernel)
  exact ⟨last, hLast, hFinal 8 last hLast⟩

def lateFailure : List (Event Bool DeliveryError DeliveryMove) :=
  [true, true, true, true].map delivers ++
    [.environment (.tick ⟨200, by norm_num⟩)] ++
    [false, false, false, false, false, false].map delivers ++
    [.resume true (.fail (.requestError "ReadTimeout('')") false)] ++
    [true, true].map delivers

theorem succeeded_row_retried : ¬ ∀ (config : WebhookDeliveryConfig) (tasks : Bool → DeliveryTask)
    (s : DeliveryStore) (events : List (Event Bool DeliveryError DeliveryMove))
    (last : Config Bool DeliveryCommand.Reply DeliveryError Unit (DeliveryRecord Bool)),
    (deliveryServices Bool).recorded.run (deliveryTasks config tasks s) events = some last →
    TerminalStatesFinal last.shared := by
  intro h
  have hEnds : ((deliveryServices Bool).recorded.run
      (deliveryTasks defaultDeliveryConfig (fun _ => .deliver) .fresh) lateFailure).any (fun last =>
        decide (last.shared.state.row.status = .pending ∧
          last.shared.history.any foundSuccess = true)) = true := by
    decide +kernel
  obtain ⟨last, hLast, hRetried⟩ := (Option.any_eq_true _ _).mp hEnds
  obtain ⟨hPending, hSuccess⟩ := of_decide_eq_true hRetried
  obtain ⟨entry, hEntry, hFound⟩ := List.any_eq_true.mp hSuccess
  exact (h _ _ _ _ last hLast).pending hPending (.inr ⟨entry, hEntry, hFound⟩)

end FastVoice.Webhooks
