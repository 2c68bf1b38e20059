import FastVoice.Webhooks.Sweeps

/-! # The attempts of a delivery

How far a task is with its attempt, read off its own calls: from a granted claim to the statement that
records the outcome it holds the lease.
-/
namespace FastVoice.Webhooks
open Async

inductive Failure where
  | transient
  | permanent
  deriving DecidableEq

def HttpResponse.failure (response : HttpResponse) : Option Failure :=
  if response.isSuccess then none
  else if response.statusCode ∈ retryableStatusCodes then some .transient
  else some .permanent

def DeliveryError.failure : DeliveryError → Option Failure
  | .cancelledError => none
  | .requestError _ => some .transient
  | .exception _ => some .permanent

inductive Phase where
  | idle (now : Option UnixTime)
  | granted (leaseUntil : UnixTime)
  | fetched (leaseUntil : UnixTime) (delivery : WebhookDelivery)
  | requesting (leaseUntil : UnixTime) (delivery : WebhookDelivery)
  /-- `sent` is false if the headers could not be built. -/
  | settled (leaseUntil : UnixTime) (delivery : WebhookDelivery) (sent : Bool)
      (failure : Option Failure)
  | recorded

namespace Phase

def leaseUntil : Phase → Option UnixTime
  | .granted leaseUntil => some leaseUntil
  | .fetched leaseUntil _ => some leaseUntil
  | .requesting leaseUntil _ => some leaseUntil
  | .settled leaseUntil _ _ _ => some leaseUntil
  | _ => none

def delivery : Phase → Option WebhookDelivery
  | .fetched _ delivery => some delivery
  | .requesting _ delivery => some delivery
  | .settled _ delivery _ _ => some delivery
  | _ => none

def inFlight : Phase → Bool
  | .requesting _ _ => true
  | _ => false

def sent : Phase → Bool
  | .requesting _ _ => true
  | .settled _ _ sent _ => sent
  | _ => false

def time : Phase → Option UnixTime
  | .idle now => now
  | _ => none

theorem leased_of_sent {phase : Phase} (h : phase.sent = true) : phase.leaseUntil ≠ none := by
  cases phase <;> simp_all [sent, leaseUntil]

end Phase

def isRecording : DeliveryCommand → Bool
  | .markSucceeded _ _ => true
  | .scheduleRetry _ _ _ _ => true
  | .markDeadLetter _ _ _ => true
  | _ => false

def attemptProtocol : Protocol DeliveryCommand.Reply DeliveryError Phase where
  permits
    | .idle now, .claim time _ => now = some time
    | .granted _, .fetch => True
    | .fetched _ _, .getCredentialByUuid _ => True
    | .fetched _ delivery, .send attempt => attempt = delivery.attemptCount + 1
    | .requesting _ _, .receive => True
    | .settled _ delivery _ failure, .markSucceeded attemptCount _ =>
      failure = none ∧ attemptCount = delivery.attemptCount + 1
    | .settled _ delivery _ failure, .scheduleRetry attemptCount _ _ _ =>
      failure = some .transient ∧ attemptCount = delivery.attemptCount + 1 ∧
        attemptCount < delivery.maxAttempts
    | .settled _ delivery _ failure, .markDeadLetter attemptCount _ _ =>
      attemptCount = delivery.attemptCount + 1 ∧
        (failure = some .permanent ∨ failure = some .transient ∧ delivery.maxAttempts ≤ attemptCount)
    | _, .now => True
    | _, .enqueueJob _ => True
    | _, _ => False
  next
    | .idle _, .now, .ok time => .idle (some time)
    | .idle now, .claim _ leaseUntil, .ok granted =>
      if granted then .granted leaseUntil else .idle now
    | .granted leaseUntil, .fetch, .ok delivery => .fetched leaseUntil delivery
    | .fetched leaseUntil delivery, .getCredentialByUuid _, .error error =>
      .settled leaseUntil delivery false error.failure
    | .fetched leaseUntil delivery, .send _, .ok _ => .requesting leaseUntil delivery
    | .fetched leaseUntil delivery, .send _, .error error =>
      .settled leaseUntil delivery true error.failure
    | .requesting leaseUntil delivery, .receive, .ok response =>
      .settled leaseUntil delivery true response.failure
    | .requesting leaseUntil delivery, .receive, .error error =>
      .settled leaseUntil delivery true error.failure
    | .settled leaseUntil delivery sent failure, command, .ok _ =>
      if isRecording command then .recorded else .settled leaseUntil delivery sent failure
    | phase, _, _ => phase

abbrev Attempts (program : DeliveryMethod Unit) (phase : Phase) : Prop :=
  program.Obeys attemptProtocol (fun _ _ => True) phase

theorem attempts_call {command : DeliveryCommand} {phase : Phase}
    {next : command.Reply → DeliveryMethod Unit} (hPermits : attemptProtocol.permits phase command)
    (hNext : ∀ reply, Attempts (next reply) (attemptProtocol.next phase command (.ok reply))) :
    Attempts (Program.call command >>= next) phase :=
  Program.obeys_call_bind hPermits hNext fun _ => trivial

theorem claimWebhookDelivery_attempts (leaseSeconds : Nat) :
    (claimWebhookDelivery leaseSeconds).Obeys attemptProtocol
      (fun result phase => ∀ delivery, result = .ok (some delivery) →
        ∃ leaseUntil, phase = .fetched leaseUntil delivery) (.idle none) := by
  apply Program.obeys_call_bind
  · exact trivial
  · intro now
    apply Program.obeys_call_bind
    · exact rfl
    · intro granted
      cases granted with
      | false => exact nofun
      | true =>
        apply Program.obeys_call_bind
        · exact trivial
        · rintro delivery _ ⟨⟩
          exact ⟨_, rfl⟩
        · exact nofun
    · exact nofun
  · exact nofun

def failureOf : Except DeliveryError HttpResponse → Option Failure
  | .ok response => response.failure
  | .error error => error.failure

section Request

variable {leaseUntil : UnixTime} {delivery : WebhookDelivery}

theorem request_attempts (attempt : Nat) (hAttempt : attempt = delivery.attemptCount + 1) :
    (request delivery attempt).Obeys attemptProtocol
      (fun result phase => ∃ sent, phase = .settled leaseUntil delivery sent (failureOf result))
      (.fetched leaseUntil delivery) := by
  have hHeaders : (buildHeaders delivery).Obeys attemptProtocol (fun result phase =>
      (∀ built, result = .ok built → phase = .fetched leaseUntil delivery) ∧
        ∀ error, result = .error error →
          phase = .settled leaseUntil delivery false error.failure) (.fetched leaseUntil delivery) := by
    rw [buildHeaders]
    split
    · exact ⟨fun _ _ => rfl, nofun⟩
    · apply Program.obeys_call
      · exact trivial
      · rintro (error | built)
        · refine ⟨nofun, ?_⟩
          rintro _ ⟨⟩
          rfl
        · exact ⟨fun _ _ => rfl, nofun⟩
  apply hHeaders.bind
  · rintro built phase ⟨hBuilt, -⟩
    rw [hBuilt built rfl]
    apply Program.obeys_call_bind
    · exact hAttempt
    · intro _
      apply Program.obeys_call
      · exact trivial
      · rintro (error | response)
        · exact ⟨true, rfl⟩
        · exact ⟨true, rfl⟩
    · exact fun error => ⟨true, rfl⟩
  · rintro error phase ⟨-, hRaised⟩
    exact ⟨false, hRaised error rfl⟩

theorem requested_attempts (attempt : Nat) (hAttempt : attempt = delivery.attemptCount + 1) :
    (requested delivery attempt).Obeys attemptProtocol
      (fun result phase => ∀ response, result = .ok response →
        ∃ sent, phase = .settled leaseUntil delivery sent (failureOf response))
      (.fetched leaseUntil delivery) := by
  have hResponse : (request delivery attempt >>= fun response =>
      (.ret (Except.ok response) : DeliveryMethod (Except DeliveryError HttpResponse))).Obeys
        attemptProtocol (fun result phase => ∃ sent, phase = .settled leaseUntil delivery sent
          (match result with
            | .ok response => failureOf response
            | .error error => error.failure)) (.fetched leaseUntil delivery) :=
    (request_attempts attempt hAttempt).bind (fun _ _ h => h) fun _ _ h => h
  apply hResponse.tryCatch
  · rintro response phase h _ ⟨⟩
    exact h
  · intro error phase h
    cases error with
    | cancelledError => exact nofun
    | requestError text =>
      rintro _ ⟨⟩
      exact h
    | exception text =>
      rintro _ ⟨⟩
      exact h

variable {sent : Bool}

theorem handleTransientFailure_attempts (config : WebhookDeliveryConfig) (attempt : Nat)
    (hAttempt : attempt = delivery.attemptCount + 1) (error : String) (statusCode : Option Nat) :
    Attempts (handleTransientFailure config delivery attempt error statusCode)
      (.settled leaseUntil delivery sent (some .transient)) := by
  rw [handleTransientFailure]
  split
  · rename_i hExhausted
    exact Program.obeys_call ⟨hAttempt, .inr ⟨rfl, hExhausted⟩⟩ fun _ => trivial
  · rename_i hMore
    apply attempts_call
    · exact trivial
    · intro now
      apply attempts_call
      · exact ⟨rfl, hAttempt, by omega⟩
      · exact fun _ => Program.obeys_call trivial fun _ => trivial

theorem attemptDelivery_attempts (config : WebhookDeliveryConfig) :
    Attempts (attemptDelivery config delivery) (.fetched leaseUntil delivery) := by
  apply (requested_attempts _ rfl).bind
  · intro result phase hSettled
    obtain ⟨sent, rfl⟩ := hSettled result rfl
    cases result with
    | ok response =>
      dsimp only
      split
      · rename_i hSuccess
        have hFailure : response.failure = none := if_pos hSuccess
        have hCall : Attempts (Program.call (DeliveryCommand.markSucceeded _ response.statusCode))
            (.settled leaseUntil delivery sent (failureOf (.ok response))) :=
          Program.obeys_call ⟨hFailure, rfl⟩ fun _ => trivial
        apply hCall.tryCatch
        · exact fun _ _ _ => trivial
        · intro error _ _
          cases error <;> trivial
      · rename_i hFailed
        split
        · rename_i hRetryable
          have hFailure : response.failure = some .transient :=
            (if_neg hFailed).trans (if_pos hRetryable)
          rw [failureOf, hFailure]
          exact handleTransientFailure_attempts config _ rfl _ _
        · rename_i hPermanent
          have hFailure : response.failure = some .permanent :=
            (if_neg hFailed).trans (if_neg hPermanent)
          exact Program.obeys_call ⟨rfl, .inl hFailure⟩ fun _ => trivial
    | error error =>
      cases error with
      | cancelledError => trivial
      | requestError text => exact handleTransientFailure_attempts config _ rfl _ _
      | exception text => exact Program.obeys_call ⟨rfl, .inl rfl⟩ fun _ => trivial
  · exact fun _ _ _ => trivial

end Request

theorem deliverWebhook_attempts (config : WebhookDeliveryConfig) :
    Attempts (deliverWebhook config) (.idle none) := by
  apply (claimWebhookDelivery_attempts _).bind
  · intro claimed phase hFetched
    cases claimed with
    | none => trivial
    | some delivery =>
      obtain ⟨leaseUntil, rfl⟩ := hFetched delivery rfl
      exact attemptDelivery_attempts config
  · exact fun _ _ _ => trivial

def tableProtocol : Protocol TableCommand.Reply DeliveryError Phase where
  permits phase
    | .own command => attemptProtocol.permits phase command
    | _ => True
  next phase
    | .own command, result => attemptProtocol.next phase command result
    | _, _ => phase

end FastVoice.Webhooks
