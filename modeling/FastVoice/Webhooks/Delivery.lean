import Mathlib.Algebra.Order.Floor.Semiring
import Mathlib.Data.Rat.Floor
import FastVoice.Runtime

/-! # Webhook deliveries

One delivery row, its HTTP attempts and the sweeper. A statement with its commit is one step; a request
is sent in one step and answered in another, with any amount of time between them. What a request
carries is left out.
-/
namespace FastVoice.Webhooks
open Async

structure WebhookDeliveryConfig where
  baseDelaySeconds : Nat
  maxDelaySeconds : Nat
  timeoutSeconds : Nat

inductive DeliveryStatus where
  | pending
  | succeeded
  | deadLetter
  deriving DecidableEq

structure WebhookDelivery where
  id : Nat
  status : DeliveryStatus
  attemptCount : Nat
  maxAttempts : Nat
  scheduledFor : Option UnixTime
  credentialUuid : Option String
  lastStatusCode : Option Nat
  lastError : Option String

def later (time : UnixTime) (seconds : Nat) : UnixTime :=
  ⟨time.val + seconds, UnixTime.add_pos time seconds⟩

namespace WebhookDelivery

def isDue (row : WebhookDelivery) (now : UnixTime) : Bool :=
  row.status = .pending && row.scheduledFor.any fun due => decide (due.val ≤ now.val)

def isClaimable (row : WebhookDelivery) (now : UnixTime) : Bool :=
  row.status = .pending && row.scheduledFor.all fun due => decide (due.val ≤ now.val)

def truncated (error : String) : String := String.ofList (error.toList.take 2000)

def succeed (row : WebhookDelivery) (attemptCount statusCode : Nat) : WebhookDelivery :=
  { row with
    status := .succeeded
    attemptCount
    lastStatusCode := some statusCode
    lastError := none
    scheduledFor := none }

def retry (row : WebhookDelivery) (attemptCount : Nat) (scheduledFor : UnixTime) (error : String)
    (statusCode : Option Nat) : WebhookDelivery :=
  { row with
    status := .pending
    attemptCount
    scheduledFor := some scheduledFor
    lastError := some (truncated error)
    lastStatusCode := statusCode }

def park (row : WebhookDelivery) (attemptCount : Nat) (error : String) (statusCode : Option Nat) :
    WebhookDelivery :=
  { row with
    status := .deadLetter
    attemptCount
    lastError := some (truncated error)
    lastStatusCode := statusCode
    scheduledFor := none }

end WebhookDelivery

structure HttpResponse where
  statusCode : Nat
  text : String

structure DeliveryJob where
  jobId : String
  deferBy : Nat

structure DeliveryStore where
  row : WebhookDelivery
  clock : UnixTime
  response : HttpResponse
  jobs : List DeliveryJob

inductive DeliveryCommand where
  | now
  | claim (now leaseUntil : UnixTime)
  | fetch
  | getCredentialByUuid (uuid : String)
  | send (attempt : Nat)
  | receive
  | markSucceeded (attemptCount statusCode : Nat)
  | scheduleRetry (attemptCount : Nat) (scheduledFor : UnixTime) (lastError : String)
      (lastStatusCode : Option Nat)
  | markDeadLetter (attemptCount : Nat) (lastError : String) (lastStatusCode : Option Nat)
  | enqueueJob (job : DeliveryJob)
  | getDue (now : UnixTime)

abbrev DeliveryCommand.Reply : DeliveryCommand → Type
  | .now => UnixTime
  /- Whether the update matched the row. -/
  | .claim _ _ => Bool
  | .fetch => WebhookDelivery
  | .getCredentialByUuid _ => Unit
  | .send _ => Unit
  | .receive => HttpResponse
  | .markSucceeded _ _ => Unit
  | .scheduleRetry _ _ _ _ => Unit
  | .markDeadLetter _ _ _ => Unit
  | .enqueueJob _ => Unit
  | .getDue _ => List WebhookDelivery

def DeliveryStore.execute : (command : DeliveryCommand) → DeliveryStore →
    command.Reply × DeliveryStore
  | .now, s => (s.clock, s)
  | .claim now leaseUntil, s =>
    if s.row.isClaimable now then
      (true, { s with row := { s.row with scheduledFor := some leaseUntil } })
    else (false, s)
  | .fetch, s => (s.row, s)
  | .getCredentialByUuid _, s => ((), s)
  | .send _, s => ((), s)
  | .receive, s => (s.response, s)
  | .markSucceeded attemptCount statusCode, s =>
    ((), { s with row := s.row.succeed attemptCount statusCode })
  | .scheduleRetry attemptCount scheduledFor lastError lastStatusCode, s =>
    ((), { s with row := s.row.retry attemptCount scheduledFor lastError lastStatusCode })
  | .markDeadLetter attemptCount lastError lastStatusCode, s =>
    ((), { s with row := s.row.park attemptCount lastError lastStatusCode })
  | .enqueueJob job, s => ((), { s with jobs := job :: s.jobs })
  | .getDue now, s => (if s.row.isDue now then [s.row] else [], s)

inductive DeliveryMove where
  | tick (now : UnixTime)
  | answer (response : HttpResponse)

def DeliveryStore.environment : DeliveryMove → DeliveryStore → Option DeliveryStore
  | .tick now, s => if s.clock.val ≤ now.val then some { s with clock := now } else none
  | .answer response, s => some { s with response }

/-- A failed request, any other exception, or a cancellation, which no handler catches. -/
inductive DeliveryError where
  | cancelledError
  | requestError (text : String)
  | exception (text : String)
  deriving DecidableEq

def deliveryServices (ι : Type) :
    System ι DeliveryCommand.Reply DeliveryError DeliveryStore DeliveryMove :=
  .ofServer DeliveryStore.execute DeliveryStore.environment

abbrev DeliveryMethod := Program DeliveryCommand.Reply DeliveryError

def retryableStatusCodes : List Nat := [408, 425, 429, 500, 502, 503, 504]

def HttpResponse.isSuccess (response : HttpResponse) : Bool :=
  200 ≤ response.statusCode && response.statusCode < 300

def deliveryJobId (deliveryId attemptCount : Nat) : String :=
  s!"webhook-delivery-{deliveryId}-{attemptCount}"

def WebhookDeliveryConfig.backoffSeconds (config : WebhookDeliveryConfig) (attempt : Nat) : Nat :=
  min (config.baseDelaySeconds * 2 ^ (attempt - 1)) config.maxDelaySeconds

def enqueueDelivery (deliveryId attemptCount deferBy : Nat) (reclaimToken : Option Nat) :
    DeliveryMethod Unit :=
  let jobId := match reclaimToken with
    | some token => s!"webhook-delivery-reclaim-{deliveryId}-{token}"
    | none => deliveryJobId deliveryId attemptCount
  Program.call (DeliveryCommand.enqueueJob ⟨jobId, deferBy⟩)

def claimWebhookDelivery (leaseSeconds : Nat) : DeliveryMethod (Option WebhookDelivery) := do
  let now ← Program.call DeliveryCommand.now
  let claimed ← Program.call (DeliveryCommand.claim now (later now leaseSeconds))
  if claimed then
    let delivery ← Program.call DeliveryCommand.fetch
    return some delivery
  else return none

def buildHeaders (delivery : WebhookDelivery) : DeliveryMethod Unit :=
  match delivery.credentialUuid with
  | none => return ()
  | some uuid => Program.call (DeliveryCommand.getCredentialByUuid uuid)

def request (delivery : WebhookDelivery) (attempt : Nat) : DeliveryMethod HttpResponse := do
  buildHeaders delivery
  Program.call (DeliveryCommand.send attempt)
  Program.call DeliveryCommand.receive

/-- What the handlers below the `try` block tell apart; none of them takes a cancellation. -/
def requested (delivery : WebhookDelivery) (attempt : Nat) :
    DeliveryMethod (Except DeliveryError HttpResponse) :=
  (request delivery attempt >>= fun response => .ret (Except.ok response)).tryCatch fun
    | .cancelledError => .raise .cancelledError
    | error => .ret (Except.error error)

def handleTransientFailure (config : WebhookDeliveryConfig) (delivery : WebhookDelivery)
    (attempt : Nat) (error : String) (statusCode : Option Nat) : DeliveryMethod Unit :=
  if delivery.maxAttempts ≤ attempt then
    Program.call (DeliveryCommand.markDeadLetter attempt error statusCode)
  else do
    let delay := config.backoffSeconds attempt
    let now ← Program.call DeliveryCommand.now
    Program.call (DeliveryCommand.scheduleRetry attempt (later now delay) error statusCode)
    enqueueDelivery delivery.id attempt delay none

/-- A failure to record a success is logged, and the row is left to the sweeper. -/
def recordSuccess (attempt statusCode : Nat) : DeliveryMethod Unit :=
  (Program.call (DeliveryCommand.markSucceeded attempt statusCode)).tryCatch fun
    | .cancelledError => .raise .cancelledError
    | _ => return ()

def HttpResponse.error (response : HttpResponse) : String :=
  s!"HTTP {response.statusCode}: {String.ofList (response.text.toList.take 200)}"

def attemptDelivery (config : WebhookDeliveryConfig) (delivery : WebhookDelivery) :
    DeliveryMethod Unit := do
  let attempt := delivery.attemptCount + 1
  let result ← requested delivery attempt
  match result with
  | .ok response =>
    if response.isSuccess then recordSuccess attempt response.statusCode
    else if response.statusCode ∈ retryableStatusCodes then
      handleTransientFailure config delivery attempt response.error (some response.statusCode)
    else
      Program.call (DeliveryCommand.markDeadLetter attempt response.error (some response.statusCode))
  | .error (.requestError text) => handleTransientFailure config delivery attempt text none
  | .error (.exception text) => Program.call (DeliveryCommand.markDeadLetter attempt text none)
  | .error .cancelledError => .raise .cancelledError

def deliverWebhook (config : WebhookDeliveryConfig) : DeliveryMethod Unit := do
  let claimed ← claimWebhookDelivery (config.timeoutSeconds + 60)
  match claimed with
  | none => return ()
  | some delivery => attemptDelivery config delivery

def enqueueDue : List WebhookDelivery → DeliveryMethod Unit
  | [] => return ()
  | delivery :: due => do
    let reclaimToken := delivery.scheduledFor.elim 0 fun lease => ⌊lease.val⌋₊
    enqueueDelivery delivery.id delivery.attemptCount 0 (some reclaimToken)
    enqueueDue due

def sweepWebhookDeliveries : DeliveryMethod Unit := do
  let now ← Program.call DeliveryCommand.now
  let due ← Program.call (DeliveryCommand.getDue now)
  enqueueDue due

end FastVoice.Webhooks
