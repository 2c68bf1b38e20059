import Mathlib.Data.Fintype.Basic
import FastVoice.Webhooks.Leases

/-! # Webhook attempts are bounded

Any number of delivery tasks and sweeps, on a row that each claimed attempt is done with before its
lease ends. A claim finds no other attempt under way then, so that the attempts come one after another.
-/
namespace FastVoice.Webhooks
open Async

def createWebhookDelivery (id maxAttempts : Nat) (credentialUuid : Option String)
    (scheduledFor : Option UnixTime) (now : UnixTime) : WebhookDelivery where
  id
  status := .pending
  attemptCount := 0
  maxAttempts
  scheduledFor := some (scheduledFor.getD now)
  credentialUuid
  lastStatusCode := none
  lastError := none

inductive TableTask where
  | deliver
  | sweep (pages : Nat)

def TableTask.method (config : WebhookDeliveryConfig) : TableTask → TableMethod Unit
  | .deliver => (deliverWebhook config).embed .own fun _ reply => reply
  | .sweep pages => sweepDeliveries pages

theorem TableTask.obeys (config : WebhookDeliveryConfig) (task : TableTask) :
    (task.method config).Obeys tableProtocol (fun _ _ => True) (.idle none) := by
  cases task with
  | deliver =>
    apply (deliverWebhook_attempts config).embed
    · exact fun _ _ h => h
    · intro phase command result
      cases result <;> rfl
  | sweep pages =>
    have hReenqueue : ∀ (due : List WebhookDelivery) (phase : Phase),
        (reenqueueAll due).Obeys tableProtocol (fun _ after => after = phase) phase := by
      intro due phase
      induction due with
      | nil => exact rfl
      | cons delivery due ih =>
        apply Program.obeys_call_bind
        · exact trivial
        · exact fun _ => ih
        · exact fun _ => rfl
    have hPages : ∀ pages afterId (now : Option UnixTime), (sweepPages 100 pages afterId).Obeys
        tableProtocol (fun _ _ => True) (.idle now) := by
      intro pages
      induction pages with
      | zero => exact fun _ _ => trivial
      | succ pages ih =>
        intro afterId now
        apply Program.obeys_call_bind
        · cases now <;> exact trivial
        · intro time
          apply Program.obeys_call_bind
          · exact trivial
          · intro due
            cases due.getLast? with
            | none => exact trivial
            | some last =>
              apply (hReenqueue due _).bind
              · rintro _ _ rfl
                split
                · exact trivial
                · exact ih last.id (some time)
              · exact fun _ _ _ => trivial
          · exact fun _ => trivial
        · exact fun _ => trivial
    exact hPages pages 0 none

section Statements

variable {ι : Type} [DecidableEq ι]

abbrev TableEntry (ι : Type) := Entry ι TableCommand DeliveryError DeliveryTable TableMove

def phases (s : TableRecord ι) : ι → Phase := (deliveryTable ι).ghosts tableProtocol (.idle none) s

def isRequest : TableEntry ι → Bool
  | .call _ (.own (.send _)) _ _ => true
  | _ => false

def Phase.ending : Phase → Option (Bool × Option Failure)
  | .settled _ _ sent failure => some (sent, failure)
  | _ => none

def recordedBy (earlier : List (TableEntry ι)) : TableEntry ι → Option (Bool × Option Failure)
  | .call proc (.own command) .reply found =>
    if isRecording command then (phases ⟨found, earlier⟩ proc).ending else none
  | _ => none

def outcomes : List (TableEntry ι) → List (Bool × Option Failure)
  | [] => []
  | entry :: earlier => (recordedBy earlier entry).toList ++ outcomes earlier

structure AttemptsBounded (maxAttempts : Nat) (s : TableRecord ι) : Prop where
  oneInFlight : ∀ proc proc', (phases s proc).inFlight = true → (phases s proc').inFlight = true →
    proc = proc'
  requests_le : s.history.countP isRequest ≤ maxAttempts
  /-- Of the recorded attempts, those that sent a request and those whose headers could not be built. -/
  counted : s.state.delivery.row.attemptCount =
    (outcomes s.history).countP (fun outcome => outcome.1) +
      (outcomes s.history).countP fun outcome => !outcome.1
  exhausted : maxAttempts ≤ (outcomes s.history).countP (fun outcome => outcome.2 = some .transient) →
    s.state.delivery.row.status = .deadLetter
  permanent : (∃ outcome ∈ outcomes s.history, outcome.2 = some .permanent) →
    s.state.delivery.row.status = .deadLetter
  scheduled : s.state.delivery.row.status = .pending →
    ∃ due, s.state.delivery.row.scheduledFor = some due

/-- An attempt is done before its lease ends, and the statement that records its outcome succeeds. -/
def leaseDiscipline (ι : Type) [DecidableEq ι] :
    System.Discipline ι TableCommand.Reply DeliveryError (TableRecord ι) TableMove where
  call _ command outcome s := match command with
    | .own (.claim now leaseUntil) => outcome = .reply →
        s.state.delivery.row.isClaimable now = true → s.state.delivery.clock.val < leaseUntil.val
    | .own command => isRecording command = true → outcome = .reply
    | _ => True
  environment move s := match move with
    | .own (.tick now) => ∀ proc, ∀ leaseUntil ∈ (phases s proc).leaseUntil, now.val < leaseUntil.val
    | _ => True

end Statements

section Invariant

variable {ι : Type} [DecidableEq ι]

def Leased (maxAttempts : Nat) (s : TableRecord ι) : Prop :=
  LeaseInvariant maxAttempts s.state.delivery.row s.state.delivery.clock
    (s.history.countP isRequest) (outcomes s.history) (phases s)

variable {maxAttempts : Nat} {s s' : TableRecord ι} {proc : ι}

theorem phases_perform (proc : ι) (command : TableCommand) (outcome : Outcome DeliveryError)
    (s : TableRecord ι) : phases ((deliveryTable ι).recorded.perform proc command outcome s).2 =
      Function.update (phases s) proc (tableProtocol.next (phases s proc) command
        ((deliveryTable ι).perform proc command outcome s.state).1) :=
  System.ghosts_perform proc command outcome s

theorem leased_quiet (h : Leased maxAttempts s) {command : TableCommand} {outcome : Outcome DeliveryError}
    (hRow : (s.state.execute command).2.delivery.row = s.state.delivery.row)
    (hClock : (s.state.execute command).2.delivery.clock = s.state.delivery.clock)
    (hRequest : isRequest (.call proc command outcome s.state : TableEntry ι) = false)
    (hRecorded : recordedBy s.history (.call proc command outcome s.state) = none)
    (hNext : ∀ result, result = ((deliveryTable ι).perform proc command outcome s.state).1 →
      let next := tableProtocol.next (phases s proc) command result
      next.leaseUntil = (phases s proc).leaseUntil ∧ next.sent = (phases s proc).sent ∧
        (∀ delivery ∈ next.delivery, delivery ∈ (phases s proc).delivery ∨
          delivery = s.state.delivery.row) ∧
        ∀ now ∈ next.time, now.val ≤ s.state.delivery.clock.val) :
    Leased maxAttempts ((deliveryTable ι).recorded.perform proc command outcome s).2 := by
  obtain ⟨hLease, hSent, hDelivery, hTime⟩ := hNext _ rfl
  have hQuiet := LeaseInvariant.quiet h hLease hSent hDelivery hTime
  rw [Leased, phases_perform]
  have hState : ((deliveryTable ι).recorded.perform proc command outcome s).2.state.delivery.row =
      s.state.delivery.row ∧
      ((deliveryTable ι).recorded.perform proc command outcome s).2.state.delivery.clock =
        s.state.delivery.clock := by
    cases outcome with
    | reply => exact ⟨hRow, hClock⟩
    | fail error applied =>
      cases applied with
      | false => exact ⟨rfl, rfl⟩
      | true => exact ⟨hRow, hClock⟩
  have hHistory : ((deliveryTable ι).recorded.perform proc command outcome s).2.history =
      .call proc command outcome s.state :: s.history := rfl
  rw [hState.1, hState.2, hHistory, List.countP_cons_of_neg (by rw [hRequest]; exact Bool.false_ne_true),
    outcomes, hRecorded]
  exact hQuiet

theorem recordedBy_own {command : DeliveryCommand} (hQuiet : isRecording command = false)
    (earlier : List (TableEntry ι)) (outcome : Outcome DeliveryError) (found : DeliveryTable) :
    recordedBy earlier (.call proc (.own command) outcome found) = none := by
  cases outcome with
  | reply => exact if_neg (by rw [hQuiet]; exact Bool.false_ne_true)
  | fail error applied => rfl

theorem leased_record (h : Leased maxAttempts s) {command : DeliveryCommand} {leaseUntil : UnixTime}
    {delivery : WebhookDelivery} {sent : Bool} {failure : Option Failure}
    (hRecording : isRecording command = true)
    (hPhase : phases s proc = .settled leaseUntil delivery sent failure)
    (hClock : (s.state.delivery.execute command).2.clock = s.state.delivery.clock)
    (hCount : (s.state.delivery.execute command).2.row.attemptCount = delivery.attemptCount + 1)
    (hMax : (s.state.delivery.execute command).2.row.maxAttempts = s.state.delivery.row.maxAttempts)
    (hRetried : (s.state.delivery.execute command).2.row.status = .pending →
      delivery.attemptCount + 1 < delivery.maxAttempts ∧
        (∃ due, (s.state.delivery.execute command).2.row.scheduledFor = some due) ∧ failure = some .transient)
    (hSucceeded : (s.state.delivery.execute command).2.row.status = .succeeded → failure = none) :
    Leased maxAttempts ((deliveryTable ι).recorded.perform proc (.own command) .reply s).2 := by
  have hOutcomes : outcomes (.call proc (.own command) .reply s.state :: s.history) =
      (sent, failure) :: outcomes s.history := by
    rw [outcomes, recordedBy, if_pos hRecording]
    show (phases s proc).ending.toList ++ _ = _
    rw [hPhase]
    rfl
  have hNext : tableProtocol.next (phases s proc) (.own command)
      ((deliveryTable ι).perform proc (.own command) .reply s.state).1 = .recorded := by
    rw [hPhase]
    exact if_pos hRecording
  have hRequest : isRequest (.call proc (.own command) .reply s.state : TableEntry ι) = false := by
    cases command <;> first | rfl | cases hRecording
  rw [Leased, phases_perform, hNext]
  show LeaseInvariant maxAttempts (s.state.delivery.execute command).2.row
    (s.state.delivery.execute command).2.clock
    ((.call proc (.own command) .reply s.state :: s.history).countP isRequest)
    (outcomes (.call proc (.own command) .reply s.state :: s.history)) _
  rw [hClock, hOutcomes, List.countP_cons_of_neg (by rw [hRequest]; exact Bool.false_ne_true)]
  exact LeaseInvariant.record h hPhase hCount hMax hRetried hSucceeded

theorem leased_claim (h : Leased maxAttempts s) {now leaseUntil : UnixTime}
    {outcome : Outcome DeliveryError} (hPhase : phases s proc = .idle (some now))
    (hNow : now.val ≤ s.state.delivery.clock.val)
    (hAllows : outcome = .reply → s.state.delivery.row.isClaimable now = true →
      s.state.delivery.clock.val < leaseUntil.val) : Leased maxAttempts
      ((deliveryTable ι).recorded.perform proc (.own (.claim now leaseUntil)) outcome s).2 := by
  rw [Leased, phases_perform]
  have hSame : Function.update (phases s) proc (.idle (some now)) = phases s := by
    rw [← hPhase, Function.update_eq_self]
  have hUnlessGranted : LeaseInvariant maxAttempts (s.state.delivery.execute (.claim now leaseUntil)).2.row
      (s.state.delivery.execute (.claim now leaseUntil)).2.clock (s.history.countP isRequest)
      (outcomes s.history) (Function.update (phases s) proc (.idle (some now))) := by
    rw [DeliveryStore.execute]
    split
    · rename_i hClaimable
      exact LeaseInvariant.claim h hNow hClaimable (.inl hPhase.symm)
    · rw [hSame]
      exact h
  cases outcome with
  | reply =>
    show LeaseInvariant maxAttempts (s.state.delivery.execute (.claim now leaseUntil)).2.row
      (s.state.delivery.execute (.claim now leaseUntil)).2.clock (s.history.countP isRequest)
      (outcomes s.history) (Function.update (phases s) proc (attemptProtocol.next (phases s proc)
        (.claim now leaseUntil) (.ok (s.state.delivery.execute (.claim now leaseUntil)).1)))
    rw [hPhase]
    cases hClaimable : s.state.delivery.row.isClaimable now with
    | true =>
      rw [DeliveryStore.execute, if_pos hClaimable]
      exact LeaseInvariant.claim h hNow hClaimable (.inr ⟨rfl, hAllows rfl hClaimable⟩)
    | false =>
      rw [DeliveryStore.execute, if_neg (by rw [hClaimable]; exact Bool.false_ne_true)] at hUnlessGranted ⊢
      exact hUnlessGranted
  | fail error applied =>
    rw [hPhase]
    cases applied with
    | true => exact hUnlessGranted
    | false =>
      show LeaseInvariant _ _ _ _ _ (Function.update (phases s) proc (.idle (some now)))
      rw [hSame]
      exact h

theorem leased_call (h : Leased maxAttempts s) {command : TableCommand}
    {outcome : Outcome DeliveryError} (hPermits : tableProtocol.permits (phases s proc) command)
    (hAllows : (leaseDiscipline ι).call proc command outcome s) :
    Leased maxAttempts ((deliveryTable ι).recorded.perform proc command outcome s).2 := by
  cases command with
  | getDue now limit afterId =>
    exact leased_quiet h rfl rfl rfl rfl fun _ _ =>
      ⟨rfl, rfl, fun _ hDelivery => .inl hDelivery, h.timed proc⟩
  | enqueue deliveryId job =>
    exact leased_quiet h rfl rfl rfl rfl fun _ _ =>
      ⟨rfl, rfl, fun _ hDelivery => .inl hDelivery, h.timed proc⟩
  | own command =>
    have hOwn : attemptProtocol.permits (phases s proc) command := hPermits
    have hTimed := h.timed proc
    cases command with
    | now =>
      apply leased_quiet h rfl rfl rfl (recordedBy_own rfl _ _ _)
      intro result hResult
      cases hPhase : phases s proc with
      | idle now =>
        rw [hPhase] at hTimed
        cases outcome with
        | reply =>
          rw [hResult]
          refine ⟨rfl, rfl, nofun, ?_⟩
          rintro _ ⟨⟩
          exact le_rfl
        | fail error applied =>
          rw [hResult]
          exact ⟨rfl, rfl, nofun, hTimed⟩
      | _ => cases result <;> exact ⟨rfl, rfl, fun _ hDelivery => .inl hDelivery, nofun⟩
    | enqueueJob job =>
      apply leased_quiet h rfl rfl rfl (recordedBy_own rfl _ _ _)
      intro result _
      cases hPhase : phases s proc with
      | idle now =>
        rw [hPhase] at hTimed
        cases result <;> exact ⟨rfl, rfl, nofun, hTimed⟩
      | _ => cases result <;> exact ⟨rfl, rfl, fun _ hDelivery => .inl hDelivery, nofun⟩
    | getDue now => cases hPhase : phases s proc <;> rw [hPhase] at hOwn <;> exact hOwn.elim
    | fetch =>
      cases hPhase : phases s proc with
      | granted leaseUntil =>
        apply leased_quiet h rfl rfl rfl (recordedBy_own rfl _ _ _)
        intro result hResult
        rw [hPhase]
        cases outcome with
        | reply =>
          rw [hResult]
          refine ⟨rfl, rfl, ?_, nofun⟩
          rintro _ ⟨⟩
          exact .inr rfl
        | fail error applied =>
          rw [hResult]
          exact ⟨rfl, rfl, nofun, nofun⟩
      | _ => rw [hPhase] at hOwn; exact hOwn.elim
    | getCredentialByUuid uuid =>
      cases hPhase : phases s proc with
      | fetched leaseUntil delivery =>
        apply leased_quiet h rfl rfl rfl (recordedBy_own rfl _ _ _)
        intro result _
        rw [hPhase]
        cases result <;> exact ⟨rfl, rfl, fun _ hDelivery => .inl hDelivery, nofun⟩
      | _ => rw [hPhase] at hOwn; exact hOwn.elim
    | receive =>
      cases hPhase : phases s proc with
      | requesting leaseUntil delivery =>
        apply leased_quiet h rfl rfl rfl (recordedBy_own rfl _ _ _)
        intro result _
        rw [hPhase]
        cases result <;> exact ⟨rfl, rfl, fun _ hDelivery => .inl hDelivery, nofun⟩
      | _ => rw [hPhase] at hOwn; exact hOwn.elim
    | send attempt =>
      cases hPhase : phases s proc with
      | fetched leaseUntil delivery =>
        have hCount : ((deliveryTable ι).recorded.perform proc (.own (.send attempt)) outcome
            s).2.history.countP isRequest = s.history.countP isRequest + 1 :=
          List.countP_cons_of_pos rfl
        rw [Leased, phases_perform, hPhase, hCount]
        cases outcome with
        | reply => exact LeaseInvariant.send h hPhase (.inl rfl)
        | fail error applied =>
          cases applied <;> exact LeaseInvariant.send h hPhase (.inr ⟨_, rfl⟩)
      | _ => rw [hPhase] at hOwn; exact hOwn.elim
    | claim now leaseUntil =>
      cases hPhase : phases s proc with
      | idle time =>
        obtain rfl : time = some now := by
          rw [hPhase] at hOwn
          exact hOwn
        rw [hPhase] at hTimed
        exact leased_claim h hPhase (hTimed now rfl) hAllows
      | _ => rw [hPhase] at hOwn; exact hOwn.elim
    | markSucceeded attemptCount statusCode =>
      obtain rfl := hAllows rfl
      cases hPhase : phases s proc with
      | settled leaseUntil delivery sent failure =>
        rw [hPhase] at hOwn
        obtain ⟨rfl, rfl⟩ := hOwn
        exact leased_record h rfl hPhase rfl rfl rfl nofun fun _ => rfl
      | _ => rw [hPhase] at hOwn; exact hOwn.elim
    | scheduleRetry attemptCount scheduledFor lastError lastStatusCode =>
      obtain rfl := hAllows rfl
      cases hPhase : phases s proc with
      | settled leaseUntil delivery sent failure =>
        rw [hPhase] at hOwn
        obtain ⟨rfl, rfl, hMore⟩ := hOwn
        exact leased_record h rfl hPhase rfl rfl rfl (fun _ => ⟨hMore, ⟨_, rfl⟩, rfl⟩) nofun
      | _ => rw [hPhase] at hOwn; exact hOwn.elim
    | markDeadLetter attemptCount lastError lastStatusCode =>
      obtain rfl := hAllows rfl
      cases hPhase : phases s proc with
      | settled leaseUntil delivery sent failure =>
        rw [hPhase] at hOwn
        obtain ⟨rfl, -⟩ := hOwn
        exact leased_record h rfl hPhase rfl rfl rfl nofun nofun
      | _ => rw [hPhase] at hOwn; exact hOwn.elim

theorem leased_environment (h : Leased maxAttempts s) {move : TableMove}
    (hAllows : (leaseDiscipline ι).environment move s)
    (hMove : (deliveryTable ι).recorded.environment move s = some s') : Leased maxAttempts s' := by
  have hPhases : phases s' = phases s := System.ghosts_environment hMove
  obtain ⟨state, hState, rfl⟩ := Option.map_eq_some_iff.mp hMove
  rw [Leased, hPhases]
  cases move with
  | others rows =>
    replace hState : DeliveryTable.environment (.others rows) s.state = some state := hState
    rw [DeliveryTable.environment] at hState
    split at hState
    · cases hState
      exact h
    · cases hState
  | own move =>
    replace hState : DeliveryTable.environment (.own move) s.state = some state := hState
    rw [DeliveryTable.environment] at hState
    split at hState
    · rename_i delivery hDelivery
      cases hState
      cases move with
      | tick now =>
        rw [DeliveryStore.environment] at hDelivery
        split at hDelivery
        · rename_i hLater
          cases hDelivery
          exact LeaseInvariant.tick h hLater hAllows
        · cases hDelivery
      | answer response =>
        cases hDelivery
        exact h
    · cases hState

end Invariant

section Runs

variable {ι : Type} [DecidableEq ι]

def tableTasks (config : WebhookDeliveryConfig) (tasks : ι → TableTask) (s : DeliveryTable) :
    Config ι TableCommand.Reply DeliveryError Unit (TableRecord ι) where
  shared := ⟨s, []⟩
  procs proc := (tasks proc).method config

/-- Throughout a run whose attempts are done within their leases the attempts are bounded, and each pass
of a sweep enqueues the row once if it finds it due until it comes to it. -/
theorem attempts_bounded (config : WebhookDeliveryConfig) (tasks : ι → TableTask) (s : DeliveryTable)
    {maxAttempts : Nat} (hMax : 1 ≤ maxAttempts) {credentialUuid : Option String}
    {scheduledFor : Option UnixTime} {created : UnixTime}
    (hCreated : s.delivery.row =
      createWebhookDelivery s.delivery.row.id maxAttempts credentialUuid scheduledFor created)
    {events : List (Event ι DeliveryError TableMove)}
    {last : Config ι TableCommand.Reply DeliveryError Unit (TableRecord ι)}
    (hRun : (deliveryTable ι).recorded.run (tableTasks config tasks s) events = some last)
    (hFollows : (deliveryTable ι).recorded.Follows (leaseDiscipline ι) (tableTasks config tasks s)
      events) :
    AttemptsBounded maxAttempts last.shared ∧
      ∀ proc pages result, tasks proc = .sweep pages → s.delivery.row.id ≤ pages →
        (last.procs proc).result? = some result →
          let calls := last.shared.own proc
          let times := calls.countP (enqueues s.delivery.row.id)
          times ≤ 1 ∧ (result = .ok () → (∀ call ∈ calls, FindsDue call) → times = 1) := by
  constructor
  · have hStart : Leased maxAttempts (⟨s, []⟩ : TableRecord ι) := by
      rw [Leased, hCreated]
      constructor
      case timed => exact fun _ => nofun
      case leased => exact fun _ => nofun
      case alone => exact fun _ _ hNone => absurd rfl hNone
      case current => exact fun _ => nofun
      case maxAttempts_eq => rfl
      case bounded => exact Nat.zero_le _
      case counted => rfl
      case unfinished => exact fun _ => ⟨hMax, ⟨_, rfl⟩, nofun⟩
      case delivered => exact nofun
      case unsent => exact fun _ => Nat.le_refl _
      case sent => exact Nat.zero_le _
    have hLeased : Leased maxAttempts last.shared :=
      System.recorded_invariant (I := Leased maxAttempts) (P := tableProtocol)
        (fun _ _ _ _ h hPermits hAllows => leased_call h hPermits hAllows)
        (fun _ _ _ h hAllows hMove => leased_environment h hAllows hMove)
        hFollows hRun (fun proc => (tasks proc).obeys config) rfl hStart
    constructor
    case oneInFlight =>
      intro proc proc' hProc hProc'
      exact hLeased.alone proc proc' (Phase.leased_of_inFlight hProc) (Phase.leased_of_inFlight hProc')
    case requests_le => exact LeaseInvariant.sends_le hLeased
    case counted =>
      rw [← hLeased.counted]
      rw [List.length_eq_countP_add_countP (fun outcome : Bool × Option Failure => outcome.1)]
      simp
    case exhausted => exact LeaseInvariant.exhausted hLeased
    case permanent => exact LeaseInvariant.permanent hLeased
    case scheduled => exact fun hPending => (hLeased.unfinished hPending).2.1
  · intro proc pages result hSweep hPages hResult
    have hProc : (tableTasks config tasks s).procs proc = sweepDeliveries pages := by
      show (tasks proc).method config = _
      rw [hSweep]
      rfl
    exact sweep_enqueues_once hRun hProc rfl hPages hResult

end Runs

instance : DecidablePred FindsDue
  | (.getDue now _ afterId, _, found) =>
    inferInstanceAs (Decidable (afterId < found.delivery.row.id →
      found.delivery.row.isDue now = true))
  | (.own _, _, _) => isTrue trivial
  | (.enqueue _ _, _, _) => isTrue trivial

section

variable {ι : Type} [DecidableEq ι]

instance (proc : ι) (command : TableCommand) (outcome : Outcome DeliveryError) (s : TableRecord ι) :
    Decidable ((leaseDiscipline ι).call proc command outcome s) := by
  unfold leaseDiscipline
  dsimp only
  split <;> infer_instance

instance [Fintype ι] (move : TableMove) (s : TableRecord ι) :
    Decidable ((leaseDiscipline ι).environment move s) := by
  unfold leaseDiscipline
  dsimp only
  split <;> infer_instance

end

def DeliveryTable.created (credentialUuid : Option String) : DeliveryTable where
  delivery := ⟨createWebhookDelivery 1 5 credentialUuid none ⟨1, UnixTime.one_pos⟩, ⟨1, UnixTime.one_pos⟩,
    ⟨200, "ok"⟩, []⟩
  others := []
  positive := Nat.one_pos
  distinct := List.nodup_singleton _

def deliverAndSweep : Bool → TableTask
  | true => .deliver
  | false => .sweep 1

theorem attempts_bounded_swept : ∃ last,
    (deliveryTable Bool).recorded.run (tableTasks ⟨30, 600, 30⟩ deliverAndSweep (.created none))
      ([false, false, false, true, true, true, true, true, true].map (.resume · .reply)) = some last ∧
    AttemptsBounded 5 last.shared ∧ (last.shared.own false).countP (enqueues 1) = 1 := by
  have hEnds : ((deliveryTable Bool).recorded.run
      (tableTasks ⟨30, 600, 30⟩ deliverAndSweep (.created none))
      ([false, false, false, true, true, true, true, true, true].map (.resume · .reply))).any
        (fun last => decide ((last.procs false).result? = some (.ok ()) ∧
          ∀ call ∈ last.shared.own false, FindsDue call)) = true := by
    decide +kernel
  obtain ⟨last, hLast, hSwept⟩ := (Option.any_eq_true _ _).mp hEnds
  obtain ⟨hResult, hDue⟩ := of_decide_eq_true hSwept
  obtain ⟨hBounded, hSweeps⟩ := attempts_bounded ⟨30, 600, 30⟩ deliverAndSweep (.created none)
    (by decide) rfl hLast (by decide +kernel)
  exact ⟨last, hLast, hBounded, (hSweeps false 1 _ rfl (by decide) hResult).2 rfl hDue⟩

theorem unsent_attempt_counted : ¬ ∀ (config : WebhookDeliveryConfig) (tasks : Unit → TableTask)
    (s : DeliveryTable) (maxAttempts : Nat) (credentialUuid : Option String)
    (scheduledFor : Option UnixTime) (created : UnixTime)
    (events : List (Event Unit DeliveryError TableMove))
    (last : Config Unit TableCommand.Reply DeliveryError Unit (TableRecord Unit)),
    1 ≤ maxAttempts →
    s.delivery.row =
      createWebhookDelivery s.delivery.row.id maxAttempts credentialUuid scheduledFor created →
    (deliveryTable Unit).recorded.run (tableTasks config tasks s) events = some last →
    (deliveryTable Unit).recorded.Follows (leaseDiscipline Unit) (tableTasks config tasks s) events →
    last.shared.state.delivery.row.attemptCount =
      (outcomes last.shared.history).countP fun outcome => outcome.1 := by
  intro h
  have hEnds : ((deliveryTable Unit).recorded.run
      (tableTasks ⟨30, 600, 30⟩ (fun _ => .deliver) (.created (some "credential")))
      [.resume () .reply, .resume () .reply, .resume () .reply,
        .resume () (.fail (.exception "OperationalError") false), .resume () .reply]).any
        (fun last => decide (last.shared.state.delivery.row.attemptCount ≠
          (outcomes last.shared.history).countP fun outcome => outcome.1)) = true := by
    decide +kernel
  obtain ⟨last, hLast, hDiffer⟩ := (Option.any_eq_true _ _).mp hEnds
  exact of_decide_eq_true hDiffer
    (h _ _ _ 5 _ _ _ _ last (by decide) rfl hLast (by decide +kernel))

end FastVoice.Webhooks
