import FastVoice.Webhooks.Attempts

/-! # Leases

The invariant of the attempts, over the row, the clock, the number of requests, the recorded outcomes and
how far each task is: one step at a time, apart from the tasks that take it.
-/
namespace FastVoice.Webhooks

theorem Phase.leased_of_inFlight {phase : Phase} (h : phase.inFlight = true) : phase.leaseUntil ≠ none := by
  cases phase <;> simp_all [Phase.inFlight, Phase.leaseUntil]

theorem Phase.leased_of_delivery {phase : Phase} {delivery : WebhookDelivery}
    (h : delivery ∈ phase.delivery) : phase.leaseUntil ≠ none := by
  cases phase <;> simp_all [Phase.delivery, Phase.leaseUntil]

section Invariant

variable {ι : Type}

structure LeaseInvariant (maxAttempts : Nat) (row : WebhookDelivery) (clock : UnixTime) (sends : Nat)
    (ended : List (Bool × Option Failure)) (phase : ι → Phase) : Prop where
  timed : ∀ proc, ∀ now ∈ (phase proc).time, now.val ≤ clock.val
  leased : ∀ proc, ∀ leaseUntil ∈ (phase proc).leaseUntil, row.status = .pending ∧
    row.scheduledFor = some leaseUntil ∧ clock.val < leaseUntil.val
  alone : ∀ proc proc', (phase proc).leaseUntil ≠ none → (phase proc').leaseUntil ≠ none → proc = proc'
  current : ∀ proc, ∀ delivery ∈ (phase proc).delivery,
    delivery.attemptCount = row.attemptCount ∧ delivery.maxAttempts = row.maxAttempts
  maxAttempts_eq : row.maxAttempts = maxAttempts
  bounded : row.attemptCount ≤ maxAttempts
  counted : ended.length = row.attemptCount
  unfinished : row.status = .pending → row.attemptCount < maxAttempts ∧
    (∃ due, row.scheduledFor = some due) ∧ ∀ outcome ∈ ended, outcome.2 = some .transient
  delivered : row.status = .succeeded → (∀ outcome ∈ ended, outcome.2 ≠ some .permanent) ∧
    ended.countP (fun outcome => outcome.2 = some .transient) < maxAttempts
  unsent : (∀ proc, (phase proc).sent = false) → sends ≤ row.attemptCount
  sent : sends ≤ row.attemptCount + 1

namespace LeaseInvariant

variable {maxAttempts sends : Nat} {row row' : WebhookDelivery} {clock clock' : UnixTime}
  {ended : List (Bool × Option Failure)} {phase : ι → Phase} {proc : ι} {next : Phase}

theorem sends_le (h : LeaseInvariant maxAttempts row clock sends ended phase) : sends ≤ maxAttempts := by
  by_cases hSent : ∃ proc, (phase proc).sent = true
  · obtain ⟨proc, hSent⟩ := hSent
    obtain ⟨leaseUntil, hLease⟩ := Option.ne_none_iff_exists'.mp (Phase.leased_of_sent hSent)
    have hPending := (h.leased proc leaseUntil hLease).1
    have hMore := (h.unfinished hPending).1
    have hSends := h.sent
    omega
  · simp only [not_exists, Bool.not_eq_true] at hSent
    exact (h.unsent hSent).trans h.bounded

theorem others (h : LeaseInvariant maxAttempts row clock sends ended phase) (proc : ι)
    (hLease : (phase proc).leaseUntil ≠ none) : ∀ other, other ≠ proc → (phase other).leaseUntil = none := by
  intro other hOther
  by_contra hNone
  exact hOther (h.alone other proc hNone hLease)

theorem free (h : LeaseInvariant maxAttempts row clock sends ended phase) {now : UnixTime}
    (hNow : now.val ≤ clock.val) (hClaimable : row.isClaimable now = true) (other : ι) :
    (phase other).leaseUntil = none := by
  by_contra hLease
  obtain ⟨leaseUntil, hLease⟩ := Option.ne_none_iff_exists'.mp hLease
  obtain ⟨-, hScheduled, hLater⟩ := h.leased other leaseUntil hLease
  rw [WebhookDelivery.isClaimable, Bool.and_eq_true, hScheduled] at hClaimable
  have hDue : leaseUntil.val ≤ now.val := of_decide_eq_true hClaimable.2
  exact absurd (hLater.trans_le hDue) (not_lt.mpr hNow)

theorem exhausted (h : LeaseInvariant maxAttempts row clock sends ended phase)
    (hTransient : maxAttempts ≤ ended.countP fun outcome => outcome.2 = some .transient) :
    row.status = .deadLetter := by
  have hLength := List.countP_le_length (p := fun outcome : Bool × Option Failure =>
    decide (outcome.2 = some .transient)) (l := ended)
  have hCounted := h.counted
  cases hStatus : row.status with
  | pending =>
    have hMore := (h.unfinished hStatus).1
    omega
  | succeeded =>
    have hFewer := (h.delivered hStatus).2
    omega
  | deadLetter => rfl

theorem permanent (h : LeaseInvariant maxAttempts row clock sends ended phase)
    (hPermanent : ∃ outcome ∈ ended, outcome.2 = some .permanent) : row.status = .deadLetter := by
  obtain ⟨outcome, hOutcome, hFailure⟩ := hPermanent
  cases hStatus : row.status with
  | pending =>
    rw [(h.unfinished hStatus).2.2 outcome hOutcome] at hFailure
    cases hFailure
  | succeeded => exact absurd hFailure ((h.delivered hStatus).1 outcome hOutcome)
  | deadLetter => rfl

theorem tick (h : LeaseInvariant maxAttempts row clock sends ended phase) (hLater : clock.val ≤ clock'.val)
    (hLeases : ∀ proc, ∀ leaseUntil ∈ (phase proc).leaseUntil, clock'.val < leaseUntil.val) :
    LeaseInvariant maxAttempts row clock' sends ended phase where
  timed proc now hNow := (h.timed proc now hNow).trans hLater
  leased proc leaseUntil hLease :=
    ⟨(h.leased proc leaseUntil hLease).1, (h.leased proc leaseUntil hLease).2.1,
      hLeases proc leaseUntil hLease⟩
  alone := h.alone
  current := h.current
  maxAttempts_eq := h.maxAttempts_eq
  bounded := h.bounded
  counted := h.counted
  unfinished := h.unfinished
  delivered := h.delivered
  unsent := h.unsent
  sent := h.sent

variable [DecidableEq ι]

theorem quiet (h : LeaseInvariant maxAttempts row clock sends ended phase)
    (hLease : next.leaseUntil = (phase proc).leaseUntil) (hSent : next.sent = (phase proc).sent)
    (hDelivery : ∀ delivery ∈ next.delivery, delivery ∈ (phase proc).delivery ∨ delivery = row)
    (hTime : ∀ now ∈ next.time, now.val ≤ clock.val) :
    LeaseInvariant maxAttempts row clock sends ended (Function.update phase proc next) := by
  have hLeases : ∀ other, (Function.update phase proc next other).leaseUntil =
      (phase other).leaseUntil := by
    intro other
    by_cases hOther : other = proc
    · subst hOther
      rw [Function.update_self, hLease]
    · rw [Function.update_of_ne hOther]
  have hSents : ∀ other, (Function.update phase proc next other).sent = (phase other).sent := by
    intro other
    by_cases hOther : other = proc
    · subst hOther
      rw [Function.update_self, hSent]
    · rw [Function.update_of_ne hOther]
  constructor
  case timed =>
    intro other now hNow
    by_cases hOther : other = proc
    · subst hOther
      rw [Function.update_self] at hNow
      exact hTime now hNow
    · rw [Function.update_of_ne hOther] at hNow
      exact h.timed other now hNow
  case leased =>
    intro other leaseUntil hOther
    rw [hLeases] at hOther
    exact h.leased other leaseUntil hOther
  case alone =>
    intro other other' hOther hOther'
    rw [hLeases] at hOther hOther'
    exact h.alone other other' hOther hOther'
  case current =>
    intro other delivery hCurrent
    by_cases hOther : other = proc
    · subst hOther
      rw [Function.update_self] at hCurrent
      obtain hBefore | rfl := hDelivery delivery hCurrent
      · exact h.current other delivery hBefore
      · exact ⟨rfl, rfl⟩
    · rw [Function.update_of_ne hOther] at hCurrent
      exact h.current other delivery hCurrent
  case unsent =>
    intro hNone
    exact h.unsent fun other => (hSents other).symm.trans (hNone other)
  case maxAttempts_eq => exact h.maxAttempts_eq
  case bounded => exact h.bounded
  case counted => exact h.counted
  case unfinished => exact h.unfinished
  case delivered => exact h.delivered
  case sent => exact h.sent

theorem exclusive {sends' : Nat} {ended' : List (Bool × Option Failure)}
    (h : LeaseInvariant maxAttempts row clock sends ended phase)
    (hOthers : ∀ other, other ≠ proc → (phase other).leaseUntil = none)
    (hTime : ∀ now ∈ next.time, now.val ≤ clock.val)
    (hLeased : ∀ leaseUntil ∈ next.leaseUntil, row'.status = .pending ∧
      row'.scheduledFor = some leaseUntil ∧ clock.val < leaseUntil.val)
    (hCurrent : ∀ delivery ∈ next.delivery, delivery.attemptCount = row'.attemptCount ∧
      delivery.maxAttempts = row'.maxAttempts)
    (hMax : row'.maxAttempts = maxAttempts) (hBounded : row'.attemptCount ≤ maxAttempts)
    (hCounted : ended'.length = row'.attemptCount)
    (hUnfinished : row'.status = .pending → row'.attemptCount < maxAttempts ∧
      (∃ due, row'.scheduledFor = some due) ∧ ∀ outcome ∈ ended', outcome.2 = some .transient)
    (hDelivered : row'.status = .succeeded → (∀ outcome ∈ ended', outcome.2 ≠ some .permanent) ∧
      ended'.countP (fun outcome => outcome.2 = some .transient) < maxAttempts)
    (hUnsent : next.sent = false → sends' ≤ row'.attemptCount) (hSent : sends' ≤ row'.attemptCount + 1) :
    LeaseInvariant maxAttempts row' clock sends' ended' (Function.update phase proc next) := by
  have hElsewhere : ∀ other, (Function.update phase proc next other).leaseUntil ≠ none →
      other = proc := by
    intro other hLease
    by_contra hOther
    rw [Function.update_of_ne hOther] at hLease
    exact hLease (hOthers other hOther)
  constructor
  case timed =>
    intro other now hNow
    by_cases hOther : other = proc
    · subst hOther
      rw [Function.update_self] at hNow
      exact hTime now hNow
    · rw [Function.update_of_ne hOther] at hNow
      exact h.timed other now hNow
  case leased =>
    intro other leaseUntil hLease
    obtain rfl := hElsewhere other (by rw [hLease]; exact Option.some_ne_none _)
    rw [Function.update_self] at hLease
    exact hLeased leaseUntil hLease
  case alone =>
    intro other other' hOther hOther'
    exact (hElsewhere other hOther).trans (hElsewhere other' hOther').symm
  case current =>
    intro other delivery hDelivery
    obtain rfl := hElsewhere other (Phase.leased_of_delivery hDelivery)
    rw [Function.update_self] at hDelivery
    exact hCurrent delivery hDelivery
  case unsent =>
    intro hNone
    have hOwn := hNone proc
    rw [Function.update_self] at hOwn
    exact hUnsent hOwn
  case maxAttempts_eq => exact hMax
  case bounded => exact hBounded
  case counted => exact hCounted
  case unfinished => exact hUnfinished
  case delivered => exact hDelivered
  case sent => exact hSent

theorem claim (h : LeaseInvariant maxAttempts row clock sends ended phase) {now leaseUntil : UnixTime}
    (hNow : now.val ≤ clock.val) (hClaimable : row.isClaimable now = true)
    (hNext : next = phase proc ∨ next = .granted leaseUntil ∧ clock.val < leaseUntil.val) :
    LeaseInvariant maxAttempts { row with scheduledFor := some leaseUntil } clock sends ended
      (Function.update phase proc next) := by
  have hFree := h.free hNow hClaimable
  have hPending : row.status = .pending := of_decide_eq_true (Bool.and_eq_true_iff.mp hClaimable).1
  have hUnsent := h.unsent fun other => by
    by_contra hSent
    exact Phase.leased_of_sent (Bool.not_eq_false _ ▸ hSent) (hFree other)
  apply h.exclusive
  case hOthers => exact fun other _ => hFree other
  case hTime =>
    intro time hTime
    obtain rfl | ⟨rfl, -⟩ := hNext
    · exact h.timed proc time hTime
    · cases hTime
  case hLeased =>
    intro lease hLease
    obtain rfl | ⟨rfl, hLater⟩ := hNext
    · rw [hFree proc] at hLease
      cases hLease
    · cases hLease
      exact ⟨hPending, rfl, hLater⟩
  case hCurrent =>
    intro delivery hDelivery
    obtain rfl | ⟨rfl, -⟩ := hNext
    · exact absurd (hFree proc) (Phase.leased_of_delivery hDelivery)
    · cases hDelivery
  case hMax => exact h.maxAttempts_eq
  case hBounded => exact h.bounded
  case hCounted => exact h.counted
  case hUnfinished =>
    intro _
    obtain ⟨hMore, -, hTransient⟩ := h.unfinished hPending
    exact ⟨hMore, ⟨leaseUntil, rfl⟩, hTransient⟩
  case hDelivered => exact h.delivered
  case hUnsent => exact fun _ => hUnsent
  case hSent => exact h.sent

theorem send (h : LeaseInvariant maxAttempts row clock sends ended phase) {leaseUntil : UnixTime}
    {delivery : WebhookDelivery} (hPhase : phase proc = .fetched leaseUntil delivery)
    (hNext : next = .requesting leaseUntil delivery ∨
      ∃ failure, next = .settled leaseUntil delivery true failure) :
    LeaseInvariant maxAttempts row clock (sends + 1) ended (Function.update phase proc next) := by
  obtain ⟨hLease, hDelivery, hSent, hTime⟩ : next.leaseUntil = some leaseUntil ∧
      next.delivery = some delivery ∧ next.sent = true ∧ next.time = none := by
    obtain rfl | ⟨failure, rfl⟩ := hNext
    · exact ⟨rfl, rfl, rfl, rfl⟩
    · exact ⟨rfl, rfl, rfl, rfl⟩
  have hOthers := h.others proc (by rw [hPhase]; exact Option.some_ne_none _)
  have hUnsent := h.unsent fun other => by
    by_cases hOther : other = proc
    · subst hOther
      rw [hPhase]
      rfl
    · by_contra hSent
      exact Phase.leased_of_sent (Bool.not_eq_false _ ▸ hSent) (hOthers other hOther)
  apply h.exclusive hOthers
  case hTime =>
    rw [hTime]
    exact nofun
  case hLeased =>
    rw [hLease, ← show (phase proc).leaseUntil = some leaseUntil by rw [hPhase]; rfl]
    exact h.leased proc
  case hCurrent =>
    rw [hDelivery, ← show (phase proc).delivery = some delivery by rw [hPhase]; rfl]
    exact h.current proc
  case hMax => exact h.maxAttempts_eq
  case hBounded => exact h.bounded
  case hCounted => exact h.counted
  case hUnfinished => exact h.unfinished
  case hDelivered => exact h.delivered
  case hUnsent =>
    rw [hSent]
    exact nofun
  case hSent => omega

theorem record (h : LeaseInvariant maxAttempts row clock sends ended phase) {leaseUntil : UnixTime}
    {delivery : WebhookDelivery} {sent : Bool} {failure : Option Failure}
    (hPhase : phase proc = .settled leaseUntil delivery sent failure)
    (hCount : row'.attemptCount = delivery.attemptCount + 1) (hMax : row'.maxAttempts = row.maxAttempts)
    (hRetried : row'.status = .pending → delivery.attemptCount + 1 < delivery.maxAttempts ∧
      (∃ due, row'.scheduledFor = some due) ∧ failure = some .transient)
    (hSucceeded : row'.status = .succeeded → failure = none) :
    LeaseInvariant maxAttempts row' clock sends ((sent, failure) :: ended)
      (Function.update phase proc .recorded) := by
  have hOthers := h.others proc (by rw [hPhase]; exact Option.some_ne_none _)
  obtain ⟨hPending, -, -⟩ := h.leased proc leaseUntil (by rw [hPhase]; rfl)
  obtain ⟨hCurrent, hCurrentMax⟩ := h.current proc delivery (by rw [hPhase]; rfl)
  obtain ⟨hMore, -, hTransient⟩ := h.unfinished hPending
  have hMaxAttempts := h.maxAttempts_eq
  have hEnded := h.counted
  have hSends := h.sent
  apply h.exclusive hOthers
  case hTime => exact nofun
  case hLeased => exact nofun
  case hCurrent => exact nofun
  case hMax => omega
  case hBounded => omega
  case hCounted =>
    rw [List.length_cons]
    omega
  case hUnfinished =>
    intro hStatus
    obtain ⟨hBelow, hScheduled, rfl⟩ := hRetried hStatus
    exact ⟨by omega, hScheduled, List.forall_mem_cons.mpr ⟨rfl, hTransient⟩⟩
  case hDelivered =>
    intro hStatus
    obtain rfl := hSucceeded hStatus
    constructor
    · intro outcome hOutcome
      obtain rfl | hEarlier := List.mem_cons.mp hOutcome
      · exact nofun
      · rw [hTransient outcome hEarlier]
        decide
    · have hLength := List.countP_le_length (p := fun outcome : Bool × Option Failure =>
        decide (outcome.2 = some .transient)) (l := ended)
      rw [List.countP_cons_of_neg (by simp)]
      omega
  case hUnsent => omega
  case hSent => omega

end LeaseInvariant

end Invariant

end FastVoice.Webhooks
