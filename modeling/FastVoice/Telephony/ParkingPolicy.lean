import Mathlib.Algebra.Order.Ring.Rat
import Mathlib.Data.List.TakeWhile
import Mathlib.Tactic.Linarith

/-! # Parking an ARI configuration that keeps failing

A configuration is parked after five permanent failures in a row, or after an hour of transient ones. The
connection counts failures of both kinds in one counter, and keeps one time for both.
-/
namespace FastVoice.Telephony.ParkingPolicy

def permanentFailureThreshold : Nat := 5

def transientFailureWindow : ℚ := 3600

def stableConnectionSeconds : ℚ := 30

def failureLogInterval : ℚ := 900

def maxReconnectDelay : Nat := 300

structure DograhFailure where
  code : String
  externalMessage : String
  retryable : Option Bool
  deriving DecidableEq

/-- A failure with the two clock readings of its record, and whether parking is written to the database. -/
structure FailedConnection where
  failure : DograhFailure
  recordedAt : ℚ
  decidedAt : ℚ
  written : Bool
  deriving DecidableEq

def FailedConnection.isPermanent (f : FailedConnection) : Bool := f.failure.retryable = some false

/-- The log entries and the reasons of parking are what the connection has written. -/
structure ARIConnection where
  running : Bool
  reconnectDelay : Nat
  consecutiveFailures : Nat
  failingSince : Option ℚ
  lastLoggedCode : Option String
  lastLoggedAt : ℚ
  lastConnectionStable : Bool
  logged : List (DograhFailure × Nat × Nat)
  inactiveReasons : List String
  deriving DecidableEq

namespace ARIConnection

def started : ARIConnection := ⟨true, 1, 0, none, none, 0, false, [], []⟩

def noteStableConnection (c : ARIConnection) : ARIConnection :=
  { c with reconnectDelay := 1, consecutiveFailures := 0, failingSince := none, lastLoggedCode := none }

def shouldLogFailure (c : ARIConnection) (code : String) (now : ℚ) : Bool :=
  some code ≠ c.lastLoggedCode || failureLogInterval ≤ now - c.lastLoggedAt

def logFailure (c : ARIConnection) (f : FailedConnection) : ARIConnection :=
  if c.shouldLogFailure f.failure.code f.recordedAt then
    { c with
      lastLoggedCode := some f.failure.code
      lastLoggedAt := f.recordedAt
      logged := (f.failure, c.reconnectDelay, c.consecutiveFailures) :: c.logged }
  else c

def shouldDeactivate (c : ARIConnection) (f : FailedConnection) : Bool :=
  if f.failure.retryable = some false then permanentFailureThreshold ≤ c.consecutiveFailures
  else c.failingSince.any fun failingSince => transientFailureWindow ≤ f.decidedAt - failingSince

def deactivate (c : ARIConnection) (f : FailedConnection) : ARIConnection :=
  if f.written then
    { c with
      running := false
      inactiveReasons := s!"{f.failure.code}: {f.failure.externalMessage}" :: c.inactiveReasons }
  else c

def recordFailure (c : ARIConnection) (f : FailedConnection) : ARIConnection :=
  let counted := { c with
    consecutiveFailures := c.consecutiveFailures + 1
    failingSince := c.failingSince <|> some f.recordedAt }
  let logged := counted.logFailure f
  if logged.shouldDeactivate f then logged.deactivate f else logged

end ARIConnection

inductive Attempt where
  | refused (f : FailedConnection)
  | dropped (uptime : ℚ) (f : FailedConnection)
  | closed (uptime recordedAt decidedAt : ℚ) (written : Bool)

def closedImmediately : DograhFailure where
  code := "ari-closed-immediately"
  externalMessage := "The PBX closed the ARI connection immediately after accepting it."
  retryable := some true

/-- What the accounting sees of connections. -/
inductive ConnectionOutcome where
  | stable
  | failed (f : FailedConnection)

namespace ARIConnection

def noteUptime (c : ARIConnection) (uptime : ℚ) : ARIConnection :=
  let listened := { c with lastConnectionStable := stableConnectionSeconds ≤ uptime }
  if listened.lastConnectionStable then listened.noteStableConnection else listened

def connect (c : ARIConnection) : Attempt → ARIConnection
  | .refused f => c.recordFailure f
  | .dropped uptime f => (c.noteUptime uptime).recordFailure f
  | .closed uptime recordedAt decidedAt written =>
    let listened := c.noteUptime uptime
    if listened.running && !listened.lastConnectionStable then
      listened.recordFailure ⟨closedImmediately, recordedAt, decidedAt, written⟩
    else listened

def backOff (c : ARIConnection) : ARIConnection :=
  if c.running then { c with reconnectDelay := min (c.reconnectDelay * 2) maxReconnectDelay } else c

def connectionLoop : List Attempt → ARIConnection → ARIConnection
  | [], c => c
  | attempt :: attempts, c => if c.running then connectionLoop attempts (c.connect attempt).backOff else c

def note (c : ARIConnection) : ConnectionOutcome → ARIConnection
  | .stable => c.noteStableConnection
  | .failed f => c.recordFailure f

end ARIConnection

def outcomesOfUptime (uptime : ℚ) : List ConnectionOutcome :=
  if stableConnectionSeconds ≤ uptime then [.stable] else []

def Attempt.outcomes : Attempt → List ConnectionOutcome
  | .refused f => [.failed f]
  | .dropped uptime f => outcomesOfUptime uptime ++ [.failed f]
  | .closed uptime recordedAt decidedAt written =>
    if stableConnectionSeconds ≤ uptime then [.stable]
    else [.failed ⟨closedImmediately, recordedAt, decidedAt, written⟩]

section Policy

def after : List ConnectionOutcome → ARIConnection
  | [] => .started
  | outcome :: earlier => (after earlier).note outcome

def streak : List ConnectionOutcome → List FailedConnection
  | .failed f :: earlier => f :: streak earlier
  | _ => []

def isTransient (f : FailedConnection) : Bool := !f.isPermanent

def Parks (earlier : List ConnectionOutcome) (f : FailedConnection) : Prop :=
  ((after earlier).recordFailure f).inactiveReasons ≠ (after earlier).inactiveReasons

/-- Five permanent failures in a row, or transient ones for as long as the window. -/
def ParksByPolicy (earlier : List ConnectionOutcome) (f : FailedConnection) : Prop :=
  let failures := streak (.failed f :: earlier)
  if f.isPermanent then permanentFailureThreshold ≤ (failures.takeWhile FailedConnection.isPermanent).length
  else ∃ first ∈ (failures.takeWhile isTransient).getLast?, transientFailureWindow ≤ f.decidedAt - first.recordedAt

/-- Failures of the other kind do not matter: they are too few or too young, or not among the last ones. -/
def Unmixed (earlier : List ConnectionOutcome) (f : FailedConnection) : Prop :=
  let failures := streak (.failed f :: earlier)
  if f.isPermanent then
    failures.length < permanentFailureThreshold ∨
      ∀ other ∈ failures.take permanentFailureThreshold, other.isPermanent = true
  else
    (∀ other ∈ failures, f.decidedAt - other.recordedAt < transientFailureWindow) ∨
      ∃ other ∈ failures.takeWhile isTransient, transientFailureWindow ≤ f.decidedAt - other.recordedAt

/-- The clock does not run backwards. -/
structure Chronological (failures : List FailedConnection) : Prop where
  each : ∀ f ∈ failures, f.recordedAt ≤ f.decidedAt
  ordered : failures.Pairwise fun later earlier => earlier.decidedAt ≤ later.recordedAt

end Policy

section Accounting

variable {c : ARIConnection} {f : FailedConnection}

theorem logFailure_accounting (c : ARIConnection) (f : FailedConnection) :
    (c.logFailure f).consecutiveFailures = c.consecutiveFailures ∧ (c.logFailure f).failingSince = c.failingSince ∧
      (c.logFailure f).inactiveReasons = c.inactiveReasons := by
  unfold ARIConnection.logFailure
  split <;> exact ⟨rfl, rfl, rfl⟩

theorem deactivate_accounting (c : ARIConnection) (f : FailedConnection) :
    (c.deactivate f).consecutiveFailures = c.consecutiveFailures ∧ (c.deactivate f).failingSince = c.failingSince := by
  unfold ARIConnection.deactivate
  split <;> exact ⟨rfl, rfl⟩

def counted (c : ARIConnection) (f : FailedConnection) : ARIConnection :=
  { c with
    consecutiveFailures := c.consecutiveFailures + 1
    failingSince := c.failingSince <|> some f.recordedAt }

theorem recordFailure_accounting (c : ARIConnection) (f : FailedConnection) :
    (c.recordFailure f).consecutiveFailures = c.consecutiveFailures + 1 ∧
      (c.recordFailure f).failingSince = (c.failingSince <|> some f.recordedAt) := by
  obtain ⟨hCount, hSince, -⟩ := logFailure_accounting (counted c f) f
  change (if _ then _ else _ : ARIConnection).consecutiveFailures = _ ∧
    (if _ then _ else _ : ARIConnection).failingSince = _
  split
  · obtain ⟨hDeactivated, hStill⟩ := deactivate_accounting ((counted c f).logFailure f) f
    exact ⟨hDeactivated.trans hCount, hStill.trans hSince⟩
  · exact ⟨hCount, hSince⟩

theorem after_accounting (outcomes : List ConnectionOutcome) :
    (after outcomes).consecutiveFailures = (streak outcomes).length ∧
      (after outcomes).failingSince = (streak outcomes).getLast?.map FailedConnection.recordedAt := by
  induction outcomes with
  | nil => exact ⟨rfl, rfl⟩
  | cons outcome earlier ih =>
    cases outcome with
    | stable => exact ⟨rfl, rfl⟩
    | failed f =>
      obtain ⟨hCount, hSince⟩ := recordFailure_accounting (after earlier) f
      refine ⟨hCount.trans (congrArg (· + 1) ih.1), hSince.trans ?_⟩
      rw [ih.2, streak]
      cases hStreak : streak earlier with
      | nil => rfl
      | cons last rest =>
        rw [List.getLast?_cons_cons]
        cases hFirst : (last :: rest).getLast? with
        | none => cases List.getLast?_eq_none_iff.mp hFirst
        | some first => rfl

theorem parks_iff {earlier : List ConnectionOutcome} (hWritten : f.written = true) :
    Parks earlier f ↔ (counted (after earlier) f).shouldDeactivate f = true := by
  obtain ⟨hCount, hSince, hReasons⟩ := logFailure_accounting (counted (after earlier) f) f
  have hDecision : ((counted (after earlier) f).logFailure f).shouldDeactivate f =
      (counted (after earlier) f).shouldDeactivate f := by
    simp only [ARIConnection.shouldDeactivate, hCount, hSince]
  have hRecord : (after earlier).recordFailure f =
      if (counted (after earlier) f).shouldDeactivate f then ((counted (after earlier) f).logFailure f).deactivate f
      else (counted (after earlier) f).logFailure f := by
    rw [← hDecision]
    rfl
  rw [Parks, hRecord]
  split
  · rename_i hDeactivates
    simp only [ARIConnection.deactivate, hWritten, if_true, hReasons, hDeactivates, iff_true]
    exact List.cons_ne_self _ _
  · rename_i hStays
    rw [hReasons]
    exact ⟨fun hNe => absurd rfl hNe, fun hDeactivates => absurd hDeactivates hStays⟩

theorem shouldDeactivate_permanent (h : f.isPermanent = true) :
    c.shouldDeactivate f = decide (permanentFailureThreshold ≤ c.consecutiveFailures) :=
  if_pos (of_decide_eq_true h)

theorem shouldDeactivate_transient (h : f.isPermanent = false) : c.shouldDeactivate f =
    c.failingSince.any fun failingSince => transientFailureWindow ≤ f.decidedAt - failingSince :=
  if_neg (of_decide_eq_false h)

theorem parks_permanent_iff {earlier : List ConnectionOutcome} (hWritten : f.written = true)
    (h : f.isPermanent = true) :
    Parks earlier f ↔ permanentFailureThreshold ≤ (streak (.failed f :: earlier)).length := by
  rw [parks_iff hWritten, shouldDeactivate_permanent h, decide_eq_true_iff]
  change _ ≤ (after earlier).consecutiveFailures + 1 ↔ _
  rw [(after_accounting earlier).1]
  rfl

theorem parks_transient_iff {earlier : List ConnectionOutcome} (hWritten : f.written = true)
    (h : f.isPermanent = false) : Parks earlier f ↔ ∃ first ∈ (streak (.failed f :: earlier)).getLast?,
      transientFailureWindow ≤ f.decidedAt - first.recordedAt := by
  have hSince := (after_accounting (.failed f :: earlier)).2
  rw [show after (.failed f :: earlier) = (after earlier).recordFailure f from rfl,
    (recordFailure_accounting _ f).2] at hSince
  rw [parks_iff hWritten, shouldDeactivate_transient h]
  change ((after earlier).failingSince <|> some f.recordedAt).any _ = true ↔ _
  rw [hSince, Option.any_map, Option.any_eq_true]
  simp only [Option.mem_def, decide_eq_true_eq]

end Accounting

theorem le_length_takeWhile_iff {α : Type} (p : α → Bool) (l : List α) (n : Nat) :
    n ≤ (l.takeWhile p).length ↔ n ≤ l.length ∧ ∀ x ∈ l.take n, p x = true := by
  induction l generalizing n with
  | nil => simp
  | cons x l ih =>
    cases n with
    | zero => simp
    | succ n =>
      cases hx : p x with
      | true => simp [hx, ih]
      | false => simp [hx]

theorem Chronological.recordedAt_getLast {failures : List FailedConnection} {first : FailedConnection}
    (h : Chronological failures) (hFirst : first ∈ failures.getLast?) :
    ∀ f ∈ failures, first.recordedAt ≤ f.recordedAt := by
  obtain ⟨later, hLater⟩ := List.getLast?_eq_some_iff.mp hFirst
  have hMem : first ∈ failures := List.mem_of_getLast? hFirst
  intro f hf
  rw [hLater] at hf
  obtain hf | hf := List.mem_append.mp hf
  · have hOrdered := hLater ▸ h.ordered
    have hBefore := (List.pairwise_append.mp hOrdered).2.2 f hf first List.mem_cons_self
    exact (h.each first hMem).trans hBefore
  · obtain rfl := List.mem_singleton.mp hf
    exact le_rfl

theorem Chronological.takeWhile {failures : List FailedConnection} (h : Chronological failures)
    (p : FailedConnection → Bool) : Chronological (failures.takeWhile p) where
  each f hf := h.each f ((List.takeWhile_sublist p).subset hf)
  ordered := h.ordered.sublist (List.takeWhile_sublist p)

theorem Chronological.exists_getLast_iff {failures : List FailedConnection} (h : Chronological failures) (time : ℚ) :
    (∃ first ∈ failures.getLast?, transientFailureWindow ≤ time - first.recordedAt) ↔
      ∃ f ∈ failures, transientFailureWindow ≤ time - f.recordedAt := by
  constructor
  · rintro ⟨first, hFirst, hOld⟩
    exact ⟨first, List.mem_of_getLast? hFirst, hOld⟩
  · rintro ⟨f, hf, hOld⟩
    obtain ⟨first, hFirst⟩ := Option.ne_none_iff_exists'.mp
      (fun hNone => List.ne_nil_of_mem hf (List.getLast?_eq_none_iff.mp hNone))
    have hLe := h.recordedAt_getLast hFirst f hf
    exact ⟨first, hFirst, by linarith⟩

/-- Parking follows the policy exactly where failures of the other kind do not matter. -/
theorem parks_by_policy_iff {earlier : List ConnectionOutcome} {f : FailedConnection}
    (hChronological : Chronological (streak (.failed f :: earlier))) (hWritten : f.written = true) :
    (Parks earlier f ↔ ParksByPolicy earlier f) ↔ Unmixed earlier f := by
  unfold ParksByPolicy Unmixed
  dsimp only
  split
  · rename_i hPermanent
    rw [parks_permanent_iff hWritten hPermanent, le_length_takeWhile_iff]
    generalize streak (.failed f :: earlier) = failures
    constructor
    · intro hIff
      obtain hFew | hMany := Nat.lt_or_ge failures.length permanentFailureThreshold
      · exact .inl hFew
      · exact .inr (hIff.mp hMany).2
    · rintro (hFew | hPure)
      · exact ⟨fun hMany => absurd hMany (Nat.not_le_of_lt hFew), fun hRun => hRun.1⟩
      · exact ⟨fun hMany => ⟨hMany, hPure⟩, fun hRun => hRun.1⟩
  · rename_i hPermanent
    have hTransient : f.isPermanent = false := Bool.eq_false_iff.mpr hPermanent
    have hRun := hChronological.takeWhile isTransient
    rw [parks_transient_iff hWritten hTransient, hChronological.exists_getLast_iff, hRun.exists_getLast_iff]
    generalize streak (.failed f :: earlier) = failures
    have hSubset : (∃ other ∈ failures.takeWhile isTransient,
        transientFailureWindow ≤ f.decidedAt - other.recordedAt) →
        ∃ other ∈ failures, transientFailureWindow ≤ f.decidedAt - other.recordedAt := by
      rintro ⟨other, hOther, hOld⟩
      exact ⟨other, (List.takeWhile_sublist _).subset hOther, hOld⟩
    constructor
    · intro hIff
      by_cases hOld : ∃ other ∈ failures, transientFailureWindow ≤ f.decidedAt - other.recordedAt
      · exact .inr (hIff.mp hOld)
      · left
        intro other hOther
        exact not_le.mp fun hLe => hOld ⟨other, hOther, hLe⟩
    · rintro (hYoung | hOld)
      · have hNone : ¬∃ other ∈ failures, transientFailureWindow ≤ f.decidedAt - other.recordedAt := by
          rintro ⟨other, hOther, hLe⟩
          exact absurd (hYoung other hOther) (not_lt_of_ge hLe)
        exact ⟨fun hAny => absurd hAny hNone, fun hAny => absurd (hSubset hAny) hNone⟩
      · exact ⟨fun _ => hOld, fun _ => hSubset hOld⟩

def permanentFailure (time : ℚ) : FailedConnection :=
  ⟨⟨"ari-401", "Check your telephony configuration and credentials.", some false⟩, time, time, true⟩

def transientFailure (time : ℚ) : FailedConnection :=
  ⟨⟨"ari-connection", "The external telephony service is temporarily unavailable.", some true⟩, time, time, true⟩

theorem five_permanent_failures_park : Parks ((([3, 2, 1, 0] : List ℚ).map permanentFailure).map .failed)
    (permanentFailure 4) ∧ (Parks ((([3, 2, 1, 0] : List ℚ).map permanentFailure).map .failed) (permanentFailure 4) ↔
      ParksByPolicy ((([3, 2, 1, 0] : List ℚ).map permanentFailure).map .failed) (permanentFailure 4)) := by
  refine ⟨by unfold Parks; decide +kernel, (parks_by_policy_iff ⟨by decide +kernel, by decide +kernel⟩ rfl).mpr ?_⟩
  exact .inr (by decide +kernel)

theorem one_permanent_failure_parks : ¬∀ (earlier : List ConnectionOutcome) (f : FailedConnection),
    Chronological (streak (.failed f :: earlier)) → f.written = true → (Parks earlier f ↔ ParksByPolicy earlier f) := by
  intro hAll
  have hIff := hAll ((([3, 2, 1, 0] : List ℚ).map transientFailure).map .failed) (permanentFailure 4)
    ⟨by decide +kernel, by decide +kernel⟩ rfl
  have hParks : Parks ((([3, 2, 1, 0] : List ℚ).map transientFailure).map .failed) (permanentFailure 4) := by
    unfold Parks
    decide +kernel
  have hPolicy : permanentFailureThreshold ≤ 1 := hIff.mp hParks
  revert hPolicy
  decide

section Loop

structure SameAccounting (c d : ARIConnection) : Prop where
  consecutiveFailures : c.consecutiveFailures = d.consecutiveFailures
  failingSince : c.failingSince = d.failingSince
  inactiveReasons : c.inactiveReasons = d.inactiveReasons

variable {c d : ARIConnection}

theorem shouldDeactivate_congr (h : SameAccounting c d) (f : FailedConnection) :
    c.shouldDeactivate f = d.shouldDeactivate f := by
  simp only [ARIConnection.shouldDeactivate, h.consecutiveFailures, h.failingSince]

theorem SameAccounting.recordFailure (h : SameAccounting c d) (f : FailedConnection) :
    SameAccounting (c.recordFailure f) (d.recordFailure f) := by
  have hCounted : SameAccounting ((counted c f).logFailure f) ((counted d f).logFailure f) := by
    obtain ⟨hCount, hSince, hReasons⟩ := logFailure_accounting (counted c f) f
    obtain ⟨hCount', hSince', hReasons'⟩ := logFailure_accounting (counted d f) f
    refine ⟨hCount.trans (.trans ?_ hCount'.symm), hSince.trans (.trans ?_ hSince'.symm),
      hReasons.trans (h.inactiveReasons.trans hReasons'.symm)⟩
    · exact congrArg (· + 1) h.consecutiveFailures
    · exact congrArg (· <|> some f.recordedAt) h.failingSince
  change SameAccounting (if ((counted c f).logFailure f).shouldDeactivate f then _ else _)
    (if ((counted d f).logFailure f).shouldDeactivate f then _ else _)
  rw [shouldDeactivate_congr hCounted]
  split
  · unfold ARIConnection.deactivate
    split
    · exact ⟨hCounted.consecutiveFailures, hCounted.failingSince, congrArg (List.cons _) hCounted.inactiveReasons⟩
    · exact hCounted
  · exact hCounted

theorem SameAccounting.noteUptime (h : SameAccounting c d) (uptime : ℚ) :
    SameAccounting (c.noteUptime uptime) ((outcomesOfUptime uptime).foldl ARIConnection.note d) := by
  unfold ARIConnection.noteUptime outcomesOfUptime
  by_cases hStable : stableConnectionSeconds ≤ uptime
  · simp only [hStable, decide_true, if_true]
    exact ⟨rfl, rfl, h.inactiveReasons⟩
  · simp only [hStable, decide_false, Bool.false_eq_true, if_false]
    exact ⟨h.consecutiveFailures, h.failingSince, h.inactiveReasons⟩

theorem SameAccounting.connect (h : SameAccounting c d) (hRunning : c.running = true) (attempt : Attempt) :
    SameAccounting (c.connect attempt) (attempt.outcomes.foldl ARIConnection.note d) := by
  cases attempt with
  | refused f => exact h.recordFailure f
  | dropped uptime f =>
    rw [Attempt.outcomes, List.foldl_append]
    exact (h.noteUptime uptime).recordFailure f
  | closed uptime recordedAt decidedAt written =>
    unfold ARIConnection.connect Attempt.outcomes ARIConnection.noteUptime
    by_cases hStable : stableConnectionSeconds ≤ uptime
    · simp only [hStable, decide_true, if_true, ARIConnection.noteStableConnection, Bool.not_true, Bool.and_false,
        Bool.false_eq_true, if_false]
      exact ⟨rfl, rfl, h.inactiveReasons⟩
    · simp only [hStable, decide_false, Bool.false_eq_true, if_false, hRunning, Bool.not_false, Bool.and_self, if_true]
      apply SameAccounting.recordFailure
      exact ⟨h.consecutiveFailures, h.failingSince, h.inactiveReasons⟩

def outcomesOf (attempts : List Attempt) : List ConnectionOutcome := (attempts.flatMap Attempt.outcomes).reverse

theorem after_eq_foldl (outcomes : List ConnectionOutcome) :
    after outcomes = outcomes.reverse.foldl ARIConnection.note .started := by
  induction outcomes with
  | nil => rfl
  | cons outcome earlier ih => rw [after, ih, List.reverse_cons, List.foldl_append]; rfl

theorem sameAccounting_connectionLoop {attempts : List Attempt} (h : SameAccounting c d)
    (hRunning : (ARIConnection.connectionLoop attempts c).running = true) :
    SameAccounting (ARIConnection.connectionLoop attempts c)
      ((attempts.flatMap Attempt.outcomes).foldl ARIConnection.note d) := by
  induction attempts generalizing c d with
  | nil => exact h
  | cons attempt attempts ih =>
    rw [ARIConnection.connectionLoop] at hRunning ⊢
    cases hFirst : c.running with
    | false =>
      rw [hFirst, if_neg Bool.false_ne_true, hFirst] at hRunning
      cases hRunning
    | true =>
      rw [hFirst, if_pos rfl] at hRunning
      rw [if_pos rfl, List.flatMap_cons, List.foldl_append]
      apply ih _ hRunning
      have hConnected := h.connect hFirst attempt
      unfold ARIConnection.backOff
      split
      · exact ⟨hConnected.consecutiveFailures, hConnected.failingSince, hConnected.inactiveReasons⟩
      · exact hConnected

/-- Whatever a running loop has been through, it parks the configuration at the next failure exactly as the outcomes of
its attempts call for. -/
theorem loop_parks_iff {attempts : List Attempt} (f : FailedConnection)
    (hRunning : (ARIConnection.connectionLoop attempts .started).running = true) :
    ((ARIConnection.connectionLoop attempts .started).recordFailure f).inactiveReasons ≠
      (ARIConnection.connectionLoop attempts .started).inactiveReasons ↔ Parks (outcomesOf attempts) f := by
  have hSame : SameAccounting (ARIConnection.connectionLoop attempts .started) (after (outcomesOf attempts)) := by
    rw [after_eq_foldl, outcomesOf, List.reverse_reverse]
    exact sameAccounting_connectionLoop ⟨rfl, rfl, rfl⟩ hRunning
  rw [Parks, (hSame.recordFailure f).inactiveReasons, hSame.inactiveReasons]

theorem loop_parks_iff_hour :
    Parks (outcomesOf [.dropped 40 ⟨closedImmediately, 50, 50, true⟩]) ⟨closedImmediately, 4000, 4000, true⟩ :=
  (loop_parks_iff ⟨closedImmediately, 4000, 4000, true⟩ (by decide +kernel)).mp (by decide +kernel)

end Loop

end FastVoice.Telephony.ParkingPolicy
