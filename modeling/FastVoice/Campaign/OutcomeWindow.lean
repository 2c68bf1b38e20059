import FastVoice.Campaign.CircuitBreaker

/-! # What the circuit breaker counts

Each report counts the different readings of the outcomes in the window. That is the number of the
outcomes as long as no two outcomes of one kind share a reading between two resets, and the first
outcome that breaks this is reported wrongly.
-/
namespace FastVoice.Campaign
open Async Redis

def readings (outcomes : List (ℚ × Bool)) (isFailure : Bool) : List ℚ :=
  (outcomes.filter fun outcome => outcome.2 = isFailure).map Prod.fst

def recorded (outcomes : List (ℚ × Bool)) (window now : ℚ) (isFailure : Bool) : Nat :=
  ((readings outcomes isFailure).filter fun r => now - window < r ∧ r ≤ now).length

structure OutcomeLog where
  keys : BreakerKeys
  outcomes : List (ℚ × Bool)

inductive BreakerCall where
  | record (isFailure : Bool)
  | check
  | reset
  deriving DecidableEq

section Calls

variable (campaignId : Nat) (config : Option CircuitBreakerConfig)

def recordAt (log : OutcomeLog) (now : UnixTime) (isFailure : Bool) :
    Except Error BreakerReport × OutcomeLog :=
  let after := (recordCallOutcome campaignId isFailure config).eval BreakerKeys.execute
    (log.keys.advance now)
  (after.1, ⟨after.2, (now.val, isFailure) :: log.outcomes⟩)

def checkAt (log : OutcomeLog) (now : UnixTime) : Except Error BreakerReport × OutcomeLog :=
  let after := (isCircuitOpen campaignId config).eval BreakerKeys.execute (log.keys.advance now)
  (after.1, ⟨after.2, log.outcomes⟩)

def resetAt (log : OutcomeLog) (now : UnixTime) : OutcomeLog :=
  ⟨((reset campaignId).eval BreakerKeys.execute (log.keys.advance now)).2, []⟩

def Exact (outcomes : List (ℚ × Bool)) (now : ℚ) (report : Except Error BreakerReport) : Prop :=
  let merged := mergedConfig config
  let failures := recorded outcomes merged.windowSeconds now true
  let successes := recorded outcomes merged.windowSeconds now false
  ∃ tripped stats, report = .ok (tripped, some stats) ∧ stats.failureCount = failures ∧
    stats.successCount = successes ∧ (tripped = true ↔
      merged.minCallsInWindow ≤ failures + successes ∧ failures + successes ≠ 0 ∧
        merged.failureThreshold ≤ (failures : ℚ) / ((failures + successes : Nat) : ℚ))

/-- Every report of the sequence is exact, and a check at the reading of an outcome just recorded
returns that outcome's report. -/
def Faithful : OutcomeLog → List (UnixTime × BreakerCall) → Prop
  | _, [] => True
  | log, (now, .record isFailure) :: calls =>
    let after := recordAt campaignId config log now isFailure
    Exact config after.2.outcomes now after.1 ∧ (checkAt campaignId config after.2 now).1 = after.1 ∧
      Faithful after.2 calls
  | log, (now, .check) :: calls =>
    let after := checkAt campaignId config log now
    Exact config after.2.outcomes now after.1 ∧ Faithful after.2 calls
  | log, (now, .reset) :: calls => Faithful (resetAt campaignId log now) calls

end Calls

/-- No outcome has the kind and the reading of another one since the last reset. -/
def NoCollision : List (ℚ × Bool) → List (UnixTime × BreakerCall) → Prop
  | _, [] => True
  | outcomes, (now, .record isFailure) :: calls =>
    (now.val, isFailure) ∉ outcomes ∧ NoCollision ((now.val, isFailure) :: outcomes) calls
  | outcomes, (_, .check) :: calls => NoCollision outcomes calls
  | _, (_, .reset) :: calls => NoCollision [] calls

theorem mem_readings {outcomes : List (ℚ × Bool)} {isFailure : Bool} {r : ℚ} :
    r ∈ readings outcomes isFailure ↔ (r, isFailure) ∈ outcomes := by
  simp only [readings, List.mem_map, List.mem_filter, decide_eq_true_eq]
  constructor
  · rintro ⟨outcome, ⟨h, rfl⟩, rfl⟩
    exact h
  · intro h
    exact ⟨(r, isFailure), ⟨h, rfl⟩, rfl⟩

theorem readings_cons_self (outcomes : List (ℚ × Bool)) (now : ℚ) (isFailure : Bool) :
    readings ((now, isFailure) :: outcomes) isFailure = now :: readings outcomes isFailure := by
  simp [readings]

theorem readings_cons_of_ne (outcomes : List (ℚ × Bool)) (now : ℚ) {isFailure kind : Bool}
    (h : kind ≠ isFailure) : readings ((now, isFailure) :: outcomes) kind = readings outcomes kind := by
  simp [readings, h.symm]

theorem nodup_readings {outcomes : List (ℚ × Bool)} (h : outcomes.Nodup) (isFailure : Bool) :
    (readings outcomes isFailure).Nodup := by
  refine (h.filter _).map_on fun a ha b hb hab => ?_
  have hKinds := (of_decide_eq_true (List.mem_filter.mp ha).2).trans
    (of_decide_eq_true (List.mem_filter.mp hb).2).symm
  exact Prod.ext hab hKinds

theorem zcard_eq_recorded_iff {z : SortedSet ℚ ℚ} {outcomes : List (ℚ × Bool)} {window now : ℚ}
    {isFailure : Bool} (h : Tracks z (readings outcomes isFailure) (now - window))
    (hInside : ∀ e ∈ z.entries, now - window < e.2) (hNow : ∀ outcome ∈ outcomes, outcome.1 ≤ now) :
    z.zcard = recorded outcomes window now isFailure ↔
      ((readings outcomes isFailure).filter (now - window < ·)).Nodup := by
  have hRecorded : recorded outcomes window now isFailure =
      ((readings outcomes isFailure).filter (now - window < ·)).length := by
    refine congrArg List.length (List.filter_congr fun r hr => ?_)
    simp [hNow _ (mem_readings.mp hr)]
  rw [h.zcard hInside, hRecorded]
  exact Multiset.toFinset_card_eq_card_iff_nodup
    (m := .ofList ((readings outcomes isFailure).filter (now - window < ·)))

theorem exact_iff {config : Option CircuitBreakerConfig} {outcomes : List (ℚ × Bool)} {now : ℚ}
    {sets : Bool → Outcomes} {result : Evaluation}
    (hResult : result = evaluateSets (mergedConfig config).failureThreshold
      (mergedConfig config).minCallsInWindow sets) : Exact config outcomes now
        (.ok (result.tripped, some (breakerStats (mergedConfig config) result))) ↔
      ∀ kind, (sets kind).value.zcard = recorded outcomes (mergedConfig config).windowSeconds now kind := by
  subst hResult
  constructor
  · rintro ⟨tripped, stats, hReport, hFailures, hSuccesses, -⟩
    cases hReport
    rintro (_ | _)
    · exact hSuccesses
    · exact hFailures
  · intro h
    refine ⟨_, _, rfl, h true, h false, ?_⟩
    rw [← h true, ← h false]
    exact decide_eq_true_iff

section Scripts

variable {campaignId : Nat} {config : Option CircuitBreakerConfig}

def OutcomeLog.found (log : OutcomeLog) (campaignId : Nat) (now : UnixTime) : Bool → Outcomes :=
  (log.keys.advance now).outcomes campaignId

theorem recordAt_eq (hEnabled : (mergedConfig config).enabled = true) (log : OutcomeLog)
    (now : UnixTime) (isFailure : Bool) :
    let merged := mergedConfig config
    let script := recordScript now (now - merged.windowSeconds) isFailure merged.failureThreshold
      merged.minCallsInWindow (merged.windowSeconds + 60) (log.found campaignId now)
    let after := recordAt campaignId config log now isFailure
    after.1 = .ok (script.1.tripped, some (breakerStats merged script.1)) ∧
      after.2.keys.outcomes campaignId = script.2 := by
  intro merged script after
  have hMethod : recordCallOutcome campaignId isFailure config = orElse (do
      let result ← Program.call (BreakerCommand.record campaignId isFailure merged.windowSeconds
        merged.failureThreshold merged.minCallsInWindow)
      return (result.tripped, some (breakerStats merged result))) (false, none) := if_pos hEnabled
  simp only [after, recordAt, hMethod, orElse, Program.call_bind, Program.tryCatch_await,
    Program.proceed_ok, Program.pure_eq, Program.tryCatch_ret, Program.eval]
  exact ⟨rfl, Function.update_self ..⟩

theorem checkAt_eq (hEnabled : (mergedConfig config).enabled = true) (log : OutcomeLog) (now : UnixTime) :
    let merged := mergedConfig config
    let script := checkScript (now - merged.windowSeconds) merged.failureThreshold
      merged.minCallsInWindow (log.found campaignId now)
    let after := checkAt campaignId config log now
    after.1 = .ok (script.1.tripped, some (breakerStats merged script.1)) ∧
      after.2.keys.outcomes campaignId = script.2 := by
  intro merged script after
  have hMethod : isCircuitOpen campaignId config = orElse (do
      let result ← Program.call (BreakerCommand.check campaignId merged.windowSeconds
        merged.failureThreshold merged.minCallsInWindow)
      return (result.tripped, some (breakerStats merged result))) (false, none) := if_pos hEnabled
  simp only [after, checkAt, hMethod, orElse, Program.call_bind, Program.tryCatch_await,
    Program.proceed_ok, Program.pure_eq, Program.tryCatch_ret, Program.eval]
  exact ⟨rfl, Function.update_self ..⟩

theorem resetAt_outcomes (log : OutcomeLog) (now : UnixTime) :
    (resetAt campaignId log now).keys.outcomes campaignId = fun _ => default :=
  Function.update_self ..

end Scripts

structure Tracked (campaignId : Nat) (window : ℚ) (log : OutcomeLog) (latest : ℚ) : Prop where
  tracks : ∀ kind, TracksFor (window + 60) (log.keys.outcomes campaignId kind)
    (readings log.outcomes kind) (latest - window)
  clock : ∀ outcome ∈ log.outcomes, 0 < outcome.1 ∧ outcome.1 ≤ latest

namespace Tracked

variable {campaignId : Nat} {window latest : ℚ} {log : OutcomeLog} {now : UnixTime}

theorem trimmed (h : Tracked campaignId window log latest) (hNow : latest ≤ now.val) (kind : Bool) :
    TracksFor (window + 60) (trimOutcomes (now - window) (log.found campaignId now) kind)
      (readings log.outcomes kind) (now - window) ∧
    ∀ e ∈ (trimOutcomes (now - window) (log.found campaignId now) kind).value.entries,
      now - window < e.2 := by
  have hPurged := (h.tracks kind).purge
    (sub_le_sub_right hNow window)
    (sub_le_sub_left (le_add_of_nonneg_right (by decide +kernel)) now.val)
  refine ⟨hPurged.trim le_rfl, ?_⟩
  rw [trimOutcomes, Volatile.value_put]
  exact hPurged.toTracks.inside_trim fun r hr => (h.clock _ (mem_readings.mp hr)).1.le

theorem added (hWindow : 0 < window) (h : Tracked campaignId window log latest)
    (hNow : latest ≤ now.val) (isFailure : Bool) (kind : Bool) :
    let sets := addOutcome now isFailure (trimOutcomes (now - window) (log.found campaignId now))
    Tracks (sets kind).value (readings ((now.val, isFailure) :: log.outcomes) kind) (now - window) ∧
    ∀ e ∈ (sets kind).value.entries, now - window < e.2 := by
  intro sets
  obtain ⟨hTracks, hInside⟩ := h.trimmed hNow kind
  by_cases hKind : kind = isFailure
  · subst hKind
    simp only [sets, addOutcome, Function.update_self, Volatile.value_put, readings_cons_self]
    refine ⟨hTracks.toTracks.add now.val, fun e he => ?_⟩
    obtain rfl | ⟨he, -⟩ := SortedSet.mem_zadd.mp he
    · exact sub_lt_self _ hWindow
    · exact hInside e he
  · simp only [sets, addOutcome, Function.update_of_ne hKind, readings_cons_of_ne _ _ hKind]
    exact ⟨hTracks.toTracks, hInside⟩

theorem clock_cons (h : Tracked campaignId window log latest) (hNow : latest ≤ now.val) (isFailure : Bool) :
    ∀ outcome ∈ (now.val, isFailure) :: log.outcomes, 0 < outcome.1 ∧ outcome.1 ≤ now.val := by
  intro outcome hOutcome
  rcases List.mem_cons.mp hOutcome with rfl | hOutcome
  · exact ⟨now.property, le_rfl⟩
  · exact ⟨(h.clock outcome hOutcome).1, (h.clock outcome hOutcome).2.trans hNow⟩

variable {config : Option CircuitBreakerConfig}

theorem record (h : Tracked campaignId (mergedConfig config).windowSeconds log latest)
    (hEnabled : (mergedConfig config).enabled = true) (hNow : latest ≤ now.val) (isFailure : Bool) :
    Tracked campaignId (mergedConfig config).windowSeconds
      (recordAt campaignId config log now isFailure).2 now.val where
  tracks kind := by
    have hAdded := h.added (mergedConfig config).window_pos hNow isFailure kind
    rw [(recordAt_eq hEnabled log now isFailure).2]
    exact TracksFor.refresh hAdded.1 fun r hr =>
      (h.clock_cons hNow isFailure _ (mem_readings.mp hr)).2
  clock := h.clock_cons hNow isFailure

theorem check (h : Tracked campaignId (mergedConfig config).windowSeconds log latest)
    (hEnabled : (mergedConfig config).enabled = true) (hNow : latest ≤ now.val) :
    Tracked campaignId (mergedConfig config).windowSeconds (checkAt campaignId config log now).2 now.val where
  tracks kind := by
    rw [(checkAt_eq hEnabled log now).2]
    exact (h.trimmed hNow kind).1
  clock outcome hOutcome := ⟨(h.clock outcome hOutcome).1, (h.clock outcome hOutcome).2.trans hNow⟩

theorem of_absent (hAbsent : log.keys.outcomes campaignId = fun _ => default)
    (hOutcomes : log.outcomes = []) : Tracked campaignId window log latest where
  tracks kind := by
    rw [hAbsent, hOutcomes]
    exact TracksFor.empty _ _
  clock outcome hOutcome := by
    rw [hOutcomes] at hOutcome
    cases hOutcome

theorem exact_record_iff (h : Tracked campaignId (mergedConfig config).windowSeconds log latest)
    (hEnabled : (mergedConfig config).enabled = true) (hNow : latest ≤ now.val)
    (hNodup : log.outcomes.Nodup) (isFailure : Bool) : Exact config ((now.val, isFailure) :: log.outcomes) now
        (recordAt campaignId config log now isFailure).1 ↔ (now.val, isFailure) ∉ log.outcomes := by
  have hWindow := (mergedConfig config).window_pos
  have hAdded := h.added hWindow hNow isFailure
  have hLatest : ∀ outcome ∈ (now.val, isFailure) :: log.outcomes, outcome.1 ≤ now.val :=
    fun outcome hOutcome => (h.clock_cons hNow isFailure outcome hOutcome).2
  rw [(recordAt_eq hEnabled log now isFailure).1]
  refine (exact_iff rfl).trans ?_
  simp only [Volatile.value_expire]
  constructor
  · intro hCounts hOld
    have hDistinct := (zcard_eq_recorded_iff (hAdded isFailure).1 (hAdded isFailure).2 hLatest).mp
      (hCounts isFailure)
    rw [readings_cons_self, List.filter_cons_of_pos (by simpa using hWindow)] at hDistinct
    exact (List.nodup_cons.mp hDistinct).1
      (List.mem_filter.mpr ⟨mem_readings.mpr hOld, by simpa using hWindow⟩)
  · intro hNew kind
    refine (zcard_eq_recorded_iff (hAdded kind).1 (hAdded kind).2 hLatest).mpr ?_
    exact (nodup_readings (List.nodup_cons.mpr ⟨hNew, hNodup⟩) kind).filter _

theorem exact_check (h : Tracked campaignId (mergedConfig config).windowSeconds log latest)
    (hEnabled : (mergedConfig config).enabled = true) (hNow : latest ≤ now.val)
    (hNodup : log.outcomes.Nodup) : Exact config log.outcomes now (checkAt campaignId config log now).1 := by
  rw [(checkAt_eq hEnabled log now).1]
  refine (exact_iff rfl).mpr fun kind => ?_
  obtain ⟨hTracks, hInside⟩ := h.trimmed hNow kind
  refine (zcard_eq_recorded_iff hTracks.toTracks hInside fun outcome hOutcome =>
    (h.clock outcome hOutcome).2.trans hNow).mpr ?_
  exact (nodup_readings hNodup kind).filter _

theorem check_after_record (h : Tracked campaignId (mergedConfig config).windowSeconds log latest)
    (hEnabled : (mergedConfig config).enabled = true) (hNow : latest ≤ now.val) (isFailure : Bool) :
    (checkAt campaignId config (recordAt campaignId config log now isFailure).2 now).1 =
      (recordAt campaignId config log now isFailure).1 := by
  have hAdded := h.added (mergedConfig config).window_pos hNow isFailure
  have hTrimmed := (h.record hEnabled hNow isFailure).trimmed le_rfl
  have hCounts : ∀ kind, (trimOutcomes (now - (mergedConfig config).windowSeconds)
      ((recordAt campaignId config log now isFailure).2.found campaignId now) kind).value.zcard =
      (addOutcome now isFailure (trimOutcomes (now - (mergedConfig config).windowSeconds)
        (log.found campaignId now)) kind).value.zcard := by
    intro kind
    rw [(hTrimmed kind).1.zcard (hTrimmed kind).2, (hAdded kind).1.zcard (hAdded kind).2]
    rfl
  rw [(checkAt_eq hEnabled _ now).1, (recordAt_eq hEnabled log now isFailure).1]
  simp only [checkScript, recordScript, evaluateSets, Volatile.value_expire, hCounts]

end Tracked

/-- The reports along a run are exact if and only if no outcome collides with an earlier one. -/
theorem faithful_iff {campaignId : Nat} {config : Option CircuitBreakerConfig} {log : OutcomeLog}
    {latest : ℚ} {calls : List (UnixTime × BreakerCall)} (hEnabled : (mergedConfig config).enabled = true)
    (h : Tracked campaignId (mergedConfig config).windowSeconds log latest)
    (hNodup : log.outcomes.Nodup) (hLater : ∀ call ∈ calls, latest ≤ call.1.val)
    (hClock : calls.Pairwise fun a b => a.1 ≤ b.1) :
    Faithful campaignId config log calls ↔ NoCollision log.outcomes calls := by
  induction calls generalizing log latest with
  | nil => exact Iff.rfl
  | cons call calls ih =>
    obtain ⟨now, call⟩ := call
    obtain ⟨hNext, hTail⟩ := List.pairwise_cons.mp hClock
    have hNow : latest ≤ now.val := hLater _ List.mem_cons_self
    cases call with
    | record isFailure =>
      have hExact := h.exact_record_iff hEnabled hNow hNodup isFailure
      have hAgree := h.check_after_record hEnabled hNow isFailure
      have hTracked := h.record hEnabled hNow isFailure
      constructor
      · rintro ⟨hReport, -, hRest⟩
        have hNew := hExact.mp hReport
        exact ⟨hNew, (ih hTracked (List.nodup_cons.mpr ⟨hNew, hNodup⟩) hNext hTail).mp hRest⟩
      · rintro ⟨hNew, hRest⟩
        exact ⟨hExact.mpr hNew, hAgree,
          (ih hTracked (List.nodup_cons.mpr ⟨hNew, hNodup⟩) hNext hTail).mpr hRest⟩
    | check =>
      have hRest := ih (h.check hEnabled hNow) hNodup hNext hTail
      exact ⟨fun hFaithful => hRest.mp hFaithful.2,
        fun hDistinct => ⟨h.exact_check hEnabled hNow hNodup, hRest.mpr hDistinct⟩⟩
    | reset =>
      have hTracked : Tracked campaignId (mergedConfig config).windowSeconds
          (resetAt campaignId log now) now.val := .of_absent (resetAt_outcomes log now) rfl
      exact ih hTracked List.nodup_nil hNext hTail

end FastVoice.Campaign
