import Mathlib.Tactic.Linarith
import FastVoice.TextChat.Inactivity

/-! # No abandoned chat is forgotten

While a sweep runs, its candidates only become fewer. So a session that was within reach as the sweep started
stays ahead of the cursor until it is enqueued.
-/
namespace FastVoice.TextChat.Inactivity
open Python

/-! ## Sessions -/

section Sessions

variable {session : TextSession} {completedAt now : ℚ}

theorem within_iff {activeSince inactiveBefore : ℚ} {time : Option ℚ} :
    TextSession.within activeSince inactiveBefore time = true ↔
      ∃ t ∈ time, activeSince ≤ t ∧ t ≤ inactiveBefore := by
  cases time <;> simp [TextSession.within]

theorem isCandidate_iff : session.isCandidate completedAt = true ↔
    session.mode = "textchat" ∧ session.isCompleted = false ∧ ∃ lastActivityAt ∈ session.lastActivityAt,
      completedAt - sweepLookbackSeconds ≤ lastActivityAt ∧ lastActivityAt ≤ completedAt - minTimeoutSeconds := by
  simp only [TextSession.isCandidate, TextSession.isInactive, Bool.and_eq_true, Bool.or_eq_true, within_iff,
    decide_eq_true_eq, Bool.not_eq_true', and_assoc, TextSession.lastActivityAt]
  cases session.updatedAt <;> cases session.createdAt <;> simp

theorem inactivityDeadline_eq {lastActivityAt : ℚ} (h : lastActivityAt ∈ session.lastActivityAt) (now : ℚ) :
    session.inactivityDeadline now = lastActivityAt + session.inactivityTimeoutSeconds := by
  have hSome : session.lastActivityAt = some lastActivityAt := h
  rw [TextSession.inactivityDeadline, hSome]

theorem deadline_of_candidate (h : session.isCandidate completedAt = true) (now now' : ℚ) :
    session.inactivityDeadline now = session.inactivityDeadline now' := by
  obtain ⟨-, -, lastActivityAt, hLast, -, -⟩ := isCandidate_iff.mp h
  rw [inactivityDeadline_eq hLast, inactivityDeadline_eq hLast]

theorem isDue_of_candidate (h : session.isCandidate completedAt = true) (now now' : ℚ) :
    session.isDue completedAt now = session.isDue completedAt now' := by
  rw [TextSession.isDue, TextSession.isDue, deadline_of_candidate h now now']

theorem timeout_le : session.inactivityTimeoutSeconds ≤ maxTimeoutSeconds := min_le_left _ _

theorem candidate_past (h : session.isCandidate completedAt = true) :
    ∃ lastActivityAt ∈ session.lastActivityAt, lastActivityAt < completedAt := by
  obtain ⟨-, -, lastActivityAt, hLast, -, hBefore⟩ := isCandidate_iff.mp h
  refine ⟨lastActivityAt, hLast, ?_⟩
  simp only [minTimeoutSeconds] at hBefore
  push_cast at hBefore
  linarith

theorem lookback_eq : (sweepLookbackSeconds : ℚ) = maxTimeoutSeconds + sweepIntervalMinutes * 60 := by
  rw [maxTimeoutSeconds]
  push_cast
  exact (sub_add_cancel _ _).symm

theorem OlderThan.isDue (h : Service.OlderThan session maxTimeoutSeconds completedAt) (now : ℚ) :
    session.isDue completedAt now = true := by
  obtain ⟨-, -, lastActivityAt, hLast, hOld⟩ := h
  rw [TextSession.isDue, inactivityDeadline_eq hLast, decide_eq_true_iff]
  have hTimeout : (session.inactivityTimeoutSeconds : ℚ) ≤ maxTimeoutSeconds := Int.cast_le.mpr timeout_le
  linarith

theorem OlderThan.candidate_or_older (h : Service.OlderThan session maxTimeoutSeconds completedAt) :
    session.isCandidate completedAt = true ∨ Service.OlderThan session sweepLookbackSeconds completedAt := by
  obtain ⟨hMode, hOpen, lastActivityAt, hLast, hOld⟩ := h
  obtain hSeen | hGone := le_or_gt completedAt (lastActivityAt + sweepLookbackSeconds)
  · left
    refine isCandidate_iff.mpr ⟨hMode, hOpen, lastActivityAt, hLast, by linarith, ?_⟩
    simp only [maxTimeoutSeconds, sweepLookbackSeconds, sweepIntervalMinutes, minTimeoutSeconds] at hOld ⊢
    push_cast at hOld ⊢
    linarith
  · exact .inr ⟨hMode, hOpen, lastActivityAt, hLast, hGone⟩

theorem OlderThan.past {seconds : Int} (h : Service.OlderThan session seconds completedAt) (hSeconds : 0 ≤ seconds) :
    ∃ lastActivityAt ∈ session.lastActivityAt, lastActivityAt < completedAt := by
  obtain ⟨-, -, lastActivityAt, hLast, hOld⟩ := h
  refine ⟨lastActivityAt, hLast, ?_⟩
  have hCast : (0 : ℚ) ≤ seconds := by exact_mod_cast hSeconds
  linarith

theorem OlderThan.earlier {lastSweep : ℚ} (h : Service.OlderThan session sweepLookbackSeconds now)
    (hTime : now ≤ lastSweep + sweepIntervalMinutes * 60) : Service.OlderThan session maxTimeoutSeconds lastSweep := by
  obtain ⟨hMode, hOpen, lastActivityAt, hLast, hOld⟩ := h
  refine ⟨hMode, hOpen, lastActivityAt, hLast, ?_⟩
  have hLookback := lookback_eq
  linarith

end Sessions

/-! ## A sweep in progress -/

def candidates (r : SweepRecord) : List Nat :=
  (r.started.filter fun session => session.isCandidate r.lastSweep).map TextSession.workflowRunId

def dueCandidates (r : SweepRecord) : List Nat :=
  (r.started.filter fun session => session.isCandidate r.lastSweep && session.isDue r.lastSweep r.lastSweep).map
    TextSession.workflowRunId

structure PageSound (r : SweepRecord) (rows : List TextSession) (lastRunId : Nat) (isFull : Bool) (pages : Nat) :
    Prop where
  found : ∀ row ∈ rows, row ∈ r.started ∧ row.isCandidate r.lastSweep = true
  sorted : rows.Pairwise (TextSession.workflowRunId · < TextSession.workflowRunId ·)
  le_last : ∀ row ∈ rows, row.workflowRunId ≤ lastRunId
  shown : ∀ row ∈ rows, ∃ time, r.lastSweep ≤ time ∧ (row, time) ∈ r.observed
  scanned : isFull = true →
    sweepPageSize * sweepMaxPages ≤ (candidates r).countP (· ≤ lastRunId) + sweepPageSize * pages

theorem PageSound.tail {r : SweepRecord} {row : TextSession} {rows : List TextSession} {lastRunId pages : Nat}
    {isFull : Bool} (h : PageSound r (row :: rows) lastRunId isFull pages) :
    PageSound r rows lastRunId isFull pages where
  found other hOther := h.found other (List.mem_cons_of_mem _ hOther)
  sorted := h.sorted.of_cons
  le_last other hOther := h.le_last other (List.mem_cons_of_mem _ hOther)
  shown other hOther := h.shown other (List.mem_cons_of_mem _ hOther)
  scanned := h.scanned

def StageSound (r : SweepRecord) : Stage → Prop
  | .idle => True
  | .reading afterRunId enqueuedCount pages =>
    enqueuedCount ≤ (dueCandidates r).countP (· ≤ afterRunId) ∧
      sweepPageSize * sweepMaxPages ≤ (candidates r).countP (· ≤ afterRunId) + sweepPageSize * (pages + 1)
  | .enqueueing session deadline rest lastRunId isFull enqueuedCount pages =>
    PageSound r (session :: rest) lastRunId isFull pages ∧ session.isDue r.lastSweep r.lastSweep = true ∧
      deadline = session.inactivityDeadline r.lastSweep ∧
      enqueuedCount ≤ (dueCandidates r).countP (· < session.workflowRunId)

def Ahead (session : TextSession) : Stage → Prop
  | .idle => False
  | .reading afterRunId _ _ => afterRunId < session.workflowRunId
  | .enqueueing row _ rest lastRunId isFull _ _ =>
    session ∈ row :: rest ∨ lastRunId < session.workflowRunId ∧ isFull = true

structure InReach (r : SweepRecord) (session : TextSession) : Prop where
  candidates : (candidates r).countP (· < session.workflowRunId) < sweepPageSize * sweepMaxPages
  due : (dueCandidates r).countP (· < session.workflowRunId) < sweepEnqueueLimit

theorem countP_le_of_lt (keys : List Nat) {a b : Nat} (h : a < b) :
    keys.countP (· ≤ a) ≤ keys.countP (· < b) := by
  apply List.countP_mono_left
  intro key _ hKey
  rw [decide_eq_true_eq] at hKey ⊢
  omega

section Page

variable {r : SweepRecord} {session : TextSession} {rows : List TextSession} {lastRunId enqueuedCount pages : Nat}
  {isFull : Bool} {now : ℚ}

structure PageCounted (r : SweepRecord) (rows : List TextSession) (lastRunId enqueuedCount : Nat) : Prop where
  rows : ∀ row ∈ rows, enqueuedCount ≤ (dueCandidates r).countP (· < row.workflowRunId)
  last : enqueuedCount ≤ (dueCandidates r).countP (· ≤ lastRunId)

theorem stageSound_nextSession (h : PageSound r rows lastRunId isFull pages)
    (hCounted : PageCounted r rows lastRunId enqueuedCount) :
    StageSound r (nextSession r.lastSweep now rows lastRunId isFull enqueuedCount pages) := by
  unfold nextSession
  induction rows with
  | nil =>
    cases pages with
    | zero => trivial
    | succ pages =>
      simp only [List.dropWhile_nil, afterPage]
      split
      · trivial
      · split
        · rename_i hFull
          exact ⟨hCounted.last, h.scanned hFull⟩
        · trivial
  | cons row rows ih =>
    have hCandidate := (h.found row List.mem_cons_self).2
    cases hDue : row.isDue r.lastSweep now with
    | true =>
      simp only [List.dropWhile_cons, hDue, Bool.not_true, Bool.false_eq_true, if_false]
      refine ⟨h, ?_, deadline_of_candidate hCandidate _ _, hCounted.rows row List.mem_cons_self⟩
      rw [isDue_of_candidate hCandidate r.lastSweep now]
      exact hDue
    | false =>
      simp only [List.dropWhile_cons, hDue, Bool.not_false, if_true]
      apply ih h.tail
      exact ⟨fun other hOther => hCounted.rows other (List.mem_cons_of_mem _ hOther), hCounted.last⟩

theorem ahead_nextSession (hReach : InReach r session) (hDue : ∀ now, session.isDue r.lastSweep now = true)
    (h : PageSound r rows lastRunId isFull pages) (hCounted : PageCounted r rows lastRunId enqueuedCount)
    (hAhead : session ∈ rows ∨ lastRunId < session.workflowRunId ∧ isFull = true) :
    Ahead session (nextSession r.lastSweep now rows lastRunId isFull enqueuedCount pages) := by
  unfold nextSession
  induction rows with
  | nil =>
    obtain hMem | ⟨hLast, hFull⟩ := hAhead
    · cases hMem
    have hScanned := h.scanned hFull
    have hPassed := countP_le_of_lt (candidates r) hLast
    have hEnqueued := countP_le_of_lt (dueCandidates r) hLast
    have hCandidates := hReach.candidates
    have hDueCount := hReach.due
    have hCount := hCounted.last
    cases pages with
    | zero => omega
    | succ pages =>
      simp only [List.dropWhile_nil, afterPage]
      rw [if_neg (by omega), if_pos hFull]
      exact hLast
  | cons row rows ih =>
    cases hRow : row.isDue r.lastSweep now with
    | true =>
      simp only [List.dropWhile_cons, hRow, Bool.not_true, Bool.false_eq_true, if_false]
      exact hAhead
    | false =>
      simp only [List.dropWhile_cons, hRow, Bool.not_false, if_true]
      apply ih h.tail
      · exact ⟨fun other hOther => hCounted.rows other (List.mem_cons_of_mem _ hOther), hCounted.last⟩
      · refine hAhead.imp_left fun hMem => ?_
        obtain rfl | hRest := List.mem_cons.mp hMem
        · rw [hDue now] at hRow
          cases hRow
        · exact hRest

end Page

/-! ## Steps -/

structure Sound (s : Service) : Prop where
  distinct : (s.sessions.map TextSession.workflowRunId).Nodup
  positive : ∀ session ∈ s.sessions, 0 < session.workflowRunId
  past : ∀ session ∈ s.sessions, ∀ lastActivityAt ∈ session.lastActivityAt, lastActivityAt ≤ s.now
  lastSweep : s.lastSweep ≤ s.now
  startedDistinct : s.stage ≠ .idle → (s.started.map TextSession.workflowRunId).Nodup
  /-- While the sweep runs no session becomes a candidate. -/
  unchanged : s.stage ≠ .idle → ∀ session ∈ s.sessions, session.isCandidate s.lastSweep = true → session ∈ s.started
  stage : StageSound s.toSweepRecord s.stage
  pending : ∀ session ∈ s.sessions, Service.OlderThan session maxTimeoutSeconds s.lastSweep →
    s.HasJob session ∨ Ahead session s.stage ∧ InReach s.toSweepRecord session
  nothingForgotten : s.NothingForgotten

section Steps

variable {s : Service} {session : TextSession}

theorem HasJob.cons {job : Job} {jobs : List Job} {stage : Stage} (h : s.HasJob session) (hJobs : s.jobs = jobs) :
    ({ s with jobs := job :: jobs, stage := stage } : Service).HasJob session := by
  obtain ⟨job, hMem, hJob⟩ := h
  exact ⟨job, List.mem_cons_of_mem _ (hJobs ▸ hMem), hJob⟩

theorem Sound.sessions {sessions : List TextSession} (h : Sound s)
    (hDistinct : (sessions.map TextSession.workflowRunId).Nodup)
    (hPositive : ∀ session ∈ sessions, 0 < session.workflowRunId)
    (hSessions : ∀ session ∈ sessions, session ∈ s.sessions ∨ session.isCompleted = true ∧
      (∀ lastActivityAt ∈ session.lastActivityAt, lastActivityAt ≤ s.now) ∨ session.lastActivityAt = some s.now) :
    Sound { s with sessions := sessions } := by
  have hNotNow : ∀ session : TextSession, session.lastActivityAt = some s.now →
      ¬∃ lastActivityAt ∈ session.lastActivityAt, lastActivityAt < s.lastSweep := by
    rintro session hNow ⟨lastActivityAt, hLast, hOld⟩
    obtain rfl := Option.some.inj (hNow.symm.trans hLast)
    exact absurd h.lastSweep (not_le_of_gt hOld)
  have hOld : ∀ session ∈ sessions, session.isCompleted = false →
      (∃ lastActivityAt ∈ session.lastActivityAt, lastActivityAt < s.lastSweep) → session ∈ s.sessions := by
    intro session hSession hOpen hPast
    obtain hSame | ⟨hCompleted, -⟩ | hNow := hSessions session hSession
    · exact hSame
    · rw [hOpen] at hCompleted
      cases hCompleted
    · exact absurd hPast (hNotNow session hNow)
  constructor
  · exact hDistinct
  · exact hPositive
  · intro session hSession lastActivityAt hLast
    obtain hSame | ⟨-, hPast⟩ | hNow := hSessions session hSession
    · exact h.past session hSame lastActivityAt hLast
    · exact hPast lastActivityAt hLast
    · obtain rfl := Option.some.inj (hNow.symm.trans hLast)
      exact le_rfl
  · exact h.lastSweep
  · exact h.startedDistinct
  · intro hStage session hSession hCandidate
    obtain ⟨-, hOpen, -⟩ := isCandidate_iff.mp hCandidate
    exact h.unchanged hStage session (hOld session hSession hOpen (candidate_past hCandidate)) hCandidate
  · exact h.stage
  · intro session hSession hOlder
    exact h.pending session (hOld session hSession hOlder.2.1 (OlderThan.past hOlder (by decide))) hOlder
  · constructor
    · intro session hSession hOlder
      exact h.nothingForgotten.kept session
        (hOld session hSession hOlder.2.1 (OlderThan.past hOlder (by decide))) hOlder
    · exact h.nothingForgotten.inactive

theorem Sound.modify {runId : Nat} {f : TextSession → TextSession} (h : Sound s)
    (hId : ∀ session, (f session).workflowRunId = session.workflowRunId)
    (hSessions : ∀ session ∈ s.sessions, (f session).isCompleted = true ∧
      (∀ lastActivityAt ∈ (f session).lastActivityAt, lastActivityAt ≤ s.now) ∨
        (f session).lastActivityAt = some s.now) : Sound (s.modify runId f) := by
  have hIds : (s.sessions.map fun session => if session.workflowRunId = runId then f session else session).map
      TextSession.workflowRunId = s.sessions.map TextSession.workflowRunId := by
    rw [List.map_map]
    apply List.map_congr_left
    intro session _
    dsimp only [Function.comp_apply]
    split
    · exact hId session
    · rfl
  apply h.sessions
  · rw [hIds]
    exact h.distinct
  · intro session hSession
    obtain ⟨old, hOld, rfl⟩ := List.mem_map.mp hSession
    split
    · rw [hId]
      exact h.positive old hOld
    · exact h.positive old hOld
  · intro session hSession
    obtain ⟨old, hOld, rfl⟩ := List.mem_map.mp hSession
    split
    · exact .inr (hSessions old hOld)
    · exact .inl hOld

theorem Sound.elapse {seconds : ℚ} (h : Sound s) (hSeconds : 0 ≤ seconds) :
    Sound { s with now := s.now + seconds } where
  distinct := h.distinct
  positive := h.positive
  past session hSession lastActivityAt hLast :=
    (h.past session hSession lastActivityAt hLast).trans (le_add_of_nonneg_right hSeconds)
  lastSweep := h.lastSweep.trans (le_add_of_nonneg_right hSeconds)
  startedDistinct := h.startedDistinct
  unchanged := h.unchanged
  stage := h.stage
  pending := h.pending
  nothingForgotten := ⟨h.nothingForgotten.kept, h.nothingForgotten.inactive⟩

theorem Sound.sweep (h : Sound s) (hIdle : s.stage = .idle)
    (hTime : s.now ≤ s.lastSweep + sweepIntervalMinutes * 60) (hReach : s.WithinReach) :
    Sound { s with lastSweep := s.now, started := s.sessions, stage := .reading 0 0 (sweepMaxPages - 1) } := by
  have hKept : ∀ session ∈ s.sessions, Service.OlderThan session sweepLookbackSeconds s.now → s.HasJob session := by
    intro session hSession hOlder
    obtain hJob | ⟨hAhead, -⟩ := h.pending session hSession (OlderThan.earlier hOlder hTime)
    · exact hJob
    · rw [hIdle] at hAhead
      exact hAhead.elim
  constructor
  · exact h.distinct
  · exact h.positive
  · exact h.past
  · exact le_rfl
  · exact fun _ => h.distinct
  · exact fun _ session hSession _ => hSession
  · exact ⟨Nat.zero_le _, Nat.le_add_left _ _⟩
  · intro session hSession hOlder
    obtain hCandidate | hGone := OlderThan.candidate_or_older hOlder
    · obtain hJob | ⟨hCandidates, hDue⟩ := hReach session hSession hOlder hCandidate
      · exact .inl hJob
      · exact .inr ⟨h.positive session hSession, hCandidates, hDue⟩
    · exact .inl (hKept session hSession hGone)
  · exact ⟨hKept, h.nothingForgotten.inactive⟩

/-! ### Reading a page -/

section ReadPage

variable {afterRunId enqueuedCount pages : Nat} {rows : List TextSession} {last : TextSession}

theorem candidates_distinct (h : Sound s) : ((s.sessions.filter fun session => session.isCandidate s.lastSweep).map
    TextSession.workflowRunId).Nodup :=
  h.distinct.sublist (List.filter_sublist.map _)

theorem mem_rows (hRows : rows = getInactive s.sessions s.lastSweep sweepPageSize afterRunId) {row : TextSession}
    (hRow : row ∈ rows) :
    row ∈ s.sessions ∧ row.isCandidate s.lastSweep = true ∧ afterRunId < row.workflowRunId := by
  subst hRows
  obtain ⟨hMem, hAfter⟩ := Sql.mem_of_mem_page hRow
  obtain ⟨hSession, hCandidate⟩ := List.mem_filter.mp hMem
  exact ⟨hSession, hCandidate, hAfter⟩

theorem mem_candidates {r : SweepRecord} {row : TextSession} (hRow : row ∈ r.started)
    (hCandidate : row.isCandidate r.lastSweep = true) : row.workflowRunId ∈ candidates r :=
  List.mem_map_of_mem (List.mem_filter.mpr ⟨hRow, hCandidate⟩)

theorem counted_rows (h : Sound s) (hBusy : s.stage ≠ .idle)
    (hRows : rows = getInactive s.sessions s.lastSweep sweepPageSize afterRunId) (hLast : rows.getLast? = some last) :
    (candidates s.toSweepRecord).countP (· ≤ afterRunId) + rows.length ≤
      (candidates s.toSweepRecord).countP (· ≤ last.workflowRunId) := by
  have hIds : (rows.map TextSession.workflowRunId).Nodup := by
    have hSorted := Sql.page_sorted (candidates_distinct h) (max 1 (min sweepPageSize 500)) afterRunId
    rw [hRows]
    exact List.pairwise_map.mpr (hSorted.imp fun hLt => Nat.ne_of_lt hLt)
  have hLe : ∀ row ∈ rows, row.workflowRunId ≤ last.workflowRunId := by
    subst hRows
    exact fun row hRow => Sql.key_le_getLast (candidates_distinct h) _ _ hLast hRow
  have hAfter : afterRunId < last.workflowRunId :=
    (mem_rows hRows (List.mem_of_getLast? hLast)).2.2
  have hLength : rows.length = (rows.map TextSession.workflowRunId).length := by simp
  rw [hLength]
  apply Sql.countP_add_length_le
  · exact (h.startedDistinct hBusy).sublist (List.filter_sublist.map _)
  · exact hIds
  · intro key hKey
    obtain ⟨row, hRow, rfl⟩ := List.mem_map.mp hKey
    obtain ⟨hSession, hCandidate, -⟩ := mem_rows hRows hRow
    exact mem_candidates (h.unchanged hBusy row hSession hCandidate) hCandidate
  · intro key hKey
    obtain ⟨row, hRow, rfl⟩ := List.mem_map.mp hKey
    exact decide_eq_false (Nat.not_le_of_lt (mem_rows hRows hRow).2.2)
  · intro key hKey
    rw [decide_eq_true_eq] at hKey ⊢
    omega
  · intro key hKey
    obtain ⟨row, hRow, rfl⟩ := List.mem_map.mp hKey
    exact decide_eq_true (hLe row hRow)

theorem pageSound_rows (h : Sound s) (hStage : s.stage = .reading afterRunId enqueuedCount pages)
    (hRows : rows = getInactive s.sessions s.lastSweep sweepPageSize afterRunId) (hLast : rows.getLast? = some last) :
    PageSound ⟨s.lastSweep, s.started, rows.map (·, s.now) ++ s.observed⟩ rows last.workflowRunId
      (rows.length = sweepPageSize) pages := by
  have hBusy : s.stage ≠ .idle := by simp [hStage]
  constructor
  · intro row hRow
    obtain ⟨hSession, hCandidate, -⟩ := mem_rows hRows hRow
    exact ⟨h.unchanged hBusy row hSession hCandidate, hCandidate⟩
  · exact hRows ▸ Sql.page_sorted (candidates_distinct h) _ _
  · subst hRows
    exact fun row hRow => Sql.key_le_getLast (candidates_distinct h) _ _ hLast hRow
  · intro row hRow
    exact ⟨s.now, h.lastSweep, List.mem_append_left _ (List.mem_map_of_mem hRow)⟩
  · intro hFull
    have hCount := counted_rows h hBusy hRows hLast
    have hStageSound := h.stage
    rw [hStage] at hStageSound
    have hPages := hStageSound.2
    rw [of_decide_eq_true hFull] at hCount
    rw [Nat.mul_succ] at hPages
    change _ ≤ (candidates s.toSweepRecord).countP _ + _
    omega

theorem pageCounted_rows {observed : List (TextSession × ℚ)} (h : Sound s)
    (hStage : s.stage = .reading afterRunId enqueuedCount pages)
    (hRows : rows = getInactive s.sessions s.lastSweep sweepPageSize afterRunId) (hLast : rows.getLast? = some last) :
    PageCounted ⟨s.lastSweep, s.started, observed⟩ rows last.workflowRunId enqueuedCount := by
  have hStageSound := h.stage
  rw [hStage] at hStageSound
  have hEnqueued := hStageSound.1
  have hBehind : ∀ row ∈ rows, enqueuedCount ≤ (dueCandidates s.toSweepRecord).countP (· < row.workflowRunId) :=
    fun row hRow => hEnqueued.trans (countP_le_of_lt _ (mem_rows hRows hRow).2.2)
  refine ⟨hBehind, (hBehind last (List.mem_of_getLast? hLast)).trans ?_⟩
  apply List.countP_mono_left
  intro key _ hKey
  rw [decide_eq_true_eq] at hKey ⊢
  omega

theorem ahead_rows (h : Sound s) (hRows : rows = getInactive s.sessions s.lastSweep sweepPageSize afterRunId)
    (hSession : session ∈ s.sessions) (hCandidate : session.isCandidate s.lastSweep = true)
    (hAfter : afterRunId < session.workflowRunId) :
    session ∈ rows ∨ rows.length = sweepPageSize ∧ ∀ row ∈ rows, row.workflowRunId < session.workflowRunId := by
  have hCovers := Sql.page_covers (candidates_distinct h) (max 1 (min sweepPageSize 500)) afterRunId
    (List.mem_filter.mpr ⟨hSession, hCandidate⟩) hAfter
  rw [hRows]
  exact hCovers

theorem Sound.page {next : Service} (h : Sound s) (hStep : s.sweepStep .page = some next) : Sound next := by
  rw [Service.sweepStep] at hStep
  split at hStep
  · rename_i afterRunId enqueuedCount pages hStage
    dsimp only at hStep
    generalize hRows : getInactive s.sessions s.lastSweep sweepPageSize afterRunId = rows at hStep
    have hBusy : s.stage ≠ .idle := by simp [hStage]
    -- what has been shown stays shown
    have hShown : ∀ job ∈ s.jobs, ∃ shown ∈ rows.map (·, s.now) ++ s.observed,
        shown.1.workflowRunId = job.runId ∧ shown.1.revision = job.expectedRevision ∧
          Service.ShownInactive shown.1 shown.2 := by
      intro job hJob
      obtain ⟨shown, hMem, hJobShown⟩ := h.nothingForgotten.inactive job hJob
      exact ⟨shown, List.mem_append_right _ hMem, hJobShown⟩
    have hPending : ∀ session ∈ s.sessions, Service.OlderThan session maxTimeoutSeconds s.lastSweep →
        s.HasJob session ∨ session.isCandidate s.lastSweep = true ∧ InReach s.toSweepRecord session ∧
          (session ∈ rows ∨ rows.length = sweepPageSize ∧ ∀ row ∈ rows, row.workflowRunId < session.workflowRunId) := by
      intro session hSession hOlder
      obtain hCandidate | hGone := OlderThan.candidate_or_older hOlder
      · refine (h.pending session hSession hOlder).imp_right fun ⟨hAhead, hReach⟩ => ?_
        rw [hStage] at hAhead
        exact ⟨hCandidate, hReach, ahead_rows h hRows.symm hSession hCandidate hAhead⟩
      · exact .inl (h.nothingForgotten.kept session hSession hGone)
    split at hStep
    · rename_i hLast
      obtain rfl := Option.some.inj hStep
      have hNil : rows = [] := List.getLast?_eq_none_iff.mp hLast
      refine ⟨h.distinct, h.positive, h.past, h.lastSweep, fun hNe => absurd rfl hNe, fun hNe => absurd rfl hNe,
        trivial, ?_, h.nothingForgotten.kept, hShown⟩
      intro session hSession hOlder
      obtain hJob | ⟨-, -, hMem | ⟨hLength, -⟩⟩ := hPending session hSession hOlder
      · exact .inl hJob
      · rw [hNil] at hMem
        cases hMem
      · rw [hNil] at hLength
        cases hLength
    · rename_i last hLast
      obtain rfl := Option.some.inj hStep
      have hPage := pageSound_rows h hStage hRows.symm hLast
      have hCounted : PageCounted ⟨s.lastSweep, s.started, rows.map (·, s.now) ++ s.observed⟩ rows
        last.workflowRunId enqueuedCount := pageCounted_rows h hStage hRows.symm hLast
      refine ⟨h.distinct, h.positive, h.past, h.lastSweep, fun _ => h.startedDistinct hBusy,
        fun _ => h.unchanged hBusy, stageSound_nextSession hPage hCounted, ?_, h.nothingForgotten.kept, hShown⟩
      intro session hSession hOlder
      obtain hJob | ⟨-, hReach, hAhead⟩ := hPending session hSession hOlder
      · exact .inl hJob
      · right
        have hReach' : InReach ⟨s.lastSweep, s.started, rows.map (·, s.now) ++ s.observed⟩ session :=
          ⟨hReach.candidates, hReach.due⟩
        refine ⟨ahead_nextSession (r := ⟨s.lastSweep, s.started, rows.map (·, s.now) ++ s.observed⟩) hReach'
          (OlderThan.isDue hOlder) hPage hCounted ?_, hReach'⟩
        refine hAhead.imp_right fun ⟨hLength, hSmaller⟩ => ?_
        exact ⟨hSmaller last (List.mem_of_getLast? hLast), decide_eq_true hLength⟩
  · cases hStep

end ReadPage

/-! ### Enqueueing -/

theorem Sound.enqueue {next : Service} (h : Sound s) (hStep : s.sweepStep (.enqueue true) = some next) :
    Sound next := by
  rw [Service.sweepStep] at hStep
  split at hStep
  · rename_i row deadline rest lastRunId isFull enqueuedCount pages hStage
    obtain rfl := Option.some.inj hStep
    have hBusy : s.stage ≠ .idle := by simp [hStage]
    have hStageSound := h.stage
    rw [hStage] at hStageSound
    obtain ⟨hPage, hDue, hDeadline, hEnqueued⟩ := hStageSound
    obtain ⟨hStarted, hCandidate⟩ := hPage.found row List.mem_cons_self
    -- the session is counted once it is passed
    have hOne : enqueuedCount + 1 ≤ (dueCandidates s.toSweepRecord).countP (· ≤ row.workflowRunId) := by
      refine (Nat.add_le_add_right hEnqueued 1).trans ?_
      change _ + [row.workflowRunId].length ≤ _
      apply Sql.countP_add_length_le
      · exact (h.startedDistinct hBusy).sublist (List.filter_sublist.map _)
      · exact List.nodup_singleton _
      · intro key hKey
        obtain rfl := List.mem_singleton.mp hKey
        exact List.mem_map_of_mem (List.mem_filter.mpr ⟨hStarted, by rw [hCandidate, hDue]; rfl⟩)
      · intro key hKey
        obtain rfl := List.mem_singleton.mp hKey
        exact decide_eq_false (Nat.lt_irrefl _)
      · intro key hKey
        rw [decide_eq_true_eq] at hKey ⊢
        omega
      · intro key hKey
        obtain rfl := List.mem_singleton.mp hKey
        exact decide_eq_true (Nat.le_refl _)
    have hBehind : ∀ other ∈ rest, enqueuedCount + 1 ≤
        (dueCandidates s.toSweepRecord).countP (· < other.workflowRunId) := by
      intro other hOther
      exact hOne.trans (countP_le_of_lt _ ((List.pairwise_cons.mp hPage.sorted).1 other hOther))
    have hCounted : PageCounted s.toSweepRecord rest lastRunId (enqueuedCount + 1) := by
      refine ⟨hBehind, hOne.trans (List.countP_mono_left fun key _ hKey => ?_)⟩
      have hLe := hPage.le_last row List.mem_cons_self
      rw [decide_eq_true_eq] at hKey ⊢
      omega
    simp only [if_true]
    constructor
    · exact h.distinct
    · exact h.positive
    · exact h.past
    · exact h.lastSweep
    · exact fun _ => h.startedDistinct hBusy
    · exact fun _ => h.unchanged hBusy
    · dsimp only
      split
      · trivial
      · exact stageSound_nextSession hPage.tail hCounted
    · intro session hSession hOlder
      obtain hJob | ⟨hAhead, hReach⟩ := h.pending session hSession hOlder
      · exact .inl (HasJob.cons hJob rfl)
      · rw [hStage] at hAhead
        obtain hMem | hLater := hAhead
        · obtain rfl | hRest := List.mem_cons.mp hMem
          · exact .inl ⟨_, List.mem_cons_self, rfl, rfl⟩
          · right
            have hLimit := (hBehind session hRest).trans_lt hReach.due
            refine ⟨?_, hReach⟩
            dsimp only
            rw [if_neg (Nat.not_le_of_lt hLimit)]
            exact ahead_nextSession hReach (OlderThan.isDue hOlder) hPage.tail hCounted (.inl hRest)
        · right
          have hLe := hPage.le_last row List.mem_cons_self
          have hLimit := (hOne.trans (countP_le_of_lt _ (Nat.lt_of_le_of_lt hLe hLater.1))).trans_lt hReach.due
          refine ⟨?_, hReach⟩
          dsimp only
          rw [if_neg (Nat.not_le_of_lt hLimit)]
          exact ahead_nextSession hReach (OlderThan.isDue hOlder) hPage.tail hCounted (.inr hLater)
    · constructor
      · intro session hSession hOlder
        exact HasJob.cons (h.nothingForgotten.kept session hSession hOlder) rfl
      · intro job hJob
        obtain rfl | hJob := List.mem_cons.mp hJob
        · obtain ⟨time, hTime, hShown⟩ := hPage.shown row List.mem_cons_self
          obtain ⟨-, -, lastActivityAt, hLast, -, -⟩ := isCandidate_iff.mp hCandidate
          rw [TextSession.isDue, inactivityDeadline_eq hLast, decide_eq_true_iff] at hDue
          exact ⟨(row, time), hShown, rfl, rfl, lastActivityAt, hLast, hDue.trans hTime⟩
        · exact h.nothingForgotten.inactive job hJob
  · cases hStep

/-! ### Runs -/

theorem Sound.step {event : ServiceEvent} {next : Service} (h : Sound s) (hInTime : s.InTime event)
    (hReaches : s.Reaches event) (hStep : s.step event = some next) : Sound next := by
  cases event with
  | elapse seconds =>
    rw [Service.step] at hStep
    split at hStep
    · rename_i hSeconds
      obtain rfl := Option.some.inj hStep
      exact h.elapse hSeconds
    · cases hStep
  | created session =>
    rw [Service.step] at hStep
    split at hStep
    · rename_i hFresh
      obtain rfl := Option.some.inj hStep
      obtain ⟨hPositive, hNew, hNow⟩ := hFresh
      apply h.sessions
      · exact List.nodup_cons.mpr ⟨hNew, h.distinct⟩
      · exact List.forall_mem_cons.mpr ⟨hPositive, h.positive⟩
      · intro other hOther
        obtain rfl | hOld := List.mem_cons.mp hOther
        · exact .inr (.inr hNow)
        · exact .inl hOld
    · cases hStep
  | updated runId =>
    obtain rfl := Option.some.inj hStep
    exact h.modify (fun _ => rfl) fun _ _ => .inr rfl
  | completed runId =>
    obtain rfl := Option.some.inj hStep
    exact h.modify (fun _ => rfl) fun session hSession => .inl ⟨rfl, h.past session hSession⟩
  | deleted runId =>
    obtain rfl := Option.some.inj hStep
    apply h.sessions
    · exact h.distinct.sublist (List.filter_sublist.map _)
    · exact fun session hSession => h.positive session (List.mem_filter.mp hSession).1
    · exact fun session hSession => .inl (List.mem_filter.mp hSession).1
  | sweep =>
    rw [Service.step, Service.sweepStep] at hStep
    · split at hStep
      · rename_i hIdle
        obtain rfl := Option.some.inj hStep
        exact h.sweep hIdle hInTime hReaches
      · cases hStep
    all_goals simp
  | page => exact h.page hStep
  | enqueue succeeds =>
    obtain rfl : succeeds = true := hInTime
    exact h.enqueue hStep

end Steps

theorem Sound.starts {s : Service} (h : s.Starts) : Sound s where
  distinct := h.distinct
  positive := h.positive
  past := h.past
  lastSweep := le_of_eq h.lastSweep
  startedDistinct hStage := absurd h.stage hStage
  unchanged hStage := absurd h.stage hStage
  stage := by
    rw [h.stage]
    trivial
  pending session hSession hOlder := by
    rw [h.lastSweep] at hOlder
    exact absurd hOlder (h.active session hSession)
  nothingForgotten := by
    constructor
    · intro session hSession hOlder
      rw [h.lastSweep] at hOlder
      have hTime : s.now ≤ s.now + sweepIntervalMinutes * 60 := by
        simp only [sweepIntervalMinutes]
        push_cast
        linarith
      exact absurd (OlderThan.earlier hOlder hTime) (h.active session hSession)
    · rw [h.jobs]
      exact fun job hJob => nomatch hJob

/-- Where every sweep reaches the chats that leave its window, no abandoned chat is forgotten. -/
theorem nothing_forgotten {start s : Service} {events : List ServiceEvent} (hStarts : start.Starts)
    (hInTime : service.Follows Service.InTime start events) (hReaches : service.Follows Service.Reaches start events)
    (hRun : service.run start events = some s) : s.NothingForgotten := by
  have hSound : Sound s := (hInTime.and hReaches).induction
    (fun _ _ _ h hAllowed hStep => h.step hAllowed.1 hAllowed.2 hStep) hRun (.starts hStarts)
  exact hSound.nothingForgotten

/-! ## Chats behind a crowd -/

def longestTimeout : Json :=
  .obj [("text_chat_inactivity_timeout_seconds", .number ⟨"10500".toList, Text.forall_of_all (by decide), by decide⟩)]

def abandoned (i : Nat) : TextSession :=
  ⟨i + 1, 0, some 0, some 0, some 0, "textchat", false, none, longestTimeout⟩

def crowd (n : Nat) : List TextSession := (List.range n).map abandoned

theorem mem_crowd {n : Nat} {session : TextSession} (h : session ∈ crowd n) : ∃ i < n, abandoned i = session := by
  obtain ⟨i, hRange, hSession⟩ := List.mem_map.mp h
  exact ⟨i, List.mem_range.mp hRange, hSession⟩

theorem crowd_sorted (n : Nat) : (crowd n).Pairwise (TextSession.workflowRunId · < TextSession.workflowRunId ·) :=
  List.pairwise_map.mpr (List.pairwise_lt_range.imp fun h => Nat.succ_lt_succ h)

theorem older_abandoned {i : Nat} {seconds : Int} {time : ℚ} :
    Service.OlderThan (abandoned i) seconds time ↔ (seconds : ℚ) < time := by
  simp [Service.OlderThan, abandoned, TextSession.lastActivityAt]

theorem candidate_abandoned (i : Nat) : (abandoned i).isCandidate 10501 = true :=
  isCandidate_iff.mpr ⟨rfl, rfl, 0, rfl, by decide +kernel, by decide +kernel⟩

def crowded (n : Nat) : Service where
  lastSweep := 10500
  started := []
  observed := []
  now := 10500
  sessions := crowd n
  jobs := []
  stage := .idle

theorem crowded_starts (n : Nat) : (crowded n).Starts where
  stage := rfl
  jobs := rfl
  lastSweep := rfl
  distinct := List.pairwise_map.mpr ((crowd_sorted n).imp fun h => Nat.ne_of_lt h)
  positive session hSession := by
    obtain ⟨i, -, rfl⟩ := mem_crowd hSession
    exact Nat.succ_pos i
  past session hSession lastActivityAt hLast := by
    obtain ⟨i, -, rfl⟩ := mem_crowd hSession
    obtain rfl := Option.some.inj hLast
    change (0 : ℚ) ≤ 10500
    decide +kernel
  active session hSession := by
    obtain ⟨i, -, rfl⟩ := mem_crowd hSession
    rw [older_abandoned]
    change ¬((maxTimeoutSeconds : ℚ) < 10500)
    decide +kernel

theorem page_crowd (n : Nat) : getInactive (crowd n) 10501 sweepPageSize 0 = (crowd n).take 500 := by
  have hCandidates : (crowd n).filter (fun session => session.isCandidate 10501) = crowd n := by
    refine List.filter_eq_self.mpr fun session hSession => ?_
    obtain ⟨i, -, rfl⟩ := mem_crowd hSession
    exact candidate_abandoned i
  have hBehind : (crowd n).filter (fun session => decide (0 < session.workflowRunId)) = crowd n := by
    refine List.filter_eq_self.mpr fun session hSession => ?_
    obtain ⟨i, -, rfl⟩ := mem_crowd hSession
    exact decide_eq_true (Nat.succ_pos i)
  have hSorted : (crowd n).Pairwise fun a b => decide (a.workflowRunId ≤ b.workflowRunId) = true :=
    (crowd_sorted n).imp fun h => decide_eq_true (Nat.le_of_lt h)
  rw [getInactive, hCandidates, Sql.page, Sql.behind, hBehind, List.mergeSort_of_pairwise hSorted]
  rfl

def sweeping (n : Nat) : Service :=
  { crowded n with now := 10501, lastSweep := 10501, started := crowd n, stage := .reading 0 0 9 }

def firstPage (n last : Nat) (isFull : Bool) : Service :=
  { sweeping n with
    observed := ((crowd n).take 500).map (·, 10501) ++ []
    stage := nextSession 10501 10501 ((crowd n).take 500) last isFull 0 9 }

theorem step_page {s : Service} {afterRunId enqueuedCount pages : Nat} {rows : List TextSession} {last : TextSession}
    (hStage : s.stage = .reading afterRunId enqueuedCount pages)
    (hRows : getInactive s.sessions s.lastSweep sweepPageSize afterRunId = rows) (hLast : rows.getLast? = some last) :
    service.step s .page = some { s with
      stage :=
        nextSession s.lastSweep s.now rows last.workflowRunId (rows.length = sweepPageSize) enqueuedCount pages
      observed := rows.map (·, s.now) ++ s.observed } := by
  change s.sweepStep .page = _
  simp only [Service.sweepStep, hStage, hRows, hLast]

theorem step_elapse (n : Nat) : service.step (crowded n) (.elapse 1) = some { crowded n with now := 10501 } := by
  have hNow : (10500 : ℚ) + 1 = 10501 := by decide +kernel
  have hElapse : service.step (crowded n) (.elapse 1) = some { crowded n with now := 10500 + 1 } := rfl
  rw [hElapse, hNow]

theorem step_sweep (n : Nat) : service.step { crowded n with now := 10501 } .sweep = some (sweeping n) := rfl

theorem step_firstPage {n : Nat} {last : TextSession} (hLast : ((crowd n).take 500).getLast? = some last) :
    service.step (sweeping n) .page =
      some (firstPage n last.workflowRunId (((crowd n).take 500).length = sweepPageSize)) :=
  step_page (s := sweeping n) rfl (page_crowd n) hLast

theorem run_firstPage {n : Nat} {once : Service} (hPage : service.step (sweeping n) .page = some once)
    (events : List ServiceEvent) :
    service.run (crowded n) (.elapse 1 :: .sweep :: .page :: events) = service.run once events := by
  simp only [Machine.run, step_elapse, step_sweep, hPage, Option.bind_some]

theorem follows_firstPage {n : Nat} {once : Service} {allows : Service → ServiceEvent → Prop}
    {events : List ServiceEvent} (hPage : service.step (sweeping n) .page = some once)
    (hElapse : allows (crowded n) (.elapse 1)) (hSweep : allows { crowded n with now := 10501 } .sweep)
    (hAllows : allows (sweeping n) .page) (hRest : service.Follows allows once events) :
    service.Follows allows (crowded n) (.elapse 1 :: .sweep :: .page :: events) :=
  .cons (step_elapse n) hElapse (.cons (step_sweep n) hSweep (.cons hPage hAllows hRest))

instance (s : Service) (event : ServiceEvent) : Decidable (s.InTime event) := by
  unfold Service.InTime
  split <;> infer_instance

theorem inTime_sweep (n : Nat) : Service.InTime { crowded n with now := 10501 } .sweep := by
  change (10501 : ℚ) ≤ 10500 + sweepIntervalMinutes * 60
  decide +kernel

def onceSwept : Service := firstPage 501 500 true

def behindCrowd : List ServiceEvent := List.replicate 500 (.enqueue true) ++ [.elapse 300, .sweep]

theorem step_onceSwept : service.step (sweeping 501) .page = some onceSwept := by
  have hTake : (crowd 501).take 500 = crowd 499 ++ [abandoned 499] := by
    rw [crowd, ← List.map_take, List.take_range]
    change (List.range (499 + 1)).map abandoned = _
    rw [List.range_succ, List.map_append]
    rfl
  have hLast : ((crowd 501).take 500).getLast? = some (abandoned 499) := by rw [hTake, List.getLast?_concat]
  have hLength : ((crowd 501).take 500).length = sweepPageSize := by simp [crowd, sweepPageSize]
  rw [step_firstPage hLast, decide_eq_true hLength]
  rfl

def isForgotten (s : Service) : Bool :=
  s.lastSweep = 10801 && s.sessions.any (fun session => session.workflowRunId = 501 && session.mode = "textchat" &&
    !session.isCompleted && session.lastActivityAt = some 0) && s.jobs.all fun job => job.runId ≠ 501

theorem isForgotten_run : ((service.run onceSwept behindCrowd).any isForgotten) = true := by decide +kernel

theorem forgets {s : Service} (h : isForgotten s = true) : ¬s.NothingForgotten := by
  intro hNothing
  simp only [isForgotten, Bool.and_eq_true, List.any_eq_true, List.all_eq_true, decide_eq_true_eq,
    Bool.not_eq_true'] at h
  obtain ⟨⟨hSweep, session, hSession, ⟨⟨hId, hMode⟩, hOpen⟩, hLast⟩, hJobs⟩ := h
  have hOlder : Service.OlderThan session sweepLookbackSeconds s.lastSweep := by
    refine ⟨hMode, hOpen, 0, hLast, ?_⟩
    rw [hSweep]
    decide +kernel
  obtain ⟨job, hJob, hRun, -⟩ := hNothing.kept session hSession hOlder
  exact hJobs job hJob (hRun.trans hId)

theorem inTime_behindCrowd : service.Follows Service.InTime onceSwept behindCrowd := by decide +kernel

theorem forgotten_behind_crowd : ¬∀ (start s : Service) (events : List ServiceEvent), start.Starts →
    service.Follows Service.InTime start events → service.run start events = some s → s.NothingForgotten := by
  intro hAll
  obtain ⟨s, hRun, hForgotten⟩ := (Option.any_eq_true _ _).mp isForgotten_run
  rw [← run_firstPage step_onceSwept] at hRun
  have hInTime := follows_firstPage step_onceSwept trivial (inTime_sweep 501) trivial inTime_behindCrowd
  exact forgets hForgotten (hAll _ _ _ (crowded_starts 501) hInTime hRun)

/-! ### A chat that is enqueued -/

def onlyChat : Service := firstPage 1 1 false

theorem step_onlyChat : service.step (sweeping 1) .page = some onlyChat := by
  have hLast : ((crowd 1).take 500).getLast? = some (abandoned 0) := rfl
  exact (step_firstPage hLast).trans rfl

def enqueuedChat : Service := { onlyChat with jobs := [⟨1, 0, 10500⟩], stage := .idle }

theorem step_enqueuedChat : service.step onlyChat (.enqueue true) = some enqueuedChat := by
  have hDeadline : (abandoned 0).inactivityDeadline 10501 = 10500 := by decide +kernel
  have hDue : (abandoned 0).isDue 10501 10501 = true := by decide +kernel
  have hStage : onlyChat.stage = .enqueueing (abandoned 0) ((abandoned 0).inactivityDeadline 10501) [] 1 false 0 9 := by
    change nextSession 10501 10501 [abandoned 0] 1 false 0 9 = _
    rw [nextSession, List.dropWhile_cons_of_neg (by simp [hDue])]
  change onlyChat.sweepStep (.enqueue true) = _
  simp only [Service.sweepStep, hStage, hDeadline]
  rfl

def enqueuedLater : Service := { enqueuedChat with now := enqueuedChat.now + 300 }

theorem withinReach_of_one {s : Service} (h : s.sessions = crowd 1) : s.WithinReach := by
  intro session _ _ _
  have hCount : ∀ p : TextSession → Bool, s.before p session.workflowRunId ≤ 1 := by
    intro p
    refine List.countP_le_length.trans ?_
    rw [List.length_map, h]
    exact List.length_filter_le p (crowd 1)
  exact .inr ⟨(hCount _).trans_lt (by decide), (hCount _).trans_lt (by decide)⟩

theorem one_chat_kept : ∃ s, service.run (crowded 1)
    [.elapse 1, .sweep, .page, .enqueue true, .elapse 300, .sweep] = some s ∧ s.NothingForgotten := by
  have hElapse : service.step enqueuedChat (.elapse 300) = some enqueuedLater := rfl
  have hSweep : service.step enqueuedLater .sweep = some { enqueuedLater with
      lastSweep := enqueuedLater.now
      started := crowd 1
      stage := .reading 0 0 9 } := rfl
  have hInTime : service.Follows Service.InTime (crowded 1)
      [.elapse 1, .sweep, .page, .enqueue true, .elapse 300, .sweep] := by
    refine follows_firstPage step_onlyChat trivial (inTime_sweep 1) trivial ?_
    exact .cons step_enqueuedChat rfl (.cons hElapse trivial ⟨by decide +kernel, fun _ _ => trivial⟩)
  have hReaches : service.Follows Service.Reaches (crowded 1)
      [.elapse 1, .sweep, .page, .enqueue true, .elapse 300, .sweep] := by
    refine follows_firstPage step_onlyChat trivial (withinReach_of_one rfl) trivial ?_
    exact .cons step_enqueuedChat trivial (.cons hElapse trivial ⟨withinReach_of_one rfl, fun _ _ => trivial⟩)
  have hRun := run_firstPage step_onlyChat [.enqueue true, .elapse 300, .sweep]
  simp only [Machine.run, step_enqueuedChat, hElapse, hSweep, Option.bind_some] at hRun
  exact ⟨_, hRun, nothing_forgotten (crowded_starts 1) hInTime hReaches hRun⟩

end FastVoice.TextChat.Inactivity
