import FastVoice.Campaign.DispatcherCommands
import FastVoice.Campaign.Orchestrator
import FastVoice.Runtime.Text

/-! # The lineage of retries

Listeners that handle sequences of retry events for one campaign, each event any number of times and
in any interleaving. The retry count bounds a chain, and the uniqueness constraint turns a second
retry of the same row into an error.
-/
namespace FastVoice.Campaign
open Async Sql Relation

/-! ## Chains of rows -/

def IsRetryOf (t : QueuedRuns) (parent run : QueuedRun) : Prop :=
  parent ∈ t.rows ∧ run ∈ t.rows ∧ run.parentQueuedRunId = some parent.id

structure BoundedLineage (maxRetries : Nat) (t : QueuedRuns) : Prop where
  oneChild : ∀ parent first second, IsRetryOf t parent first → IsRetryOf t parent second →
    first = second
  chainStart : ∀ run ∈ t.rows, run.parentQueuedRunId = none → run.retryCount = 0
  chainStep : ∀ run ∈ t.rows, ∀ id ∈ run.parentQueuedRunId, ∃ parent, t.lookup id = some parent ∧
    run.retryCount = parent.retryCount + 1
  bounded : ∀ run ∈ t.rows, run.retryCount ≤ maxRetries
  distinctUuids : (t.rows.map QueuedRun.sourceUuid).Nodup
  descendants : ∀ root ∈ t.rows, root.parentQueuedRunId = none →
    {run | TransGen (IsRetryOf t) root run}.encard ≤ maxRetries

def withRetrySuffixes (sourceUuid : String) (counts : List Nat) : String :=
  counts.foldl (fun uuid count => s!"{uuid}_retry_{count}") sourceUuid

structure SourceRows (t : QueuedRuns) : Prop where
  roots : ∀ run ∈ t.rows, run.parentQueuedRunId = none ∧ run.retryCount = 0
  distinctUuids : (t.rows.map QueuedRun.sourceUuid).Nodup
  unsuffixed : ∀ run ∈ t.rows, ∀ other ∈ t.rows, ∀ counts, counts ≠ [] →
    run.sourceUuid ≠ withRetrySuffixes other.sourceUuid counts

theorem withRetrySuffixes_concat (sourceUuid : String) (counts : List Nat) (count : Nat) :
    withRetrySuffixes sourceUuid (counts ++ [count]) =
      withRetrySuffixes sourceUuid counts ++ "_retry" ++ "_" ++ toString count := by
  have hSuffix : "_retry" ++ "_" = "_retry_" := by decide
  have hAssoc : withRetrySuffixes sourceUuid counts ++ "_retry" ++ "_" =
      withRetrySuffixes sourceUuid counts ++ ("_retry" ++ "_") := String.append_assoc
  rw [hAssoc, hSuffix, withRetrySuffixes, List.foldl_append]
  rfl

theorem length_eq_of_withRetrySuffixes {t : QueuedRuns} (h : SourceRows t) {first second : QueuedRun}
    (hFirst : first ∈ t.rows) (hSecond : second ∈ t.rows) {counts others : List Nat}
    (hSame : withRetrySuffixes first.sourceUuid counts =
      withRetrySuffixes second.sourceUuid others) : counts.length = others.length := by
  induction counts using List.reverseRecOn generalizing others with
  | nil =>
    cases others with
    | nil => rfl
    | cons other rest =>
      exact absurd hSame (h.unsuffixed first hFirst second hSecond _ (List.cons_ne_nil _ _))
  | append_singleton counts count ih =>
    obtain rfl | ⟨rest, other, rfl⟩ := List.eq_nil_or_concat' others
    · exact absurd hSame.symm (h.unsuffixed second hSecond first hFirst _ (by simp))
    · rw [withRetrySuffixes_concat, withRetrySuffixes_concat] at hSame
      have hRest := (String.append_left_inj "_retry").mp (Text.append_number_inj hSame).1
      rw [List.length_append, List.length_append, ih hRest]
      rfl

/-! ## The invariant -/

/-- Each row is a row of the source or retries another one within the limit, and the uniqueness
constraint holds. -/
structure RetriesOf (maxRetries : Nat) (source t : QueuedRuns) : Prop where
  origin : ∀ run ∈ t.rows, run ∈ source.rows ∨ ∃ original ∈ t.rows, ∃ reason scheduledFor,
    original.retryCount < maxRetries ∧ run = { retryRun original reason scheduledFor with id := run.id }
  unique : (t.rows.map fun run => (run.sourceUuid, run.retryCount)).Nodup

section

variable {maxRetries : Nat} {source t : QueuedRuns}

theorem SourceRows.retriesOf (h : SourceRows source) : RetriesOf maxRetries source source := by
  constructor
  · exact fun run hRun => .inl hRun
  · have hUuids : ((source.rows.map fun run => (run.sourceUuid, run.retryCount)).map
        Prod.fst).Nodup := by
      rw [List.map_map]
      exact h.distinctUuids
    exact hUuids.of_map _

namespace RetriesOf

theorem ext_uuid (h : RetriesOf maxRetries source t) {first second : QueuedRun}
    (hFirst : first ∈ t.rows) (hSecond : second ∈ t.rows)
    (hUuid : first.sourceUuid = second.sourceUuid) (hCount : first.retryCount = second.retryCount) :
    first = second :=
  List.inj_on_of_nodup_map h.unique hFirst hSecond (Prod.ext hUuid hCount)

theorem parent (h : RetriesOf maxRetries source t) (hSource : SourceRows source) {run : QueuedRun}
    (hRun : run ∈ t.rows) {id : Nat} (hId : run.parentQueuedRunId = some id) :
    ∃ original ∈ t.rows, original.id = id ∧ original.retryCount < maxRetries ∧
      run.retryCount = original.retryCount + 1 ∧
      run.sourceUuid = withRetrySuffixes original.sourceUuid [original.retryCount + 1] := by
  obtain hRoot | ⟨original, hOriginal, reason, scheduledFor, hLimit, hEq⟩ := h.origin run hRun
  · rw [(hSource.roots run hRoot).1] at hId
    cases hId
  · rw [hEq] at hId
    refine ⟨original, hOriginal, Option.some.inj hId, hLimit, ?_, ?_⟩
    · rw [hEq]
      rfl
    · rw [hEq]
      rfl

theorem root_or_parent (h : RetriesOf maxRetries source t) {run : QueuedRun} (hRun : run ∈ t.rows) :
    run ∈ source.rows ∨ ∃ id, run.parentQueuedRunId = some id := by
  obtain hRoot | ⟨original, hOriginal, reason, scheduledFor, hLimit, hEq⟩ := h.origin run hRun
  · exact .inl hRoot
  · exact .inr ⟨original.id, by rw [hEq]; rfl⟩

theorem uuid (h : RetriesOf maxRetries source t) (hSource : SourceRows source) {run : QueuedRun}
    (hRun : run ∈ t.rows) : ∃ root ∈ source.rows, ∃ counts, counts.length = run.retryCount ∧
      run.sourceUuid = withRetrySuffixes root.sourceUuid counts := by
  induction hCount : run.retryCount generalizing run with
  | zero =>
    obtain hRoot | ⟨id, hId⟩ := h.root_or_parent hRun
    · exact ⟨run, hRoot, [], rfl, rfl⟩
    · obtain ⟨original, -, -, -, hNext, -⟩ := h.parent hSource hRun hId
      omega
  | succ count ih =>
    obtain hRoot | ⟨id, hId⟩ := h.root_or_parent hRun
    · have hZero := (hSource.roots run hRoot).2
      omega
    · obtain ⟨original, hOriginal, -, -, hNext, hUuid⟩ := h.parent hSource hRun hId
      obtain ⟨root, hRoot, counts, hLength, hOriginalUuid⟩ := ih hOriginal (by omega)
      refine ⟨root, hRoot, counts ++ [original.retryCount + 1], ?_, ?_⟩
      · rw [List.length_append, hLength]
        rfl
      · rw [hUuid, hOriginalUuid, withRetrySuffixes, withRetrySuffixes, withRetrySuffixes,
          List.foldl_append]

theorem injective_uuid (h : RetriesOf maxRetries source t) (hSource : SourceRows source)
    {first second : QueuedRun} (hFirst : first ∈ t.rows) (hSecond : second ∈ t.rows)
    (hUuid : first.sourceUuid = second.sourceUuid) : first = second := by
  obtain ⟨root, hRoot, counts, hLength, hFirstUuid⟩ := h.uuid hSource hFirst
  obtain ⟨other, hOther, others, hOthers, hSecondUuid⟩ := h.uuid hSource hSecond
  have hSame := length_eq_of_withRetrySuffixes hSource hRoot hOther
    (hFirstUuid.symm.trans (hUuid.trans hSecondUuid))
  exact h.ext_uuid hFirst hSecond hUuid (by omega)

theorem oneChild (h : RetriesOf maxRetries source t) (hSource : SourceRows source)
    {original first second : QueuedRun} (hFirst : IsRetryOf t original first)
    (hSecond : IsRetryOf t original second) : first = second := by
  obtain ⟨-, hFirstRun, hFirstId⟩ := hFirst
  obtain ⟨-, hSecondRun, hSecondId⟩ := hSecond
  obtain ⟨one, hOne, hOneId, -, hOneCount, hOneUuid⟩ := h.parent hSource hFirstRun hFirstId
  obtain ⟨two, hTwo, hTwoId, -, hTwoCount, hTwoUuid⟩ := h.parent hSource hSecondRun hSecondId
  obtain rfl : one = two :=
    List.inj_on_of_nodup_map t.distinct hOne hTwo (hOneId.trans hTwoId.symm)
  exact h.ext_uuid hFirstRun hSecondRun (hOneUuid.trans hTwoUuid.symm)
    (hOneCount.trans hTwoCount.symm)

theorem retryCount_step (h : RetriesOf maxRetries source t) (hSource : SourceRows source)
    {original run : QueuedRun} (hRetry : IsRetryOf t original run) :
    run.retryCount = original.retryCount + 1 := by
  obtain ⟨hOriginal, hRun, hId⟩ := hRetry
  obtain ⟨parent, hParent, hParentId, -, hNext, -⟩ := h.parent hSource hRun hId
  obtain rfl : parent = original := List.inj_on_of_nodup_map t.distinct hParent hOriginal hParentId
  exact hNext

theorem retryCount_le (h : RetriesOf maxRetries source t) (hSource : SourceRows source)
    {run : QueuedRun} (hRun : run ∈ t.rows) : run.retryCount ≤ maxRetries := by
  obtain hRoot | ⟨id, hId⟩ := h.root_or_parent hRun
  · have hZero := (hSource.roots run hRoot).2
    omega
  · obtain ⟨original, -, -, hLimit, hNext, -⟩ := h.parent hSource hRun hId
    omega

theorem boundedLineage (h : RetriesOf maxRetries source t) (hSource : SourceRows source) :
    BoundedLineage maxRetries t := by
  constructor
  · exact fun parent first second hFirst hSecond => h.oneChild hSource hFirst hSecond
  · intro run hRun hNone
    obtain hRoot | ⟨id, hId⟩ := h.root_or_parent hRun
    · exact (hSource.roots run hRoot).2
    · rw [hNone] at hId
      cases hId
  · intro run hRun id hId
    obtain ⟨original, hOriginal, rfl, -, hNext, -⟩ := h.parent hSource hRun hId
    exact ⟨original, Table.lookup_of_mem hOriginal, hNext⟩
  · exact fun run hRun => h.retryCount_le hSource hRun
  · exact (List.Nodup.of_map _ t.distinct).map_on fun first hFirst second hSecond hUuid =>
      h.injective_uuid hSource hFirst hSecond hUuid
  · intro root _ _
    apply @encard_followers_le _ _ QueuedRun.retryCount
    · exact fun original run hRetry => h.retryCount_step hSource hRetry
    · exact fun original first second hFirst hSecond => h.oneChild hSource hFirst hSecond
    · intro run hRun
      obtain ⟨original, -, hRetry⟩ := TransGen.tail'_iff.mp hRun
      exact h.retryCount_le hSource hRetry.2.1

theorem createQueuedRun {s : CampaignStore} (h : RetriesOf maxRetries source s.queuedRuns)
    {original : QueuedRun} (hOriginal : original ∈ s.queuedRuns.rows)
    (hLimit : original.retryCount < maxRetries) (reason : RetryReason) (scheduledFor : UnixTime) :
    RetriesOf maxRetries source (s.createQueuedRun (retryRun original reason scheduledFor)).2.queuedRuns := by
  unfold CampaignStore.createQueuedRun
  split
  · exact h
  · rename_i hFree
    have hRows : (s.queuedRuns.insert
        { retryRun original reason scheduledFor with id := s.queuedRuns.nextKey }).rows =
          { retryRun original reason scheduledFor with id := s.queuedRuns.nextKey } ::
            s.queuedRuns.rows := Table.rows_insert (Table.nextKey_free s.queuedRuns)
    constructor
    · intro run hRun
      rw [hRows] at hRun ⊢
      obtain rfl | hOld := List.mem_cons.mp hRun
      · exact .inr ⟨original, List.mem_cons_of_mem _ hOriginal, reason, scheduledFor, hLimit, rfl⟩
      · obtain hRoot | ⟨parent, hParent, hRest⟩ := h.origin run hOld
        · exact .inl hRoot
        · exact .inr ⟨parent, List.mem_cons_of_mem _ hParent, hRest⟩
    · rw [hRows, List.map_cons, List.nodup_cons]
      refine ⟨fun hMem => hFree ?_, h.unique⟩
      obtain ⟨other, hOther, hSame⟩ := List.mem_map.mp hMem
      exact List.any_eq_true.mpr ⟨other, hOther, decide_eq_true (Prod.ext_iff.mp hSame)⟩

end RetriesOf

end

/-! ## The listeners -/

/-- An exception that escapes from a handler ends the listener. -/
def handleRetryEvents : List (Nat × RetryReason) → CampaignMethod Unit
  | [] => return ()
  | (queuedRunId, reason) :: events => do
    handleEvent (.retryNeeded queuedRunId reason)
    handleRetryEvents events

/-- The retry configuration stays, and no rows are added to the source. Calls may fail in any way. -/
def fixedRetryConfig (ι : Type) :
    System.Discipline ι CampaignCommand.Reply Error CampaignStore CampaignMove where
  call _ _ _ _ := True
  environment move s :=
    match move with
    | .edit settings => ∀ campaign ∈ s.campaign, settings.retryConfig = campaign.retryConfig
    | .insertQueuedRun _ => False
    | _ => True

instance (ι : Type) (proc : ι) (command : CampaignCommand) (outcome : Outcome Error)
    (s : CampaignStore) : Decidable ((fixedRetryConfig ι).call proc command outcome s) :=
  isTrue trivial

instance (ι : Type) (move : CampaignMove) (s : CampaignStore) :
    Decidable ((fixedRetryConfig ι).environment move s) :=
  match move with
  | .edit settings => inferInstanceAs
    (Decidable (∀ campaign ∈ s.campaign, settings.retryConfig = campaign.retryConfig))
  | .insertQueuedRun _ => isFalse id
  | .redis _ => isTrue trivial
  | .answer _ => isTrue trivial
  | .draw _ _ => isTrue trivial

structure RetryReads where
  limit : Option Nat
  original : Option QueuedRun

def RetryReads.Permits (reads : RetryReads) (run : QueuedRun) : Prop :=
  ∃ original ∈ reads.original, ∃ limit ∈ reads.limit, original.retryCount < limit ∧
    ∃ reason scheduledFor, run = retryRun original reason scheduledFor

def KeepsQueuedRuns : CampaignCommand → Prop
  | .createQueuedRun _ => False
  | .claimQueuedRuns _ _ => False
  | .updateQueuedRun _ _ => False
  | .returnProcessingQueuedRuns _ => False
  | _ => True

def retryProtocol : Protocol CampaignCommand.Reply Error RetryReads where
  permits reads command :=
    match command with
    | .createQueuedRun run => reads.Permits run
    | other => KeepsQueuedRuns other
  next reads command result :=
    match command, result with
    | .getCampaignById, .ok (some campaign) =>
      { reads with limit := some (campaign.retryConfig.maxRetries.getD 1) }
    | .getQueuedRunById _, .ok (some run) => { reads with original := some run }
    | _, _ => reads

theorem permits_of_keeps {command : CampaignCommand} (h : KeepsQueuedRuns command)
    (reads : RetryReads) : retryProtocol.permits reads command := by
  cases command <;> first | exact h | exact h.elim

theorem obeys_of_keeps {α : Type} {method : CampaignMethod α} (h : method.Issues KeepsQueuedRuns)
    (reads : RetryReads) : method.Obeys retryProtocol (fun _ _ => True) reads := by
  have hObeys := h.obeys (P := retryProtocol) (T := fun _ => True) (t := reads)
    (fun reads command _ hKeeps => ⟨permits_of_keeps hKeeps reads, fun _ => trivial⟩) trivial
  exact hObeys

instance : Serves KeepsQueuedRuns where
  redis _ := trivial
  breaker _ := trivial
  service _ := trivial
  now := trivial
  getCampaignById := trivial
  loadCampaign := trivial
  refreshCampaign := trivial

theorem touchLastActivity_keeps : touchLastActivity.Issues KeepsQueuedRuns := by
  have hMemory : ∀ update, KeepsQueuedRuns (.memory update) := fun _ => trivial
  exact (Program.issues_call (hMemory _)).bind fun _ => trivial

theorem markFinalFailure_keeps : markFinalFailure.Issues KeepsQueuedRuns := by
  refine getCampaignById_issues.bind fun campaign => ?_
  cases campaign with
  | none => trivial
  | some campaign => exact updateCampaign_issues fun _ => trivial

theorem scheduleRetry_obeys {original : QueuedRun} {limit : Nat} (h : original.retryCount < limit)
    (reason : RetryReason) (delaySeconds : Nat) :
    (scheduleRetry original reason delaySeconds).Obeys retryProtocol (fun _ _ => True)
      ⟨some limit, some original⟩ := by
  have hNow : (Program.call CampaignCommand.now : CampaignMethod UnixTime).Obeys retryProtocol
      (fun _ reads => reads = ⟨some limit, some original⟩) ⟨some limit, some original⟩ := by
    refine Program.obeys_call trivial fun result => ?_
    cases result <;> rfl
  refine hNow.bind ?_ fun _ _ _ => trivial
  rintro now _ rfl
  have hPermits : retryProtocol.permits ⟨some limit, some original⟩ (.createQueuedRun
      (retryRun original reason (UnixTime.plus now delaySeconds))) :=
    ⟨original, rfl, limit, rfl, h, reason, _, rfl⟩
  refine ⟨hPermits, fun result => ?_⟩
  cases result with
  | error error => trivial
  | ok created => cases created <;> trivial

theorem handleRetryEvent_obeys (queuedRunId : Nat) (reason : RetryReason) (reads : RetryReads) :
    (handleRetryEvent queuedRunId reason).Obeys retryProtocol (fun _ _ => True) reads := by
  rw [handleRetryEvent, getCampaignById, Program.call_bind]
  refine ⟨trivial, fun result => ?_⟩
  cases result with
  | error error => trivial
  | ok campaign =>
    cases campaign with
    | none => trivial
    | some campaign =>
      simp only [Program.proceed_ok]
      split
      · rw [Program.call_bind]
        refine ⟨trivial, fun result => ?_⟩
        cases result with
        | error error => trivial
        | ok original =>
          cases original with
          | none => trivial
          | some original =>
            simp only [Program.proceed_ok]
            split
            · exact obeys_of_keeps markFinalFailure_keeps _
            · rename_i hBelow
              refine (scheduleRetry_obeys (not_le.mp hBelow) reason _).bind (fun _ reads _ => ?_)
                fun _ _ _ => trivial
              exact obeys_of_keeps touchLastActivity_keeps reads
      · trivial

theorem handleRetryEvents_obeys (events : List (Nat × RetryReason)) (reads : RetryReads) :
    (handleRetryEvents events).Obeys retryProtocol (fun _ _ => True) reads := by
  induction events generalizing reads with
  | nil => trivial
  | cons event events ih =>
    have hEvent : (handleEvent (.retryNeeded event.1 event.2)).Obeys retryProtocol
        (fun _ _ => True) reads :=
      orElse_obeys (handleRetryEvent_obeys event.1 event.2 reads) fun _ _ _ => trivial
    exact hEvent.bind (fun _ reads _ => ih reads) fun _ _ _ => trivial

/-! ## Every run -/

section

variable {ι : Type}

structure ReadsFrom (maxRetries : Nat) (s : CampaignStore) (reads : RetryReads) : Prop where
  limit : ∀ limit ∈ reads.limit, limit = maxRetries
  original : ∀ original ∈ reads.original, original ∈ s.queuedRuns.rows

structure LineageKept (maxRetries : Nat) (source : QueuedRuns) (s : CampaignStore)
    (reads : ι → RetryReads) : Prop where
  config : ∀ config ∈ s.campaign.map CampaignRow.retryConfig, config.maxRetries.getD 1 = maxRetries
  retries : RetriesOf maxRetries source s.queuedRuns
  reads : ∀ proc, ReadsFrom maxRetries s (reads proc)

theorem mem_createQueuedRun {s : CampaignStore} {run created : QueuedRun}
    (h : run ∈ s.queuedRuns.rows) : run ∈ (s.createQueuedRun created).2.queuedRuns.rows := by
  unfold CampaignStore.createQueuedRun
  split
  · exact h
  · exact (Table.lookup_eq_some.mp (Table.lookup_insert_of_some (Table.lookup_of_mem h))).1

theorem retryConfig_execute (s : CampaignStore) (command : CampaignCommand) :
    (s.execute command).2.campaign.map CampaignRow.retryConfig = s.campaign.map CampaignRow.retryConfig := by
  cases command with
  | commitCampaign loaded changes =>
    simp only [CampaignStore.execute, Option.map_map]
    rfl
  | incrementPoolExhausted =>
    simp only [CampaignStore.execute, Option.map_map]
    rfl
  | resetPoolExhausted =>
    simp only [CampaignStore.execute, Option.map_map]
    rfl
  | createQueuedRun run =>
    exact congrArg (Option.map CampaignRow.retryConfig) (campaign_createQueuedRun s run)
  | _ => rfl

theorem retryConfig_environment {s s' : CampaignStore} {move : CampaignMove}
    (h : (fixedRetryConfig ι).environment move s) (hMove : CampaignStore.environment move s = some s') :
    s'.campaign.map CampaignRow.retryConfig = s.campaign.map CampaignRow.retryConfig ∧
      s'.queuedRuns = s.queuedRuns := by
  cases move with
  | redis move =>
    obtain ⟨keyspace, -, rfl⟩ := Option.map_eq_some_iff.mp hMove
    exact ⟨rfl, rfl⟩
  | answer answers =>
    cases hMove
    exact ⟨rfl, rfl⟩
  | draw random locked =>
    cases hMove
    exact ⟨rfl, rfl⟩
  | edit settings =>
    cases hMove
    refine ⟨?_, rfl⟩
    simp only [CampaignStore.edit, Option.map_map]
    cases hCampaign : s.campaign with
    | none => rfl
    | some row => exact congrArg some (h row hCampaign)
  | insertQueuedRun run => exact h.elim

theorem queuedRuns_execute {command : CampaignCommand} (h : KeepsQueuedRuns command)
    (s : CampaignStore) : (s.execute command).2.queuedRuns = s.queuedRuns := by
  cases command <;> first | rfl | exact h.elim

theorem next_error (reads : RetryReads) (command : CampaignCommand) (error : Error) :
    retryProtocol.next reads command (.error error) = reads := by
  cases command <;> rfl

theorem ReadsFrom.next {maxRetries : Nat} {s : CampaignStore} {reads : RetryReads}
    (h : ReadsFrom maxRetries s reads) (hConfig : ∀ config ∈ s.campaign.map CampaignRow.retryConfig,
      config.maxRetries.getD 1 = maxRetries) (command : CampaignCommand) :
    ReadsFrom maxRetries s (retryProtocol.next reads command (.ok (s.execute command).1)) := by
  cases command with
  | getCampaignById =>
    cases hCampaign : s.campaign with
    | none =>
      simp only [CampaignStore.execute, hCampaign]
      exact h
    | some row =>
      simp only [CampaignStore.execute, hCampaign]
      refine ⟨fun limit hLimit => ?_, h.original⟩
      rw [← Option.some.inj hLimit]
      exact hConfig _ (by rw [hCampaign]; rfl)
  | getQueuedRunById id =>
    cases hRun : s.queuedRuns.lookup id with
    | none =>
      simp only [CampaignStore.execute, hRun]
      exact h
    | some run =>
      simp only [CampaignStore.execute, hRun]
      refine ⟨h.limit, fun original hOriginal => ?_⟩
      rw [← Option.some.inj hOriginal]
      exact (Table.lookup_eq_some.mp hRun).1
  | _ => exact h

theorem ReadsFrom.mono {maxRetries : Nat} {s s' : CampaignStore} {reads : RetryReads}
    (h : ReadsFrom maxRetries s reads) (hRows : ∀ run ∈ s.queuedRuns.rows, run ∈ s'.queuedRuns.rows) :
    ReadsFrom maxRetries s' reads :=
  ⟨h.limit, fun original hOriginal => hRows original (h.original original hOriginal)⟩

theorem LineageKept.execute {maxRetries : Nat} {source : QueuedRuns} {s : CampaignStore}
    {reads : ι → RetryReads} (h : LineageKept maxRetries source s reads) {proc : ι}
    {command : CampaignCommand} (hPermits : retryProtocol.permits (reads proc) command) :
    RetriesOf maxRetries source (s.execute command).2.queuedRuns ∧
      ∀ run ∈ s.queuedRuns.rows, run ∈ (s.execute command).2.queuedRuns.rows := by
  by_cases hKeeps : KeepsQueuedRuns command
  · rw [queuedRuns_execute hKeeps]
    exact ⟨h.retries, fun _ hRun => hRun⟩
  · cases command with
    | createQueuedRun run =>
      obtain ⟨original, hOriginal, limit, hLimit, hBelow, reason, scheduledFor, rfl⟩ := hPermits
      have hMem := (h.reads proc).original original hOriginal
      have hMax := (h.reads proc).limit limit hLimit
      exact ⟨h.retries.createQueuedRun hMem (by omega) reason scheduledFor,
        fun run hRun => mem_createQueuedRun hRun⟩
    | _ => exact absurd hPermits hKeeps

variable [DecidableEq ι]

theorem LineageKept.call {maxRetries : Nat} {source : QueuedRuns} {s : CampaignStore}
    {reads : ι → RetryReads} (h : LineageKept maxRetries source s reads) {proc : ι}
    {command : CampaignCommand} (hPermits : retryProtocol.permits (reads proc) command)
    (outcome : Outcome Error) :
    LineageKept maxRetries source ((campaignServices ι).perform proc command outcome s).2
      (Function.update reads proc (retryProtocol.next (reads proc) command
        ((campaignServices ι).perform proc command outcome s).1)) := by
  obtain ⟨hRetries, hRows⟩ := h.execute hPermits
  have hNext : ReadsFrom maxRetries s (retryProtocol.next (reads proc) command
      ((campaignServices ι).perform proc command outcome s).1) := by
    cases outcome with
    | reply => exact (h.reads proc).next h.config command
    | fail error applied =>
      have hSame := next_error (reads proc) command error
      exact hSame.symm ▸ h.reads proc
  have hReads : ∀ other, ReadsFrom maxRetries s (Function.update reads proc
      (retryProtocol.next (reads proc) command
        ((campaignServices ι).perform proc command outcome s).1) other) := by
    intro other
    by_cases hOther : other = proc
    · subst hOther
      rw [Function.update_self]
      exact hNext
    · rw [Function.update_of_ne hOther]
      exact h.reads other
  rw [perform_executed]
  split
  · refine ⟨?_, hRetries, fun other => (hReads other).mono hRows⟩
    rw [retryConfig_execute]
    exact h.config
  · exact ⟨h.config, h.retries, hReads⟩

/-- Whatever happens to the calls of any number of listeners, the retries of each row of the source
form one chain within the limit. -/
theorem retry_lineage_bounded (events : ι → List (Nat × RetryReason)) {maxRetries : Nat}
    {start : CampaignStore} {last : Config ι CampaignCommand.Reply Error Unit CampaignStore}
    {steps : List (Event ι Error CampaignMove)}
    (hConfig : ∀ campaign ∈ start.campaign, campaign.retryConfig.maxRetries.getD 1 = maxRetries)
    (hSource : SourceRows start.queuedRuns)
    (hFollows : (campaignServices ι).Follows (fixedRetryConfig ι)
      ⟨start, fun proc => handleRetryEvents (events proc)⟩ steps)
    (hRun : (campaignServices ι).run ⟨start, fun proc => handleRetryEvents (events proc)⟩ steps =
      some last) : BoundedLineage maxRetries last.shared.queuedRuns := by
  have hStart : LineageKept maxRetries start.queuedRuns start
      (fun _ : ι => (⟨none, none⟩ : RetryReads)) := by
    refine ⟨fun config hMem => ?_, hSource.retriesOf, fun _ => ⟨?_, ?_⟩⟩
    · obtain ⟨campaign, hCampaign, rfl⟩ := Option.map_eq_some_iff.mp hMem
      exact hConfig campaign hCampaign
    · rintro limit ⟨⟩
    · rintro original ⟨⟩
  obtain ⟨reads, hKept, -⟩ := System.ghost_invariant (P := fun _ => retryProtocol)
    (J := LineageKept maxRetries start.queuedRuns)
    (fun proc command outcome s reads h hPermits _ => h.call hPermits outcome)
    (fun move s s' reads h hDiscipline hMove => by
      obtain ⟨hConfigs, hRuns⟩ := retryConfig_environment hDiscipline hMove
      refine ⟨hConfigs ▸ h.config, hRuns ▸ h.retries, fun proc => (h.reads proc).mono ?_⟩
      rw [hRuns]
      exact fun _ hMem => hMem)
    hFollows hRun (fun proc => handleRetryEvents_obeys (events proc) _) hStart
  exact hKept.retries.boundedLineage hSource

end

theorem length_withRetrySuffixes (sourceUuid : String) (counts : List Nat) :
    sourceUuid.length + counts.length ≤ (withRetrySuffixes sourceUuid counts).length := by
  induction counts using List.reverseRecOn with
  | nil => exact Nat.le_refl _
  | append_singleton counts count ih =>
    rw [withRetrySuffixes_concat]
    simp only [String.length_append, List.length_append, List.length_singleton]
    have hStem : "_retry".length = 6 := rfl
    omega

def retriedStore : CampaignStore := .fresh ⟨1, UnixTime.one_pos⟩ (.plain .running) [dialledRun] 0

theorem sourceRows_retriedStore : SourceRows retriedStore.queuedRuns := by
  have hOnly : ∀ run ∈ retriedStore.queuedRuns.rows, run = dialledRun := by
    intro run hRun
    exact List.mem_singleton.mp hRun
  constructor
  · intro run hRun
    rw [hOnly run hRun]
    exact ⟨rfl, rfl⟩
  · exact List.nodup_singleton _
  · intro run hRun other hOther counts hCounts hSame
    rw [hOnly run hRun, hOnly other hOther] at hSame
    have hLength := length_withRetrySuffixes dialledRun.sourceUuid counts
    have hPositive := List.length_pos_iff.mpr hCounts
    rw [← hSame] at hLength
    omega

def repeatedRetries : Fin 2 → List (Nat × RetryReason)
  | 0 => [(1, .busy), (2, .busy)]
  | 1 => [(1, .busy)]

def repeatedRetrySteps : List (Event (Fin 2) Error CampaignMove) :=
  haveI := neZero_two
  List.replicate 3 (.resume 0 .reply) ++ List.replicate 4 (.resume 1 .reply) ++
    List.replicate 7 (.resume 0 .reply)

theorem retry_lineage_bounded_repeated :
    ∃ last : Config (Fin 2) CampaignCommand.Reply Error Unit CampaignStore,
      (campaignServices (Fin 2)).run
        ⟨retriedStore, fun proc => handleRetryEvents (repeatedRetries proc)⟩ repeatedRetrySteps =
        some last ∧
      last.shared.queuedRuns.rows.map QueuedRun.sourceUuid = ["csv_1_retry_1", "csv_1"] ∧
      BoundedLineage 1 last.shared.queuedRuns := by
  have hEnds : ((campaignServices (Fin 2)).run
      ⟨retriedStore, fun proc => handleRetryEvents (repeatedRetries proc)⟩ repeatedRetrySteps).any
      (fun last => decide (last.shared.queuedRuns.rows.map QueuedRun.sourceUuid =
        ["csv_1_retry_1", "csv_1"])) = true := by decide +kernel
  obtain ⟨last, hRun, hLast⟩ := (Option.any_eq_true _ _).mp hEnds
  refine ⟨last, hRun, of_decide_eq_true hLast, retry_lineage_bounded repeatedRetries ?_
    sourceRows_retriedStore ?_ hRun⟩
  · rintro campaign hCampaign
    cases hCampaign
    rfl
  · decide +kernel

end FastVoice.Campaign
