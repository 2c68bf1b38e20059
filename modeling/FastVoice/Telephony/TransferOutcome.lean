import FastVoice.Telephony.TransferEvents

/-! # The outcome of a transfer

The tool subscribes only when the provider has answered and the context has been stored again. The first
event is read exactly if it is published after that.
-/
namespace FastVoice.Telephony
open Async

namespace TransferStore

def Evolves (s s' : TransferStore) : Prop :=
  s'.deadline = s.deadline ∧ s.clock.val ≤ s'.clock.val ∧
    ∃ more : List Publication, s'.published = s.published ++ more ∧
      s'.subscription = s.subscription.map (· ++ more.map Publication.event) ∧
      ∀ publication ∈ more, publication.subscribed = s.subscription.isSome ∧
        (publication.inTime = true → ∀ deadline ∈ s.deadline, s.clock.val < deadline.val)

theorem Evolves.refl (s : TransferStore) : s.Evolves s := by
  refine ⟨rfl, le_rfl, [], (List.append_nil _).symm, ?_, List.forall_mem_nil _⟩
  cases s.subscription <;> simp

theorem Evolves.trans {s s' s'' : TransferStore} (h : s.Evolves s') (h' : s'.Evolves s'') :
    s.Evolves s'' := by
  obtain ⟨hDeadline, hClock, more, hPublished, hQueue, hMore⟩ := h
  obtain ⟨hDeadline', hClock', more', hPublished', hQueue', hMore'⟩ := h'
  refine ⟨hDeadline'.trans hDeadline, hClock.trans hClock', more ++ more', ?_, ?_, ?_⟩
  · rw [hPublished', hPublished, List.append_assoc]
  · rw [hQueue', hQueue]
    cases s.subscription <;> simp
  · intro publication hPublication
    obtain hEarlier | hLater := List.mem_append.mp hPublication
    · exact hMore publication hEarlier
    · obtain ⟨hSubscribed, hInTime⟩ := hMore' publication hLater
      constructor
      · rw [hSubscribed, hQueue, Option.isSome_map]
      · intro hYes deadline hDue
        rw [← hDeadline] at hDue
        exact hClock.trans_lt (hInTime hYes deadline hDue)

theorem evolves_environment {move : TransferMove} {s s' : TransferStore}
    (h : environment move s = some s') : s.Evolves s' := by
  cases move with
  | tick now =>
    rw [environment] at h
    split at h
    · rename_i hLater
      cases h
      refine ⟨rfl, hLater, [], (List.append_nil _).symm, ?_, List.forall_mem_nil _⟩
      cases s.subscription <;> simp
    · cases h
  | publish event =>
    rw [environment] at h
    split at h
    · cases h
      refine ⟨rfl, le_rfl, _, rfl, rfl, ?_⟩
      intro publication hPublication
      obtain rfl := List.mem_singleton.mp hPublication
      refine ⟨rfl, fun hYes deadline hDue => ?_⟩
      rw [Option.mem_def] at hDue
      simpa [hDue] using hYes
    · cases h

structure Deaf (s : TransferStore) : Prop where
  subscription : s.subscription = none
  unheard : ∀ publication ∈ s.published, publication.subscribed = false

theorem Deaf.evolves {s s' : TransferStore} (h : s.Deaf) (hEvolves : s.Evolves s') : s'.Deaf := by
  obtain ⟨-, -, more, hPublished, hQueue, hMore⟩ := hEvolves
  constructor
  · rw [hQueue, h.subscription]
    rfl
  · intro publication hPublication
    rw [hPublished] at hPublication
    obtain hEarlier | hLater := List.mem_append.mp hPublication
    · exact h.unheard publication hEarlier
    · rw [(hMore publication hLater).1, h.subscription]
      rfl

def Listening (s : TransferStore) : Prop :=
  ∃ before heard, s.published = before ++ heard ∧
    s.subscription = some (heard.map Publication.event) ∧
    (∀ publication ∈ before, publication.subscribed = false) ∧
    ∀ publication ∈ heard, publication.subscribed = true

theorem Listening.evolves {s s' : TransferStore} (h : s.Listening) (hEvolves : s.Evolves s') :
    s'.Listening := by
  obtain ⟨before, heard, hSplit, hQueue, hBefore, hHeard⟩ := h
  obtain ⟨-, -, more, hPublished, hQueue', hMore⟩ := hEvolves
  refine ⟨before, heard ++ more, ?_, ?_, hBefore, ?_⟩
  · rw [hPublished, hSplit, List.append_assoc]
  · rw [hQueue', hQueue, List.map_append]
    rfl
  · intro publication hPublication
    obtain hEarlier | hLater := List.mem_append.mp hPublication
    · exact hHeard publication hEarlier
    · rw [(hMore publication hLater).1, hQueue]
      rfl

def Awaited (event : Option TransferEvent) (s : TransferStore) : Prop :=
  ∃ before after, s.published = before ++ after ∧
    (∀ publication ∈ before, publication.subscribed = false) ∧
    match event with
    | some event => ∃ publication, after.head? = some publication ∧
        publication.subscribed = true ∧ publication.event = event
    | none => (∀ publication ∈ after, publication.inTime = false) ∧
        ∃ deadline, s.deadline = some deadline ∧ deadline.val ≤ s.clock.val

theorem Awaited.evolves {event : Option TransferEvent} {s s' : TransferStore} (h : s.Awaited event)
    (hEvolves : s.Evolves s') : s'.Awaited event := by
  obtain ⟨before, after, hSplit, hBefore, hAfter⟩ := h
  obtain ⟨hDeadline, hClock, more, hPublished, -, hMore⟩ := hEvolves
  refine ⟨before, after ++ more, ?_, hBefore, ?_⟩
  · rw [hPublished, hSplit, List.append_assoc]
  · cases event with
    | some event =>
      obtain ⟨publication, hHead, hRead⟩ := hAfter
      refine ⟨publication, ?_, hRead⟩
      rw [List.head?_append, hHead]
      rfl
    | none =>
      obtain ⟨hLate, deadline, hDue, hPassed⟩ := hAfter
      refine ⟨fun publication hPublication => ?_, deadline, hDeadline.trans hDue,
        hPassed.trans hClock⟩
      obtain hEarlier | hLater := List.mem_append.mp hPublication
      · exact hLate publication hEarlier
      · rw [Bool.eq_false_iff]
        intro hYes
        exact absurd ((hMore publication hLater).2 hYes deadline hDue) (not_lt.mpr hPassed)

theorem awaited_listen {s : TransferStore} (h : s.Listening) {deadline : UnixTime}
    (hDeadline : s.deadline = some deadline) : s.listen.2.Awaited s.listen.1 := by
  obtain ⟨before, heard, hSplit, hQueue, hBefore, hHeard⟩ := h
  cases heard with
  | nil =>
    have hListen : s.listen = (none, { s with clock :=
        if s.clock.val ≤ deadline.val then deadline else s.clock }) := by
      rw [listen, hQueue, hDeadline]
      rfl
    rw [hListen]
    refine ⟨before, [], hSplit, hBefore, List.forall_mem_nil _, deadline, hDeadline, ?_⟩
    dsimp only
    split
    · exact le_rfl
    · rename_i hPassed
      exact (not_le.mp hPassed).le
  | cons publication heard =>
    have hListen : s.listen = (some publication.event,
        { s with subscription := some (heard.map Publication.event) }) := by
      rw [listen, hQueue]
      rfl
    rw [hListen]
    exact ⟨before, publication :: heard, hSplit, hBefore, publication, rfl,
      hHeard publication List.mem_cons_self, rfl⟩

end TransferStore

open TransferStore

section Tool

variable (callSid : Option String)

def transferTool : Party Unit TransferCommand.Reply Error TransferStore TransferMove where
  system := transferServices callSid
  proc := ()
  allows _ outcome := outcome = .reply
  relies := Evolves
  refl := Evolves.refl
  trans := Evolves.trans

variable {callSid} {α : Type} {s : TransferStore}

theorem ensures_reply {command : TransferCommand} {next : command.Reply → TransferMethod α}
    {post : Except Error α → TransferStore → Prop}
    (h : ∀ s', s.Evolves s' → (next (s'.execute callSid command).1).Ensures (transferTool callSid) post
      (s'.execute callSid command).2) :
    (Program.call command >>= next).Ensures (transferTool callSid) post s := by
  rw [Program.call_bind]
  rintro s' hEvolves _ rfl
  exact h s' hEvolves

theorem ensures_orElse_reply {command : TransferCommand} {fallback : command.Reply}
    {next : command.Reply → TransferMethod α} {post : Except Error α → TransferStore → Prop}
    (h : ∀ s', s.Evolves s' → (next (s'.execute callSid command).1).Ensures (transferTool callSid) post
      (s'.execute callSid command).2) :
    (orElse (Program.call command) fallback >>= next).Ensures (transferTool callSid) post s := by
  rintro s' hEvolves _ rfl
  exact h s' hEvolves

theorem waitForMessage_ensures (timeoutSeconds : Nat) (h : s.Deaf) :
    (waitForMessage timeoutSeconds).Ensures (transferTool callSid)
      (fun result s => ∃ event, result = .ok event ∧ s.Awaited event) s := by
  apply ensures_reply
  intro s₁ hEvolves₁
  have hListening : (s₁.execute callSid .subscribe).2.Listening :=
    ⟨s₁.published, [], (List.append_nil _).symm, rfl, (h.evolves hEvolves₁).unheard,
      List.forall_mem_nil _⟩
  apply ensures_reply
  intro s₂ hEvolves₂
  have hHeard : s₂.Listening := hListening.evolves hEvolves₂
  have hTimed : (s₂.execute callSid (.startTimer timeoutSeconds)).2.Listening := hHeard
  apply Program.ensures_call
  rintro s₃ hEvolves₃ _ rfl
  exact ⟨_, rfl, awaited_listen (hTimed.evolves hEvolves₃) hEvolves₃.1⟩

theorem waitForTransferCompletion_ensures (timeoutSeconds : Nat) (h : s.Deaf) :
    (waitForTransferCompletion timeoutSeconds).Ensures (transferTool callSid)
      (fun result s => ∃ event, result = .ok event ∧ s.Awaited event) s := by
  have hWait : (orElse (waitForMessage timeoutSeconds) none).Ensures (transferTool callSid)
      (fun result s => ∃ event, result = .ok event ∧ s.Awaited event) s := by
    apply (waitForMessage_ensures timeoutSeconds h).tryCatch
    · exact fun _ _ hAwaited => hAwaited
    · rintro error _ ⟨event, hEvent, -⟩
      cases hEvent
  apply hWait.bind
  · rintro event s' ⟨_, ⟨⟩, hAwaited⟩
    apply ensures_orElse_reply
    intro s'' hEvolves
    have hStill : s''.Awaited event := hAwaited.evolves hEvolves
    exact ⟨event, rfl, hStill⟩
  · rintro error _ ⟨event, hEvent, -⟩
    cases hEvent

def outcomeOf : Option TransferEvent → TransferOutcome
  | some event => .received event
  | none => ⟨none, handleTransferResult timeoutResult⟩

theorem transferCallHandler_ensures (str : Error → String) (context : TransferContext)
    (timeoutSeconds : Nat) (h : s.Deaf) :
    (transferCallHandler str context timeoutSeconds).Ensures (transferTool callSid)
      (fun result s => ∃ event, result = .ok (outcomeOf event) ∧ s.Awaited event) s := by
  apply ensures_orElse_reply
  intro s₁ hEvolves₁
  have hStored : (s₁.execute callSid (.storeTransferContext context)).2.Deaf := h.evolves hEvolves₁
  have hCalled : (transferCall str).Ensures (transferTool callSid)
      (fun result s => result = .ok (.ok callSid) ∧ s.Deaf)
      (s₁.execute callSid (.storeTransferContext context)).2 := by
    rintro s₂ hEvolves₂ _ rfl
    rintro s₃ hEvolves₃ _ rfl
    have hIssued : (s₂.execute callSid .transferCall).2.Deaf := hStored.evolves hEvolves₂
    exact ⟨rfl, hIssued.evolves hEvolves₃⟩
  apply hCalled.bind
  · rintro _ s₄ ⟨hResult, hDeaf⟩
    cases hResult
    apply ensures_orElse_reply
    intro s₅ hEvolves₅
    have hStoredAgain : (s₅.execute callSid (.storeTransferContext { context with callSid })).2.Deaf :=
      hDeaf.evolves hEvolves₅
    apply (waitForTransferCompletion_ensures timeoutSeconds hStoredAgain).bind
    · rintro event s₆ ⟨_, ⟨⟩, hAwaited⟩
      cases event with
      | none => exact ⟨none, rfl, hAwaited⟩
      | some event => exact ⟨some event, rfl, hAwaited⟩
    · rintro error _ ⟨event, hEvent, -⟩
      cases hEvent
  · rintro error _ ⟨hEvent, -⟩
    cases hEvent

theorem awaited_first_iff {event : Option TransferEvent} {first : Publication}
    {later : List Publication} (h : s.Awaited event) (hPublished : s.published = first :: later)
    (hInTime : first.inTime = true)
    (hOther : first.subscribed = false → ∀ publication ∈ later, publication.event ≠ first.event) :
    outcomeOf event = .received first.event ↔ first.subscribed = true := by
  obtain ⟨before, after, hSplit, hBefore, hAfter⟩ := h
  rw [hPublished] at hSplit
  cases before with
  | nil =>
    rw [List.nil_append] at hSplit
    subst hSplit
    cases event with
    | none =>
      have hLate := hAfter.1 first List.mem_cons_self
      rw [hInTime] at hLate
      cases hLate
    | some event =>
      obtain ⟨_, ⟨⟩, hSubscribed, rfl⟩ := hAfter
      exact iff_of_true rfl hSubscribed
  | cons _ before =>
    obtain ⟨rfl, rfl⟩ := List.cons.inj hSplit
    have hUnheard := hBefore first List.mem_cons_self
    apply iff_of_false
    · intro hReceived
      cases event with
      | none => cases congrArg TransferOutcome.transferEvent hReceived
      | some event =>
        obtain ⟨publication, hHead, -, rfl⟩ := hAfter
        have hSame : publication.event = first.event :=
          Option.some.inj (congrArg TransferOutcome.transferEvent hReceived)
        exact hOther hUnheard publication
          (List.mem_append_right _ (List.mem_of_head? hHead)) hSame
    · rw [hUnheard]
      exact Bool.false_ne_true

end Tool

def TransferStore.fresh (clock : UnixTime) : TransferStore := ⟨clock, none, false, none, none, []⟩

def transferStart (str : Error → String) (context : TransferContext) (timeoutSeconds : Nat)
    (clock : UnixTime) : Config Unit TransferCommand.Reply Error TransferOutcome TransferStore where
  shared := .fresh clock
  procs _ := transferCallHandler str context timeoutSeconds

/-- The tool reports the first event, published in time, exactly if it was published while the tool was
subscribed, unless the same event is published once more. -/
theorem transfer_reported_iff_subscribed (callSid : Option String) (str : Error → String)
    (context : TransferContext) (timeoutSeconds : Nat) (clock : UnixTime)
    {events : List (Event Unit Error TransferMove)}
    {last : Config Unit TransferCommand.Reply Error TransferOutcome TransferStore}
    (hFollows : (transferServices callSid).Follows .reliable
      (transferStart str context timeoutSeconds clock) events)
    (hRun : (transferServices callSid).run (transferStart str context timeoutSeconds clock) events =
      some last)
    {result : Except Error TransferOutcome} (hResult : (last.procs ()).result? = some result)
    {first : Publication} {later : List Publication}
    (hPublished : last.shared.published = first :: later) (hInTime : first.inTime = true)
    (hOther : first.subscribed = false → ∀ publication ∈ later, publication.event ≠ first.event) :
    result = .ok (.received first.event) ↔ first.subscribed = true := by
  have hDeaf : (TransferStore.fresh clock).Deaf := ⟨rfl, List.forall_mem_nil _⟩
  have hTool : (transferServices callSid).Follows (transferTool callSid).discipline
      (transferStart str context timeoutSeconds clock) events := by
    apply hFollows.mono
    · rintro ⟨⟩ command outcome s hReply
      exact (transferTool callSid).discipline_own.mpr hReply
    · intro move s _ s' hMove
      exact evolves_environment hMove
  have hEnds : ∃ event, result = .ok (outcomeOf event) ∧ last.shared.Awaited event := by
    apply Party.run_ensures (P := transferTool callSid) _ hTool hRun
      (transferCallHandler_ensures str context timeoutSeconds hDeaf) hResult
    rintro _ s s' ⟨event, rfl, hAwaited⟩ hEvolves
    exact ⟨event, rfl, hAwaited.evolves hEvolves⟩
  obtain ⟨event, rfl, hAwaited⟩ := hEnds
  rw [← awaited_first_iff hAwaited hPublished hInTime hOther]
  exact ⟨Except.ok.inj, congrArg Except.ok⟩

def salesTransfer : TransferContext where
  transferId := "3f1c"
  callSid := none
  targetNumber := "+15550100"
  originalCallSid := "1731.7"
  conferenceName := "transfer-1731.7"

def busyDestination : TransferEvent :=
  .failed (some salesTransfer) "3f1c" "1731.9" "The person declined the call or their line is busy."

def toolSteps (count : Nat) : List (Event Unit Error TransferMove) :=
  List.replicate count (.resume () .reply)

theorem busy_reported : ∃ last,
    (transferServices (some "1731.9")).run
      (transferStart (fun _ => "") salesTransfer 30 ⟨1, UnixTime.one_pos⟩)
      (toolSteps 6 ++ [.environment (.publish busyDestination)] ++ toolSteps 2) = some last ∧
    (last.procs ()).result? = some (.ok (.received busyDestination)) := by
  have hEnds : ((transferServices (some "1731.9")).run
      (transferStart (fun _ => "") salesTransfer 30 ⟨1, UnixTime.one_pos⟩)
      (toolSteps 6 ++ [.environment (.publish busyDestination)] ++ toolSteps 2)).any (fun last =>
        decide ((last.procs ()).result?.isSome = true ∧
          last.shared.published.map (fun publication =>
            (publication.event, publication.subscribed, publication.inTime)) =
              [(busyDestination, true, true)])) = true := by
    decide +kernel
  obtain ⟨last, hLast, hPublished⟩ := (Option.any_eq_true _ _).mp hEnds
  obtain ⟨hSome, hPublished⟩ := of_decide_eq_true hPublished
  obtain ⟨result, hResult⟩ := Option.isSome_iff_exists.mp hSome
  obtain ⟨publication, hOnly, hFound⟩ := List.map_eq_singleton_iff.mp hPublished
  simp only [Prod.mk.injEq] at hFound
  obtain ⟨hEvent, hSubscribed, hInTime⟩ := hFound
  have hReported := (transfer_reported_iff_subscribed _ _ _ _ _ (by decide +kernel) hLast hResult
    hOnly hInTime fun _ => List.forall_mem_nil _).mpr hSubscribed
  rw [hEvent] at hReported
  exact ⟨last, hLast, hResult.trans (congrArg some hReported)⟩

theorem busy_missed : ¬ ∀ (callSid : Option String) (str : Error → String) (context : TransferContext)
    (timeoutSeconds : Nat) (clock : UnixTime) (events : List (Event Unit Error TransferMove))
    (last : Config Unit TransferCommand.Reply Error TransferOutcome TransferStore)
    (result : Except Error TransferOutcome) (first : Publication) (later : List Publication),
    (transferServices callSid).Follows .reliable
      (transferStart str context timeoutSeconds clock) events →
    (transferServices callSid).run (transferStart str context timeoutSeconds clock) events =
      some last →
    (last.procs ()).result? = some result → last.shared.published = first :: later →
    first.inTime = true → result = .ok (.received first.event) := by
  intro h
  have hEnds : ((transferServices (some "1731.9")).run
      (transferStart (fun _ => "") salesTransfer 30 ⟨1, UnixTime.one_pos⟩)
      (toolSteps 3 ++ [.environment (.publish busyDestination)] ++ toolSteps 5)).any (fun last =>
        decide ((last.procs ()).result? = some (.ok ⟨none, handleTransferResult timeoutResult⟩) ∧
          last.shared.published.map (fun publication =>
            (publication.event, publication.inTime)) = [(busyDestination, true)])) = true := by
    decide +kernel
  obtain ⟨last, hLast, hMissed⟩ := (Option.any_eq_true _ _).mp hEnds
  obtain ⟨hResult, hPublished⟩ := of_decide_eq_true hMissed
  obtain ⟨publication, hOnly, hFound⟩ := List.map_eq_singleton_iff.mp hPublished
  have hReported := h _ _ _ _ _ _ last _ publication [] (by decide +kernel) hLast hResult hOnly
    (congrArg Prod.snd hFound)
  cases hReported

end FastVoice.Telephony
