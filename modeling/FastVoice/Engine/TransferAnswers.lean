import FastVoice.Engine.TransferCall

/-! # The transfer tool answers once

A handler that returns has given the model one result, unless an await raised while it gave the first one or later:
the outermost handler then gives another one.
-/
namespace FastVoice.Engine.TransferCall
open Python Async

def Succeeded (result : Json) : Prop :=
  (result.get "status").text? = some "transfer_success" ∨ (result.get "status").text? = some "success"

def Failed (result : Json) : Prop :=
  (result.get "status").text? = some "transfer_failed" ∨ (result.get "status").text? = some "failed"

structure AnsweredOnce (line : Line) : Prop where
  once : line.results.length = 1
  noFailureAfterSuccess : line.results.Pairwise fun first later => Succeeded first → ¬Failed later
  unmuted : line.muted = true → line.ended = true
  musicFinished : line.holdMusic = false

/-- Nothing raises while a result is given, or after one. -/
def Undisturbed (line : Line) (cmd : TransferCommand) (delivered : Except TransferError (TransferReply cmd)) : Prop :=
  ∀ error, delivered = .error error → line.results = [] ∧ ∀ result, cmd ≠ .resultCallback result

abbrev judged : Protocol TransferReply TransferError (Line × Prop) := judging transferProtocol Undisturbed

def Reported : Except TransferError Unit → Line × Prop → Prop
  | .ok _, s => s.2 ∧ AnsweredOnce s.1
  | .error error, s => error.isException = true →
    s.1.holdMusic = false ∧ (s.1.results = [] ∧ s.2 ∨ s.1.results.length = 1 ∧ ¬s.2)

section Rules

variable {line : Line} {cmd : TransferCommand} {α : Type} {post : Except TransferError α → Line × Prop → Prop}

theorem undisturbed_ok (reply : TransferReply cmd) : Undisturbed line cmd (.ok reply) := nofun

theorem undisturbed_of_untold (h : line.results = []) (hCommand : ∀ result, cmd ≠ .resultCallback result)
    (delivered : Except TransferError (TransferReply cmd)) : Undisturbed line cmd delivered :=
  fun _ _ => ⟨h, hCommand⟩

theorem not_undisturbed {error : TransferError} (h : line.results ≠ [] ∨ ∃ result, cmd = .resultCallback result) :
    ¬Undisturbed line cmd (.error error) := by
  intro hUndisturbed
  obtain ⟨hUntold, hCommand⟩ := hUndisturbed error rfl
  obtain hTold | ⟨result, rfl⟩ := h
  · exact hTold hUntold
  · exact hCommand result rfl

theorem judged_call {next : TransferReply cmd → TransferMethod α} {noted : Prop}
    (hNext : ∀ reply, (next reply).Obeys judged post (line.after cmd (.ok reply), noted))
    (hRaise : ∀ error, post (.error error)
      (line.after cmd (.error error), noted ∧ Undisturbed line cmd (.error error))) :
    (call cmd >>= next).Obeys judged post (line, noted) := by
  apply Program.obeys_call_bind (P := judged) trivial
  · intro reply
    have hSame : (noted ∧ Undisturbed line cmd (.ok reply)) = noted :=
      propext (and_iff_left (undisturbed_ok reply))
    change (next reply).Obeys judged post (line.after cmd (.ok reply), noted ∧ Undisturbed line cmd (.ok reply))
    rw [hSame]
    exact hNext reply
  · exact hRaise

theorem untold_call {next : TransferReply cmd → TransferMethod α} (h : line.results = [])
    (hCommand : ∀ result, cmd ≠ .resultCallback result)
    (hNext : ∀ reply, (next reply).Obeys judged post (line.after cmd (.ok reply), True))
    (hRaise : ∀ error, post (.error error) (line.after cmd (.error error), True)) :
    (call cmd >>= next).Obeys judged post (line, True) := by
  apply judged_call hNext
  intro error
  rw [eq_true (undisturbed_of_untold h hCommand (.error error)), true_and]
  exact hRaise error

theorem untold_attempt {next : Except TransferError (TransferReply cmd) → TransferMethod α} (h : line.results = [])
    (hCommand : ∀ result, cmd ≠ .resultCallback result)
    (hNext : ∀ delivered, (next delivered).Obeys judged post (line.after cmd delivered, True)) :
    (attempt (call cmd) >>= next).Obeys judged post (line, True) := by
  refine ⟨trivial, fun delivered => ?_⟩
  have hSame : (True ∧ Undisturbed line cmd delivered) = True :=
    eq_true ⟨trivial, undisturbed_of_untold h hCommand delivered⟩
  have hObeys := hNext delivered
  rw [← hSame] at hObeys
  cases delivered with
  | ok reply => exact hObeys
  | error error => exact hObeys

end Rules

def Quiet (cmd : TransferCommand) : Prop :=
  (∀ line delivered, Line.after line cmd delivered = line) ∧ ∀ result, cmd ≠ .resultCallback result

theorem quiet_obeys {α : Type} {program : TransferMethod α} (h : program.Issues Quiet) :
    program.Obeys judged (fun _ s => s = ({}, True)) ({}, True) := by
  refine h.obeys (P := judged) (T := fun s => s = ({}, True)) ?_ rfl
  rintro _ cmd rfl ⟨hSame, hCommand⟩
  refine ⟨trivial, fun delivered => Prod.ext (hSame {} delivered) ?_⟩
  exact eq_true ⟨trivial, undisturbed_of_untold rfl hCommand delivered⟩

theorem quiet_bind {α : Type} {program : TransferMethod α} {next : α → TransferMethod Unit}
    (h : program.Issues Quiet) (hNext : ∀ value, (next value).Obeys judged Reported ({}, True)) :
    (program >>= next).Obeys judged Reported ({}, True) := by
  apply (quiet_obeys h).bind
  · rintro value _ rfl
    exact hNext value
  · rintro error _ rfl _
    exact ⟨rfl, .inl ⟨rfl, trivial⟩⟩

theorem field_quiet (value : Json) (key : String) (default : Json) : (field value key default).Issues Quiet := by
  cases value <;> trivial

theorem call_quiet {cmd : TransferCommand} (h : Quiet cmd) : (call cmd).Issues Quiet := Program.issues_call h

theorem readExternalPbxCall_quiet (run : WorkflowRun) : (readExternalPbxCall run).Issues Quiet := by
  apply (field_quiet _ _ _).bind
  intro current
  split
  · trivial
  · exact field_quiet _ _ _

theorem speakWaitMessage_quiet (tool : TransferTool) (config : Json) : (speakWaitMessage tool config).Issues Quiet := by
  apply (field_quiet _ _ _).bind
  intro source
  apply (field_quiet _ _ _).bind
  intro resolver
  split
  · exact call_quiet ⟨fun _ _ => rfl, by nofun⟩
  · trivial

theorem resolveTransfer_quiet (organizationId : Nat) : (resolveTransfer organizationId).Issues Quiet := by
  apply Program.Issues.tryCatch
  · exact (call_quiet ⟨fun _ _ => rfl, by nofun⟩).bind fun _ => trivial
  · intro error
    cases error <;> trivial

theorem speakTransferMessage_quiet (config : Json) (resolved : ResolvedTransferConfig) :
    (speakTransferMessage config resolved).Issues Quiet := by
  unfold speakTransferMessage
  split
  · exact (call_quiet ⟨fun _ _ => rfl, by nofun⟩).bind fun _ => trivial
  · exact call_quiet ⟨fun _ _ => rfl, by nofun⟩

theorem answeredOnce_of_result {line : Line} {result : Json} (h : line.results = [result])
    (hMuted : line.muted = true → line.ended = true) (hMusic : line.holdMusic = false) : AnsweredOnce line where
  once := by rw [h]; rfl
  noFailureAfterSuccess := by
    rw [h]
    exact List.pairwise_singleton _ _
  unmuted := hMuted
  musicFinished := hMusic

theorem reported_of_callback {line : Line} (hMusic : line.holdMusic = false) (hResults : line.results = [])
    (result : Json) (error : TransferError) :
    Reported (.error error) (line.after (.resultCallback result) (.error error),
      True ∧ Undisturbed line (.resultCallback result) (.error error)) := by
  intro _
  refine ⟨hMusic, .inr ⟨?_, fun h => not_undisturbed (.inr ⟨result, rfl⟩) h.2⟩⟩
  rw [Line.after, hResults]
  rfl

theorem handleTransferResult_reported {line : Line} (hMuted : line.muted = false) (hMusic : line.holdMusic = false)
    (hResults : line.results = []) (result : Json) :
    (handleTransferResult result).Obeys judged Reported (line, True) := by
  have hOne : ∀ result, line.results ++ [result] = [result] := fun result => by rw [hResults, List.nil_append]
  have hGiven : ∀ result, (give result).Obeys judged Reported (line, True) := by
    intro result
    refine ⟨trivial, fun delivered => ?_⟩
    cases delivered with
    | ok reply =>
      refine ⟨⟨trivial, undisturbed_ok reply⟩, answeredOnce_of_result (hOne result) (fun h => ?_) hMusic⟩
      exact absurd (h.symm.trans hMuted) Bool.true_eq_false.mp
    | error error => exact reported_of_callback hMusic hResults result error
  unfold handleTransferResult
  dsimp only
  split_ifs
  · apply judged_call _ (reported_of_callback hMusic hResults _)
    intro _
    apply judged_call
    · exact fun _ => ⟨trivial, answeredOnce_of_result (hOne _) (fun _ => rfl) hMusic⟩
    · intro error _
      refine ⟨hMusic, .inr ⟨congrArg List.length (hOne _), fun h => not_undisturbed (.inl ?_) h.2⟩⟩
      exact List.append_ne_nil_of_right_ne_nil _ (List.cons_ne_nil _ _)
  · exact hGiven _
  · exact hGiven _

theorem waitOnHold_obeys (tool : TransferTool) (resolved : ResolvedTransferConfig) :
    (waitOnHold tool resolved).Obeys judged (fun delivered s => match delivered with
      | .ok _ => s = ({}, True)
      | .error error => error.isException = true → s.1.holdMusic = false ∧ s.1.results = [] ∧ s.2)
      ({ muted := true }, True) := by
  apply untold_attempt rfl (by nofun)
  intro started
  cases started with
  | error error =>
    apply untold_call rfl (by nofun)
    · intro _
      split
      · exact rfl
      · rename_i hCancelled
        exact fun hException => absurd hException hCancelled
    · exact fun _ _ => ⟨rfl, rfl, trivial⟩
  | ok started =>
    apply untold_attempt rfl (by nofun)
    intro event
    apply untold_call rfl (by nofun)
    · intro _
      apply untold_call rfl (by nofun)
      · intro _
        cases event with
        | ok event => exact rfl
        | error error =>
          dsimp only
          split
          · exact rfl
          · rename_i hCancelled
            exact fun hException => absurd hException hCancelled
      · exact fun _ _ => ⟨rfl, rfl, trivial⟩
    · intro error hException
      cases error with
      | cancelledError => cases hException
      | transferResolutionError reason => exact ⟨rfl, rfl, trivial⟩
      | exception text => exact ⟨rfl, rfl, trivial⟩

theorem reported_of_untold {line : Line} (hMusic : line.holdMusic = false) (hResults : line.results = [])
    (error : TransferError) : Reported (.error error) (line, True) :=
  fun _ => ⟨hMusic, .inl ⟨hResults, trivial⟩⟩

theorem field_bind {value default : Json} {key : String} {next : Json → TransferMethod Unit} {line : Line}
    (hMusic : line.holdMusic = false) (hResults : line.results = [])
    (hNext : ∀ value, (next value).Obeys judged Reported (line, True)) :
    (field value key default >>= next).Obeys judged Reported (line, True) := by
  cases value with
  | obj entries => exact hNext _
  | _ => exact reported_of_untold hMusic hResults _

theorem afterTransferCall_reported (tool : TransferTool) (resolved : ResolvedTransferConfig)
    (context : TransferContext) (transferResult : Json) :
    (afterTransferCall tool resolved context transferResult).Obeys judged Reported ({ muted := true }, True) := by
  apply field_bind rfl rfl
  intro callSid
  apply untold_call rfl (by nofun) _ (reported_of_untold rfl rfl)
  intro _
  apply (waitOnHold_obeys tool resolved).bind
  · rintro event _ rfl
    cases event with
    | some event => exact handleTransferResult_reported rfl rfl rfl _
    | none => exact handleTransferResult_reported rfl rfl rfl _
  · rintro error s hHeld hException
    obtain ⟨hMusic, hResults, hNoted⟩ := hHeld hException
    exact ⟨hMusic, .inl ⟨hResults, hNoted⟩⟩

theorem transferByProvider_reported (tool : TransferTool) (run : WorkflowRun) (resolved : ResolvedTransferConfig) :
    (transferByProvider tool run resolved).Obeys judged Reported ({}, True) := by
  apply untold_call rfl (by nofun) _ (reported_of_untold rfl rfl)
  intro supported
  split
  · exact handleTransferResult_reported rfl rfl rfl _
  apply field_bind rfl rfl
  intro originalCallSid
  apply untold_call rfl (by nofun) _ (reported_of_untold rfl rfl)
  intro _
  apply untold_call rfl (by nofun) _ (reported_of_untold rfl rfl)
  intro _
  apply untold_call rfl (by nofun) _ (reported_of_untold rfl rfl)
  intro _
  apply untold_attempt rfl (by nofun)
  intro transferResult
  cases transferResult with
  | ok transferResult => exact afterTransferCall_reported tool resolved _ transferResult
  | error error =>
    dsimp only
    split
    · apply untold_call rfl (by nofun) _ (reported_of_untold rfl rfl)
      intro _
      apply untold_call rfl (by nofun) _ (reported_of_untold rfl rfl)
      exact fun _ => handleTransferResult_reported rfl rfl rfl _
    · exact reported_of_untold rfl rfl error

theorem afterExternalTransfer_reported (tool : TransferTool) (run : WorkflowRun) (resolved : ResolvedTransferConfig)
    (externalResult : Json) :
    (afterExternalTransfer tool run resolved externalResult).Obeys judged Reported ({}, True) := by
  have hHandOff : ∀ externalResult : Json, (do
      let status ← field externalResult "status" .null
      if status.text? = some "success" then do
        let _ : Unit ← call (.updateWorkflowRun (.obj [("external_pbx_transferred", .bool true)]))
        give externalResult
        let _ : Unit ← call .sleep
        let _ : Bool ← call (.endCallWithReason .endCallToolReason true)
        return ()
      else
        handleTransferResult (externalResult.set "action" (.str "transfer_failed"))
      : TransferMethod Unit).Obeys judged Reported ({}, True) := by
    intro externalResult
    apply field_bind rfl rfl
    intro status
    split
    · apply untold_call rfl (by nofun) _ (reported_of_untold rfl rfl)
      intro _
      apply judged_call _ (reported_of_callback rfl rfl _)
      intro _
      apply judged_call
      · intro _
        apply judged_call
        · exact fun _ => ⟨trivial, answeredOnce_of_result rfl (fun _ => rfl) rfl⟩
        · exact fun error _ => ⟨rfl, .inr ⟨rfl, fun h => not_undisturbed (.inl (List.cons_ne_nil _ _)) h.2⟩⟩
      · exact fun error _ => ⟨rfl, .inr ⟨rfl, fun h => not_undisturbed (.inl (List.cons_ne_nil _ _)) h.2⟩⟩
    · exact handleTransferResult_reported rfl rfl rfl _
  cases externalResult with
  | null => exact transferByProvider_reported tool run resolved
  | _ => exact hHandOff _

theorem transferByExternalPbx_reported (tool : TransferTool) (run : WorkflowRun) (organizationId : Nat)
    (externalPbxCall : Json) (resolved : ResolvedTransferConfig) (messageQueued : Bool) :
    (transferByExternalPbx tool run organizationId externalPbxCall resolved messageQueued).Obeys judged Reported
      ({}, True) := by
  apply untold_call rfl (by nofun) _ (reported_of_untold rfl rfl)
  intro fieldUpdates
  have hAsk : (do
      let externalResult : Json ←
        call (.transferExternalPbxCall externalPbxCall resolved.destination fieldUpdates)
      afterExternalTransfer tool run resolved externalResult : TransferMethod Unit).Obeys judged Reported
      ({}, True) := by
    apply untold_call rfl (by nofun) _ (reported_of_untold rfl rfl)
    exact fun externalResult => afterExternalTransfer_reported tool run resolved externalResult
  cases messageQueued with
  | false => exact hAsk
  | true =>
    apply untold_call rfl (by nofun) _ (reported_of_untold rfl rfl)
    exact fun _ => hAsk

theorem transferResolved_reported (tool : TransferTool) (config : Json) (run : WorkflowRun) (organizationId : Nat)
    (externalPbxCall : Json) (resolved : ResolvedTransferConfig) :
    (transferResolved tool config run organizationId externalPbxCall resolved).Obeys judged Reported ({}, True) := by
  unfold transferResolved
  split
  · exact handleTransferResult_reported rfl rfl rfl _
  apply untold_call rfl (by nofun) _ (reported_of_untold rfl rfl)
  intro _
  apply quiet_bind (speakTransferMessage_quiet config resolved)
  intro messageQueued
  split
  · exact transferByExternalPbx_reported tool run organizationId externalPbxCall resolved messageQueued
  · exact transferByProvider_reported tool run resolved

theorem resolving_reported (tool : TransferTool) (config : Json) (organizationId : Nat)
    {next : Except String ResolvedTransferConfig → TransferMethod Unit}
    (hNext : ∀ resolution, (next resolution).Obeys judged Reported ({}, True)) :
    (do speakWaitMessage tool config let resolution ← resolveTransfer organizationId
        next resolution : TransferMethod Unit).Obeys judged Reported ({}, True) := by
  apply quiet_bind (speakWaitMessage_quiet tool config)
  intro _
  exact quiet_bind (resolveTransfer_quiet organizationId) hNext

theorem transferInOrganization_reported (tool : TransferTool) (config : Json) (run : WorkflowRun)
    (organizationId : Nat) :
    (transferInOrganization tool config run organizationId).Obeys judged Reported ({}, True) := by
  apply quiet_bind (readExternalPbxCall_quiet run)
  intro externalPbxCall
  apply field_bind rfl rfl
  intro source
  dsimp only
  split
  · apply untold_call rfl (fun _ h => by cases h) _ (reported_of_untold rfl rfl)
    intro _
    refine resolving_reported tool config organizationId fun resolution => ?_
    cases resolution with
    | error reason => exact handleTransferResult_reported rfl rfl rfl _
    | ok resolved => exact transferResolved_reported tool config run organizationId externalPbxCall resolved
  · refine resolving_reported tool config organizationId fun resolution => ?_
    cases resolution with
    | error reason => exact handleTransferResult_reported rfl rfl rfl _
    | ok resolved => exact transferResolved_reported tool config run organizationId externalPbxCall resolved

theorem transferRun_reported (tool : TransferTool) (config : Json) (run : WorkflowRun) :
    (transferRun tool config run).Obeys judged Reported ({}, True) := by
  unfold transferRun
  split
  · exact handleTransferResult_reported rfl rfl rfl _
  split
  · exact handleTransferResult_reported rfl rfl rfl _
  apply untold_call rfl (by nofun) _ (reported_of_untold rfl rfl)
  intro organizationId
  split
  · exact handleTransferResult_reported rfl rfl rfl _
  · exact transferInOrganization_reported tool config run _

theorem transfer_reported (tool : TransferTool) : (transfer tool).Obeys judged Reported ({}, True) := by
  apply field_bind rfl rfl
  intro config
  apply field_bind rfl rfl
  intro _
  apply untold_call rfl (by nofun) _ (reported_of_untold rfl rfl)
  intro run
  split
  · exact reported_of_untold rfl rfl _
  · exact transferRun_reported tool config _

theorem handleTransferResult_failed (reason message : String) :
    handleTransferResult (failed reason message) = give (transferFailed (failed reason message)) := rfl

theorem transferCallHandler_answers (tool : TransferTool) : (transferCallHandler tool).Obeys judged
    (fun delivered s => delivered = .ok () → (AnsweredOnce s.1 ↔ s.2)) ({}, True) := by
  apply (transfer_reported tool).tryCatch
  · exact fun _ _ hReported _ => iff_of_true hReported.2 hReported.1
  rintro error ⟨line, noted⟩ hReported
  split
  · rename_i hException
    obtain ⟨hMusic, ⟨hResults, hNoted⟩ | ⟨hResults, hNoted⟩⟩ := hReported hException
    · obtain rfl : noted = True := eq_true hNoted
      apply untold_call hResults (by nofun)
      · intro _
        have hUnmuted : ({ line with muted := false } : Line).muted = false := rfl
        apply (handleTransferResult_reported hUnmuted hMusic hResults _).weaken
        rintro delivered s hAnswered rfl
        exact iff_of_true hAnswered.2 hAnswered.1
      · exact nofun
    · apply judged_call
      · intro _
        rw [handleTransferResult_failed]
        refine ⟨trivial, fun delivered => ?_⟩
        cases delivered with
        | ok reply =>
          intro _
          refine iff_of_false (fun hOnce => ?_) fun h => hNoted h.1
          have hLength := hOnce.once
          change (line.results ++ [_]).length = 1 at hLength
          rw [List.length_append, hResults] at hLength
          cases hLength
        | error error => exact nofun
      · exact nofun
  · exact nofun

/-- A handler that returns has given one result, and left the line as it should, if and only if nothing raised while
it gave its first result or afterwards. -/
theorem answers_once_iff {tool : TransferTool} {deliver : Deliveries TransferReply TransferError}
    (hReturns : (runHandler tool deliver).1 = .ok ()) : AnsweredOnce (runHandler tool deliver).2 ↔
      (transferCallHandler tool).Follows transferProtocol deliver Undisturbed 0 {} := by
  obtain ⟨noted, hNoted, hAnswers⟩ := (transferCallHandler_answers tool).runFrom deliver 0
  exact (hAnswers hReturns).trans (hNoted.trans (iff_of_eq (true_and _)))

/-! An answered transfer. -/

def staticTransfer : TransferTool :=
  ⟨.obj [("config", .obj [("destination", .str "+15550001")])], "tool", "transfer", fun _ => "CA-customer"⟩

def answeredBy (endCall : Except TransferError Bool) : Deliveries TransferReply TransferError
  | _, .getWorkflowRunById => .ok (some ⟨"twilio", .null, .obj [("call_id", .str "CA-customer")]⟩)
  | _, .getOrganizationId => .ok (some 1)
  | _, .flushVariableExtraction => .ok ()
  | _, .queueSpeech _ => .ok ()
  | _, .resolveTransferConfig _ => .ok ⟨"+15550001", 30, none⟩
  | _, .getTelephonyProviderForRun _ => .ok ()
  | _, .playConfigMessage _ => .ok false
  | _, .resolveExternalPbxFieldMappings _ => .ok .null
  | _, .waitForSpeechPlayback => .ok ()
  | _, .transferExternalPbxCall _ _ _ => .ok .null
  | _, .updateWorkflowRun _ => .ok ()
  | _, .sleep => .ok ()
  | _, .supportsTransfers => .ok true
  | _, .getCallTransferManager => .ok ()
  | _, .storeTransferContext _ => .ok ()
  | _, .setMutePipeline _ => .ok ()
  | _, .transferCall _ _ _ _ => .ok (.obj [("call_sid", .str "CA-destination")])
  | _, .removeTransferContext _ => .ok ()
  | _, .startHoldMusic => .ok ()
  | _, .waitForTransferCompletion _ _ => .ok (some
    ⟨"destination_answered", .str "CA-customer", .str "CA-destination", .str "transfer-CA-customer", .null,
      .str "success", .str "destination_answered", .null⟩)
  | _, .stopHoldMusic => .ok ()
  | _, .resultCallback _ => .ok ()
  | _, .endCallWithReason _ _ => endCall

theorem staticTransfer_returns : (runHandler staticTransfer (answeredBy (.ok false))).1 = .ok () := rfl

theorem answeredBy_undisturbed (program : TransferMethod Unit) (n : Nat) (line : Line) :
    program.Follows transferProtocol (answeredBy (.ok false)) Undisturbed n line := by
  induction program generalizing n line with
  | ret value => trivial
  | raise error => trivial
  | await cmd resume ih =>
    refine ⟨fun error hError => ?_, ih _ _ _⟩
    cases cmd <;> cases hError

theorem answered_once : AnsweredOnce (runHandler staticTransfer (answeredBy (.ok false))).2 :=
  (answers_once_iff staticTransfer_returns).mpr (answeredBy_undisturbed _ _ _)

theorem failure_after_success :
    (runHandler staticTransfer (answeredBy (.error (.exception "connection lost")))).1 = .ok () ∧
    (runHandler staticTransfer (answeredBy (.error (.exception "connection lost")))).2.results.map
      (fun result => (result.get "status").text?) = [some "transfer_success", some "transfer_failed"] ∧
    ¬AnsweredOnce (runHandler staticTransfer (answeredBy (.error (.exception "connection lost")))).2 :=
  ⟨rfl, rfl, fun h => absurd h.once (by decide)⟩

end FastVoice.Engine.TransferCall
