import FastVoice.CallStart.SlotStages

/-! # Every request obeys its protocol

An exception that a handler catches finds the slot as the release that follows expects it.
-/
namespace FastVoice.CallStart
open Async CallConcurrency

section Handlers

variable {guarded : Bool} {α β : Type} {stage : SlotStage}

structure Caught (guarded : Bool) (cleanup answer : StartMethod Unit) (error : Error) (stage : SlotStage) : Prop where
  cleans : error.isException = true → (∀ workflowRunId, error ≠ .workflowRunSlotAlreadyBoundError workflowRunId) →
    Ends guarded cleanup stage
  answers : ∀ workflowRunId, error = .workflowRunSlotAlreadyBoundError workflowRunId → Ends guarded answer stage
  escapes : error.isException = false → stage.Ended

variable {cleanup answer : StartMethod Unit} {error : Error}

theorem caught_void (cleanup answer : StartMethod Unit) (error : Error) :
    Caught guarded cleanup answer error .void where
  cleans _ _ := ends_void cleanup
  answers _ _ := ends_void answer
  escapes _ := trivial

theorem caught_leaked (h : error.isException = false) (organizationId : Nat) (slotId : SlotId) :
    Caught guarded cleanup answer error (.leaked organizationId slotId) where
  cleans hException := by
    rw [h] at hException
    cases hException
  answers := by
    rintro workflowRunId rfl
    cases h
  escapes _ := trivial

theorem caught_held (hForeign : foreignError error = error) (hException : error.isException = true)
    (h : Ends guarded cleanup stage) : Caught guarded cleanup answer error stage where
  cleans _ _ := h
  answers := by
    rintro workflowRunId rfl
    cases hForeign
  escapes hCancelled := by
    rw [hException] at hCancelled
    cases hCancelled

theorem onException_obeying {program : StartMethod α} {S : α → SlotStage → Prop}
    (h : Obeying guarded program S (Caught guarded cleanup cleanup) stage) :
    Obeying guarded (onException program cleanup) S (fun _ => SlotStage.Ended) stage := by
  refine h.tryCatch (fun _ _ hValue => hValue) fun error stage hError => ?_
  have hCaught : Caught guarded cleanup cleanup error stage := hError
  cases error with
  | cancelledError => exact hCaught.escapes rfl
  | workflowRunSlotAlreadyBoundError workflowRunId =>
    exact obeying_bind (hCaught.answers workflowRunId rfl) fun _ _ hEnded => hEnded
  | _ => exact obeying_bind (hCaught.cleans rfl nofun) fun _ _ hEnded => hEnded

theorem Caught.ended (h : Caught guarded (.ret ()) (.ret ()) error stage) : stage.Ended := by
  cases error with
  | cancelledError => exact h.escapes rfl
  | workflowRunSlotAlreadyBoundError workflowRunId => exact h.answers workflowRunId rfl
  | _ => exact h.cleans rfl nofun

theorem obeying_tryCatch {program : StartMethod α} {handler : Error → StartMethod α} {S : α → SlotStage → Prop}
    (E : Error → SlotStage → Prop) {F : Error → SlotStage → Prop} (h : Obeying guarded program S E stage)
    (hHandler : ∀ error stage, E error stage → Obeying guarded (handler error) S F stage) :
    Obeying guarded (program.tryCatch handler) S F stage :=
  Program.Obeys.tryCatch h (fun _ _ hValue => hValue) hHandler

theorem caught_call {command : StartCommand} {S : command.Reply → SlotStage → Prop}
    {organizationId : Nat} {slotId : SlotId} {binding : Binding}
    (hCommand : ∀ redisCommand, command ≠ .redis redisCommand)
    (hGuarded : guarded = true ∨ command ≠ .authorizeWorkflowRunStart)
    (hValue : ∀ value, S value ((startProtocol guarded).next (.held organizationId slotId binding) command (.ok value)))
    (hCleanup : Ends guarded cleanup (.held organizationId slotId binding)) :
    Obeying guarded (Program.call command) S (Caught guarded cleanup answer) (.held organizationId slotId binding) := by
  have hCatches : ∀ error, catches guarded command error = error.isException := by
    intro error
    unfold catches
    rcases hGuarded with rfl | hOther
    · simp
    · simp [hOther]
  refine obeying_call hCommand hValue (fun error hForeign hError => ?_) (fun error hError => ?_)
    (caught_void cleanup answer)
  · exact caught_held hForeign (by rw [← hCatches error, hError]) hCleanup
  · exact caught_leaked (by rw [← hCatches error, hError]) _ _

theorem call_ended {command : StartCommand} (hCommand : ∀ redisCommand, command ≠ .redis redisCommand)
    (h : stage.Ended) : Ends guarded (Program.call command) stage := by
  have hStart : stage.afterStart.Ended := by cases stage <;> trivial
  have hError : ∀ caught, (stage.afterError caught).Ended := by
    intro caught
    cases stage with
    | held organizationId slotId binding => exact h.elim
    | _ => exact h
  refine Program.obeys_call ?_ fun result => ?_
  · cases command with
    | redis redisCommand => exact absurd rfl (hCommand redisCommand)
    | _ => trivial
  · cases command with
    | redis redisCommand => exact absurd rfl (hCommand redisCommand)
    | startCall =>
      cases result with
      | ok value => exact hStart
      | error error =>
        change SlotStage.Ended (if foreignError error = error then _ else SlotStage.void)
        split
        · exact hError _
        · trivial
    | _ =>
      cases result with
      | ok value => exact h
      | error error =>
        change SlotStage.Ended (if foreignError error = error then _ else SlotStage.void)
        split
        · exact hError _
        · trivial

theorem releaseSlot_ends {slot : CallConcurrencySlot} (hScope : slot.scopeKey = none) {binding : Binding}
    (hBinding : binding = .unbound ∨ binding = .refused)
    (h : stage = .held slot.organizationId slot.slotId binding ∨
      stage = .given slot.organizationId slot.slotId binding) : Ends guarded (releaseSlot slot) stage := by
  have hEnded : (SlotStage.given slot.organizationId slot.slotId binding).Ended := by
    intro workflowRunId
    rcases hBinding with rfl | rfl <;> exact ⟨nofun, nofun⟩
  refine (onRedis_obeying (releaseSlot_obeys slot hScope binding h)).bind ?_ ?_
  · rintro value _ (⟨rfl, -⟩ | rfl)
    · exact hEnded
    · trivial
  · rintro error _ (⟨rfl, -⟩ | rfl)
    · exact hEnded
    · trivial

def Escaped (organizationId : Nat) (slotId : SlotId) (error : Error) (stage : SlotStage) : Prop :=
  stage = .void ∨ (error.isException = false ∧ stage = .leaked organizationId slotId)

theorem Escaped.ended {organizationId : Nat} {slotId : SlotId} {error : Error}
    (h : Escaped organizationId slotId error stage) : stage.Ended := by
  obtain rfl | ⟨-, rfl⟩ := h <;> trivial

theorem Escaped.caught {organizationId : Nat} {slotId : SlotId} (h : Escaped organizationId slotId error stage) :
    Caught guarded cleanup answer error stage := by
  obtain rfl | ⟨hCancelled, rfl⟩ := h
  · exact caught_void cleanup answer error
  · exact caught_leaked hCancelled organizationId slotId

theorem releaseWorkflowRunSlot_obeying (organizationId : Nat) (slotId : SlotId) (workflowRunId : Nat) :
    Obeying guarded (releaseWorkflowRunSlot workflowRunId) (fun _ => SlotStage.Ended) (Escaped organizationId slotId)
      (.held organizationId slotId (.bound workflowRunId)) := by
  refine (onRedis_obeying (releaseWorkflowRunSlot_obeys organizationId slotId workflowRunId)).bind ?_ ?_
  · rintro value _ (⟨rfl, -⟩ | rfl)
    · exact fun _ => ⟨nofun, nofun⟩
    · trivial
  · rintro error _ (⟨-, _, hOk⟩ | rfl)
    · cases hOk
    · exact .inl rfl

theorem orElse_other {organizationId : Nat} {slotId : SlotId} {binding : Binding} {program : StartMethod α}
    (fallback : α)
    (h : Obeying guarded program (fun _ stage => stage = .held organizationId slotId binding ∨ stage = .void)
      (fun error stage => if error.isException then stage = .held organizationId slotId binding ∨ stage = .void
        else Escaped organizationId slotId error stage) (.held organizationId slotId binding)) :
    Obeying guarded (orElse program fallback)
      (fun _ stage => stage = .held organizationId slotId binding ∨ stage = .void) (Escaped organizationId slotId)
      (.held organizationId slotId binding) := by
  refine h.tryCatch (fun _ _ hValue => hValue) fun error stage hError => ?_
  change (if _ then _ else _) at hError
  split
  · rename_i hException
    rw [if_pos hException] at hError
    exact hError
  · rename_i hException
    rw [if_neg hException] at hError
    exact hError

theorem other_held (organizationId : Nat) (slotId : SlotId) (binding : Binding) :
    Obeying guarded other (fun _ stage => stage = .held organizationId slotId binding)
      (fun error stage => if error.isException then stage = .held organizationId slotId binding ∨ stage = .void
        else Escaped organizationId slotId error stage) (.held organizationId slotId binding) := by
  have hCatches : ∀ error, catches guarded .other error = error.isException := by simp [catches]
  refine obeying_call nofun (fun _ => rfl) (fun error _ hError => ?_) (fun error hError => ?_) fun error => ?_
  · rw [if_pos (by rw [← hCatches, hError])]
    exact .inl rfl
  · rw [hCatches] at hError
    rw [if_neg (Bool.eq_false_iff.mp hError)]
    exact .inr ⟨hError, rfl⟩
  · split
    · exact .inr rfl
    · exact .inl rfl

theorem markWorkflowRunFailed_obeying (organizationId : Nat) (slotId : SlotId) (binding : Binding) :
    Obeying guarded markWorkflowRunFailed
      (fun _ stage => stage = .held organizationId slotId binding ∨ stage = .void) (Escaped organizationId slotId)
      (.held organizationId slotId binding) := by
  unfold markWorkflowRunFailed
  refine obeying_bind (orElse_other false (obeying_bind (other_held organizationId slotId binding) ?_)) ?_
  · rintro _ _ rfl
    exact .inl rfl
  · rintro recorded _ (rfl | rfl)
    · cases recorded with
      | true =>
        refine orElse_other () (Obeying.imp (other_held organizationId slotId binding) ?_ fun _ _ h => h)
        rintro _ _ rfl
        exact .inl rfl
      | false => exact .inl rfl
    · exact obeying_void (fun _ => .inr rfl) (fun _ => .inl rfl) _

theorem failAndRelease_obeying (organizationId : Nat) (slotId : SlotId) (workflowRunId : Nat) :
    Obeying guarded (failAndRelease workflowRunId) (fun _ => SlotStage.Ended) (Escaped organizationId slotId)
      (.held organizationId slotId (.bound workflowRunId)) := by
  refine obeying_bind (markWorkflowRunFailed_obeying organizationId slotId (.bound workflowRunId)) ?_
  rintro _ _ (rfl | rfl)
  · exact releaseWorkflowRunSlot_obeying organizationId slotId workflowRunId
  · exact obeying_void (fun _ => trivial) (fun _ => .inl rfl) _

theorem releaseWorkflowRunSlot_ends (organizationId : Nat) (slotId : SlotId) (workflowRunId : Nat) :
    Ends guarded (releaseWorkflowRunSlot workflowRunId) (.held organizationId slotId (.bound workflowRunId)) :=
  (releaseWorkflowRunSlot_obeying organizationId slotId workflowRunId).imp (fun _ _ h => h) fun _ _ h => h.ended

theorem failAndRelease_ends (organizationId : Nat) (slotId : SlotId) (workflowRunId : Nat) :
    Ends guarded (failAndRelease workflowRunId) (.held organizationId slotId (.bound workflowRunId)) :=
  (failAndRelease_obeying organizationId slotId workflowRunId).imp (fun _ _ h => h) fun _ _ h => h.ended

theorem acquireOrgSlot_obeying (organizationId : Nat) (source : String) :
    Obeying guarded (acquireOrgSlot organizationId source)
      (fun slot stage => stage = .held slot.organizationId slot.slotId .unbound ∧ slot.scopeKey = none)
      (fun _ => SlotStage.Ended) .idle := by
  refine Program.Obeys.weaken (onRedis_obeying (acquireOrgSlot_obeys organizationId source)) fun result stage h => ?_
  cases result with
  | ok slot =>
    obtain ⟨rfl, hOrganization, hScope⟩ := h
    exact ⟨by rw [hOrganization], hScope⟩
  | error error =>
    cases h
    trivial

theorem prepareRun_obeying (named : Option (Nat × Bool)) {organizationId : Nat} {slotId : SlotId}
    {binding : Binding} (h : Ends guarded cleanup (.held organizationId slotId binding)) :
    Obeying guarded (prepareRun named) (fun _ stage => stage = .held organizationId slotId binding)
      (Caught guarded cleanup answer) (.held organizationId slotId binding) := by
  have hOther : Obeying guarded other (fun _ stage => stage = .held organizationId slotId binding)
      (Caught guarded cleanup answer) (.held organizationId slotId binding) :=
    caught_call nofun (.inr nofun) (fun _ => rfl) h
  cases named with
  | none =>
    refine obeying_bind hOther ?_
    rintro _ _ rfl
    exact caught_call nofun (.inr nofun) (fun _ => rfl) h
  | some run =>
    obtain ⟨workflowRunId, belongs⟩ := run
    refine obeying_bind hOther ?_
    rintro _ _ rfl
    cases belongs with
    | true => exact rfl
    | false => exact caught_held rfl rfl h

theorem bindWorkflowRun_obeying {slot : CallConcurrencySlot} (hScope : slot.scopeKey = none) (workflowRunId : Nat)
    (h : Ends guarded answer (.given slot.organizationId slot.slotId .refused)) :
    Obeying guarded (bindWorkflowRun slot workflowRunId)
      (fun _ stage => stage = .held slot.organizationId slot.slotId (.bound workflowRunId) ∨ stage = .void)
      (Caught guarded cleanup answer) (.held slot.organizationId slot.slotId .unbound) := by
  refine (onRedis_obeying (bindWorkflowRun_obeys slot hScope workflowRunId)).weaken fun result stage hEnd => ?_
  cases result with
  | ok value => exact hEnd
  | error error =>
    obtain rfl | ⟨rfl, rfl⟩ | ⟨hCancelled, rfl⟩ := hEnd
    · exact caught_void cleanup answer error
    · exact ⟨fun _ hOther => absurd rfl (hOther workflowRunId), fun _ _ => h, nofun⟩
    · exact caught_leaked hCancelled _ _

theorem prepareAndBind_obeying (named : Option (Nat × Bool)) {slot : CallConcurrencySlot}
    (hScope : slot.scopeKey = none) (h : Ends guarded answer (.given slot.organizationId slot.slotId .refused)) :
    Obeying guarded (do
        let workflowRunId ← prepareRun named
        bindWorkflowRun slot workflowRunId
        return workflowRunId)
      (fun workflowRunId stage => stage = .held slot.organizationId slot.slotId (.bound workflowRunId) ∨ stage = .void)
      (Caught guarded (releaseSlot slot) answer) (.held slot.organizationId slot.slotId .unbound) := by
  refine obeying_bind (prepareRun_obeying named (releaseSlot_ends hScope (.inl rfl) (.inl rfl))) ?_
  rintro workflowRunId _ rfl
  exact obeying_bind (bindWorkflowRun_obeying hScope workflowRunId h) fun _ _ hBound => hBound

end Handlers

theorem authorizeWorkflowRunStart_obeying (organizationId : Nat) (slotId : SlotId) (binding : Binding) :
    Obeying false (Program.call StartCommand.authorizeWorkflowRunStart)
      (fun _ stage => stage = .held organizationId slotId binding) (fun _ => SlotStage.Ended)
      (.held organizationId slotId binding) := by
  refine obeying_call nofun (fun _ => rfl) (fun error _ hCatches => ?_) (fun _ _ => trivial) fun _ => trivial
  simp [catches] at hCatches

section Held

variable {guarded : Bool} {cleanup answer : StartMethod Unit} {organizationId : Nat} {slotId : SlotId}
  {binding : Binding}

theorem start_caught (h : Ends guarded cleanup (.held organizationId slotId binding)) :
    Obeying guarded (Program.call StartCommand.startCall) (fun _ => SlotStage.Ended) (Caught guarded cleanup answer)
      (.held organizationId slotId binding) :=
  caught_call nofun (.inr nofun) (fun _ => trivial) h

theorem other_caught (h : Ends guarded cleanup (.held organizationId slotId binding)) :
    Obeying guarded other (fun _ stage => stage = .held organizationId slotId binding)
      (Caught guarded cleanup answer) (.held organizationId slotId binding) :=
  caught_call nofun (.inr nofun) (fun _ => rfl) h

end Held

theorem initiateCall_ends (organizationId : Nat) (named : Option (Nat × Bool)) :
    Ends false (initiateCall organizationId named) .idle := by
  refine obeying_bind (acquireOrgSlot_obeying organizationId "telephony_outbound") ?_
  rintro slot _ ⟨rfl, hScope⟩
  refine obeying_bind (S := fun workflowRunId stage =>
    stage = .held slot.organizationId slot.slotId (.bound workflowRunId) ∨ stage = .void) ?_ ?_
  · refine obeying_tryCatch (Caught false (releaseSlot slot) (.ret ()))
      (prepareAndBind_obeying named hScope fun _ => ⟨nofun, nofun⟩) fun error stage hCaught => ?_
    cases error with
    | workflowRunSlotAlreadyBoundError workflowRunId => exact hCaught.answers workflowRunId rfl
    | cancelledError => exact hCaught.escapes rfl
    | _ => exact obeying_bind (hCaught.cleans rfl nofun) fun _ _ hEnded => hEnded
  rintro workflowRunId _ (rfl | rfl)
  · refine obeying_bind (authorizeWorkflowRunStart_obeying slot.organizationId slot.slotId (.bound workflowRunId)) ?_
    rintro hasQuota _ rfl
    have hFail : Ends false (failAndRelease workflowRunId) _ :=
      failAndRelease_ends slot.organizationId slot.slotId workflowRunId
    cases hasQuota with
    | false => exact obeying_bind hFail fun _ _ hEnded => hEnded
    | true =>
      refine obeying_bind (S := fun _ => SlotStage.Ended)
        (onException_obeying (obeying_bind (other_caught hFail) ?_)) fun _ _ hEnded => call_ended nofun hEnded
      rintro _ _ rfl
      exact start_caught hFail
  · exact ends_void _

theorem startInbound_obeying {slot : CallConcurrencySlot} (hScope : slot.scopeKey = none) (workflowRunId : Nat) :
    Obeying true (startInbound slot workflowRunId) (fun _ => SlotStage.Ended)
      (Caught true (failAndRelease workflowRunId) (.ret ())) (.held slot.organizationId slot.slotId .unbound) := by
  have hFail : Ends true (failAndRelease workflowRunId) _ :=
    failAndRelease_ends slot.organizationId slot.slotId workflowRunId
  refine obeying_bind (bindWorkflowRun_obeying hScope workflowRunId fun _ => ⟨nofun, nofun⟩) ?_
  rintro _ _ (rfl | rfl)
  · refine obeying_bind (S := fun _ stage => stage = .held slot.organizationId slot.slotId (.bound workflowRunId))
      (caught_call nofun (.inl rfl) (fun _ => rfl) hFail) ?_
    rintro hasQuota _ rfl
    cases hasQuota with
    | false =>
      exact (failAndRelease_obeying slot.organizationId slot.slotId workflowRunId).imp (fun _ _ h => h)
        fun _ _ h => h.caught
    | true =>
      refine obeying_bind (other_caught hFail) ?_
      rintro _ _ rfl
      exact start_caught hFail
  · exact obeying_void (fun _ => trivial) (caught_void _ _) _

theorem onInboundError_ends {slot : CallConcurrencySlot} {workflowRunId : Option Nat} {error : Error}
    {stage : SlotStage} (h : Caught true (inboundFailure slot workflowRunId) (.ret ()) error stage) :
    Ends true (onInboundError slot workflowRunId error) stage := by
  cases error with
  | workflowRunSlotAlreadyBoundError workflowRunId => exact h.answers workflowRunId rfl
  | cancelledError => exact h.escapes rfl
  | _ => exact obeying_bind (h.cleans rfl nofun) fun _ _ hEnded => hEnded

theorem inboundCall_ends (organizationId : Nat) (source : String) :
    Ends true (inboundCall organizationId source) .idle := by
  refine obeying_tryCatch (fun _ => SlotStage.Ended) ?_ fun error stage hEnded => ?_
  · refine obeying_bind (acquireOrgSlot_obeying organizationId source) ?_
    rintro slot _ ⟨rfl, hScope⟩
    have hRelease : Ends true (releaseSlot slot) _ := releaseSlot_ends hScope (.inl rfl) (.inl rfl)
    refine obeying_bind (S := fun created stage => created.elim stage.Ended fun _ =>
      stage = .held slot.organizationId slot.slotId .unbound) ?_ ?_
    · refine obeying_tryCatch (Caught true (inboundFailure slot none) (.ret ())) ?_ fun error stage hError => ?_
      · refine obeying_bind (other_caught hRelease) ?_
        rintro _ _ rfl
        refine obeying_bind (S := fun _ stage => stage = .held slot.organizationId slot.slotId .unbound)
          (caught_call (fun _ h => by cases h) (.inl rfl) (fun _ => rfl) hRelease) ?_
        rintro workflowRunId _ rfl
        exact rfl
      · exact obeying_bind (onInboundError_ends hError) fun _ _ hEnded => hEnded
    · rintro (_ | workflowRunId) stage hCreated
      · exact hCreated
      · obtain rfl := hCreated
        exact (startInbound_obeying hScope workflowRunId).tryCatch (fun _ _ hEnded => hEnded)
          fun error stage hError => onInboundError_ends hError
  · split <;> exact hEnded

theorem executeResolvedTarget_ends (organizationId : Nat) :
    Ends false (executeResolvedTarget organizationId) .idle := by
  refine obeying_bind (acquireOrgSlot_obeying organizationId "public_agent") ?_
  rintro slot _ ⟨rfl, hScope⟩
  refine obeying_bind (onException_obeying (prepareAndBind_obeying none hScope
    (releaseSlot_ends hScope (.inr rfl) (.inr rfl)))) ?_
  rintro workflowRunId _ (rfl | rfl)
  · refine obeying_bind (authorizeWorkflowRunStart_obeying slot.organizationId slot.slotId (.bound workflowRunId)) ?_
    rintro hasQuota _ rfl
    have hFail : Ends false (failAndRelease workflowRunId) _ :=
      failAndRelease_ends slot.organizationId slot.slotId workflowRunId
    cases hasQuota with
    | false => exact obeying_bind hFail fun _ _ hEnded => hEnded
    | true =>
      refine obeying_bind (onException_obeying (other_caught
        (releaseWorkflowRunSlot_ends slot.organizationId slot.slotId workflowRunId))) ?_
      rintro _ _ rfl
      exact obeying_bind (onException_obeying (start_caught hFail)) fun _ _ hEnded => call_ended nofun hEnded
  · exact ends_void _

theorem admitOffer_obeying (organizationId workflowRunId : Nat) {guarded : Bool} :
    Obeying guarded (admitOffer organizationId workflowRunId)
      (fun admitted stage => match admitted with
        | true => (∃ organizationId slotId, stage = .held organizationId slotId (.bound workflowRunId)) ∨ stage = .void
        | false => stage.Ended) (fun _ => SlotStage.Ended) .idle := by
  have hBind : ∀ slot : CallConcurrencySlot, slot.scopeKey = none → Obeying guarded (bindWorkflowRun slot workflowRunId)
      (fun _ stage => stage = .held slot.organizationId slot.slotId (.bound workflowRunId) ∨ stage = .void)
      (Caught guarded (.ret ()) (.ret ())) (.held slot.organizationId slot.slotId .unbound) :=
    fun slot hScope => bindWorkflowRun_obeying hScope workflowRunId fun _ => ⟨nofun, nofun⟩
  refine obeying_tryCatch (fun _ => SlotStage.Ended) ?_ fun error stage hEnded => ?_
  · refine obeying_bind (acquireOrgSlot_obeying organizationId "webrtc") ?_
    rintro slot _ ⟨rfl, hScope⟩
    refine obeying_bind (S := fun _ stage =>
      stage = .held slot.organizationId slot.slotId (.bound workflowRunId) ∨ stage = .void)
      (Obeying.imp (hBind slot hScope) (fun _ _ hBound => hBound) fun _ _ hCaught => hCaught.ended) ?_
    rintro _ _ (rfl | rfl)
    · exact .inl ⟨_, _, rfl⟩
    · exact .inr rfl
  · have hAnswer : Obeying guarded (do
        other
        return false) (fun admitted stage => match admitted with
        | true => (∃ organizationId slotId, stage = .held organizationId slotId (.bound workflowRunId)) ∨ stage = .void
        | false => stage.Ended) (fun _ => SlotStage.Ended) stage :=
      obeying_bind (call_ended nofun hEnded) fun _ _ hEnded => hEnded
    cases error with
    | callConcurrencyLimitError _ _ _ => exact hAnswer
    | workflowRunSlotAlreadyBoundError _ => exact hAnswer
    | _ => exact hEnded

theorem handleOffer_ends (organizationId workflowRunId : Nat) (prepares : Bool) :
    Ends false (handleOffer organizationId workflowRunId prepares) .idle := by
  have hAuthorize : Obeying false (Program.call StartCommand.authorizeWorkflowRunStart)
      (fun _ stage => stage = .idle) (fun _ => SlotStage.Ended) .idle := by
    refine ⟨trivial, fun result => ?_⟩
    cases result with
    | ok hasQuota => exact rfl
    | error error =>
      change SlotStage.Ended (if foreignError error = error then SlotStage.idle else .void)
      split <;> trivial
  refine obeying_bind hAuthorize ?_
  rintro hasQuota _ rfl
  cases hasQuota with
  | false =>
    have hEnded : SlotStage.idle.Ended := trivial
    exact call_ended nofun hEnded
  | true =>
    refine obeying_bind (admitOffer_obeying organizationId workflowRunId) ?_
    rintro admitted stage hAdmitted
    cases admitted with
    | false => exact hAdmitted
    | true =>
      obtain ⟨organizationId, slotId, rfl⟩ | rfl := hAdmitted
      · have hRelease : Ends false (releaseWorkflowRunSlot workflowRunId) _ :=
          releaseWorkflowRunSlot_ends organizationId slotId workflowRunId
        refine obeying_bind (S := fun _ => SlotStage.Ended) (onException_obeying ?_)
          fun _ _ hEnded => call_ended nofun hEnded
        cases prepares with
        | true =>
          refine obeying_bind (other_caught hRelease) ?_
          rintro _ _ rfl
          exact start_caught hRelease
        | false => exact caught_held rfl rfl hRelease
      · exact ends_void _

theorem method_ends (organizationId : Nat) (entry : EntryPoint) :
    Ends entry.guardsAuthorization (entry.method organizationId) .idle := by
  cases entry with
  | initiateCall named => exact initiateCall_ends organizationId named
  | handleInboundRun provider => exact inboundCall_ends organizationId ("inbound:" ++ provider)
  | handleInboundTelephony provider => exact inboundCall_ends organizationId ("inbound_legacy:" ++ provider)
  | executeResolvedTarget => exact executeResolvedTarget_ends organizationId
  | handleOffer workflowRunId prepares => exact handleOffer_ends organizationId workflowRunId prepares

end FastVoice.CallStart
