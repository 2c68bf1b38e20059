import FastVoice.TextChat.Completion

/-! # Each revision names one version of the session -/
namespace FastVoice.TextChat
open Async

variable {ι J : Type}

def saves : ChatEntry ι J → Bool
  | .call _ command outcome found => outcome.executed && (found.savedBy command).isSome
  | .environment _ _ => false

def Precedes (entry : ChatEntry ι J) (session : TextSession J) : Prop :=
  entry.found.session.revision < session.revision ∨
    session = entry.found.session ∧ saves entry = false

/-- A later step finds a greater revision, or the session that the earlier one has found and not saved. -/
def RevisionsSound (history : List (ChatEntry ι J)) : Prop :=
  history.Pairwise fun later earlier => Precedes earlier later.found.session

structure RevisionsKnown (s : ChatRecord ι J) : Prop where
  ordered : RevisionsSound s.history
  past : ∀ entry ∈ s.history, Precedes entry s.state.session

theorem RevisionsKnown.step {s : ChatRecord ι J} (h : RevisionsKnown s) {entry : ChatEntry ι J} {state : ChatStore J}
    (hFound : entry.found = s.state) (hEntry : Precedes entry state.session) :
    RevisionsKnown ⟨state, entry :: s.history⟩ where
  ordered := List.pairwise_cons.mpr ⟨hFound ▸ h.past, h.ordered⟩
  past := by
    refine List.forall_mem_cons.mpr ⟨hEntry, fun earlier hEarlier => ?_⟩
    have hPast := h.past earlier hEarlier
    rw [Precedes, hFound] at hEntry
    obtain hLess | ⟨hSame, -⟩ := hEntry
    · obtain hOlder | ⟨hOld, -⟩ := hPast
      · exact .inl (Int.lt_trans hOlder hLess)
      · exact .inl (hOld ▸ hLess)
    · exact hSame ▸ hPast

theorem precedes_call (proc : ι) (command : ChatCommand J) (outcome : Outcome ChatError) (s : ChatStore J) :
    Precedes (.call proc command outcome s) (stateAfter outcome command s).session := by
  cases hExecuted : outcome.executed with
  | false => exact .inr ⟨by rw [stateAfter, hExecuted]; rfl, by simp [saves, hExecuted]⟩
  | true =>
    rw [stateAfter, if_pos hExecuted]
    cases command with
    | updateWorkflowRunTextSession | completeWorkflowRunTextSession =>
      rw [ChatStore.execute]
      split
      · exact .inl (Int.lt_succ _)
      · next hNot => exact .inr ⟨rfl, by simp [saves, ChatStore.savedBy, hNot]⟩
    | _ => exact .inr ⟨rfl, by simp [saves, ChatStore.savedBy]⟩

theorem revisionsKnown_created (outside : Outside J) : RevisionsKnown (⟨.created outside, []⟩ : ChatRecord ι J) :=
  ⟨.nil, fun _ hNone => absurd hNone List.not_mem_nil⟩

/-- Whatever the requests expect, and however they interleave and fail. -/
theorem revisions_sound [DecidableEq ι] (helpers : ChatHelpers J) (requests : ι → ChatRequest) (outside : Outside J)
    {events : List (Event ι ChatError (Outside J))} {last : ChatConfig ι J}
    (hRun : (textChat ι J).recorded.run (chatRequests helpers requests outside) events = some last) :
    RevisionsSound last.shared.history := by
  refine (System.run_induction (P := fun cfg => RevisionsKnown cfg.shared) (fun cfg event next h _ hStep => ?_)
    (System.follows_free _ _ events) hRun (revisionsKnown_created outside)).ordered
  obtain ⟨proc, outcome, command, resume, -, -, rfl⟩ | ⟨move, shared, -, hMove, rfl⟩ := System.step_cases hStep
  · rw [chatRecord_call]
    exact h.step rfl (precedes_call proc command outcome cfg.shared.state)
  · cases hMove
    exact h.step rfl (.inr ⟨rfl, rfl⟩)

theorem revisions_sound_message : ∃ last,
    (textChat Bool Unit).recorded.run twoMessages (List.replicate 10 (chatStep true)) = some last ∧
    RevisionsSound last.shared.history ∧ last.shared.history.countP saves = 2 := by
  have hEnds : ((textChat Bool Unit).recorded.run twoMessages (List.replicate 10 (chatStep true))).any
      (fun last => decide (last.shared.history.countP saves = 2)) = true := by decide +kernel
  obtain ⟨last, hRun, hSaves⟩ := (Option.any_eq_true _ _).mp hEnds
  exact ⟨last, hRun, revisions_sound plainHelpers _ plainOutside hRun, of_decide_eq_true hSaves⟩

end FastVoice.TextChat
