import FastVoice.Runtime.Grouping
import FastVoice.Transcripts.Coordinator
import Mathlib.Algebra.Order.BigOperators.Group.List
import Mathlib.Algebra.Order.Group.Nat

/-! # Which texts reach the log

A text joins the side of the turn that is selected for it. If that side has been emitted, nothing emits
it again and the text stays behind. Any other text is in exactly one event after a flush.
-/
namespace FastVoice.Transcripts
open Grouping

/-! ## What a side says -/

def pendingText : List String → Option String
  | [] => none
  | texts => some ("\n".intercalate texts)

theorem pendingText_eq {texts : List String} (h : texts ≠ []) :
    pendingText texts = some ("\n".intercalate texts) := by
  cases texts with
  | nil => exact absurd rfl h
  | cons text texts => rfl

theorem pendingText_concat (texts : List String) (text : String) :
    pendingText (texts ++ [text]) =
      some (match pendingText texts with
        | none => text
        | some previous => previous ++ "\n" ++ text) := by
  rw [pendingText_eq (by simp)]
  cases texts with
  | nil => simp [pendingText]
  | cons first texts =>
    rw [pendingText_eq (List.cons_ne_nil _ _),
      String.intercalate_append_of_ne_nil (List.cons_ne_nil _ _) (List.cons_ne_nil _ _),
      String.intercalate_singleton]

def size (texts : List String) : Nat := (texts.map fun text => text.length + 1).sum

theorem size_intercalate {texts : List String} (h : texts ≠ []) :
    ("\n".intercalate texts).length + 1 = size texts := by
  induction texts with
  | nil => exact absurd rfl h
  | cons first texts ih =>
    cases texts with
    | nil => simp [size]
    | cons second texts =>
      have hRest := ih (List.cons_ne_nil _ _)
      have hNewline : "\n".length = 1 := rfl
      rw [String.intercalate_cons_cons, String.length_append, String.length_append, hNewline]
      rw [show size (first :: second :: texts) = first.length + 1 + size (second :: texts) from rfl,
        ← hRest]
      omega

theorem intercalate_ne_empty {texts : List String} {text : String} (h : text ∈ texts)
    (hText : text ≠ "") : "\n".intercalate texts ≠ "" := by
  intro hEmpty
  have hSize := size_intercalate (List.ne_nil_of_mem h)
  have hLength : text.length + 1 ≤ size texts :=
    List.single_le_sum (by simp) _ (List.mem_map_of_mem h)
  have hPositive : text.length ≠ 0 := by simpa [String.length_eq_zero_iff] using hText
  rw [hEmpty] at hSize
  simp at hSize
  omega

/-! ## The events of one speaker -/

def Speaker.eventType : Speaker → EventType
  | .user => .userTranscription
  | .assistant => .botText

theorem Speaker.eventType_ne {speaker other : Speaker} (h : other ≠ speaker) :
    speaker.eventType ≠ other.eventType := by
  cases speaker <;> cases other <;> simp_all [Speaker.eventType]

namespace Coordinator

def side (c : Coordinator) (speaker : Speaker) (turnId : Int) : TranscriptSide :=
  (c.state turnId).side speaker

def eventsOf (c : Coordinator) (speaker : Speaker) : List Event :=
  c.logsBuffer.events.filter (·.type = speaker.eventType)

def turnsOf (c : Coordinator) (speaker : Speaker) : List Int := (c.eventsOf speaker).map (·.turn)

variable (c : Coordinator) {speaker other : Speaker} {turnId otherTurn : Int} {now : String}
  {event : EventType × Payload}

theorem side_modify_ne (h : otherTurn ≠ turnId) (f : TurnTranscriptState → TurnTranscriptState) :
    (c.modify turnId f).side speaker otherTurn = c.side speaker otherTurn := by
  rw [side, state_modify_ne _ h, side]

theorem side_modify_setSide (f : TranscriptSide → TranscriptSide) :
    (c.modify turnId fun state => state.setSide (f (state.side speaker)) speaker).side speaker turnId =
      f (c.side speaker turnId) := by
  rw [side, state_modify, TurnTranscriptState.side_setSide, side]

theorem emitted_hear (transcript : Transcript) (side : TranscriptSide) :
    (c.hear now transcript side).emitted = side.emitted := by
  rw [hear]
  cases side.text <;> rfl

theorem emitted_modify_hear (transcript : Transcript) : ((c.modify turnId fun state =>
      state.setSide (c.hear now transcript (state.side speaker)) speaker).side speaker otherTurn).emitted =
        (c.side speaker otherTurn).emitted := by
  by_cases h : otherTurn = turnId
  · rw [h, side_modify_setSide, emitted_hear]
  · rw [side_modify_ne _ h]

theorem text_hear (transcript : Transcript) {texts : List String} {side : TranscriptSide}
    (h : side.text = pendingText texts) :
    (c.hear now transcript side).text = pendingText (texts ++ [transcript.text]) := by
  rw [pendingText_concat, ← h, hear]
  cases side.text <;> rfl

theorem state_append : (c.append now turnId speaker event).state otherTurn =
    (c.modify turnId (·.setSide { c.side speaker turnId with emitted := true } speaker)).state
      otherTurn := rfl

theorem side_append : (c.append now turnId speaker event).side speaker turnId =
    { c.side speaker turnId with emitted := true } := by
  rw [side, state_append, state_modify, TurnTranscriptState.side_setSide]

theorem side_append_ne (h : otherTurn ≠ turnId ∨ other ≠ speaker) :
    (c.append now turnId speaker event).side other otherTurn = c.side other otherTurn := by
  rw [side, state_append]
  by_cases hTurn : otherTurn = turnId
  · subst hTurn
    rw [state_modify, TurnTranscriptState.side_setSide_ne _ _ (h.resolve_left (· rfl)), side]
  · rw [state_modify_ne _ hTurn, side]

theorem eventsOf_append (h : event.1 = speaker.eventType) :
    (c.append now turnId speaker event).eventsOf speaker = c.eventsOf speaker ++
      [stampRealtimeFeedbackEvent event now turnId (c.side speaker turnId)] := by
  simp [eventsOf, append, stampRealtimeFeedbackEvent, h, side]

theorem eventsOf_append_ne (hType : event.1 = speaker.eventType) (h : other ≠ speaker) :
    (c.append now turnId speaker event).eventsOf other = c.eventsOf other := by
  have hOther : event.1 ≠ other.eventType := hType ▸ Speaker.eventType_ne h
  simp [eventsOf, append, stampRealtimeFeedbackEvent, hOther]

end Coordinator

/-- Every text is in one event: the one of its turn, which joins the texts of that turn in order. -/
def Kept (texts : List String) (events : List Event) : Prop :=
  (events.map (·.turn)).Nodup ∧
    ∃ placed : List (String × Int), placed.map (·.1) = texts ∧
      (∀ entry ∈ placed, entry.2 ∈ events.map (·.turn)) ∧
      ∀ event ∈ events, event.payload.text = "\n".intercalate (entriesOf event.turn placed)

structure Recorded (c : Coordinator) (speaker : Speaker) (placed : List (String × Int)) : Prop where
  texts : ∀ entry ∈ placed, entry.1 ≠ ""
  nodup : (c.turnsOf speaker).Nodup
  emitted : ∀ turnId, (c.side speaker turnId).emitted = true ↔ turnId ∈ c.turnsOf speaker
  pending : ∀ turnId, (c.side speaker turnId).emitted = false →
    (c.side speaker turnId).text = pendingText (entriesOf turnId placed)
  events : ∀ event ∈ c.eventsOf speaker, entriesOf event.turn placed ≠ [] ∧
    event.payload.text = "\n".intercalate (entriesOf event.turn placed)

namespace Recorded

variable {c c' : Coordinator} {speaker : Speaker} {placed : List (String × Int)}

theorem initial (speaker : Speaker) : Recorded {} speaker [] where
  texts := nofun
  nodup := List.nodup_nil
  emitted turnId := by cases speaker <;> simp [Coordinator.side, Coordinator.state,
    TurnTranscriptState.side, Coordinator.turnsOf, Coordinator.eventsOf]
  pending turnId _ := by cases speaker <;> rfl
  events := nofun

theorem congr (h : Recorded c speaker placed)
    (hText : ∀ turnId, (c'.side speaker turnId).text = (c.side speaker turnId).text)
    (hEmitted : ∀ turnId, (c'.side speaker turnId).emitted = (c.side speaker turnId).emitted)
    (hEvents : c'.eventsOf speaker = c.eventsOf speaker) : Recorded c' speaker placed where
  texts := h.texts
  nodup := by
    rw [Coordinator.turnsOf, hEvents]
    exact h.nodup
  emitted turnId := by
    rw [hEmitted, Coordinator.turnsOf, hEvents]
    exact h.emitted turnId
  pending turnId := by
    rw [hText, hEmitted]
    exact h.pending turnId
  events := by
    rw [hEvents]
    exact h.events

theorem modify (h : Recorded c speaker placed) (turnId : Int) (f : TurnTranscriptState → TurnTranscriptState)
    (hText : ∀ state, ((f state).side speaker).text = (state.side speaker).text)
    (hEmitted : ∀ state, ((f state).side speaker).emitted = (state.side speaker).emitted) :
    Recorded (c.modify turnId f) speaker placed := by
  have hSide : ∀ other, (c.modify turnId f).side speaker other =
      if other = turnId then (f (c.state turnId)).side speaker else c.side speaker other := by
    intro other
    split
    · next hSame => rw [hSame, Coordinator.side, Coordinator.state_modify]
    · next hOther => rw [Coordinator.side, Coordinator.state_modify_ne _ hOther, Coordinator.side]
  apply h.congr
  · intro other
    rw [hSide]
    split
    · next hSame => rw [hText, hSame, Coordinator.side]
    · rfl
  · intro other
    rw [hSide]
    split
    · next hSame => rw [hEmitted, hSame, Coordinator.side]
    · rfl
  · rfl

/-! ### Emitting -/

theorem append (h : Recorded c speaker placed) {turnId : Int} {text now : String}
    {event : EventType × Payload} (hWaits : (c.side speaker turnId).emitted = false)
    (hText : (c.side speaker turnId).text = some text) (hType : event.1 = speaker.eventType)
    (hEvent : event.2.text = text) : Recorded (c.append now turnId speaker event) speaker placed := by
  have hPlaced : entriesOf turnId placed ≠ [] := by
    intro hNone
    have hPending := h.pending turnId hWaits
    rw [hText, hNone] at hPending
    cases hPending
  have hJoined : text = "\n".intercalate (entriesOf turnId placed) := by
    have hPending := h.pending turnId hWaits
    rw [hText, pendingText_eq hPlaced] at hPending
    exact Option.some.inj hPending
  have hNew : turnId ∉ c.turnsOf speaker := by
    rw [← h.emitted, hWaits]
    exact Bool.false_ne_true
  have hTurns : (c.append now turnId speaker event).turnsOf speaker = c.turnsOf speaker ++ [turnId] := by
    rw [Coordinator.turnsOf, c.eventsOf_append hType, List.map_append]
    rfl
  constructor
  · exact h.texts
  · rw [hTurns, ← List.concat_eq_append]
    exact h.nodup.concat hNew
  · intro other
    rw [hTurns, List.mem_append, List.mem_singleton]
    by_cases hOther : other = turnId
    · rw [hOther, Coordinator.side_append]
      simp
    · rw [Coordinator.side_append_ne _ (.inl hOther), h.emitted]
      simp [hOther]
  · intro other
    by_cases hOther : other = turnId
    · rw [hOther, Coordinator.side_append]
      nofun
    · rw [Coordinator.side_append_ne _ (.inl hOther)]
      exact h.pending other
  · intro entry hEntry
    rw [c.eventsOf_append hType, List.mem_append, List.mem_singleton] at hEntry
    obtain hOld | rfl := hEntry
    · exact h.events entry hOld
    · exact ⟨hPlaced, hEvent.trans hJoined⟩

theorem emitSide (h : Recorded c speaker placed) (who : Speaker) (now : String) (turnId : Int)
    {build : String → Option String → Option String → EventType × Payload}
    (hType : ∀ text start stop, (build text start stop).1 = who.eventType)
    (hText : ∀ text start stop, (build text start stop).2.text = text) :
    Recorded (c.emitSide who build now turnId) speaker placed := by
  rw [Coordinator.emitSide]
  dsimp only
  split
  · exact h
  · next hGuard =>
    obtain ⟨hWaits, hTruthy⟩ : ((c.state turnId).side who).emitted = false ∧
        truthy ((c.state turnId).side who).text = true := by simpa using hGuard
    by_cases hWho : speaker = who
    · subst hWho
      obtain ⟨text, hSome, -⟩ := (Option.any_eq_true _ _).mp hTruthy
      exact h.append hWaits hSome (hType _ _ _) (by rw [hText, hSome, Option.getD_some])
    · apply h.congr
      · intro other
        rw [Coordinator.side_append_ne _ (.inr hWho)]
      · intro other
        rw [Coordinator.side_append_ne _ (.inr hWho)]
      · exact c.eventsOf_append_ne (hType _ _ _) hWho

theorem emitReadySides (h : Recorded c speaker placed) (now : String) (turnId : Int) :
    Recorded (c.emitReadySides now turnId) speaker placed := by
  have hUser : Recorded (c.emitUser now turnId) speaker placed :=
    h.emitSide .user now turnId (fun _ _ _ => rfl) (fun _ _ _ => rfl)
  have hAssistant : Recorded ((c.emitUser now turnId).emitAssistant now turnId) speaker placed :=
    hUser.emitSide .assistant now turnId (fun _ _ _ => rfl) (fun _ _ _ => rfl)
  rw [Coordinator.emitReadySides]
  dsimp only
  split
  · split
    · exact hUser
    · exact hAssistant
  · exact h

theorem flush (h : Recorded c speaker placed) (now : String) : Recorded (c.flush now) speaker placed := by
  rw [Coordinator.flush]
  generalize c.states.keys.insertionSort (· ≤ ·) = turnIds
  induction turnIds generalizing c with
  | nil => exact h
  | cons turnId turnIds ih =>
    rw [List.foldl_cons]
    apply ih
    rw [Coordinator.flushTurn]
    apply emitReadySides
    apply h.modify
    · cases speaker <;> intro state <;> rfl
    · cases speaker <;> intro state <;> rfl

/-! ### Hearing -/

theorem hear (h : Recorded c speaker placed) (now : String) (transcript : Transcript) (turnId : Int)
    (hText : transcript.text ≠ "") (hWaits : (c.side speaker turnId).emitted = false) :
    Recorded (c.modify turnId fun state =>
      state.setSide (c.hear now transcript (state.side speaker)) speaker) speaker
      (placed ++ [(transcript.text, turnId)]) := by
  constructor
  · intro entry hEntry
    rw [List.mem_append, List.mem_singleton] at hEntry
    obtain hOld | rfl := hEntry
    · exact h.texts entry hOld
    · exact hText
  · exact h.nodup
  · intro other
    rw [Coordinator.emitted_modify_hear]
    exact h.emitted other
  · intro other
    by_cases hOther : other = turnId
    · intro _
      rw [hOther, Coordinator.side_modify_setSide, entriesOf_concat]
      exact Coordinator.text_hear _ _ (h.pending turnId hWaits)
    · rw [Coordinator.side_modify_ne _ hOther, entriesOf_concat_ne hOther]
      exact h.pending other
  · intro event hEvent
    have hTurn : event.turn ≠ turnId := by
      intro hSame
      have hEmitted := (h.emitted turnId).mpr (hSame ▸ List.mem_map_of_mem hEvent)
      rw [hWaits] at hEmitted
      cases hEmitted
    rw [entriesOf_concat_ne hTurn]
    exact h.events event hEvent

theorem hear_late (h : Recorded c speaker placed) (now : String) (transcript : Transcript)
    (turnId : Int) (hLate : (c.side speaker turnId).emitted = true) : Recorded (c.modify turnId fun state =>
      state.setSide (c.hear now transcript (state.side speaker)) speaker) speaker placed := by
  constructor
  · exact h.texts
  · exact h.nodup
  · intro other
    rw [Coordinator.emitted_modify_hear]
    exact h.emitted other
  · intro other
    by_cases hOther : other = turnId
    · rw [hOther, Coordinator.side_modify_setSide, Coordinator.emitted_hear, hLate]
      nofun
    · rw [Coordinator.side_modify_ne _ hOther]
      exact h.pending other
  · exact h.events

end Recorded

/-! ## One call -/

namespace Call

def HasText : Call → Prop
  | .userTranscript transcript => transcript.text ≠ ""
  | .assistantTranscript transcript => transcript.text ≠ ""
  | _ => True

instance : DecidablePred HasText
  | .userTranscript transcript => inferInstanceAs (Decidable (transcript.text ≠ ""))
  | .assistantTranscript transcript => inferInstanceAs (Decidable (transcript.text ≠ ""))
  | .turnStarted _ | .turnEnded _ _ | .userStartedSpeaking _ _ | .userStoppedSpeaking _ _
  | .botStartedSpeaking _ _ | .botStoppedSpeaking _ _ | .flush | .setCurrentNode _ _ => .isTrue trivial

def transcriptOf : Call → Speaker → Option Transcript
  | .userTranscript transcript, .user => some transcript
  | .assistantTranscript transcript, .assistant => some transcript
  | _, _ => none

/-- The call records a text for a side that has been emitted. -/
def Late (c : Coordinator) (call : Call) (speaker : Speaker) : Prop :=
  (call.transcriptOf speaker).isSome ∧ (c.side speaker (c.selectTurn speaker)).emitted = true

instance (c : Coordinator) (call : Call) (speaker : Speaker) : Decidable (call.Late c speaker) :=
  inferInstanceAs (Decidable (_ ∧ _))

def placed (c : Coordinator) (call : Call) (speaker : Speaker) : List (String × Int) :=
  match call.transcriptOf speaker with
  | none => []
  | some transcript =>
    if call.Late c speaker then [] else [(transcript.text, c.selectTurn speaker)]

theorem placed_eq_nil (c : Coordinator) {call : Call} {speaker : Speaker}
    (h : call.transcriptOf speaker = none) : call.placed c speaker = [] := by
  rw [placed, h]

end Call

namespace Recorded

variable {c : Coordinator} {speaker : Speaker} {placed : List (String × Int)}

theorem recordTranscript (h : Recorded c speaker placed) (who : Speaker) (call : Call) (now : String)
    (transcript : Transcript) (hCall : call.transcriptOf who = some transcript)
    (hOther : speaker ≠ who → call.transcriptOf speaker = none) (hText : transcript.text ≠ "") :
    Recorded (c.recordTranscript who (c.selectTurn who) now transcript) speaker
      (placed ++ call.placed c speaker) := by
  apply emitReadySides
  by_cases hWho : speaker = who
  · subst hWho
    rw [Call.placed, hCall]
    dsimp only
    split
    · next hLate =>
      rw [List.append_nil]
      exact h.hear_late now transcript _ hLate.2
    · next hOnTime =>
      apply h.hear now transcript _ hText
      rw [Call.Late, hCall] at hOnTime
      simpa using hOnTime
  · rw [Call.placed, hOther hWho, List.append_nil]
    apply h.modify
    · intro state
      rw [TurnTranscriptState.side_setSide_ne _ _ hWho]
    · intro state
      rw [TurnTranscriptState.side_setSide_ne _ _ hWho]

theorem step (h : Recorded c speaker placed) (now : String) (call : Call)
    (hText : call.HasText) : Recorded (c.step now call) speaker (placed ++ call.placed c speaker) := by
  cases call with
  | userTranscript transcript =>
    exact h.recordTranscript .user _ now transcript rfl
      (fun hOther => by cases speaker <;> [exact absurd rfl hOther; rfl]) hText
  | assistantTranscript transcript =>
    exact h.recordTranscript .assistant _ now transcript rfl
      (fun hOther => by cases speaker <;> [rfl; exact absurd rfl hOther]) hText
  | turnStarted turnId =>
    rw [Call.placed_eq_nil c rfl, List.append_nil]
    have hModified := h.modify turnId id (fun _ => rfl) fun _ => rfl
    rw [Coordinator.step, Coordinator.recordTurnStarted]
    dsimp only
    split
    · exact hModified.congr (fun _ => rfl) (fun _ => rfl) rfl
    · exact hModified
  | turnEnded turnId interrupted =>
    rw [Call.placed_eq_nil c rfl, List.append_nil]
    apply emitReadySides
    have hModified := h.modify turnId ({ · with ended := true, interrupted })
      (by cases speaker <;> intro state <;> rfl) (by cases speaker <;> intro state <;> rfl)
    split
    · exact hModified.congr (fun _ => rfl) (fun _ => rfl) rfl
    · exact hModified
  | userStartedSpeaking turnId timestamp =>
    rw [Call.placed_eq_nil c rfl, List.append_nil, Coordinator.step, Coordinator.recordUserStartedSpeaking]
    apply h.modify
    · cases speaker <;> intro state <;> rfl
    · cases speaker <;> intro state <;> rfl
  | userStoppedSpeaking turnId timestamp =>
    rw [Call.placed_eq_nil c rfl, List.append_nil, Coordinator.step, Coordinator.recordUserStoppedSpeaking]
    apply h.modify
    · cases speaker <;> intro state <;> rfl
    · cases speaker <;> intro state <;> rfl
  | botStartedSpeaking turnId timestamp =>
    rw [Call.placed_eq_nil c rfl, List.append_nil, Coordinator.step, Coordinator.recordBotStartedSpeaking]
    apply h.modify
    · cases speaker <;> intro state <;> rfl
    · cases speaker <;> intro state <;> rfl
  | botStoppedSpeaking turnId timestamp =>
    rw [Call.placed_eq_nil c rfl, List.append_nil]
    apply emitReadySides
    apply h.modify
    · cases speaker <;> intro state <;> rfl
    · cases speaker <;> intro state <;> rfl
  | flush =>
    rw [Call.placed_eq_nil c rfl, List.append_nil]
    exact h.flush now
  | setCurrentNode nodeId nodeName =>
    rw [Call.placed_eq_nil c rfl, List.append_nil]
    exact h.congr (fun _ => rfl) (fun _ => rfl) rfl

end Recorded

/-! ## Flushing -/

namespace Coordinator

def Settled (c : Coordinator) (turnId : Int) : Prop :=
  ∀ speaker, (c.side speaker turnId).emitted = true ∨ truthy (c.side speaker turnId).text = false

variable {c : Coordinator} {speaker : Speaker} {turnId : Int} {now : String}
  {build : String → Option String → Option String → EventType × Payload}

theorem side_emitSide_ne {other : Speaker} {otherTurn : Int} (h : otherTurn ≠ turnId ∨ other ≠ speaker) :
    (c.emitSide speaker build now turnId).side other otherTurn = c.side other otherTurn := by
  rw [emitSide]
  dsimp only
  split
  · rfl
  · exact side_append_ne c h

theorem settled_emitSide : ((c.emitSide speaker build now turnId).side speaker turnId).emitted = true ∨
    truthy ((c.emitSide speaker build now turnId).side speaker turnId).text = false := by
  rw [emitSide]
  dsimp only
  split
  · next hGuard => simpa [side] using hGuard
  · rw [side_append]
    exact .inl rfl

theorem side_flushTurn_ne {otherTurn : Int} (h : otherTurn ≠ turnId) :
    (c.flushTurn now turnId).side speaker otherTurn = c.side speaker otherTurn := by
  rw [flushTurn]
  dsimp only
  rw [emitReadySides]
  dsimp only
  split
  · split
    · rw [emitUser, side_emitSide_ne (.inl h), side_modify_ne _ h]
    · rw [emitAssistant, emitUser, side_emitSide_ne (.inl h), side_emitSide_ne (.inl h),
        side_modify_ne _ h]
  · rw [side_modify_ne _ h]

theorem settled_flushTurn : (c.flushTurn now turnId).Settled turnId := by
  have hSilent : ∀ c : Coordinator, (c.state turnId).assistant.speaking = false →
      ((c.emitUser now turnId).state turnId).assistant.speaking = false := by
    intro c hSpeaking
    have hOther : Speaker.assistant ≠ Speaker.user := nofun
    have hSide : (c.emitUser now turnId).side .assistant turnId = c.side .assistant turnId :=
      side_emitSide_ne (.inr hOther)
    rw [show ((c.emitUser now turnId).state turnId).assistant = (c.state turnId).assistant from hSide,
      hSpeaking]
  rw [flushTurn]
  dsimp only
  rw [emitReadySides, if_pos (by rw [state_modify])]
  dsimp only
  rw [if_neg (by rw [hSilent _ (by rw [state_modify])]; nofun)]
  intro speaker
  cases speaker with
  | user =>
    have hOther : Speaker.user ≠ Speaker.assistant := nofun
    rw [emitAssistant, side_emitSide_ne (.inr hOther)]
    exact settled_emitSide
  | assistant => exact settled_emitSide

theorem settled_flush (c : Coordinator) (now : String) (turnId : Int) : (c.flush now).Settled turnId := by
  have hFold : ∀ (turnIds : List Int) (c : Coordinator), turnId ∈ turnIds ∨ c.Settled turnId →
      (turnIds.foldl (fun c turnId => c.flushTurn now turnId) c).Settled turnId := by
    intro turnIds
    induction turnIds with
    | nil => exact fun c h => h.resolve_left List.not_mem_nil
    | cons first turnIds ih =>
      intro c h
      rw [List.foldl_cons]
      apply ih
      by_cases hFirst : turnId = first
      · rw [hFirst]
        exact .inr settled_flushTurn
      · refine h.imp (fun hMem => (List.mem_cons.mp hMem).resolve_left hFirst) fun hSettled => ?_
        intro speaker
        rw [side_flushTurn_ne hFirst]
        exact hSettled speaker
  apply hFold
  by_cases hKnown : turnId ∈ c.states.keys
  · exact .inl ((List.mem_insertionSort _).mpr hKnown)
  · right
    intro speaker
    rw [side, state, AList.lookup_eq_none.mpr hKnown]
    right
    cases speaker <;> rfl

end Coordinator

theorem Recorded.kept {c : Coordinator} {speaker : Speaker} {placed : List (String × Int)}
    (h : Recorded c speaker placed) (hSettled : ∀ turnId, c.Settled turnId) :
    Kept (placed.map (·.1)) (c.eventsOf speaker) := by
  refine ⟨h.nodup, placed, rfl, ?_, fun event hEvent => (h.events event hEvent).2⟩
  intro entry hEntry
  by_contra hMissing
  have hWaits : (c.side speaker entry.2).emitted = false := by
    rw [Bool.eq_false_iff, ne_eq, h.emitted]
    exact hMissing
  have hMem : entry.1 ∈ entriesOf entry.2 placed := mem_entriesOf.mpr hEntry
  have hText := h.pending entry.2 hWaits
  rw [pendingText_eq (List.ne_nil_of_mem hMem)] at hText
  have hFalsy := (hSettled entry.2 speaker).resolve_left (by rw [hWaits]; nofun)
  have hNonempty := intercalate_ne_empty hMem (h.texts entry hEntry)
  simp [truthy, hText, hNonempty] at hFalsy

/-! ## Runs -/

def heard (speaker : Speaker) (calls : List (String × Call)) : List String :=
  calls.filterMap fun entry => (entry.2.transcriptOf speaker).map (·.text)

def OnTime (c : Coordinator) (speaker : Speaker) : List (String × Call) → Prop
  | [] => True
  | (now, call) :: calls => ¬call.Late c speaker ∧ OnTime (c.step now call) speaker calls

def decideOnTime (speaker : Speaker) :
    (calls : List (String × Call)) → (c : Coordinator) → Decidable (OnTime c speaker calls)
  | [], _ => .isTrue trivial
  | (now, call) :: calls, c =>
    have := decideOnTime speaker calls (c.step now call)
    inferInstanceAs (Decidable (¬call.Late c speaker ∧ OnTime (c.step now call) speaker calls))

instance (c : Coordinator) (speaker : Speaker) (calls : List (String × Call)) :
    Decidable (OnTime c speaker calls) := decideOnTime speaker calls c

def placedAlong (c : Coordinator) (speaker : Speaker) : List (String × Call) → List (String × Int)
  | [] => []
  | (now, call) :: calls => call.placed c speaker ++ placedAlong (c.step now call) speaker calls

theorem Recorded.run {c : Coordinator} {speaker : Speaker} {placed : List (String × Int)}
    (h : Recorded c speaker placed) {calls : List (String × Call)}
    (hTexts : ∀ entry ∈ calls, entry.2.HasText) :
    Recorded (c.run calls) speaker (placed ++ placedAlong c speaker calls) := by
  induction calls generalizing c placed with
  | nil =>
    rw [placedAlong, List.append_nil]
    exact h
  | cons entry calls ih =>
    obtain ⟨hFirst, hRest⟩ := List.forall_mem_cons.mp hTexts
    rw [placedAlong, ← List.append_assoc]
    exact ih (h.step entry.1 entry.2 hFirst) hRest

/-! ### Nothing is lost exactly if nothing is late -/

theorem size_append (texts more : List String) : size (texts ++ more) = size texts + size more := by
  simp [size]

theorem heard_cons (speaker : Speaker) (now : String) (call : Call) (calls : List (String × Call)) :
    heard speaker ((now, call) :: calls) =
      ((call.transcriptOf speaker).map (·.text)).toList ++ heard speaker calls := by
  cases h : call.transcriptOf speaker <;> simp [heard, h]

theorem Call.placed_of_onTime {c : Coordinator} {call : Call} {speaker : Speaker} (h : ¬call.Late c speaker) :
    (call.placed c speaker).map (·.1) = ((call.transcriptOf speaker).map (·.text)).toList := by
  rw [Call.placed]
  cases call.transcriptOf speaker with
  | none => rfl
  | some transcript => simp [h]

theorem placedAlong_of_onTime {c : Coordinator} {speaker : Speaker} {calls : List (String × Call)}
    (h : OnTime c speaker calls) : (placedAlong c speaker calls).map (·.1) = heard speaker calls := by
  induction calls generalizing c with
  | nil => rfl
  | cons entry calls ih =>
    obtain ⟨now, call⟩ := entry
    rw [placedAlong, List.map_append, heard_cons, Call.placed_of_onTime h.1, ih h.2]

theorem Call.size_placed (c : Coordinator) (call : Call) (speaker : Speaker) :
    size ((call.placed c speaker).map (·.1)) + (if call.Late c speaker then 1 else 0) ≤
      size ((call.transcriptOf speaker).map (·.text)).toList := by
  split
  · next hLate =>
    obtain ⟨transcript, hTranscript⟩ := Option.isSome_iff_exists.mp hLate.1
    rw [Call.placed, hTranscript]
    simp [hLate, size]
  · next hOnTime => rw [Call.placed_of_onTime hOnTime, Nat.add_zero]

theorem size_placedAlong (c : Coordinator) (speaker : Speaker) (calls : List (String × Call)) :
    size ((placedAlong c speaker calls).map (·.1)) ≤ size (heard speaker calls) ∧
      (size (heard speaker calls) ≤ size ((placedAlong c speaker calls).map (·.1)) →
        OnTime c speaker calls) := by
  induction calls generalizing c with
  | nil => exact ⟨Nat.le_refl _, fun _ => trivial⟩
  | cons entry calls ih =>
    obtain ⟨now, call⟩ := entry
    obtain ⟨hLe, hOnTime⟩ := ih (c.step now call)
    have hCall := call.size_placed c speaker
    rw [placedAlong, List.map_append, heard_cons, size_append, size_append]
    refine ⟨by omega, fun hAll => ⟨?_, hOnTime (by omega)⟩⟩
    intro hLate
    rw [if_pos hLate] at hCall
    omega

theorem Kept.size_eq {texts : List String} {events : List Event} (h : Kept texts events)
    (hNonempty : ∀ event ∈ events, event.payload.text ≠ "") :
    size texts = (events.map fun event => event.payload.text.length + 1).sum := by
  obtain ⟨hNodup, placed, hTexts, hCovered, hJoined⟩ := h
  have hGrouped := sum_entriesOf (fun text : String => text.length + 1) hNodup hCovered
  rw [← hTexts, size, List.map_map]
  refine hGrouped.symm.trans ?_
  rw [List.map_map]
  refine congrArg List.sum (List.map_congr_left fun event hEvent => ?_)
  have hSome : entriesOf event.turn placed ≠ [] := by
    intro hNone
    have hText := hJoined event hEvent
    rw [hNone] at hText
    exact hNonempty event hEvent hText
  rw [hJoined event hEvent, size_intercalate hSome]
  rfl

theorem Recorded.event_text {c : Coordinator} {speaker : Speaker} {placed : List (String × Int)}
    (h : Recorded c speaker placed) : ∀ event ∈ c.eventsOf speaker, event.payload.text ≠ "" := by
  intro event hEvent
  obtain ⟨hSome, hText⟩ := h.events event hEvent
  obtain ⟨text, hMem⟩ := List.exists_mem_of_ne_nil _ hSome
  rw [hText]
  exact intercalate_ne_empty hMem (h.texts _ (mem_entriesOf.mp hMem))

theorem kept_iff_onTime (calls : List (String × Call)) (now : String) (speaker : Speaker)
    (hTexts : ∀ entry ∈ calls, entry.2.HasText) :
    Kept (heard speaker calls) (((Coordinator.run {} calls).flush now).eventsOf speaker) ↔
      OnTime {} speaker calls := by
  have hRecorded := ((Recorded.initial speaker).run hTexts).flush now
  rw [List.nil_append] at hRecorded
  have hKept := hRecorded.kept fun turnId => Coordinator.settled_flush _ now turnId
  constructor
  · intro h
    apply (size_placedAlong {} speaker calls).2
    rw [h.size_eq hRecorded.event_text, hKept.size_eq hRecorded.event_text]
  · intro h
    rw [← placedAlong_of_onTime h]
    exact hKept

/-- The log holds every text exactly if no text came when the side of its turn had been emitted. -/
theorem transcripts_kept_iff (calls : List (String × Call)) (now : String)
    (hTexts : ∀ entry ∈ calls, entry.2.HasText) :
    (∀ speaker, Kept (heard speaker calls) (((Coordinator.run {} calls).flush now).eventsOf speaker)) ↔
      ∀ speaker, OnTime {} speaker calls := by
  exact forall_congr' fun speaker => kept_iff_onTime calls now speaker hTexts

/-! A user speaks twice in a turn, which ends before or after the second text. -/

def firstText : Transcript := ⟨"Yeah, yeah. I'm just like,", some "09:55:22", none, none⟩

def secondText : Transcript := ⟨"what to get", some "09:55:28", none, none⟩

def inOneTurn : List (String × Call) :=
  [("09:55:22", .turnStarted 2), ("09:55:27", .userTranscript firstText),
    ("09:55:29", .userTranscript secondText), ("09:55:30", .turnEnded 2 false)]

def afterTheTurn : List (String × Call) :=
  [("09:55:22", .turnStarted 2), ("09:55:27", .userTranscript firstText),
    ("09:55:28", .turnEnded 2 false), ("09:55:29", .userTranscript secondText)]

theorem inOneTurn_kept : (∀ speaker, OnTime {} speaker inOneTurn) ∧
    ∀ speaker, Kept (heard speaker inOneTurn)
      (((Coordinator.run {} inOneTurn).flush "09:56:00").eventsOf speaker) := by
  have hOnTime : ∀ speaker, OnTime {} speaker inOneTurn := by
    intro speaker
    cases speaker <;> decide +kernel
  exact ⟨hOnTime, (transcripts_kept_iff inOneTurn "09:56:00" (by decide)).mpr hOnTime⟩

theorem afterTheTurn_lost : ¬∀ speaker, Kept (heard speaker afterTheTurn)
    (((Coordinator.run {} afterTheTurn).flush "09:56:00").eventsOf speaker) := by
  intro h
  have hOnTime := (kept_iff_onTime afterTheTurn "09:56:00" .user (by decide)).mp
    (h .user)
  revert hOnTime
  decide +kernel

end FastVoice.Transcripts
