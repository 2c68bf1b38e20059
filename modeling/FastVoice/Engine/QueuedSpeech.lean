import FastVoice.Runtime.Machine
import Mathlib.Logic.Function.Basic

/-! # The mute of the user while queued speech is under way

A transition or a tool that speaks mutes the user before its speech is fetched or queued. The mute ends when the bot
stops speaking, whatever it has said.
-/
namespace FastVoice.Engine.QueuedSpeech

inductive MuteState
  | idle
  | waiting
  | playing
  deriving DecidableEq

structure PipecatEngine where
  mutePipeline : Bool
  queuedSpeechMuteState : MuteState
  botIsSpeaking : Bool
  allowInterrupt : Option Bool
  speechPlaybackStarted : Bool
  speechPlaybackFinished : Bool
  /-- `_fetch_recording_audio` is set. -/
  fetchesRecordings : Bool

inductive Frame
  | botStartedSpeaking
  | botStoppedSpeaking
  | other
  deriving DecidableEq

def PipecatEngine.track (engine : PipecatEngine) : Frame → PipecatEngine
  | .botStartedSpeaking =>
    { engine with
      botIsSpeaking := true
      queuedSpeechMuteState :=
        if engine.queuedSpeechMuteState = .waiting then .playing else engine.queuedSpeechMuteState
      speechPlaybackStarted := true
      speechPlaybackFinished := false }
  | .botStoppedSpeaking =>
    { engine with botIsSpeaking := false, queuedSpeechMuteState := .idle, speechPlaybackFinished := true }
  | .other => engine

def PipecatEngine.shouldMuteUser (engine : PipecatEngine) (frame : Frame) : Bool × PipecatEngine :=
  let engine := engine.track frame
  if engine.mutePipeline then (true, engine)
  else if engine.queuedSpeechMuteState ≠ .idle then (true, engine)
  else (engine.botIsSpeaking && engine.allowInterrupt.any (!·), engine)

/-- A call of a function. Empty texts are missing ones. -/
inductive Call
  | transition (speechType speech recordingId : String)
  | httpTool (messageType message recordingPk : String)

inductive Speech
  | text (speech : String)
  | audio (recording : String)

def Call.speech (fetchesRecordings : Bool) : Call → Option Speech
  | .transition speechType speech recordingId =>
    if speechType = "audio" && recordingId ≠ "" && fetchesRecordings then some (.audio recordingId)
    else if speech ≠ "" then some (.text speech)
    else none
  | .httpTool messageType message recordingPk =>
    if messageType = "audio" then
      if recordingPk ≠ "" && fetchesRecordings then some (.audio recordingPk) else none
    else if message ≠ "" then some (.text message)
    else none

inductive Progress
  | fetching
  | queued
  deriving DecidableEq

structure Session where
  engine : PipecatEngine
  speeches : Nat → Option Progress

inductive Fetched
  | audio
  | nothing
  | raised
  deriving DecidableEq

inductive Event
  /-- A call reaches its speech. It may raise there, when it reads the recording's id or queues the text. -/
  | call (id : Nat) (call : Call) (raises : Bool)
  | fetched (id : Nat) (result : Fetched)
  /-- A frame. The given speeches have been played when the bot stops. -/
  | frame (frame : Frame) (played : List Nat)
  | setNode (allowInterrupt : Option Bool)
  | setMutePipeline (mute : Bool)

def Session.mute (s : Session) (id : Nat) (progress : Option Progress) : Session where
  engine := { s.engine with queuedSpeechMuteState := .waiting }
  speeches := Function.update s.speeches id progress

def Session.play (s : Session) (played : List Nat) : Nat → Option Progress := fun id =>
  if s.speeches id = some .queued ∧ id ∈ played then none else s.speeches id

def sessions : Machine Session Event where
  step
    | s, .call id call raises =>
      if s.speeches id = none then
        some <| match call.speech s.engine.fetchesRecordings with
          | none => s
          | some (.audio _) => s.mute id (if raises then none else some .fetching)
          | some (.text _) => s.mute id (if raises then none else some .queued)
      else none
    | s, .fetched id result =>
      if s.speeches id = some .fetching then
        some { s with speeches := Function.update s.speeches id (if result = .audio then some .queued else none) }
      else none
    | s, .frame .botStoppedSpeaking played =>
      some ⟨(s.engine.shouldMuteUser .botStoppedSpeaking).2, s.play played⟩
    | s, .frame frame _ => some { s with engine := (s.engine.shouldMuteUser frame).2 }
    | s, .setNode allowInterrupt => some { s with engine := { s.engine with allowInterrupt := allowInterrupt } }
    | s, .setMutePipeline mute => some { s with engine := { s.engine with mutePipeline := mute } }

def Session.UnderWay (s : Session) : Prop := ∃ id, s.speeches id ≠ none

/-- The user is muted for speech that is fetched, queued or played. -/
def Awaited (s : Session) : Prop := s.engine.queuedSpeechMuteState ≠ .idle → s.UnderWay

/-- A speech that fails leaves another one under way, or comes to nothing only after the bot has stopped speaking. -/
def FailsSafely (s : Session) : Event → Prop
  | .call _ call raises => raises = true → call.speech s.engine.fetchesRecordings ≠ none → s.UnderWay
  | .fetched id result => result ≠ .audio →
    s.engine.queuedSpeechMuteState = .idle ∨ ∃ other, other ≠ id ∧ s.speeches other ≠ none
  | _ => True

section

variable {engine : PipecatEngine} {s next : Session} {id : Nat}

theorem shouldMuteUser_engine (engine : PipecatEngine) (frame : Frame) :
    (engine.shouldMuteUser frame).2 = engine.track frame := by
  unfold PipecatEngine.shouldMuteUser
  dsimp only
  split
  · rfl
  · split <;> rfl

theorem idle_track {frame : Frame} (h : engine.queuedSpeechMuteState = .idle) :
    (engine.track frame).queuedSpeechMuteState = .idle := by
  cases frame with
  | botStartedSpeaking => simp [PipecatEngine.track, h]
  | botStoppedSpeaking => rfl
  | other => exact h

theorem speeches_mute (s : Session) (id : Nat) (progress : Option Progress) :
    (s.mute id progress).speeches = Function.update s.speeches id progress := rfl

theorem underWay_mute_iff (hNew : s.speeches id = none) (progress : Option Progress) :
    (s.mute id progress).UnderWay ↔ progress ≠ none ∨ s.UnderWay := by
  constructor
  · rintro ⟨other, hOther⟩
    by_cases hSame : other = id
    · rw [hSame, speeches_mute, Function.update_self] at hOther
      exact .inl hOther
    · rw [speeches_mute, Function.update_of_ne hSame] at hOther
      exact .inr ⟨other, hOther⟩
  · rintro (hHere | ⟨other, hOther⟩)
    · exact ⟨id, by rwa [speeches_mute, Function.update_self]⟩
    · have hSame : other ≠ id := fun h => hOther (h ▸ hNew)
      exact ⟨other, by rwa [speeches_mute, Function.update_of_ne hSame]⟩

theorem awaited_mute_iff (hNew : s.speeches id = none) (progress : Option Progress) :
    Awaited (s.mute id progress) ↔ progress ≠ none ∨ s.UnderWay := by
  rw [← underWay_mute_iff hNew]
  exact imp_iff_right nofun

theorem awaited_call_iff {call : Call} {raises : Bool} (h : Awaited s)
    (hNext : sessions.step s (.call id call raises) = some next) :
    Awaited next ↔ FailsSafely s (.call id call raises) := by
  obtain ⟨hNew, hNext⟩ := Option.ite_none_right_eq_some.mp hNext
  cases hNext
  cases hSpeech : call.speech s.engine.fetchesRecordings with
  | none => exact iff_of_true h fun _ hSome => absurd hSpeech hSome
  | some speech =>
    have hSafe : FailsSafely s (.call id call raises) ↔ raises = false ∨ s.UnderWay := by
      cases raises <;> simp [FailsSafely, hSpeech]
    rw [hSafe]
    cases speech with
    | audio recording =>
      refine (awaited_mute_iff hNew _).trans (or_congr_left ?_)
      cases raises <;> simp
    | text speech =>
      refine (awaited_mute_iff hNew _).trans (or_congr_left ?_)
      cases raises <;> simp

theorem awaited_fetched_iff {result : Fetched} (hNext : sessions.step s (.fetched id result) = some next) :
    Awaited next ↔ FailsSafely s (.fetched id result) := by
  obtain ⟨hFetching, hNext⟩ := Option.ite_none_right_eq_some.mp hNext
  cases hNext
  by_cases hAudio : result = .audio
  · refine iff_of_true (fun _ => ⟨id, ?_⟩) fun h => absurd hAudio h
    simp [hAudio]
  · have hOthers : (∃ other, Function.update s.speeches id none other ≠ none) ↔
        ∃ other, other ≠ id ∧ s.speeches other ≠ none := by
      refine exists_congr fun other => ?_
      by_cases hSame : other = id
      · simp [hSame]
      · simp [hSame]
    rw [if_neg hAudio]
    change (_ → ∃ other, Function.update s.speeches id none other ≠ none) ↔ (_ → _ ∨ _)
    rw [hOthers, imp_iff_right hAudio, ne_eq, ← or_iff_not_imp_left]

theorem awaited_step_iff (event : Event) (h : Awaited s) (hNext : sessions.step s event = some next) :
    Awaited next ↔ FailsSafely s event := by
  cases event with
  | call id call raises => exact awaited_call_iff h hNext
  | fetched id result => exact awaited_fetched_iff hNext
  | frame frame played =>
    cases frame with
    | botStoppedSpeaking =>
      cases hNext
      refine iff_of_true (fun hMuted => absurd ?_ hMuted) trivial
      rw [shouldMuteUser_engine]
      rfl
    | botStartedSpeaking =>
      cases hNext
      refine iff_of_true (fun hMuted => h fun hIdle => hMuted ?_) trivial
      rw [shouldMuteUser_engine]
      exact idle_track hIdle
    | other =>
      cases hNext
      refine iff_of_true (fun hMuted => h fun hIdle => hMuted ?_) trivial
      rw [shouldMuteUser_engine]
      exact idle_track hIdle
  | setNode allowInterrupt =>
    cases hNext
    exact iff_of_true h trivial
  | setMutePipeline mute =>
    cases hNext
    exact iff_of_true h trivial

end

/-- In every state of a run the user is muted for speech that comes exactly if each speech that fails does so safely. -/
theorem awaited_iff {s last : Session} {events : List Event} (hStart : Awaited s)
    (hRun : sessions.run s events = some last) :
    (∀ n mid, sessions.run s (events.take n) = some mid → Awaited mid) ↔ sessions.Follows FailsSafely s events :=
  Machine.throughout_iff (fun _ event _ _ h hNext => ⟨awaited_step_iff event h hNext, fun _ => trivial⟩)
    hRun trivial hStart

def silent : Session := ⟨⟨false, .idle, false, some true, false, true, true⟩, fun _ => none⟩

def recordedTransition : Call := .transition "audio" "" "7"

def found : List Event :=
  [.call 0 recordedTransition false, .fetched 0 .audio, .frame .botStartedSpeaking [], .frame .botStoppedSpeaking [0]]

theorem awaited_found :
    (∀ n mid, sessions.run silent (found.take n) = some mid → Awaited mid) ↔
      sessions.Follows FailsSafely silent found :=
  awaited_iff (fun hMuted => absurd rfl hMuted) (rfl : sessions.run silent found = some _)

theorem muted_without_speech : ∃ last, sessions.run silent [.call 0 recordedTransition false, .fetched 0 .nothing] =
    some last ∧ last.engine.queuedSpeechMuteState ≠ .idle ∧ (∀ id, last.speeches id = none) ∧
      ∀ n, ∃ later, sessions.run last (List.replicate n (.frame .other [])) = some later ∧
        (later.engine.shouldMuteUser .other).1 = true := by
  refine ⟨_, rfl, nofun, fun id => ?_, fun n => ?_⟩
  · by_cases hId : id = 0
    · rw [hId]
      rfl
    · exact (Function.update_of_ne hId _ _).trans (Function.update_of_ne hId _ _)
  · induction n with
    | zero => exact ⟨_, rfl, rfl⟩
    | succ n ih => exact ih

end FastVoice.Engine.QueuedSpeech
