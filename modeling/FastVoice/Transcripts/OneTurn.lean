import Mathlib
import FastVoice.Transcripts.NothingLost

/-! # The facts of one turn

While the turns before it neither log nor expect anything, every fact of a turn is recorded for that turn, and each
of its sides changes on its own.
-/
namespace FastVoice.Transcripts

abbrev Reading := {text : String // text ≠ ""}

/-- A stretch of speech has a number, which its start and its stop share. -/
inductive Fact where
  | started (speaker : Speaker) (stretch : Nat) (timestamp : Option String)
  | stopped (speaker : Speaker) (stretch : Nat) (timestamp : Option String)
  | said (speaker : Speaker) (transcript : Transcript)
  | ended (interrupted : Bool)

structure Report where
  now : Reading
  fact : Fact

namespace Report

def call (turnId : Int) (report : Report) : String × Call :=
  (report.now, match report.fact with
    | .started .user _ timestamp => .userStartedSpeaking turnId timestamp
    | .started .assistant _ timestamp => .botStartedSpeaking turnId timestamp
    | .stopped .user _ timestamp => .userStoppedSpeaking turnId timestamp
    | .stopped .assistant _ timestamp => .botStoppedSpeaking turnId timestamp
    | .said .user transcript => .userTranscript transcript
    | .said .assistant transcript => .assistantTranscript transcript
    | .ended interrupted => .turnEnded turnId interrupted)

def startTime (speaker : Speaker) (report : Report) : Option String :=
  match report.fact with
  | .started other _ timestamp => if other = speaker then some (orElse timestamp report.now) else none
  | _ => none

def stopTime (speaker : Speaker) (report : Report) : Option String :=
  match report.fact with
  | .stopped other _ timestamp => if other = speaker then some (orElse timestamp report.now) else none
  | _ => none

def transcript (speaker : Speaker) (report : Report) : Option Transcript :=
  match report.fact with
  | .said other transcript => if other = speaker then some transcript else none
  | _ => none

def isEnd (report : Report) : Bool :=
  match report.fact with
  | .ended _ => true
  | _ => false

def emits (report : Report) : Bool :=
  match report.fact with
  | .started _ _ _ => false
  | .stopped speaker _ _ => speaker = .assistant
  | _ => true

end Report

/-! ## One side -/

structure Timing where
  text : Option String := none
  transcriptTimestamp : Option String := none
  start : Option String := none
  stop : Option String := none
  speaking : Bool := false

def TranscriptSide.timing (side : TranscriptSide) : Timing :=
  ⟨side.text, side.transcriptTimestamp, side.speechStartTimestamp, side.speechEndTimestamp, side.speaking⟩

structure Line where
  text : String
  timestamp : Option String
  endTimestamp : Option String
  deriving DecidableEq

def Event.line (event : Event) : Line := ⟨event.payload.text, event.payload.timestamp, event.payload.endTimestamp⟩

namespace Timing

variable (timing : Timing)

def line : Option Line :=
  if truthy timing.text then
    some ⟨timing.text.getD "", if truthy timing.start then timing.start else timing.transcriptTimestamp, timing.stop⟩
  else none

def began (speaker : Speaker) (time : String) : Timing :=
  { timing with
    start := some (match speaker, timing.start with
      | .user, some previousStart => earlier previousStart time
      | .assistant, some previousStart => previousStart
      | _, none => time)
    speaking := true }

def finished (speaker : Speaker) (time : String) : Timing :=
  { timing with
    stop := some (match speaker, timing.stop with
      | .user, some previousEnd => later previousEnd time
      | _, _ => time)
    speaking := false }

def heard (transcript : Transcript) : Timing :=
  { timing with
    text := some (match timing.text with
      | none => transcript.text
      | some text => text ++ "\n" ++ transcript.text)
    transcriptTimestamp := if timing.text.isNone then transcript.timestamp else timing.transcriptTimestamp
    stop := if truthy transcript.endTimestamp && !truthy timing.stop then transcript.endTimestamp else timing.stop }

def note (speaker : Speaker) (report : Report) : Timing :=
  match report.startTime speaker, report.stopTime speaker, report.transcript speaker with
  | some time, _, _ => timing.began speaker time
  | _, some time, _ => timing.finished speaker time
  | _, _, some transcript => timing.heard transcript
  | none, none, none => timing

end Timing

structure Side where
  timing : Timing := {}
  ended : Bool := false
  told : Option Line := none

namespace Side

def tell (speaker : Speaker) (side : Side) : Side :=
  if speaker = .assistant ∧ side.timing.speaking = true then side
  else { side with told := side.told <|> side.timing.line }

def record (speaker : Speaker) (side : Side) (report : Report) : Side :=
  let side := { side with timing := side.timing.note speaker report, ended := side.ended || report.isEnd }
  if report.emits = true ∧ side.ended = true then side.tell speaker else side

def after (speaker : Speaker) (reports : List Report) : Side := reports.foldl (record speaker) {}

def flushed (side : Side) : Option Line := side.told <|> side.timing.line

def flush (side : Side) : Side :=
  { side with timing := { side.timing with speaking := false }, ended := true, told := side.flushed }

@[simp] theorem flushed_flush (side : Side) : side.flush.flushed = side.flushed := by
  unfold flush flushed
  cases side.told with
  | some told => rfl
  | none =>
    change (side.timing.line <|> side.timing.line) = _
    cases side.timing.line <;> rfl

end Side

/-! ## The side in the coordinator -/

namespace Coordinator

variable {c : Coordinator} {turnId other : Int} {base : Speaker → List Line}

structure Shows (c : Coordinator) (turnId : Int) (base : List Line) (speaker : Speaker) (side : Side) : Prop where
  timing : (c.side speaker turnId).timing = side.timing
  ended : (c.state turnId).ended = side.ended
  emitted : (c.side speaker turnId).emitted = side.told.isSome
  events : (c.eventsOf speaker).map Event.line = base ++ side.told.toList

structure Past (c : Coordinator) (turnId : Int) : Prop where
  known : turnId ∈ c.states
  before : ∀ other ∈ c.states, other ≤ turnId
  silent : ∀ other, other ≠ turnId → c.Settled other
  unasked : ∀ other speaker, other ≠ turnId → (c.side speaker other).text = none →
    truthy (c.side speaker other).speechStartTimestamp = false
  active : c.activeTurnId = none ∨ c.activeTurnId = some turnId

structure Frame (c c' : Coordinator) (turnId : Int) : Prop where
  states : ∀ other, other ≠ turnId → c'.state other = c.state other
  keys : ∀ other, other ∈ c'.states ↔ other = turnId ∨ other ∈ c.states
  active : c'.activeTurnId = c.activeTurnId

theorem frame_modify (c : Coordinator) (turnId : Int) (f : TurnTranscriptState → TurnTranscriptState) :
    Frame c (c.modify turnId f) turnId where
  states _ h := c.state_modify_ne h f
  keys _ := AList.mem_insert _
  active := rfl

theorem Frame.trans {c c' c'' : Coordinator} (h : Frame c c' turnId) (h' : Frame c' c'' turnId) :
    Frame c c'' turnId where
  states other hOther := (h'.states other hOther).trans (h.states other hOther)
  keys other := by rw [h'.keys, h.keys, or_self_left]
  active := h'.active.trans h.active

theorem Past.of_frame {c' : Coordinator} (h : c.Past turnId) (hFrame : Frame c c' turnId) : c'.Past turnId where
  known := (hFrame.keys turnId).mpr (.inl rfl)
  before other hOther := by
    obtain rfl | hKnown := (hFrame.keys other).mp hOther
    · exact le_rfl
    · exact h.before other hKnown
  silent other hOther speaker := by
    rw [side, hFrame.states other hOther]
    exact h.silent other hOther speaker
  unasked other speaker hOther := by
    rw [side, hFrame.states other hOther]
    exact h.unasked other speaker hOther
  active := hFrame.active ▸ h.active

/-! ### Emitting -/

section Emit

variable {speaker who : Speaker} {build : String → Option String → Option String → EventType × Payload}
  {now : String} {line : List Line} {s : Side}

theorem frame_refl (h : turnId ∈ c.states) : Frame c c turnId where
  states _ _ := rfl
  keys other := by
    constructor
    · exact .inr
    · rintro (rfl | hOther)
      · exact h
      · exact hOther
  active := rfl

theorem frame_emitSide (h : turnId ∈ c.states) : Frame c (c.emitSide who build now turnId) turnId := by
  rw [emitSide]
  dsimp only
  split
  · exact frame_refl h
  · obtain ⟨hStates, hKeys, hActive⟩ := frame_modify c turnId fun state =>
      state.setSide { (c.state turnId).side who with emitted := true } who
    exact ⟨hStates, hKeys, hActive⟩

theorem frame_emitReadySides (h : turnId ∈ c.states) : Frame c (c.emitReadySides now turnId) turnId := by
  have hUser : Frame c (c.emitUser now turnId) turnId := frame_emitSide h
  rw [emitReadySides]
  dsimp only
  split
  · split
    · exact hUser
    · exact hUser.trans (frame_emitSide ((hUser.keys turnId).mpr (.inl rfl)))
  · exact frame_refl h

structure Builds (speaker : Speaker) (build : String → Option String → Option String → EventType × Payload) : Prop where
  type : ∀ text start stop, (build text start stop).1 = speaker.eventType
  line : ∀ text start stop, (build text start stop).2.text = text ∧ (build text start stop).2.timestamp = start ∧
    (build text start stop).2.endTimestamp = stop

theorem builds_user : Builds .user buildUserTranscriptionEvent := ⟨fun _ _ _ => rfl, fun _ _ _ => ⟨rfl, rfl, rfl⟩⟩

theorem builds_assistant : Builds .assistant buildBotTextEvent := ⟨fun _ _ _ => rfl, fun _ _ _ => ⟨rfl, rfl, rfl⟩⟩

theorem Shows.emitSide_ne (h : Shows c turnId line speaker s) (hBuild : Builds who build) (hOther : speaker ≠ who) :
    Shows (c.emitSide who build now turnId) turnId line speaker s := by
  rw [emitSide]
  dsimp only
  split
  · exact h
  · constructor
    · rw [side_append_ne c (.inr hOther)]
      exact h.timing
    · rw [state_append, state_modify, TurnTranscriptState.ended_setSide]
      exact h.ended
    · rw [side_append_ne c (.inr hOther)]
      exact h.emitted
    · rw [eventsOf_append_ne c (hBuild.type _ _ _) hOther]
      exact h.events

theorem Shows.emitSide_self (h : Shows c turnId line speaker s) (hBuild : Builds speaker build) :
    Shows (c.emitSide speaker build now turnId) turnId line speaker { s with told := s.told <|> s.timing.line } := by
  have hText : s.timing.text = ((c.state turnId).side speaker).text := congrArg Timing.text h.timing.symm
  have hEmitted : ((c.state turnId).side speaker).emitted = s.told.isSome := h.emitted
  rw [emitSide]
  dsimp only
  split
  · rename_i hGuard
    have hSame : (s.told <|> s.timing.line) = s.told := by
      cases hTold : s.told with
      | some told => rfl
      | none =>
        rw [hEmitted, hTold, ← hText] at hGuard
        simp only [Option.isSome_none, Bool.false_or, Bool.not_eq_true'] at hGuard
        simp [Timing.line, hGuard]
    rw [hSame]
    exact h
  · rename_i hGuard
    simp only [Bool.or_eq_true, not_or, Bool.not_eq_true, Bool.not_eq_false'] at hGuard
    have hTold : s.told = none := by
      rw [← Option.not_isSome_iff_eq_none, ← hEmitted, hGuard.1]
      exact Bool.false_ne_true
    have hLine : s.timing.line = some ⟨((c.state turnId).side speaker).text.getD "",
        if truthy ((c.state turnId).side speaker).speechStartTimestamp then
          ((c.state turnId).side speaker).speechStartTimestamp
        else ((c.state turnId).side speaker).transcriptTimestamp,
        ((c.state turnId).side speaker).speechEndTimestamp⟩ := by
      rw [← h.timing, Timing.line]
      exact if_pos hGuard.2
    constructor
    · rw [side_append]
      exact h.timing
    · rw [state_append, state_modify, TurnTranscriptState.ended_setSide]
      exact h.ended
    · rw [side_append, hTold, hLine]
      rfl
    · obtain ⟨hPayload, hStart, hStop⟩ := hBuild.line (((c.state turnId).side speaker).text.getD "")
        (if truthy ((c.state turnId).side speaker).speechStartTimestamp then
          ((c.state turnId).side speaker).speechStartTimestamp
        else ((c.state turnId).side speaker).transcriptTimestamp) ((c.state turnId).side speaker).speechEndTimestamp
      have hEvents := h.events
      rw [hTold] at hEvents
      rw [eventsOf_append c (hBuild.type _ _ _), List.map_append, hEvents, hTold, hLine]
      simp [Event.line, stampRealtimeFeedbackEvent, hPayload, hStart, hStop]

theorem shows_emitReadySides {base : Speaker → List Line} {sides : Speaker → Side}
    (h : ∀ speaker, Shows c turnId (base speaker) speaker (sides speaker)) (speaker : Speaker) :
    Shows (c.emitReadySides now turnId) turnId (base speaker) speaker
      (if (sides speaker).ended = true then (sides speaker).tell speaker else sides speaker) := by
  have hOther : Speaker.assistant ≠ Speaker.user := nofun
  have hUser : Shows (c.emitUser now turnId) turnId (base .user) .user ((sides .user).tell .user) :=
    (h .user).emitSide_self builds_user
  have hAssistant : Shows (c.emitUser now turnId) turnId (base .assistant) .assistant (sides .assistant) :=
    (h .assistant).emitSide_ne builds_user hOther
  have hSpeaking : ((c.emitUser now turnId).state turnId).assistant.speaking = (sides .assistant).timing.speaking :=
    congrArg Timing.speaking hAssistant.timing
  have hEnded : (c.state turnId).ended = (sides speaker).ended := (h speaker).ended
  rw [emitReadySides, hEnded]
  dsimp only
  split
  · rw [hSpeaking]
    split
    · rename_i hStill
      cases speaker with
      | user => exact hUser
      | assistant => rwa [Side.tell, if_pos ⟨rfl, hStill⟩]
    · rename_i hStill
      cases speaker with
      | user => exact hUser.emitSide_ne builds_assistant hOther.symm
      | assistant =>
        rw [Side.tell, if_neg fun hBoth => hStill hBoth.2]
        exact hAssistant.emitSide_self builds_assistant
  · exact h speaker

end Emit

/-! ### The calls -/

section Calls

variable {speaker : Speaker} {now : String} {line : List Line} {s : Side}

theorem mem_turnsWhere {p : TurnTranscriptState → Bool} (h : other ∈ c.turnsWhere p) : p (c.state other) = true := by
  obtain ⟨⟨key, state⟩, hEntry, rfl⟩ := List.mem_map.mp h
  obtain ⟨hMem, hHolds⟩ := List.mem_filter.mp hEntry
  have hLookup : c.states.lookup key = some state := AList.mem_lookup_iff.mpr hMem
  rw [Coordinator.state, hLookup]
  exact hHolds

theorem chosen_eq {turns : List Int} {fallback : Int} (h : ∀ other ∈ turns, other = turnId)
    (hFallback : fallback = turnId) : turns.min?.getD fallback = turnId := by
  cases hLeast : turns.min? with
  | none => exact hFallback
  | some least => exact h least (List.min?_mem hLeast)

theorem latestTurn_eq (h : c.Past turnId) : c.latestTurn = turnId := by
  unfold latestTurn
  cases hLatest : c.states.keys.max? with
  | none =>
    rw [List.max?_eq_none_iff] at hLatest
    have hKnown := AList.mem_keys.mp h.known
    rw [hLatest] at hKnown
    cases hKnown
  | some latest =>
    obtain ⟨hMem, hLargest⟩ := List.max?_eq_some_iff.mp hLatest
    exact le_antisymm (h.before latest (AList.mem_keys.mpr hMem)) (hLargest turnId (AList.mem_keys.mp h.known))

theorem expecting_eq (h : c.Past turnId) (speaker : Speaker) (p : TurnTranscriptState → Bool)
    (hExpects : ∀ state, p state = true →
      truthy (state.side speaker).speechStartTimestamp = true ∧ (state.side speaker).text = none) :
    ∀ other ∈ c.turnsWhere p, other = turnId := by
  intro other hMem
  obtain ⟨hStart, hText⟩ := hExpects _ (mem_turnsWhere hMem)
  by_contra hOther
  have hNone := h.unasked other speaker hOther hText
  rw [side, hStart] at hNone
  cases hNone

theorem active_eq (h : c.Past turnId) {p : Int → Bool} {active : Int}
    (hActive : c.activeTurnId.filter p = some active) : active = turnId := by
  obtain ⟨hSome, -⟩ := Option.filter_eq_some_iff.mp hActive
  obtain hNone | hTurn := h.active
  · rw [hNone] at hSome
    cases hSome
  · exact Option.some.inj (hSome.symm.trans hTurn)

theorem selectUserTurn_eq (h : c.Past turnId) : c.selectUserTurn = turnId := by
  unfold selectUserTurn
  dsimp only
  split
  · rename_i hActive
    exact active_eq h hActive
  · apply chosen_eq (expecting_eq h .user _ fun state hState => ?_) (latestTurn_eq h)
    simpa [TurnTranscriptState.side] using hState

theorem selectAssistantTurn_eq (h : c.Past turnId) : c.selectAssistantTurn = turnId := by
  unfold selectAssistantTurn
  dsimp only
  split
  · rename_i hInterrupted
    apply expecting_eq h .assistant _ (fun state hState => ?_) _ (List.min?_mem hInterrupted)
    simp only [Bool.and_eq_true, Option.isNone_iff_eq_none] at hState
    exact hState.1.1
  · split
    · rename_i hActive
      exact active_eq h hActive
    · apply chosen_eq (expecting_eq h .assistant _ fun state hState => ?_) (latestTurn_eq h)
      simpa [TurnTranscriptState.side] using hState

structure Notes (report : Report) (f : TurnTranscriptState → TurnTranscriptState) : Prop where
  timing : ∀ state speaker, ((f state).side speaker).timing = (state.side speaker).timing.note speaker report
  ended : ∀ state, (f state).ended = (state.ended || report.isEnd)
  emitted : ∀ state speaker, ((f state).side speaker).emitted = (state.side speaker).emitted

theorem shows_notes {base : Speaker → List Line} {sides : Speaker → Side} {report : Report}
    {f : TurnTranscriptState → TurnTranscriptState} (hNotes : Notes report f)
    (h : ∀ speaker, Shows c turnId (base speaker) speaker (sides speaker)) (speaker : Speaker) :
    Shows (c.modify turnId f) turnId (base speaker) speaker { sides speaker with
        timing := (sides speaker).timing.note speaker report
        ended := (sides speaker).ended || report.isEnd } where
  timing := by rw [side, state_modify, hNotes.timing, ← (h speaker).timing, side]
  ended := by rw [state_modify, hNotes.ended, (h speaker).ended]
  emitted := by rw [side, state_modify, hNotes.emitted, ← (h speaker).emitted, side]
  events := (h speaker).events

theorem record_silent {report : Report} (h : report.emits = false) (speaker : Speaker) (s : Side) :
    s.record speaker report =
      { s with timing := s.timing.note speaker report, ended := s.ended || report.isEnd } := by
  rw [Side.record, h]
  exact if_neg fun hBoth => Bool.false_ne_true hBoth.1

theorem record_emits {report : Report} (h : report.emits = true) (speaker : Speaker) (s : Side) :
    s.record speaker report = if (s.ended || report.isEnd) = true then
        { s with timing := s.timing.note speaker report, ended := s.ended || report.isEnd }.tell speaker
      else { s with timing := s.timing.note speaker report, ended := s.ended || report.isEnd } := by
  rw [Side.record, h]
  simp

theorem notes_setSide {report : Report} {who : Speaker} {g : TranscriptSide → TranscriptSide}
    (hTiming : ∀ side, (g side).timing = side.timing.note who report)
    (hEmitted : ∀ side, (g side).emitted = side.emitted) (hOther : ∀ other (timing : Timing), other ≠ who →
      timing.note other report = timing) (hEnd : report.isEnd = false) :
    Notes report fun state => state.setSide (g (state.side who)) who where
  timing state speaker := by
    by_cases hWho : speaker = who
    · rw [hWho, TurnTranscriptState.side_setSide, hTiming]
    · rw [TurnTranscriptState.side_setSide_ne _ _ hWho, hOther _ _ hWho]
  ended state := by rw [TurnTranscriptState.ended_setSide, hEnd, Bool.or_false]
  emitted state speaker := by
    by_cases hWho : speaker = who
    · rw [hWho, TurnTranscriptState.side_setSide, hEmitted]
    · rw [TurnTranscriptState.side_setSide_ne _ _ hWho]

theorem timing_hear (c : Coordinator) (now : String) (transcript : Transcript) (side : TranscriptSide) :
    (c.hear now transcript side).timing = side.timing.heard transcript := by
  unfold hear Timing.heard TranscriptSide.timing
  cases side.text <;> rfl

theorem note_other {report : Report} {who : Speaker} (hStart : ∀ other, other ≠ who → report.startTime other = none)
    (hStop : ∀ other, other ≠ who → report.stopTime other = none)
    (hTranscript : ∀ other, other ≠ who → report.transcript other = none) (other : Speaker) (timing : Timing)
    (h : other ≠ who) : timing.note other report = timing := by
  rw [Timing.note, hStart other h, hStop other h, hTranscript other h]

theorem notes_started (now : Reading) (who : Speaker) (stretch : Nat) (timestamp : Option String)
    {g : TranscriptSide → TranscriptSide}
    (hTiming : ∀ side, (g side).timing = side.timing.began who (orElse timestamp now))
    (hEmitted : ∀ side, (g side).emitted = side.emitted) :
    Notes ⟨now, .started who stretch timestamp⟩ fun state => state.setSide (g (state.side who)) who := by
  apply notes_setSide _ hEmitted _ rfl
  · intro side
    rw [hTiming, Timing.note, show Report.startTime who ⟨now, .started who stretch timestamp⟩ = _ from if_pos rfl]
  · apply note_other
    · exact fun other hOther => if_neg hOther.symm
    · exact fun _ _ => rfl
    · exact fun _ _ => rfl

theorem notes_stopped (now : Reading) (who : Speaker) (stretch : Nat) (timestamp : Option String)
    {g : TranscriptSide → TranscriptSide}
    (hTiming : ∀ side, (g side).timing = side.timing.finished who (orElse timestamp now))
    (hEmitted : ∀ side, (g side).emitted = side.emitted) :
    Notes ⟨now, .stopped who stretch timestamp⟩ fun state => state.setSide (g (state.side who)) who := by
  apply notes_setSide _ hEmitted _ rfl
  · intro side
    rw [hTiming, Timing.note, show Report.stopTime who ⟨now, .stopped who stretch timestamp⟩ = _ from if_pos rfl]
    rfl
  · apply note_other
    · exact fun _ _ => rfl
    · exact fun other hOther => if_neg hOther.symm
    · exact fun _ _ => rfl

theorem notes_said (c : Coordinator) (now : Reading) (who : Speaker) (transcript : Transcript) :
    Notes ⟨now, .said who transcript⟩ fun state => state.setSide (c.hear now transcript (state.side who)) who := by
  apply notes_setSide (g := c.hear now transcript) _ (emitted_hear c transcript) _ rfl
  · intro side
    rw [timing_hear, Timing.note, show Report.transcript who ⟨now, .said who transcript⟩ = _ from if_pos rfl]
    rfl
  · apply note_other
    · exact fun _ _ => rfl
    · exact fun _ _ => rfl
    · exact fun other hOther => if_neg hOther.symm

def userStarted (candidateStart : String) (side : TranscriptSide) : TranscriptSide :=
  { side with
    speechStartTimestamp := some (match side.speechStartTimestamp with
      | some previousStart => earlier previousStart candidateStart
      | none => candidateStart)
    speaking := true }

def userStopped (candidateEnd : String) (side : TranscriptSide) : TranscriptSide :=
  { side with
    speechEndTimestamp := some (match side.speechEndTimestamp with
      | some previousEnd => later previousEnd candidateEnd
      | none => candidateEnd)
    speaking := false }

theorem step_eq (h : c.Past turnId) (report : Report) : ∃ f, Notes report f ∧
    (report.emits = false → c.step report.now (report.call turnId).2 = c.modify turnId f) ∧
    (report.emits = true → ∃ active, (active = c.activeTurnId ∨ active = none) ∧
      c.step report.now (report.call turnId).2 =
        (⟨c.logsBuffer, (c.modify turnId f).states, active⟩ : Coordinator).emitReadySides report.now turnId) := by
  obtain ⟨now, fact⟩ := report
  cases fact with
  | started who stretch timestamp =>
    cases who with
    | user =>
      refine ⟨_, notes_started now .user stretch timestamp (g := userStarted (orElse timestamp now)) ?_ fun _ => rfl,
        fun _ => rfl, fun h => by cases h⟩
      intro side
      unfold Timing.began TranscriptSide.timing userStarted
      cases side.speechStartTimestamp <;> rfl
    | assistant =>
      refine ⟨_, notes_started now .assistant stretch timestamp (g := fun side => { side with
        speechStartTimestamp := some (side.speechStartTimestamp.getD (orElse timestamp now))
        speaking := true }) ?_ fun _ => rfl, fun _ => rfl, fun h => by cases h⟩
      intro side
      unfold Timing.began TranscriptSide.timing
      cases side.speechStartTimestamp <;> rfl
  | stopped who stretch timestamp =>
    cases who with
    | user =>
      refine ⟨_, notes_stopped now .user stretch timestamp (g := userStopped (orElse timestamp now)) ?_ fun _ => rfl,
        fun _ => rfl, fun h => by cases h⟩
      intro side
      unfold Timing.finished TranscriptSide.timing userStopped
      cases side.speechEndTimestamp <;> rfl
    | assistant =>
      refine ⟨_, notes_stopped now .assistant stretch timestamp (g := fun side => { side with
        speechEndTimestamp := some (orElse timestamp now), speaking := false })
        (fun _ => rfl) fun _ => rfl, (fun h => by cases h), fun _ => ⟨_, .inl rfl, rfl⟩⟩
  | said who transcript =>
    refine ⟨_, notes_said c now who transcript, (fun h => by cases h), fun _ => ⟨_, .inl rfl, ?_⟩⟩
    cases who with
    | user =>
      change c.recordTranscript .user c.selectUserTurn now transcript = _
      rw [selectUserTurn_eq h]
      rfl
    | assistant =>
      change c.recordTranscript .assistant c.selectAssistantTurn now transcript = _
      rw [selectAssistantTurn_eq h]
      rfl
  | ended interrupted =>
    refine ⟨fun state => { state with ended := true, interrupted }, ⟨fun state speaker => ?_, fun state => ?_,
      fun state speaker => ?_⟩, (fun h => by cases h), fun _ => ?_⟩
    · cases speaker <;> rfl
    · simp [Report.isEnd]
    · cases speaker <;> rfl
    · change ∃ active, _ ∧ c.recordTurnEnded now turnId interrupted = _
      unfold recordTurnEnded
      dsimp only
      split
      · exact ⟨none, .inr rfl, rfl⟩
      · exact ⟨c.activeTurnId, .inl rfl, rfl⟩

theorem past_step (h : c.Past turnId) (report : Report) :
    (c.step report.now (report.call turnId).2).Past turnId := by
  obtain ⟨f, -, hSilent, hEmits⟩ := step_eq h report
  have hModified : (c.modify turnId f).Past turnId := h.of_frame (frame_modify c turnId f)
  cases hReport : report.emits with
  | false =>
    rw [hSilent hReport]
    exact hModified
  | true =>
    obtain ⟨active, hActive, hStep⟩ := hEmits hReport
    rw [hStep]
    have hPast : Past ⟨c.logsBuffer, (c.modify turnId f).states, active⟩ turnId := by
      refine ⟨hModified.known, hModified.before, hModified.silent, hModified.unasked, ?_⟩
      obtain rfl | rfl := hActive
      · exact h.active
      · exact .inl rfl
    exact hPast.of_frame (frame_emitReadySides hPast.known)

theorem shows_step {base : Speaker → List Line} {sides : Speaker → Side} (hPast : c.Past turnId)
    (h : ∀ speaker, Shows c turnId (base speaker) speaker (sides speaker)) (report : Report) (speaker : Speaker) :
    Shows (c.step report.now (report.call turnId).2) turnId (base speaker) speaker
      ((sides speaker).record speaker report) := by
  obtain ⟨f, hNotes, hSilent, hEmits⟩ := step_eq hPast report
  have hNoted := shows_notes hNotes h
  cases hReport : report.emits with
  | false =>
    rw [hSilent hReport, record_silent hReport]
    exact hNoted speaker
  | true =>
    obtain ⟨active, -, hStep⟩ := hEmits hReport
    rw [hStep, record_emits hReport]
    have hActive : ∀ speaker, Shows ⟨c.logsBuffer, (c.modify turnId f).states, active⟩ turnId (base speaker) speaker
        { sides speaker with
          timing := (sides speaker).timing.note speaker report
          ended := (sides speaker).ended || report.isEnd } :=
      fun other => ⟨(hNoted other).timing, (hNoted other).ended, (hNoted other).emitted, (hNoted other).events⟩
    exact shows_emitReadySides hActive speaker

theorem shows_run {base : Speaker → List Line} (reports : List Report) {sides : Speaker → Side} (hPast : c.Past turnId)
    (h : ∀ speaker, Shows c turnId (base speaker) speaker (sides speaker)) :
    (c.run (reports.map (Report.call turnId))).Past turnId ∧
    ∀ speaker, Shows (c.run (reports.map (Report.call turnId))) turnId (base speaker) speaker
      (reports.foldl (Side.record speaker) (sides speaker)) := by
  induction reports generalizing c sides with
  | nil => exact ⟨hPast, h⟩
  | cons report reports ih => exact ih (past_step hPast report) (shows_step hPast h report)

end Calls

/-! ### The start of the turn, and the flush -/

/-- The turns that are there came before, have nothing left to log and expect no text. -/
structure Ready (c : Coordinator) (turnId : Int) : Prop where
  unknown : turnId ∉ c.states
  before : ∀ other ∈ c.states, other ≤ turnId
  silent : ∀ other, c.Settled other
  unasked : ∀ other speaker, (c.side speaker other).text = none →
    truthy (c.side speaker other).speechStartTimestamp = false
  active : c.activeTurnId.all (· ≤ turnId) = true

theorem ready_empty (turnId : Int) : Ready {} turnId where
  unknown := AList.notMem_empty _
  before other hOther := absurd hOther (AList.notMem_empty _)
  silent _ speaker := .inr (by cases speaker <;> rfl)
  unasked _ speaker _ := by cases speaker <;> rfl
  active := rfl

theorem Ready.started (h : Ready c turnId) : (c.recordTurnStarted turnId).Past turnId ∧
    ∀ speaker, Shows (c.recordTurnStarted turnId) turnId ((c.eventsOf speaker).map Event.line) speaker {} := by
  have hState : c.state turnId = {} := by
    rw [Coordinator.state, AList.lookup_eq_none.mpr h.unknown]
    rfl
  have hActive : (c.modify turnId id).activeTurnId.all (· ≤ turnId) = true := h.active
  have hFrame := frame_modify c turnId id
  unfold recordTurnStarted
  dsimp only
  rw [if_pos hActive]
  constructor
  · constructor
    · exact (hFrame.keys turnId).mpr (.inl rfl)
    · intro other hOther
      obtain rfl | hKnown := (hFrame.keys other).mp hOther
      · exact le_rfl
      · exact h.before other hKnown
    · intro other hOther speaker
      have hSilent := h.silent other speaker
      rw [← c.side_modify_ne hOther id] at hSilent
      exact hSilent
    · intro other speaker hOther
      have hUnasked := h.unasked other speaker
      rw [← c.side_modify_ne hOther id] at hUnasked
      exact hUnasked
    · exact .inr rfl
  · intro speaker
    have hSide : (c.modify turnId id).state turnId = {} := by rw [state_modify, hState, id]
    constructor
    · change (((c.modify turnId id).state turnId).side speaker).timing = _
      rw [hSide]
      cases speaker <;> rfl
    · exact congrArg TurnTranscriptState.ended hSide
    · change (((c.modify turnId id).state turnId).side speaker).emitted = _
      rw [hSide]
      cases speaker <;> rfl
    · exact (List.append_nil _).symm

section Flush

variable {base : Speaker → List Line} {sides : Speaker → Side} {now : String}

def marked (state : TurnTranscriptState) : TurnTranscriptState :=
  { state with
    ended := true
    user := { state.user with speaking := false }
    assistant := { state.assistant with speaking := false } }

theorem flushTurn_eq (c : Coordinator) (now : String) (turnId : Int) :
    c.flushTurn now turnId = (c.modify turnId marked).emitReadySides now turnId := rfl

theorem settled_marked (h : c.Settled other) (turnId : Int) : (c.modify turnId marked).Settled other := by
  intro speaker
  have hSettled := h speaker
  by_cases hTurn : other = turnId
  · rw [side, hTurn, state_modify]
    rw [side, hTurn] at hSettled
    cases speaker <;> exact hSettled
  · rwa [side_modify_ne _ hTurn]

theorem flushTurn_settled (h : c.Settled other) : c.flushTurn now other = c.modify other marked := by
  have hSilent : ∀ (speaker : Speaker) (build : String → Option String → Option String → EventType × Payload),
      (c.modify other marked).emitSide speaker build now other = c.modify other marked := by
    intro speaker build
    rw [emitSide]
    apply if_pos
    simpa [side] using settled_marked h other speaker
  rw [flushTurn_eq, emitReadySides, if_pos (by rw [state_modify]; rfl)]
  dsimp only
  rw [emitUser, hSilent, emitAssistant, hSilent, ite_self]

theorem shows_flushTurn (h : ∀ speaker, Shows c turnId (base speaker) speaker (sides speaker)) (speaker : Speaker) :
    Shows (c.flushTurn now turnId) turnId (base speaker) speaker (sides speaker).flush := by
  have hMarked : ∀ speaker, Shows (c.modify turnId marked) turnId (base speaker) speaker
      { sides speaker with timing := { (sides speaker).timing with speaking := false }, ended := true } := by
    intro speaker
    constructor
    · rw [side, state_modify, ← (h speaker).timing]
      cases speaker <;> rfl
    · rw [state_modify]
      rfl
    · rw [← (h speaker).emitted, side, state_modify]
      cases speaker <;> rfl
    · exact (h speaker).events
  rw [flushTurn_eq]
  have hEmitted : Shows ((c.modify turnId marked).emitReadySides now turnId) turnId (base speaker) speaker _ :=
    shows_emitReadySides hMarked speaker
  rw [if_pos rfl, Side.tell, if_neg fun hBoth => Bool.false_ne_true hBoth.2] at hEmitted
  exact hEmitted

theorem events_flush (hPast : c.Past turnId)
    (h : ∀ speaker, Shows c turnId (base speaker) speaker (sides speaker)) (speaker : Speaker) :
    ((c.flush now).eventsOf speaker).map Event.line = base speaker ++ (sides speaker).flushed.toList := by
  have hFold : ∀ (turnIds : List Int) (c : Coordinator) (sides : Speaker → Side),
      (∀ other, other ≠ turnId → c.Settled other) →
      (∀ speaker, Shows c turnId (base speaker) speaker (sides speaker)) →
      turnId ∈ turnIds ∨ (sides speaker).told = (sides speaker).flushed →
      ((turnIds.foldl (fun c turnId => c.flushTurn now turnId) c).eventsOf speaker).map Event.line =
        base speaker ++ (sides speaker).flushed.toList := by
    intro turnIds
    induction turnIds with
    | nil =>
      intro c sides _ h hTold
      rw [← hTold.resolve_left List.not_mem_nil]
      exact (h speaker).events
    | cons first turnIds ih =>
      intro c sides hSilent h hTold
      rw [List.foldl_cons]
      by_cases hFirst : first = turnId
      · rw [hFirst, ← Side.flushed_flush]
        apply ih _ fun speaker => (sides speaker).flush
        · intro other hOther speaker
          rw [side_flushTurn_ne hOther]
          exact hSilent other hOther speaker
        · exact shows_flushTurn h
        · exact .inr (Side.flushed_flush _).symm
      · rw [flushTurn_settled (hSilent first hFirst)]
        apply ih _ sides
        · exact fun other hOther => settled_marked (hSilent other hOther) first
        · intro speaker
          constructor
          · rw [side_modify_ne _ (Ne.symm hFirst)]
            exact (h speaker).timing
          · rw [state_modify_ne _ (Ne.symm hFirst)]
            exact (h speaker).ended
          · rw [side_modify_ne _ (Ne.symm hFirst)]
            exact (h speaker).emitted
          · exact (h speaker).events
        · refine hTold.imp_left fun hMem => (List.mem_cons.mp hMem).resolve_left (Ne.symm hFirst)
  apply hFold _ c sides hPast.silent h
  exact .inl ((List.mem_insertionSort _).mpr (AList.mem_keys.mp hPast.known))

end Flush

def oneTurn (c : Coordinator) (turnId : Int) (now : String) (reports : List Report) : Coordinator :=
  ((c.recordTurnStarted turnId).run (reports.map (Report.call turnId))).flush now

theorem events_oneTurn (h : c.Ready turnId) (now : String) (reports : List Report) (speaker : Speaker) :
    ((c.oneTurn turnId now reports).eventsOf speaker).map Event.line =
      (c.eventsOf speaker).map Event.line ++ (Side.after speaker reports).flushed.toList := by
  obtain ⟨hPast, hShows⟩ := h.started
  obtain ⟨hPast, hShows⟩ := shows_run reports hPast hShows
  exact events_flush hPast hShows speaker

end Coordinator

end FastVoice.Transcripts
