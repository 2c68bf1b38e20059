import FastVoice.Runtime.Text
import Mathlib.Data.List.TakeWhile

/-! # The recording router

One response of the model, frame by frame. The text up to the first marker is buffered, the marker decides
between speech and a recording. What the router pushes is listed in order, with the calls of
`fetch_recording_audio`.
-/
namespace FastVoice.Playback
open Text

def recordingMarker : Char := '●'

def ttsMarker : Char := '▸'

structure TextFrame where
  text : List Char
  skipTts : Bool := false
  deriving DecidableEq

inductive Pushed (Audio : Type) where
  | llmText (frame : TextFrame)
  | ttsText (text : List Char)
  | fetched (recordingId : List Char)
  | ttsStarted
  | ttsAudioRaw (audio : Audio)
  | ttsStopped
  | responseEnd
  deriving DecidableEq

inductive Mode where
  | tts
  | recording
  deriving DecidableEq

structure Router where
  frameBuffer : List TextFrame := []
  mode : Option Mode := none
  recordingIdBuffer : List Char := []
  recordingPlaybackStarted : Bool := false
  secondMarkerSeen : Bool := false

def withoutSpace (text : List Char) : List Char := if text.head? = some ' ' then text.tail else text

def lstrip (text : List Char) : List Char := text.dropWhile isSpace

def firstWord (text : List Char) : List Char := (lstrip text).takeWhile fun c => !isSpace c

namespace Router

variable {Audio : Type} (fetch : List Char → Option Audio)

def bufferedText (buffer : List TextFrame) : List Char := buffer.flatMap (·.text)

def playRecording (recordingId : List Char) : List (Pushed Audio) :=
  .fetched recordingId ::
    match fetch recordingId with
    | none => []
    | some audio => [.ttsStarted, .ttsAudioRaw audio, .ttsStopped]

def captureRecordingId (markerEnd : Nat) : Nat → List Char → List TextFrame → List Char
  | _, recordingIdBuffer, [] => recordingIdBuffer
  | frameStart, recordingIdBuffer, frame :: frames =>
    let cumulative := frameStart + frame.text.length
    if cumulative > markerEnd then
      let remaining := frame.text.drop (markerEnd - frameStart)
      let remaining := if recordingIdBuffer = [] then withoutSpace remaining else remaining
      captureRecordingId markerEnd cumulative (recordingIdBuffer ++ remaining) frames
    else
      captureRecordingId markerEnd cumulative recordingIdBuffer frames

def pushAroundMarker (markerEnd : Nat) : Nat → List TextFrame → List (Pushed Audio)
  | _, [] => []
  | frameStart, frame :: frames =>
    let cumulative := frameStart + frame.text.length
    let pushed :=
      if cumulative ≤ markerEnd then
        [.llmText { frame with skipTts := true }]
      else if frameStart ≥ markerEnd then
        let text := if frameStart = markerEnd then withoutSpace frame.text else frame.text
        if text = [] then [] else [.llmText { frame with text }]
      else
        let offset := markerEnd - frameStart
        let ttsText := withoutSpace (frame.text.drop offset)
        .llmText ⟨frame.text.take offset, true⟩ ::
          if ttsText = [] then [] else [.llmText { text := ttsText }]
    pushed ++ pushAroundMarker markerEnd cumulative frames

def handleLlmText (router : Router) (frame : TextFrame) : Router × List (Pushed Audio) :=
  if frame.skipTts then
    (router, [.llmText frame])
  else if router.secondMarkerSeen then
    (router, [])
  else
    match router.mode with
    | some .tts =>
      if recordingMarker ∈ frame.text then
        let before := frame.text.take (frame.text.idxOf recordingMarker)
        ({ router with secondMarkerSeen := true },
          if before = [] then [] else [.llmText { text := before }])
      else
        (router, [.llmText frame])
    | some .recording =>
      let text := frame.text.take (frame.text.idxOf ttsMarker)
      let router := { router with
        recordingIdBuffer := router.recordingIdBuffer ++ text
        secondMarkerSeen := ttsMarker ∈ frame.text }
      let buffer := lstrip router.recordingIdBuffer
      if !router.recordingPlaybackStarted && ' ' ∈ buffer then
        ({ router with recordingPlaybackStarted := true }, playRecording fetch (firstWord buffer))
      else
        (router, [])
    | none =>
      let buffer := router.frameBuffer ++ [frame]
      let text := bufferedText buffer
      if recordingMarker ∈ text then
        let markerEnd := text.idxOf recordingMarker + 1
        ({ router with
            mode := some .recording
            recordingIdBuffer := captureRecordingId markerEnd 0 router.recordingIdBuffer buffer
            frameBuffer := [] }, [])
      else if ttsMarker ∈ text then
        let markerEnd := text.idxOf ttsMarker + 1
        ({ router with mode := some .tts, frameBuffer := [] }, pushAroundMarker markerEnd 0 buffer)
      else
        ({ router with frameBuffer := buffer }, [])

def endOfResponse (router : Router) : List (Pushed Audio) :=
  match router.mode with
  | some .recording =>
    let fullText := (lstrip router.recordingIdBuffer).rdropWhile isSpace
    if fullText = [] then
      []
    else
      .ttsText (recordingMarker :: router.recordingIdBuffer) ::
        if router.recordingPlaybackStarted then [] else playRecording fetch (firstWord fullText)
  | some .tts => []
  | none => router.frameBuffer.map .llmText

def handleResponseEnd (router : Router) : Router × List (Pushed Audio) :=
  ({}, endOfResponse fetch router ++ [.responseEnd])

def handleAll (router : Router) : List TextFrame → Router × List (Pushed Audio)
  | [] => (router, [])
  | frame :: frames =>
    let first := handleLlmText fetch router frame
    let rest := handleAll first.1 frames
    (rest.1, first.2 ++ rest.2)

def respond (pieces : List (List Char)) : List (Pushed Audio) :=
  let handled := handleAll fetch {} (pieces.map fun text => { text })
  handled.2 ++ (handleResponseEnd fetch handled.1).2

end Router

/-! ## What a response does -/

section

variable {Audio : Type}

def fetchedIds (pushed : List (Pushed Audio)) : List (List Char) :=
  pushed.filterMap fun
    | .fetched recordingId => some recordingId
    | _ => none

def spoken (pushed : List (Pushed Audio)) : List Char :=
  pushed.flatMap fun
    | .llmText frame => if frame.skipTts then [] else frame.text
    | _ => []

def contextTexts (pushed : List (Pushed Audio)) : List (List Char) :=
  pushed.filterMap fun
    | .ttsText text => some text
    | _ => none

def downstreamTexts (pushed : List (Pushed Audio)) : List (List Char) :=
  pushed.filterMap fun
    | .llmText frame => some frame.text
    | .ttsText text => some text
    | _ => none

end

end FastVoice.Playback

/-! # Responses and the boundaries of their pieces

What a response does, from the piece that brings its first marker. That piece is not treated as the later
ones are: a recording marker anywhere in it wins, a speech marker behind a recording marker is not seen,
and a space behind the marker is dropped.
-/
namespace FastVoice.Playback
open Text

/-! ## Parts of a text -/

def upTo (c : Char) (text : List Char) : List Char := text.takeWhile (· ≠ c)

theorem upTo_of_notMem {c : Char} {text : List Char} (h : c ∉ text) : upTo c text = text := by
  apply List.takeWhile_eq_self_iff.mpr
  intro x hx
  exact decide_eq_true fun hSame => h (hSame ▸ hx)

theorem upTo_append_cons {c : Char} {text : List Char} (h : c ∉ text) (rest : List Char) :
    upTo c (text ++ c :: rest) = text := by
  rw [upTo, List.takeWhile_append_of_pos]
  · simp
  · intro x hx
    exact decide_eq_true fun hSame => h (hSame ▸ hx)

theorem upTo_append (c : Char) (text rest : List Char) :
    upTo c (text ++ rest) = upTo c text ++ if c ∈ text then [] else upTo c rest := by
  by_cases h : c ∈ text
  · obtain ⟨before, after, rfl, hBefore⟩ := List.eq_append_cons_of_mem h
    rw [List.append_assoc, List.cons_append, upTo_append_cons hBefore, upTo_append_cons hBefore,
      if_pos h, List.append_nil]
  · rw [if_neg h, upTo_of_notMem h, upTo, List.takeWhile_append_of_pos, upTo]
    intro x hx
    exact decide_eq_true fun hSame => h (hSame ▸ hx)

theorem idxOf_append_cons {c : Char} {before : List Char} (h : c ∉ before) (after : List Char) :
    (before ++ c :: after).idxOf c = before.length := by
  rw [List.idxOf_append_of_notMem h, List.idxOf_cons_self, Nat.add_zero]

theorem take_idxOf (c : Char) (text : List Char) : text.take (text.idxOf c) = upTo c text := by
  by_cases h : c ∈ text
  · obtain ⟨before, after, rfl, hBefore⟩ := List.eq_append_cons_of_mem h
    rw [idxOf_append_cons hBefore, List.take_left, upTo_append_cons hBefore]
  · rw [List.idxOf_of_notMem h, List.take_length, upTo_of_notMem h]

/-! ### Words -/

def Blank (text : List Char) : Prop := ∀ c ∈ text, isSpace c = true

instance : DecidablePred Blank := fun text => List.decidableBAll _ text

theorem lstrip_eq_nil_iff {text : List Char} : lstrip text = [] ↔ Blank text :=
  List.dropWhile_eq_nil_iff

theorem lstrip_append {text : List Char} (h : lstrip text ≠ []) (rest : List Char) :
    lstrip (text ++ rest) = lstrip text ++ rest := by
  rw [lstrip, lstrip, List.dropWhile_append, if_neg]
  simpa [lstrip] using h

theorem firstWord_lstrip (text : List Char) : firstWord (lstrip text) = firstWord text := by
  rw [firstWord, firstWord, lstrip, lstrip, List.dropWhile_idempotent]

theorem takeWhile_append_of_mem {p : Char → Bool} {text : List Char} {c : Char} (hMem : c ∈ text)
    (hc : p c = false) (rest : List Char) : (text ++ rest).takeWhile p = text.takeWhile p := by
  induction text with
  | nil => cases hMem
  | cons x text ih =>
    rw [List.cons_append, List.takeWhile_cons, List.takeWhile_cons]
    obtain rfl | hLater := List.mem_cons.mp hMem
    · simp [hc]
    · rw [ih hLater]

theorem firstWord_append {text : List Char} (h : ' ' ∈ lstrip text) (rest : List Char) :
    firstWord (text ++ rest) = firstWord text := by
  rw [firstWord, firstWord, lstrip_append (List.ne_nil_of_mem h),
    takeWhile_append_of_mem h (by decide)]

theorem takeWhile_concat {p : Char → Bool} {c : Char} (hc : p c = false) (text : List Char) :
    (text ++ [c]).takeWhile p = text.takeWhile p := by
  induction text with
  | nil => simp [hc]
  | cons x text ih => simp [List.takeWhile_cons, ih]

theorem takeWhile_rdropWhile {p q : Char → Bool} (h : ∀ c, q c = true → p c = false)
    (text : List Char) : (text.rdropWhile q).takeWhile p = text.takeWhile p := by
  induction text using List.reverseRecOn with
  | nil => rfl
  | append_singleton text c ih =>
    rw [List.rdropWhile_concat]
    split
    · next hc => rw [ih, takeWhile_concat (h c hc)]
    · rfl

theorem head_lstrip {text rest : List Char} {c : Char} (h : lstrip text = c :: rest) : isSpace c = false := by
  have hHead := List.head?_dropWhile_not isSpace text
  rw [show text.dropWhile isSpace = c :: rest from h] at hHead
  simpa using hHead

theorem strip_eq_nil_iff {text : List Char} : (lstrip text).rdropWhile isSpace = [] ↔ Blank text := by
  rw [List.rdropWhile_eq_nil_iff]
  constructor
  · intro h
    apply lstrip_eq_nil_iff.mp
    cases hRest : lstrip text with
    | nil => rfl
    | cons c rest =>
      have hSpace := h c (hRest ▸ List.mem_cons_self)
      rw [head_lstrip hRest] at hSpace
      cases hSpace
  · intro h c hc
    rw [lstrip_eq_nil_iff.mpr h] at hc
    cases hc

theorem firstWord_strip (text : List Char) :
    firstWord ((lstrip text).rdropWhile isSpace) = firstWord text := by
  have hFront : lstrip ((lstrip text).rdropWhile isSpace) = (lstrip text).rdropWhile isSpace := by
    obtain ⟨spaces, hSpaces⟩ := List.rdropWhile_prefix isSpace (lstrip text)
    cases hStripped : (lstrip text).rdropWhile isSpace with
    | nil => rfl
    | cons c rest =>
      rw [hStripped] at hSpaces
      simp [lstrip, head_lstrip hSpaces.symm]
  rw [firstWord, hFront, takeWhile_rdropWhile, firstWord]
  intro c hc
  simp [hc]

/-! ## The later pieces -/

section

variable {Audio : Type} {fetch : List Char → Option Audio}

@[simp] theorem fetchedIds_append (xs ys : List (Pushed Audio)) :
    fetchedIds (xs ++ ys) = fetchedIds xs ++ fetchedIds ys := List.filterMap_append

@[simp] theorem spoken_append (xs ys : List (Pushed Audio)) :
    spoken (xs ++ ys) = spoken xs ++ spoken ys := List.flatMap_append

@[simp] theorem contextTexts_append (xs ys : List (Pushed Audio)) :
    contextTexts (xs ++ ys) = contextTexts xs ++ contextTexts ys := List.filterMap_append

@[simp] theorem downstreamTexts_append (xs ys : List (Pushed Audio)) :
    downstreamTexts (xs ++ ys) = downstreamTexts xs ++ downstreamTexts ys := List.filterMap_append

@[ext] structure Effect where
  fetched : List (List Char)
  spoken : List Char
  context : List (List Char)
  deriving DecidableEq

def effect (pushed : List (Pushed Audio)) : Effect :=
  ⟨fetchedIds pushed, spoken pushed, contextTexts pushed⟩

def Effect.append (first second : Effect) : Effect :=
  ⟨first.fetched ++ second.fetched, first.spoken ++ second.spoken, first.context ++ second.context⟩

theorem effect_append (xs ys : List (Pushed Audio)) : effect (xs ++ ys) = (effect xs).append (effect ys) := by
  simp [effect, Effect.append]

variable (fetch) in
theorem effect_playRecording (recordingId : List Char) :
    effect (Router.playRecording fetch recordingId) = ⟨[recordingId], [], []⟩ := by
  rw [Router.playRecording]
  cases fetch recordingId <;> rfl

def finish (fetch : List Char → Option Audio) (router : Router) (pieces : List (List Char)) :
    List (Pushed Audio) :=
  (router.handleAll fetch (pieces.map ({ text := · }))).2 ++
    (router.handleAll fetch (pieces.map ({ text := · }))).1.endOfResponse fetch

theorem finish_cons (router : Router) (piece : List Char) (pieces : List (List Char)) :
    finish fetch router (piece :: pieces) = (router.handleLlmText fetch { text := piece }).2 ++
      finish fetch (router.handleLlmText fetch { text := piece }).1 pieces := by
  simp [finish, Router.handleAll]

theorem finish_dropped (router : Router) (h : router.secondMarkerSeen = true)
    (pieces : List (List Char)) : finish fetch router pieces = router.endOfResponse fetch := by
  induction pieces with
  | nil => rfl
  | cons piece pieces ih =>
    have hStep : router.handleLlmText fetch { text := piece } = (router, []) := by
      simp [Router.handleLlmText, h]
    rw [finish_cons, hStep]
    exact ih

theorem effect_finish_tts (router : Router) (hMode : router.mode = some .tts)
    (hSeen : router.secondMarkerSeen = false) (pieces : List (List Char)) :
    effect (finish fetch router pieces) = ⟨[], upTo recordingMarker pieces.flatten, []⟩ := by
  induction pieces with
  | nil =>
    simp [finish, Router.handleAll, Router.endOfResponse, hMode]
    rfl
  | cons piece pieces ih =>
    rw [finish_cons, effect_append, List.flatten_cons, upTo_append]
    by_cases hMarker : recordingMarker ∈ piece
    · have hStep : router.handleLlmText fetch { text := piece } =
          ({ router with secondMarkerSeen := true },
            if upTo recordingMarker piece = [] then [] else
              [.llmText { text := upTo recordingMarker piece }]) := by
        simp [Router.handleLlmText, hMode, hSeen, hMarker, take_idxOf]
      rw [hStep, finish_dropped _ rfl, if_pos hMarker, List.append_nil]
      have hEnd : Router.endOfResponse fetch { router with secondMarkerSeen := true } = [] := by
        simp [Router.endOfResponse, hMode]
      rw [hEnd]
      by_cases hEmpty : upTo recordingMarker piece = []
      · rw [if_pos hEmpty, hEmpty]
        rfl
      · rw [if_neg hEmpty]
        simp [effect, fetchedIds, spoken, contextTexts, Effect.append]
    · have hStep : router.handleLlmText fetch { text := piece } = (router, [.llmText { text := piece }]) := by
        simp [Router.handleLlmText, hMode, hSeen, hMarker]
      rw [hStep, ih, if_neg hMarker, upTo_of_notMem hMarker]
      simp [effect, fetchedIds, spoken, contextTexts, Effect.append]

def recorded (started : Bool) (body : List Char) : Effect where
  fetched := if started ∨ Blank body then [] else [firstWord body]
  spoken := []
  context := if Blank body then [] else [recordingMarker :: body]

theorem effect_endOfResponse (router : Router) (hMode : router.mode = some .recording) :
    effect (router.endOfResponse fetch) =
      recorded router.recordingPlaybackStarted router.recordingIdBuffer := by
  rw [Router.endOfResponse, hMode]
  dsimp only
  by_cases hBlank : Blank router.recordingIdBuffer
  · rw [if_pos (strip_eq_nil_iff.mpr hBlank)]
    simp [effect, recorded, hBlank, fetchedIds, spoken, contextTexts]
  · rw [if_neg (mt strip_eq_nil_iff.mp hBlank), firstWord_strip]
    cases hStarted : router.recordingPlaybackStarted with
    | true => simp [effect, recorded, hBlank, fetchedIds, spoken, contextTexts]
    | false =>
      have hPlayed := effect_playRecording fetch (firstWord router.recordingIdBuffer)
      simp only [effect, Effect.mk.injEq] at hPlayed
      simp [effect, recorded, hBlank, fetchedIds, spoken, contextTexts] at hPlayed ⊢
      exact hPlayed

theorem effect_finish_recording (router : Router) (hMode : router.mode = some .recording)
    (hSeen : router.secondMarkerSeen = false) (pieces : List (List Char)) :
    effect (finish fetch router pieces) = recorded router.recordingPlaybackStarted
      (router.recordingIdBuffer ++ upTo ttsMarker pieces.flatten) := by
  induction pieces generalizing router with
  | nil =>
    rw [List.flatten_nil, upTo_of_notMem List.not_mem_nil, List.append_nil]
    exact effect_endOfResponse router hMode
  | cons piece pieces ih =>
    have hRest : ∀ later : Router, later.mode = some .recording →
        later.secondMarkerSeen = decide (ttsMarker ∈ piece) →
        effect (finish fetch later pieces) = recorded later.recordingPlaybackStarted
          (later.recordingIdBuffer ++ if ttsMarker ∈ piece then [] else upTo ttsMarker pieces.flatten) := by
      intro later hLaterMode hLaterSeen
      by_cases hMarker : ttsMarker ∈ piece
      · rw [finish_dropped later (by simp [hLaterSeen, hMarker]), if_pos hMarker, List.append_nil]
        exact effect_endOfResponse later hLaterMode
      · rw [if_neg hMarker]
        exact ih later hLaterMode (by simp [hLaterSeen, hMarker])
    have hStep : router.handleLlmText fetch { text := piece } =
        let later := { router with
          recordingIdBuffer := router.recordingIdBuffer ++ upTo ttsMarker piece
          secondMarkerSeen := decide (ttsMarker ∈ piece) }
        if !router.recordingPlaybackStarted && ' ' ∈ lstrip later.recordingIdBuffer then
          ({ later with recordingPlaybackStarted := true },
            Router.playRecording fetch (firstWord (lstrip later.recordingIdBuffer)))
        else
          (later, []) := by
      simp only [Router.handleLlmText, hMode, hSeen, take_idxOf]
      rfl
    rw [finish_cons, effect_append, List.flatten_cons, upTo_append, ← List.append_assoc, hStep]
    dsimp only
    split
    · next hPlays =>
      obtain ⟨hStarted, hSpace⟩ : router.recordingPlaybackStarted = false ∧
          ' ' ∈ lstrip (router.recordingIdBuffer ++ upTo ttsMarker piece) := by simpa using hPlays
      have hBlank : ∀ more, ¬Blank (router.recordingIdBuffer ++ upTo ttsMarker piece ++ more) := by
        intro more hAll
        have hFront := lstrip_eq_nil_iff.mpr fun c hc => hAll c (List.mem_append_left more hc)
        rw [hFront] at hSpace
        cases hSpace
      have hLater := hRest { router with
        recordingIdBuffer := router.recordingIdBuffer ++ upTo ttsMarker piece
        recordingPlaybackStarted := true
        secondMarkerSeen := decide (ttsMarker ∈ piece) } hMode rfl
      dsimp only at hLater ⊢
      rw [hLater, effect_playRecording, firstWord_lstrip, hStarted]
      generalize router.recordingIdBuffer ++ upTo ttsMarker piece = body at hSpace hBlank ⊢
      simp [Effect.append, recorded, hBlank, firstWord_append hSpace]
    · have hLater := hRest { router with
        recordingIdBuffer := router.recordingIdBuffer ++ upTo ttsMarker piece
        secondMarkerSeen := decide (ttsMarker ∈ piece) } hMode rfl
      dsimp only at hLater ⊢
      rw [hLater]
      simp [Effect.append, effect, fetchedIds, spoken, contextTexts]

/-! ## The piece with the first marker -/

theorem handleAll_append (router : Router) (frames more : List TextFrame) :
    router.handleAll fetch (frames ++ more) = (((router.handleAll fetch frames).1.handleAll fetch more).1,
        (router.handleAll fetch frames).2 ++ ((router.handleAll fetch frames).1.handleAll fetch more).2) := by
  induction frames generalizing router with
  | nil => rfl
  | cons frame frames ih => simp [Router.handleAll, ih]

def NoMarker (text : List Char) : Prop := recordingMarker ∉ text ∧ ttsMarker ∉ text

theorem NoMarker.append_iff {text more : List Char} :
    NoMarker (text ++ more) ↔ NoMarker text ∧ NoMarker more := by
  simp only [NoMarker, List.mem_append, not_or]
  tauto

def buffering (pieces : List (List Char)) : Router where
  frameBuffer := pieces.map ({ text := · })

theorem bufferedText_map (pieces : List (List Char)) :
    Router.bufferedText (pieces.map ({ text := · })) = pieces.flatten := by
  rw [Router.bufferedText, List.flatMap_map, List.flatMap_id']

variable (fetch) in
theorem handleLlmText_buffering (pieces : List (List Char)) (piece : List Char) :
    (buffering pieces).handleLlmText fetch { text := piece } =
      let all := pieces ++ [piece]
      if recordingMarker ∈ all.flatten then
        ({ mode := some .recording
           recordingIdBuffer := Router.captureRecordingId (all.flatten.idxOf recordingMarker + 1) 0 []
             (all.map ({ text := · })) }, [])
      else if ttsMarker ∈ all.flatten then
        ({ mode := some .tts },
          Router.pushAroundMarker (all.flatten.idxOf ttsMarker + 1) 0 (all.map ({ text := · })))
      else
        (buffering all, []) := by
  have hFrames : (buffering pieces).frameBuffer ++ [{ text := piece }] =
      (pieces ++ [piece]).map ({ text := · }) := by
    rw [List.map_append]
    rfl
  simp only [Router.handleLlmText, hFrames, bufferedText_map]
  rfl

theorem handleAll_buffering {pieces : List (List Char)} (h : NoMarker pieces.flatten) :
    Router.handleAll fetch {} (pieces.map ({ text := · })) = (buffering pieces, []) := by
  induction pieces using List.reverseRecOn with
  | nil => rfl
  | append_singleton pieces piece ih =>
    have hBefore := (NoMarker.append_iff.mp (List.flatten_append ▸ h)).1
    have hStep := handleLlmText_buffering fetch pieces piece
    dsimp only at hStep
    rw [if_neg h.1, if_neg h.2] at hStep
    rw [List.map_append, handleAll_append, ih hBefore, List.map_singleton, Router.handleAll, hStep]
    rfl

theorem captureRecordingId_before {markerEnd : Nat} (pieces : List (List Char))
    (rest : List TextFrame) (start : Nat) (h : start + pieces.flatten.length ≤ markerEnd) :
    Router.captureRecordingId markerEnd start [] (pieces.map ({ text := · }) ++ rest) =
      Router.captureRecordingId markerEnd (start + pieces.flatten.length) [] rest := by
  induction pieces generalizing start with
  | nil => rfl
  | cons piece pieces ih =>
    rw [List.flatten_cons, List.length_append] at h ⊢
    rw [List.map_cons, List.cons_append, Router.captureRecordingId]
    dsimp only
    rw [if_neg (by omega), ih _ (by omega), Nat.add_assoc]

theorem flatten_concat_cons (pieces : List (List Char)) (before after : List Char) (marker : Char) :
    (pieces ++ [before ++ marker :: after]).flatten = (pieces.flatten ++ before) ++ marker :: after := by
  simp

theorem drop_behind (before after : List Char) (marker : Char) (start : Nat) :
    (before ++ marker :: after).drop (start + before.length + 1 - start) = after := by
  rw [show start + before.length + 1 - start = before.length + 1 by omega, List.drop_append]
  simp

theorem captureRecordingId_opening {pieces : List (List Char)} {before : List Char}
    (hBefore : recordingMarker ∉ pieces.flatten ++ before) (after : List Char) : Router.captureRecordingId
      ((pieces ++ [before ++ recordingMarker :: after]).flatten.idxOf recordingMarker + 1) 0 []
      ((pieces ++ [before ++ recordingMarker :: after]).map ({ text := · })) = withoutSpace after := by
  rw [flatten_concat_cons, idxOf_append_cons hBefore, List.map_append,
    captureRecordingId_before _ _ _ (by simp; omega), List.map_singleton, Router.captureRecordingId]
  simp only [List.length_append, List.length_cons, Nat.zero_add]
  split
  · rw [drop_behind]
    rfl
  · have hEmpty : after = [] := List.eq_nil_of_length_eq_zero (by omega)
    rw [hEmpty]
    rfl

theorem effect_pushAroundMarker_before {markerEnd : Nat} (pieces : List (List Char))
    (rest : List TextFrame) (start : Nat) (h : start + pieces.flatten.length ≤ markerEnd) :
    effect (@Router.pushAroundMarker Audio markerEnd start
      (pieces.map ({ text := · }) ++ rest)) =
      effect (@Router.pushAroundMarker Audio markerEnd (start + pieces.flatten.length) rest) := by
  induction pieces generalizing start with
  | nil => rfl
  | cons piece pieces ih =>
    rw [List.flatten_cons, List.length_append] at h ⊢
    rw [List.map_cons, List.cons_append, Router.pushAroundMarker]
    dsimp only
    rw [if_pos (by omega), effect_append, ih _ (by omega), Nat.add_assoc]
    rfl

theorem effect_pushAroundMarker_opening {pieces : List (List Char)} {before : List Char}
    (hBefore : ttsMarker ∉ pieces.flatten ++ before) (after : List Char) :
    effect (@Router.pushAroundMarker Audio
      ((pieces ++ [before ++ ttsMarker :: after]).flatten.idxOf ttsMarker + 1) 0
      ((pieces ++ [before ++ ttsMarker :: after]).map ({ text := · }))) =
        ⟨[], withoutSpace after, []⟩ := by
  rw [flatten_concat_cons, idxOf_append_cons hBefore, List.map_append,
    effect_pushAroundMarker_before _ _ _ (by simp; omega), List.map_singleton, Router.pushAroundMarker]
  simp only [List.length_append, List.length_cons, Nat.zero_add]
  split
  · have hEmpty : after = [] := List.eq_nil_of_length_eq_zero (by omega)
    rw [hEmpty]
    rfl
  · rw [if_neg (by omega), drop_behind]
    by_cases hNothing : withoutSpace after = []
    · simp [hNothing, Router.pushAroundMarker, effect, fetchedIds, spoken, contextTexts]
    · simp [hNothing, Router.pushAroundMarker, effect, fetchedIds, spoken, contextTexts]

/-! ## Whole responses -/

theorem respond_eq (pieces : List (List Char)) :
    Router.respond fetch pieces = finish fetch {} pieces ++ [.responseEnd] := by
  simp [Router.respond, finish, Router.handleResponseEnd]

theorem effect_respond (pieces : List (List Char)) :
    effect (Router.respond fetch pieces) = effect (finish fetch {} pieces) := by
  rw [respond_eq, effect_append]
  simp [Effect.append, effect, fetchedIds, spoken, contextTexts]

theorem finish_append {first : List (List Char)} (h : NoMarker first.flatten)
    (later : List (List Char)) : finish fetch {} (first ++ later) = finish fetch (buffering first) later := by
  rw [finish, finish, List.map_append, handleAll_append, handleAll_buffering h]
  rfl

theorem effect_respond_unmarked {pieces : List (List Char)} (h : NoMarker pieces.flatten) :
    effect (Router.respond fetch pieces) = ⟨[], pieces.flatten, []⟩ := by
  rw [effect_respond, finish, handleAll_buffering h]
  have hPushed : (buffering pieces).endOfResponse fetch =
      (pieces.map ({ text := · })).map Pushed.llmText := rfl
  rw [hPushed]
  induction pieces with
  | nil => rfl
  | cons piece pieces ih =>
    have hRest := ih (NoMarker.append_iff.mp h).2 rfl
    simp only [List.nil_append] at hRest
    rw [List.nil_append, List.map_cons, List.map_cons, ← List.singleton_append, effect_append, hRest]
    simp [Effect.append, effect, fetchedIds, spoken, contextTexts]

theorem effect_respond_recording (first : List (List Char)) {later : List (List Char)} {before after : List Char}
    (hFirst : NoMarker first.flatten) (hBefore : recordingMarker ∉ before) :
    effect (Router.respond fetch (first ++ (before ++ recordingMarker :: after) :: later)) =
      recorded false (withoutSpace after ++ upTo ttsMarker later.flatten) := by
  have hUnmarked : recordingMarker ∉ first.flatten ++ before := by simp [hFirst.1, hBefore]
  have hStep := handleLlmText_buffering fetch first (before ++ recordingMarker :: after)
  dsimp only at hStep
  rw [if_pos (by simp), captureRecordingId_opening hUnmarked] at hStep
  rw [effect_respond, finish_append hFirst, finish_cons, hStep, List.nil_append]
  exact effect_finish_recording _ rfl rfl later

theorem effect_respond_tts (first : List (List Char)) {later : List (List Char)} {before after : List Char}
    (hFirst : NoMarker first.flatten) (hBefore : NoMarker before) (hAfter : recordingMarker ∉ after) :
    effect (Router.respond fetch (first ++ (before ++ ttsMarker :: after) :: later)) =
      ⟨[], withoutSpace after ++ upTo recordingMarker later.flatten, []⟩ := by
  have hUnmarked : ttsMarker ∉ first.flatten ++ before := by simp [hFirst.2, hBefore.2]
  have hMarkers : recordingMarker ≠ ttsMarker := by decide
  have hStep := handleLlmText_buffering fetch first (before ++ ttsMarker :: after)
  dsimp only at hStep
  rw [if_neg (by simp [hFirst.1, hBefore.1, hMarkers, hAfter]), if_pos (by simp)] at hStep
  rw [effect_respond, finish_append hFirst, finish_cons, hStep, effect_append,
    effect_pushAroundMarker_opening hUnmarked, effect_finish_tts _ rfl rfl]
  rfl

theorem downstreamTexts_finish (router : Router) (hMode : router.mode = some .recording)
    (pieces : List (List Char)) :
    downstreamTexts (finish fetch router pieces) = contextTexts (finish fetch router pieces) := by
  have hPlayed : ∀ recordingId, downstreamTexts (Router.playRecording fetch recordingId) =
      contextTexts (Router.playRecording fetch recordingId) := by
    intro recordingId
    rw [Router.playRecording]
    cases fetch recordingId <;> rfl
  induction pieces generalizing router with
  | nil =>
    simp only [finish, List.map_nil, Router.handleAll, List.nil_append, Router.endOfResponse, hMode]
    split
    · rfl
    · split
      · rfl
      · rw [← List.singleton_append, downstreamTexts_append, contextTexts_append, hPlayed]
        rfl
  | cons piece pieces ih =>
    rw [finish_cons, downstreamTexts_append, contextTexts_append]
    have hStep : (router.handleLlmText fetch { text := piece }).1.mode = some .recording ∧
        downstreamTexts (router.handleLlmText fetch { text := piece }).2 =
          contextTexts (router.handleLlmText fetch { text := piece }).2 := by
      simp only [Router.handleLlmText, hMode]
      split
      · contradiction
      · split
        · exact ⟨hMode, rfl⟩
        · split
          · exact ⟨rfl, hPlayed _⟩
          · exact ⟨rfl, rfl⟩
    rw [ih _ hStep.1, hStep.2]

end

end FastVoice.Playback
