import FastVoice.Playback.TokenBoundaries

/-! # Responses that do not depend on how they are cut

One response in all its pieces: whether every way to cut it is routed alike, by its first marker.
-/
namespace FastVoice.Playback
open Text

def isMarker (c : Char) : Bool := c = recordingMarker || c = ttsMarker

def firstMarked (text : List Char) : List Char := text.dropWhile fun c => !isMarker c

structure IsCut (pieces : List (List Char)) (text : List Char) : Prop where
  nonempty : ∀ piece ∈ pieces, piece ≠ []
  flatten : pieces.flatten = text

def dropSpaces (text : List Char) : List Char := text.dropWhile (· = ' ')

def Effect.Agrees (first second : Effect) : Prop :=
  first.fetched = second.fetched ∧ dropSpaces first.spoken = dropSpaces second.spoken ∧
    first.context = second.context

variable {Audio : Type}

structure RoutedAlike (fetch : List Char → Option Audio) (text : List Char) : Prop where
  agrees : ∀ pieces pieces', IsCut pieces text → IsCut pieces' text →
    (effect (Router.respond fetch pieces)).Agrees (effect (Router.respond fetch pieces'))
  tts : ∀ pieces, IsCut pieces text → ∀ after, firstMarked text = ttsMarker :: after →
    fetchedIds (Router.respond fetch pieces) = []
  recording : ∀ pieces, IsCut pieces text → ∀ after, firstMarked text = recordingMarker :: after →
    spoken (Router.respond fetch pieces) = [] ∧
      ∀ pushed ∈ downstreamTexts (Router.respond fetch pieces),
        pushed.Sublist (recordingMarker :: upTo ttsMarker after)

/-- A speech marker comes before no recording marker, or before one with nothing around it; a recording
marker comes before no speech marker, and before no space unless there is nothing behind it. -/
def ClearFrom : List Char → Prop
  | [] => True
  | marker :: after =>
    if marker = recordingMarker then
      ttsMarker ∉ after ∧ (after.head? = some ' ' → Blank after)
    else
      recordingMarker ∈ after → (∀ c ∈ upTo recordingMarker after, c = ' ') ∧
        Blank (after.dropWhile (· ≠ recordingMarker)).tail

def Unambiguous (text : List Char) : Prop := ClearFrom (firstMarked text)

instance : DecidablePred ClearFrom
  | [] => .isTrue trivial
  | marker :: after =>
    have := List.decidableBAll (fun c => c = ' ') (upTo recordingMarker after)
    inferInstanceAs (Decidable (if marker = recordingMarker then _ else _))

instance : DecidablePred Unambiguous := fun _ => inferInstanceAs (Decidable (ClearFrom _))

theorem noMarker_iff {text : List Char} : NoMarker text ↔ ∀ c ∈ text, isMarker c = false := by
  simp only [NoMarker, isMarker, Bool.or_eq_false_iff, decide_eq_false_iff_not]
  constructor
  · rintro ⟨hRecording, hTts⟩ c hc
    exact ⟨fun hSame => hRecording (hSame ▸ hc), fun hSame => hTts (hSame ▸ hc)⟩
  · intro h
    exact ⟨fun hMem => (h _ hMem).1 rfl, fun hMem => (h _ hMem).2 rfl⟩

theorem split_firstMarked (text : List Char) :
    ∃ before, NoMarker before ∧ text = before ++ firstMarked text := by
  refine ⟨text.takeWhile fun c => !isMarker c, noMarker_iff.mpr fun c hc => ?_,
    (List.takeWhile_append_dropWhile).symm⟩
  simpa using List.mem_takeWhile_imp hc

theorem isMarker_firstMarked {text rest : List Char} {marker : Char}
    (h : firstMarked text = marker :: rest) : isMarker marker = true := by
  have hHead := List.head?_dropWhile_not (fun c => !isMarker c) text
  rw [show text.dropWhile (fun c => !isMarker c) = marker :: rest from h] at hHead
  simpa using hHead

theorem cut_at {marker : Char} {pieces : List (List Char)} {before after : List Char}
    (hBefore : marker ∉ before) (h : pieces.flatten = before ++ marker :: after) :
    ∃ first later start stop, pieces = first ++ (start ++ marker :: stop) :: later ∧
      before = first.flatten ++ start ∧ after = stop ++ later.flatten := by
  induction pieces generalizing before with
  | nil => simp at h
  | cons piece pieces ih =>
    rw [List.flatten_cons] at h
    by_cases hHere : marker ∈ piece
    · obtain ⟨start, stop, rfl, hStart⟩ := List.eq_append_cons_of_mem hHere
      rw [List.append_assoc, List.cons_append] at h
      obtain ⟨rfl, rfl⟩ := split_first hStart hBefore h
      exact ⟨[], pieces, start, stop, rfl, rfl, rfl⟩
    · have hLater : marker ∈ pieces.flatten := by
        have hMem : marker ∈ piece ++ pieces.flatten := by simp [h]
        exact (List.mem_append.mp hMem).resolve_left hHere
      obtain ⟨start, stop, hSplit, hStart⟩ := List.eq_append_cons_of_mem hLater
      rw [hSplit, ← List.append_assoc] at h
      obtain ⟨hSame, rfl⟩ := split_first (by simp [hHere, hStart]) hBefore h
      obtain ⟨first, later, start', stop', rfl, rfl, rfl⟩ := ih hStart hSplit
      exact ⟨piece :: first, later, start', stop', rfl, by rw [← hSame]; simp, rfl⟩

theorem dropSpaces_withoutSpace (text more : List Char) :
    dropSpaces (withoutSpace text ++ more) = dropSpaces (text ++ more) := by
  cases text with
  | nil => rfl
  | cons c text =>
    by_cases hc : c = ' '
    · subst hc
      simp [withoutSpace, dropSpaces]
    · simp [withoutSpace, hc]

theorem dropSpaces_eq_nil {text : List Char} : dropSpaces text = [] ↔ ∀ c ∈ text, c = ' ' := by
  simp [dropSpaces, List.dropWhile_eq_nil_iff]

theorem withoutSpace_sublist (text : List Char) : (withoutSpace text).Sublist text := by
  rw [withoutSpace]
  split
  · exact List.tail_sublist text
  · exact List.Sublist.refl text

theorem upTo_sublist (c : Char) (text : List Char) : (upTo c text).Sublist text :=
  List.takeWhile_sublist _

theorem blank_of_withoutSpace {text : List Char} (h : Blank (withoutSpace text)) : Blank text := by
  rw [withoutSpace] at h
  split at h
  · next hHead =>
    obtain ⟨rest, rfl⟩ := List.head?_eq_some_iff.mp hHead
    intro c hc
    obtain rfl | hLater := List.mem_cons.mp hc
    · decide
    · exact h c hLater
  · exact h

theorem dropWhile_append_cons {c : Char} {text : List Char} (h : c ∉ text) (rest : List Char) :
    (text ++ c :: rest).dropWhile (· ≠ c) = c :: rest := by
  refine @List.append_cancel_left _ (upTo c (text ++ c :: rest)) _ _ ?_
  have hSplit := List.takeWhile_append_dropWhile (p := fun x => decide (x ≠ c)) (l := text ++ c :: rest)
  rw [show upTo c (text ++ c :: rest) ++ (text ++ c :: rest).dropWhile (· ≠ c) = _ from hSplit,
    upTo_append_cons h]

theorem Blank.of_sublist {text more : List Char} (h : Blank more) (hSublist : text.Sublist more) :
    Blank text := fun c hc => h c (hSublist.subset hc)

theorem recorded_blank {started : Bool} {body : List Char} (h : Blank body) :
    recorded started body = ⟨[], [], []⟩ := by
  simp [recorded, h]

theorem same_of_context {started started' : Bool} {body body' : List Char}
    (h : (recorded started body).context = (recorded started' body').context) :
    Blank body ∧ Blank body' ∨ body = body' := by
  by_cases hBlank : Blank body <;> by_cases hBlank' : Blank body' <;>
    simp_all [recorded]

section

variable {fetch : List Char → Option Audio} {before after : List Char}

theorem effect_unmarked {pieces : List (List Char)} (hBefore : NoMarker before)
    (hCut : IsCut pieces before) : effect (Router.respond fetch pieces) = ⟨[], before, []⟩ := by
  have hFlatten := hCut.flatten
  rw [effect_respond_unmarked (hFlatten ▸ hBefore), hFlatten]

variable (fetch) in
theorem effect_recording (hBefore : NoMarker before) {pieces : List (List Char)}
    (hCut : IsCut pieces (before ++ recordingMarker :: after)) : ∃ stop later, after = stop ++ later ∧
      effect (Router.respond fetch pieces) = recorded false (withoutSpace stop ++ upTo ttsMarker later) ∧
      downstreamTexts (Router.respond fetch pieces) = contextTexts (Router.respond fetch pieces) := by
  obtain ⟨first, later, start, stop, rfl, rfl, rfl⟩ := cut_at hBefore.1 hCut.flatten
  obtain ⟨hFirst, hStart⟩ := NoMarker.append_iff.mp hBefore
  refine ⟨stop, later.flatten, rfl, effect_respond_recording first hFirst hStart.1, ?_⟩
  have hStep := handleLlmText_buffering fetch first (start ++ recordingMarker :: stop)
  dsimp only at hStep
  rw [if_pos (by simp)] at hStep
  rw [respond_eq, finish_append hFirst, finish_cons, hStep, List.nil_append, downstreamTexts_append,
    contextTexts_append, downstreamTexts_finish _ rfl]
  rfl

variable (fetch) in
theorem effect_tts (hBefore : NoMarker before) {pieces : List (List Char)}
    (hCut : IsCut pieces (before ++ ttsMarker :: after)) :
    (∃ stop later, after = stop ++ later ∧ recordingMarker ∉ stop ∧ effect (Router.respond fetch pieces) =
        ⟨[], withoutSpace stop ++ upTo recordingMarker later, []⟩) ∨
    ∃ stop later, after = upTo recordingMarker after ++ recordingMarker :: (stop ++ later) ∧
      effect (Router.respond fetch pieces) = recorded false (withoutSpace stop ++ upTo ttsMarker later) := by
  obtain ⟨first, later, start, stop, rfl, rfl, rfl⟩ := cut_at hBefore.2 hCut.flatten
  obtain ⟨hFirst, hStart⟩ := NoMarker.append_iff.mp hBefore
  by_cases hHere : recordingMarker ∈ stop
  · right
    obtain ⟨between, stop', rfl, hBetween⟩ := List.eq_append_cons_of_mem hHere
    refine ⟨stop', later.flatten, ?_, ?_⟩
    · rw [List.append_assoc, List.cons_append, upTo_append_cons hBetween]
    · have hMarkers : recordingMarker ≠ ttsMarker := by decide
      have hPiece : start ++ ttsMarker :: (between ++ recordingMarker :: stop') =
          (start ++ ttsMarker :: between) ++ recordingMarker :: stop' := by simp
      rw [hPiece]
      exact effect_respond_recording first hFirst (by simp [hStart.1, hMarkers, hBetween])
  · exact .inl ⟨stop, later.flatten, rfl, hHere, effect_respond_tts first hFirst hStart hHere⟩

variable (fetch) in
theorem effect_recording_of_clear (hBefore : NoMarker before)
    (h : ClearFrom (recordingMarker :: after)) {pieces : List (List Char)}
    (hCut : IsCut pieces (before ++ recordingMarker :: after)) :
    effect (Router.respond fetch pieces) = recorded false after := by
  obtain ⟨hTts, hSpace⟩ : ttsMarker ∉ after ∧ (after.head? = some ' ' → Blank after) := h
  obtain ⟨stop, later, rfl, hEffect, -⟩ := effect_recording fetch hBefore hCut
  rw [hEffect, upTo_of_notMem fun hMem => hTts (List.mem_append_right _ hMem)]
  by_cases hBlank : Blank (stop ++ later)
  · rw [recorded_blank hBlank, recorded_blank (hBlank.of_sublist
      ((withoutSpace_sublist stop).append (List.Sublist.refl later)))]
  · rw [withoutSpace, if_neg]
    intro hHead
    apply hBlank
    apply hSpace
    cases stop with
    | nil => cases hHead
    | cons c stop => exact hHead

variable (fetch) in
theorem effect_tts_of_clear (hBefore : NoMarker before) (h : ClearFrom (ttsMarker :: after))
    {pieces : List (List Char)} (hCut : IsCut pieces (before ++ ttsMarker :: after)) :
    (effect (Router.respond fetch pieces)).Agrees ⟨[], upTo recordingMarker after, []⟩ := by
  have hClear : recordingMarker ∈ after → (∀ c ∈ upTo recordingMarker after, c = ' ') ∧
      Blank (after.dropWhile (· ≠ recordingMarker)).tail := h
  obtain ⟨stop, later, rfl, hStop, hEffect⟩ | ⟨stop, later, hAfter, hEffect⟩ :=
    effect_tts fetch hBefore hCut
  · rw [hEffect, upTo_append, upTo_of_notMem hStop, if_neg hStop]
    exact ⟨rfl, dropSpaces_withoutSpace _ _, rfl⟩
  · have hMem : recordingMarker ∈ after := by
      rw [hAfter]
      simp
    obtain ⟨hSpaces, hBlank⟩ := hClear hMem
    have hRest : after.dropWhile (· ≠ recordingMarker) = recordingMarker :: (stop ++ later) := by
      rw [hAfter]
      refine dropWhile_append_cons (fun hSame => ?_) _
      simpa using List.mem_takeWhile_imp hSame
    rw [hRest, List.tail_cons] at hBlank
    rw [hEffect, recorded_blank (hBlank.of_sublist
      ((withoutSpace_sublist stop).append (upTo_sublist ttsMarker later)))]
    exact ⟨rfl, (dropSpaces_eq_nil.mpr hSpaces).symm, rfl⟩

theorem routedAlike_of_unambiguous {text : List Char} (h : Unambiguous text) : RoutedAlike fetch text := by
  obtain ⟨before, hBefore, hText⟩ := split_firstMarked text
  rw [Unambiguous] at h
  cases hMarked : firstMarked text with
  | nil =>
    rw [hMarked, List.append_nil] at hText
    subst hText
    constructor
    · intro pieces pieces' hCut hCut'
      rw [effect_unmarked hBefore hCut, effect_unmarked hBefore hCut']
      exact ⟨rfl, rfl, rfl⟩
    · intro pieces _ after hAfter
      rw [hMarked] at hAfter
      cases hAfter
    · intro pieces _ after hAfter
      rw [hMarked] at hAfter
      cases hAfter
  | cons marker after =>
    rw [hMarked] at h hText
    have hMarker := isMarker_firstMarked hMarked
    simp only [isMarker, Bool.or_eq_true, decide_eq_true_eq] at hMarker
    obtain rfl | rfl := hMarker
    · constructor
      · intro pieces pieces' hCut hCut'
        rw [effect_recording_of_clear fetch hBefore h (hText ▸ hCut),
          effect_recording_of_clear fetch hBefore h (hText ▸ hCut')]
        exact ⟨rfl, rfl, rfl⟩
      · intro pieces _ after' hAfter
        rw [hMarked] at hAfter
        cases hAfter
      · intro pieces hCut after' hAfter
        rw [hMarked] at hAfter
        cases hAfter
        have hEffect := effect_recording_of_clear fetch hBefore h (hText ▸ hCut)
        obtain ⟨-, -, -, -, hDownstream⟩ := effect_recording fetch hBefore (hText ▸ hCut)
        have hContext := congrArg Effect.context hEffect
        refine ⟨congrArg Effect.spoken hEffect, fun pushed hPushed => ?_⟩
        rw [hDownstream, show contextTexts (Router.respond fetch pieces) = _ from hContext,
          recorded] at hPushed
        dsimp only at hPushed
        rw [upTo_of_notMem h.1]
        split at hPushed
        · cases hPushed
        · rw [List.mem_singleton.mp hPushed]
    · constructor
      · intro pieces pieces' hCut hCut'
        obtain ⟨hFetched, hSpoken, hContext⟩ :=
          effect_tts_of_clear fetch hBefore h (hText ▸ hCut)
        obtain ⟨hFetched', hSpoken', hContext'⟩ :=
          effect_tts_of_clear fetch hBefore h (hText ▸ hCut')
        exact ⟨hFetched.trans hFetched'.symm, hSpoken.trans hSpoken'.symm,
          hContext.trans hContext'.symm⟩
      · intro pieces hCut _ _
        exact (effect_tts_of_clear fetch hBefore h (hText ▸ hCut)).1
      · intro pieces _ after' hAfter
        rw [hMarked] at hAfter
        cases hAfter

theorem cut_whole {text : List Char} (h : text ≠ []) : IsCut [text] text :=
  ⟨by simpa using h, by simp⟩

theorem cut_behind {marker : Char} (h : after ≠ []) :
    IsCut [before ++ [marker], after] (before ++ marker :: after) :=
  ⟨by simpa using h, by simp⟩

theorem unambiguous_of_routedAlike {text : List Char} (h : RoutedAlike fetch text) : Unambiguous text := by
  obtain ⟨before, hBefore, hText⟩ := split_firstMarked text
  rw [Unambiguous]
  cases hMarked : firstMarked text with
  | nil => trivial
  | cons marker after =>
    rw [hMarked] at hText
    subst hText
    have hMarker := isMarker_firstMarked hMarked
    simp only [isMarker, Bool.or_eq_true, decide_eq_true_eq] at hMarker
    have hNone : NoMarker ([] : List (List Char)).flatten := ⟨List.not_mem_nil, List.not_mem_nil⟩
    have hWhole : ∀ marker : Char, IsCut [before ++ marker :: after] (before ++ marker :: after) :=
      fun marker => cut_whole (by simp)
    obtain rfl | rfl := hMarker
    · have hOne : effect (Router.respond fetch [before ++ recordingMarker :: after]) =
          recorded false (withoutSpace after ++ upTo ttsMarker [].flatten) :=
        effect_respond_recording [] hNone hBefore.1
      have hTwo : effect (Router.respond fetch [before ++ [recordingMarker], after]) =
          recorded false (withoutSpace [] ++ upTo ttsMarker [after].flatten) :=
        effect_respond_recording [] hNone hBefore.1
      have hContexts : after ≠ [] → Blank (withoutSpace after) ∧ Blank (upTo ttsMarker after) ∨
          withoutSpace after = upTo ttsMarker after := by
        intro hAfter
        have hAgree := (h.agrees _ _ (hWhole _) (cut_behind hAfter)).2.2
        rw [hOne, hTwo, List.flatten_nil, List.flatten_singleton, upTo_of_notMem List.not_mem_nil,
          List.append_nil] at hAgree
        exact same_of_context hAgree
      have hTts : ttsMarker ∉ after := by
        intro hMem
        have hBehind : ttsMarker ∈ withoutSpace after := by
          rw [withoutSpace]
          split
          · next hHead =>
            obtain ⟨rest, rfl⟩ := List.head?_eq_some_iff.mp hHead
            exact (List.mem_cons.mp hMem).resolve_left (by decide)
          · exact hMem
        obtain ⟨hBlank, -⟩ | hSame := hContexts (List.ne_nil_of_mem hMem)
        · exact absurd (hBlank _ hBehind) (by decide)
        · rw [hSame] at hBehind
          exact absurd (List.mem_takeWhile_imp hBehind) (by simp)
      refine ⟨hTts, fun hHead => ?_⟩
      rw [upTo_of_notMem hTts] at hContexts
      obtain ⟨rest, rfl⟩ := List.head?_eq_some_iff.mp hHead
      obtain ⟨-, hBlank⟩ | hSame := hContexts (List.cons_ne_nil _ _)
      · exact hBlank
      · exact absurd hSame.symm (List.cons_ne_self _ _)
    · intro hMem
      obtain ⟨between, rest, rfl, hBetween⟩ := List.eq_append_cons_of_mem hMem
      have hMarkers : recordingMarker ≠ ttsMarker := by decide
      have hPiece : before ++ ttsMarker :: (between ++ recordingMarker :: rest) =
          (before ++ ttsMarker :: between) ++ recordingMarker :: rest := by simp
      have hOne : effect (Router.respond fetch
          [before ++ ttsMarker :: (between ++ recordingMarker :: rest)]) =
            recorded false (withoutSpace rest ++ upTo ttsMarker [].flatten) := by
        rw [hPiece]
        exact effect_respond_recording [] hNone (by simp [hBefore.1, hMarkers, hBetween])
      have hTwo : effect (Router.respond fetch
          [before ++ [ttsMarker], between ++ recordingMarker :: rest]) =
            ⟨[], withoutSpace [] ++ upTo recordingMarker [between ++ recordingMarker :: rest].flatten, []⟩ :=
        effect_respond_tts [] hNone hBefore List.not_mem_nil
      have hAgree := (h.agrees _ _ (hWhole _) (cut_behind (by simp))).2.1
      have hSilent := h.tts _ (hWhole _) _ hMarked
      rw [hOne, hTwo, List.flatten_singleton, upTo_append_cons hBetween] at hAgree
      rw [show fetchedIds (Router.respond fetch _) = _ from congrArg Effect.fetched hOne] at hSilent
      rw [upTo_append_cons hBetween, dropWhile_append_cons hBetween, List.tail_cons]
      refine ⟨dropSpaces_eq_nil.mp hAgree.symm, ?_⟩
      apply blank_of_withoutSpace
      by_contra hWord
      simp [recorded, upTo, hWord] at hSilent

/-- A response is routed alike in all its pieces exactly if its markers leave no doubt. -/
theorem routedAlike_iff_unambiguous (fetch : List Char → Option Audio) (text : List Char) :
    RoutedAlike fetch text ↔ Unambiguous text :=
  ⟨unambiguous_of_routedAlike, routedAlike_of_unambiguous⟩

end

example : Unambiguous "▸ Hello, how are you today?".toList := by decide +kernel

example : ¬Unambiguous "● abc123 [ This is the transcript. ]".toList := by decide +kernel

def twoMarkers : String := "▸ Okay.\n● abc123 [ This is the transcript. ]"

theorem twoMarkers_routed :
    fetchedIds (Router.respond (fun _ => some ()) [twoMarkers.toList]) = ["abc123".toList] ∧
      (firstMarked twoMarkers.toList).head? = some ttsMarker ∧
      ¬RoutedAlike (fun _ => some ()) twoMarkers.toList := by
  refine ⟨by decide +kernel, by decide +kernel, fun h => ?_⟩
  have hUnambiguous := unambiguous_of_routedAlike h
  revert hUnambiguous
  decide +kernel

end FastVoice.Playback
