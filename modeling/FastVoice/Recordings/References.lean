import FastVoice.Runtime.Replacing
import FastVoice.Runtime.Text
import Mathlib.Data.List.TakeWhile

/-! # References to recordings

A prompt refers to a recording by the text `RECORDING_ID: ` and the recording's identifier, which ends
where the next character cannot belong to it. A renaming replaces that text with the old identifier,
whatever comes behind it.
-/
namespace FastVoice.Recordings
open Replacing

/-- The characters of `^[a-zA-Z0-9_-]+$`. -/
def isIdChar (c : Char) : Bool := c.isAlphanum || c = '_' || c = '-'

def IsRecordingId (id : List Char) : Prop := id ≠ [] ∧ ∀ c ∈ id, isIdChar c = true

instance (id : List Char) : Decidable (IsRecordingId id) :=
  have := List.decidableBAll (fun c => isIdChar c = true) id
  inferInstanceAs (Decidable (_ ∧ _))

def marker : List Char := "RECORDING_ID: ".toList

/-- The identifier that a text starts to refer to. -/
def referenceAt (text : List Char) : Option (List Char) :=
  if marker <+: text then
    some ((text.drop marker.length).takeWhile isIdChar) |>.filter (· ≠ [])
  else
    none

def renamed (old new id : List Char) : List Char := if id = old then new else id

def replaceReferences (old new text : List Char) : List Char :=
  replace (marker ++ old) (marker ++ new) text

/-- Each reference of a text is where the rewriting of what stands before it ends, and names what it
named, renamed. -/
def Keeps (old new text text' : List Char) : Prop :=
  ∀ before rest, before ++ rest = text → ∀ id ∈ referenceAt rest,
    ∃ rest', text' = replaceReferences old new before ++ rest' ∧
      referenceAt rest' = some (renamed old new id)

/-- A reference to an identifier that starts with the old one ends where the old one does, and no other
reference starts before that. -/
def EndsThere (old rest : List Char) : Prop :=
  ∀ id ∈ referenceAt rest, old <+: id →
    id = old ∧ ∀ first more, first ++ more = rest → first ≠ [] →
      first.length < (marker ++ old).length → referenceAt more = none

def Clear (old text : List Char) : Prop := ∀ before rest, before ++ rest = text → EndsThere old rest

def Ends (text : List Char) : Prop := ∀ c ∈ text.head?, isIdChar c = false

theorem takeWhile_of_ends {id rest : List Char} (h : ∀ c ∈ id, isIdChar c = true) (hRest : Ends rest) :
    (id ++ rest).takeWhile isIdChar = id := by
  rw [List.takeWhile_append_of_pos h]
  cases rest with
  | nil => simp
  | cons c rest => simp [hRest c rfl]

theorem referenceAt_eq_some {text id : List Char} : referenceAt text = some id ↔
    IsRecordingId id ∧ ∃ rest, Ends rest ∧ text = marker ++ (id ++ rest) := by
  rw [referenceAt]
  constructor
  · intro h
    split at h
    · next hMarker =>
      obtain ⟨hSome, hNonempty⟩ := Option.filter_eq_some_iff.mp h
      cases hSome
      obtain ⟨behind, rfl⟩ := hMarker
      rw [List.drop_left] at hNonempty ⊢
      refine ⟨⟨of_decide_eq_true hNonempty, fun c hc => List.mem_takeWhile_imp hc⟩,
        behind.dropWhile isIdChar, ?_, by rw [List.takeWhile_append_dropWhile]⟩
      intro c hc
      have hFirst := List.head?_dropWhile_not isIdChar behind
      rw [Option.mem_def.mp hc] at hFirst
      simpa using hFirst
    · cases h
  · rintro ⟨⟨hNonempty, hChars⟩, rest, hRest, rfl⟩
    rw [if_pos (List.prefix_append _ _), List.drop_left, takeWhile_of_ends hChars hRest]
    simp [hNonempty]

theorem id_unique {id id' rest rest' : List Char} (h : id ++ rest = id' ++ rest')
    (hChars : ∀ c ∈ id, isIdChar c = true) (hRest : Ends rest)
    (hChars' : ∀ c ∈ id', isIdChar c = true) (hRest' : Ends rest') : id = id' := by
  rw [← takeWhile_of_ends hChars hRest, h, takeWhile_of_ends hChars' hRest']

def markerName : List Char := "RECORDING_ID".toList

theorem marker_eq : marker = markerName ++ ": ".toList := rfl

theorem markerName_chars : ∀ c ∈ markerName, isIdChar c = true :=
  Text.forall_of_all (by decide)

theorem ends_of_marker (rest : List Char) : Ends (": ".toList ++ rest) := by
  intro c hc
  cases hc
  rfl

theorem eq_markerName {id rest : List Char} (behind : List Char) (hChars : ∀ c ∈ id, isIdChar c = true)
    (hRest : Ends rest) (h : id ++ rest = marker ++ behind) : id = markerName := by
  rw [marker_eq, List.append_assoc] at h
  exact id_unique h hChars hRest markerName_chars (ends_of_marker behind)

section

variable {old new : List Char}

theorem pattern_ne_nil (old : List Char) : marker ++ old ≠ [] := by
  intro h
  cases (List.append_eq_nil_iff.mp h).1

theorem head?_pattern (old : List Char) : (marker ++ old).head? = some 'R' := rfl

variable (old new) in
theorem replace_id (id : List Char) {rest : List Char} (hChars : ∀ c ∈ id, isIdChar c = true) (hRest : Ends rest) :
    ∃ rest', Ends rest' ∧ replaceReferences old new (id ++ rest) = id ++ rest' := by
  induction id with
  | nil =>
    cases rest with
    | nil => exact ⟨[], hRest, rfl⟩
    | cons c rest =>
      have hc : c ≠ 'R' := by
        rintro rfl
        cases hRest 'R' rfl
      have hHead : (marker ++ old).head? ≠ some c := by
        rw [head?_pattern]
        exact fun hSame => hc (Option.some.inj hSame).symm
      exact ⟨c :: replaceReferences old new rest, hRest,
        replace_cons_of_head hHead (pattern_ne_nil old) rest⟩
  | cons c id ih =>
    by_cases hHere : marker ++ old <+: (c :: id) ++ rest
    · obtain ⟨behind, hBehind⟩ := hHere
      have hName : c :: id = markerName :=
        eq_markerName (old ++ behind) hChars hRest (by rw [← hBehind, List.append_assoc])
      refine ⟨": ".toList ++ (new ++ replaceReferences old new behind), ends_of_marker _, ?_⟩
      rw [replaceReferences, ← hBehind, replace_append_self (pattern_ne_nil old), hName, marker_eq]
      simp only [List.append_assoc, replaceReferences, marker_eq]
    · obtain ⟨rest', hEnds, hRewritten⟩ := ih (List.forall_mem_cons.mp hChars).2
      refine ⟨rest', hEnds, ?_⟩
      rw [replaceReferences, List.cons_append, replace_cons (by simpa using hHere)]
      exact congrArg (c :: ·) hRewritten

theorem replace_marker {text : List Char} (h : ¬marker ++ old <+: marker ++ text) :
    replaceReferences old new (marker ++ text) = marker ++ replaceReferences old new text := by
  have hSplit : marker = 'R' :: ("ECO".toList ++ 'R' :: "DING_ID: ".toList) := rfl
  have hFirst : ∀ u : List Char, 'R' ∉ u → ∀ v, replaceReferences old new (u ++ v) =
      u ++ replaceReferences old new v := by
    intro u hu v
    apply replace_append_of_head _ (pattern_ne_nil old)
    rintro c hc hSame
    rw [head?_pattern] at hSame
    exact hu (Option.some.inj hSame ▸ hc)
  have hSecond : ∀ v, replaceReferences old new ('R' :: ("DING_ID: ".toList ++ v)) =
      'R' :: replaceReferences old new ("DING_ID: ".toList ++ v) := by
    intro v
    apply replace_cons
    rw [hSplit]
    simp
  have hHere : replaceReferences old new (marker ++ text) = 'R' :: replaceReferences old new
      ("ECO".toList ++ ('R' :: ("DING_ID: ".toList ++ text))) := replace_cons h
  rw [hHere, hFirst _ (by decide), hSecond, hFirst _ (by decide), hSplit]
  simp

theorem referenceAt_pattern {old rest : List Char} (hOld : IsRecordingId old) (behind : List Char)
    (h : marker ++ old ++ behind = rest) : ∃ more, referenceAt rest = some (old ++ more) := by
  refine ⟨behind.takeWhile isIdChar, referenceAt_eq_some.mpr ⟨⟨?_, ?_⟩, behind.dropWhile isIdChar, ?_, ?_⟩⟩
  · exact fun hNil => hOld.1 (List.append_eq_nil_iff.mp hNil).1
  · intro c hc
    obtain hc | hc := List.mem_append.mp hc
    · exact hOld.2 c hc
    · exact List.mem_takeWhile_imp hc
  · intro c hc
    have hFirst := List.head?_dropWhile_not isIdChar behind
    rw [Option.mem_def.mp hc] at hFirst
    simpa using hFirst
  · rw [← h, List.append_assoc, List.append_assoc, List.takeWhile_append_dropWhile]

theorem apart_of_endsThere {before rest id : List Char} (hOld : IsRecordingId old)
    (hRest : referenceAt rest = some id)
    (h : ∀ first more, first ++ more = before → more ≠ [] → EndsThere old (more ++ rest)) :
    Apart (marker ++ old) before rest := by
  rintro more ⟨first, hFirst⟩ hMore ⟨behind, hBehind⟩
  by_contra hShort
  obtain ⟨tail, hReference⟩ := referenceAt_pattern hOld _ hBehind
  obtain ⟨-, hInside⟩ :=
    h first more hFirst hMore _ hReference (List.prefix_append _ _)
  have hNone := hInside more rest rfl hMore (by omega)
  rw [hRest] at hNone
  cases hNone

theorem keeps_of_clear {text : List Char} (hOld : IsRecordingId old) (hNew : IsRecordingId new)
    (h : Clear old text) : Keeps old new text (replaceReferences old new text) := by
  intro before rest hText id hId
  have hApart : Apart (marker ++ old) before rest := by
    apply apart_of_endsThere hOld hId
    intro first more hFirst _
    exact h first (more ++ rest) (by rw [← List.append_assoc, hFirst, hText])
  refine ⟨replaceReferences old new rest, ?_, ?_⟩
  · rw [← hText]
    exact replace_append (pattern_ne_nil old) hApart
  · obtain ⟨hRecording, behind, hBehind, hSplit⟩ := referenceAt_eq_some.mp hId
    by_cases hPrefix : old <+: id
    · obtain ⟨rfl, -⟩ := h before rest hText id hId hPrefix
      obtain ⟨behind', hEnds, hRewritten⟩ := replace_id id new [] nofun hBehind
      rw [renamed, if_pos rfl, referenceAt_eq_some]
      refine ⟨hNew, behind', hEnds, ?_⟩
      rw [hSplit, ← List.append_assoc, replaceReferences, replace_append_self (pattern_ne_nil id),
        List.append_assoc]
      exact congrArg (fun rest => marker ++ (new ++ rest)) hRewritten
    · have hOther : id ≠ old := fun hSame => hPrefix (hSame ▸ List.prefix_refl _)
      have hMissing : ¬marker ++ old <+: marker ++ (id ++ behind) := by
        intro hHere
        obtain ⟨tail, hTail⟩ := (List.prefix_append_right_inj marker).mp hHere
        obtain ⟨more, hReference⟩ := referenceAt_pattern hOld tail
          (show marker ++ old ++ tail = rest by rw [hSplit, ← hTail, List.append_assoc])
        rw [hId] at hReference
        exact hPrefix (Option.some.inj hReference ▸ List.prefix_append _ _)
      obtain ⟨behind', hEnds, hRewritten⟩ :=
        replace_id old new id hRecording.2 hBehind
      rw [renamed, if_neg hOther, referenceAt_eq_some]
      refine ⟨hRecording, behind', hEnds, ?_⟩
      rw [hSplit, replace_marker hMissing, hRewritten]

theorem marker_border : ∀ k < marker.length, 0 < k → ¬marker.drop k <+: marker := by decide

theorem eq_of_overlap {first behind behind' more more' : List Char} (hOld : IsRecordingId old)
    (hNew : IsRecordingId new) (hBehind : Ends behind) (hBehind' : Ends behind')
    (h : marker ++ (old ++ behind) = first ++ (marker ++ more))
    (h' : marker ++ (new ++ behind') = first ++ (marker ++ more'))
    (hNonempty : first ≠ []) (hShort : first.length < (marker ++ old).length) : old = new := by
  rw [List.length_append] at hShort
  have hPrefix : marker <+: first := by
    by_contra hOutside
    have hLess : first.length < marker.length := by
      by_contra hLong
      exact hOutside (List.prefix_of_prefix_length_le (List.prefix_append _ _)
        (h ▸ List.prefix_append first (marker ++ more)) (by omega))
    have hDrop : marker.drop first.length ++ (old ++ behind) = marker ++ more := by
      rw [← List.drop_append_of_le_length hLess.le, h, List.drop_left]
    have hBorder : marker.drop first.length <+: marker :=
      List.prefix_of_prefix_length_le (hDrop ▸ List.prefix_append _ _) (List.prefix_append marker more)
        (by simp)
    exact marker_border _ hLess (List.length_pos_of_ne_nil hNonempty) hBorder
  obtain ⟨start, rfl⟩ := hPrefix
  rw [List.length_append] at hShort
  rw [List.append_assoc, List.append_cancel_left_eq] at h h'
  obtain ⟨tail, rfl⟩ : start <+: old := List.prefix_of_prefix_length_le
    (h ▸ List.prefix_append start (marker ++ more)) (List.prefix_append old behind) (by omega)
  have hStart : ∀ c ∈ start, isIdChar c = true := fun c hc => hOld.2 c (List.mem_append_left _ hc)
  rw [List.append_assoc, List.append_cancel_left_eq] at h
  have hTail : tail = markerName :=
    eq_markerName _ (fun c hc => hOld.2 c (List.mem_append_right _ hc)) hBehind h
  rw [marker_eq, List.append_assoc, ← List.append_assoc] at h'
  rw [hTail]
  refine (id_unique h' hNew.2 hBehind' ?_ (ends_of_marker more')).symm
  intro c hc
  exact (List.mem_append.mp hc).elim (hStart c) (markerName_chars c)

theorem clear_of_keeps {text : List Char} (hOld : IsRecordingId old) (hNew : IsRecordingId new)
    (hDifferent : old ≠ new) (h : Keeps old new text (replaceReferences old new text)) : Clear old text := by
  intro before
  induction hn : before.length using Nat.strong_induction_on generalizing before with
  | _ n ih =>
    intro rest hText id hId hPrefix
    have hApart : Apart (marker ++ old) before rest := by
      apply apart_of_endsThere hOld hId
      intro first more hFirst hMore
      refine ih first.length ?_ first rfl (more ++ rest) (by rw [← List.append_assoc, hFirst, hText])
      rw [← hn, ← hFirst, List.length_append]
      have hPositive := List.length_pos_of_ne_nil hMore
      omega
    have hRewritten : replaceReferences old new text =
        replaceReferences old new before ++ replaceReferences old new rest := by
      rw [← hText]
      exact replace_append (pattern_ne_nil old) hApart
    obtain ⟨hRecording, behind, hBehind, hSplit⟩ := referenceAt_eq_some.mp hId
    obtain ⟨tail, rfl⟩ := hPrefix
    have hTail : ∀ c ∈ tail, isIdChar c = true := fun c hc =>
      hRecording.2 c (List.mem_append_right _ hc)
    obtain ⟨behind', hBehind', hKeptTail⟩ := replace_id old new tail hTail hBehind
    have hRest : replaceReferences old new rest = marker ++ ((new ++ tail) ++ behind') := by
      rw [hSplit, List.append_assoc, ← List.append_assoc, replaceReferences,
        replace_append_self (pattern_ne_nil old), List.append_assoc, List.append_assoc]
      exact congrArg (fun rest => marker ++ (new ++ rest)) hKeptTail
    have hNamed : referenceAt (replaceReferences old new rest) = some (new ++ tail) := by
      refine referenceAt_eq_some.mpr ⟨⟨?_, ?_⟩, behind', hBehind', hRest⟩
      · exact fun hNil => hNew.1 (List.append_eq_nil_iff.mp hNil).1
      · exact fun c hc => (List.mem_append.mp hc).elim (hNew.2 c) (hTail c)
    have hName : new ++ tail = renamed old new (old ++ tail) := by
      obtain ⟨rest', hPlace, hPlaced⟩ := h before rest hText _ hId
      rw [hRewritten, List.append_cancel_left_eq] at hPlace
      rw [← hPlace, hNamed] at hPlaced
      exact Option.some.inj hPlaced
    have hExact : tail = [] := by
      by_contra hLonger
      rw [renamed, if_neg (by simpa using hLonger), List.append_cancel_right_eq] at hName
      exact hDifferent hName.symm
    subst hExact
    simp only [List.append_nil] at hSplit hRest ⊢
    refine ⟨trivial, fun first more hMore hNonempty hShort => ?_⟩
    by_contra hSome
    obtain ⟨inner, hInner⟩ := Option.ne_none_iff_exists'.mp hSome
    -- Nothing before the inner reference is rewritten in the outer one, so that it stays where it is.
    obtain ⟨rest', hPlace, hPlaced⟩ := h (before ++ first) more (by rw [List.append_assoc, hMore, hText])
      inner hInner
    have hBefore : replaceReferences old new (before ++ first) =
        replaceReferences old new before ++ first := by
      have hFirst : replaceReferences old new first = first := replace_of_short hShort
      refine (replace_append (pattern_ne_nil old) fun s hs hsNonempty hsPrefix => ?_).trans
        (congrArg (replaceReferences old new before ++ ·) hFirst)
      apply hApart s hs hsNonempty
      rw [← hMore, ← List.append_assoc]
      exact hsPrefix.trans (List.prefix_append _ _)
    rw [hBefore, hRewritten, List.append_assoc, List.append_cancel_left_eq, hRest] at hPlace
    obtain ⟨-, _, -, hOuter⟩ := referenceAt_eq_some.mp hInner
    obtain ⟨-, _, -, hAfter⟩ := referenceAt_eq_some.mp hPlaced
    exact hDifferent (eq_of_overlap hOld hNew hBehind hBehind'
      (hSplit.symm.trans (hMore.symm.trans (congrArg (first ++ ·) hOuter)))
      (hPlace.trans (congrArg (first ++ ·) hAfter)) hNonempty hShort)

theorem keeps_iff_clear {text : List Char} (hOld : IsRecordingId old) (hNew : IsRecordingId new)
    (hDifferent : old ≠ new) : Keeps old new text (replaceReferences old new text) ↔ Clear old text :=
  ⟨clear_of_keeps hOld hNew hDifferent, keeps_of_clear hOld hNew⟩

end

end FastVoice.Recordings
