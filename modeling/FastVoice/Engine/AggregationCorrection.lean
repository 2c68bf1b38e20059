import FastVoice.Runtime.Text
import Mathlib.Data.List.Infix

/-! # Correcting the text of aggregated speech

A spoken text comes back with spaces inserted and punctuation lost. It is aligned with the text of the generation from
the place where its first characters occur there, and what the alignment emits is the text of the generation.
-/
namespace FastVoice.Engine.AggregationCorrection

def isStructural (c : Char) : Bool := c = ' ' || c ∈ ['.', ',', ';', ':', '!', '?']

def alignFrom (r : Char) (next : List Char → List Char) : List Char → List Char
  | [] => []
  | c :: corrupted =>
    if r = c then r :: next corrupted
    else if c = ' ' then alignFrom r next corrupted
    else if isStructural r then r :: next (c :: corrupted)
    else r :: next corrupted

def align : List Char → List Char → List Char
  | [] => fun _ => []
  | r :: ref => alignFrom r (align ref)

def starts (pattern : List Char) : Nat → Nat → List Char → List Nat
  | _, _, [] => []
  | offset, skip + 1, _ :: text => starts pattern (offset + 1) skip text
  | offset, 0, c :: text =>
    if pattern.isPrefixOf (c :: text) then offset :: starts pattern (offset + 1) (pattern.length - 1) text
    else starts pattern (offset + 1) 0 text

section

variable (isAlnum : Char → Bool)

def alnum (text : List Char) : List Char := text.filter isAlnum

def correctCorruptedAggregation (ref corrupted : List Char) : List Char :=
  let alnumCorr := alnum isAlnum corrupted
  let alnumRef := alnum isAlnum ref
  if corrupted <:+: ref ∨ alnumRef.length < alnumCorr.length ∨ alnumCorr.length < 10 then corrupted
  else
    let start := (starts (corrupted.take 10) 0 0 ref).getLast?.getD 0
    let out := align (ref.drop start) corrupted
    if alnum isAlnum out ≠ alnumCorr then corrupted else out

def correctAggregation (reference corrupted : List Char) : List Char :=
  if reference.isEmpty then corrupted else correctCorruptedAggregation isAlnum reference corrupted

end

/-- Spaces are inserted, and spaces and marks deleted. -/
inductive Corrupts : List Char → List Char → Prop
  | nil : Corrupts [] []
  | keep (c : Char) {text corrupted : List Char} : Corrupts text corrupted → Corrupts (c :: text) (c :: corrupted)
  | insert {text corrupted : List Char} : Corrupts text corrupted → Corrupts text (' ' :: corrupted)
  | delete {c : Char} {text corrupted : List Char} : isStructural c = true → Corrupts text corrupted →
      Corrupts (c :: text) corrupted

/-- The texts differ in spaces and marks at their ends only. -/
def SameUpToEnd (out text : List Char) : Prop :=
  ∃ core more rest, out = core ++ more ∧ text = core ++ rest ∧
    (∀ c ∈ more, isStructural c = true) ∧ ∀ c ∈ rest, isStructural c = true

namespace Corrupts

variable {text corrupted : List Char} {c r : Char}

theorem of_space (h : Corrupts text (' ' :: corrupted)) : Corrupts text corrupted := by
  generalize hWhole : ' ' :: corrupted = whole at h
  induction h with
  | nil => cases hWhole
  | keep c hRest =>
    cases hWhole
    exact .delete rfl hRest
  | insert hRest =>
    cases hWhole
    exact hRest
  | delete hMark _ ih => exact .delete hMark (ih hWhole)

theorem of_structural (hMark : isStructural c = true) (h : Corrupts text (c :: corrupted)) :
    Corrupts text corrupted := by
  generalize hWhole : c :: corrupted = whole at h
  induction h with
  | nil => cases hWhole
  | keep c hRest =>
    cases hWhole
    exact .delete hMark hRest
  | insert hRest =>
    cases hWhole
    exact hRest
  | delete hOther _ ih => exact .delete hOther (ih hWhole)

theorem tail_space (h : Corrupts (' ' :: text) corrupted) : Corrupts text corrupted := by
  generalize hWhole : ' ' :: text = whole at h
  induction h with
  | nil => cases hWhole
  | keep c hRest =>
    cases hWhole
    exact .insert hRest
  | insert _ ih => exact .insert (ih hWhole)
  | delete _ hRest =>
    cases hWhole
    exact hRest

theorem of_same (h : Corrupts (c :: text) (c :: corrupted)) : Corrupts text corrupted := by
  cases h with
  | keep _ hRest => exact hRest
  | insert hRest => exact hRest.tail_space
  | delete hMark hRest => exact hRest.of_structural hMark

theorem of_ne (hSame : r ≠ c) (hSpace : c ≠ ' ') (h : Corrupts (r :: text) (c :: corrupted)) :
    isStructural r = true ∧ Corrupts text (c :: corrupted) := by
  cases h with
  | keep _ _ => exact absurd rfl hSame
  | insert _ => exact absurd rfl hSpace
  | delete hMark hRest => exact ⟨hMark, hRest⟩

theorem structural_of_nil (h : Corrupts text []) : ∀ c ∈ text, isStructural c = true := by
  generalize hWhole : ([] : List Char) = whole at h
  induction h with
  | nil => exact nofun
  | keep c _ => cases hWhole
  | insert _ => cases hWhole
  | delete hMark _ ih => exact List.forall_mem_cons.mpr ⟨hMark, ih hWhole⟩

theorem spaces_of_nil (h : Corrupts [] corrupted) : ∀ c ∈ corrupted, c = ' ' := by
  generalize hWhole : ([] : List Char) = whole at h
  induction h with
  | nil => exact nofun
  | keep c _ => cases hWhole
  | insert _ ih => exact List.forall_mem_cons.mpr ⟨rfl, ih hWhole⟩
  | delete _ _ => cases hWhole

theorem append_left (first : List Char) (h : Corrupts text corrupted) :
    Corrupts (first ++ text) (first ++ corrupted) := by
  induction first with
  | nil => exact h
  | cons c first ih => exact .keep c ih

theorem alnum_eq {isAlnum : Char → Bool} (hMarks : ∀ c, isStructural c = true → isAlnum c = false)
    (h : Corrupts text corrupted) : alnum isAlnum corrupted = alnum isAlnum text := by
  induction h with
  | nil => rfl
  | keep c _ ih => rw [alnum, List.filter_cons, ← alnum, ih, alnum, alnum, List.filter_cons]
  | insert _ ih => rw [← ih, alnum, List.filter_cons_of_neg (by rw [hMarks ' ' rfl]; exact Bool.false_ne_true)]; rfl
  | delete hMark _ ih =>
    rw [ih]
    exact (List.filter_cons_of_neg (by rw [hMarks _ hMark]; exact Bool.false_ne_true)).symm

end Corrupts

section

variable {text corrupted : List Char}

theorem align_spaces (behind : List Char) : ∀ {corrupted : List Char}, (∀ c ∈ corrupted, c = ' ') →
    ∀ c ∈ align behind corrupted, c = ' ' := by
  induction behind with
  | nil => exact fun _ => nofun
  | cons r behind ih =>
    intro corrupted hSpaces
    induction corrupted with
    | nil => exact nofun
    | cons c corrupted ihCorrupted =>
      obtain ⟨rfl, hRest⟩ := List.forall_mem_cons.mp hSpaces
      rw [align, alignFrom]
      split
      case isTrue hSame => exact List.forall_mem_cons.mpr ⟨hSame, ih hRest⟩
      case isFalse =>
        rw [if_pos rfl]
        exact ihCorrupted hRest

theorem align_sameUpToEnd (behind : List Char) : ∀ {text corrupted : List Char}, Corrupts text corrupted →
    SameUpToEnd (align (text ++ behind) corrupted) text := by
  intro text
  induction text with
  | nil =>
    intro corrupted h
    refine ⟨[], align behind corrupted, [], rfl, rfl, fun c hc => ?_, nofun⟩
    rw [align_spaces behind h.spaces_of_nil c hc]
    rfl
  | cons r text ih =>
    intro corrupted h
    have hCons {corrupted : List Char} (hRest : Corrupts text corrupted) :
        SameUpToEnd (r :: align (text ++ behind) corrupted) (r :: text) := by
      obtain ⟨core, more, rest, hOut, hText, hMore, hLeft⟩ := ih hRest
      exact ⟨r :: core, more, rest, congrArg _ hOut, congrArg _ hText, hMore, hLeft⟩
    induction corrupted with
    | nil => exact ⟨[], [], r :: text, rfl, rfl, nofun, h.structural_of_nil⟩
    | cons c corrupted ihCorrupted =>
      rw [List.cons_append, align, alignFrom]
      split
      case isTrue hSame =>
        subst hSame
        exact hCons h.of_same
      case isFalse hOther =>
        split
        case isTrue hSpace =>
          subst hSpace
          exact ihCorrupted h.of_space
        case isFalse hSpace =>
          obtain ⟨hMark, hRest⟩ := h.of_ne hOther hSpace
          rw [if_pos hMark]
          exact hCons hRest

theorem SameUpToEnd.alnum_eq {isAlnum : Char → Bool} (hMarks : ∀ c, isStructural c = true → isAlnum c = false)
    {out : List Char} (h : SameUpToEnd out text) : alnum isAlnum out = alnum isAlnum text := by
  obtain ⟨core, more, rest, rfl, rfl, hMore, hRest⟩ := h
  have hNone {marks : List Char} (hMarked : ∀ c ∈ marks, isStructural c = true) : alnum isAlnum marks = [] :=
    List.filter_eq_nil_iff.mpr fun c hc => Bool.eq_false_iff.mp (hMarks c (hMarked c hc))
  rw [alnum, List.filter_append, ← alnum, ← alnum, hNone hMore, alnum, alnum, List.filter_append, ← alnum,
    ← alnum, hNone hRest]

end

/-- A segment of a reference with its first ten characters, which occur nowhere behind their place there. -/
structure Segment (ref : List Char) where
  before : List Char
  opening : List Char
  rest : List Char
  behind : List Char
  ref_eq : ref = before ++ (opening ++ rest ++ behind)
  length_opening : opening.length = 10
  last : ∀ start, before.length < start → ¬opening <+: ref.drop start

section

variable (isAlnum : Char → Bool)

theorem alnum_correctAggregation (ref corrupted : List Char) :
    alnum isAlnum (correctAggregation isAlnum ref corrupted) = alnum isAlnum corrupted := by
  unfold correctAggregation correctCorruptedAggregation
  split
  · rfl
  · dsimp only
    split
    · rfl
    · split
      · rfl
      case isFalse hSame => exact not_not.mp hSame

variable {isAlnum} {ref : List Char}

def Segment.text (segment : Segment ref) : List Char := segment.opening ++ segment.rest

/-- A text that occurs in the reference is kept, and another one becomes the segment but for spaces and marks at its
end. -/
def Restores (isAlnum : Char → Bool) (segment : Segment ref) (corrupted : List Char) : Prop :=
  if corrupted <:+: ref then correctAggregation isAlnum ref corrupted = corrupted
  else SameUpToEnd (correctAggregation isAlnum ref corrupted) segment.text

def Segment.IsFound (segment : Segment ref) : Prop :=
  (starts segment.opening 0 0 ref).getLast? = some segment.before.length

theorem correctAggregation_of_infix {corrupted : List Char} (h : corrupted <:+: ref) :
    correctAggregation isAlnum ref corrupted = corrupted := by
  rw [correctAggregation, correctCorruptedAggregation]
  split
  · rfl
  · exact if_pos (.inl h)

theorem Segment.drop_before (segment : Segment ref) :
    ref.drop segment.before.length = segment.text ++ segment.behind := by
  calc ref.drop segment.before.length
      = (segment.before ++ (segment.text ++ segment.behind)).drop segment.before.length :=
        congrArg (List.drop _) segment.ref_eq
    _ = segment.text ++ segment.behind := List.drop_left

theorem Segment.take_opening (segment : Segment ref) (tail : List Char) :
    (segment.opening ++ tail).take 10 = segment.opening := by
  rw [← segment.length_opening, List.take_left]

theorem Segment.alnum_le (isAlnum : Char → Bool) (segment : Segment ref) :
    (alnum isAlnum segment.text).length ≤ (alnum isAlnum ref).length := by
  refine List.Sublist.length_le (List.Sublist.filter _ ?_)
  calc List.Sublist segment.text (segment.text ++ segment.behind) := List.sublist_append_left _ _
    List.Sublist _ (segment.before ++ (segment.text ++ segment.behind)) := List.sublist_append_right _ _
    _ = ref := segment.ref_eq.symm

theorem correctAggregation_of_isFound (hMarks : ∀ c, isStructural c = true → isAlnum c = false)
    {segment : Segment ref} (hLong : 10 ≤ (alnum isAlnum segment.text).length) (hFound : segment.IsFound)
    {tail : List Char} (hTail : Corrupts segment.rest tail) (hNew : ¬segment.opening ++ tail <:+: ref) :
    SameUpToEnd (correctAggregation isAlnum ref (segment.opening ++ tail)) segment.text := by
  have hCorrupts : Corrupts segment.text (segment.opening ++ tail) := hTail.append_left segment.opening
  have hAlnum := hCorrupts.alnum_eq hMarks
  have hRef := segment.alnum_le isAlnum
  have hNonempty : ref.isEmpty = false := by
    rw [Bool.eq_false_iff, ne_eq, List.isEmpty_iff]
    rintro rfl
    exact absurd (Nat.le_trans hLong hRef) (Nat.not_succ_le_zero 9)
  have hGuard : ¬(segment.opening ++ tail <:+: ref ∨ (alnum isAlnum ref).length <
      (alnum isAlnum (segment.opening ++ tail)).length ∨ (alnum isAlnum (segment.opening ++ tail)).length < 10) := by
    rw [hAlnum]
    rintro (hInfix | hShort | hShort)
    · exact hNew hInfix
    · omega
    · omega
  have hAligned : SameUpToEnd (align (ref.drop segment.before.length) (segment.opening ++ tail)) segment.text := by
    rw [segment.drop_before]
    exact align_sameUpToEnd segment.behind hCorrupts
  rw [correctAggregation, hNonempty, if_neg Bool.false_ne_true, correctCorruptedAggregation, if_neg hGuard,
    segment.take_opening, hFound, Option.getD_some]
  dsimp only
  rw [if_neg (not_not.mpr ((hAligned.alnum_eq hMarks).trans hAlnum.symm))]
  exact hAligned

end

/-- Letters and digits stay, and a corrupted segment is restored if the search finds its opening there. -/
theorem aggregation_restored {isAlnum : Char → Bool} (hMarks : ∀ c, isStructural c = true → isAlnum c = false)
    (ref : List Char) :
    (∀ corrupted, alnum isAlnum (correctAggregation isAlnum ref corrupted) = alnum isAlnum corrupted) ∧
      ∀ (segment : Segment ref) (tail : List Char), 10 ≤ (alnum isAlnum segment.text).length →
        Corrupts segment.rest tail → segment.opening ++ tail <:+: ref ∨ segment.IsFound →
          Restores isAlnum segment (segment.opening ++ tail) := by
  refine ⟨alnum_correctAggregation isAlnum ref, fun segment tail hLong hTail hCondition => ?_⟩
  unfold Restores
  split
  case isTrue hInfix => exact correctAggregation_of_infix hInfix
  case isFalse hNew => exact correctAggregation_of_isFound hMarks hLong (hCondition.resolve_left hNew) hTail hNew

theorem structural_not_alphanum (c : Char) (h : isStructural c = true) : c.isAlphanum = false := by
  rw [isStructural, Bool.or_eq_true, decide_eq_true_eq, decide_eq_true_eq] at h
  simp only [List.mem_cons, List.not_mem_nil, or_false] at h
  rcases h with rfl | rfl | rfl | rfl | rfl | rfl | rfl <;> rfl

theorem last_of_bounded {ref opening : List Char} {place : Nat} (hOpening : opening.length = 10)
    (h : ∀ start < ref.length, place < start → ¬opening <+: ref.drop start) (start : Nat)
    (hStart : place < start) : ¬opening <+: ref.drop start := by
  by_cases hBound : start < ref.length
  · exact h start hBound hStart
  · rw [List.drop_of_length_le (Nat.le_of_not_lt hBound), List.prefix_nil]
    rintro rfl
    cases hOpening

def greeting : List Char := "My name is Alex.".toList

def wholeGreeting : Segment greeting where
  before := []
  opening := "My name is".toList
  rest := " Alex.".toList
  behind := []
  ref_eq := by decide
  length_opening := by decide
  last := last_of_bounded (by decide) (by decide)

def corruptedEnd : List Char := " Al ex".toList

theorem aggregation_restored_greeting :
    Restores Char.isAlphanum wholeGreeting (wholeGreeting.opening ++ corruptedEnd) := by
  refine (aggregation_restored structural_not_alphanum greeting).2 wholeGreeting corruptedEnd (by decide) ?_
    (.inr (by unfold Segment.IsFound; decide))
  have hEnd : Corrupts (" Al".toList ++ ("ex".toList ++ ['.'])) (" Al".toList ++ (' ' :: ("ex".toList ++ []))) :=
    (Corrupts.insert ((Corrupts.delete rfl .nil).append_left _)).append_left _
  exact hEnd

def laughter : List Char := "ha ha ha ha ha ha ok let us go".toList

def lastLaughter : Segment laughter where
  before := "ha ha ".toList
  opening := "ha ha ha h".toList
  rest := "a ok let us go".toList
  behind := []
  ref_eq := by decide
  length_opening := by decide
  last := last_of_bounded (by decide) (by decide)

def splitWord : List Char := "a ok l et us go".toList

theorem SameUpToEnd.rdropWhile_eq {out text : List Char} (h : SameUpToEnd out text) :
    out.rdropWhile isStructural = text.rdropWhile isStructural := by
  obtain ⟨core, more, rest, rfl, rfl, hMore, hRest⟩ := h
  have hDrop {marks : List Char} (hMarked : ∀ c ∈ marks, isStructural c = true) :
      (core ++ marks).rdropWhile isStructural = core.rdropWhile isStructural := by
    induction marks using List.reverseRecOn with
    | nil => rw [List.append_nil]
    | append_singleton marks c ih =>
      rw [← List.append_assoc, List.rdropWhile_concat_pos _ _ _ (hMarked c (by simp))]
      exact ih fun other hOther => hMarked other (List.mem_append_left _ hOther)
  rw [hDrop hMore, hDrop hRest]

theorem laughter_not_restored : 10 ≤ (alnum Char.isAlphanum lastLaughter.text).length ∧
    Corrupts lastLaughter.rest splitWord ∧
      ¬Restores Char.isAlphanum lastLaughter (lastLaughter.opening ++ splitWord) := by
  refine ⟨by decide, ?_, ?_⟩
  · have hSplit : Corrupts ("a ok l".toList ++ ("et us go".toList ++ []))
        ("a ok l".toList ++ (' ' :: ("et us go".toList ++ []))) :=
      (Corrupts.insert (Corrupts.nil.append_left _)).append_left _
    exact hSplit
  · have hNew : ¬lastLaughter.opening ++ splitWord <:+: laughter := by decide +kernel
    rw [Restores, if_neg hNew]
    intro h
    have hSame := h.rdropWhile_eq
    revert hSame
    decide +kernel

end FastVoice.Engine.AggregationCorrection
