import FastVoice.Transcripts.OneTurn
import Mathlib.Order.Basic
import Mathlib.Data.String.Basic

/-! # When the facts of a turn commute

What a side says when it is told depends on the facts that came before. The orders agree exactly if the text brings
the times that the speech facts would give, or, where the turn's end is not reported, if the text does not outlast the
speech and a bot's starts and stops have one time each.
-/
namespace FastVoice.Transcripts
open Grouping

def starts (speaker : Speaker) (reports : List Report) : List String := reports.filterMap (Report.startTime speaker)

def stops (speaker : Speaker) (reports : List Report) : List String := reports.filterMap (Report.stopTime speaker)

def texts (speaker : Speaker) (reports : List Report) : List Transcript :=
  reports.filterMap (Report.transcript speaker)

def Report.isStart (report : Report) : Bool :=
  match report.fact with
  | .started _ _ _ => true
  | _ => false

def Report.Opens (start stop : Report) : Prop :=
  match start.fact, stop.fact with
  | .started speaker stretch _, .stopped speaker' stretch' _ => speaker = speaker' ∧ stretch = stretch'
  | _, _ => False

def InOrder (reports : List Report) : Prop := reports.Pairwise fun first second => ¬second.Opens first

def OneText (reports : List Report) : Prop := ∀ speaker, (texts speaker reports).length ≤ 1

/-- Whatever is known when the side is told, it is told with the same times. -/
def Steady (reports : List Report) : Prop :=
  ∀ speaker, ∀ transcript ∈ texts speaker reports, transcript.text ≠ "" →
    if reports.any Report.isEnd = true then
      (∀ time ∈ starts speaker reports, transcript.timestamp = some time) ∧
        ∀ time ∈ stops speaker reports, transcript.endTimestamp = some time
    else match speaker with
      | .user => ∀ last, transcript.endTimestamp = some last → last ≠ "" →
        stops .user reports = [] ∨ ∃ time ∈ stops .user reports, last ≤ time
      | .assistant => (∀ time ∈ starts .assistant reports, ∀ other ∈ starts .assistant reports, time = other) ∧
        ∀ time ∈ stops .assistant reports, ∀ other ∈ stops .assistant reports, time = other

/-! ## What a side has heard -/

def timingAfter (speaker : Speaker) (reports : List Report) : Timing :=
  reports.foldl (fun timing report => timing.note speaker report) {}

section Timing

variable {speaker : Speaker} {reports : List Report} {report : Report} {time : String}

theorem timingAfter_concat : timingAfter speaker (reports ++ [report]) =
    (timingAfter speaker reports).note speaker report := by
  rw [timingAfter, List.foldl_append]
  rfl

inductive Kind (speaker : Speaker) (report : Report) : Prop where
  | start (time : String) (h : report.startTime speaker = some time) (hTime : time ≠ "")
      (hStop : report.stopTime speaker = none) (hText : report.transcript speaker = none)
  | stop (time : String) (h : report.stopTime speaker = some time) (hTime : time ≠ "")
      (hStart : report.startTime speaker = none) (hText : report.transcript speaker = none)
  | text (transcript : Transcript) (h : report.transcript speaker = some transcript)
      (hStart : report.startTime speaker = none) (hStop : report.stopTime speaker = none)
  | other (hStart : report.startTime speaker = none) (hStop : report.stopTime speaker = none)
      (hText : report.transcript speaker = none)

theorem orElse_ne_empty (timestamp : Option String) (now : Reading) : orElse timestamp now ≠ "" := by
  unfold orElse
  cases h : timestamp.filter (· ≠ "") with
  | none => exact now.property
  | some text => exact of_decide_eq_true (Option.filter_eq_some_iff.mp h).2

theorem kind (speaker : Speaker) (report : Report) : Kind speaker report := by
  obtain ⟨now, fact⟩ := report
  cases fact with
  | started who stretch timestamp =>
    by_cases hWho : who = speaker
    · exact .start _ (if_pos hWho) (orElse_ne_empty timestamp now) rfl rfl
    · exact .other (if_neg hWho) rfl rfl
  | stopped who stretch timestamp =>
    by_cases hWho : who = speaker
    · exact .stop _ (if_pos hWho) (orElse_ne_empty timestamp now) rfl rfl
    · exact .other rfl (if_neg hWho) rfl
  | said who transcript =>
    by_cases hWho : who = speaker
    · exact .text transcript (if_pos hWho) rfl rfl
    · exact .other rfl rfl (if_neg hWho)
  | ended interrupted => exact .other rfl rfl rfl

structure Timed (speaker : Speaker) (reports : List Report) (timing : Timing) : Prop where
  startNone : timing.start = none → starts speaker reports = []
  startMem : ∀ time, timing.start = some time → time ∈ starts speaker reports
  startLeast : speaker = .user → ∀ time, timing.start = some time → ∀ other ∈ starts speaker reports, time ≤ other
  startFirst : speaker = .assistant → timing.start = (starts speaker reports).head?
  stopNone : timing.stop = none →
    stops speaker reports = [] ∧ ∀ transcript ∈ texts speaker reports, truthy transcript.endTimestamp = false
  stopMem : ∀ time, timing.stop = some time → time ≠ "" ∧ (time ∈ stops speaker reports ∨
    (∃ transcript ∈ texts speaker reports, transcript.endTimestamp = some time) ∧
      (speaker = .assistant → stops speaker reports = []))
  stopLatest : speaker = .user → ∀ time, timing.stop = some time → ∀ other ∈ stops speaker reports, other ≤ time
  textNone : timing.text = none ↔ texts speaker reports = []
  textOne : ∀ transcript, texts speaker reports = [transcript] →
    timing.text = some transcript.text ∧ timing.transcriptTimestamp = transcript.timestamp
  silent : starts speaker reports = [] → timing.speaking = false

theorem filterMap_concat_none {β : Type} {f : Report → Option β} (h : f report = none) :
    (reports ++ [report]).filterMap f = reports.filterMap f := by
  rw [List.filterMap_append, List.filterMap_cons_none h]
  exact List.append_nil _

theorem filterMap_concat_some {β : Type} {f : Report → Option β} {x : β} (h : f report = some x) :
    (reports ++ [report]).filterMap f = reports.filterMap f ++ [x] := by
  rw [List.filterMap_append, List.filterMap_cons_some h]
  rfl

theorem earlier_cases (first second : String) : (earlier first second = first ∧ first ≤ second) ∨
    (earlier first second = second ∧ second ≤ first) := by
  unfold earlier
  split
  · rename_i h
    exact .inr ⟨rfl, le_of_lt h⟩
  · rename_i h
    exact .inl ⟨rfl, le_of_not_gt h⟩

theorem later_cases (first second : String) : (later first second = first ∧ second ≤ first) ∨
    (later first second = second ∧ first ≤ second) := by
  unfold later
  split
  · rename_i h
    exact .inr ⟨rfl, le_of_lt h⟩
  · rename_i h
    exact .inl ⟨rfl, le_of_not_gt h⟩

theorem note_start {timing : Timing} (h : report.startTime speaker = some time) :
    timing.note speaker report = timing.began speaker time := by
  rw [Timing.note, h]

theorem note_stop {timing : Timing} (hStart : report.startTime speaker = none)
    (h : report.stopTime speaker = some time) : timing.note speaker report = timing.finished speaker time := by
  rw [Timing.note, hStart, h]

theorem note_text {timing : Timing} {transcript : Transcript} (hStart : report.startTime speaker = none)
    (hStop : report.stopTime speaker = none) (h : report.transcript speaker = some transcript) :
    timing.note speaker report = timing.heard transcript := by
  rw [Timing.note, hStart, hStop, h]

theorem note_none {timing : Timing} (hStart : report.startTime speaker = none)
    (hStop : report.stopTime speaker = none) (h : report.transcript speaker = none) :
    timing.note speaker report = timing := by
  rw [Timing.note, hStart, hStop, h]

theorem start_began_none {timing : Timing} (h : timing.start = none) :
    (timing.began speaker time).start = some time := by
  unfold Timing.began
  rw [h]
  cases speaker <;> rfl

theorem start_began_user {timing : Timing} {old : String} (h : timing.start = some old) :
    (timing.began .user time).start = some (earlier old time) := by
  unfold Timing.began
  rw [h]

theorem start_began_assistant {timing : Timing} {old : String} (h : timing.start = some old) :
    (timing.began .assistant time).start = some old := by
  unfold Timing.began
  rw [h]

theorem stop_finished_none {timing : Timing} (h : timing.stop = none) :
    (timing.finished speaker time).stop = some time := by
  unfold Timing.finished
  rw [h]
  cases speaker <;> rfl

theorem stop_finished_user {timing : Timing} {old : String} (h : timing.stop = some old) :
    (timing.finished .user time).stop = some (later old time) := by
  unfold Timing.finished
  rw [h]

theorem stop_finished_assistant (timing : Timing) : (timing.finished .assistant time).stop = some time := by
  unfold Timing.finished
  cases timing.stop <;> rfl

theorem stop_heard_cases (timing : Timing) (transcript : Transcript) :
    (truthy timing.stop = true ∧ (timing.heard transcript).stop = timing.stop) ∨
    (truthy timing.stop = false ∧ truthy transcript.endTimestamp = true ∧
      (timing.heard transcript).stop = transcript.endTimestamp) ∨
    (truthy timing.stop = false ∧ truthy transcript.endTimestamp = false ∧
      (timing.heard transcript).stop = timing.stop) := by
  unfold Timing.heard
  cases truthy timing.stop <;> cases truthy transcript.endTimestamp <;> simp

theorem truthy_some {text : String} : truthy (some text) = true ↔ text ≠ "" := by
  simp [truthy]

section Timed

variable {timing : Timing} (h : Timed speaker reports timing)
include h

theorem Timed.began (hStart : report.startTime speaker = some time) (hStop : report.stopTime speaker = none)
    (hText : report.transcript speaker = none) : Timed speaker (reports ++ [report]) (timing.began speaker time) := by
  have hStarts : starts speaker (reports ++ [report]) = starts speaker reports ++ [time] :=
    filterMap_concat_some hStart
  have hStops : stops speaker (reports ++ [report]) = stops speaker reports :=
    filterMap_concat_none hStop
  have hTexts : texts speaker (reports ++ [report]) = texts speaker reports :=
    filterMap_concat_none hText
  constructor
  · exact nofun
  · rintro first hFirst
    rw [hStarts]
    cases hOld : timing.start with
    | none =>
      rw [start_began_none hOld] at hFirst
      obtain rfl := Option.some.inj hFirst
      exact List.mem_append_right _ List.mem_cons_self
    | some old =>
      have hMem := h.startMem old hOld
      cases speaker with
      | assistant =>
        rw [start_began_assistant hOld] at hFirst
        obtain rfl := Option.some.inj hFirst
        exact List.mem_append_left _ hMem
      | user =>
        rw [start_began_user hOld] at hFirst
        obtain rfl := Option.some.inj hFirst
        obtain ⟨hEq, -⟩ | ⟨hEq, -⟩ := earlier_cases old time
        · rw [hEq]
          exact List.mem_append_left _ hMem
        · rw [hEq]
          exact List.mem_append_right _ List.mem_cons_self
  · rintro rfl first hFirst other hOther
    rw [hStarts, List.mem_append, List.mem_singleton] at hOther
    cases hOld : timing.start with
    | none =>
      rw [start_began_none hOld] at hFirst
      obtain rfl := Option.some.inj hFirst
      obtain hOther | rfl := hOther
      · rw [h.startNone hOld] at hOther
        cases hOther
      · exact le_rfl
    | some old =>
      rw [start_began_user hOld] at hFirst
      obtain rfl := Option.some.inj hFirst
      obtain ⟨hEq, hLe⟩ | ⟨hEq, hLe⟩ := earlier_cases old time
      · rw [hEq]
        obtain hOther | rfl := hOther
        · exact h.startLeast rfl old hOld other hOther
        · exact hLe
      · rw [hEq]
        obtain hOther | rfl := hOther
        · exact hLe.trans (h.startLeast rfl old hOld other hOther)
        · exact le_rfl
  · rintro rfl
    have hFirst := h.startFirst rfl
    rw [hStarts, List.head?_append]
    cases hOld : timing.start with
    | none =>
      rw [start_began_none hOld, h.startNone hOld]
      rfl
    | some old =>
      rw [start_began_assistant hOld, ← hFirst, hOld]
      rfl
  · rw [hStops, hTexts]
    exact h.stopNone
  · rw [hStops, hTexts]
    exact h.stopMem
  · rw [hStops]
    exact h.stopLatest
  · rw [hTexts]
    exact h.textNone
  · rw [hTexts]
    exact h.textOne
  · intro hNone
    rw [hStarts] at hNone
    exact absurd hNone (List.append_ne_nil_of_right_ne_nil _ (List.cons_ne_nil _ _))

theorem Timed.finished (hTime : time ≠ "") (hStart : report.startTime speaker = none)
    (hStop : report.stopTime speaker = some time) (hText : report.transcript speaker = none) :
    Timed speaker (reports ++ [report]) (timing.finished speaker time) := by
  have hStarts : starts speaker (reports ++ [report]) = starts speaker reports :=
    filterMap_concat_none hStart
  have hStops : stops speaker (reports ++ [report]) = stops speaker reports ++ [time] :=
    filterMap_concat_some hStop
  have hTexts : texts speaker (reports ++ [report]) = texts speaker reports :=
    filterMap_concat_none hText
  constructor
  · rw [hStarts]
    exact h.startNone
  · rw [hStarts]
    exact h.startMem
  · rw [hStarts]
    exact h.startLeast
  · rw [hStarts]
    exact h.startFirst
  · exact nofun
  · intro last hLast
    rw [hStops, hTexts, List.mem_append, List.mem_singleton]
    cases speaker with
    | assistant =>
      rw [stop_finished_assistant] at hLast
      obtain rfl := Option.some.inj hLast
      exact ⟨hTime, .inl (.inr rfl)⟩
    | user =>
      cases hOld : timing.stop with
      | none =>
        rw [stop_finished_none hOld] at hLast
        obtain rfl := Option.some.inj hLast
        exact ⟨hTime, .inl (.inr rfl)⟩
      | some old =>
        rw [stop_finished_user hOld] at hLast
        obtain rfl := Option.some.inj hLast
        obtain ⟨hEq, -⟩ | ⟨hEq, -⟩ := later_cases old time
        · rw [hEq]
          obtain ⟨hNonempty, hMem | ⟨hFromText, -⟩⟩ := h.stopMem old hOld
          · exact ⟨hNonempty, .inl (.inl hMem)⟩
          · exact ⟨hNonempty, .inr ⟨hFromText, nofun⟩⟩
        · rw [hEq]
          exact ⟨hTime, .inl (.inr rfl)⟩
  · rintro rfl last hLast other hOther
    rw [hStops, List.mem_append, List.mem_singleton] at hOther
    cases hOld : timing.stop with
    | none =>
      rw [stop_finished_none hOld] at hLast
      obtain rfl := Option.some.inj hLast
      obtain hOther | rfl := hOther
      · rw [(h.stopNone hOld).1] at hOther
        cases hOther
      · exact le_rfl
    | some old =>
      rw [stop_finished_user hOld] at hLast
      obtain rfl := Option.some.inj hLast
      obtain ⟨hEq, hLe⟩ | ⟨hEq, hLe⟩ := later_cases old time
      · rw [hEq]
        obtain hOther | rfl := hOther
        · exact h.stopLatest rfl old hOld other hOther
        · exact hLe
      · rw [hEq]
        obtain hOther | rfl := hOther
        · exact (h.stopLatest rfl old hOld other hOther).trans hLe
        · exact le_rfl
  · rw [hTexts]
    exact h.textNone
  · rw [hTexts]
    exact h.textOne
  · exact fun _ => rfl

theorem Timed.stop_eq_none (hFalse : truthy timing.stop = false) : timing.stop = none := by
  cases hOld : timing.stop with
  | none => rfl
  | some old =>
    rw [hOld, Bool.eq_false_iff, ne_eq, truthy_some] at hFalse
    exact absurd (h.stopMem old hOld).1 hFalse

theorem Timed.start_truthy (hSome : ∀ time ∈ starts speaker reports, time ≠ "") :
    truthy timing.start = timing.start.isSome := by
  cases hStart : timing.start with
  | none => rfl
  | some time => exact truthy_some.mpr (hSome time (h.startMem time hStart))

theorem Timed.heard {transcript : Transcript} (hStart : report.startTime speaker = none)
    (hStop : report.stopTime speaker = none) (hText : report.transcript speaker = some transcript) :
    Timed speaker (reports ++ [report]) (timing.heard transcript) := by
  have hStarts : starts speaker (reports ++ [report]) = starts speaker reports :=
    filterMap_concat_none hStart
  have hStops : stops speaker (reports ++ [report]) = stops speaker reports :=
    filterMap_concat_none hStop
  have hTexts : texts speaker (reports ++ [report]) = texts speaker reports ++ [transcript] :=
    filterMap_concat_some hText
  constructor
  · rw [hStarts]
    exact h.startNone
  · rw [hStarts]
    exact h.startMem
  · rw [hStarts]
    exact h.startLeast
  · rw [hStarts]
    exact h.startFirst
  · intro hNone
    rw [hStops, hTexts]
    obtain ⟨hTruthy, hSame⟩ | ⟨-, hBrought, hSame⟩ | ⟨-, hFalse, hSame⟩ := stop_heard_cases timing transcript
    · rw [← hSame, hNone] at hTruthy
      cases hTruthy
    · rw [← hSame, hNone] at hBrought
      cases hBrought
    · obtain ⟨hNoStops, hOthers⟩ := h.stopNone (hSame ▸ hNone)
      exact ⟨hNoStops, List.forall_mem_append.mpr ⟨hOthers, List.forall_mem_singleton.mpr hFalse⟩⟩
  · intro last hLast
    rw [hStops, hTexts]
    obtain ⟨-, hSame⟩ | ⟨hFalse, hBrought, hSame⟩ | ⟨-, -, hSame⟩ := stop_heard_cases timing transcript
    · obtain ⟨hNonempty, hMem⟩ := h.stopMem last (hSame ▸ hLast)
      exact ⟨hNonempty, hMem.imp_right fun ⟨⟨other, hOther, hEnd⟩, hNone⟩ =>
        ⟨⟨other, List.mem_append_left _ hOther, hEnd⟩, hNone⟩⟩
    · rw [hSame] at hLast
      rw [hLast, truthy_some] at hBrought
      have hOld := h.stop_eq_none hFalse
      refine ⟨hBrought, .inr ⟨⟨transcript, List.mem_append_right _ List.mem_cons_self, hLast⟩, fun _ => ?_⟩⟩
      exact (h.stopNone hOld).1
    · obtain ⟨hNonempty, hMem⟩ := h.stopMem last (hSame ▸ hLast)
      exact ⟨hNonempty, hMem.imp_right fun ⟨⟨other, hOther, hEnd⟩, hNone⟩ =>
        ⟨⟨other, List.mem_append_left _ hOther, hEnd⟩, hNone⟩⟩
  · rintro rfl last hLast
    rw [hStops]
    obtain ⟨-, hSame⟩ | ⟨hFalse, -, -⟩ | ⟨-, -, hSame⟩ := stop_heard_cases timing transcript
    · exact h.stopLatest rfl last (hSame ▸ hLast)
    · rw [(h.stopNone (h.stop_eq_none hFalse)).1]
      exact List.forall_mem_nil _
    · exact h.stopLatest rfl last (hSame ▸ hLast)
  · rw [hTexts]
    exact iff_of_false nofun (List.append_ne_nil_of_right_ne_nil _ (List.cons_ne_nil _ _))
  · intro only hOnly
    rw [hTexts] at hOnly
    obtain ⟨hNone, hOne⟩ | ⟨-, hOne⟩ := List.append_eq_singleton_iff.mp hOnly
    · obtain rfl := List.singleton_inj.mp hOne
      have hText := h.textNone.mpr hNone
      unfold Timing.heard
      rw [hText]
      exact ⟨rfl, rfl⟩
    · cases hOne
  · rw [hStarts]
    exact h.silent

theorem Timed.skip (hStart : report.startTime speaker = none) (hStop : report.stopTime speaker = none)
    (hText : report.transcript speaker = none) : Timed speaker (reports ++ [report]) timing := by
  have hStarts : starts speaker (reports ++ [report]) = starts speaker reports :=
    filterMap_concat_none hStart
  have hStops : stops speaker (reports ++ [report]) = stops speaker reports :=
    filterMap_concat_none hStop
  have hTexts : texts speaker (reports ++ [report]) = texts speaker reports :=
    filterMap_concat_none hText
  constructor <;> simp only [hStarts, hStops, hTexts]
  · exact h.startNone
  · exact h.startMem
  · exact h.startLeast
  · exact h.startFirst
  · exact h.stopNone
  · exact h.stopMem
  · exact h.stopLatest
  · exact h.textNone
  · exact h.textOne
  · exact h.silent

end Timed

theorem timed_after (speaker : Speaker) (reports : List Report) :
    Timed speaker reports (timingAfter speaker reports) := by
  induction reports using List.reverseRecOn with
  | nil => constructor <;> simp [timingAfter, starts, stops, texts]
  | append_singleton reports report ih =>
    rw [timingAfter_concat]
    obtain ⟨time, hStart, hTime, hStop, hText⟩ | ⟨time, hStop, hTime, hStart, hText⟩ |
      ⟨transcript, hText, hStart, hStop⟩ | ⟨hStart, hStop, hText⟩ := kind speaker report
    · rw [note_start hStart]
      exact ih.began hStart hStop hText
    · rw [note_stop hStart hStop]
      exact ih.finished hTime hStart hStop hText
    · rw [note_text hStart hStop hText]
      exact ih.heard hStart hStop hText
    · rw [note_none hStart hStop hText]
      exact ih.skip hStart hStop hText

end Timing

/-! ## When a side is told -/

section Told

variable {speaker : Speaker} {reports : List Report} {report : Report}

theorem after_concat :
    Side.after speaker (reports ++ [report]) = (Side.after speaker reports).record speaker report := by
  rw [Side.after, List.foldl_append]
  rfl

theorem timing_tell (s : Side) : (s.tell speaker).timing = s.timing := by
  unfold Side.tell
  split <;> rfl

theorem ended_tell (s : Side) : (s.tell speaker).ended = s.ended := by
  unfold Side.tell
  split <;> rfl

theorem timing_record (s : Side) : (s.record speaker report).timing = s.timing.note speaker report := by
  unfold Side.record
  dsimp only
  split
  · exact timing_tell _
  · rfl

theorem ended_record (s : Side) : (s.record speaker report).ended = (s.ended || report.isEnd) := by
  unfold Side.record
  dsimp only
  split
  · exact ended_tell _
  · rfl

theorem timing_after (speaker : Speaker) (reports : List Report) :
    (Side.after speaker reports).timing = timingAfter speaker reports := by
  induction reports using List.reverseRecOn with
  | nil => rfl
  | append_singleton reports report ih => rw [after_concat, timing_record, ih, timingAfter_concat]

theorem ended_after (speaker : Speaker) (reports : List Report) :
    (Side.after speaker reports).ended = reports.any Report.isEnd := by
  induction reports using List.reverseRecOn with
  | nil => rfl
  | append_singleton reports report ih =>
    rw [after_concat, ended_record, ih, List.any_append, List.any_cons, List.any_nil, Bool.or_false]

theorem told_record {s : Side} {line : Line} (h : s.told = some line) : (s.record speaker report).told = some line := by
  unfold Side.record Side.tell
  dsimp only
  split_ifs
  · exact h
  · rw [h]
    rfl
  · exact h

theorem told_foldl {s : Side} {line : Line} (h : s.told = some line) :
    (reports.foldl (Side.record speaker) s).told = some line := by
  induction reports generalizing s with
  | nil => exact h
  | cons report reports ih => exact ih (told_record h)

theorem told_record_cases (report : Report) (s : Side) : (s.record speaker report).told = s.told ∨
    (s.record speaker report).told = (s.told <|> (s.timing.note speaker report).line) ∧
      (s.ended || report.isEnd) = true := by
  unfold Side.record Side.tell
  dsimp only
  split_ifs with hReady hHeld
  · exact .inl rfl
  · exact .inr ⟨rfl, hReady.2⟩
  · exact .inl rfl

theorem told_after {line : Line} (h : (Side.after speaker reports).told = some line) :
    ∃ known later, reports = known ++ later ∧ known.any Report.isEnd = true ∧
      (timingAfter speaker known).line = some line := by
  induction reports using List.reverseRecOn with
  | nil => cases h
  | append_singleton reports report ih =>
    rw [after_concat] at h
    have hEarlier : (Side.after speaker reports).told = some line → ∃ known later, reports ++ [report] =
        known ++ later ∧ known.any Report.isEnd = true ∧ (timingAfter speaker known).line = some line := fun hTold => by
      obtain ⟨known, later, hSplit, hEnd, hLine⟩ := ih hTold
      exact ⟨known, later ++ [report], by rw [hSplit, List.append_assoc], hEnd, hLine⟩
    obtain hSame | ⟨hNew, hEnded⟩ := told_record_cases report (Side.after speaker reports)
    · exact hEarlier (hSame ▸ h)
    · rw [hNew] at h
      cases hTold : (Side.after speaker reports).told with
      | some told =>
        rw [hTold] at h
        exact hEarlier (hTold.trans h)
      | none =>
        rw [hTold, timing_after, ← timingAfter_concat] at h
        refine ⟨reports ++ [report], [], (List.append_nil _).symm, ?_, h⟩
        rw [List.any_append, ← ended_after speaker, List.any_cons, List.any_nil, Bool.or_false]
        exact hEnded

theorem flushed_after (speaker : Speaker) (reports : List Report) : ∃ known later, reports = known ++ later ∧
    (Side.after speaker reports).flushed = (timingAfter speaker known).line ∧
    (later = [] ∨ known.any Report.isEnd = true ∧ (timingAfter speaker known).line.isSome = true) := by
  unfold Side.flushed
  cases hTold : (Side.after speaker reports).told with
  | none => exact ⟨reports, [], (List.append_nil _).symm, by rw [timing_after]; rfl, .inl rfl⟩
  | some line =>
    obtain ⟨known, later, hSplit, hEnd, hLine⟩ := told_after hTold
    exact ⟨known, later, hSplit, hLine.symm, .inr ⟨hEnd, by rw [hLine]; rfl⟩⟩

theorem flushed_of_end {known later : List Report} {line : Line} (hSplit : reports = known ++ report :: later)
    (hKnown : known.any Report.isEnd = false) (hEnd : report.isEnd = true)
    (hLine : (timingAfter speaker known).line = some line)
    (hReady : speaker = .assistant → (timingAfter speaker known).speaking = false) :
    (Side.after speaker reports).flushed = some line := by
  have hUntold : (Side.after speaker known).told = none := by
    cases hTold : (Side.after speaker known).told with
    | none => rfl
    | some line =>
      obtain ⟨before, after, hBefore, hEnded, -⟩ := told_after hTold
      rw [hBefore, List.any_append, hEnded] at hKnown
      cases hKnown
  obtain ⟨now, interrupted, rfl⟩ : ∃ now interrupted, report = ⟨now, .ended interrupted⟩ := by
    obtain ⟨now, fact⟩ := report
    cases fact with
    | ended interrupted => exact ⟨now, interrupted, rfl⟩
    | _ => cases hEnd
  have hTold : ((Side.after speaker known).record speaker ⟨now, .ended interrupted⟩).told = some line := by
    have hNote : (Side.after speaker known).timing.note speaker ⟨now, .ended interrupted⟩ =
        timingAfter speaker known := by
      rw [timing_after]
      exact note_none rfl rfl rfl
    unfold Side.record Side.tell
    dsimp only
    rw [hNote, if_pos ⟨rfl, Bool.or_true _⟩, if_neg, hUntold, hLine]
    · rfl
    · rintro ⟨hAssistant, hSpeaking⟩
      rw [hReady hAssistant] at hSpeaking
      cases hSpeaking
  have hLater : (Side.after speaker reports).told = some line := by
    rw [hSplit, Side.after, List.foldl_append, List.foldl_cons]
    exact told_foldl hTold
  rw [Side.flushed, hLater]
  rfl

end Told

/-! ## One text -/

section OneText

variable {speaker : Speaker} {reports first second known later : List Report} {transcript : Transcript}

theorem starts_perm (speaker : Speaker) (h : first.Perm second) : (starts speaker first).Perm (starts speaker second) :=
  h.filterMap _

theorem stops_perm (speaker : Speaker) (h : first.Perm second) : (stops speaker first).Perm (stops speaker second) :=
  h.filterMap _

theorem texts_perm (speaker : Speaker) (h : first.Perm second) : (texts speaker first).Perm (texts speaker second) :=
  h.filterMap _

theorem start_ne_empty {time : String} (h : time ∈ starts speaker reports) : time ≠ "" := by
  obtain ⟨report, -, hStart⟩ := List.mem_filterMap.mp h
  obtain ⟨other, hOther, hTime, -⟩ | ⟨_, _, _, hNone, _⟩ | ⟨_, _, hNone, _⟩ | ⟨hNone, _, _⟩ := kind speaker report
  · exact Option.some.inj (hOther.symm.trans hStart) ▸ hTime
  all_goals
    rw [hNone] at hStart
    cases hStart

theorem line_of_silent (h : texts speaker reports = []) : (timingAfter speaker reports).line = none := by
  rw [Timing.line, (timed_after speaker reports).textNone.mpr h]
  rfl

theorem line_of_text (h : texts speaker reports = [transcript]) (hText : transcript.text ≠ "") :
    (timingAfter speaker reports).line = some ⟨transcript.text,
      (timingAfter speaker reports).start.or transcript.timestamp, (timingAfter speaker reports).stop⟩ := by
  have hTimed := timed_after speaker reports
  obtain ⟨hSaid, hTimestamp⟩ := hTimed.textOne transcript h
  rw [Timing.line, hSaid, if_pos (truthy_some.mpr hText), hTimed.start_truthy fun _ => start_ne_empty, hTimestamp]
  cases (timingAfter speaker reports).start <;> rfl

theorem line_of_empty (h : texts speaker reports = [transcript]) (hText : transcript.text = "") :
    (timingAfter speaker reports).line = none := by
  obtain ⟨hSaid, -⟩ := (timed_after speaker reports).textOne transcript h
  rw [Timing.line, hSaid, hText]
  rfl

theorem texts_known (hSplit : reports = known ++ later) (h : texts speaker reports = [transcript])
    (hLine : later = [] ∨ (timingAfter speaker known).line.isSome = true) : texts speaker known = [transcript] := by
  rw [hSplit, texts, List.filterMap_append] at h
  obtain rfl | hLine := hLine
  · exact (List.append_nil _).symm.trans h
  · obtain ⟨hNone, -⟩ | ⟨hOne, -⟩ := List.append_eq_singleton_iff.mp h
    · rw [line_of_silent hNone] at hLine
      cases hLine
    · exact hOne

theorem flushed_of_silent (h : texts speaker reports = [] ∨ ∃ transcript, texts speaker reports = [transcript] ∧
    transcript.text = "") : (Side.after speaker reports).flushed = none := by
  obtain ⟨known, later, hSplit, hFlushed, hWhen⟩ := flushed_after speaker reports
  rw [hFlushed]
  obtain hNone | ⟨transcript, hOne, hText⟩ := h
  · rw [hSplit, texts, List.filterMap_append, List.append_eq_nil_iff] at hNone
    exact line_of_silent hNone.1
  · cases hLine : (timingAfter speaker known).line with
    | none => rfl
    | some line =>
      have hKnown := texts_known hSplit hOne (.inr (by rw [hLine]; rfl))
      rw [line_of_empty hKnown hText] at hLine
      cases hLine

theorem flushed_of_no_end (h : reports.any Report.isEnd = false) :
    (Side.after speaker reports).flushed = (timingAfter speaker reports).line := by
  obtain ⟨known, later, hSplit, hFlushed, rfl | ⟨hEnd, -⟩⟩ := flushed_after speaker reports
  · rw [hFlushed, hSplit, List.append_nil]
  · rw [hSplit, List.any_append, hEnd] at h
    cases h

theorem times_of_brought (h : texts speaker reports = [transcript])
    (hStarts : ∀ time ∈ starts speaker reports, transcript.timestamp = some time)
    (hStops : ∀ time ∈ stops speaker reports, transcript.endTimestamp = some time) :
    (timingAfter speaker reports).start.or transcript.timestamp = transcript.timestamp ∧
      (timingAfter speaker reports).stop = transcript.endTimestamp.filter (· ≠ "") := by
  have hTimed := timed_after speaker reports
  constructor
  · cases hStart : (timingAfter speaker reports).start with
    | none => rfl
    | some time => exact (hStarts time (hTimed.startMem time hStart)).symm
  · cases hStop : (timingAfter speaker reports).stop with
    | none =>
      have hFalse := (hTimed.stopNone hStop).2 transcript (h ▸ List.mem_cons_self)
      cases hEnd : transcript.endTimestamp with
      | none => rfl
      | some last =>
        rw [hEnd, Bool.eq_false_iff, ne_eq, truthy_some, not_not] at hFalse
        rw [hFalse]
        rfl
    | some time =>
      obtain ⟨hTime, hFrom⟩ := hTimed.stopMem time hStop
      have hEnd : transcript.endTimestamp = some time := by
        obtain hMem | ⟨⟨other, hOther, hEnd⟩, -⟩ := hFrom
        · exact hStops time hMem
        · rw [h, List.mem_singleton] at hOther
          exact hOther ▸ hEnd
      rw [hEnd, Option.filter_some, if_pos (decide_eq_true hTime)]

theorem flushed_of_brought (h : texts speaker reports = [transcript]) (hText : transcript.text ≠ "")
    (hStarts : ∀ time ∈ starts speaker reports, transcript.timestamp = some time)
    (hStops : ∀ time ∈ stops speaker reports, transcript.endTimestamp = some time) :
    (Side.after speaker reports).flushed =
      some ⟨transcript.text, transcript.timestamp, transcript.endTimestamp.filter (· ≠ "")⟩ := by
  obtain ⟨known, later, rfl, hFlushed, hWhen⟩ := flushed_after speaker reports
  have hKnown := texts_known rfl h (hWhen.imp_right And.right)
  obtain ⟨hStart, hStop⟩ := times_of_brought hKnown
    (fun time hTime => hStarts time (by rw [starts, List.filterMap_append]; exact List.mem_append_left _ hTime))
    (fun time hTime => hStops time (by rw [stops, List.filterMap_append]; exact List.mem_append_left _ hTime))
  rw [hFlushed, line_of_text hKnown hText, hStart, hStop]

theorem user_line_of_perm (h : first.Perm second) (hFirst : texts .user first = [transcript])
    (hSecond : texts .user second = [transcript]) (hText : transcript.text ≠ "")
    (hLast : ∀ last, transcript.endTimestamp = some last → last ≠ "" →
      stops .user first = [] ∨ ∃ time ∈ stops .user first, last ≤ time) :
    (timingAfter .user first).line = (timingAfter .user second).line := by
  have hTimed := timed_after .user first
  have hTimed' := timed_after .user second
  have hStarts := starts_perm .user h
  have hStops := stops_perm .user h
  have hStart : (timingAfter .user first).start = (timingAfter .user second).start := by
    cases hA : (timingAfter .user first).start with
    | none =>
      have hNone := hTimed.startNone hA
      rw [hNone, List.nil_perm] at hStarts
      cases hB : (timingAfter .user second).start with
      | none => rfl
      | some time =>
        have hMem := hTimed'.startMem time hB
        rw [hStarts] at hMem
        cases hMem
    | some time =>
      have hMem := hTimed.startMem time hA
      cases hB : (timingAfter .user second).start with
      | none =>
        rw [hTimed'.startNone hB, List.perm_nil] at hStarts
        rw [hStarts] at hMem
        cases hMem
      | some other =>
        have hOther := hTimed'.startMem other hB
        congr 1
        exact le_antisymm (hTimed.startLeast rfl time hA other (hStarts.mem_iff.mpr hOther))
          (hTimed'.startLeast rfl other hB time (hStarts.mem_iff.mp hMem))
  -- the end is that of the last stop, or that of the text if there is no stop
  have hEnd : ∀ order, order.Perm first → texts .user order = [transcript] → ∀ time,
      (timingAfter .user order).stop = some time → (stops .user first = [] → transcript.endTimestamp = some time) ∧
        (stops .user first ≠ [] → time ∈ stops .user first ∧ ∀ other ∈ stops .user first, other ≤ time) := by
    intro order hPerm hOrder time hTime
    have hTimedOrder := timed_after .user order
    have hStopsOrder := stops_perm .user hPerm
    have hLatest : ∀ other ∈ stops .user first, other ≤ time := fun other hOther =>
      hTimedOrder.stopLatest rfl time hTime other (hStopsOrder.mem_iff.mpr hOther)
    obtain ⟨hNonempty, hMem | ⟨⟨other, hOther, hBrought⟩, -⟩⟩ := hTimedOrder.stopMem time hTime
    · have hMemFirst := hStopsOrder.mem_iff.mp hMem
      exact ⟨fun hNone => absurd hMemFirst (hNone ▸ List.not_mem_nil), fun _ => ⟨hMemFirst, hLatest⟩⟩
    · rw [hOrder, List.mem_singleton] at hOther
      subst hOther
      refine ⟨fun _ => hBrought, fun hSome => ⟨?_, hLatest⟩⟩
      obtain hNone | ⟨stop, hStop, hLe⟩ := hLast time hBrought hNonempty
      · exact absurd hNone hSome
      · exact le_antisymm hLe (hLatest stop hStop) ▸ hStop
  have hNoEnd : ∀ order, order.Perm first → texts .user order = [transcript] →
      (timingAfter .user order).stop = none → stops .user first = [] ∧ truthy transcript.endTimestamp = false := by
    intro order hPerm hOrder hNone
    obtain ⟨hStops, hTexts⟩ := (timed_after .user order).stopNone hNone
    refine ⟨List.nil_perm.mp (hStops ▸ stops_perm .user hPerm), hTexts transcript ?_⟩
    rw [hOrder]
    exact List.mem_cons_self
  have hStop : (timingAfter .user first).stop = (timingAfter .user second).stop := by
    cases hA : (timingAfter .user first).stop with
    | none =>
      obtain ⟨hNone, hFalse⟩ := hNoEnd first (.refl _) hFirst hA
      cases hB : (timingAfter .user second).stop with
      | none => rfl
      | some time =>
        have hBrought := (hEnd second h.symm hSecond time hB).1 hNone
        rw [hBrought, Bool.eq_false_iff, ne_eq, truthy_some] at hFalse
        exact absurd (hTimed'.stopMem time hB).1 hFalse
    | some time =>
      obtain ⟨hBrought, hLatest⟩ := hEnd first (.refl _) hFirst time hA
      cases hB : (timingAfter .user second).stop with
      | none =>
        obtain ⟨hNone, hFalse⟩ := hNoEnd second h.symm hSecond hB
        rw [hBrought hNone, Bool.eq_false_iff, ne_eq, truthy_some] at hFalse
        exact absurd (hTimed.stopMem time hA).1 hFalse
      | some other =>
        obtain ⟨hBrought', hLatest'⟩ := hEnd second h.symm hSecond other hB
        by_cases hStops : stops .user first = []
        · exact (hBrought hStops).symm.trans (hBrought' hStops)
        · obtain ⟨hMem, hGreatest⟩ := hLatest hStops
          obtain ⟨hMem', hGreatest'⟩ := hLatest' hStops
          congr 1
          exact le_antisymm (hGreatest' time hMem) (hGreatest other hMem')
  rw [line_of_text hFirst hText, line_of_text hSecond hText, hStart, hStop]

theorem assistant_line_of_perm (h : first.Perm second) (hFirst : texts .assistant first = [transcript])
    (hSecond : texts .assistant second = [transcript]) (hText : transcript.text ≠ "")
    (hOneStart : ∀ time ∈ starts .assistant first, ∀ other ∈ starts .assistant first, time = other)
    (hOneStop : ∀ time ∈ stops .assistant first, ∀ other ∈ stops .assistant first, time = other) :
    (timingAfter .assistant first).line = (timingAfter .assistant second).line := by
  have hTimed := timed_after .assistant first
  have hTimed' := timed_after .assistant second
  have hStarts := starts_perm .assistant h
  have hStops := stops_perm .assistant h
  have hStart : (timingAfter .assistant first).start = (timingAfter .assistant second).start := by
    cases hA : (timingAfter .assistant first).start with
    | none =>
      rw [hTimed.startNone hA, List.nil_perm] at hStarts
      rw [hTimed'.startFirst rfl, hStarts]
      rfl
    | some time =>
      have hMem := hTimed.startMem time hA
      cases hB : (timingAfter .assistant second).start with
      | none =>
        rw [hTimed'.startNone hB, List.perm_nil] at hStarts
        rw [hStarts] at hMem
        cases hMem
      | some other =>
        rw [hOneStart time hMem other (hStarts.mem_iff.mpr (hTimed'.startMem other hB))]
  have hEnd : ∀ order, order.Perm first → texts .assistant order = [transcript] →
      (stops .assistant first = [] → (timingAfter .assistant order).stop = transcript.endTimestamp.filter (· ≠ "")) ∧
      ∀ time ∈ stops .assistant first, (timingAfter .assistant order).stop = some time := by
    intro order hPerm hOrder
    have hTimedOrder := timed_after .assistant order
    have hStopsOrder := stops_perm .assistant hPerm
    cases hStop : (timingAfter .assistant order).stop with
    | none =>
      obtain ⟨hNone, hTexts⟩ := hTimedOrder.stopNone hStop
      have hFalse := hTexts transcript (hOrder ▸ List.mem_cons_self)
      rw [hNone, List.nil_perm] at hStopsOrder
      rw [hStopsOrder]
      refine ⟨fun _ => ?_, List.forall_mem_nil _⟩
      cases hBrought : transcript.endTimestamp with
      | none => rfl
      | some last =>
        rw [hBrought, Bool.eq_false_iff, ne_eq, truthy_some, not_not] at hFalse
        rw [hFalse]
        rfl
    | some time =>
      obtain ⟨hNonempty, hMem | ⟨⟨other, hOther, hBrought⟩, hNone⟩⟩ := hTimedOrder.stopMem time hStop
      · have hMemFirst := hStopsOrder.mem_iff.mp hMem
        exact ⟨fun hNone => absurd hMemFirst (hNone ▸ List.not_mem_nil), fun other hOther =>
          congrArg some (hOneStop time hMemFirst other hOther)⟩
      · rw [hNone rfl, List.nil_perm] at hStopsOrder
        rw [hOrder, List.mem_singleton] at hOther
        subst hOther
        rw [hStopsOrder, hBrought]
        refine ⟨fun _ => ?_, List.forall_mem_nil _⟩
        rw [Option.filter_some, if_pos (decide_eq_true hNonempty)]
  have hStop : (timingAfter .assistant first).stop = (timingAfter .assistant second).stop := by
    obtain ⟨hBrought, hOf⟩ := hEnd first (.refl _) hFirst
    obtain ⟨hBrought', hOf'⟩ := hEnd second h.symm hSecond
    cases hAll : stops .assistant first with
    | nil => rw [hBrought hAll, hBrought' hAll]
    | cons time rest =>
      have hMem : time ∈ stops .assistant first := hAll ▸ List.mem_cons_self
      rw [hOf time hMem, hOf' time hMem]
  rw [line_of_text hFirst hText, line_of_text hSecond hText, hStart, hStop]

theorem texts_order (hOne : OneText reports) (h : first.Perm reports) (speaker : Speaker) :
    texts speaker first = texts speaker reports := by
  have hSame := texts_perm speaker h
  have hLength := hOne speaker
  cases hAll : texts speaker reports with
  | nil =>
    rw [hAll] at hSame
    exact List.perm_nil.mp hSame
  | cons transcript rest =>
    rw [hAll] at hSame hLength
    have hRest : rest = [] := List.length_eq_zero_iff.mp (Nat.le_zero.mp (Nat.le_of_succ_le_succ hLength))
    rw [hRest] at hSame ⊢
    exact List.perm_singleton.mp hSame

theorem texts_cases (hOne : OneText reports) (speaker : Speaker) :
    texts speaker reports = [] ∨ ∃ transcript, texts speaker reports = [transcript] := by
  have hLength := hOne speaker
  cases hAll : texts speaker reports with
  | nil => exact .inl rfl
  | cons transcript rest =>
    rw [hAll] at hLength
    have hRest : rest = [] := List.length_eq_zero_iff.mp (Nat.le_zero.mp (Nat.le_of_succ_le_succ hLength))
    exact .inr ⟨transcript, by rw [hRest]⟩

theorem flushed_of_steady (hSteady : Steady reports) (hOne : OneText reports) (hFirst : first.Perm reports)
    (hSecond : second.Perm reports) (speaker : Speaker) :
    (Side.after speaker first).flushed = (Side.after speaker second).flushed := by
  have hTextFirst := texts_order hOne hFirst speaker
  have hTextSecond := texts_order hOne hSecond speaker
  obtain hAll | ⟨transcript, hAll⟩ := texts_cases hOne speaker
  · rw [flushed_of_silent (.inl (hTextFirst.trans hAll)), flushed_of_silent (.inl (hTextSecond.trans hAll))]
  · rw [hAll] at hTextFirst hTextSecond
    by_cases hText : transcript.text = ""
    · rw [flushed_of_silent (.inr ⟨transcript, hTextFirst, hText⟩),
        flushed_of_silent (.inr ⟨transcript, hTextSecond, hText⟩)]
    have hCondition := hSteady speaker transcript (hAll ▸ List.mem_cons_self) hText
    split at hCondition
    · obtain ⟨hStarts, hStops⟩ := hCondition
      have hBrought : ∀ order, order.Perm reports → texts speaker order = [transcript] →
          (Side.after speaker order).flushed =
            some ⟨transcript.text, transcript.timestamp, transcript.endTimestamp.filter (· ≠ "")⟩ := by
        intro order hPerm hOrder
        apply flushed_of_brought hOrder hText
        · exact fun time hTime => hStarts time ((starts_perm speaker hPerm).mem_iff.mp hTime)
        · exact fun time hTime => hStops time ((stops_perm speaker hPerm).mem_iff.mp hTime)
      rw [hBrought first hFirst hTextFirst, hBrought second hSecond hTextSecond]
    · rename_i hNoEnd
      have hUnended : ∀ order : List Report, order.Perm reports → order.any Report.isEnd = false := by
        intro order hPerm
        rw [Bool.eq_false_iff, hPerm.any_eq]
        exact hNoEnd
      rw [flushed_of_no_end (hUnended first hFirst), flushed_of_no_end (hUnended second hSecond)]
      have hBoth := hFirst.trans hSecond.symm
      have hStarts := starts_perm speaker hFirst
      have hStops := stops_perm speaker hFirst
      cases speaker with
      | user =>
        apply user_line_of_perm hBoth hTextFirst hTextSecond hText
        intro last hLast hNonempty
        obtain hNone | ⟨time, hTime, hLe⟩ := hCondition last hLast hNonempty
        · exact .inl (List.perm_nil.mp (hNone ▸ hStops))
        · exact .inr ⟨time, hStops.mem_iff.mpr hTime, hLe⟩
      | assistant =>
        apply assistant_line_of_perm hBoth hTextFirst hTextSecond hText
        · exact fun time hTime other hOther =>
            hCondition.1 time (hStarts.mem_iff.mp hTime) other (hStarts.mem_iff.mp hOther)
        · exact fun time hTime other hOther =>
            hCondition.2 time (hStops.mem_iff.mp hTime) other (hStops.mem_iff.mp hOther)

end OneText

/-! ## Orders of the facts -/

section Schedules

variable {early : Report → Bool} {reports : List Report} {speaker : Speaker} {report : Report}

def rank (early : Report → Bool) (report : Report) : Nat :=
  match report.fact with
  | .started _ _ _ => if early report then 0 else 4
  | .stopped _ _ _ => if early report then 1 else 5
  | .said _ _ => 2
  | .ended _ => 3

def block (early : Report → Bool) (reports : List Report) (k : Nat) : List Report :=
  reports.filter fun report => rank early report = k

def schedule (early : Report → Bool) (reports : List Report) : List Report :=
  byRank (rank early) [0, 1, 2, 3, 4, 5] reports

def known (early : Report → Bool) (reports : List Report) : List Report :=
  block early reports 0 ++ (block early reports 1 ++ block early reports 2)

theorem schedule_eq : schedule early reports =
    known early reports ++ (block early reports 3 ++ (block early reports 4 ++ block early reports 5)) := by
  simp [schedule, byRank, known, block, List.flatMap_cons]

theorem mem_block {k : Nat} : report ∈ block early reports k ↔ report ∈ reports ∧ rank early report = k := by
  simp [block]

theorem schedule_perm (early : Report → Bool) (reports : List Report) : (schedule early reports).Perm reports := by
  apply byRank_perm (by decide)
  intro report _
  unfold rank
  split
  · split <;> decide
  · split <;> decide
  · decide
  · decide

theorem schedule_inOrder (hClosed : ∀ start ∈ reports, ∀ stop ∈ reports, start.Opens stop →
    early stop = true → early start = true) : InOrder (schedule early reports) := by
  apply (byRank_pairwise (by decide)).imp_of_mem
  intro stop start hStop hStart hRank hOpens
  have hMem := fun report => (schedule_perm early reports).mem_iff (a := report)
  have hEarly := hClosed start ((hMem start).mp hStart) stop ((hMem stop).mp hStop) hOpens
  unfold Report.Opens at hOpens
  unfold rank at hRank
  cases hStartFact : start.fact <;> cases hStopFact : stop.fact <;> rw [hStartFact, hStopFact] at hOpens hRank <;>
    first
    | exact hOpens
    | skip
  dsimp only at hRank
  cases hEarlyStop : early stop with
  | true =>
    rw [hEarlyStop, hEarly hEarlyStop] at hRank
    exact absurd hRank (by decide)
  | false =>
    rw [hEarlyStop] at hRank
    cases hEarlyStart : early start <;> rw [hEarlyStart] at hRank <;> exact absurd hRank (by decide)

theorem isStart_of_opens {start stop : Report} (h : start.Opens stop) : start.isStart = true := by
  unfold Report.Opens at h
  unfold Report.isStart
  cases hFact : start.fact <;> rw [hFact] at h <;> first | rfl | exact h.elim

theorem rank_start {time : String} (h : report.startTime speaker = some time) :
    rank early report = if early report = true then 0 else 4 := by
  unfold Report.startTime at h
  unfold rank
  cases hFact : report.fact <;> rw [hFact] at h <;> cases h

theorem rank_stop {time : String} (h : report.stopTime speaker = some time) :
    rank early report = if early report = true then 1 else 5 := by
  unfold Report.stopTime at h
  unfold rank
  cases hFact : report.fact <;> rw [hFact] at h <;> cases h

theorem rank_text {transcript : Transcript} (h : report.transcript speaker = some transcript) :
    rank early report = 2 := by
  unfold Report.transcript at h
  unfold rank
  cases hFact : report.fact <;> rw [hFact] at h <;> cases h

theorem rank_end (early : Report → Bool) : report.isEnd = true ↔ rank early report = 3 := by
  unfold Report.isEnd rank
  cases report.fact with
  | started _ _ _ => cases early report <;> simp
  | stopped _ _ _ => cases early report <;> simp
  | _ => simp

theorem mem_starts {time : String} : time ∈ starts speaker reports ↔
    ∃ report ∈ reports, report.startTime speaker = some time := List.mem_filterMap

theorem mem_stops {time : String} : time ∈ stops speaker reports ↔
    ∃ report ∈ reports, report.stopTime speaker = some time := List.mem_filterMap

theorem starts_block {k : Nat} (h : k ≠ 0 ∧ k ≠ 4) : starts speaker (block early reports k) = [] := by
  apply List.eq_nil_iff_forall_not_mem.mpr
  intro time hTime
  obtain ⟨report, hMem, hStart⟩ := mem_starts.mp hTime
  obtain ⟨-, hRank⟩ := mem_block.mp hMem
  rw [rank_start hStart] at hRank
  split at hRank
  · exact h.1 hRank.symm
  · exact h.2 hRank.symm

theorem stops_block {k : Nat} (h : k ≠ 1 ∧ k ≠ 5) : stops speaker (block early reports k) = [] := by
  apply List.eq_nil_iff_forall_not_mem.mpr
  intro time hTime
  obtain ⟨report, hMem, hStop⟩ := mem_stops.mp hTime
  obtain ⟨-, hRank⟩ := mem_block.mp hMem
  rw [rank_stop hStop] at hRank
  split at hRank
  · exact h.1 hRank.symm
  · exact h.2 hRank.symm

theorem texts_block {k : Nat} (h : k ≠ 2) : texts speaker (block early reports k) = [] := by
  apply List.eq_nil_iff_forall_not_mem.mpr
  intro transcript hTranscript
  obtain ⟨report, hMem, hText⟩ := List.mem_filterMap.mp hTranscript
  obtain ⟨-, hRank⟩ := mem_block.mp hMem
  rw [rank_text hText] at hRank
  exact h hRank.symm

theorem starts_append (first second : List Report) :
    starts speaker (first ++ second) = starts speaker first ++ starts speaker second := List.filterMap_append

theorem stops_append (first second : List Report) :
    stops speaker (first ++ second) = stops speaker first ++ stops speaker second := List.filterMap_append

theorem texts_append (first second : List Report) :
    texts speaker (first ++ second) = texts speaker first ++ texts speaker second := List.filterMap_append

theorem starts_known : starts speaker (known early reports) = starts speaker (block early reports 0) := by
  rw [known, starts_append, starts_append, starts_block (k := 1) (by decide), starts_block (k := 2) (by decide),
    List.append_nil, List.append_nil]

theorem stops_known : stops speaker (known early reports) = stops speaker (block early reports 1) := by
  rw [known, stops_append, stops_append, stops_block (by decide), stops_block (k := 2) (by decide), List.append_nil,
    List.nil_append]

theorem known_any_end : (known early reports).any Report.isEnd = false := by
  rw [List.any_eq_false]
  intro report hReport hEnd
  have hRank := (rank_end early).mp hEnd
  simp only [known, List.mem_append, mem_block, hRank] at hReport
  omega

theorem texts_schedule_known (early : Report → Bool) (hOne : OneText reports) :
    texts speaker (known early reports) = texts speaker reports := by
  rw [← texts_order hOne (schedule_perm early reports) speaker, schedule_eq, texts_append, texts_append,
    texts_append, texts_block (k := 3) (by decide), texts_block (k := 4) (by decide), texts_block (k := 5) (by decide)]
  simp

/-! ### The times after a part -/

theorem stop_of_stops {time : String} {timing : Timing} (h : reports ≠ [])
    (hStops : ∀ report ∈ reports, report.stopTime speaker = some time)
    (hOld : speaker = .user → timing.stop = none ∨ timing.stop = some time) :
    (reports.foldl (fun timing report => timing.note speaker report) timing).stop = some time ∧
      (reports.foldl (fun timing report => timing.note speaker report) timing).speaking = false := by
  induction reports generalizing timing with
  | nil => exact absurd rfl h
  | cons report reports ih =>
    obtain ⟨hFirst, hRest⟩ := List.forall_mem_cons.mp hStops
    have hNote : timing.note speaker report = timing.finished speaker time := by
      obtain ⟨_, _, _, hNone, -⟩ | ⟨other, hOther, -, hStart, -⟩ | ⟨_, _, _, hNone⟩ | ⟨_, hNone, _⟩ :=
        kind speaker report
      · rw [hNone] at hFirst
        cases hFirst
      · exact note_stop hStart hFirst
      · rw [hNone] at hFirst
        cases hFirst
      · rw [hNone] at hFirst
        cases hFirst
    have hStop : (timing.finished speaker time).stop = some time := by
      cases speaker with
      | assistant => exact stop_finished_assistant timing
      | user =>
        obtain hNone | hSame := hOld rfl
        · exact stop_finished_none hNone
        · rw [stop_finished_user hSame, later, if_neg (lt_irrefl time)]
    rw [List.foldl_cons, hNote]
    cases hReports : reports with
    | nil => exact ⟨hStop, rfl⟩
    | cons next rest =>
      rw [← hReports]
      exact ih (hReports ▸ List.cons_ne_nil _ _) hRest fun _ => .inr hStop

theorem stop_of_quiet {timing : Timing} (hStarts : starts speaker reports = []) (hStops : stops speaker reports = [])
    (hOld : truthy timing.stop = true) :
    (reports.foldl (fun timing report => timing.note speaker report) timing).stop = timing.stop ∧
      (reports.foldl (fun timing report => timing.note speaker report) timing).speaking = timing.speaking := by
  induction reports generalizing timing with
  | nil => exact ⟨rfl, rfl⟩
  | cons report reports ih =>
    rw [← List.singleton_append, starts_append, List.append_eq_nil_iff] at hStarts
    rw [← List.singleton_append, stops_append, List.append_eq_nil_iff] at hStops
    have hSame : (timing.note speaker report).stop = timing.stop ∧
        (timing.note speaker report).speaking = timing.speaking := by
      obtain ⟨time, hStart, -, -, -⟩ | ⟨time, hStop, -, -, -⟩ | ⟨transcript, hText, hStart, hStop⟩ |
        ⟨hStart, hStop, hText⟩ := kind speaker report
      · have hMem : time ∈ starts speaker [report] := mem_starts.mpr ⟨report, List.mem_cons_self, hStart⟩
        rw [hStarts.1] at hMem
        cases hMem
      · have hMem : time ∈ stops speaker [report] := mem_stops.mpr ⟨report, List.mem_cons_self, hStop⟩
        rw [hStops.1] at hMem
        cases hMem
      · rw [note_text hStart hStop hText]
        refine ⟨?_, rfl⟩
        obtain ⟨-, hKept⟩ | ⟨hFalse, -, -⟩ | ⟨-, -, hKept⟩ := stop_heard_cases timing transcript
        · exact hKept
        · rw [hOld] at hFalse
          cases hFalse
        · exact hKept
      · rw [note_none hStart hStop hText]
        exact ⟨rfl, rfl⟩
    obtain ⟨hStop, hSpeaking⟩ := ih hStarts.2 hStops.2 (by rw [hSame.1]; exact hOld)
    exact ⟨hStop.trans hSame.1, hSpeaking.trans hSame.2⟩

theorem stop_grows {timing : Timing} {time : String} (h : timing.stop = some time) (hTime : time ≠ "") :
    ∃ last, (reports.foldl (fun timing report => timing.note .user report) timing).stop = some last ∧ time ≤ last := by
  induction reports generalizing timing time with
  | nil => exact ⟨time, h, le_rfl⟩
  | cons report reports ih =>
    have hNext : ∃ next, (timing.note .user report).stop = some next ∧ time ≤ next ∧ next ≠ "" := by
      obtain ⟨_, hStart, -, -, -⟩ | ⟨stop, hStop, hNonempty, hStart, -⟩ | ⟨transcript, hText, hStart, hStop⟩ |
        ⟨hStart, hStop, hText⟩ := kind .user report
      · rw [note_start hStart]
        exact ⟨time, h, le_rfl, hTime⟩
      · rw [note_stop hStart hStop, stop_finished_user h]
        refine ⟨_, rfl, ?_⟩
        obtain ⟨hEq, -⟩ | ⟨hEq, hLe⟩ := later_cases time stop
        · rw [hEq]
          exact ⟨le_rfl, hTime⟩
        · rw [hEq]
          exact ⟨hLe, hNonempty⟩
      · rw [note_text hStart hStop hText]
        obtain ⟨-, hKept⟩ | ⟨hFalse, -, -⟩ | ⟨-, -, hKept⟩ := stop_heard_cases timing transcript
        · exact ⟨time, hKept.trans h, le_rfl, hTime⟩
        · rw [h, Bool.eq_false_iff, ne_eq, truthy_some] at hFalse
          exact absurd hTime hFalse
        · exact ⟨time, hKept.trans h, le_rfl, hTime⟩
      · rw [note_none hStart hStop hText]
        exact ⟨time, h, le_rfl, hTime⟩
    obtain ⟨next, hStop, hLe, hNonempty⟩ := hNext
    obtain ⟨last, hLast, hMore⟩ := ih hStop hNonempty
    exact ⟨last, hLast, hLe.trans hMore⟩

/-! ### What the orders tell -/

section Tells

variable {transcript : Transcript} {time : String}

theorem flushed_schedule (hOne : OneText reports) (hTexts : texts speaker reports = [transcript])
    (hText : transcript.text ≠ "") (hEnd : reports.any Report.isEnd = true)
    (hReady : speaker = .assistant → (timingAfter speaker (known early reports)).speaking = false) :
    (Side.after speaker (schedule early reports)).flushed = some ⟨transcript.text,
      (timingAfter speaker (known early reports)).start.or transcript.timestamp,
      (timingAfter speaker (known early reports)).stop⟩ := by
  have hKnown := (texts_schedule_known early hOne).trans hTexts
  obtain ⟨ending, hMem, hEnding⟩ := List.any_eq_true.mp hEnd
  cases hBlock : block early reports 3 with
  | nil =>
    have hIn := mem_block.mpr ⟨hMem, (rank_end early).mp hEnding⟩
    rw [hBlock] at hIn
    cases hIn
  | cons first rest =>
    have hFirst : first ∈ block early reports 3 := hBlock ▸ List.mem_cons_self
    have hSplit : schedule early reports = known early reports ++
        first :: (rest ++ (block early reports 4 ++ block early reports 5)) := by
      rw [schedule_eq, hBlock, List.cons_append]
    exact flushed_of_end hSplit known_any_end ((rank_end early).mpr (mem_block.mp hFirst).2)
      (line_of_text hKnown hText) hReady

theorem known_nothing_early (reports : List Report) (speaker : Speaker) :
    starts speaker (known (fun _ => false) reports) = [] ∧ stops speaker (known (fun _ => false) reports) = [] := by
  have hEmpty : ∀ k, k < 2 → block (fun _ => false) reports k = [] := by
    intro k hk
    apply List.eq_nil_iff_forall_not_mem.mpr
    intro report hReport
    have hRank := (mem_block.mp hReport).2
    have hLate : 2 ≤ rank (fun _ => false) report := by
      unfold rank
      cases report.fact <;> simp
    omega
  rw [starts_known, stops_known, hEmpty 0 (by decide), hEmpty 1 (by decide)]
  exact ⟨rfl, rfl⟩

theorem flushed_bare (hOne : OneText reports) (hTexts : texts speaker reports = [transcript])
    (hText : transcript.text ≠ "") (hEnd : reports.any Report.isEnd = true) :
    (Side.after speaker (schedule (fun _ => false) reports)).flushed =
      some ⟨transcript.text, transcript.timestamp, transcript.endTimestamp.filter (· ≠ "")⟩ := by
  obtain ⟨hStarts, hStops⟩ := known_nothing_early reports speaker
  have hReady := (timed_after speaker (known (fun _ => false) reports)).silent hStarts
  have hKnown := (texts_schedule_known (fun _ => false) hOne).trans hTexts
  obtain ⟨hStart, hStop⟩ := times_of_brought hKnown (by rw [hStarts]; exact List.forall_mem_nil _)
    (by rw [hStops]; exact List.forall_mem_nil _)
  rw [flushed_schedule hOne hTexts hText hEnd fun _ => hReady, hStart, hStop]

def startingAt (speaker : Speaker) (time : String) (report : Report) : Bool := report.startTime speaker = some time

theorem mem_startingAt (hTime : time ∈ starts speaker reports) {other : String} :
    other ∈ starts speaker (block (startingAt speaker time) reports 0) ↔ other = time := by
  constructor
  · intro hOther
    obtain ⟨report, hMem, hStart⟩ := mem_starts.mp hOther
    obtain ⟨-, hRank⟩ := mem_block.mp hMem
    rw [rank_start hStart] at hRank
    split at hRank
    · rename_i hEarly
      exact Option.some.inj (hStart.symm.trans (of_decide_eq_true hEarly))
    · cases hRank
  · rintro rfl
    obtain ⟨report, hMem, hStart⟩ := mem_starts.mp hTime
    refine mem_starts.mpr ⟨report, mem_block.mpr ⟨hMem, ?_⟩, hStart⟩
    rw [rank_start hStart, if_pos (show startingAt speaker other report = true from decide_eq_true hStart)]

theorem head_startingAt (hTime : time ∈ starts speaker reports) (more : List Report) :
    (starts speaker (block (startingAt speaker time) reports 0 ++ more)).head? = some time := by
  have hIn := (mem_startingAt hTime).mpr rfl
  rw [starts_append, List.head?_append]
  cases hFirst : starts speaker (block (startingAt speaker time) reports 0) with
  | nil =>
    rw [hFirst] at hIn
    cases hIn
  | cons first rest =>
    have hSame : first = time := (mem_startingAt hTime).mp (hFirst ▸ List.mem_cons_self)
    rw [hSame]
    rfl

theorem startingAt_inOrder (speaker : Speaker) (time : String) (reports : List Report) :
    InOrder (schedule (startingAt speaker time) reports) := by
  apply schedule_inOrder
  intro start _ stop _ hOpens hEarly
  have hStart : stop.startTime speaker = some time := of_decide_eq_true hEarly
  unfold Report.startTime at hStart
  unfold Report.Opens at hOpens
  cases hFact : stop.fact <;> rw [hFact] at hStart hOpens
  · split at hOpens <;> first | exact hOpens.elim | skip
    rename_i hStop
    cases hStop
  all_goals cases hStart

theorem timestamp_of_early_start (hOne : OneText reports) (hTexts : texts speaker reports = [transcript])
    (hText : transcript.text ≠ "") (hEnd : reports.any Report.isEnd = true) (hTime : time ∈ starts speaker reports) :
    ∃ stop, (Side.after speaker (schedule (startingAt speaker time) reports)).flushed =
      some ⟨transcript.text, some time, stop⟩ := by
  cases speaker with
  | user =>
    have hTimed := timed_after .user (known (startingAt .user time) reports)
    rw [flushed_schedule hOne hTexts hText hEnd nofun]
    cases hStart : (timingAfter .user (known (startingAt .user time) reports)).start with
    | none =>
      have hNone := hTimed.startNone hStart
      have hIn := (mem_startingAt hTime).mpr rfl
      rw [starts_known] at hNone
      rw [hNone] at hIn
      cases hIn
    | some first =>
      have hFirst := hTimed.startMem first hStart
      rw [starts_known] at hFirst
      rw [(mem_startingAt hTime).mp hFirst]
      exact ⟨_, rfl⟩
  | assistant =>
    obtain ⟨told, later, hSplit, hFlushed, hWhen⟩ :=
      flushed_after .assistant (schedule (startingAt .assistant time) reports)
    have hAll := (texts_order hOne (schedule_perm (startingAt .assistant time) reports) .assistant).trans hTexts
    have hTold := texts_known hSplit hAll (hWhen.imp_right And.right)
    -- the text comes after the first part, so what was known begins with that part
    have hBegins : ∃ more, told = block (startingAt .assistant time) reports 0 ++ more := by
      rw [schedule_eq, known, List.append_assoc] at hSplit
      obtain ⟨more, hMore, -⟩ | ⟨more, hMore, -⟩ := List.append_eq_append_iff.mp hSplit
      · exact ⟨more, hMore⟩
      · have hNone : texts .assistant (block (startingAt .assistant time) reports 0) = [] := texts_block (by decide)
        rw [hMore, texts_append, List.append_eq_nil_iff, hTold] at hNone
        cases hNone.1
    obtain ⟨more, rfl⟩ := hBegins
    rw [hFlushed, line_of_text hTold hText, (timed_after .assistant _).startFirst rfl, head_startingAt hTime]
    exact ⟨_, rfl⟩

def stoppingAt (speaker : Speaker) (time : String) (report : Report) : Bool :=
  report.stopTime speaker = some time || report.isStart

theorem stoppingAt_inOrder (speaker : Speaker) (time : String) (reports : List Report) :
    InOrder (schedule (stoppingAt speaker time) reports) := by
  apply schedule_inOrder
  intro start _ stop _ hOpens _
  unfold stoppingAt
  rw [isStart_of_opens hOpens, Bool.or_true]

theorem ne_empty_of_stop (h : report.stopTime speaker = some time) : time ≠ "" := by
  obtain ⟨_, _, _, hNone, -⟩ | ⟨other, hOther, hTime, -, -⟩ | ⟨_, _, _, hNone⟩ | ⟨_, hNone, _⟩ := kind speaker report
  · rw [hNone] at h
    cases h
  · exact Option.some.inj (hOther.symm.trans h) ▸ hTime
  · rw [hNone] at h
    cases h
  · rw [hNone] at h
    cases h

theorem end_of_early_stop (hOne : OneText reports) (hTexts : texts speaker reports = [transcript])
    (hText : transcript.text ≠ "") (hEnd : reports.any Report.isEnd = true) (hTime : time ∈ stops speaker reports) :
    ∃ start, (Side.after speaker (schedule (stoppingAt speaker time) reports)).flushed =
      some ⟨transcript.text, start, some time⟩ := by
  have hStops : ∀ report ∈ block (stoppingAt speaker time) reports 1, report.stopTime speaker = some time := by
    intro report hReport
    obtain ⟨-, hRank⟩ := mem_block.mp hReport
    unfold rank at hRank
    cases hFact : report.fact with
    | stopped who stretch timestamp =>
      rw [hFact] at hRank
      dsimp only at hRank
      split at hRank
      · rename_i hEarly
        have hNot : report.isStart = false := by
          unfold Report.isStart
          rw [hFact]
        rw [stoppingAt, hNot, Bool.or_false] at hEarly
        exact of_decide_eq_true hEarly
      · cases hRank
    | started who stretch timestamp =>
      rw [hFact] at hRank
      dsimp only at hRank
      split at hRank <;> cases hRank
    | _ =>
      rw [hFact] at hRank
      cases hRank
  obtain ⟨report, hMem, hAt⟩ := mem_stops.mp hTime
  have hSome : block (stoppingAt speaker time) reports 1 ≠ [] := by
    have hEarly : stoppingAt speaker time report = true := by
      rw [stoppingAt, hAt]
      simp
    exact List.ne_nil_of_mem (mem_block.mpr ⟨hMem, by rw [rank_stop hAt, if_pos hEarly]⟩)
  -- the starts, then this stop, then the texts
  have hTimes : (timingAfter speaker (known (stoppingAt speaker time) reports)).stop = some time ∧
      (timingAfter speaker (known (stoppingAt speaker time) reports)).speaking = false := by
    have hFirst : (timingAfter speaker (block (stoppingAt speaker time) reports 0)).stop = none := by
      cases hOld : (timingAfter speaker (block (stoppingAt speaker time) reports 0)).stop with
      | none => rfl
      | some old =>
        obtain ⟨-, hMem | ⟨⟨other, hOther, -⟩, -⟩⟩ :=
          (timed_after speaker (block (stoppingAt speaker time) reports 0)).stopMem old hOld
        · rw [stops_block (by decide)] at hMem
          cases hMem
        · rw [texts_block (by decide)] at hOther
          cases hOther
    obtain ⟨hStop, hSpeaking⟩ := stop_of_stops hSome hStops fun _ => .inl hFirst
    have hQuiet : starts speaker (block (stoppingAt speaker time) reports 2) = [] := starts_block (by decide)
    obtain ⟨hStop', hSpeaking'⟩ := stop_of_quiet hQuiet (stops_block (by decide))
      (hStop ▸ truthy_some.mpr (ne_empty_of_stop hAt))
    unfold timingAfter known
    rw [List.foldl_append, List.foldl_append]
    exact ⟨hStop'.trans hStop, hSpeaking'.trans hSpeaking⟩
  rw [flushed_schedule hOne hTexts hText hEnd fun _ => hTimes.2, hTimes.1]
  exact ⟨_, rfl⟩

/-! Where the turn's end is not reported, everything is told at the end. -/

section NoEnd

variable (hNoEnd : reports.any Report.isEnd = false)
include hNoEnd

theorem flushed_schedule_of_no_end (early : Report → Bool) (hOne : OneText reports)
    (hTexts : texts speaker reports = [transcript]) (hText : transcript.text ≠ "") :
    (Side.after speaker (schedule early reports)).flushed = some ⟨transcript.text,
      (timingAfter speaker (schedule early reports)).start.or transcript.timestamp,
      (timingAfter speaker (schedule early reports)).stop⟩ := by
  rw [flushed_of_no_end (by rw [(schedule_perm early reports).any_eq, hNoEnd])]
  exact line_of_text ((texts_order hOne (schedule_perm early reports) speaker).trans hTexts) hText

omit hNoEnd in
theorem stop_of_text_first (hOne : OneText reports) (hTexts : texts .user reports = [transcript]) {last : String}
    (hLast : transcript.endTimestamp = some last) (hNonempty : last ≠ "") :
    ∃ time, (timingAfter .user (schedule (fun _ => false) reports)).stop = some time ∧ last ≤ time := by
  obtain ⟨hStarts, hStops⟩ := known_nothing_early reports .user
  have hKnown := (texts_schedule_known (fun _ => false) hOne).trans hTexts
  obtain ⟨-, hStop⟩ := times_of_brought hKnown (by rw [hStarts]; exact List.forall_mem_nil _)
    (by rw [hStops]; exact List.forall_mem_nil _)
  rw [hLast, Option.filter_some, if_pos (decide_eq_true hNonempty)] at hStop
  rw [schedule_eq, timingAfter, List.foldl_append]
  exact stop_grows hStop hNonempty

omit hNoEnd in
theorem stop_of_text_last (hSome : stops .user reports ≠ []) :
    ∃ time ∈ stops .user reports, (timingAfter .user (schedule (fun _ => true) reports)).stop = some time := by
  have hLate : ∀ k, 4 ≤ k → block (fun _ => true) reports k = [] := by
    intro k hk
    apply List.eq_nil_iff_forall_not_mem.mpr
    intro report hReport
    have hRank := (mem_block.mp hReport).2
    have hEarly : rank (fun _ => true) report ≤ 3 := by
      unfold rank
      cases report.fact <;> simp
    omega
  have hAll : (stops .user (block (fun _ => true) reports 1)).Perm (stops .user reports) := by
    have hPerm := stops_perm .user (schedule_perm (fun _ => true) reports)
    have hNothing : stops .user [] = [] := rfl
    rwa [schedule_eq, stops_append, stops_known, stops_append, stops_append, hLate 4 (by decide), hLate 5 (by decide),
      stops_block (k := 3) (by decide), hNothing, List.append_nil, List.append_nil, List.append_nil] at hPerm
  have hTimed := timed_after .user (block (fun _ => true) reports 0 ++ block (fun _ => true) reports 1)
  have hNoText : texts .user (block (fun _ => true) reports 0 ++ block (fun _ => true) reports 1) = [] := by
    rw [texts_append, texts_block (by decide), texts_block (by decide)]
    rfl
  have hStops : stops .user (block (fun _ => true) reports 0 ++ block (fun _ => true) reports 1) =
      stops .user (block (fun _ => true) reports 1) := by
    rw [stops_append, stops_block (by decide), List.nil_append]
  cases hStop : (timingAfter .user (block (fun _ => true) reports 0 ++ block (fun _ => true) reports 1)).stop with
  | none =>
    have hNone := (hTimed.stopNone hStop).1
    rw [hStops] at hNone
    rw [hNone, List.nil_perm] at hAll
    exact absurd hAll hSome
  | some time =>
    obtain ⟨hNonempty, hMem | ⟨⟨other, hOther, -⟩, -⟩⟩ := hTimed.stopMem time hStop
    · rw [hStops] at hMem
      refine ⟨time, hAll.mem_iff.mp hMem, ?_⟩
      have hQuiet : starts .user (block (fun _ => true) reports 2 ++ block (fun _ => true) reports 3) = [] := by
        rw [starts_append, starts_block (by decide), starts_block (by decide)]
        rfl
      have hQuietStops : stops .user (block (fun _ => true) reports 2 ++ block (fun _ => true) reports 3) = [] := by
        rw [stops_append, stops_block (by decide), stops_block (by decide)]
        rfl
      obtain ⟨hSame, -⟩ := stop_of_quiet hQuiet hQuietStops (hStop ▸ truthy_some.mpr hNonempty)
      have hSplit : schedule (fun _ => true) reports =
          (block (fun _ => true) reports 0 ++ block (fun _ => true) reports 1) ++
            (block (fun _ => true) reports 2 ++ block (fun _ => true) reports 3) := by
        rw [schedule_eq, known, hLate 4 (by decide), hLate 5 (by decide)]
        simp
      rw [hSplit, timingAfter, List.foldl_append]
      exact hSame.trans hStop
    · rw [hNoText] at hOther
      cases hOther

def stoppingLastAt (speaker : Speaker) (time : String) (report : Report) : Bool :=
  report.isStart || report.stopTime speaker ≠ some time

omit hNoEnd in
theorem stoppingLastAt_inOrder (speaker : Speaker) (time : String) (reports : List Report) :
    InOrder (schedule (stoppingLastAt speaker time) reports) := by
  apply schedule_inOrder
  intro start _ stop _ hOpens _
  rw [stoppingLastAt, isStart_of_opens hOpens, Bool.true_or]

omit hNoEnd in
theorem stop_of_last (hTime : time ∈ stops .assistant reports) :
    (timingAfter .assistant (schedule (stoppingLastAt .assistant time) reports)).stop = some time := by
  have hStops : ∀ report ∈ block (stoppingLastAt .assistant time) reports 5,
      report.stopTime .assistant = some time := by
    intro report hReport
    obtain ⟨-, hRank⟩ := mem_block.mp hReport
    by_contra hOther
    have hEarly : stoppingLastAt .assistant time report = true := by
      rw [stoppingLastAt]
      simp [hOther]
    unfold rank at hRank
    cases hFact : report.fact <;> rw [hFact] at hRank
    · rw [hEarly] at hRank
      cases hRank
    · rw [hEarly] at hRank
      cases hRank
    · cases hRank
    · cases hRank
  obtain ⟨report, hMem, hStop⟩ := mem_stops.mp hTime
  have hSome : block (stoppingLastAt .assistant time) reports 5 ≠ [] := by
    have hNot : report.isStart = false := by
      unfold Report.stopTime at hStop
      unfold Report.isStart
      cases hFact : report.fact with
      | started who stretch timestamp =>
        rw [hFact] at hStop
        cases hStop
      | stopped who stretch timestamp => rfl
      | said who transcript => rfl
      | ended interrupted => rfl
    have hLate : stoppingLastAt .assistant time report = false := by
      rw [stoppingLastAt, hNot, hStop]
      simp
    exact List.ne_nil_of_mem (mem_block.mpr ⟨hMem, by rw [rank_stop hStop, hLate]; rfl⟩)
  rw [schedule_eq, ← List.append_assoc, ← List.append_assoc, timingAfter, List.foldl_append]
  exact (stop_of_stops hSome hStops nofun).1

end NoEnd

end Tells

theorem steady_of_flushed (hOne : OneText reports) (hAll : ∀ first second : List Report, first.Perm reports →
    second.Perm reports → InOrder first → InOrder second → ∀ speaker,
      (Side.after speaker first).flushed = (Side.after speaker second).flushed) : Steady reports := by
  have hSame : ∀ early early', InOrder (schedule early reports) → InOrder (schedule early' reports) → ∀ speaker,
      (Side.after speaker (schedule early reports)).flushed = (Side.after speaker (schedule early' reports)).flushed :=
    fun early early' h h' => hAll _ _ (schedule_perm early reports) (schedule_perm early' reports) h h'
  have hBareOrder : InOrder (schedule (fun _ => false) reports) :=
    schedule_inOrder fun _ _ _ _ _ hEarly => absurd hEarly Bool.false_ne_true
  have hFullOrder : InOrder (schedule (fun _ => true) reports) := schedule_inOrder fun _ _ _ _ _ _ => rfl
  intro speaker transcript hTranscript hText
  have hTexts : texts speaker reports = [transcript] := by
    obtain hNone | ⟨only, hOnly⟩ := texts_cases hOne speaker
    · rw [hNone] at hTranscript
      cases hTranscript
    · rw [hOnly, List.mem_singleton] at hTranscript
      rw [hOnly, hTranscript]
  split
  · rename_i hEnd
    have hBare := flushed_bare hOne hTexts hText hEnd
    constructor
    · intro time hTime
      obtain ⟨stop, hTold⟩ := timestamp_of_early_start hOne hTexts hText hEnd hTime
      have hEq := hSame _ _ hBareOrder (startingAt_inOrder speaker time reports) speaker
      rw [hBare, hTold] at hEq
      exact congrArg Line.timestamp (Option.some.inj hEq)
    · intro time hTime
      obtain ⟨start, hTold⟩ := end_of_early_stop hOne hTexts hText hEnd hTime
      have hEq := hSame _ _ hBareOrder (stoppingAt_inOrder speaker time reports) speaker
      rw [hBare, hTold] at hEq
      exact (Option.filter_eq_some_iff.mp (congrArg Line.endTimestamp (Option.some.inj hEq))).1
  · rename_i hNot
    have hNoEnd : reports.any Report.isEnd = false := Bool.eq_false_iff.mpr hNot
    have hTimes : ∀ early early', InOrder (schedule early reports) → InOrder (schedule early' reports) →
        (timingAfter speaker (schedule early reports)).start.or transcript.timestamp =
          (timingAfter speaker (schedule early' reports)).start.or transcript.timestamp ∧
        (timingAfter speaker (schedule early reports)).stop = (timingAfter speaker (schedule early' reports)).stop := by
      intro early early' hOrder hOrder'
      have hEq := hSame early early' hOrder hOrder' speaker
      rw [flushed_schedule_of_no_end hNoEnd early hOne hTexts hText,
        flushed_schedule_of_no_end hNoEnd early' hOne hTexts hText] at hEq
      have hLine := Option.some.inj hEq
      exact ⟨congrArg Line.timestamp hLine, congrArg Line.endTimestamp hLine⟩
    cases speaker with
    | user =>
      intro last hLast hNonempty
      by_cases hSome : stops .user reports = []
      · exact .inl hSome
      · obtain ⟨time, hFirst, hLe⟩ := stop_of_text_first hOne hTexts hLast hNonempty
        obtain ⟨other, hMem, hLate⟩ := stop_of_text_last hSome
        have hEq := (hTimes _ _ hBareOrder hFullOrder).2
        rw [hFirst, hLate] at hEq
        exact .inr ⟨other, hMem, Option.some.inj hEq ▸ hLe⟩
    | assistant =>
      constructor
      · intro time hTime other hOther
        have hHead : ∀ time ∈ starts .assistant reports,
            (timingAfter .assistant (schedule (startingAt .assistant time) reports)).start = some time := by
          intro time hTime
          rw [(timed_after .assistant _).startFirst rfl, schedule_eq, known, List.append_assoc, head_startingAt hTime]
        have hEq := (hTimes _ _ (startingAt_inOrder .assistant time reports)
          (startingAt_inOrder .assistant other reports)).1
        rw [hHead time hTime, hHead other hOther] at hEq
        exact Option.some.inj hEq
      · intro time hTime other hOther
        have hEq := (hTimes _ _ (stoppingLastAt_inOrder .assistant time reports)
          (stoppingLastAt_inOrder .assistant other reports)).2
        rw [stop_of_last hTime, stop_of_last hOther] at hEq
        exact Option.some.inj hEq

end Schedules

/-- The turn's events are the same in every order exactly if its facts are steady. -/
theorem facts_commute_iff {c : Coordinator} {turnId : Int} {reports : List Report} (hReady : c.Ready turnId)
    (now : String) (hOne : OneText reports) :
    (∀ first second : List Report, first.Perm reports → second.Perm reports → InOrder first → InOrder second →
      ∀ speaker, ((c.oneTurn turnId now first).eventsOf speaker).map Event.line =
        ((c.oneTurn turnId now second).eventsOf speaker).map Event.line) ↔
    Steady reports := by
  constructor
  · intro hAll
    apply steady_of_flushed hOne
    intro first second hFirst hSecond hOrder hOrder' speaker
    have hSame := hAll first second hFirst hSecond hOrder hOrder' speaker
    rw [Coordinator.events_oneTurn hReady, Coordinator.events_oneTurn hReady] at hSame
    have hTold := congrArg List.head? (List.append_cancel_left hSame)
    rwa [Option.head?_toList, Option.head?_toList] at hTold
  · intro hSteady first second hFirst hSecond _ _ speaker
    rw [Coordinator.events_oneTurn hReady, Coordinator.events_oneTurn hReady,
      flushed_of_steady hSteady hOne hFirst hSecond speaker]

/-! ## Two turns -/

section Turns

private def userStarted : Report := ⟨⟨"10:00:00", by decide⟩, .started .user 0 none⟩

private def userSaid : Report := ⟨⟨"10:00:03", by decide⟩, .said .user ⟨"hello", none, none, none⟩⟩

private def turnOver : Report := ⟨⟨"10:00:04", by decide⟩, .ended false⟩

private def userStopped : Report := ⟨⟨"10:00:02", by decide⟩, .stopped .user 0 (some "10:00:02")⟩

theorem facts_commute_until_flush :
    ((Coordinator.oneTurn {} 1 "10:00:05" [userSaid, userStarted, userStopped]).eventsOf .user).map Event.line =
      ((Coordinator.oneTurn {} 1 "10:00:05" [userStarted, userStopped, userSaid]).eventsOf .user).map Event.line := by
  have hOne : OneText [userStarted, userStopped, userSaid] := by
    intro speaker
    cases speaker <;> decide
  apply (facts_commute_iff (Coordinator.ready_empty 1) "10:00:05" hOne).mpr
  · intro speaker transcript hTranscript _
    cases speaker with
    | user =>
      obtain rfl := List.mem_singleton.mp hTranscript
      exact nofun
    | assistant => cases hTranscript
  · exact (List.perm_append_singleton userSaid [userStarted, userStopped]).symm
  · exact .refl _
  · simp [InOrder, Report.Opens, userStarted, userSaid, userStopped]
  · simp [InOrder, Report.Opens, userStarted, userSaid, userStopped]

theorem end_timestamp_missing :
    InOrder [userStarted, userSaid, userStopped, turnOver] ∧ InOrder [userStarted, userSaid, turnOver, userStopped] ∧
    [userStarted, userSaid, turnOver, userStopped].Perm [userStarted, userSaid, userStopped, turnOver] ∧
    ((Coordinator.oneTurn {} 1 "10:00:05" [userStarted, userSaid, userStopped, turnOver]).eventsOf
      .user).map Event.line = [⟨"hello", some "10:00:00", some "10:00:02"⟩] ∧
    ((Coordinator.oneTurn {} 1 "10:00:05" [userStarted, userSaid, turnOver, userStopped]).eventsOf
      .user).map Event.line = [⟨"hello", some "10:00:00", none⟩] := by
  refine ⟨?_, ?_, ?_, by decide +kernel, by decide +kernel⟩
  · simp [InOrder, Report.Opens, userStarted, userSaid, turnOver, userStopped]
  · simp [InOrder, Report.Opens, userStarted, userSaid, turnOver, userStopped]
  · exact .cons _ (.cons _ (.swap _ _ _))

end Turns

end FastVoice.Transcripts
