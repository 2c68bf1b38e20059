import FastVoice.Runtime.Machine
import Mathlib.Data.List.Nodup
import Mathlib.Data.List.Count

/-! # Summaries of the conversation while it goes on

A transition lets the conversation so far be summarized in the background. The summary replaces what stood up to an
index when it was asked for, and is applied to what stands there when it comes.
-/
namespace FastVoice.Engine.ContextSummarization

/-- A message of the context. It is told from its equals by its identity. -/
structure Message where
  id : Nat
  isDict : Bool
  role : Option String
  content : String
  deriving DecidableEq

def firstSystemMsg (messages : List Message) : Option Message :=
  messages.find? fun m => m.isDict && m.role == some "system"

theorem mem_of_firstSystemMsg {messages : List Message} {m : Message} (h : firstSystemMsg messages = some m) :
    m ∈ messages :=
  List.mem_of_find?_eq_some h

/-- A summarization task that is not done. -/
inductive Task
  | created
  | generating (asked : List Message)
  deriving DecidableEq

structure Session where
  messages : List Message
  nextId : Nat
  /-- `_summarization_task`, while it is not done. A cancelled task does nothing more. -/
  task : Option Task
  /-- `_context_summarization_manager` is set. -/
  summarizes : Bool
  currentNode : Option String
  entering : List (Option String)

def Session.append (s : Session) (isDict : Bool) (role : Option String) (content : String) : Session :=
  { s with messages := s.messages ++ [⟨s.nextId, isDict, role, content⟩], nextId := s.nextId + 1 }

def Session.start (s : Session) : Session := { s with task := some .created }

def Session.setNode (s : Session) (nodeId : String) : Session :=
  { s with currentNode := some nodeId, entering := s.currentNode :: s.entering }

def Session.entered (s : Session) (previousNodeId : Option String) (raised : Bool) : Session :=
  let s := { s with entering := s.entering.erase previousNodeId }
  if !raised && previousNodeId.isSome && s.summarizes then s.start else s

/-- `_summarize_context_in_background`, until it awaits the summary. -/
def Session.summarize (s : Session) : Session :=
  { s with task := if s.messages.length ≤ 6 then none else some (.generating s.messages) }

def newMessages (current : List Message) (summaryMessage : Message) (lastIndex : Nat) : List Message :=
  (firstSystemMsg current).toList ++ summaryMessage :: current.drop (lastIndex + 1)

/-- `_summarize_context_in_background`, once the summary has come. The template is the configuration's. -/
def Session.summarized (template : String → String) (s : Session) (summaryText : String) (lastIndex : Int) :
    Session :=
  if summaryText = "" ∨ lastIndex < 0 then { s with task := none }
  else
    { s with
      messages := newMessages s.messages ⟨s.nextId, true, some "user", template summaryText⟩ lastIndex.toNat
      nextId := s.nextId + 1
      task := none }

inductive Event
  | append (isDict : Bool) (role : Option String) (content : String)
  | setNode (nodeId : String)
  | entered (previousNodeId : Option String) (raised : Bool)
  | summarize
  | summarized (summaryText : String) (lastIndex : Int)
  | fail
  | cleanup

/-- The generator's index is one into the messages it was asked about. -/
def sessions (template : String → String) : Machine Session Event where
  step
    | s, .append isDict role content => some (s.append isDict role content)
    | s, .setNode nodeId => some (s.setNode nodeId)
    | s, .entered previousNodeId raised =>
      if previousNodeId ∈ s.entering then some (s.entered previousNodeId raised) else none
    | s, .summarize => if s.task = some .created then some s.summarize else none
    | s, .summarized summaryText lastIndex =>
      match s.task with
      | some (.generating asked) =>
        if lastIndex < asked.length then some (s.summarized template summaryText lastIndex) else none
      | _ => none
    | s, .fail => if s.task.isSome then some { s with task := none } else none
    | s, .cleanup => some { s with task := none }

structure Keeps (asked : List Message) (lastIndex : Nat) (current next : List Message) : Prop where
  recent : ∀ m ∈ current.drop (lastIndex + 1), next.count m = 1
  inOrder : (current.drop (lastIndex + 1)).Sublist next
  firstSystem : ∀ m, firstSystemMsg current = some m → next.count m = 1
  replaced : ∀ m ∈ current, m ∉ next → m ∈ asked.take (lastIndex + 1)

/-- A summary that is applied keeps what it does not cover, and no other step takes a message. -/
def KeepsMessages (s : Session) (event : Event) (next : Session) : Prop :=
  match event, s.task with
  | .summarized summaryText lastIndex, some (.generating asked) =>
    if summaryText = "" ∨ lastIndex < 0 then next.messages = s.messages
    else Keeps asked lastIndex.toNat s.messages next.messages
  | _, _ => s.messages <+: next.messages

/-- The first system message does not stand behind the index of a summary that is applied. -/
def Covered (s : Session) : Event → Prop
  | .summarized summaryText lastIndex => summaryText ≠ "" → 0 ≤ lastIndex →
    ∀ m ∈ firstSystemMsg s.messages, m ∉ s.messages.drop (lastIndex.toNat + 1)
  | _ => True

instance (s : Session) : (event : Event) → Decidable (Covered s event)
  | .append .. | .setNode _ | .entered .. | .summarize | .fail | .cleanup => isTrue trivial
  | .summarized summaryText lastIndex => inferInstanceAs (Decidable (summaryText ≠ "" → 0 ≤ lastIndex →
    ∀ m ∈ firstSystemMsg s.messages, m ∉ s.messages.drop (lastIndex.toNat + 1)))

section Applied

variable {asked current : List Message} {summaryMessage : Message} {lastIndex : Nat}

theorem newMessages_nodup (hNodup : current.Nodup) (hNew : summaryMessage ∉ current)
    (hCovered : ∀ m, firstSystemMsg current = some m → m ∉ current.drop (lastIndex + 1)) :
    (newMessages current summaryMessage lastIndex).Nodup := by
  have hDrop : (current.drop (lastIndex + 1)).Sublist current := List.drop_sublist _ _
  have hRecent : (summaryMessage :: current.drop (lastIndex + 1)).Nodup :=
    List.nodup_cons.mpr ⟨fun h => hNew (hDrop.mem h), hNodup.sublist hDrop⟩
  cases hFirst : firstSystemMsg current with
  | none => simpa [newMessages, hFirst] using hRecent
  | some m =>
    have hApart : m ≠ summaryMessage := fun h => hNew (h ▸ mem_of_firstSystemMsg hFirst)
    have hBehind : m ∉ summaryMessage :: current.drop (lastIndex + 1) := by
      simpa [hApart] using hCovered m hFirst
    rw [newMessages, hFirst]
    exact List.nodup_cons.mpr ⟨hBehind, hRecent⟩

theorem recent_sublist_newMessages :
    (current.drop (lastIndex + 1)).Sublist (newMessages current summaryMessage lastIndex) :=
  (List.sublist_cons_self _ _).trans (List.sublist_append_right _ _)

theorem firstSystemMsg_mem_newMessages {m : Message} (h : firstSystemMsg current = some m) :
    m ∈ newMessages current summaryMessage lastIndex := by
  simp [newMessages, h]

theorem mem_take_of_replaced (hAsked : asked <+: current) (hIndex : lastIndex < asked.length) {m : Message}
    (hm : m ∈ current) (hGone : m ∉ newMessages current summaryMessage lastIndex) :
    m ∈ asked.take (lastIndex + 1) := by
  obtain ⟨later, rfl⟩ := hAsked
  have hTake : (asked ++ later).take (lastIndex + 1) = asked.take (lastIndex + 1) :=
    List.take_append_of_le_length hIndex
  rw [← List.take_append_drop (lastIndex + 1) (asked ++ later), List.mem_append, hTake] at hm
  exact hm.resolve_right fun h => hGone (recent_sublist_newMessages.mem h)

theorem keeps_iff (hNodup : current.Nodup) (hNew : summaryMessage ∉ current) (hAsked : asked <+: current)
    (hIndex : lastIndex < asked.length) :
    Keeps asked lastIndex current (newMessages current summaryMessage lastIndex) ↔
      ∀ m, firstSystemMsg current = some m → m ∉ current.drop (lastIndex + 1) := by
  constructor
  · intro h m hFirst hBehind
    -- The message stands in front and again among the recent ones.
    have hOnce := h.firstSystem m hFirst
    have hRecent : 0 < (current.drop (lastIndex + 1)).count m := List.count_pos_iff.mpr hBehind
    have hMore : (current.drop (lastIndex + 1)).count m ≤
        (summaryMessage :: current.drop (lastIndex + 1)).count m := List.count_le_count_cons
    rw [newMessages, hFirst, Option.toList_some, List.singleton_append, List.count_cons_self] at hOnce
    omega
  · intro hCovered
    have hDistinct := newMessages_nodup hNodup hNew hCovered
    exact
      { recent := fun m hm => List.count_eq_one_of_mem hDistinct (recent_sublist_newMessages.mem hm)
        inOrder := recent_sublist_newMessages
        firstSystem := fun m hm => List.count_eq_one_of_mem hDistinct (firstSystemMsg_mem_newMessages hm)
        replaced := fun m hm hGone => mem_take_of_replaced hAsked hIndex hm hGone }

end Applied

structure Session.WellFormed (s : Session) : Prop where
  older : ∀ m ∈ s.messages, m.id < s.nextId
  nodup : s.messages.Nodup
  asked : ∀ asked, s.task = some (.generating asked) → asked <+: s.messages

variable {template : String → String} {s next : Session}

theorem Session.WellFormed.fresh (h : s.WellFormed) {isDict : Bool} {role : Option String} {content : String} :
    ⟨s.nextId, isDict, role, content⟩ ∉ s.messages :=
  fun hm => Nat.lt_irrefl s.nextId (h.older _ hm)

theorem Session.WellFormed.append (h : s.WellFormed) (isDict : Bool) (role : Option String) (content : String) :
    (s.append isDict role content).WellFormed where
  older m hm := by
    rcases List.mem_append.mp hm with hOld | hNew
    · exact Nat.lt_succ_of_lt (h.older m hOld)
    · rw [List.mem_singleton.mp hNew]
      exact Nat.lt_succ_self _
  nodup := List.nodup_append'.mpr
    ⟨h.nodup, List.nodup_singleton _, List.disjoint_singleton.mpr h.fresh⟩
  asked asked hTask := (h.asked asked hTask).trans (List.prefix_append _ _)

theorem Session.WellFormed.of_messages (h : s.WellFormed) (hMessages : next.messages = s.messages)
    (hId : next.nextId = s.nextId)
    (hTask : ∀ asked, next.task = some (.generating asked) → asked <+: s.messages) : next.WellFormed where
  older m hm := hId ▸ h.older m (hMessages ▸ hm)
  nodup := hMessages ▸ h.nodup
  asked asked hAsked := hMessages ▸ hTask asked hAsked

theorem Session.summarized_of_kept {summaryText : String} {lastIndex : Int}
    (h : summaryText = "" ∨ lastIndex < 0) :
    s.summarized template summaryText lastIndex = { s with task := none } :=
  if_pos h

theorem summarized_step (h : s.WellFormed) {asked : List Message} (hTask : s.task = some (.generating asked))
    {summaryText : String} {lastIndex : Int} (hIndex : lastIndex < asked.length) :
    (KeepsMessages s (.summarized summaryText lastIndex) (s.summarized template summaryText lastIndex) ↔
        Covered s (.summarized summaryText lastIndex)) ∧ (Covered s (.summarized summaryText lastIndex) →
        (s.summarized template summaryText lastIndex).WellFormed) := by
  by_cases hKept : summaryText = "" ∨ lastIndex < 0
  · have hCovered : Covered s (.summarized summaryText lastIndex) := fun hText hPos =>
      absurd hKept (by simp [hText, hPos])
    rw [Session.summarized_of_kept hKept]
    refine ⟨iff_of_true ?_ hCovered, fun _ => h.of_messages rfl rfl nofun⟩
    simp [KeepsMessages, hTask, hKept]
  · obtain ⟨hText, hPos⟩ := not_or.mp hKept
    have hCovered : Covered s (.summarized summaryText lastIndex) ↔
        ∀ m, firstSystemMsg s.messages = some m → m ∉ s.messages.drop (lastIndex.toNat + 1) :=
      ⟨fun h => h hText (by omega), fun h _ _ => h⟩
    rw [Session.summarized, if_neg hKept]
    refine ⟨?_, fun hCov => ⟨fun m hm => ?_, ?_, nofun⟩⟩
    · simp only [KeepsMessages, hTask, if_neg hKept, hCovered]
      exact keeps_iff h.nodup h.fresh (h.asked asked hTask) (by omega)
    · rcases List.mem_append.mp hm with hFirst | hRest
      · exact Nat.lt_succ_of_lt (h.older m (mem_of_firstSystemMsg (Option.mem_toList.mp hFirst)))
      · rcases List.mem_cons.mp hRest with rfl | hRecent
        · exact Nat.lt_succ_self _
        · exact Nat.lt_succ_of_lt (h.older m (List.mem_of_mem_drop hRecent))
    · exact newMessages_nodup h.nodup h.fresh (hCovered.mp hCov)

theorem step_keeps_iff (event : Event) (h : s.WellFormed) (hStep : (sessions template).step s event = some next) :
    (KeepsMessages s event next ↔ Covered s event) ∧ (Covered s event → next.WellFormed) := by
  cases event with
  | append isDict role content =>
    obtain rfl := Option.some.inj hStep
    exact ⟨iff_of_true (List.prefix_append _ _) trivial, fun _ => h.append isDict role content⟩
  | setNode nodeId =>
    obtain rfl := Option.some.inj hStep
    exact ⟨iff_of_true List.prefix_rfl trivial, fun _ => h.of_messages rfl rfl h.asked⟩
  | entered previousNodeId raised =>
    obtain ⟨-, ⟨⟩⟩ := Option.ite_none_right_eq_some.mp hStep
    simp only [Session.entered]
    split
    · exact ⟨iff_of_true List.prefix_rfl trivial, fun _ => h.of_messages rfl rfl nofun⟩
    · exact ⟨iff_of_true List.prefix_rfl trivial, fun _ => h.of_messages rfl rfl h.asked⟩
  | summarize =>
    obtain ⟨-, ⟨⟩⟩ := Option.ite_none_right_eq_some.mp hStep
    refine ⟨iff_of_true List.prefix_rfl trivial, fun _ => h.of_messages rfl rfl fun asked hAsked => ?_⟩
    obtain ⟨-, hAsked⟩ := Option.ite_none_left_eq_some.mp hAsked
    exact Task.generating.inj (Option.some.inj hAsked) ▸ List.prefix_rfl
  | summarized summaryText lastIndex =>
    simp only [sessions] at hStep
    split at hStep
    case h_1 asked hTask =>
      obtain ⟨hIndex, ⟨⟩⟩ := Option.ite_none_right_eq_some.mp hStep
      exact summarized_step h hTask hIndex
    case h_2 => exact nomatch hStep
  | fail =>
    obtain ⟨-, ⟨⟩⟩ := Option.ite_none_right_eq_some.mp hStep
    exact ⟨iff_of_true List.prefix_rfl trivial, fun _ => h.of_messages rfl rfl nofun⟩
  | cleanup =>
    obtain rfl := Option.some.inj hStep
    exact ⟨iff_of_true List.prefix_rfl trivial, fun _ => h.of_messages rfl rfl nofun⟩

/-- From a context of distinct messages, each step keeps what it must exactly if no summary leaves the first system
message behind its index. -/
theorem summaries_keep_iff (template : String → String) {s last : Session} {events : List Event}
    (hOlder : ∀ m ∈ s.messages, m.id < s.nextId) (hNodup : s.messages.Nodup) (hTask : s.task = none)
    (hRun : (sessions template).run s events = some last) :
    (sessions template).EachStep KeepsMessages s events ↔ (sessions template).Follows Covered s events :=
  Machine.eachStep_iff_of_allowed (fun _ event _ hWell hStep => step_keeps_iff event hWell hStep) hRun
    ⟨hOlder, hNodup, fun _ h => nomatch hTask.symm.trans h⟩

def seven : Session where
  messages := (List.range 7).map fun id => ⟨id, true, some "user", "Yes."⟩
  nextId := 7
  task := none
  summarizes := true
  currentNode := some "greeting"
  entering := []

def spokenMeanwhile : List Event :=
  [.setNode "offer", .entered (some "greeting") false, .summarize, .append true (some "user") "No.",
    .summarized "The user agreed." 4]

theorem summaries_keep_iff_spokenMeanwhile :
    (sessions ("Conversation summary: " ++ ·)).EachStep KeepsMessages seven spokenMeanwhile :=
  (summaries_keep_iff ("Conversation summary: " ++ ·) (by decide) (by decide) rfl rfl).mpr (by decide +kernel)

def instructedMeanwhile : List Event :=
  [.setNode "offer", .entered (some "greeting") false, .summarize, .append true (some "system") "Be brief.",
    .summarized "The user agreed." 4]

theorem system_message_doubled :
    ∃ last, (sessions ("Conversation summary: " ++ ·)).run seven instructedMeanwhile = some last ∧
      last.messages.count ⟨7, true, some "system", "Be brief."⟩ = 2 ∧
      ¬(sessions ("Conversation summary: " ++ ·)).EachStep KeepsMessages seven instructedMeanwhile := by
  refine ⟨_, rfl, by decide +kernel, fun h => ?_⟩
  have hKept := (h _ rfl).2 _ rfl |>.2 _ rfl |>.2 _ rfl |>.2 _ rfl |>.1
  have hOnce := hKept.firstSystem ⟨7, true, some "system", "Be brief."⟩ (by decide +kernel)
  exact absurd hOnce (by decide +kernel)

end FastVoice.Engine.ContextSummarization
