import FastVoice.Integrations.QaTokens
import FastVoice.Runtime.Machine

/-! # Executions of the integrations of a run

Each execution reads the usage document, writes it back with the tokens of its analyses, and stores their results as
annotations. The executions of a run may overlap.
-/
namespace FastVoice.Integrations
open Python

structure RunState where
  usage : Usage
  /-- Each result beside that of its analysis. Nothing reads the second one. -/
  annotations : Dict String (Result × Result)
  reads : Dict Nat Usage
  pending : Dict Nat (List (String × Result × Result))
  /-- The analyses so far, the latest first. Nothing reads them. -/
  log : List (List (String × QaRun))

inductive Statement
  | read (execution : Nat)
  | account (execution : Nat) (nodes : List (String × QaRun))
  | annotate (execution : Nat)

/-- The analyses of an execution, and the document that it has read with their tokens. -/
def RunState.account (s : RunState) (execution : Nat) (usage : Usage) (nodes : List (String × QaRun)) : RunState :=
  let results := runQaNodes nodes
  if results.isEmpty then
    { s with reads := s.reads.erase execution, log := nodes :: s.log }
  else
    let (usage, left) := updateUsageInfoWithQaTokens usage results
    { s with
      usage := usage
      reads := s.reads.erase execution
      pending := s.pending.insert execution (List.zipWith (fun node own => (node.1, node.2, own.2)) left results)
      log := nodes :: s.log }

/-- `run_integrations_post_workflow_run` up to its annotations, a statement at a time. -/
def executions : Machine RunState Statement where
  step
    | s, .read execution => some { s with reads := s.reads.insert execution s.usage }
    | s, .account execution nodes =>
      (s.reads.lookup execution).map fun usage => s.account execution usage nodes
    | s, .annotate execution =>
      (s.pending.lookup execution).map fun results =>
        { s with annotations := Dict.extend s.annotations results, pending := s.pending.erase execution }

def RunState.start (usage : Usage) : RunState := ⟨usage, ∅, ∅, ∅, []⟩

structure Accurate (start : Usage) (s : RunState) : Prop where
  counted : ∀ key field, s.usage.count key field = start.count key field + (s.log.map (performed key field)).sum
  others : s.usage.others = start.others
  pending : ∀ execution results, s.pending.lookup execution = some results →
    ∀ node ∈ results, SameTokens node.2.1 node.2.2
  stored : ∀ name result, s.annotations.lookup name = some result → SameTokens result.1 result.2

/-- An execution adds its tokens to the document that it has read, no other one having added tokens since, and the
analyses of a model do not mix. -/
def Separate (s : RunState) : Statement → Prop
  | .account execution nodes =>
    NoneOverwritten nodes ∧ (runQaNodes nodes ≠ [] → ∀ usage, s.reads.lookup execution = some usage →
      (∀ key field, usage.count key field = s.usage.count key field) ∧ Unmixed usage.llm (runQaNodes nodes))
  | _ => True

def Behind (start : Usage) (s : RunState) : Prop :=
  ∀ execution usage, s.reads.lookup execution = some usage →
    (∀ key field, usage.count key field ≤ s.usage.count key field) ∧ usage.others = start.others

section

variable {start usage : Usage} {s next : RunState} {execution : Nat} {nodes : List (String × QaRun)}

theorem lookup_erase_some {κ ν : Type} [DecidableEq κ] {d : Dict κ ν} {name key : κ} {value : ν}
    (h : (d.erase name).lookup key = some value) : d.lookup key = some value := by
  by_cases hKey : key = name
  · subst hKey
    rw [AList.lookup_erase] at h
    cases h
  · rwa [AList.lookup_erase_ne hKey] at h

theorem mem_of_lookup_extend {κ ν : Type} [DecidableEq κ] {pairs : List (κ × ν)} {key : κ} {value : ν} :
    ∀ {d : Dict κ ν}, (d.extend pairs).lookup key = some value → (key, value) ∈ pairs ∨ d.lookup key = some value := by
  induction pairs with
  | nil => exact .inr
  | cons pair pairs ih =>
    intro d h
    obtain hLater | hHere := ih h
    · exact .inl (List.mem_cons_of_mem _ hLater)
    · rw [Dict.lookup_insert_if] at hHere
      split at hHere
      case isTrue hKey =>
        cases hHere
        exact .inl (hKey ▸ List.mem_cons_self)
      case isFalse => exact .inr hHere

theorem accurate_read (h : Accurate start s) (hBehind : Behind start s) :
    Accurate start { s with reads := s.reads.insert execution s.usage } ∧
      Behind start { s with reads := s.reads.insert execution s.usage } := by
  refine ⟨⟨h.counted, h.others, h.pending, h.stored⟩, fun other usage hRead => ?_⟩
  rw [Dict.lookup_insert_if] at hRead
  split at hRead
  · cases hRead
    exact ⟨fun _ _ => Nat.le_refl _, h.others⟩
  · exact hBehind other usage hRead

theorem accurate_annotate (h : Accurate start s) {results : List (String × Result × Result)}
    (hPending : s.pending.lookup execution = some results) : Accurate start { s with
      annotations := Dict.extend s.annotations results, pending := s.pending.erase execution } := by
  refine ⟨h.counted, h.others, fun other left hLeft => h.pending other left (lookup_erase_some hLeft),
    fun name result hResult => ?_⟩
  obtain hNew | hOld := mem_of_lookup_extend hResult
  · exact h.pending execution results hPending _ hNew
  · exact h.stored name result hOld

theorem left_same_iff {results : List (String × Result)} :
    (∀ node ∈ List.zipWith (fun node own => (node.1, node.2, own.2))
      (updateUsageInfoWithQaTokens usage results).2 results, SameTokens node.2.1 node.2.2) ↔
      ∀ node ∈ results, SameTokens (resultLeft (addResults usage.llm results) node) node.2 := by
  rw [updateUsageInfoWithQaTokens, List.zipWith_map_left, List.zipWith_self, List.forall_mem_map]

theorem accurate_empty_iff (h : Accurate start s) (hEmpty : runQaNodes nodes = []) :
    Accurate start { s with reads := s.reads.erase execution, log := nodes :: s.log } ↔ NoneOverwritten nodes := by
  rw [← noneOverwritten_iff, hEmpty]
  constructor
  · intro hNext key field
    have hBefore := h.counted key field
    have hAfter := hNext.counted key field
    rw [List.map_cons, List.sum_cons] at hAfter
    dsimp only at hAfter
    change 0 = _
    omega
  · intro hNone
    refine ⟨fun key field => ?_, h.others, h.pending, h.stored⟩
    have hNothing : 0 = performed key field nodes := hNone key field
    rw [List.map_cons, List.sum_cons, ← hNothing, Nat.zero_add]
    exact h.counted key field

theorem accurate_account_iff (h : Accurate start s) (hBehind : Behind start s)
    (hRead : s.reads.lookup execution = some usage) :
    Accurate start (s.account execution usage nodes) ↔ Separate s (.account execution nodes) := by
  obtain ⟨hOlder, hOthers⟩ := hBehind execution usage hRead
  have hSeparate : Separate s (.account execution nodes) ↔ NoneOverwritten nodes ∧ (runQaNodes nodes ≠ [] →
      (∀ key field, usage.count key field = s.usage.count key field) ∧ Unmixed usage.llm (runQaNodes nodes)) := by
    refine and_congr_right fun _ => imp_congr_right fun _ =>
      ⟨fun hAll => hAll usage hRead, fun hHere other hOther => ?_⟩
    cases hRead.symm.trans hOther
    exact hHere
  rw [hSeparate, RunState.account]
  by_cases hEmpty : runQaNodes nodes = []
  · rw [hEmpty]
    refine (accurate_empty_iff h hEmpty).trans (iff_self_and.mpr fun _ hSome => absurd rfl hSome)
  · simp only [List.isEmpty_iff, hEmpty, if_false, ne_eq, not_false_eq_true, true_imp_iff]
    have hGained (key field : String) := gained_le usage.llm key field (runQaNodes nodes)
    have hPerformed (key field : String) := gathered_le_performed nodes key field
    rw [← unmixed_iff (distinct_runQaNodes nodes), ← noneOverwritten_iff]
    constructor
    · rintro ⟨hCounted, -, hPending, -⟩
      have hExact (key field : String) : usage.count key field = s.usage.count key field ∧
          gained usage.llm key field (runQaNodes nodes) = gathered key field (runQaNodes nodes) ∧
          gathered key field (runQaNodes nodes) = performed key field nodes := by
        have hBefore := h.counted key field
        have hAfter := hCounted key field
        have hOld := hOlder key field
        have hFirst := hGained key field
        have hSecond := hPerformed key field
        rw [List.map_cons, List.sum_cons, count_updateUsageInfo] at hAfter
        omega
      refine ⟨fun key field => (hExact key field).2.2, fun key field => (hExact key field).1,
        fun key field => (hExact key field).2.1, ?_⟩
      exact left_same_iff.mp (hPending execution _ (AList.lookup_insert _))
    · rintro ⟨hNone, hSame, hTotals, hLeft⟩
      refine ⟨fun key field => ?_, hOthers, fun other results hResults => ?_, h.stored⟩
      · rw [List.map_cons, List.sum_cons, count_updateUsageInfo, hSame, hTotals, hNone, h.counted]
        omega
      · rw [Dict.lookup_insert_if] at hResults
        split at hResults
        · cases hResults
          exact left_same_iff.mpr hLeft
        · exact h.pending other results hResults

theorem behind_account (h : Accurate start s) (hBehind : Behind start s)
    (hNext : Accurate start (s.account execution usage nodes)) : Behind start (s.account execution usage nodes) := by
  have hReads : (s.account execution usage nodes).reads = s.reads.erase execution := by
    unfold RunState.account
    dsimp only
    split <;> rfl
  have hLog : (s.account execution usage nodes).log = nodes :: s.log := by
    unfold RunState.account
    dsimp only
    split <;> rfl
  intro other read hRead
  rw [hReads] at hRead
  obtain ⟨hOlder, hOthers⟩ := hBehind other read (lookup_erase_some hRead)
  refine ⟨fun key field => ?_, hOthers⟩
  have hOld := hOlder key field
  have hBefore := h.counted key field
  have hAfter := hNext.counted key field
  rw [hLog, List.map_cons, List.sum_cons] at hAfter
  omega

end

def analysisOf (model : String) (tokens : Nat) : QaRun :=
  .analysed ⟨Dict.ofPairs [("prompt_tokens", some tokens)], model, .null⟩

def unused : Usage := ⟨∅, ∅⟩

def separateModels : List Statement :=
  [.read 0, .account 0 [("1", analysisOf "gpt-4.1" 10), ("2", analysisOf "gpt-4o" 5)], .annotate 0]

def oneModel : List Statement :=
  [.read 0, .account 0 [("1", analysisOf "gpt-4.1" 10), ("2", analysisOf "gpt-4.1" 5)], .annotate 0]

def overlapping : List Statement :=
  [.read 0, .read 1, .account 0 [("1", analysisOf "gpt-4.1" 10)], .account 1 [("1", analysisOf "gpt-4.1" 10)],
    .annotate 0, .annotate 1]

end FastVoice.Integrations
