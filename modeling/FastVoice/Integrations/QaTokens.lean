import Mathlib.Algebra.GroupWithZero.Nat
import FastVoice.Python.Json
import FastVoice.Runtime.Dict

/-! # Tokens of quality analyses

The tokens of each analysis are added to the usage document under its model. The dict of the first analysis of a model
becomes the entry of the model, so that what is added to the entry is added to the result of that analysis too.
-/
namespace FastVoice.Integrations
open Python

/-! ## Results -/

abbrev Tokens := Dict String (Option Nat)

def Tokens.count (tokens : Tokens) (field : String) : Nat := (tokens.lookup field).join.getD 0

structure Result where
  tokenUsage : Tokens
  model : String
  details : Json

inductive QaRun
  | invalid
  | disabled
  | skipped (reason : String)
  | analysed (result : Result)
  | failed (error : String)

def QaRun.result : QaRun → Option Result
  | .invalid => some ⟨∅, "", .obj [("error", .str "validation_failed")]⟩
  | .disabled => none
  | .skipped reason => some ⟨∅, "", .obj [("skipped", .bool true), ("reason", .str reason)]⟩
  | .analysed result => some result
  | .failed error => some ⟨∅, "", .obj [("error", .str error)]⟩

def setResult (results : List (String × Result)) (key : String) (result : Result) : List (String × Result) :=
  if key ∈ results.map (·.1) then results.map fun entry => if entry.1 = key then (key, result) else entry
  else results ++ [(key, result)]

def runQaNodes (nodes : List (String × QaRun)) : List (String × Result) :=
  nodes.foldl (fun results node =>
    match node.2.result with
    | some result => setResult results ("qa_" ++ node.1) result
    | none => results) []

/-! ## The usage document -/

structure Usage where
  llm : Dict String Tokens
  others : Dict String Json

def Usage.count (usage : Usage) (key field : String) : Nat := ((usage.llm.lookup key).map (·.count field)).getD 0

def countedFields : List String :=
  ["prompt_tokens", "completion_tokens", "total_tokens", "cache_read_input_tokens"]

def accumulate (existing tokens : Tokens) : Tokens :=
  countedFields.foldl (fun sum field => sum.insert field (some (sum.count field + tokens.count field))) existing

def usageKey (model : String) : String := "QAAnalysis|||" ++ model

def Result.isCounted (result : Result) : Bool := result.tokenUsage ≠ ∅ && result.model ≠ ""

/-- An entry of the document, and the node whose result holds the same dict. -/
structure Entry where
  owner : Option String
  tokens : Tokens

def addResult (llm : Dict String Entry) (node : String × Result) : Dict String Entry :=
  if node.2.isCounted then
    match llm.lookup (usageKey node.2.model) with
    | some entry =>
      llm.insert (usageKey node.2.model) { entry with tokens := accumulate entry.tokens node.2.tokenUsage }
    | none => llm.insert (usageKey node.2.model) ⟨some node.1, node.2.tokenUsage⟩
  else llm

def addResults (stored : Dict String Tokens) (results : List (String × Result)) : Dict String Entry :=
  results.foldl addResult (stored.mapValues fun tokens => ⟨none, tokens⟩)

def resultLeft (llm : Dict String Entry) (node : String × Result) : Result :=
  match llm.lookup (usageKey node.2.model) with
  | some ⟨some owner, tokens⟩ => if owner = node.1 then { node.2 with tokenUsage := tokens } else node.2
  | _ => node.2

def updateUsageInfoWithQaTokens (usage : Usage) (results : List (String × Result)) :
    Usage × List (String × Result) :=
  let llm := addResults usage.llm results
  (⟨llm.mapValues (·.tokens), usage.others⟩, results.map fun node => (node.1, resultLeft llm node))

/-! ## What is counted -/

def ofModel (key : String) (results : List (String × Result)) : List (String × Result) :=
  results.filter fun node => node.2.isCounted && usageKey node.2.model = key

def total (field : String) (nodes : List (String × Result)) : Nat :=
  (nodes.map fun node => node.2.tokenUsage.count field).sum

def gathered (key field : String) (results : List (String × Result)) : Nat := total field (ofModel key results)

def gained (stored : Dict String Tokens) (key field : String) (results : List (String × Result)) : Nat :=
  if field ∈ countedFields then gathered key field results
  else if (stored.lookup key).isSome then 0
  else total field (ofModel key results).head?.toList

/-- Behind the first result of a model nothing is counted, and where the document has an entry of the model only the
fields that are added up are. -/
def Unmixed (stored : Dict String Tokens) (results : List (String × Result)) : Prop :=
  ∀ key, if (stored.lookup key).isSome
    then ∀ node ∈ ofModel key results, ∀ field ∉ countedFields, node.2.tokenUsage.count field = 0
    else ∀ node ∈ (ofModel key results).tail, ∀ field, node.2.tokenUsage.count field = 0

def SameTokens (left own : Result) : Prop := ∀ field, left.tokenUsage.count field = own.tokenUsage.count field

theorem Tokens.count_insert (tokens : Tokens) (name field : String) (value : Option Nat) :
    Tokens.count (tokens.insert name value) field = if field = name then value.getD 0 else tokens.count field := by
  rw [Tokens.count, Dict.lookup_insert_if]
  split <;> rfl

theorem count_accumulate (existing tokens : Tokens) (field : String) :
    (accumulate existing tokens).count field =
      existing.count field + if field ∈ countedFields then tokens.count field else 0 := by
  have hFold (fields : List String) (hFields : fields.Nodup) (sum : Tokens) :
      Tokens.count (fields.foldl (fun sum field =>
        sum.insert field (some (sum.count field + tokens.count field))) sum) field =
        sum.count field + if field ∈ fields then tokens.count field else 0 := by
    induction fields generalizing sum with
    | nil => rfl
    | cons name fields ih =>
      obtain ⟨hName, hFields⟩ := List.nodup_cons.mp hFields
      rw [List.foldl_cons, ih hFields, Tokens.count_insert]
      by_cases hHere : field = name
      · rw [if_pos hHere, if_neg (hHere ▸ hName), if_pos (hHere ▸ List.mem_cons_self), hHere]
        rfl
      · rw [if_neg hHere]
        simp only [List.mem_cons, hHere, false_or]
  exact hFold countedFields (by decide) existing

theorem total_cons (field : String) (node : String × Result) (nodes : List (String × Result)) :
    total field (node :: nodes) = node.2.tokenUsage.count field + total field nodes := rfl

theorem total_eq_zero_iff {field : String} {nodes : List (String × Result)} :
    total field nodes = 0 ↔ ∀ node ∈ nodes, node.2.tokenUsage.count field = 0 := by
  induction nodes with
  | nil => exact iff_of_true rfl nofun
  | cons node nodes ih => rw [total_cons, Nat.add_eq_zero_iff, ih, List.forall_mem_cons]

def accumulateAll (tokens : Tokens) (nodes : List (String × Result)) : Tokens :=
  nodes.foldl (fun sum node => accumulate sum node.2.tokenUsage) tokens

theorem count_accumulateAll (field : String) (nodes : List (String × Result)) : ∀ tokens : Tokens,
    (accumulateAll tokens nodes).count field =
      tokens.count field + if field ∈ countedFields then total field nodes else 0 := by
  induction nodes with
  | nil =>
    intro tokens
    rw [total, List.map_nil, List.sum_nil, ite_self]
    rfl
  | cons node nodes ih =>
    intro tokens
    rw [accumulateAll, List.foldl_cons, ← accumulateAll, ih, count_accumulate, total_cons]
    split
    · exact Nat.add_assoc _ _ _
    · rfl

/-! ## Entries of a model -/

def entryOf : Option Entry → List (String × Result) → Option Entry
  | some entry, nodes => some { entry with tokens := accumulateAll entry.tokens nodes }
  | none, [] => none
  | none, node :: nodes => some ⟨some node.1, accumulateAll node.2.tokenUsage nodes⟩

theorem lookup_addResult (llm : Dict String Entry) (node : String × Result) (key : String) :
    (addResult llm node).lookup key = entryOf (llm.lookup key) (ofModel key [node]) := by
  have hNil : llm.lookup key = entryOf (llm.lookup key) [] := by cases llm.lookup key <;> rfl
  unfold addResult
  cases hCounted : node.2.isCounted with
  | false =>
    rw [if_neg Bool.false_ne_true, ofModel, List.filter_cons_of_neg (by simp [hCounted])]
    exact hNil
  | true =>
    rw [if_pos rfl]
    by_cases hKey : key = usageKey node.2.model
    · subst hKey
      rw [ofModel, List.filter_cons_of_pos (by simp [hCounted])]
      cases hEntry : llm.lookup (usageKey node.2.model) <;> exact AList.lookup_insert _
    · rw [ofModel, List.filter_cons_of_neg (by simpa [hCounted] using fun h => hKey h.symm), List.filter_nil, ← hNil]
      cases hEntry : llm.lookup (usageKey node.2.model) <;> exact AList.lookup_insert_ne hKey

theorem entryOf_append (entry : Option Entry) (nodes more : List (String × Result)) :
    entryOf (entryOf entry nodes) more = entryOf entry (nodes ++ more) := by
  cases entry with
  | some entry => simp [entryOf, accumulateAll, List.foldl_append]
  | none =>
    cases nodes with
    | nil => rfl
    | cons node nodes => simp [entryOf, accumulateAll, List.foldl_append]

theorem lookup_foldl_addResult (key : String) (results : List (String × Result)) : ∀ llm : Dict String Entry,
    (results.foldl addResult llm).lookup key = entryOf (llm.lookup key) (ofModel key results) := by
  induction results with
  | nil =>
    intro llm
    cases h : llm.lookup key <;> simp [h, entryOf, ofModel, accumulateAll]
  | cons node results ih =>
    intro llm
    rw [List.foldl_cons, ih, lookup_addResult, entryOf_append, ofModel, ofModel, ofModel, ← List.filter_append]
    rfl

theorem lookup_addResults (stored : Dict String Tokens) (results : List (String × Result)) (key : String) :
    (addResults stored results).lookup key =
      entryOf ((stored.lookup key).map fun tokens => ⟨none, tokens⟩) (ofModel key results) := by
  rw [addResults, lookup_foldl_addResult, Dict.lookup_mapValues]

/-! ## Totals -/

theorem count_updateUsageInfo (usage : Usage) (results : List (String × Result)) (key field : String) :
    (updateUsageInfoWithQaTokens usage results).1.count key field =
      usage.count key field + gained usage.llm key field results := by
  rw [updateUsageInfoWithQaTokens, Usage.count, Dict.lookup_mapValues, lookup_addResults, Usage.count, gained, gathered]
  cases hStored : usage.llm.lookup key with
  | some tokens =>
    simp only [Option.map_some, entryOf, Option.getD_some, count_accumulateAll, Option.isSome_some, if_true]
  | none =>
    cases hNodes : ofModel key results with
    | nil => simp [entryOf, total]
    | cons node nodes =>
      simp only [Option.map_none, entryOf, Option.map_some, Option.getD_some, count_accumulateAll, Option.getD_none,
        Option.isSome_none, Bool.false_eq_true, if_false, List.head?_cons, Option.toList_some, Nat.zero_add]
      split <;> simp [total]

theorem gained_le (stored : Dict String Tokens) (key field : String) (results : List (String × Result)) :
    gained stored key field results ≤ gathered key field results := by
  unfold gained
  split
  · exact Nat.le_refl _
  · split
    · exact Nat.zero_le _
    · rw [gathered]
      cases ofModel key results with
      | nil => exact Nat.zero_le _
      | cons node nodes => simp [total]

/-! ## Whose tokens a result carries -/

section

variable {stored : Dict String Tokens} {results : List (String × Result)}

theorem mem_of_mem_ofModel {key : String} {node : String × Result} (h : node ∈ ofModel key results) :
    node ∈ results ∧ node.2.isCounted = true ∧ usageKey node.2.model = key := by
  obtain ⟨hMem, hNode⟩ := List.mem_filter.mp h
  simpa [hMem] using hNode

theorem resultLeft_of_stored {node : String × Result} (h : (stored.lookup (usageKey node.2.model)).isSome = true) :
    resultLeft (addResults stored results) node = node.2 := by
  obtain ⟨tokens, hTokens⟩ := Option.isSome_iff_exists.mp h
  rw [resultLeft, lookup_addResults, hTokens]
  rfl

theorem resultLeft_of_first {node : String × Result} {rest : List (String × Result)}
    (h : (stored.lookup (usageKey node.2.model)).isSome = false)
    (hFirst : ofModel (usageKey node.2.model) results = node :: rest) :
    resultLeft (addResults stored results) node =
      { node.2 with tokenUsage := accumulateAll node.2.tokenUsage rest } := by
  rw [resultLeft, lookup_addResults, Option.not_isSome_iff_eq_none.mp (Bool.eq_false_iff.mp h), hFirst]
  exact if_pos rfl

theorem resultLeft_of_later (hDistinct : (results.map (·.1)).Nodup) {node : String × Result} (hNode : node ∈ results)
    (h : (stored.lookup (usageKey node.2.model)).isSome = false)
    (hLater : (ofModel (usageKey node.2.model) results).head? ≠ some node) :
    resultLeft (addResults stored results) node = node.2 := by
  rw [resultLeft, lookup_addResults, Option.not_isSome_iff_eq_none.mp (Bool.eq_false_iff.mp h)]
  cases hNodes : ofModel (usageKey node.2.model) results with
  | nil => rfl
  | cons first rest =>
    have hFirst := (mem_of_mem_ofModel (hNodes ▸ List.mem_cons_self : first ∈ ofModel _ results)).1
    refine if_neg fun hOwner => hLater ?_
    rw [hNodes, List.head?_cons, List.inj_on_of_nodup_map hDistinct hFirst hNode hOwner]

theorem unmixed_iff (hDistinct : (results.map (·.1)).Nodup) :
    ((∀ key field, gained stored key field results = gathered key field results) ∧
      ∀ node ∈ results, SameTokens (resultLeft (addResults stored results) node) node.2) ↔ Unmixed stored results := by
  constructor
  · rintro ⟨hTotals, hResults⟩ key
    cases hStored : (stored.lookup key).isSome with
    | true =>
      intro node hNode field hField
      have hTotal := hTotals key field
      rw [gained, if_neg hField, hStored, if_pos rfl, gathered] at hTotal
      exact total_eq_zero_iff.mp hTotal.symm node hNode
    | false =>
      intro node hNode field
      cases hNodes : ofModel key results with
      | nil =>
        rw [hNodes] at hNode
        exact nomatch hNode
      | cons first rest =>
        have hMem : first ∈ ofModel key results := hNodes ▸ List.mem_cons_self
        obtain ⟨hFirst, -, hKey⟩ := mem_of_mem_ofModel hMem
        rw [hNodes, List.tail_cons] at hNode
        refine total_eq_zero_iff.mp ?_ node hNode
        by_cases hField : field ∈ countedFields
        · have hLeft := hResults first hFirst field
          rw [resultLeft_of_first (hKey ▸ hStored) (hKey ▸ hNodes), count_accumulateAll, if_pos hField] at hLeft
          omega
        · have hTotal := hTotals key field
          rw [gained, if_neg hField, hStored, if_neg Bool.false_ne_true, gathered, hNodes, List.head?_cons,
            Option.toList_some, total_cons, total_cons] at hTotal
          change _ + 0 = _ at hTotal
          omega
  · intro h
    constructor
    · intro key field
      have hKey := h key
      rw [gained]
      split
      · rfl
      · rename_i hField
        cases hStored : (stored.lookup key).isSome with
        | true =>
          rw [hStored, if_pos rfl] at hKey
          exact (total_eq_zero_iff.mpr fun node hNode => hKey node hNode field hField).symm
        | false =>
          rw [hStored, if_neg Bool.false_ne_true] at hKey
          rw [if_neg Bool.false_ne_true, gathered]
          cases hNodes : ofModel key results with
          | nil => rfl
          | cons first rest =>
            rw [hNodes, List.tail_cons] at hKey
            have hRest := total_eq_zero_iff.mpr fun node hNode => hKey node hNode field
            rw [total_cons, hRest]
            rfl
    · intro node hNode field
      have hKey := h (usageKey node.2.model)
      cases hStored : (stored.lookup (usageKey node.2.model)).isSome with
      | true => rw [resultLeft_of_stored hStored]
      | false =>
        rw [hStored, if_neg Bool.false_ne_true] at hKey
        by_cases hFirst : (ofModel (usageKey node.2.model) results).head? = some node
        · obtain ⟨rest, hNodes⟩ := List.head?_eq_some_iff.mp hFirst
          rw [hNodes, List.tail_cons] at hKey
          rw [resultLeft_of_first hStored hNodes, count_accumulateAll,
            total_eq_zero_iff.mpr fun other hOther => hKey other hOther field, ite_self, Nat.add_zero]
        · rw [resultLeft_of_later hDistinct hNode hStored hFirst]

end

/-! ## Nodes of one id -/

def analyses (nodes : List (String × QaRun)) : List (String × Result) :=
  nodes.filterMap fun node =>
    match node.2 with
    | .analysed result => some (node.1, result)
    | _ => none

def performed (key field : String) (nodes : List (String × QaRun)) : Nat := gathered key field (analyses nodes)

def Result.CountsNothing (result : Result) : Prop :=
  result.isCounted = true → ∀ field, result.tokenUsage.count field = 0

/-- A node that leaves a result behind has the id of no earlier analysis that counts. -/
def NoneOverwritten (nodes : List (String × QaRun)) : Prop :=
  ∀ earlier node later, nodes = earlier ++ node :: later → node.2.result.isSome = true →
    ∀ analysis ∈ analyses earlier, analysis.1 = node.1 → analysis.2.CountsNothing

def weight (key field : String) (result : Result) : Nat :=
  if result.isCounted && usageKey result.model = key then result.tokenUsage.count field else 0

def resultAt (results : List (String × Result)) (key : String) : Option Result :=
  (results.find? fun node => node.1 = key).map (·.2)

section

variable {results : List (String × Result)} {nodes : List (String × QaRun)}

theorem gathered_cons (key field : String) (node : String × Result) (results : List (String × Result)) :
    gathered key field (node :: results) = weight key field node.2 + gathered key field results := by
  rw [gathered, ofModel, List.filter_cons, weight]
  split
  · rfl
  · rw [Nat.zero_add]
    rfl

theorem gathered_append (key field : String) (results more : List (String × Result)) :
    gathered key field (results ++ more) = gathered key field results + gathered key field more := by
  rw [gathered, ofModel, List.filter_append, total, List.map_append, List.sum_append]
  rfl

theorem countsNothing_iff {result : Result} :
    result.CountsNothing ↔ ∀ key field, weight key field result = 0 := by
  constructor
  · intro h key field
    rw [weight]
    split
    case isTrue hCounted => exact h (Bool.and_eq_true _ _ ▸ hCounted).1 field
    case isFalse => rfl
  · intro h hCounted field
    have hWeight := h (usageKey result.model) field
    rwa [weight, if_pos (by simp [hCounted])] at hWeight

theorem setResult_cons (node : String × Result) (results : List (String × Result)) (key : String) (result : Result)
    (hDistinct : ((node :: results).map (·.1)).Nodup) : setResult (node :: results) key result =
      if node.1 = key then (key, result) :: results else node :: setResult results key result := by
  have hNode : node.1 ∉ results.map (·.1) := (List.nodup_cons.mp hDistinct).1
  unfold setResult
  by_cases hKey : node.1 = key
  · rw [if_pos (hKey ▸ List.mem_cons_self), if_pos hKey, List.map_cons, if_pos hKey]
    refine congrArg _ ((List.map_congr_left fun other hOther => if_neg fun hSame => hNode ?_).trans (List.map_id _))
    exact List.mem_map.mpr ⟨other, hOther, hSame.trans hKey.symm⟩
  · have hMem : key ∈ (node :: results).map (·.1) ↔ key ∈ results.map (·.1) :=
      List.mem_cons.trans (or_iff_right fun h => hKey h.symm)
    rw [if_neg hKey]
    by_cases hLater : key ∈ results.map (·.1)
    · rw [if_pos hLater, if_pos (hMem.mpr hLater), List.map_cons, if_neg hKey]
    · rw [if_neg hLater, if_neg fun h => hLater (hMem.mp h), List.cons_append]

theorem keys_setResult (results : List (String × Result)) (key : String) (result : Result) :
    (setResult results key result).map (·.1) =
      if key ∈ results.map (·.1) then results.map (·.1) else results.map (·.1) ++ [key] := by
  unfold setResult
  split
  · rw [List.map_map]
    refine List.map_congr_left fun node _ => ?_
    rw [Function.comp_apply]
    split
    case isTrue hKey => exact hKey.symm
    case isFalse => rfl
  · exact List.map_append

theorem distinct_setResult (h : (results.map (·.1)).Nodup) (key : String) (result : Result) :
    ((setResult results key result).map (·.1)).Nodup := by
  rw [keys_setResult]
  split
  · exact h
  case isFalse hNew =>
    refine List.nodup_append.mpr ⟨h, List.nodup_singleton _, fun name hName other hOther hSame => hNew ?_⟩
    rwa [← List.mem_singleton.mp hOther, ← hSame]

theorem resultAt_cons (node : String × Result) (results : List (String × Result)) (key : String) :
    resultAt (node :: results) key = if node.1 = key then some node.2 else resultAt results key := by
  rw [resultAt, List.find?_cons]
  by_cases hKey : node.1 = key
  · simp [hKey]
  · simp [hKey, resultAt]

theorem gathered_setResult (hDistinct : (results.map (·.1)).Nodup) (name : String) (result : Result)
    (key field : String) : gathered key field (setResult results name result) +
      (resultAt results name).elim 0 (weight key field) = gathered key field results + weight key field result := by
  induction results with
  | nil => exact (gathered_cons key field (name, result) []).trans (Nat.add_comm _ _)
  | cons node results ih =>
    rw [setResult_cons _ _ _ _ hDistinct, resultAt_cons]
    by_cases hName : node.1 = name
    · rw [if_pos hName, if_pos hName, gathered_cons, gathered_cons, Option.elim_some]
      dsimp only
      omega
    · rw [if_neg hName, if_neg hName, gathered_cons, gathered_cons, Nat.add_assoc,
        ih (List.nodup_cons.mp hDistinct).2, Nat.add_assoc]

theorem resultAt_setResult (hDistinct : (results.map (·.1)).Nodup) (name : String) (result : Result)
    (key : String) : resultAt (setResult results name result) key =
      if name = key then some result else resultAt results key := by
  induction results with
  | nil => exact resultAt_cons (name, result) [] key
  | cons node results ih =>
    have hRest := ih (List.nodup_cons.mp hDistinct).2
    rw [setResult_cons _ _ _ _ hDistinct, resultAt_cons]
    by_cases hName : node.1 = name
    · rw [if_pos hName, resultAt_cons, hName]
      split <;> rfl
    · rw [if_neg hName, resultAt_cons, hRest]
      by_cases hKey : node.1 = key
      · rw [if_pos hKey, if_neg fun h => hName (hKey.trans h.symm), if_pos hKey]
      · rw [if_neg hKey, if_neg hKey]

/-! ## All nodes -/

theorem runQaNodes_append (nodes : List (String × QaRun)) (node : String × QaRun) :
    runQaNodes (nodes ++ [node]) = match node.2.result with
      | some result => setResult (runQaNodes nodes) ("qa_" ++ node.1) result
      | none => runQaNodes nodes := List.foldl_append

theorem distinct_runQaNodes (nodes : List (String × QaRun)) : ((runQaNodes nodes).map (·.1)).Nodup := by
  induction nodes using List.reverseRecOn with
  | nil => exact List.nodup_nil
  | append_singleton nodes node ih =>
    rw [runQaNodes_append]
    cases node.2.result with
    | none => exact ih
    | some result => exact distinct_setResult ih _ _

theorem weight_result (key field : String) (node : String × QaRun) :
    gathered key field (analyses [node]) = (node.2.result.elim 0 (weight key field)) := by
  obtain ⟨id, outcome⟩ := node
  cases outcome with
  | analysed result => exact gathered_cons key field (id, result) []
  | invalid => rfl
  | disabled => rfl
  | skipped reason => rfl
  | failed error => rfl

theorem analyses_append (nodes : List (String × QaRun)) (node : String × QaRun) :
    analyses (nodes ++ [node]) = analyses nodes ++ analyses [node] := List.filterMap_append

theorem gathered_runQaNodes_append (nodes : List (String × QaRun)) (node : String × QaRun) (key field : String) :
    gathered key field (runQaNodes (nodes ++ [node])) + (if node.2.result.isSome then
      (resultAt (runQaNodes nodes) ("qa_" ++ node.1)).elim 0 (weight key field) else 0) +
      performed key field nodes =
      gathered key field (runQaNodes nodes) + performed key field (nodes ++ [node]) := by
  rw [runQaNodes_append, performed, performed, analyses_append, gathered_append, weight_result]
  cases node.2.result with
  | none => simp
  | some result =>
    have hSet := gathered_setResult (distinct_runQaNodes nodes) ("qa_" ++ node.1) result key field
    simp only [Option.isSome_some, if_true, Option.elim_some]
    omega

theorem gathered_le_performed (nodes : List (String × QaRun)) (key field : String) :
    gathered key field (runQaNodes nodes) ≤ performed key field nodes := by
  induction nodes using List.reverseRecOn with
  | nil => exact Nat.le_refl _
  | append_singleton nodes node ih =>
    have hStep := gathered_runQaNodes_append nodes node key field
    omega

theorem noneOverwritten_append {node : String × QaRun} : NoneOverwritten (nodes ++ [node]) ↔
    NoneOverwritten nodes ∧ (node.2.result.isSome = true →
      ∀ analysis ∈ analyses nodes, analysis.1 = node.1 → analysis.2.CountsNothing) := by
  constructor
  · intro h
    refine ⟨fun earlier other later hNodes => h earlier other (later ++ [node]) ?_, h nodes node [] rfl⟩
    rw [hNodes, List.append_assoc, List.cons_append]
  · rintro ⟨hBefore, hHere⟩ earlier other later hNodes
    obtain rfl | ⟨rest, last, rfl⟩ := List.eq_nil_or_concat' later
    · obtain ⟨rfl, hLast⟩ := List.append_inj' hNodes rfl
      exact (List.cons.inj hLast).1 ▸ hHere
    · rw [← List.cons_append, ← List.append_assoc] at hNodes
      exact hBefore earlier other rest (List.append_inj' hNodes rfl).1

theorem qa_inj {id id' : String} : "qa_" ++ id = "qa_" ++ id' ↔ id = id' :=
  ⟨fun h => String.append_right_inj _ |>.mp h, congrArg _⟩

theorem mem_analyses_append {node : String × QaRun} {analysis : String × Result}
    (h : analysis ∈ analyses (nodes ++ [node])) : analysis ∈ analyses nodes ∨
      node.1 = analysis.1 ∧ node.2.result = some analysis.2 := by
  rw [analyses_append, List.mem_append] at h
  refine h.imp_right fun hHere => ?_
  obtain ⟨id, outcome⟩ := node
  cases outcome with
  | analysed result =>
    cases List.mem_singleton.mp hHere
    exact ⟨rfl, rfl⟩
  | invalid => exact nomatch hHere
  | disabled => exact nomatch hHere
  | skipped reason => exact nomatch hHere
  | failed error => exact nomatch hHere

theorem resultAt_runQaNodes_append (nodes : List (String × QaRun)) (node : String × QaRun) (id : String) :
    resultAt (runQaNodes (nodes ++ [node])) ("qa_" ++ id) =
      if node.1 = id then node.2.result.or (resultAt (runQaNodes nodes) ("qa_" ++ id))
      else resultAt (runQaNodes nodes) ("qa_" ++ id) := by
  rw [runQaNodes_append]
  cases node.2.result with
  | none => simp
  | some result =>
    dsimp only
    rw [resultAt_setResult (distinct_runQaNodes nodes)]
    simp only [qa_inj, Option.some_or]

theorem analysis_left (h : NoneOverwritten nodes) : ∀ analysis ∈ analyses nodes,
    resultAt (runQaNodes nodes) ("qa_" ++ analysis.1) = some analysis.2 ∨ analysis.2.CountsNothing := by
  induction nodes using List.reverseRecOn with
  | nil => exact nofun
  | append_singleton nodes node ih =>
    obtain ⟨hBefore, hHere⟩ := noneOverwritten_append.mp h
    intro analysis hAnalysis
    rw [resultAt_runQaNodes_append]
    obtain hEarlier | ⟨hId, hResult⟩ := mem_analyses_append hAnalysis
    · by_cases hId : node.1 = analysis.1
      · rw [if_pos hId]
        cases hResult : node.2.result with
        | none => simpa using ih hBefore analysis hEarlier
        | some result => exact .inr (hHere (hResult ▸ rfl) analysis hEarlier hId.symm)
      · rw [if_neg hId]
        exact ih hBefore analysis hEarlier
    · rw [if_pos hId, hResult, Option.some_or]
      exact .inl rfl

theorem left_analysis {id : String} {result : Result} (h : resultAt (runQaNodes nodes) ("qa_" ++ id) = some result) :
    (id, result) ∈ analyses nodes ∨ result.CountsNothing := by
  induction nodes using List.reverseRecOn with
  | nil => exact nomatch h
  | append_singleton nodes node ih =>
    rw [resultAt_runQaNodes_append] at h
    rw [analyses_append, List.mem_append]
    by_cases hId : node.1 = id
    · rw [if_pos hId] at h
      obtain hHere | ⟨-, hBefore⟩ := Option.or_eq_some_iff.mp h
      · obtain ⟨name, outcome⟩ := node
        subst hId
        cases outcome with
        | analysed other =>
          cases hHere
          exact .inl (.inr (List.mem_singleton.mpr rfl))
        | disabled => exact nomatch hHere
        | invalid =>
          cases hHere
          exact .inr nofun
        | skipped reason =>
          cases hHere
          exact .inr nofun
        | failed error =>
          cases hHere
          exact .inr nofun
      · exact (ih hBefore).imp_left .inl
    · rw [if_neg hId] at h
      exact (ih h).imp_left .inl

theorem noneOverwritten_iff : (∀ key field, gathered key field (runQaNodes nodes) = performed key field nodes) ↔
    NoneOverwritten nodes := by
  induction nodes using List.reverseRecOn with
  | nil => exact iff_of_true (fun _ _ => rfl) fun earlier node later h => absurd h (by simp)
  | append_singleton nodes node ih =>
    rw [noneOverwritten_append, ← ih]
    have hStep (key field : String) := gathered_runQaNodes_append nodes node key field
    have hLe (key field : String) := gathered_le_performed nodes key field
    constructor
    · intro h
      have hBefore (key field : String) : gathered key field (runQaNodes nodes) = performed key field nodes := by
        have hHere := h key field
        have := hStep key field
        have := hLe key field
        omega
      refine ⟨hBefore, fun hSome analysis hAnalysis hId => ?_⟩
      obtain hLeft | hNothing := analysis_left (ih.mp hBefore) analysis hAnalysis
      · refine countsNothing_iff.mpr fun key field => ?_
        have hReplaced := hStep key field
        rw [h key field, hBefore key field, if_pos hSome, ← hId, hLeft, Option.elim_some] at hReplaced
        omega
      · exact hNothing
    · rintro ⟨hBefore, hHere⟩ key field
      have hReplaced := hStep key field
      rw [hBefore key field] at hReplaced
      suffices hNothing : (if node.2.result.isSome then
          (resultAt (runQaNodes nodes) ("qa_" ++ node.1)).elim 0 (weight key field) else 0) = 0 by
        omega
      split
      case isFalse => rfl
      case isTrue hSome =>
        cases hOld : resultAt (runQaNodes nodes) ("qa_" ++ node.1) with
        | none => rfl
        | some result =>
          obtain hAnalysis | hNothing := left_analysis hOld
          · exact countsNothing_iff.mp (hHere hSome _ hAnalysis rfl) key field
          · exact countsNothing_iff.mp hNothing key field

end

end FastVoice.Integrations
