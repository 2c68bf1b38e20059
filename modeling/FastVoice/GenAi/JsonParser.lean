import FastVoice.Python.JsonLoads
import Mathlib.Data.List.Basic

/-! # JSON in the output of a model

`parse_llm_json` tries the whole text, then a fenced block, then the first braces, then the first brackets. The scan
for the bracket that closes goes along with the reader.
-/
namespace FastVoice.GenAi
open Python.Loads
open Python.Json (quote backslash)

/-! ## Brackets that match -/

structure Scan where
  depth : Int
  inString : Bool
  escapeNext : Bool

def Scan.step (kind : Kind) (scan : Scan) (c : Char) : Option Scan :=
  if scan.escapeNext = true then some { scan with escapeNext := false }
  else if c = backslash then some { scan with escapeNext := true }
  else if c = quote then some { scan with inString := !scan.inString }
  else if scan.inString = true then some scan
  else if c = kind.opening then some { scan with depth := scan.depth + 1 }
  else if c = kind.closing then
    if scan.depth - 1 = 0 then none else some { scan with depth := scan.depth - 1 }
  else some scan

def closingText (kind : Kind) : Scan → List Char → Option (List Char)
  | _, [] => none
  | scan, c :: rest =>
    match scan.step kind c with
    | none => some [c]
    | some next => (closingText kind next rest).map (c :: ·)

def tryParseJson (content : List Char) : Option Value := (loads content).filter (·.kind?.isSome)

/-- `_extract_json_object` and `_extract_json_array` differ in their brackets. -/
def extractJson (kind : Kind) (content : List Char) : Option Value :=
  let found := content.dropWhile (· ≠ kind.opening)
  if found = [] then none else (closingText kind ⟨0, false, false⟩ found).bind tryParseJson

def extractJsonObject : List Char → Option Value := extractJson .object

def extractJsonArray : List Char → Option Value := extractJson .array

/-! ## Fences -/

def fence : List Char := "```".toList

def afterFence : List Char → Option (List Char)
  | [] => none
  | c :: rest => if fence.isPrefixOf (c :: rest) then some ((c :: rest).drop 3) else afterFence rest

def beforeFence : List Char → Option (List Char)
  | [] => none
  | c :: rest => if fence.isPrefixOf (c :: rest) then some [] else (beforeFence rest).map (c :: ·)

def dropTag (content : List Char) : List Char :=
  if "json".toList.isPrefixOf content then content.drop 4 else content

/-- What the pattern of a code block finds, stripped. -/
def codeBlock (content : List Char) : Option (List Char) :=
  ((afterFence content).bind beforeFence).map fun block => Text.stripChars (dropTag block)

def codes (text : String) : List Nat := text.toList.map Char.toNat

def parseLlmJson (rawContent : List Char) : Value :=
  let content := Text.stripChars rawContent
  if content = [] then .obj []
  else
    (tryParseJson content <|> (codeBlock content).bind tryParseJson <|>
      extractJsonObject content <|> extractJsonArray content).getD
      (.obj [(codes "raw", .str (rawContent.map Char.toNat))])

/-! ## The scan goes along with the reader -/

section Simulation

variable {kind : Kind} {state state' : State} {c : Char} {stack : List Frame}

def kinds (stack : List Frame) : List Kind := stack.map Frame.kind

def inString : Mode → Bool
  | .str _ _ _ => true
  | _ => false

def escapeNext : Mode → Bool
  | .str _ _ .escaped => true
  | _ => false

def scanOf (kind : Kind) (state : State) : Scan :=
  ⟨(kinds state.stack).count kind, inString state.mode, escapeNext state.mode⟩

def Within (kind : Kind) (stack : List Frame) : Prop := (kinds stack).getLast? = some kind

def marks : List Char :=
  [backslash, quote, Kind.object.opening, Kind.object.closing, Kind.array.opening, Kind.array.closing]

def Plain (c : Char) : Prop := c ∉ marks

instance (c : Char) : Decidable (Plain c) := inferInstanceAs (Decidable (c ∉ marks))

theorem plain_of {p : Char → Bool} (hMarks : (marks.all fun c => !p c) = true) (h : p c = true) : Plain c := by
  intro hMem
  have hNot := List.all_eq_true.mp hMarks c hMem
  rw [h] at hNot
  cases hNot

theorem scan_plain (h : Plain c) (depth : Int) (quoted : Bool) :
    Scan.step kind ⟨depth, quoted, false⟩ c = some ⟨depth, quoted, false⟩ := by
  simp only [Plain, marks, List.mem_cons, List.not_mem_nil, or_false, not_or] at h
  cases kind <;> simp [Scan.step, h]

theorem scan_quote (depth : Int) : Scan.step kind ⟨depth, false, false⟩ quote = some ⟨depth, true, false⟩ := by
  have hBackslash : quote ≠ backslash := by decide
  simp [Scan.step, hBackslash]

theorem scan_opening (other : Kind) (stack : List Kind) :
    Scan.step kind ⟨stack.count kind, false, false⟩ other.opening =
      some ⟨(other :: stack).count kind, false, false⟩ := by
  cases kind <;> cases other <;> rw [List.count_cons] <;> rfl

theorem scan_closing_cases (other : Kind) (depth : Int) : Scan.step kind ⟨depth, false, false⟩ other.closing =
      if other = kind then if depth - 1 = 0 then none else some ⟨depth - 1, false, false⟩
      else some ⟨depth, false, false⟩ := by
  cases kind <;> cases other <;> rfl

theorem scan_closing (other : Kind) (rest : List Kind) (hLast : (other :: rest).getLast? = some kind) :
    Scan.step kind ⟨(other :: rest).count kind, false, false⟩ other.closing =
      if rest = [] then none else some ⟨rest.count kind, false, false⟩ := by
  rw [scan_closing_cases, List.count_cons]
  cases rest with
  | nil =>
    obtain rfl := Option.some.inj hLast
    simp
  | cons next rest =>
    have hMem : kind ∈ next :: rest := by
      rw [List.getLast?_cons_cons] at hLast
      exact List.mem_of_getLast? hLast
    have hPos : 0 < (next :: rest).count kind := List.count_pos_iff.mpr hMem
    rw [if_neg (List.cons_ne_nil _ _)]
    split
    · rename_i hKind
      rw [if_pos (beq_iff_eq.mpr hKind), if_neg (by omega)]
      simp
    · rename_i hKind
      rw [if_neg (mt beq_iff_eq.mp hKind), Nat.add_zero]

/-! ### The containers -/

@[simp] theorem kinds_cons (frame : Frame) : kinds (frame :: stack) = frame.kind :: kinds stack := rfl

theorem completed_eq (value : Value) (h : stack ≠ []) :
    (completed value stack).mode = .more ∧ kinds (completed value stack).stack = kinds stack := by
  match stack with
  | [] => exact absurd rfl h
  | .items items :: stack => exact ⟨rfl, rfl⟩
  | .entries entries key :: stack => exact ⟨rfl, rfl⟩

theorem scanOf_completed (value : Value) (h : stack ≠ []) :
    scanOf kind (completed value stack) = ⟨(kinds stack).count kind, false, false⟩ := by
  obtain ⟨hMode, hKinds⟩ := completed_eq value h
  rw [scanOf, hMode, hKinds]
  rfl

theorem Within.ne_nil (h : Within kind stack) : stack ≠ [] := by
  rintro rfl
  cases h

theorem within_completed (value : Value) (h : Within kind stack) : Within kind (completed value stack).stack := by
  rw [Within, (completed_eq value h.ne_nil).2]
  exact h

inductive Goes (kind : Kind) (scan : Scan) (c : Char) (state' : State) : Prop where
  | on (hScan : scan.step kind c = some (scanOf kind state')) (hWithin : Within kind state'.stack)
  | off (value : Value) (hScan : scan.step kind c = none) (hClosing : c = kind.closing)
      (hKind : value.kind? = some kind) (hState : state' = ⟨.done value, []⟩)

theorem goes_closed {frame : Frame} {value : Value} (hWithin : Within kind (frame :: stack))
    (hKind : value.kind? = some frame.kind) :
    Goes kind ⟨(kinds (frame :: stack)).count kind, false, false⟩ frame.kind.closing (completed value stack) := by
  have hScan := scan_closing frame.kind (kinds stack) hWithin
  cases hStack : stack with
  | nil =>
    rw [hStack] at hScan hWithin
    obtain rfl : frame.kind = kind := Option.some.inj hWithin
    exact .off value hScan rfl hKind rfl
  | cons next rest =>
    rw [← hStack]
    have hSome : stack ≠ [] := hStack ▸ List.cons_ne_nil _ _
    have hKinds : kinds stack ≠ [] := mt List.map_eq_nil_iff.mp hSome
    have hOuter : Within kind stack := by
      rw [hStack, Within]
      rw [hStack, Within, kinds_cons, kinds_cons, List.getLast?_cons_cons] at hWithin
      exact hWithin
    rw [if_neg hKinds] at hScan
    refine .on ?_ (within_completed value hOuter)
    rw [scanOf_completed value hSome]
    exact hScan

theorem goes_of_closed {other : Kind} (hClosed : closed other stack = some state') (hWithin : Within kind stack) :
    Goes kind ⟨(kinds stack).count kind, false, false⟩ other.closing state' := by
  match other, stack, hClosed with
  | .array, .items items :: stack, hClosed =>
    obtain rfl := Option.some.inj hClosed
    exact goes_closed hWithin rfl
  | .object, .entries entries key :: stack, hClosed =>
    obtain rfl := Option.some.inj hClosed
    exact goes_closed hWithin rfl

/-! ### One character -/

theorem plain_of_blank (h : isBlank c = true) : Plain c := plain_of (by decide) h

theorem plain_of_digit (h : c.isDigit = true) : Plain c := plain_of (by decide) h

theorem within_cons (frame : Frame) (h : Within kind stack) : Within kind (frame :: stack) := by
  rw [Within, kinds_cons, List.getLast?_cons, show (kinds stack).getLast? = some kind from h]
  rfl

theorem goes_plain {mode' : Mode} (hPlain : Plain c) (hString : inString mode' = false)
    (hEscape : escapeNext mode' = false) (hWithin : Within kind stack) (hKinds : kinds state'.stack = kinds stack)
    (hMode : state'.mode = mode') : Goes kind ⟨(kinds stack).count kind, false, false⟩ c state' := by
  refine .on ?_ ?_
  · rw [scan_plain hPlain, scanOf, hKinds, hMode, hString, hEscape]
  · rw [Within, hKinds]
    exact hWithin

theorem scalarStart_cases {mode : Mode} (h : scalarStart c = some mode) :
    c = quote ∧ mode = .str false [] .plain ∨ Plain c ∧ inString mode = false ∧ escapeNext mode = false := by
  unfold scalarStart at h
  split at h
  · rename_i hQuote
    exact .inl ⟨hQuote, (Option.some.inj h).symm⟩
  split at h
  · rename_i hMinus
    obtain rfl := Option.some.inj h
    exact .inr ⟨by rw [hMinus]; decide, rfl, rfl⟩
  split at h
  · rename_i hDigit
    obtain rfl := Option.some.inj h
    exact .inr ⟨plain_of_digit hDigit, rfl, rfl⟩
  · obtain ⟨word, hWord, rfl⟩ := Option.map_eq_some_iff.mp h
    exact .inr ⟨plain_of (p := fun c => (words.lookup c).isSome) (by decide) (by rw [hWord]; rfl), rfl, rfl⟩

theorem goes_started (h : started c stack = some state') (hWithin : Within kind stack) :
    Goes kind ⟨(kinds stack).count kind, false, false⟩ c state' := by
  unfold started at h
  split at h
  · rename_i hObject
    obtain rfl := Option.some.inj h
    rw [hObject]
    exact .on (scan_opening .object (kinds stack)) (within_cons _ hWithin)
  split at h
  · rename_i hArray
    obtain rfl := Option.some.inj h
    rw [hArray]
    exact .on (scan_opening .array (kinds stack)) (within_cons _ hWithin)
  · obtain ⟨mode, hMode, rfl⟩ := Option.map_eq_some_iff.mp h
    obtain ⟨rfl, rfl⟩ | ⟨hPlain, hString, hEscape⟩ := scalarStart_cases hMode
    · exact .on (scan_quote _) hWithin
    · exact goes_plain hPlain hString hEscape hWithin rfl rfl

theorem goes_followed (h : followed c state = some state') (hWithin : Within kind state.stack)
    (hString : inString state.mode = false) (hEscape : escapeNext state.mode = false) :
    Goes kind ⟨(kinds state.stack).count kind, false, false⟩ c state' := by
  unfold followed at h
  split at h
  · rename_i hBlank
    obtain rfl := Option.some.inj h
    exact goes_plain (plain_of_blank hBlank) hString hEscape hWithin rfl rfl
  · split at h
    · split_ifs at h with hComma hClosing
      · obtain rfl := Option.some.inj h
        exact goes_plain (by rw [hComma]; decide) rfl rfl hWithin rfl rfl
      · rw [hClosing]
        exact goes_of_closed h hWithin
    · split_ifs at h with hComma hClosing
      · obtain rfl := Option.some.inj h
        exact goes_plain (by rw [hComma]; decide) rfl rfl hWithin rfl rfl
      · rw [hClosing]
        exact goes_of_closed h hWithin
    · cases h

theorem goes_str {isKey : Bool} {read : List Nat} {phase : StringPhase}
    (h : strStep isKey read phase stack c = some state') (hWithin : Within kind stack) :
    Goes kind (scanOf kind ⟨.str isKey read phase, stack⟩) c state' := by
  have hOn : ∀ (phase' : StringPhase) (read' : List Nat),
      Scan.step kind (scanOf kind ⟨.str isKey read phase, stack⟩) c =
        some ⟨(kinds stack).count kind, true, escapeNext (.str isKey read' phase')⟩ →
      ⟨.str isKey read' phase', stack⟩ = state' → Goes kind (scanOf kind ⟨.str isKey read phase, stack⟩) c state' := by
    rintro phase' read' hScan rfl
    exact .on hScan hWithin
  cases phase with
  | plain =>
    unfold strStep at h
    dsimp only at h
    split_ifs at h with hQuote hBackslash hControl
    · have hScan : Scan.step kind (scanOf kind ⟨.str isKey read .plain, stack⟩) c =
          some ⟨(kinds stack).count kind, false, false⟩ := by
        rw [hQuote]
        rfl
      match isKey, stack, h with
      | false, stack, h =>
        obtain rfl := Option.some.inj h
        refine .on (hScan.trans ?_) (within_completed _ hWithin)
        rw [scanOf_completed _ hWithin.ne_nil]
      | true, .entries entries key :: stack, h =>
        obtain rfl := Option.some.inj h
        exact .on hScan hWithin
    · apply hOn .escaped read _ (Option.some.inj h)
      rw [hBackslash]
      rfl
    · apply hOn .plain _ _ (Option.some.inj h)
      simp [Scan.step, scanOf, inString, escapeNext, hQuote, hBackslash]
  | escaped =>
    unfold strStep at h
    dsimp only at h
    split_ifs at h
    · exact hOn _ _ rfl (Option.some.inj h)
    · obtain ⟨code, -, hState⟩ := Option.map_eq_some_iff.mp h
      exact hOn _ _ rfl hState
  | unicode digits code =>
    unfold strStep at h
    obtain ⟨digit, hDigit, hState⟩ := Option.map_eq_some_iff.mp h
    have hPlain : Plain c := plain_of (p := fun c => (hexDigit? c).isSome) (by decide) (by rw [hDigit]; rfl)
    split_ifs at hState
    · exact hOn _ _ (scan_plain hPlain _ _) hState
    · exact hOn _ _ (scan_plain hPlain _ _) hState

theorem goes_number {text : List Char} {phase : NumberPhase} (h : numberStep text phase stack c = some state')
    (hWithin : Within kind stack) : Goes kind ⟨(kinds stack).count kind, false, false⟩ c state' := by
  unfold numberStep at h
  split at h
  · rename_i phase' hNext
    obtain rfl := Option.some.inj h
    refine goes_plain (plain_of (p := fun c => (phase.next c).isSome) ?_ (by rw [hNext]; rfl)) rfl rfl hWithin rfl rfl
    cases phase <;> decide
  · split at h
    · obtain ⟨hMode, hKinds⟩ := completed_eq (.number text) hWithin.ne_nil
      have hGoes := goes_followed h (within_completed _ hWithin) (by rw [hMode]; rfl) (by rw [hMode]; rfl)
      rwa [hKinds] at hGoes
    · split at h
      · split_ifs at h with hInfinity
        obtain rfl := Option.some.inj h
        exact goes_plain (by rw [hInfinity]; decide) rfl rfl hWithin rfl rfl
      · cases h

theorem goes_word {word : Word} {position : Nat} (h : wordStep word position stack c = some state')
    (hWithin : Within kind stack) : Goes kind ⟨(kinds stack).count kind, false, false⟩ c state' := by
  unfold wordStep at h
  split_ifs at h with hRead hEnd
  · have hPlain : Plain c := by
      have hAll : ∀ c ∈ word.text, Plain c := Text.forall_of_all (by cases word <;> decide)
      exact hAll c (List.mem_of_getElem? hRead)
    obtain rfl := Option.some.inj h
    obtain ⟨hMode, hKinds⟩ := completed_eq word.value hWithin.ne_nil
    exact goes_plain hPlain rfl rfl hWithin hKinds hMode
  · have hPlain : Plain c := by
      have hAll : ∀ c ∈ word.text, Plain c := Text.forall_of_all (by cases word <;> decide)
      exact hAll c (List.mem_of_getElem? hRead)
    obtain rfl := Option.some.inj h
    exact goes_plain hPlain rfl rfl hWithin rfl rfl

theorem goes_step (h : step state c = some state') (hWithin : Within kind state.stack) :
    Goes kind (scanOf kind state) c state' := by
  obtain ⟨mode, stack⟩ := state
  have hBlankStep : ∀ {mode : Mode}, some ⟨mode, stack⟩ = some state' → isBlank c = true → inString mode = false →
      escapeNext mode = false → Goes kind ⟨(kinds stack).count kind, false, false⟩ c state' := by
    intro mode hEq hBlank hString hEscape
    obtain rfl := Option.some.inj hEq
    exact goes_plain (plain_of_blank hBlank) hString hEscape hWithin rfl rfl
  cases mode with
  | value =>
    simp only [step] at h
    split_ifs at h with hBlank
    · exact hBlankStep h hBlank rfl rfl
    · exact goes_started h hWithin
  | firstItem =>
    simp only [step] at h
    split_ifs at h with hBlank hClosing
    · exact hBlankStep h hBlank rfl rfl
    · rw [hClosing]
      exact goes_of_closed h hWithin
    · exact goes_started h hWithin
  | firstKey =>
    simp only [step] at h
    split_ifs at h with hBlank hQuote hClosing
    · exact hBlankStep h hBlank rfl rfl
    · obtain rfl := Option.some.inj h
      rw [hQuote]
      exact .on (scan_quote _) hWithin
    · rw [hClosing]
      exact goes_of_closed h hWithin
  | nextKey =>
    simp only [step] at h
    split_ifs at h with hBlank hQuote
    · exact hBlankStep h hBlank rfl rfl
    · obtain rfl := Option.some.inj h
      rw [hQuote]
      exact .on (scan_quote _) hWithin
  | colon =>
    simp only [step] at h
    split_ifs at h with hBlank hColon
    · exact hBlankStep h hBlank rfl rfl
    · obtain rfl := Option.some.inj h
      exact goes_plain (by rw [hColon]; decide) rfl rfl hWithin rfl rfl
  | more => exact goes_followed h hWithin rfl rfl
  | done value => exact goes_followed h hWithin rfl rfl
  | str isKey read phase => exact goes_str h hWithin
  | number text phase => exact goes_number h hWithin
  | word word position => exact goes_word h hWithin

/-! ### The whole text -/

variable {text : List Char} {last : State} {value : Value}

theorem readFrom_cons (state : State) (c : Char) (text : List Char) :
    readFrom state (c :: text) = (step state c).bind fun next => readFrom next text := by
  rw [readFrom, List.foldlM_cons]
  rfl

theorem readFrom_done (h : readFrom ⟨.done value, []⟩ text = some last) :
    (∀ c ∈ text, isBlank c = true) ∧ last = ⟨.done value, []⟩ := by
  induction text with
  | nil => exact ⟨nofun, (Option.some.inj h).symm⟩
  | cons c text ih =>
    rw [readFrom_cons] at h
    cases hBlank : isBlank c with
    | false =>
      have hStep : step ⟨.done value, []⟩ c = none := by
        simp [step, followed, hBlank]
      rw [hStep] at h
      cases h
    | true =>
      have hStep : step ⟨.done value, []⟩ c = some ⟨.done value, []⟩ := by
        simp [step, followed, hBlank]
      rw [hStep] at h
      obtain ⟨hText, hLast⟩ := ih h
      exact ⟨List.forall_mem_cons.mpr ⟨hBlank, hText⟩, hLast⟩

theorem finished_stack (h : finished last = some value) : last.stack = [] := by
  unfold finished at h
  split at h
  · rename_i hStack
    exact hStack
  · rename_i hStack
    exact hStack
  · cases h

theorem closingText_of_readFrom (hRead : readFrom state text = some last) (hFinished : finished last = some value)
    (hWithin : Within kind state.stack) :
    ∃ body back, text = body ++ back ∧ (∀ c ∈ back, isBlank c = true) ∧ value.kind? = some kind ∧
      body.getLast? = some kind.closing ∧ readFrom state body = some ⟨.done value, []⟩ ∧
      ∀ rest, closingText kind (scanOf kind state) (body ++ rest) = some body := by
  induction text generalizing state with
  | nil =>
    obtain rfl := Option.some.inj hRead
    exact absurd (finished_stack hFinished) hWithin.ne_nil
  | cons c text ih =>
    rw [readFrom_cons] at hRead
    obtain ⟨next, hStep, hNext⟩ := Option.bind_eq_some_iff.mp hRead
    obtain ⟨hScan, hNextWithin⟩ | ⟨closed, hScan, rfl, hKind, rfl⟩ := goes_step hStep hWithin
    · obtain ⟨body, back, rfl, hBack, hKind, hCloses, hBody, hScanned⟩ := ih hNext hNextWithin
      refine ⟨c :: body, back, rfl, hBack, hKind, ?_, ?_, fun rest => ?_⟩
      · cases body with
        | nil => cases hCloses
        | cons first body => rwa [List.getLast?_cons_cons]
      · rw [readFrom_cons, hStep]
        exact hBody
      · rw [List.cons_append, closingText, hScan]
        dsimp only
        rw [hScanned, Option.map_some]
    · obtain ⟨hBack, rfl⟩ := readFrom_done hNext
      obtain rfl := Option.some.inj hFinished
      refine ⟨[_], text, rfl, hBack, hKind, rfl, ?_, fun rest => ?_⟩
      · rw [readFrom_cons, hStep]
        rfl
      · rw [List.singleton_append, closingText, hScan]

def Scalar (state : State) : Prop :=
  state.stack = [] ∧
    match state.mode with
    | .str isKey _ _ => isKey = false
    | .number _ _ => True
    | .word _ _ => True
    | .done value => value.kind? = none
    | _ => False

theorem scalar_step (hScalar : Scalar state) (hStep : step state c = some state') : Scalar state' := by
  obtain ⟨mode, stack⟩ := state
  obtain ⟨rfl, hMode⟩ := hScalar
  have hDone : ∀ {value : Value} {next : State}, value.kind? = none →
      followed c ⟨.done value, []⟩ = some next → Scalar next := by
    intro value next hKind hNext
    unfold followed at hNext
    split at hNext
    · obtain rfl := Option.some.inj hNext
      exact ⟨rfl, hKind⟩
    · cases hNext
  cases mode with
  | done value => exact hDone hMode hStep
  | str isKey read phase =>
    obtain rfl : isKey = false := hMode
    cases phase with
    | plain =>
      change strStep false read .plain [] c = _ at hStep
      unfold strStep at hStep
      dsimp only at hStep
      split_ifs at hStep
      · obtain rfl := Option.some.inj hStep
        exact ⟨rfl, rfl⟩
      · obtain rfl := Option.some.inj hStep
        exact ⟨rfl, rfl⟩
      · obtain rfl := Option.some.inj hStep
        exact ⟨rfl, rfl⟩
    | escaped =>
      change strStep false read .escaped [] c = _ at hStep
      unfold strStep at hStep
      dsimp only at hStep
      split_ifs at hStep
      · obtain rfl := Option.some.inj hStep
        exact ⟨rfl, rfl⟩
      · obtain ⟨code, -, rfl⟩ := Option.map_eq_some_iff.mp hStep
        exact ⟨rfl, rfl⟩
    | unicode digits code =>
      obtain ⟨digit, -, rfl⟩ := Option.map_eq_some_iff.mp hStep
      split_ifs
      · exact ⟨rfl, rfl⟩
      · exact ⟨rfl, rfl⟩
  | number text phase =>
    change numberStep text phase [] c = _ at hStep
    unfold numberStep at hStep
    split at hStep
    · obtain rfl := Option.some.inj hStep
      exact ⟨rfl, trivial⟩
    · split at hStep
      · exact hDone rfl hStep
      · split at hStep
        · split_ifs at hStep
          obtain rfl := Option.some.inj hStep
          exact ⟨rfl, trivial⟩
        · cases hStep
  | word word position =>
    change wordStep word position [] c = _ at hStep
    unfold wordStep at hStep
    split_ifs at hStep
    · obtain rfl := Option.some.inj hStep
      refine ⟨rfl, ?_⟩
      cases word <;> rfl
    · obtain rfl := Option.some.inj hStep
      exact ⟨rfl, trivial⟩
  | _ => exact hMode.elim

theorem kind_of_scalar (hScalar : Scalar state) (hRead : readFrom state text = some last)
    (hFinished : finished last = some value) : value.kind? = none := by
  induction text generalizing state with
  | nil =>
    obtain rfl := Option.some.inj hRead
    obtain ⟨mode, stack⟩ := state
    obtain ⟨rfl, hMode⟩ := hScalar
    cases mode with
    | done value =>
      obtain rfl := Option.some.inj hFinished
      exact hMode
    | number text phase =>
      unfold finished at hFinished
      dsimp only at hFinished
      split_ifs at hFinished
      obtain rfl := Option.some.inj hFinished
      rfl
    | str isKey read phase => cases hFinished
    | word word position => cases hFinished
    | _ => exact hMode.elim
  | cons c text ih =>
    rw [readFrom_cons] at hRead
    obtain ⟨next, hStep, hNext⟩ := Option.bind_eq_some_iff.mp hRead
    exact ih (scalar_step hScalar hStep) hNext

structure Body (kind : Kind) (body : List Char) (value : Value) : Prop where
  isKind : value.kind? = some kind
  opens : body.head? = some kind.opening
  closes : body.getLast? = some kind.closing
  reads : loads body = some value
  scanned : ∀ rest, closingText kind ⟨0, false, false⟩ (body ++ rest) = some body

theorem body_of_loads (h : loads text = some value) (hKind : value.kind? = some kind) :
    ∃ front body back, text = front ++ body ++ back ∧ (∀ c ∈ front, isBlank c = true) ∧
      (∀ c ∈ back, isBlank c = true) ∧ Body kind body value := by
  obtain ⟨last, hRead, hFinished⟩ := Option.bind_eq_some_iff.mp h
  clear h
  induction text with
  | nil =>
    obtain rfl := Option.some.inj hRead
    cases hFinished
  | cons c text ih =>
    rw [readFrom_cons] at hRead
    obtain ⟨next, hStep, hNext⟩ := Option.bind_eq_some_iff.mp hRead
    cases hBlank : isBlank c with
    | true =>
      have hSame : step ⟨.value, []⟩ c = some ⟨.value, []⟩ := by simp [step, hBlank]
      rw [hSame] at hStep
      obtain rfl := Option.some.inj hStep
      obtain ⟨front, body, back, rfl, hFront, hBack, hBody⟩ := ih hNext
      exact ⟨c :: front, body, back, rfl, List.forall_mem_cons.mpr ⟨hBlank, hFront⟩, hBack, hBody⟩
    | false =>
      have hStarted : started c [] = some next := by
        rw [← hStep]
        simp [step, hBlank]
      have hContainer : ∀ (other : Kind) (frame : Frame), frame.kind = other → c = other.opening →
          next.stack = [frame] → inString next.mode = false → escapeNext next.mode = false →
          ∃ front body back, c :: text = front ++ body ++ back ∧ (∀ c ∈ front, isBlank c = true) ∧
            (∀ c ∈ back, isBlank c = true) ∧ Body kind body value := by
        intro other frame hFrame hOpening hStack hString hEscape
        have hWithin : Within other next.stack := by
          rw [hStack, ← hFrame]
          rfl
        obtain ⟨body, back, rfl, hBack, hOther, hCloses, hBody, hScanned⟩ :=
          closingText_of_readFrom hNext hFinished hWithin
        obtain rfl : other = kind := Option.some.inj (hOther.symm.trans hKind)
        refine ⟨[], c :: body, back, rfl, nofun, hBack, hKind, by rw [hOpening]; rfl, ?_, ?_, fun rest => ?_⟩
        · cases body with
          | nil => cases hCloses
          | cons first body => rwa [List.getLast?_cons_cons]
        · rw [loads, readFrom_cons, hStep]
          change (readFrom next body).bind finished = _
          rw [hBody]
          rfl
        · have hScan : Scan.step other ⟨0, false, false⟩ c = some (scanOf other next) := by
            rw [scanOf, hString, hEscape, hStack, hOpening, ← hFrame]
            exact scan_opening frame.kind []
          rw [List.cons_append, closingText, hScan]
          dsimp only
          rw [hScanned, Option.map_some]
      unfold started at hStarted
      split at hStarted
      · rename_i hObject
        obtain rfl := Option.some.inj hStarted
        exact hContainer .object (.entries [] []) rfl hObject rfl rfl rfl
      split at hStarted
      · rename_i hArray
        obtain rfl := Option.some.inj hStarted
        exact hContainer .array (.items []) rfl hArray rfl rfl rfl
      · obtain ⟨mode, hMode, rfl⟩ := Option.map_eq_some_iff.mp hStarted
        have hScalar : Scalar ⟨mode, []⟩ := by
          refine ⟨rfl, ?_⟩
          unfold scalarStart at hMode
          split at hMode
          · obtain rfl := Option.some.inj hMode
            rfl
          split at hMode
          · obtain rfl := Option.some.inj hMode
            trivial
          split at hMode
          · obtain rfl := Option.some.inj hMode
            trivial
          · obtain ⟨word, -, rfl⟩ := Option.map_eq_some_iff.mp hMode
            trivial
        rw [kind_of_scalar hScalar hNext hFinished] at hKind
        cases hKind

end Simulation

end FastVoice.GenAi
