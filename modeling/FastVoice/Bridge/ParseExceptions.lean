import FastVoice.Bridge.ParsePass

/-! # Exceptions of the pass

The parser reports a `ValueError`, but not the `OverflowError` of an integer that has no float.
-/
namespace FastVoice.Bridge
open Python Workflows

variable {F : Type}

def KeywordsOverflow (py : Interpreter F) (kws : List (Option String × Expr F)) : Prop :=
  collectKeywords py kws [] = .error (.raised .overflowError)

def PositionOverflows (py : Interpreter F) (value : Option (Value F)) : Prop :=
  ∃ position first second x y, value = some position ∧ sequence position = some [first, second] ∧
    coordinate first = some x ∧ coordinate second = some y ∧
    ∃ n, py.ofInt n = none ∧ (x = .int n ∨ y = .int n)

inductive Overflows (py : Interpreter F) (s : ParserState F) : Stmt F → Prop where
  | edge {func : Expr F} {source target sourceId targetId : String}
      {kws : List (Option String × Expr F)} {position valuePosition : Position}
      (hMethod : workflowMethod s.workflowVar func = some "edge")
      (hSource : s.references.lookup source = some sourceId)
      (hTarget : s.references.lookup target = some targetId) (hKeywords : KeywordsOverflow py kws) :
      Overflows py s (.expr (.call func [.name source, .name target] kws) position valuePosition)
  | workflow {bound : String} {func : Expr F} {kws : List (Option String × Expr F)}
      {position valuePosition : Position} (hFirst : s.workflowVar = none)
      (hCall : callName func = some "Workflow") (hKeywords : KeywordsOverflow py kws) :
      Overflows py s (.assign [.name bound] (.call func [] kws) position valuePosition)
  | typed {bound : String} {func constructor : Expr F} {type : NodeType}
      {constructorKws kws : List (Option String × Expr F)} {position valuePosition : Position}
      (hMethod : workflowMethod s.workflowVar func = some "add_typed")
      (hType : (callName constructor).bind typeOfClass = some type)
      (hOverflow : KeywordsOverflow py constructorKws ∨
        ∃ data, collectKeywords py constructorKws [] = .ok data ∧ (KeywordsOverflow py kws ∨
          ∃ options, collectKeywords py kws [] = .ok options ∧
            (∀ option ∈ options, option.1 = "position") ∧
            PositionOverflows py (options.lookup "position"))) :
      Overflows py s (.assign [.name bound] (.call func [.call constructor [] constructorKws] kws)
        position valuePosition)
  | untyped {bound : String} {func : Expr F} {kws : List (Option String × Expr F)}
      {position valuePosition : Position}
      (hMethod : workflowMethod s.workflowVar func = some "add")
      (hOverflow : KeywordsOverflow py kws ∨ ∃ values name type,
        collectKeywords py kws [] = .ok values ∧ values.lookup "type" = some (.str name) ∧
        typeOfName name = some type ∧ PositionOverflows py (values.lookup "position")) :
      Overflows py s (.assign [.name bound] (.call func [] kws) position valuePosition)

section Exceptions

variable {py : Interpreter F}

theorem collectKeywords_raised {kws : List (Option String × Expr F)} {values : Fields F}
    {error : PyError} (h : collectKeywords py kws values = .error (.raised error)) :
    error = .overflowError := by
  induction kws generalizing values with
  | nil => cases h
  | cons kw kws ih =>
    obtain ⟨arg, node⟩ := kw
    cases arg with
    | none => cases h
    | some arg =>
      rw [collectKeywords] at h
      split at h
      · cases h
      · rw [literalValue] at h
        cases hLiteral : literalEval py node with
        | ok value =>
          rw [hLiteral] at h
          exact ih h
        | error literalError =>
          rw [hLiteral] at h
          cases literalError <;> cases h
          rfl

def Raises {α : Type} (checked : Checked α) : Prop := ∃ error, checked = .error (.raised error)

@[simp] theorem not_raises_ok {α : Type} (value : α) : ¬Raises (.ok value : Checked α) := by
  rintro ⟨_, h⟩
  cases h

@[simp] theorem not_raises_pure {α : Type} (value : α) : ¬Raises (pure value : Checked α) :=
  not_raises_ok value

@[simp] theorem not_raises_reject {α : Type} (message : String) : ¬Raises (reject message : Checked α) := by
  rintro ⟨_, h⟩
  cases h

@[simp] theorem not_raises_rejected {α : Type} (message : String) :
    ¬Raises (.error (.rejected message) : Checked α) := not_raises_reject message

theorem raises_bind_iff {α β : Type} {checked : Checked α} {next : α → Checked β} :
    Raises (checked >>= next) ↔ Raises checked ∨ ∃ value, checked = .ok value ∧ Raises (next value) := by
  cases checked with
  | ok value => simp [bind, Except.bind]
  | error failure =>
    cases failure with
    | rejected message => simp [bind, Except.bind]
    | raised error => simp [bind, Except.bind, Raises]

theorem raises_collect_iff {kws : List (Option String × Expr F)} :
    Raises (collectKeywords py kws []) ↔ KeywordsOverflow py kws := by
  constructor
  · rintro ⟨error, h⟩
    rw [collectKeywords_raised h] at h
    exact h
  · exact fun h => ⟨_, h⟩

theorem keywords_eq {args : List (Expr F)} (h : args.any isStarred = false)
    (kws : List (Option String × Expr F)) : keywords py args kws = collectKeywords py kws [] := by
  rw [keywords]
  cases collectKeywords py kws [] with
  | error failure => rfl
  | ok values =>
    show (if args.any isStarred = true then _ else _) = _
    rw [h, if_neg Bool.false_ne_true]

theorem raises_toFloat_iff {n : Number F} (hReal : ∃ v, coordinate v = some n) :
    Raises (toFloat py n) ↔ ∃ k, py.ofInt k = none ∧ n = .int k := by
  cases n with
  | int k =>
    rw [toFloat]
    cases hFloat : py.ofInt k with
    | some f => simp [hFloat]
    | none => simp [hFloat, Raises]
  | float f => simp [toFloat]
  | complex re im =>
    obtain ⟨v, hv⟩ := hReal
    unfold coordinate at hv
    split at hv <;> cases hv

theorem raises_position {first second : Value F} {x y : Number F} (hx : coordinate first = some x)
    (hy : coordinate second = some y) {checked : Checked (F × F)}
    (h : checked = do
      let left ← toFloat py x
      let top ← toFloat py y
      return (left, top)) :
    Raises checked ↔ ∃ n, py.ofInt n = none ∧ (x = .int n ∨ y = .int n) := by
  rw [h, raises_bind_iff, raises_toFloat_iff ⟨_, hx⟩]
  constructor
  · rintro (⟨n, hn, rfl⟩ | ⟨left, -, hRest⟩)
    · exact ⟨n, hn, .inl rfl⟩
    · rw [raises_bind_iff, raises_toFloat_iff ⟨_, hy⟩] at hRest
      rcases hRest with ⟨n, hn, rfl⟩ | ⟨top, -, hNot⟩
      · exact ⟨n, hn, .inr rfl⟩
      · exact absurd hNot (not_raises_pure _)
  · rintro ⟨n, hn, rfl | rfl⟩
    · exact .inl ⟨n, hn, rfl⟩
    · cases hLeft : toFloat py x with
      | ok left =>
        refine .inr ⟨left, rfl, ?_⟩
        rw [raises_bind_iff, raises_toFloat_iff ⟨_, hy⟩]
        exact .inl ⟨n, hn, rfl⟩
      | error failure =>
        left
        rw [← raises_toFloat_iff ⟨_, hx⟩, hLeft]
        cases failure with
        | raised error => exact ⟨error, rfl⟩
        | rejected message =>
          cases x with
          | int k =>
            rw [toFloat] at hLeft
            split at hLeft <;> cases hLeft
          | float f => cases hLeft
          | complex re im => cases hLeft

theorem raises_parsePosition_iff {value : Option (Value F)} :
    Raises (parsePosition py value) ↔ PositionOverflows py value := by
  constructor
  · intro h
    unfold parsePosition at h
    split at h
    · exact absurd h (not_raises_ok _)
    · exact absurd h (not_raises_ok _)
    · rename_i position _
      split at h
      · rename_i first second hSequence
        split at h
        · rename_i x y hx hy
          exact ⟨position, first, second, x, y, rfl, hSequence, hx, hy,
            (raises_position hx hy rfl).mp h⟩
        · exact absurd h (not_raises_reject _)
      · exact absurd h (not_raises_reject _)
  · rintro ⟨position, first, second, x, y, rfl, hSequence, hx, hy, hOverflow⟩
    refine (raises_position hx hy ?_).mpr hOverflow
    cases position with
    | list items =>
      cases hSequence
      rw [parsePosition, sequence]
      simp only [hx, hy]
      exact fun h => nomatch h
    | tuple items =>
      cases hSequence
      rw [parsePosition, sequence]
      simp only [hx, hy]
      exact fun h => nomatch h
    | _ => cases hSequence

theorem raises_parseEdge_iff {references : Dict String String} {args : List (Expr F)}
    {kws : List (Option String × Expr F)} :
    Raises (parseEdge py references args kws) ↔ ∃ source target sourceId targetId,
      args = [.name source, .name target] ∧ references.lookup source = some sourceId ∧
      references.lookup target = some targetId ∧ KeywordsOverflow py kws := by
  have hOptions : ∀ source target, Raises (edgeOptions py [.name source, .name target] kws) ↔
      KeywordsOverflow py kws := by
    intro source target
    rw [edgeOptions, keywords_eq rfl, raises_bind_iff, raises_collect_iff, or_iff_left]
    rintro ⟨options, -, hRest⟩
    split at hRest
    · split at hRest
      · exact not_raises_reject _ hRest
      · split at hRest
        · exact not_raises_reject _ hRest
        · exact not_raises_pure _ hRest
    · exact not_raises_reject _ hRest
  constructor
  · intro h
    unfold parseEdge at h
    split at h
    · rename_i source target
      split at h
      · rename_i sourceId targetId hSource hTarget
        rw [raises_bind_iff, hOptions] at h
        rcases h with hOverflow | ⟨options, -, hNot⟩
        · exact ⟨source, target, sourceId, targetId, rfl, hSource, hTarget, hOverflow⟩
        · exact absurd hNot (not_raises_pure _)
      · exact absurd h (not_raises_reject _)
    · exact absurd h (not_raises_reject _)
  · rintro ⟨source, target, sourceId, targetId, rfl, hSource, hTarget, hOverflow⟩
    rw [parseEdge, hSource, hTarget]
    exact raises_bind_iff.mpr (.inl ((hOptions source target).mpr hOverflow))

theorem raises_parseWorkflow_iff {args : List (Expr F)} {kws : List (Option String × Expr F)} :
    Raises (parseWorkflow py args kws) ↔ args = [] ∧ KeywordsOverflow py kws := by
  cases args with
  | cons arg args => simp [parseWorkflow]
  | nil =>
    rw [parseWorkflow, if_neg (by simp), keywords_eq rfl, raises_bind_iff, raises_collect_iff,
      or_iff_left]
    · simp
    · rintro ⟨values, -, hRest⟩
      split at hRest
      · dsimp only at hRest
        split at hRest <;> simp at hRest
      · dsimp only at hRest
        split at hRest <;> simp at hRest
      · simp at hRest

theorem raises_parseAddTyped_iff {args : List (Expr F)} {kws : List (Option String × Expr F)} :
    Raises (parseAddTyped py args kws) ↔ ∃ constructor constructorKws type,
      args = [.call constructor [] constructorKws] ∧ (callName constructor).bind typeOfClass = some type ∧
      (KeywordsOverflow py constructorKws ∨ ∃ data, collectKeywords py constructorKws [] = .ok data ∧
        (KeywordsOverflow py kws ∨ ∃ options, collectKeywords py kws [] = .ok options ∧
          (∀ option ∈ options, option.1 = "position") ∧
          PositionOverflows py (options.lookup "position"))) := by
  constructor
  · intro h
    unfold parseAddTyped at h
    split at h
    · rename_i constructor constructorArgs constructorKws
      split at h
      · exact absurd h (not_raises_reject _)
      · rename_i type hType
        split at h
        · exact absurd h (not_raises_reject _)
        · rename_i hArgs
          obtain rfl : constructorArgs = [] := by simpa using hArgs
          refine ⟨constructor, constructorKws, type, rfl, hType, ?_⟩
          rw [keywords_eq rfl, raises_bind_iff, raises_collect_iff] at h
          refine h.imp_right fun ⟨data, hData, hRest⟩ => ⟨data, hData, ?_⟩
          rw [keywords_eq rfl, raises_bind_iff, raises_collect_iff] at hRest
          refine hRest.imp_right fun ⟨options, hOptions, hLast⟩ => ⟨options, hOptions, ?_⟩
          split at hLast
          · exact absurd hLast (not_raises_reject _)
          · rename_i hKnown
            rw [raises_bind_iff, raises_parsePosition_iff] at hLast
            rcases hLast with hOverflow | ⟨position, -, hNot⟩
            · exact ⟨by simpa using hKnown, hOverflow⟩
            · exact absurd hNot (not_raises_pure _)
    · exact absurd h (not_raises_reject _)
  · rintro ⟨constructor, constructorKws, type, rfl, hType, hOverflow⟩
    rw [parseAddTyped, hType]
    show Raises (keywords py [] constructorKws >>= _)
    rw [keywords_eq rfl, raises_bind_iff, raises_collect_iff]
    refine hOverflow.imp_right fun ⟨data, hData, hRest⟩ => ⟨data, hData, ?_⟩
    rw [keywords_eq rfl, raises_bind_iff, raises_collect_iff]
    refine hRest.imp_right fun ⟨options, hOptions, hKnown, hPosition⟩ => ⟨options, hOptions, ?_⟩
    rw [if_neg (by simpa using hKnown)]
    exact raises_bind_iff.mpr (.inl (raises_parsePosition_iff.mpr hPosition))

theorem raises_parseAdd_iff {args : List (Expr F)} {kws : List (Option String × Expr F)} :
    Raises (parseAdd py args kws) ↔ args = [] ∧ (KeywordsOverflow py kws ∨ ∃ values name type,
      collectKeywords py kws [] = .ok values ∧ values.lookup "type" = some (.str name) ∧
      typeOfName name = some type ∧ PositionOverflows py (values.lookup "position")) := by
  cases args with
  | cons arg args => simp [parseAdd]
  | nil =>
    rw [parseAdd, if_neg (by simp), keywords_eq rfl, raises_bind_iff, raises_collect_iff]
    simp only [true_and]
    refine or_congr_right ?_
    constructor
    · rintro ⟨values, hValues, hRest⟩
      split at hRest
      · rename_i name hName
        split at hRest
        · rename_i type hType
          rw [raises_bind_iff, raises_parsePosition_iff] at hRest
          rcases hRest with hOverflow | ⟨position, -, hNot⟩
          · exact ⟨values, name, type, hValues, hName, hType, hOverflow⟩
          · exact absurd hNot (not_raises_pure _)
        · exact absurd hRest (not_raises_reject _)
      · split at hRest
        · exact absurd hRest (not_raises_reject _)
        · exact absurd hRest (not_raises_reject _)
    · rintro ⟨values, name, type, hValues, hName, hType, hOverflow⟩
      refine ⟨values, hValues, ?_⟩
      rw [hName]
      simp only [hType]
      exact raises_bind_iff.mpr (.inl (raises_parsePosition_iff.mpr hOverflow))

theorem raises_after_iff {α : Type} {s : ParserState F} {position : Position}
    {next : α → ParserState F} {checked : Checked α} :
    (∃ error, s.after position next checked = .error error) ↔ Raises checked := by
  cases checked with
  | ok value => simp [ParserState.after]
  | error failure =>
    cases failure with
    | rejected message => simp [ParserState.after]
    | raised error => simp [ParserState.after, Raises]

theorem step_raises_iff {s : ParserState F} {stmt : Stmt F} :
    (∃ error, step py s stmt = .error error) ↔ Overflows py s stmt := by
  constructor
  · rintro ⟨error, h⟩
    unfold step at h
    split at h
    · cases h
    · rename_i bound value position valuePosition
      rw [stepBinding.eq_def] at h
      split at h
      · rename_i func args kws
        split at h
        · rename_i hCall
          split at h
          · cases h
          · rename_i hFirst
            obtain ⟨rfl, hKeywords⟩ := raises_parseWorkflow_iff.mp (raises_after_iff.mp ⟨_, h⟩)
            exact .workflow (by simpa using hFirst) hCall hKeywords
        · have hNode := raises_after_iff.mp ⟨_, h⟩
          unfold parseNode at hNode
          split at hNode
          · rename_i hMethod
            obtain ⟨constructor, constructorKws, type, rfl, hType, hOverflow⟩ :=
              raises_parseAddTyped_iff.mp hNode
            exact .typed hMethod hType hOverflow
          · rename_i hMethod
            obtain ⟨rfl, hOverflow⟩ := raises_parseAdd_iff.mp hNode
            exact .untyped hMethod hOverflow
          · exact absurd hNode (not_raises_reject _)
      · cases h
    · split at h
      · rename_i hMethod
        obtain ⟨source, target, sourceId, targetId, rfl, hSource, hTarget, hKeywords⟩ :=
          raises_parseEdge_iff.mp (raises_after_iff.mp ⟨_, h⟩)
        exact .edge hMethod hSource hTarget hKeywords
      · cases h
    all_goals cases h
  · intro h
    cases h with
    | edge hMethod hSource hTarget hKeywords =>
      rw [step, if_pos hMethod]
      exact raises_after_iff.mpr (raises_parseEdge_iff.mpr
        ⟨_, _, _, _, rfl, hSource, hTarget, hKeywords⟩)
    | workflow hFirst hCall hKeywords =>
      rw [step, stepBinding, if_pos hCall, hFirst]
      exact raises_after_iff.mpr (raises_parseWorkflow_iff.mpr ⟨rfl, hKeywords⟩)
    | typed hMethod hType hOverflow =>
      obtain ⟨id, rfl⟩ := workflowMethod_eq_some hMethod
      rw [step, stepBinding, if_neg (by simp [callName]), parseNode, hMethod]
      exact raises_after_iff.mpr (raises_parseAddTyped_iff.mpr ⟨_, _, _, rfl, hType, hOverflow⟩)
    | untyped hMethod hOverflow =>
      obtain ⟨id, rfl⟩ := workflowMethod_eq_some hMethod
      rw [step, stepBinding, if_neg (by simp [callName]), parseNode, hMethod]
      exact raises_after_iff.mpr (raises_parseAdd_iff.mpr ⟨rfl, hOverflow⟩)

def NoneOverflows (py : Interpreter F) (s : ParserState F) (body : List (Stmt F)) : Prop :=
  ∀ before stmt after next, body = before ++ stmt :: after →
    before.foldlM (step py) s = .ok next → ¬Overflows py next stmt

theorem noneOverflows_cons {s next : ParserState F} {stmt : Stmt F} {body : List (Stmt F)}
    (hStep : step py s stmt = .ok next) : NoneOverflows py s (stmt :: body) ↔ NoneOverflows py next body := by
  constructor
  · intro h before other after last hBody hPass
    refine h (stmt :: before) other after last (by rw [hBody, List.cons_append]) ?_
    rw [List.foldlM_cons, hStep]
    exact hPass
  · intro h before other after last hBody hPass
    cases before with
    | nil =>
      cases hBody
      cases hPass
      intro hOverflow
      obtain ⟨error, hError⟩ := step_raises_iff.mpr hOverflow
      rw [hStep] at hError
      cases hError
    | cons first before =>
      obtain ⟨rfl, hRest⟩ := List.cons.inj hBody
      rw [List.foldlM_cons, hStep] at hPass
      exact h before other after last hRest hPass

theorem pass_returns_iff {body : List (Stmt F)} {s : ParserState F} :
    (∃ last, body.foldlM (step py) s = .ok last) ↔ NoneOverflows py s body := by
  induction body generalizing s with
  | nil =>
    refine ⟨fun _ before stmt after next hBody => ?_, fun _ => ⟨s, rfl⟩⟩
    cases before <;> cases hBody
  | cons stmt body ih =>
    cases hStep : step py s stmt with
    | ok next =>
      rw [noneOverflows_cons hStep, ← ih, List.foldlM_cons, hStep]
      rfl
    | error error =>
      rw [List.foldlM_cons, hStep]
      constructor
      · rintro ⟨_, h⟩
        cases h
      · intro h
        exact absurd (step_raises_iff.mp ⟨error, hStep⟩) (h [] stmt body s rfl rfl)

end Exceptions

end FastVoice.Bridge
