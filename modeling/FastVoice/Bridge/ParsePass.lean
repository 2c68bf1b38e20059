import FastVoice.Bridge.ParseCode

/-! # A pass without an error

What a statement adds if nothing is wrong with it. A pass that reports nothing has accepted every
statement, and then imports and positions make no difference.
-/
namespace FastVoice.Bridge
open Python Workflows

variable {F : Type}

def isBindingOrEdge : Stmt F → Bool
  | .assign [.name _] (.call _ _ _) _ _ => true
  | .expr (.call (.attribute (.name _) "edge") [.name _, .name _] _) _ _ => true
  | _ => false

def relevant (body : List (Stmt F)) : List (Stmt F) :=
  (body.filter fun stmt => !stmt.isImport).map Stmt.unplaced

inductive Accepts (py : Interpreter F) : ParserState F → Stmt F → ParserState F → Prop where
  | importing {s : ParserState F} : Accepts py s .importing s
  | workflow {s : ParserState F} {bound name : String} {func : Expr F} {args : List (Expr F)}
      {kws : List (Option String × Expr F)} {position valuePosition : Position}
      (hFirst : s.workflowVar = none) (hCall : callName func = some "Workflow")
      (hParse : parseWorkflow py args kws = .ok name) :
      Accepts py s (.assign [.name bound] (.call func args kws) position valuePosition)
        (s.setWorkflow bound name)
  | node {s : ParserState F} {bound : String} {func : Expr F} {args : List (Expr F)}
      {kws : List (Option String × Expr F)} {position valuePosition : Position} {parts : NodeParts F}
      (hCall : callName func ≠ some "Workflow")
      (hParse : parseNode py s.workflowVar func args kws = .ok parts) :
      Accepts py s (.assign [.name bound] (.call func args kws) position valuePosition)
        (s.addNode bound parts)
  | edge {s : ParserState F} {func : Expr F} {args : List (Expr F)}
      {kws : List (Option String × Expr F)} {position valuePosition : Position} {edge : ParsedEdge F}
      (hMethod : workflowMethod s.workflowVar func = some "edge")
      (hParse : parseEdge py s.references args kws = .ok edge) :
      Accepts py s (.expr (.call func args kws) position valuePosition) (s.addEdge edge)

theorem workflowMethod_eq_some {workflowVar : Option String} {func : Expr F} {method : String}
    (h : workflowMethod workflowVar func = some method) : ∃ id, func = .attribute (.name id) method := by
  unfold workflowMethod at h
  split at h
  · split at h
    · cases h
      exact ⟨_, rfl⟩
    · cases h
  · cases h

theorem parseEdge_eq_ok {py : Interpreter F} {references : Dict String String} {args : List (Expr F)}
    {kws : List (Option String × Expr F)} {edge : ParsedEdge F}
    (h : parseEdge py references args kws = .ok edge) :
    ∃ source target sourceId targetId options, args = [.name source, .name target] ∧
      references.lookup source = some sourceId ∧ references.lookup target = some targetId ∧
      edge = ⟨sourceId ++ "-" ++ targetId, sourceId, targetId, options⟩ := by
  unfold parseEdge at h
  split at h
  · split at h
    · rename_i source target _ _ sourceId targetId hSource hTarget
      cases hOptions : edgeOptions py [.name source, .name target] kws with
      | error error =>
        rw [hOptions] at h
        cases h
      | ok options =>
        rw [hOptions] at h
        exact ⟨source, target, sourceId, targetId, options, rfl, hSource, hTarget,
          (Except.ok.inj h).symm⟩
    · cases h
  · cases h

section Steps

variable {py : Interpreter F} {s s' : ParserState F} {stmt : Stmt F}

theorem Accepts.step_eq (h : Accepts py s stmt s') : step py s stmt = .ok s' := by
  cases h with
  | importing => rfl
  | workflow hFirst hCall hParse =>
    rw [step, stepBinding, if_pos hCall, hFirst, hParse]
    rfl
  | node hCall hParse =>
    rw [step, stepBinding, if_neg hCall, hParse]
    rfl
  | edge hMethod hParse =>
    rw [step, if_pos hMethod, hParse]
    rfl

theorem Accepts.errors_eq (h : Accepts py s stmt s') : s'.errors = s.errors := by
  cases h <;> rfl

theorem after_cases {α : Type} {position : Position} {next : α → ParserState F} {checked : Checked α}
    (h : s.after position next checked = .ok s') :
    (∃ value, checked = .ok value ∧ s' = next value) ∨ ∃ message, s' = s.report position message := by
  match checked, h with
  | .ok value, h => exact .inl ⟨value, rfl, (Except.ok.inj h).symm⟩
  | .error (.rejected message), h => exact .inr ⟨message, (Except.ok.inj h).symm⟩

theorem step_cases (h : step py s stmt = .ok s') :
    Accepts py s stmt s' ∨ ∃ position message, s' = s.report position message := by
  unfold step at h
  split at h
  · cases h
    exact .inl .importing
  · rename_i bound value position valuePosition
    rw [stepBinding.eq_def] at h
    split at h
    · rename_i func args kws
      split at h
      · rename_i hCall
        split at h
        · cases h
          exact .inr ⟨_, _, rfl⟩
        · rename_i hFirst
          rcases after_cases h with ⟨name, hParse, rfl⟩ | ⟨message, rfl⟩
          · exact .inl (.workflow (by simpa using hFirst) hCall hParse)
          · exact .inr ⟨_, _, rfl⟩
      · rename_i hCall
        rcases after_cases h with ⟨parts, hParse, rfl⟩ | ⟨message, rfl⟩
        · exact .inl (.node hCall hParse)
        · exact .inr ⟨_, _, rfl⟩
    · cases h
      exact .inr ⟨_, _, rfl⟩
  · split at h
    · rename_i hMethod
      rcases after_cases h with ⟨edge, hParse, rfl⟩ | ⟨message, rfl⟩
      · exact .inl (.edge hMethod hParse)
      · exact .inr ⟨_, _, rfl⟩
    · cases h
      exact .inr ⟨_, _, rfl⟩
  all_goals
    cases h
    exact .inr ⟨_, _, rfl⟩

end Steps

inductive AcceptsAll (py : Interpreter F) : ParserState F → List (Stmt F) → ParserState F → Prop where
  | nil {s : ParserState F} : AcceptsAll py s [] s
  | cons {s next last : ParserState F} {stmt : Stmt F} {body : List (Stmt F)}
      (hFirst : Accepts py s stmt next) (hRest : AcceptsAll py next body last) :
      AcceptsAll py s (stmt :: body) last

section Pass

variable {py : Interpreter F} {s s' : ParserState F} {body : List (Stmt F)}

theorem step_errors {stmt : Stmt F} (h : step py s stmt = .ok s') :
    ∃ reported, s'.errors = s.errors ++ reported := by
  rcases step_cases h with hAccepts | ⟨position, message, rfl⟩
  · exact ⟨[], by rw [hAccepts.errors_eq, List.append_nil]⟩
  · exact ⟨_, rfl⟩

theorem pass_errors (h : body.foldlM (step py) s = .ok s') :
    ∃ reported, s'.errors = s.errors ++ reported := by
  induction body generalizing s with
  | nil =>
    cases h
    exact ⟨[], (List.append_nil _).symm⟩
  | cons stmt body ih =>
    rw [List.foldlM_cons] at h
    cases hStep : step py s stmt with
    | error error =>
      rw [hStep] at h
      cases h
    | ok next =>
      rw [hStep] at h
      obtain ⟨first, hFirst⟩ := step_errors hStep
      obtain ⟨later, hLater⟩ := ih h
      exact ⟨first ++ later, by rw [hLater, hFirst, List.append_assoc]⟩

theorem acceptsAll_of_pass (h : body.foldlM (step py) s = .ok s') (hErrors : s'.errors = []) :
    AcceptsAll py s body s' := by
  induction body generalizing s with
  | nil =>
    cases h
    exact .nil
  | cons stmt body ih =>
    rw [List.foldlM_cons] at h
    cases hStep : step py s stmt with
    | error error =>
      rw [hStep] at h
      cases h
    | ok next =>
      rw [hStep] at h
      rcases step_cases hStep with hAccepts | ⟨position, message, rfl⟩
      · exact .cons hAccepts (ih h)
      · obtain ⟨reported, hReported⟩ := pass_errors (s := s.report position message) h
        rw [hErrors] at hReported
        simp [ParserState.report] at hReported

theorem AcceptsAll.pass_eq (h : AcceptsAll py s body s') : body.foldlM (step py) s = .ok s' := by
  induction h with
  | nil => rfl
  | cons hFirst _ ih =>
    rw [List.foldlM_cons, hFirst.step_eq]
    exact ih

theorem AcceptsAll.errors_eq (h : AcceptsAll py s body s') : s'.errors = s.errors := by
  induction h with
  | nil => rfl
  | cons hFirst _ ih => rw [ih, hFirst.errors_eq]

theorem Accepts.of_unplaced {stmt stmt' : Stmt F} (h : Accepts py s stmt s')
    (hSame : stmt'.unplaced = stmt.unplaced) : Accepts py s stmt' s' := by
  cases h <;> cases stmt' <;> cases hSame
  · exact .importing
  · exact .workflow ‹_› ‹_› ‹_›
  · exact .node ‹_› ‹_›
  · exact .edge ‹_› ‹_›

theorem relevant_cons_import (body : List (Stmt F)) : relevant (.importing :: body) = relevant body :=
  rfl

theorem relevant_cons {stmt : Stmt F} (h : stmt.isImport = false) (body : List (Stmt F)) :
    relevant (stmt :: body) = stmt.unplaced :: relevant body := by
  rw [relevant, List.filter_cons_of_pos (by rw [h]; rfl)]
  rfl

theorem unplaced_unplaced (stmt : Stmt F) : stmt.unplaced.unplaced = stmt.unplaced := by
  cases stmt <;> rfl

theorem acceptsAll_relevant_iff : AcceptsAll py s (relevant body) s' ↔ AcceptsAll py s body s' := by
  induction body generalizing s with
  | nil => exact Iff.rfl
  | cons stmt body ih =>
    cases hImport : stmt.isImport with
    | true =>
      have hStmt : stmt = .importing := by cases stmt <;> first | rfl | cases hImport
      subst hStmt
      rw [relevant_cons_import]
      constructor
      · intro h
        exact .cons .importing (ih.mp h)
      · rintro (_ | ⟨_ | _ | _ | _, hRest⟩)
        exact ih.mpr hRest
    | false =>
      rw [relevant_cons hImport]
      constructor
      · rintro (_ | ⟨hFirst, hRest⟩)
        exact .cons (hFirst.of_unplaced (unplaced_unplaced stmt).symm) (ih.mp hRest)
      · rintro (_ | ⟨hFirst, hRest⟩)
        exact .cons (hFirst.of_unplaced (unplaced_unplaced stmt)) (ih.mpr hRest)

theorem AcceptsAll.of_relevant (h : AcceptsAll py s body s') {body' : List (Stmt F)}
    (hSame : relevant body' = relevant body) : AcceptsAll py s body' s' :=
  acceptsAll_relevant_iff.mp (hSame ▸ acceptsAll_relevant_iff.mpr h)

theorem Accepts.isBindingOrEdge {stmt : Stmt F} (h : Accepts py s stmt s') :
    stmt.isImport = true ∨ isBindingOrEdge stmt = true := by
  cases h with
  | importing => exact .inl rfl
  | workflow => exact .inr rfl
  | node => exact .inr rfl
  | edge hMethod hParse =>
    obtain ⟨id, rfl⟩ := workflowMethod_eq_some hMethod
    obtain ⟨source, target, sourceId, targetId, options, rfl, -⟩ := parseEdge_eq_ok hParse
    exact .inr rfl

end Pass

end FastVoice.Bridge
