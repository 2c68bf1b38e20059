import Mathlib.Algebra.Group.Int.Defs
import Mathlib.Algebra.Group.Nat.Defs
import Mathlib.Data.List.Basic

/-! # The calculator tool

The calculator parses a Python expression, refuses it unless all of its nodes are of allowed classes, and evaluates it.
A constant is an allowed node of whatever type its value is. The nesting and the memory that the
interpreter allows are not modelled.
-/
namespace FastVoice.Engine.Calculator

/-! ## Numbers -/

inductive ArithmeticError where
  | zeroDivision
  | overflow
  deriving DecidableEq

inductive NumberError where
  | arithmetic (error : ArithmeticError)
  | complexRemainder
  deriving DecidableEq

inductive Number (F C : Type) where
  | int (value : Int)
  | float (value : F)
  | complex (value : C)
  deriving DecidableEq

def Number.isComplex {F C : Type} : Number F C → Bool
  | .complex _ => true
  | _ => false

inductive Operation where
  | plus
  | minus
  | times
  | divide
  | remainder
  | power
  deriving DecidableEq

inductive Sign where
  | positive
  | negative
  deriving DecidableEq

/-- Python's floating-point and complex arithmetic: the operations of numbers that are not both integers, or whose
result is not an integer. -/
structure Floats (F C : Type) where
  operate : Operation → Number F C → Number F C → Except ArithmeticError (Number F C)
  negateFloat : F → F
  negateComplex : C → C

section

variable {F C : Type} (floats : Floats F C)

def Floats.lift (op : Operation) (x y : Number F C) : Except NumberError (Number F C) :=
  (floats.operate op x y).mapError .arithmetic

/-- Integers are exact: only their quotients and negative powers are floats. -/
def Floats.integers (op : Operation) (a b : Int) : Except NumberError (Number F C) :=
  match op with
  | .plus => .ok (.int (a + b))
  | .minus => .ok (.int (a - b))
  | .times => .ok (.int (a * b))
  | .divide => floats.lift .divide (.int a) (.int b)
  | .remainder => if b = 0 then .error (.arithmetic .zeroDivision) else .ok (.int (a.fmod b))
  | .power => if 0 ≤ b then .ok (.int (a ^ b.toNat)) else floats.lift .power (.int a) (.int b)

def Floats.binary (op : Operation) (x y : Number F C) : Except NumberError (Number F C) :=
  match x, y with
  | .int a, .int b => floats.integers op a b
  | x, y =>
    if op = .remainder ∧ (x.isComplex = true ∨ y.isComplex = true) then .error .complexRemainder
    else floats.lift op x y

def Floats.signed : Sign → Number F C → Number F C
  | .positive, x => x
  | .negative, .int a => .int (-a)
  | .negative, .float a => .float (floats.negateFloat a)
  | .negative, .complex a => .complex (floats.negateComplex a)

end

/-! ## Expressions -/

inductive Value (F C : Type) where
  | number (value : Number F C)
  | bool (value : Bool)
  | noneValue
  | ellipsis
  | str (text : List Nat)
  | bytes (content : List UInt8)
  deriving DecidableEq

inductive Operator where
  | add
  | sub
  | mult
  | matMult
  | div
  | mod
  | pow
  | lShift
  | rShift
  | bitOr
  | bitXor
  | bitAnd
  | floorDiv
  deriving DecidableEq

inductive UnaryOperator where
  | invert
  | not
  | uAdd
  | uSub
  deriving DecidableEq

inductive OtherClass where
  | boolOp
  | namedExpr
  | lambda
  | ifExp
  | dict
  | set
  | listComp
  | setComp
  | dictComp
  | generatorExp
  | await
  | yield
  | yieldFrom
  | compare
  | call
  | formattedValue
  | joinedStr
  | attribute
  | subscript
  | starred
  | name
  | list
  | tuple
  | slice
  deriving DecidableEq

inductive Expr (F C : Type) where
  | constant (value : Value F C)
  | binOp (left : Expr F C) (op : Operator) (right : Expr F C)
  | unaryOp (op : UnaryOperator) (operand : Expr F C)
  | other (cls : OtherClass) (children : List (Expr F C))

/-- The class of a node. Below the remaining expressions stand nodes of further classes, that are left out: the
expression is refused for its own class. -/
inductive NodeClass where
  | expression
  | constant
  | binOp
  | unaryOp
  | load
  | operator (op : Operator)
  | unaryOperator (op : UnaryOperator)
  | other (cls : OtherClass)
  deriving DecidableEq

def allowedNodes : List NodeClass :=
  [.expression, .binOp, .unaryOp, .operator .add, .operator .sub, .operator .mult, .operator .div, .operator .pow,
    .unaryOperator .uSub, .unaryOperator .uAdd, .constant, .load, .operator .mod]

section

variable {F C : Type}

mutual

def Expr.walk : Expr F C → List NodeClass
  | .constant _ => [.constant]
  | .binOp left op right => .binOp :: .operator op :: (left.walk ++ right.walk)
  | .unaryOp op operand => .unaryOp :: .unaryOperator op :: operand.walk
  | .other cls children => .other cls :: Expr.walkAll children

def Expr.walkAll : List (Expr F C) → List NodeClass
  | [] => []
  | child :: children => child.walk ++ Expr.walkAll children

end

/-- Whether every node of the tree under `ast.Expression` is allowed. -/
def Expr.allowed (tree : Expr F C) : Bool := (.expression :: tree.walk).all (· ∈ allowedNodes)

def Operator.operation? : Operator → Option Operation
  | .add => some .plus
  | .sub => some .minus
  | .mult => some .times
  | .div => some .divide
  | .mod => some .remainder
  | .pow => some .power
  | _ => none

def UnaryOperator.sign? : UnaryOperator → Option Sign
  | .uAdd => some .positive
  | .uSub => some .negative
  | _ => none

theorem operator_allowed_iff (op : Operator) : NodeClass.operator op ∈ allowedNodes ↔ op.operation?.isSome = true := by
  cases op <;> decide

theorem unaryOperator_allowed_iff (op : UnaryOperator) :
    NodeClass.unaryOperator op ∈ allowedNodes ↔ op.sign?.isSome = true := by
  cases op <;> decide

@[simp] theorem allowed_binOp (left : Expr F C) (op : Operator) (right : Expr F C) :
    (Expr.binOp left op right).allowed = true ↔
      op.operation?.isSome = true ∧ left.allowed = true ∧ right.allowed = true := by
  have hNodes : NodeClass.binOp ∈ allowedNodes ∧ NodeClass.expression ∈ allowedNodes := by decide
  simp [Expr.allowed, Expr.walk, List.all_append, hNodes, ← operator_allowed_iff]

@[simp] theorem allowed_unaryOp (op : UnaryOperator) (operand : Expr F C) :
    (Expr.unaryOp op operand).allowed = true ↔ op.sign?.isSome = true ∧ operand.allowed = true := by
  have hNodes : NodeClass.unaryOp ∈ allowedNodes ∧ NodeClass.expression ∈ allowedNodes := by decide
  simp [Expr.allowed, Expr.walk, hNodes, ← unaryOperator_allowed_iff]

@[simp] theorem allowed_other (cls : OtherClass) (children : List (Expr F C)) :
    (Expr.other cls children).allowed = false := by
  have hNode : NodeClass.other cls ∉ allowedNodes := by cases cls <;> decide
  simp [Expr.allowed, Expr.walk, hNode]

end

/-! ## Evaluation -/

inductive Error where
  | syntaxError
  | unsupported
  | number (error : NumberError)
  | overflow
  | type
  | formatting
  deriving DecidableEq

inductive Step (F C : Type) where
  | sign (sign : Sign) (operand : Value F C)
  | operation (op : Operation) (left right : Value F C)

/-- The parts of Python taken as they are: `ast.parse`, floats, `%` of texts, and the expressions that are never
evaluated here. -/
structure Python (F C : Type) extends Floats F C where
  parse : String → Option (Expr F C)
  formatStr : List Nat → Value F C → Option (List Nat)
  formatBytes : List UInt8 → Value F C → Option (List UInt8)
  rest : Expr F C → Except Error (Value F C)

section

variable {F C : Type}

def Value.number? : Value F C → Option (Number F C)
  | .number n => some n
  | .bool b => some (.int b.toNat)
  | _ => none

def Value.index? (value : Value F C) : Option Int :=
  match value.number? with
  | some (.int i) => some i
  | _ => none

def maxsize : Nat := 2 ^ 63 - 1

def repeated {α : Type} (items : List α) (count : Value F C) : Except Error (List α) :=
  match count.index? with
  | none => .error .type
  | some n =>
    if n < -(maxsize + 1) ∨ maxsize < n ∨ maxsize < items.length * n then .error .overflow
    else .ok (List.replicate n.toNat items).flatten

variable (python : Python F C)

/-- The operators of texts and bytes, and of the values that have none. -/
def Python.sequences (op : Operation) (left right : Value F C) : Except Error (Value F C) :=
  match op, left, right with
  | .plus, .str s, .str t => .ok (.str (s ++ t))
  | .plus, .bytes s, .bytes t => .ok (.bytes (s ++ t))
  | .times, .str s, count => (repeated s count).map .str
  | .times, .bytes s, count => (repeated s count).map .bytes
  | .times, count, .str s => (repeated s count).map .str
  | .times, count, .bytes s => (repeated s count).map .bytes
  | .remainder, .str s, value => (python.formatStr s value).elim (.error .formatting) fun text => .ok (.str text)
  | .remainder, .bytes s, value =>
    (python.formatBytes s value).elim (.error .formatting) fun content => .ok (.bytes content)
  | _, _, _ => .error .type

def Python.result : Step F C → Except Error (Value F C)
  | .sign sign operand =>
    match operand.number? with
    | some n => .ok (.number (python.signed sign n))
    | none => .error .type
  | .operation op left right =>
    match left.number?, right.number? with
    | some n, some m => ((python.binary op n m).mapError .number).map .number
    | _, _ => python.sequences op left right

/-- `eval(compile(node, ...))`: the operands come before the operation, the left one first. -/
def Python.evaluate (python : Python F C) : Expr F C → Except Error (Value F C)
  | .constant value => .ok value
  | .binOp left op right =>
    match op.operation? with
    | none => python.rest (.binOp left op right)
    | some operation =>
      match python.evaluate left with
      | .error error => .error error
      | .ok x =>
        match python.evaluate right with
        | .error error => .error error
        | .ok y => python.result (.operation operation x y)
  | .unaryOp op operand =>
    match op.sign? with
    | none => python.rest (.unaryOp op operand)
    | some sign =>
      match python.evaluate operand with
      | .error error => .error error
      | .ok x => python.result (.sign sign x)
  | .other cls children => python.rest (.other cls children)

def safeCalculator (expr : String) : Except Error (Value F C) :=
  match python.parse expr with
  | none => .error .syntaxError
  | some tree => if tree.allowed then python.evaluate tree else .error .unsupported

end

/-! ## Arithmetic -/

inductive Arithmetic (F C : Type) where
  | literal (value : Number F C)
  | signed (sign : Sign) (operand : Arithmetic F C)
  | operation (op : Operation) (left right : Arithmetic F C)

section

variable {F C : Type}

/-- The number an arithmetic expression denotes, or what goes wrong first from the left. -/
def Arithmetic.denotes (floats : Floats F C) : Arithmetic F C → Except NumberError (Number F C)
  | .literal value => .ok value
  | .signed sign operand => (operand.denotes floats).map (floats.signed sign)
  | .operation op left right =>
    match left.denotes floats, right.denotes floats with
    | .ok n, .ok m => floats.binary op n m
    | .ok _, .error error => .error error
    | .error error, _ => .error error

/-- The parsed expression consists only of numbers, signs and the operations of arithmetic. -/
inductive Reads : Expr F C → Arithmetic F C → Prop
  | literal {value : Number F C} : Reads (.constant (.number value)) (.literal value)
  | signed {op : UnaryOperator} {sign : Sign} {operand : Expr F C} {a : Arithmetic F C} :
      op.sign? = some sign → Reads operand a → Reads (.unaryOp op operand) (.signed sign a)
  | operation {op : Operator} {operation : Operation} {left right : Expr F C} {a b : Arithmetic F C} :
      op.operation? = some operation → Reads left a → Reads right b →
        Reads (.binOp left op right) (.operation operation a b)

theorem Reads.allowed {tree : Expr F C} {a : Arithmetic F C} (h : Reads tree a) : tree.allowed = true := by
  induction h with
  | literal => rfl
  | signed hSign _ ih => exact (allowed_unaryOp _ _).mpr ⟨Option.isSome_of_eq_some hSign, ih⟩
  | operation hOp _ _ ihLeft ihRight =>
    exact (allowed_binOp _ _ _).mpr ⟨Option.isSome_of_eq_some hOp, ihLeft, ihRight⟩

variable {python : Python F C}

theorem evaluate_of_reads {tree : Expr F C} {a : Arithmetic F C} (h : Reads tree a) :
    python.evaluate tree = ((a.denotes python.toFloats).mapError Error.number).map Value.number := by
  induction h with
  | literal => rfl
  | @signed op sign operand a hSign _ ih =>
    rw [Python.evaluate, hSign, Arithmetic.denotes]
    dsimp only
    rw [ih]
    cases a.denotes python.toFloats with
    | error error => rfl
    | ok n => rfl
  | @operation op operation left right a b hOp _ _ ihLeft ihRight =>
    rw [Python.evaluate, hOp, Arithmetic.denotes]
    dsimp only
    rw [ihLeft, ihRight]
    cases a.denotes python.toFloats with
    | error error => rfl
    | ok n =>
      cases b.denotes python.toFloats with
      | error error => rfl
      | ok m => rfl

/-! ## Where an evaluation stops -/

variable (python)

def Refused (step : Step F C) : Prop := ∀ value, python.result step ≠ .ok value

/-- The evaluation of an expression comes to a refused operation: every operand before it has a value. -/
inductive StopsAt : Expr F C → Step F C → Prop
  | operand {op : UnaryOperator} {operand : Expr F C} {step : Step F C} :
      StopsAt operand step → StopsAt (.unaryOp op operand) step
  | sign {op : UnaryOperator} {sign : Sign} {operand : Expr F C} {x : Value F C} :
      op.sign? = some sign → python.evaluate operand = .ok x → Refused python (.sign sign x) →
        StopsAt (.unaryOp op operand) (.sign sign x)
  | left {op : Operator} {left right : Expr F C} {step : Step F C} :
      StopsAt left step → StopsAt (.binOp left op right) step
  | right {op : Operator} {left right : Expr F C} {step : Step F C} {x : Value F C} :
      python.evaluate left = .ok x → StopsAt right step → StopsAt (.binOp left op right) step
  | operation {op : Operator} {operation : Operation} {left right : Expr F C} {x y : Value F C} :
      op.operation? = some operation → python.evaluate left = .ok x → python.evaluate right = .ok y →
        Refused python (.operation operation x y) → StopsAt (.binOp left op right) (.operation operation x y)

variable {python}

theorem StopsAt.refused {tree : Expr F C} {step : Step F C} (h : StopsAt python tree step) : Refused python step := by
  induction h with
  | operand _ ih => exact ih
  | sign _ _ hRefused => exact hRefused
  | left _ ih => exact ih
  | right _ _ ih => exact ih
  | operation _ _ _ hRefused => exact hRefused

theorem refused_of_error {step : Step F C} {error : Error} (h : python.result step = .error error) :
    Refused python step := by
  intro value hValue
  rw [h] at hValue
  contradiction

theorem evaluate_error_iff : ∀ {tree : Expr F C}, tree.allowed = true → ∀ (error : Error),
    python.evaluate tree = .error error ↔ ∃ step, StopsAt python tree step ∧ python.result step = .error error
  | .constant value, _, error => by
    refine ⟨fun h => ?_, fun ⟨step, hStops, _⟩ => nomatch hStops⟩
    rw [Python.evaluate] at h
    contradiction
  | .unaryOp op operand, hAllowed, error => by
    obtain ⟨hSign, hOperand⟩ := (allowed_unaryOp op operand).mp hAllowed
    obtain ⟨sign, hSign⟩ := Option.isSome_iff_exists.mp hSign
    have ih := evaluate_error_iff hOperand
    rw [Python.evaluate, hSign]
    dsimp only
    constructor
    · intro h
      split at h
      · rename_i e hError
        obtain ⟨step, hStops, hResult⟩ := (ih _).mp hError
        exact ⟨step, .operand hStops, by rw [hResult, h]⟩
      · rename_i x hOk
        exact ⟨_, .sign hSign hOk (refused_of_error h), h⟩
    · rintro ⟨step, hStops, hResult⟩
      cases hStops with
      | operand hStops => rw [(ih _).mpr ⟨step, hStops, hResult⟩]
      | sign hOther hOk _ =>
        obtain rfl := Option.some.inj (hSign.symm.trans hOther)
        rw [hOk]
        exact hResult
  | .binOp left op right, hAllowed, error => by
    obtain ⟨hOp, hLeft, hRight⟩ := (allowed_binOp left op right).mp hAllowed
    obtain ⟨operation, hOp⟩ := Option.isSome_iff_exists.mp hOp
    have ihLeft := evaluate_error_iff hLeft
    have ihRight := evaluate_error_iff hRight
    rw [Python.evaluate, hOp]
    dsimp only
    constructor
    · intro h
      split at h
      · rename_i e hError
        obtain ⟨step, hStops, hResult⟩ := (ihLeft _).mp hError
        exact ⟨step, .left hStops, by rw [hResult, h]⟩
      · rename_i x hX
        split at h
        · rename_i e hError
          obtain ⟨step, hStops, hResult⟩ := (ihRight _).mp hError
          exact ⟨step, .right hX hStops, by rw [hResult, h]⟩
        · rename_i y hY
          exact ⟨_, .operation hOp hX hY (refused_of_error h), h⟩
    · rintro ⟨step, hStops, hResult⟩
      cases hStops with
      | left hStops => rw [(ihLeft _).mpr ⟨step, hStops, hResult⟩]
      | right hX hStops => rw [hX, (ihRight _).mpr ⟨step, hStops, hResult⟩]
      | operation hOther hX hY _ =>
        obtain rfl := Option.some.inj (hOp.symm.trans hOther)
        rw [hX, hY]
        exact hResult
  | .other cls children, hAllowed, _ => by
    rw [allowed_other] at hAllowed
    contradiction

def ComplexRemainder : Step F C → Prop
  | .operation .remainder left right =>
    ∃ n m, left.number? = some n ∧ right.number? = some m ∧ (n.isComplex = true ∨ m.isComplex = true)
  | _ => False

theorem lift_ne_complexRemainder (floats : Floats F C) (op : Operation) (n m : Number F C) :
    floats.lift op n m ≠ .error .complexRemainder := by
  rw [Floats.lift]
  cases floats.operate op n m with
  | error error => nofun
  | ok value => nofun

theorem integers_ne_complexRemainder (floats : Floats F C) (op : Operation) (a b : Int) :
    floats.integers op a b ≠ .error .complexRemainder := by
  cases op with
  | plus => exact fun h => by cases h
  | minus => exact fun h => by cases h
  | times => exact fun h => by cases h
  | divide => exact lift_ne_complexRemainder floats _ _ _
  | remainder =>
    rw [Floats.integers]
    split <;> exact fun h => by cases h
  | power =>
    rw [Floats.integers]
    split
    · exact fun h => by cases h
    · exact lift_ne_complexRemainder floats _ _ _

theorem binary_complexRemainder_iff (floats : Floats F C) (op : Operation) (n m : Number F C) :
    floats.binary op n m = .error .complexRemainder ↔
      op = .remainder ∧ (n.isComplex = true ∨ m.isComplex = true) := by
  unfold Floats.binary
  split
  · rename_i a b
    exact ⟨fun h => absurd h (integers_ne_complexRemainder floats op a b), fun h => nomatch h⟩
  · split
    · rename_i h
      exact ⟨fun _ => h, fun _ => rfl⟩
    · rename_i h
      exact ⟨fun hError => absurd hError (lift_ne_complexRemainder floats op n m), fun hHere => absurd hHere h⟩

theorem repeated_ne_number {α : Type} (items : List α) (count : Value F C) (error : NumberError) :
    repeated items count ≠ .error (.number error) := by
  rw [repeated]
  split
  · nofun
  · split <;> nofun

theorem sequences_ne_number (op : Operation) (left right : Value F C) (error : NumberError) :
    python.sequences op left right ≠ .error (.number error) := by
  have hMap {α : Type} (result : Except Error α) (f : α → Value F C) (h : result ≠ .error (.number error)) :
      result.map f ≠ .error (.number error) := by
    cases result with
    | error e => exact fun hSame => h (congrArg Except.error (Except.error.inj hSame))
    | ok value => nofun
  unfold Python.sequences
  split
  · nofun
  · nofun
  · exact hMap _ _ (repeated_ne_number _ _ _)
  · exact hMap _ _ (repeated_ne_number _ _ _)
  · exact hMap _ _ (repeated_ne_number _ _ _)
  · exact hMap _ _ (repeated_ne_number _ _ _)
  · cases python.formatStr _ _ <;> nofun
  · cases python.formatBytes _ _ <;> nofun
  · nofun

theorem result_complexRemainder_iff (step : Step F C) :
    python.result step = .error (.number .complexRemainder) ↔ ComplexRemainder step := by
  cases step with
  | sign sign operand =>
    refine ⟨fun h => ?_, False.elim⟩
    rw [Python.result] at h
    split at h <;> cases h
  | operation op left right =>
    rw [Python.result]
    split
    · rename_i n m hLeft hRight
      have hNumber : ((python.binary op n m).mapError Error.number).map Value.number =
          .error (.number .complexRemainder) ↔ python.binary op n m = .error .complexRemainder := by
        cases python.binary op n m with
        | error error => simp [Except.mapError, Except.map]
        | ok value => simp [Except.mapError, Except.map]
      rw [hNumber, binary_complexRemainder_iff]
      constructor
      · rintro ⟨rfl, hComplex⟩
        exact ⟨n, m, hLeft, hRight, hComplex⟩
      · intro h
        cases op with
        | remainder =>
          obtain ⟨n', m', hLeft', hRight', hComplex⟩ := h
          obtain rfl := Option.some.inj (hLeft.symm.trans hLeft')
          obtain rfl := Option.some.inj (hRight.symm.trans hRight')
          exact ⟨rfl, hComplex⟩
        | _ => exact h.elim
    · rename_i hOther
      refine ⟨fun h => absurd h (sequences_ne_number op left right _), fun h => ?_⟩
      cases op with
      | remainder =>
        obtain ⟨n, m, hLeft, hRight, -⟩ := h
        exact absurd hRight (hOther n m hLeft)
      | _ => exact h.elim

/-! ## What the calculator accepts -/

variable (python)

/-- A value is the number of an arithmetic expression, and an arithmetic expression that neither divides by zero nor
overflows has a value. -/
def AcceptsArithmetic (expr : String) : Prop :=
  (∀ value, safeCalculator python expr = .ok value →
    ∃ tree a n, python.parse expr = some tree ∧ Reads tree a ∧ a.denotes python.toFloats = .ok n ∧ value = .number n) ∧
  ∀ tree a, python.parse expr = some tree → Reads tree a →
    (∀ error, a.denotes python.toFloats ≠ .error (.arithmetic error)) → ∃ value, safeCalculator python expr = .ok value

/-- An allowed expression with a constant that is no number stops at an operation that Python refuses, and one of
numbers does not stop at the remainder of a complex number. -/
def StopsAtOthers (expr : String) : Prop :=
  ∀ tree, python.parse expr = some tree → tree.allowed = true →
    ((∀ a, ¬Reads tree a) → ∃ step, StopsAt python tree step) ∧
      ∀ a, Reads tree a → ∀ step, StopsAt python tree step → ¬ComplexRemainder step

variable {python}

theorem stopsAt_iff {tree : Expr F C} (hAllowed : tree.allowed = true) :
    (∃ step, StopsAt python tree step) ↔ ∀ value, python.evaluate tree ≠ .ok value := by
  constructor
  · rintro ⟨step, hStops⟩ value hOk
    cases hResult : python.result step with
    | error error =>
      have hRaised := (evaluate_error_iff hAllowed error).mpr ⟨step, hStops, hResult⟩
      rw [hOk] at hRaised
      contradiction
    | ok other => exact hStops.refused other hResult
  · intro h
    cases hTree : python.evaluate tree with
    | error error =>
      obtain ⟨step, hStops, -⟩ := (evaluate_error_iff hAllowed error).mp hTree
      exact ⟨step, hStops⟩
    | ok value => exact absurd hTree (h value)

theorem complexRemainder_iff {tree : Expr F C} {a : Arithmetic F C} (h : Reads tree a) :
    (∀ step, StopsAt python tree step → ¬ComplexRemainder step) ↔
      a.denotes python.toFloats ≠ .error .complexRemainder := by
  have hDenotes : a.denotes python.toFloats = .error .complexRemainder ↔
      python.evaluate tree = .error (.number .complexRemainder) := by
    rw [evaluate_of_reads h]
    cases a.denotes python.toFloats with
    | error error => simp [Except.mapError, Except.map]
    | ok value => simp [Except.mapError, Except.map]
  rw [ne_eq, hDenotes, evaluate_error_iff h.allowed]
  simp only [result_complexRemainder_iff]
  push Not
  rfl

theorem values_iff {tree : Expr F C} (hAllowed : tree.allowed = true) :
    (∀ value, python.evaluate tree = .ok value →
        ∃ a n, Reads tree a ∧ a.denotes python.toFloats = .ok n ∧ value = .number n) ↔
      ((∀ a, ¬Reads tree a) → ∃ step, StopsAt python tree step) := by
  rw [stopsAt_iff hAllowed]
  constructor
  · intro h hOther value hOk
    obtain ⟨a, n, hReads, -⟩ := h value hOk
    exact hOther a hReads
  · intro h value hOk
    by_cases hReads : ∃ a, Reads tree a
    · obtain ⟨a, hReads⟩ := hReads
      rw [evaluate_of_reads hReads] at hOk
      cases hDenotes : a.denotes python.toFloats with
      | error error =>
        rw [hDenotes] at hOk
        contradiction
      | ok n =>
        rw [hDenotes] at hOk
        exact ⟨a, n, hReads, hDenotes, (Except.ok.inj hOk).symm⟩
    · exact absurd hOk (h (not_exists.mp hReads) value)

theorem denotes_accepted_iff {tree : Expr F C} {a : Arithmetic F C} (h : Reads tree a) :
    ((∀ error, a.denotes python.toFloats ≠ .error (.arithmetic error)) → ∃ value, python.evaluate tree = .ok value) ↔
      a.denotes python.toFloats ≠ .error .complexRemainder := by
  rw [evaluate_of_reads h]
  cases a.denotes python.toFloats with
  | ok n => exact ⟨fun _ => nofun, fun _ _ => ⟨_, rfl⟩⟩
  | error error =>
    cases error with
    | arithmetic error => exact ⟨fun _ => nofun, fun _ hNone => absurd rfl (hNone error)⟩
    | complexRemainder =>
      constructor
      · intro hAccepted
        obtain ⟨value, hValue⟩ := hAccepted nofun
        contradiction
      · exact fun hNot => absurd rfl hNot

def reading : Python Unit Unit where
  operate _ _ _ := .error .overflow
  negateFloat a := a
  negateComplex a := a
  parse expr :=
    if expr = "'ab' * 3" then
      some (.binOp (.constant (.str ("ab".toList.map Char.toNat))) .mult (.constant (.number (.int 3))))
    else none
  formatStr _ _ := none
  formatBytes _ _ := none
  rest _ := .error .unsupported

end

end FastVoice.Engine.Calculator
