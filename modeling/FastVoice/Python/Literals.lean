import Mathlib.Data.List.Basic

/-! # Python literals

The values that a literal expression can have, their equality, and `ast.literal_eval`. Floats are a
parameter, with what the interpreter does with them.
-/
namespace FastVoice.Python

inductive Number (F : Type) where
  | int (n : Int)
  | float (f : F)
  | complex (re im : F)

inductive Value (F : Type) where
  | none
  | bool (b : Bool)
  | number (n : Number F)
  | str (s : String)
  | bytes (bytes : List UInt8)
  | ellipsis
  | list (items : List (Value F))
  | tuple (items : List (Value F))
  | set (items : List (Value F))
  | dict (entries : List (Value F × Value F))

/-- What the interpreter does with floats, and the text and order of its values. -/
structure Interpreter (F : Type) where
  literal : String → F
  ofInt : Int → Option F
  eq : Number F → Number F → Bool
  lt : Number F → Number F → Bool
  neg : Number F → Number F
  /-- A number plus, or minus, an imaginary one, `none` for an overflow. -/
  sum : Number F → Bool → Number F → Option (Number F)
  floatText : F → String
  repr : Value F → Option String
  quote : String → String
  /-- `sorted(values)[0]`, `none` for values that have no order. -/
  least : List (Value F) → Option (Value F)
  /-- Whether `re.search` finds a pattern in a text. -/
  search : String → String → Bool

section

variable {F : Type}

namespace Value

/-- Booleans are integers. -/
def numeric : Value F → Option (Number F)
  | .bool b => some (.int b.toInt)
  | .number n => some n
  | _ => Option.none

def isNone : Value F → Bool
  | .none => true
  | _ => false

def int (n : Int) : Value F := .number (.int n)

def float (f : F) : Value F := .number (.float f)

mutual

def eq (py : Interpreter F) : Value F → Value F → Bool
  | .none, .none => true
  | .ellipsis, .ellipsis => true
  | .str s, .str t => s = t
  | .bytes b, .bytes c => b = c
  | .list v, .list w => eqAll py v w
  | .tuple v, .tuple w => eqAll py v w
  | .set v, .set w => v.length = w.length && allIn py v w
  | .dict v, .dict w => v.length = w.length && entriesIn py v w
  | .bool b, w => w.numeric.any (py.eq (.int b.toInt))
  | .number m, w => w.numeric.any (py.eq m)
  | _, _ => false

def eqAll (py : Interpreter F) : List (Value F) → List (Value F) → Bool
  | [], [] => true
  | v :: values, w :: others => v.eq py w && eqAll py values others
  | _, _ => false

def allIn (py : Interpreter F) : List (Value F) → List (Value F) → Bool
  | [], _ => true
  | v :: values, others => others.any (v.eq py ·) && allIn py values others

def entriesIn (py : Interpreter F) :
    List (Value F × Value F) → List (Value F × Value F) → Bool
  | [], _ => true
  | (key, v) :: entries, others =>
    others.any (fun other => key.eq py other.1 && v.eq py other.2) && entriesIn py entries others

end

mutual

def hashable : Value F → Bool
  | .list _ => false
  | .set _ => false
  | .dict _ => false
  | .tuple items => allHashable items
  | _ => true

def allHashable : List (Value F) → Bool
  | [] => true
  | v :: values => v.hashable && allHashable values

end

def setItem (py : Interpreter F) (key v : Value F) :
    List (Value F × Value F) → List (Value F × Value F)
  | [] => [(key, v)]
  | entry :: entries =>
    if entry.1.eq py key then (entry.1, v) :: entries else entry :: setItem py key v entries

def setAdd (py : Interpreter F) (items : List (Value F)) (v : Value F) : List (Value F) :=
  if items.any (·.eq py v) then items else items ++ [v]

end Value

inductive UnaryOp where
  | uAdd
  | uSub
  | other
  deriving DecidableEq

inductive BinOp where
  | add
  | sub
  | other
  deriving DecidableEq

inductive Expr (F : Type) where
  | constant (value : Value F)
  | name (id : String)
  | attribute (value : Expr F) (attr : String)
  | tuple (elts : List (Expr F))
  | list (elts : List (Expr F))
  | set (elts : List (Expr F))
  | dict (entries : List (Expr F × Expr F))
  | unaryOp (op : UnaryOp) (operand : Expr F)
  | binOp (left : Expr F) (op : BinOp) (right : Expr F)
  | call (func : Expr F) (args : List (Expr F)) (keywords : List (Option String × Expr F))
  | starred (value : Expr F)
  | none
  | other

inductive LiteralError where
  /-- `ValueError` and `TypeError`. -/
  | malformed
  | overflowError
  deriving DecidableEq

abbrev Literal := Except LiteralError

def convertNum : Expr F → Literal (Number F)
  | .constant (.number n) => .ok n
  | _ => .error .malformed

def convertSignedNum (py : Interpreter F) : Expr F → Literal (Number F)
  | .unaryOp .uAdd operand => convertNum operand
  | .unaryOp .uSub operand => (convertNum operand).map py.neg
  | node => convertNum node

/-- A real number with an imaginary one; anything else is read as a signed number. -/
def convertSum (py : Interpreter F) (left : Expr F) (minus : Bool) (right : Expr F) :
    Literal (Number F) := do
  let m ← convertSignedNum py left
  let n ← convertNum right
  match m, n with
  | .complex _ _, _ => .error .malformed
  | m, .complex re im =>
    match py.sum m minus (.complex re im) with
    | some total => .ok total
    | Option.none => .error .overflowError
  | _, _ => .error .malformed

mutual

def literalEval (py : Interpreter F) : Expr F → Literal (Value F)
  | .constant value => .ok value
  | .tuple elts => (literalEvalAll py elts).map .tuple
  | .list elts => (literalEvalAll py elts).map .list
  | .set elts => (literalEvalSet py elts []).map .set
  | .dict entries => (literalEvalDict py entries []).map .dict
  | .call (.name "set") [] [] => .ok (.set [])
  | .binOp left .add right => (convertSum py left false right).map .number
  | .binOp left .sub right => (convertSum py left true right).map .number
  | node => (convertSignedNum py node).map .number

def literalEvalAll (py : Interpreter F) : List (Expr F) → Literal (List (Value F))
  | [] => .ok []
  | elt :: elts => do
    let v ← literalEval py elt
    let values ← literalEvalAll py elts
    return v :: values

def literalEvalSet (py : Interpreter F) :
    List (Expr F) → List (Value F) → Literal (List (Value F))
  | [], items => .ok items
  | elt :: elts, items => do
    let v ← literalEval py elt
    if v.hashable then literalEvalSet py elts (Value.setAdd py items v)
    else .error .malformed

def literalEvalDict (py : Interpreter F) :
    List (Expr F × Expr F) → List (Value F × Value F) → Literal (List (Value F × Value F))
  | [], entries => .ok entries
  | (key, value) :: rest, entries => do
    let k ← literalEval py key
    let v ← literalEval py value
    if k.hashable then literalEvalDict py rest (Value.setItem py k v entries)
    else .error .malformed

end

structure Position where
  line : Nat
  column : Nat
  deriving DecidableEq

/-- A statement with its position, and that of its value. -/
inductive Stmt (F : Type) where
  | importing
  | assign (targets : List (Expr F)) (value : Expr F) (position valuePosition : Position)
  | expr (value : Expr F) (position valuePosition : Position)
  | other (position : Position)

namespace Stmt

def isImport : Stmt F → Bool
  | .importing => true
  | _ => false

def unplaced : Stmt F → Stmt F
  | .importing => .importing
  | .assign targets value _ _ => .assign targets value ⟨0, 0⟩ ⟨0, 0⟩
  | .expr value _ _ => .expr value ⟨0, 0⟩ ⟨0, 0⟩
  | .other _ => .other ⟨0, 0⟩

end Stmt

structure SyntaxError where
  message : String
  line : Option Nat
  column : Option Nat
  deriving DecidableEq

end

end FastVoice.Python
