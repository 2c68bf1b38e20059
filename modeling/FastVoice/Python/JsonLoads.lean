import FastVoice.Python.Json
import Mathlib.Data.Option.Basic

/-! # What `json.loads` reads

The reader goes through the text once, with the containers that are open on a stack. A container's own text ends where
its bracket is closed, whatever comes behind it.
-/
namespace FastVoice.Python.Loads
open Json

/-- A value that was read. A number keeps its text, and a string its code points. -/
inductive Value where
  | null
  | bool (b : Bool)
  | number (text : List Char)
  | str (codes : List Nat)
  | arr (items : List Value)
  | obj (entries : List (List Nat × Value))

inductive Kind where
  | object
  | array
  deriving DecidableEq

namespace Kind

def opening : Kind → Char
  | object => Char.ofNat 123
  | array => '['

def closing : Kind → Char
  | object => Char.ofNat 125
  | array => ']'

end Kind

def Value.kind? : Value → Option Kind
  | .arr _ => some .array
  | .obj _ => some .object
  | _ => none

def put (key : List Nat) (value : Value) : List (List Nat × Value) → List (List Nat × Value)
  | [] => [(key, value)]
  | entry :: entries => if entry.1 = key then (key, value) :: entries else entry :: put key value entries

/-- A container that is open, with the key whose value is read. -/
inductive Frame where
  | items (items : List Value)
  | entries (entries : List (List Nat × Value)) (key : List Nat)

def Frame.kind : Frame → Kind
  | .items _ => .array
  | .entries _ _ => .object

inductive NumberPhase where
  | minus
  | zero
  | int
  | point
  | fraction
  | exponent
  | exponentSign
  | exponentDigits

namespace NumberPhase

def next (c : Char) : NumberPhase → Option NumberPhase
  | minus => if c = '0' then some zero else if c.isDigit then some int else none
  | zero => if c = '.' then some point else if c = 'e' ∨ c = 'E' then some exponent else none
  | int =>
    if c.isDigit then some int
    else if c = '.' then some point
    else if c = 'e' ∨ c = 'E' then some exponent
    else none
  | point => if c.isDigit then some fraction else none
  | fraction => if c.isDigit then some fraction else if c = 'e' ∨ c = 'E' then some exponent else none
  | exponent =>
    if c = '+' ∨ c = '-' then some exponentSign else if c.isDigit then some exponentDigits else none
  | exponentSign => if c.isDigit then some exponentDigits else none
  | exponentDigits => if c.isDigit then some exponentDigits else none

def isComplete : NumberPhase → Bool
  | zero => true
  | int => true
  | fraction => true
  | exponentDigits => true
  | _ => false

end NumberPhase

inductive StringPhase where
  | plain
  | escaped
  | unicode (digits : Nat) (code : Nat)

inductive Word where
  | null
  | true
  | false
  | nan
  | infinity
  | minusInfinity

namespace Word

def text : Word → List Char
  | null => "null".toList
  | true => "true".toList
  | false => "false".toList
  | nan => "NaN".toList
  | infinity => "Infinity".toList
  | minusInfinity => "-Infinity".toList

def value : Word → Value
  | null => .null
  | true => .bool .true
  | false => .bool .false
  | word => .number word.text

end Word

inductive Mode where
  | value
  | firstItem
  | firstKey
  | nextKey
  | colon
  | more
  | str (isKey : Bool) (codes : List Nat) (phase : StringPhase)
  | number (text : List Char) (phase : NumberPhase)
  | word (word : Word) (read : Nat)
  | done (value : Value)

structure State where
  mode : Mode
  stack : List Frame

def isBlank (c : Char) : Bool := c = ' ' || c = '\t' || c = '\n' || c = '\r'

def completed (value : Value) : List Frame → State
  | [] => ⟨.done value, []⟩
  | .items items :: stack => ⟨.more, .items (items ++ [value]) :: stack⟩
  | .entries entries key :: stack => ⟨.more, .entries (put key value entries) [] :: stack⟩

def words : List (Char × Word) :=
  [('n', .null), ('t', .true), ('f', .false), ('N', .nan), ('I', .infinity)]

def scalarStart (c : Char) : Option Mode :=
  if c = quote then some (.str false [] .plain)
  else if c = '-' then some (.number [c] .minus)
  else if c.isDigit then some (.number [c] (if c = '0' then .zero else .int))
  else (words.lookup c).map fun word => .word word 1

def started (c : Char) (stack : List Frame) : Option State :=
  if c = Kind.object.opening then some ⟨.firstKey, .entries [] [] :: stack⟩
  else if c = Kind.array.opening then some ⟨.firstItem, .items [] :: stack⟩
  else (scalarStart c).map fun mode => ⟨mode, stack⟩

def closed (kind : Kind) (stack : List Frame) : Option State :=
  match kind, stack with
  | .array, .items items :: stack => some (completed (.arr items) stack)
  | .object, .entries entries _ :: stack => some (completed (.obj entries) stack)
  | _, _ => none

def followed (c : Char) (state : State) : Option State :=
  if isBlank c then some state
  else
    match state.mode, state.stack with
    | .more, .items _ :: _ =>
      if c = ',' then some ⟨.value, state.stack⟩
      else if c = Kind.array.closing then closed .array state.stack
      else none
    | .more, .entries _ _ :: _ =>
      if c = ',' then some ⟨.nextKey, state.stack⟩
      else if c = Kind.object.closing then closed .object state.stack
      else none
    | _, _ => none

def surrogate (high low : Nat) : Nat := 0x10000 + (high - 0xD800) * 0x400 + (low - 0xDC00)

/-- A low surrogate behind a high one makes one character with it. -/
def pushCode (codes : List Nat) (code : Nat) : List Nat :=
  match codes.getLast? with
  | some high =>
    if 0xD800 ≤ high ∧ high < 0xDC00 ∧ 0xDC00 ≤ code ∧ code < 0xE000 then codes.dropLast ++ [surrogate high code]
    else codes ++ [code]
  | none => [code]

def escapes : List (Char × Nat) :=
  [(quote, 34), (backslash, 92), ('/', 47), ('b', 8), ('f', 12), ('n', 10), ('r', 13), ('t', 9)]

def hexDigit? (c : Char) : Option Nat :=
  if c.isDigit then some (c.toNat - 48)
  else if 'a' ≤ c ∧ c ≤ 'f' then some (c.toNat - 87)
  else if 'A' ≤ c ∧ c ≤ 'F' then some (c.toNat - 55)
  else none

def strStep (isKey : Bool) (codes : List Nat) (phase : StringPhase) (stack : List Frame) (c : Char) : Option State :=
  match phase with
  | .plain =>
    if c = quote then
      match isKey, stack with
      | false, stack => some (completed (.str codes) stack)
      | true, .entries entries _ :: stack => some ⟨.colon, .entries entries codes :: stack⟩
      | true, _ => none
    else if c = backslash then some ⟨.str isKey codes .escaped, stack⟩
    else if c.toNat < 32 then none
    else some ⟨.str isKey (codes ++ [c.toNat]) .plain, stack⟩
  | .escaped =>
    if c = 'u' then some ⟨.str isKey codes (.unicode 0 0), stack⟩
    else (escapes.lookup c).map fun code => ⟨.str isKey (codes ++ [code]) .plain, stack⟩
  | .unicode digits code =>
    (hexDigit? c).map fun digit =>
      if digits = 3 then ⟨.str isKey (pushCode codes (16 * code + digit)) .plain, stack⟩
      else ⟨.str isKey codes (.unicode (digits + 1) (16 * code + digit)), stack⟩

def numberStep (text : List Char) (phase : NumberPhase) (stack : List Frame) (c : Char) : Option State :=
  match phase.next c with
  | some phase => some ⟨.number (text ++ [c]) phase, stack⟩
  | none =>
    if phase.isComplete then followed c (completed (.number text) stack)
    else
      match phase with
      | .minus => if c = 'I' then some ⟨.word .minusInfinity 2, stack⟩ else none
      | _ => none

def wordStep (word : Word) (read : Nat) (stack : List Frame) (c : Char) : Option State :=
  if word.text[read]? = some c then
    some (if word.text.length ≤ read + 1 then completed word.value stack else ⟨.word word (read + 1), stack⟩)
  else none

def step (state : State) (c : Char) : Option State :=
  match state.mode with
  | .str isKey codes phase => strStep isKey codes phase state.stack c
  | .number text phase => numberStep text phase state.stack c
  | .word word read => wordStep word read state.stack c
  | .more => followed c state
  | .done _ => followed c state
  | .value => if isBlank c then some state else started c state.stack
  | .firstItem =>
    if isBlank c then some state
    else if c = Kind.array.closing then closed .array state.stack
    else started c state.stack
  | .firstKey =>
    if isBlank c then some state
    else if c = quote then some ⟨.str true [] .plain, state.stack⟩
    else if c = Kind.object.closing then closed .object state.stack
    else none
  | .nextKey =>
    if isBlank c then some state else if c = quote then some ⟨.str true [] .plain, state.stack⟩ else none
  | .colon => if isBlank c then some state else if c = ':' then some ⟨.value, state.stack⟩ else none

def readFrom (state : State) (text : List Char) : Option State := text.foldlM step state

def finished (state : State) : Option Value :=
  match state.mode, state.stack with
  | .done value, [] => some value
  | .number text phase, [] => if phase.isComplete then some (.number text) else none
  | _, _ => none

def loads (text : List Char) : Option Value := (readFrom ⟨.value, []⟩ text).bind finished

end FastVoice.Python.Loads
