import FastVoice.Runtime.Replacing
import FastVoice.Runtime.Text

/-! # JSON documents as text

The text of `json.dumps`, in which a character outside printable ASCII is escaped. A replacement in the
text, of something that needs no escapes and starts with a capital, is one in every string of the document.
-/
namespace FastVoice.Python
open Replacing

def numberChars : List Char := "0123456789-+.e".toList

structure JsonNumber where
  text : List Char
  chars : ∀ c ∈ text, c ∈ numberChars
  nonempty : text ≠ []

theorem JsonNumber.noCapital (n : JsonNumber) : ∀ c ∈ n.text, c.isUpper = false := by
  have hAll : ∀ c ∈ numberChars, c.isUpper = false := Text.forall_of_all (by decide)
  exact fun c hc => hAll c (n.chars c hc)

inductive Json where
  | null
  | bool (b : Bool)
  | number (n : JsonNumber)
  | str (s : String)
  | arr (items : List Json)
  | obj (entries : List (String × Json))

namespace Json

def quote : Char := Char.ofNat 34

def backslash : Char := Char.ofNat 92

def unicodeEscape (n : Nat) : List Char :=
  [backslash, 'u', (n / 4096 % 16).digitChar, (n / 256 % 16).digitChar, (n / 16 % 16).digitChar,
    (n % 16).digitChar]

def escapeTable : List (Nat × Char) :=
  [(34, quote), (92, backslash), (10, 'n'), (13, 'r'), (9, 't'), (12, 'f'), (8, 'b')]

def escapeChar (c : Char) : List Char :=
  let n := c.toNat
  match escapeTable.lookup n with
  | some second => [backslash, second]
  | none =>
    if 32 ≤ n ∧ n ≤ 126 then
      [c]
    else if n < 0x10000 then
      unicodeEscape n
    else
      unicodeEscape (0xD800 + (n - 0x10000) / 0x400) ++ unicodeEscape (0xDC00 + (n - 0x10000) % 0x400)

def escape (text : List Char) : List Char := text.flatMap escapeChar

def quoted (s : String) : List Char := quote :: (escape s.toList ++ [quote])

theorem isUpper_digitChar (n : Nat) : (n % 16).digitChar.isUpper = false := by
  have hAll : ∀ n < 16, (Nat.digitChar n).isUpper = false := by decide
  exact hAll _ (Nat.mod_lt _ (by decide))

theorem mem_of_lookup {α β : Type} [BEq α] [LawfulBEq α] {entries : List (α × β)} {key : α} {value : β}
    (h : entries.lookup key = some value) : (key, value) ∈ entries := by
  obtain ⟨first, rest, hEntries, -⟩ := List.lookup_eq_some_iff.mp h
  rw [hEntries]
  simp

theorem unicodeEscape_noCapital (n : Nat) : ∀ c ∈ unicodeEscape n, c.isUpper = false := by
  have hBackslash : backslash.isUpper = false := by decide
  simp [unicodeEscape, isUpper_digitChar, hBackslash]

theorem escapeChar_cases (c : Char) : escapeChar c = [c] ∨
    escapeChar c ≠ [c] ∧ (escapeChar c).head? = some backslash ∧ ∀ x ∈ escapeChar c, x.isUpper = false := by
  by_cases hPlain : escapeChar c = [c]
  · exact .inl hPlain
  · refine .inr ⟨hPlain, ?_⟩
    revert hPlain
    rw [escapeChar]
    cases hTable : escapeTable.lookup c.toNat with
    | some second =>
      intro _
      have hAll : ∀ entry ∈ escapeTable, entry.2.isUpper = false := by decide
      have hSecond := hAll _ (mem_of_lookup hTable)
      have hBackslash : backslash.isUpper = false := by decide
      simp [hSecond, hBackslash]
    | none =>
      intro hPlain
      dsimp only at hPlain ⊢
      split
      · next hPrintable =>
        rw [if_pos hPrintable] at hPlain
        exact absurd rfl hPlain
      · split
        · exact ⟨rfl, unicodeEscape_noCapital _⟩
        · refine ⟨rfl, fun x hx => ?_⟩
          exact (List.mem_append.mp hx).elim (unicodeEscape_noCapital _ x) (unicodeEscape_noCapital _ x)

theorem escapeChar_backslash : escapeChar backslash ≠ [backslash] := by decide

theorem escape_append (text more : List Char) : escape (text ++ more) = escape text ++ escape more := by
  exact List.flatMap_append

def Plain (text : List Char) : Prop := ∀ c ∈ text, escapeChar c = [c]

instance (text : List Char) : Decidable (Plain text) :=
  List.decidableBAll _ text

theorem escape_plain {text : List Char} (h : Plain text) : escape text = text := by
  induction text with
  | nil => rfl
  | cons c text ih =>
    obtain ⟨hFirst, hRest⟩ := List.forall_mem_cons.mp h
    have hText := ih hRest
    rw [escape] at hText
    rw [escape, List.flatMap_cons, hFirst, hText, List.singleton_append]

theorem prefix_of_prefix_escape {pattern text : List Char} (hPlain : Plain pattern)
    (h : pattern <+: escape text) : pattern <+: text := by
  induction pattern generalizing text with
  | nil => exact List.nil_prefix
  | cons x pattern ih =>
    obtain ⟨hFirst, hRest⟩ := List.forall_mem_cons.mp hPlain
    cases text with
    | nil => exact absurd (List.prefix_nil.mp h) (List.cons_ne_nil _ _)
    | cons c text =>
      rw [escape, List.flatMap_cons] at h
      obtain hSelf | ⟨-, hHead, -⟩ := escapeChar_cases c
      · rw [hSelf, List.singleton_append, List.cons_prefix_cons] at h
        exact List.cons_prefix_cons.mpr ⟨h.1, ih hRest h.2⟩
      · exfalso
        obtain ⟨rest, hRest⟩ := List.head?_eq_some_iff.mp hHead
        rw [hRest, List.cons_append, List.cons_prefix_cons] at h
        exact escapeChar_backslash (h.1 ▸ hFirst)

mutual

def dumps : Json → List Char
  | .null => "null".toList
  | .bool true => "true".toList
  | .bool false => "false".toList
  | .number n => n.text
  | .str s => quoted s
  | .arr items => "[".toList ++ (dumpsItems items ++ "]".toList)
  | .obj entries => "\x7b".toList ++ (dumpsEntries entries ++ "\x7d".toList)

def dumpsItems : List Json → List Char
  | [] => []
  | item :: items => dumps item ++ dumpsMoreItems items

def dumpsMoreItems : List Json → List Char
  | [] => []
  | item :: items => ", ".toList ++ (dumps item ++ dumpsMoreItems items)

def dumpsEntries : List (String × Json) → List Char
  | [] => []
  | (key, value) :: entries => quoted key ++ (": ".toList ++ (dumps value ++ dumpsMoreEntries entries))

def dumpsMoreEntries : List (String × Json) → List Char
  | [] => []
  | (key, value) :: entries =>
    ", ".toList ++ (quoted key ++ (": ".toList ++ (dumps value ++ dumpsMoreEntries entries)))

end

mutual

def mapStrings (f : String → String) : Json → Json
  | .null => .null
  | .bool b => .bool b
  | .number n => .number n
  | .str s => .str (f s)
  | .arr items => .arr (mapItems f items)
  | .obj entries => .obj (mapEntries f entries)

def mapItems (f : String → String) : List Json → List Json
  | [] => []
  | item :: items => item.mapStrings f :: mapItems f items

def mapEntries (f : String → String) : List (String × Json) → List (String × Json)
  | [] => []
  | (key, value) :: entries => (f key, value.mapStrings f) :: mapEntries f entries

end

structure Replaceable (pattern new : List Char) : Prop where
  plain : Plain pattern
  plainNew : Plain new
  capital : ∃ c ∈ pattern.head?, c.isUpper = true

variable {pattern new : List Char}

namespace Replaceable

theorem ne_nil (h : Replaceable pattern new) : pattern ≠ [] := by
  rintro rfl
  obtain ⟨c, hc, -⟩ := h.capital
  cases hc

theorem replace_append (h : Replaceable pattern new) {text : List Char}
    (hText : ∀ c ∈ text, c.isUpper = false) (v : List Char) :
    replace pattern new (text ++ v) = text ++ replace pattern new v := by
  apply replace_append_of_head _ h.ne_nil
  intro c hc hHead
  obtain ⟨first, hFirst, hUpper⟩ := h.capital
  rw [hHead] at hFirst
  cases hFirst
  rw [hText c hc] at hUpper
  cases hUpper

theorem quote_notMem (h : Replaceable pattern new) : quote ∉ pattern := by
  intro hMem
  exact absurd (h.plain quote hMem) (by decide)

theorem replace_escape (h : Replaceable pattern new) (text : List Char) :
    replace pattern new (escape text) = escape (replace pattern new text) := by
  induction hn : text.length using Nat.strong_induction_on generalizing text with
  | _ n ih =>
    by_cases hHere : pattern <+: text
    · obtain ⟨rest, rfl⟩ := hHere
      have hPositive : 0 < pattern.length := List.length_pos_of_ne_nil h.ne_nil
      have hShorter : rest.length < n := by
        rw [← hn, List.length_append]
        omega
      rw [escape_append, escape_plain h.plain, replace_append_self h.ne_nil,
        replace_append_self h.ne_nil, ih _ hShorter rest rfl, escape_append, escape_plain h.plainNew]
    · cases text with
      | nil => rfl
      | cons c text =>
        have hShorter : text.length < n := by
          rw [← hn]
          exact Nat.lt_succ_self _
        have hRest := ih _ hShorter text rfl
        have hEscape : ∀ rest, escape (c :: rest) = escapeChar c ++ escape rest := fun rest =>
          List.flatMap_cons
        rw [replace_cons hHere, hEscape, hEscape, ← hRest]
        obtain hSelf | ⟨-, -, hNoCapital⟩ := escapeChar_cases c
        · have hMissing : ¬pattern <+: c :: escape text := by
            intro hPrefix
            apply hHere
            apply prefix_of_prefix_escape h.plain
            rwa [hEscape, hSelf, List.singleton_append]
          rw [hSelf, List.singleton_append, replace_cons hMissing, List.singleton_append]
        · exact h.replace_append hNoCapital _

def inString (pattern new : List Char) (s : String) : String :=
  String.ofList (replace pattern new s.toList)

theorem replace_quoted (h : Replaceable pattern new) (s : String) (v : List Char) :
    replace pattern new (quoted s ++ v) = quoted (inString pattern new s) ++ replace pattern new v := by
  have hQuote : ∀ c ∈ [quote], c.isUpper = false := Text.forall_of_all (by decide)
  have hOpen := h.replace_append hQuote (escape s.toList ++ quote :: v)
  rw [replace_append_cons h.quote_notMem h.ne_nil, h.replace_escape] at hOpen
  simpa [quoted, inString] using hOpen

mutual

theorem replace_dumps (h : Replaceable pattern new) : (document : Json) → (v : List Char) →
    replace pattern new (document.dumps ++ v) =
      (document.mapStrings (inString pattern new)).dumps ++ replace pattern new v
  | .null, v => h.replace_append (Text.forall_of_all (by decide)) v
  | .bool true, v => h.replace_append (Text.forall_of_all (by decide)) v
  | .bool false, v => h.replace_append (Text.forall_of_all (by decide)) v
  | .number n, v => h.replace_append n.noCapital v
  | .str s, v => h.replace_quoted s v
  | .arr items, v => by
    have hOpen : ∀ c ∈ "[".toList, c.isUpper = false := Text.forall_of_all (by decide)
    have hClose : ∀ c ∈ "]".toList, c.isUpper = false := Text.forall_of_all (by decide)
    rw [dumps, List.append_assoc, List.append_assoc, h.replace_append hOpen, h.replace_dumpsItems,
      h.replace_append hClose, mapStrings, dumps, List.append_assoc, List.append_assoc]
  | .obj entries, v => by
    have hOpen : ∀ c ∈ "\x7b".toList, c.isUpper = false := Text.forall_of_all (by decide)
    have hClose : ∀ c ∈ "\x7d".toList, c.isUpper = false := Text.forall_of_all (by decide)
    rw [dumps, List.append_assoc, List.append_assoc, h.replace_append hOpen, h.replace_dumpsEntries,
      h.replace_append hClose, mapStrings, dumps, List.append_assoc, List.append_assoc]

theorem replace_dumpsItems (h : Replaceable pattern new) : (items : List Json) → (v : List Char) →
    replace pattern new (dumpsItems items ++ v) =
      dumpsItems (mapItems (inString pattern new) items) ++ replace pattern new v
  | [], v => rfl
  | item :: items, v => by
    rw [dumpsItems, List.append_assoc, h.replace_dumps, h.replace_dumpsMoreItems, mapItems, dumpsItems,
      List.append_assoc]

theorem replace_dumpsMoreItems (h : Replaceable pattern new) : (items : List Json) →
    (v : List Char) → replace pattern new (dumpsMoreItems items ++ v) =
      dumpsMoreItems (mapItems (inString pattern new) items) ++ replace pattern new v
  | [], v => rfl
  | item :: items, v => by
    have hComma : ∀ c ∈ ", ".toList, c.isUpper = false := Text.forall_of_all (by decide)
    rw [dumpsMoreItems, List.append_assoc, List.append_assoc, h.replace_append hComma,
      h.replace_dumps, h.replace_dumpsMoreItems, mapItems, dumpsMoreItems, List.append_assoc,
      List.append_assoc]

theorem replace_dumpsEntries (h : Replaceable pattern new) : (entries : List (String × Json)) →
    (v : List Char) → replace pattern new (dumpsEntries entries ++ v) =
      dumpsEntries (mapEntries (inString pattern new) entries) ++ replace pattern new v
  | [], v => rfl
  | (key, value) :: entries, v => by
    have hColon : ∀ c ∈ ": ".toList, c.isUpper = false := Text.forall_of_all (by decide)
    rw [dumpsEntries, List.append_assoc, List.append_assoc, List.append_assoc, h.replace_quoted,
      h.replace_append hColon, h.replace_dumps, h.replace_dumpsMoreEntries, mapEntries, dumpsEntries,
      List.append_assoc, List.append_assoc, List.append_assoc]

theorem replace_dumpsMoreEntries (h : Replaceable pattern new) :
    (entries : List (String × Json)) → (v : List Char) →
    replace pattern new (dumpsMoreEntries entries ++ v) =
      dumpsMoreEntries (mapEntries (inString pattern new) entries) ++ replace pattern new v
  | [], v => rfl
  | (key, value) :: entries, v => by
    have hComma : ∀ c ∈ ", ".toList, c.isUpper = false := Text.forall_of_all (by decide)
    have hColon : ∀ c ∈ ": ".toList, c.isUpper = false := Text.forall_of_all (by decide)
    rw [dumpsMoreEntries, List.append_assoc, List.append_assoc, List.append_assoc, List.append_assoc,
      h.replace_append hComma, h.replace_quoted, h.replace_append hColon, h.replace_dumps,
      h.replace_dumpsMoreEntries, mapEntries, dumpsMoreEntries, List.append_assoc, List.append_assoc,
      List.append_assoc, List.append_assoc]

end

end Replaceable

end Json

end FastVoice.Python

/-! # Equality of documents -/
namespace FastVoice.Python

theorem JsonNumber.eq_of_text {n m : JsonNumber} (h : n.text = m.text) : n = m := by
  cases n
  cases m
  cases h
  rfl

namespace Json

mutual

def same : Json → Json → Bool
  | .null, .null => true
  | .bool b, .bool b' => b == b'
  | .number n, .number n' => n.text == n'.text
  | .str s, .str s' => s == s'
  | .arr items, .arr items' => sameItems items items'
  | .obj entries, .obj entries' => sameEntries entries entries'
  | _, _ => false

def sameItems : List Json → List Json → Bool
  | [], [] => true
  | item :: items, item' :: items' => same item item' && sameItems items items'
  | _, _ => false

def sameEntries : List (String × Json) → List (String × Json) → Bool
  | [], [] => true
  | (key, value) :: entries, (key', value') :: entries' =>
    key == key' && (same value value' && sameEntries entries entries')
  | _, _ => false

end

mutual

theorem same_iff : (j j' : Json) → (same j j' = true ↔ j = j')
  | .null, j' => by cases j' <;> simp [same]
  | .bool b, j' => by cases j' <;> simp [same]
  | .number n, j' => by
    cases j' with
    | number n' =>
      rw [same, beq_iff_eq, number.injEq]
      exact ⟨JsonNumber.eq_of_text, congrArg JsonNumber.text⟩
    | _ => simp [same]
  | .str s, j' => by cases j' <;> simp [same]
  | .arr items, j' => by cases j' <;> simp [same, sameItems_iff items]
  | .obj entries, j' => by cases j' <;> simp [same, sameEntries_iff entries]

theorem sameItems_iff : (items items' : List Json) → (sameItems items items' = true ↔ items = items')
  | [], items' => by cases items' <;> simp [sameItems]
  | item :: items, items' => by
    cases items' <;> simp [sameItems, same_iff item, sameItems_iff items]

theorem sameEntries_iff : (entries entries' : List (String × Json)) →
    (sameEntries entries entries' = true ↔ entries = entries')
  | [], entries' => by cases entries' <;> simp [sameEntries]
  | (key, value) :: entries, entries' => by
    cases entries' <;> simp [sameEntries, same_iff value, sameEntries_iff entries, Prod.ext_iff, and_assoc]

end

instance : DecidableEq Json := fun j j' => decidable_of_iff _ (same_iff j j')

end Json

end FastVoice.Python
