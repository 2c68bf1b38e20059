import FastVoice.Python.Json
import Mathlib.Data.List.TakeWhile

/-! # A document is read back from its text

The text of a document, before anything that does not go on with it, determines the document and what
comes behind it.
-/
namespace FastVoice.Python.Json

def hexValue (c : Char) : Nat := if c.isDigit then c.toNat - 48 else c.toNat - 87

theorem hexValue_digitChar (n : Nat) : hexValue (n % 16).digitChar = n % 16 := by
  have hAll : ∀ n < 16, hexValue (Nat.digitChar n) = n := by decide
  exact hAll _ (Nat.mod_lt _ (by decide))

def readUnicode : List Char → Nat × List Char
  | _ :: _ :: a :: b :: c :: d :: rest =>
    (4096 * hexValue a + 256 * hexValue b + 16 * hexValue c + hexValue d, rest)
  | text => (0, text)

def readChar (text : List Char) : Char × List Char :=
  if text.head? = some backslash then
    match text.tail.head?.bind fun second => escapeTable.find? fun entry => entry.2 = second with
    | some entry => (Char.ofNat entry.1, text.tail.tail)
    | none =>
      let high := readUnicode text
      if 0xD800 ≤ high.1 ∧ high.1 < 0xDC00 then
        let low := readUnicode high.2
        (Char.ofNat (0x10000 + (high.1 - 0xD800) * 0x400 + (low.1 - 0xDC00)), low.2)
      else
        (Char.ofNat high.1, high.2)
  else
    (text.headD backslash, text.tail)

theorem readUnicode_unicodeEscape {n : Nat} (h : n < 0x10000) (rest : List Char) :
    readUnicode (unicodeEscape n ++ rest) = (n, rest) := by
  simp only [unicodeEscape, List.cons_append, List.nil_append, readUnicode, hexValue_digitChar,
    Prod.mk.injEq, and_true]
  omega

theorem readChar_unicodeEscape (n : Nat) (rest : List Char) : readChar (unicodeEscape n ++ rest) =
      let high := readUnicode (unicodeEscape n ++ rest)
      if 0xD800 ≤ high.1 ∧ high.1 < 0xDC00 then
        let low := readUnicode high.2
        (Char.ofNat (0x10000 + (high.1 - 0xD800) * 0x400 + (low.1 - 0xDC00)), low.2)
      else
        (Char.ofNat high.1, high.2) := by
  rfl

theorem readChar_escapeChar (c : Char) (rest : List Char) : readChar (escapeChar c ++ rest) = (c, rest) := by
  have hValid : c.toNat < 0xD800 ∨ 0xDFFF < c.toNat ∧ c.toNat < 0x110000 := c.valid
  have hSelf : Char.ofNat c.toNat = c := Char.ofNat_toNat c
  rw [escapeChar]
  cases hTable : escapeTable.lookup c.toNat with
  | some second =>
    have hAll : ∀ entry ∈ escapeTable, escapeTable.find? (fun other => other.2 = entry.2) =
        some entry := by decide
    have hFound : escapeTable.find? (fun other => other.2 = second) = some (c.toNat, second) :=
      hAll _ (mem_of_lookup hTable)
    have hHead : ([backslash, second] ++ rest).head? = some backslash := rfl
    dsimp only
    rw [readChar, if_pos hHead]
    simp only [List.cons_append, List.tail_cons, List.head?_cons, Option.bind_some, hFound,
      List.nil_append, hSelf]
  | none =>
    dsimp only
    split
    · have hBackslash : c ≠ backslash := by
        rintro rfl
        cases hTable
      rw [readChar, if_neg (by simpa using hBackslash)]
      rfl
    · split
      · next hBasic =>
        rw [readChar_unicodeEscape, readUnicode_unicodeEscape hBasic]
        dsimp only
        rw [if_neg (by omega), hSelf]
      · rw [List.append_assoc, readChar_unicodeEscape, readUnicode_unicodeEscape (by omega)]
        dsimp only
        rw [if_pos (by omega), readUnicode_unicodeEscape (by omega)]
        have hSum : 0x10000 + (0xD800 + (c.toNat - 0x10000) / 0x400 - 0xD800) * 0x400 +
            (0xDC00 + (c.toNat - 0x10000) % 0x400 - 0xDC00) = c.toNat := by omega
        rw [hSum, hSelf]

theorem escapeChar_injective {c c' : Char} {rest rest' : List Char}
    (h : escapeChar c ++ rest = escapeChar c' ++ rest') : c = c' ∧ rest = rest' := by
  have hRead := congrArg readChar h
  rw [readChar_escapeChar, readChar_escapeChar] at hRead
  exact Prod.mk.inj hRead

theorem head?_escapeChar (c : Char) (rest : List Char) : (escapeChar c ++ rest).head? ≠ some quote := by
  obtain hSelf | ⟨-, hHead, -⟩ := escapeChar_cases c
  · rw [hSelf]
    intro h
    cases Option.some.inj h
    exact absurd hSelf (by decide)
  · obtain ⟨tail, hTail⟩ := List.head?_eq_some_iff.mp hHead
    rw [hTail]
    exact fun h => absurd (Option.some.inj h) (by decide)

theorem escape_injective {text text' rest rest' : List Char}
    (h : escape text ++ quote :: rest = escape text' ++ quote :: rest') : text = text' ∧ rest = rest' := by
  have hCons : ∀ c text, escape (c :: text) = escapeChar c ++ escape text := fun c text =>
    List.flatMap_cons
  induction text generalizing text' with
  | nil =>
    cases text' with
    | nil => exact ⟨rfl, (List.cons.inj h).2⟩
    | cons c text' =>
      rw [hCons, List.append_assoc] at h
      exact absurd (congrArg List.head? h).symm (head?_escapeChar c _)
  | cons c text ih =>
    cases text' with
    | nil =>
      rw [hCons, List.append_assoc] at h
      exact absurd (congrArg List.head? h) (head?_escapeChar c _)
    | cons c' text' =>
      rw [hCons, hCons, List.append_assoc, List.append_assoc] at h
      obtain ⟨rfl, hRest⟩ := escapeChar_injective h
      obtain ⟨rfl, hBehind⟩ := ih hRest
      exact ⟨rfl, hBehind⟩

theorem quoted_injective {s s' : String} {rest rest' : List Char}
    (h : quoted s ++ rest = quoted s' ++ rest') : s = s' ∧ rest = rest' := by
  simp only [quoted, List.cons_append, List.append_assoc, List.cons.injEq, true_and,
    List.nil_append] at h
  obtain ⟨hText, hRest⟩ := escape_injective h
  exact ⟨String.toList_inj.mp hText, hRest⟩

def Stops (text : List Char) : Prop := ∀ c ∈ text.head?, c ∉ numberChars

theorem number_injective {n n' : JsonNumber} {rest rest' : List Char} (hRest : Stops rest)
    (hRest' : Stops rest') (h : n.text ++ rest = n'.text ++ rest') : n = n' ∧ rest = rest' := by
  have hTake : ∀ (n : JsonNumber) {rest : List Char}, Stops rest →
      (n.text ++ rest).takeWhile (· ∈ numberChars) = n.text := by
    intro n rest hStops
    rw [List.takeWhile_append_of_pos fun c hc => decide_eq_true (n.chars c hc)]
    cases rest with
    | nil => simp
    | cons c rest => simp [hStops c rfl]
  have hText : n.text = n'.text := by rw [← hTake n hRest, h, hTake n' hRest']
  refine ⟨?_, ?_⟩
  · cases n
    cases n'
    cases hText
    rfl
  · rwa [hText, List.append_cancel_left_eq] at h

inductive Kind where
  | null
  | true
  | false
  | number
  | str
  | arr
  | obj
  | none
  deriving DecidableEq

def kind : Json → Kind
  | .null => .null
  | .bool true => .true
  | .bool false => .false
  | .number _ => .number
  | .str _ => .str
  | .arr _ => .arr
  | .obj _ => .obj

def kindOf (c : Char) : Kind :=
  if c = 'n' then .null
  else if c = 't' then .true
  else if c = 'f' then .false
  else if c = quote then .str
  else if c = '[' then .arr
  else if c ∈ numberChars then .number
  else if c = Char.ofNat 123 then .obj
  else .none

theorem kindOf_head (document : Json) (rest : List Char) :
    ∃ c, (document.dumps ++ rest).head? = some c ∧ kindOf c = document.kind := by
  cases document with
  | null => exact ⟨'n', rfl, rfl⟩
  | bool b =>
    cases b
    · exact ⟨'f', rfl, rfl⟩
    · exact ⟨'t', rfl, rfl⟩
  | number n =>
    obtain ⟨text, chars, nonempty⟩ := n
    cases text with
    | nil => exact absurd rfl nonempty
    | cons c text =>
      have hAll : ∀ c ∈ numberChars, kindOf c = .number := Text.forall_of_all (by decide)
      exact ⟨c, rfl, hAll c (chars c List.mem_cons_self)⟩
  | str s => exact ⟨quote, rfl, rfl⟩
  | arr items => exact ⟨'[', rfl, rfl⟩
  | obj entries => exact ⟨_, rfl, rfl⟩

theorem kind_eq {document document' : Json} {rest rest' : List Char}
    (h : document.dumps ++ rest = document'.dumps ++ rest') : document.kind = document'.kind := by
  obtain ⟨c, hc, hKind⟩ := kindOf_head document rest
  obtain ⟨c', hc', hKind'⟩ := kindOf_head document' rest'
  rw [h, hc'] at hc
  rw [← hKind, ← hKind', Option.some.inj hc]

theorem head_ne_dumps {c : Char} (hc : kindOf c = .none) (document : Json) (rest rest' : List Char) :
    c :: rest ≠ document.dumps ++ rest' := by
  intro h
  obtain ⟨first, hFirst, hKind⟩ := kindOf_head document rest'
  rw [← h, List.head?_cons] at hFirst
  cases hFirst
  rw [hc] at hKind
  cases document with
  | bool b => cases b <;> cases hKind
  | _ => cases hKind

theorem stops_moreItems (items : List Json) (rest : List Char) :
    Stops (dumpsMoreItems items ++ ("]".toList ++ rest)) := by
  intro c hc
  cases items with
  | nil =>
    cases hc
    decide
  | cons item items =>
    cases hc
    decide

theorem stops_moreEntries (entries : List (String × Json)) (rest : List Char) :
    Stops (dumpsMoreEntries entries ++ ("\x7d".toList ++ rest)) := by
  intro c hc
  cases entries with
  | nil =>
    cases hc
    decide
  | cons entry entries =>
    cases hc
    decide

mutual

theorem dumps_injective : (document document' : Json) → {rest rest' : List Char} → Stops rest →
    Stops rest' → document.dumps ++ rest = document'.dumps ++ rest' → document = document' ∧ rest = rest'
  | document, document', rest, rest', hRest, hRest', h => by
    have hKind := kind_eq h
    match document, document' with
    | .null, .null => exact ⟨rfl, List.append_cancel_left h⟩
    | .bool true, .bool true => exact ⟨rfl, List.append_cancel_left h⟩
    | .bool false, .bool false => exact ⟨rfl, List.append_cancel_left h⟩
    | .number n, .number n' =>
      obtain ⟨rfl, hSame⟩ := number_injective hRest hRest' h
      exact ⟨rfl, hSame⟩
    | .str s, .str s' =>
      obtain ⟨rfl, hSame⟩ := quoted_injective h
      exact ⟨rfl, hSame⟩
    | .arr items, .arr items' =>
      rw [dumps, dumps, List.append_assoc, List.append_assoc, List.append_assoc, List.append_assoc,
        List.append_cancel_left_eq] at h
      obtain ⟨rfl, hSame⟩ := dumpsItems_injective items items' h
      exact ⟨rfl, hSame⟩
    | .obj entries, .obj entries' =>
      rw [dumps, dumps, List.append_assoc, List.append_assoc, List.append_assoc, List.append_assoc,
        List.append_cancel_left_eq] at h
      obtain ⟨rfl, hSame⟩ := dumpsEntries_injective entries entries' h
      exact ⟨rfl, hSame⟩

theorem dumpsItems_injective : (items items' : List Json) → {rest rest' : List Char} →
    dumpsItems items ++ ("]".toList ++ rest) = dumpsItems items' ++ ("]".toList ++ rest') →
      items = items' ∧ rest = rest'
  | [], [], _, _, h => ⟨rfl, List.append_cancel_left h⟩
  | [], item :: items, rest, rest', h => by
    rw [dumpsItems, dumpsItems, List.append_assoc] at h
    exact absurd h (head_ne_dumps (c := ']') rfl item rest _)
  | item :: items, [], rest, rest', h => by
    rw [dumpsItems, dumpsItems, List.append_assoc] at h
    exact absurd h.symm (head_ne_dumps (c := ']') rfl item rest' _)
  | item :: items, item' :: items', rest, rest', h => by
    rw [dumpsItems, dumpsItems, List.append_assoc, List.append_assoc] at h
    obtain ⟨rfl, hMore⟩ := dumps_injective item item' (stops_moreItems items rest)
      (stops_moreItems items' rest') h
    obtain ⟨rfl, hSame⟩ := dumpsMoreItems_injective items items' hMore
    exact ⟨rfl, hSame⟩

theorem dumpsMoreItems_injective : (items items' : List Json) → {rest rest' : List Char} →
    dumpsMoreItems items ++ ("]".toList ++ rest) = dumpsMoreItems items' ++ ("]".toList ++ rest') →
      items = items' ∧ rest = rest'
  | [], [], _, _, h => ⟨rfl, List.append_cancel_left h⟩
  | [], _ :: _, _, _, h => by
    have hHead := congrArg List.head? h
    cases hHead
  | _ :: _, [], _, _, h => by
    have hHead := congrArg List.head? h
    cases hHead
  | item :: items, item' :: items', rest, rest', h => by
    rw [dumpsMoreItems, dumpsMoreItems, List.append_assoc, List.append_assoc, List.append_assoc,
      List.append_assoc, List.append_cancel_left_eq] at h
    obtain ⟨rfl, hMore⟩ := dumps_injective item item' (stops_moreItems items rest)
      (stops_moreItems items' rest') h
    obtain ⟨rfl, hSame⟩ := dumpsMoreItems_injective items items' hMore
    exact ⟨rfl, hSame⟩

theorem dumpsEntries_injective : (entries entries' : List (String × Json)) →
    {rest rest' : List Char} →
    dumpsEntries entries ++ ("\x7d".toList ++ rest) = dumpsEntries entries' ++ ("\x7d".toList ++ rest') →
      entries = entries' ∧ rest = rest'
  | [], [], _, _, h => ⟨rfl, List.append_cancel_left h⟩
  | [], _ :: _, _, _, h => by
    have hHead := congrArg List.head? h
    cases hHead
  | _ :: _, [], _, _, h => by
    have hHead := congrArg List.head? h
    cases hHead
  | (key, value) :: entries, (key', value') :: entries', rest, rest', h => by
    rw [dumpsEntries, dumpsEntries, List.append_assoc, List.append_assoc, List.append_assoc,
      List.append_assoc, List.append_assoc, List.append_assoc] at h
    obtain ⟨rfl, hColon⟩ := quoted_injective h
    rw [List.append_cancel_left_eq] at hColon
    obtain ⟨rfl, hMore⟩ := dumps_injective value value' (stops_moreEntries entries rest)
      (stops_moreEntries entries' rest') hColon
    obtain ⟨rfl, hSame⟩ := dumpsMoreEntries_injective entries entries' hMore
    exact ⟨rfl, hSame⟩

theorem dumpsMoreEntries_injective : (entries entries' : List (String × Json)) →
    {rest rest' : List Char} → dumpsMoreEntries entries ++ ("\x7d".toList ++ rest) =
      dumpsMoreEntries entries' ++ ("\x7d".toList ++ rest') → entries = entries' ∧ rest = rest'
  | [], [], _, _, h => ⟨rfl, List.append_cancel_left h⟩
  | [], _ :: _, _, _, h => by
    have hHead := congrArg List.head? h
    cases hHead
  | _ :: _, [], _, _, h => by
    have hHead := congrArg List.head? h
    cases hHead
  | (key, value) :: entries, (key', value') :: entries', rest, rest', h => by
    rw [dumpsMoreEntries, dumpsMoreEntries, List.append_assoc, List.append_assoc, List.append_assoc,
      List.append_assoc, List.append_assoc, List.append_assoc, List.append_assoc, List.append_assoc,
      List.append_cancel_left_eq] at h
    obtain ⟨rfl, hColon⟩ := quoted_injective h
    rw [List.append_cancel_left_eq] at hColon
    obtain ⟨rfl, hMore⟩ := dumps_injective value value' (stops_moreEntries entries rest)
      (stops_moreEntries entries' rest') hColon
    obtain ⟨rfl, hSame⟩ := dumpsMoreEntries_injective entries entries' hMore
    exact ⟨rfl, hSame⟩

end

theorem eq_of_dumps_eq {document document' : Json} (h : document.dumps = document'.dumps) :
    document = document' := by
  have hStops : Stops [] := nofun
  exact (dumps_injective document document' hStops hStops (by rw [h])).1

end FastVoice.Python.Json
