import Mathlib.Data.List.DropRight

/-! # Strings

`str.strip` and the decimal numbers in names.
-/
namespace FastVoice.Text

def isSpace (c : Char) : Bool :=
  let n := c.toNat
  (9 ≤ n ∧ n ≤ 13) ∨ (28 ≤ n ∧ n ≤ 32) ∨ n = 0x85 ∨ n = 0xA0 ∨ n = 0x1680 ∨
    (0x2000 ≤ n ∧ n ≤ 0x200A) ∨ n = 0x2028 ∨ n = 0x2029 ∨ n = 0x202F ∨ n = 0x205F ∨ n = 0x3000

theorem forall_of_all {p : Char → Prop} [DecidablePred p] {text : List Char}
    (h : text.all (fun c => decide (p c)) = true) : ∀ c ∈ text, p c :=
  fun c hc => of_decide_eq_true (List.all_eq_true.mp h c hc)

def stripChars (text : List Char) : List Char := (text.dropWhile isSpace).rdropWhile isSpace

def strip (s : String) : String := String.ofList ((s.toList.dropWhile isSpace).rdropWhile isSpace)

def beginsWith (s : String) (c : Char) : Bool := s.toList.head? = some c

def beginsWithSpace (s : String) : Bool := s.toList.head?.any isSpace

theorem toList_strip (s : String) : (strip s).toList = (s.toList.dropWhile isSpace).rdropWhile isSpace := by
  rw [strip, String.toList_ofList]

theorem toList_eq_nil (s : String) : s.toList = [] ↔ s = "" := by
  rw [← String.toList_inj]
  rfl

@[simp] theorem strip_empty : strip "" = "" := by
  rw [← toList_eq_nil, toList_strip]
  rfl

theorem strip_of_noSpace {s : String} (h : ∀ c ∈ s.toList, isSpace c = false) : strip s = s := by
  rw [← String.toList_inj, toList_strip]
  have hFront : s.toList.dropWhile isSpace = s.toList := by
    rw [List.dropWhile_eq_self_iff]
    intro hLength
    simp [h _ (List.getElem_mem hLength)]
  rw [hFront, List.rdropWhile_eq_self_iff]
  intro hNonempty
  simp [h _ (List.getLast_mem hNonempty)]

theorem not_beginsWithSpace (s : String) (c : Char) (hSpace : isSpace c = false)
    (h : beginsWith s c = true) : beginsWithSpace s = false := by
  have hHead : s.toList.head? = some c := of_decide_eq_true h
  simp [beginsWithSpace, hHead, hSpace]

theorem head?_strip (s : String) (h : beginsWithSpace s = false) :
    (strip s).toList.head? = s.toList.head? := by
  rw [toList_strip]
  rw [beginsWithSpace] at h
  cases hList : s.toList with
  | nil => rfl
  | cons c rest =>
    have hFirst : isSpace c = false := by simpa [hList] using h
    have hKept : (c :: rest).dropWhile isSpace = c :: rest := by simp [hFirst]
    have hNonempty : (c :: rest).rdropWhile isSpace ≠ [] := by
      intro hNil
      have hAll := List.rdropWhile_eq_nil_iff.mp hNil c List.mem_cons_self
      simp [hFirst] at hAll
    rw [hKept]
    obtain ⟨tail, hTail⟩ := List.rdropWhile_prefix isSpace (c :: rest)
    cases hStripped : (c :: rest).rdropWhile isSpace with
    | nil => exact absurd hStripped hNonempty
    | cons d more =>
      rw [hStripped, List.cons_append] at hTail
      simp [(List.cons.inj hTail).1]

theorem strip_eq_empty_iff (s : String) (h : beginsWithSpace s = false) : strip s = "" ↔ s = "" := by
  rw [← toList_eq_nil, ← toList_eq_nil, ← List.head?_eq_none_iff, ← List.head?_eq_none_iff,
    head?_strip s h]

theorem beginsWith_strip (s : String) (c : Char) (h : beginsWithSpace s = false) :
    beginsWith (strip s) c = beginsWith s c := by
  rw [beginsWith, beginsWith, head?_strip s h]

theorem beginsWith_iff_stripped (s : String) (c : Char) (hSpace : isSpace c = false) :
    (s ≠ "" → beginsWith s c = true) ↔
      beginsWithSpace s = false ∧ (strip s ≠ "" → beginsWith (strip s) c = true) := by
  constructor
  · intro h
    have hUnspaced : beginsWithSpace s = false := by
      by_cases hEmpty : s = ""
      · rw [hEmpty]
        rfl
      · exact not_beginsWithSpace s c hSpace (h hEmpty)
    refine ⟨hUnspaced, fun hStripped => ?_⟩
    rw [beginsWith_strip s c hUnspaced]
    exact h fun hEmpty => hStripped ((strip_eq_empty_iff s hUnspaced).mpr hEmpty)
  · rintro ⟨hUnspaced, h⟩ hNonempty
    rw [← beginsWith_strip s c hUnspaced]
    exact h fun hStripped => hNonempty ((strip_eq_empty_iff s hUnspaced).mp hStripped)

theorem toString_injective {m n : Nat} (h : toString m = toString n) : m = n := by
  have hDigits : Nat.toDigits 10 m = Nat.toDigits 10 n := by
    have hList := congrArg String.toList h
    simpa [Nat.repr, toString] using hList
  have hValue := congrArg (fun digits => Nat.ofDigitChars 10 digits 0) hDigits
  simpa [Nat.ofDigitChars_toDigits] using hValue

theorem split_first {c : Char} {before before' after after' : List Char} (h : c ∉ before)
    (h' : c ∉ before') (hEq : before ++ c :: after = before' ++ c :: after') :
    before = before' ∧ after = after' := by
  induction before generalizing before' with
  | nil =>
    cases before' with
    | nil => exact ⟨rfl, (List.cons.inj hEq).2⟩
    | cons d rest => exact absurd ((List.cons.inj hEq).1 ▸ List.mem_cons_self) h'
  | cons d rest ih =>
    cases before' with
    | nil => exact absurd ((List.cons.inj hEq).1 ▸ List.mem_cons_self) h
    | cons d' rest' =>
      obtain ⟨rfl, hRest⟩ := List.cons.inj hEq
      obtain ⟨rfl, hAfter⟩ := ih (fun hMem => h (List.mem_cons_of_mem d hMem))
        (fun hMem => h' (List.mem_cons_of_mem d hMem)) hRest
      exact ⟨rfl, hAfter⟩

theorem append_sep_number_inj {c : Char} (hc : c.isDigit = false) {s t : String} {m n : Nat}
    (h : s.toList ++ c :: (toString m).toList = t.toList ++ c :: (toString n).toList) : s = t ∧ m = n := by
  have hDigits : ∀ k : Nat, c ∉ (toString k).toList.reverse := by
    intro k hMem
    have hDigit : c ∈ Nat.toDigits 10 k := by simpa [Nat.repr, toString] using hMem
    rw [Nat.isDigit_of_mem_toDigits (by decide) (by decide) hDigit] at hc
    cases hc
  have hReversed : (toString m).toList.reverse ++ c :: s.toList.reverse =
      (toString n).toList.reverse ++ c :: t.toList.reverse := by
    simpa using congrArg List.reverse h
  obtain ⟨hNumber, hText⟩ := split_first (hDigits m) (hDigits n) hReversed
  exact ⟨String.toList_inj.mp (List.reverse_inj.mp hText),
    toString_injective (String.toList_inj.mp (List.reverse_inj.mp hNumber))⟩

theorem append_dash_number_inj {s t : String} {m n : Nat}
    (h : s ++ "-" ++ toString m = t ++ "-" ++ toString n) : s = t ∧ m = n :=
  append_sep_number_inj (c := '-') rfl (by simpa using congrArg String.toList h)

theorem append_number_inj {s t : String} {m n : Nat}
    (h : s ++ "_" ++ toString m = t ++ "_" ++ toString n) : s = t ∧ m = n :=
  append_sep_number_inj (c := '_') rfl (by simpa using congrArg String.toList h)

end FastVoice.Text
