import Mathlib.Data.List.Infix

/-! # Replacing one list by another inside a list

The occurrences of a pattern are replaced from the left, and the search goes on behind each of them.
-/
namespace FastVoice.Replacing

variable {α : Type} {pattern new : List α}

def Apart (pattern u v : List α) : Prop :=
  ∀ s, s <:+ u → s ≠ [] → pattern <+: s ++ v → pattern.length ≤ s.length

theorem Apart.of_suffix {u u' v : List α} (h : Apart pattern u v) (hSuffix : u' <:+ u) : Apart pattern u' v :=
  fun s hs => h s (hs.trans hSuffix)

theorem prefix_of_append {s v : List α} (h : pattern <+: s ++ v)
    (hLength : pattern.length ≤ s.length) : pattern <+: s :=
  List.prefix_of_prefix_length_le h (List.prefix_append s v) hLength

theorem apart_cons {x : α} (h : x ∉ pattern) (u v : List α) : Apart pattern u (x :: v) := by
  intro s _ _ hPrefix
  by_contra hShort
  have hMem : (s ++ x :: v)[s.length]? = pattern[s.length]? := by
    obtain ⟨rest, hRest⟩ := hPrefix
    rw [← hRest, List.getElem?_append_left (by omega)]
  rw [List.getElem?_append_right (Nat.le_refl _), Nat.sub_self, List.getElem?_cons_zero] at hMem
  exact h (List.mem_of_getElem? hMem.symm)

variable [DecidableEq α]

def replaceFrom (pattern new : List α) : Nat → List α → List α
  | _, [] => []
  | skip + 1, _ :: l => replaceFrom pattern new skip l
  | 0, x :: l =>
    if pattern <+: x :: l then new ++ replaceFrom pattern new (pattern.length - 1) l
    else x :: replaceFrom pattern new 0 l

def replace (pattern new l : List α) : List α := replaceFrom pattern new 0 l

theorem replaceFrom_eq (skip : Nat) (l : List α) :
    replaceFrom pattern new skip l = replace pattern new (l.drop skip) := by
  induction l generalizing skip with
  | nil => cases skip <;> simp [replace, replaceFrom]
  | cons x l ih =>
    cases skip with
    | zero => rfl
    | succ skip => exact ih skip

@[simp] theorem replace_nil : replace pattern new [] = [] := rfl

theorem replace_cons {x : α} {l : List α} (h : ¬pattern <+: x :: l) :
    replace pattern new (x :: l) = x :: replace pattern new l := by
  rw [replace, replaceFrom, if_neg h, replace]

theorem replace_append_self (hPattern : pattern ≠ []) (l : List α) :
    replace pattern new (pattern ++ l) = new ++ replace pattern new l := by
  cases pattern with
  | nil => exact absurd rfl hPattern
  | cons x pattern =>
    rw [List.cons_append, replace, replaceFrom, if_pos (by simp), replaceFrom_eq]
    simp

theorem replace_cons_of_head {x : α} (h : pattern.head? ≠ some x) (hPattern : pattern ≠ [])
    (l : List α) : replace pattern new (x :: l) = x :: replace pattern new l := by
  apply replace_cons
  intro hPrefix
  cases pattern with
  | nil => exact hPattern rfl
  | cons y pattern => exact h (congrArg some (List.cons_prefix_cons.mp hPrefix).1)

theorem replace_append_of_head {u : List α} (h : ∀ x ∈ u, pattern.head? ≠ some x)
    (hPattern : pattern ≠ []) (v : List α) : replace pattern new (u ++ v) = u ++ replace pattern new v := by
  induction u with
  | nil => rfl
  | cons x u ih =>
    obtain ⟨hFirst, hRest⟩ := List.forall_mem_cons.mp h
    rw [List.cons_append, replace_cons_of_head hFirst hPattern, ih hRest, List.cons_append]

theorem replace_append {u v : List α} (hPattern : pattern ≠ []) (h : Apart pattern u v) :
    replace pattern new (u ++ v) = replace pattern new u ++ replace pattern new v := by
  induction hn : u.length using Nat.strong_induction_on generalizing u with
  | _ n ih =>
    cases u with
    | nil => rfl
    | cons x u =>
      by_cases hHere : pattern <+: (x :: u) ++ v
      · have hLength := h (x :: u) (List.suffix_refl _) (List.cons_ne_nil _ _) hHere
        obtain ⟨rest, hRest⟩ := prefix_of_append hHere hLength
        have hPositive : 0 < pattern.length := List.length_pos_of_ne_nil hPattern
        have hShorter : rest.length < n := by
          rw [← hn, ← hRest, List.length_append]
          omega
        have hApart : Apart pattern rest v := h.of_suffix (hRest ▸ List.suffix_append pattern rest)
        rw [← hRest, List.append_assoc, replace_append_self hPattern, replace_append_self hPattern,
          ih _ hShorter hApart rfl, List.append_assoc]
      · have hAlone : ¬pattern <+: x :: u := fun hPrefix =>
          hHere (hPrefix.trans (List.prefix_append _ _))
        have hShorter : u.length < n := by
          rw [← hn]
          exact Nat.lt_succ_self _
        rw [List.cons_append, replace_cons (by simpa using hHere), replace_cons hAlone,
          ih _ hShorter (h.of_suffix (List.suffix_cons x u)) rfl, List.cons_append]

theorem replace_of_short {l : List α} (h : l.length < pattern.length) : replace pattern new l = l := by
  induction l with
  | nil => rfl
  | cons x l ih =>
    rw [replace_cons, ih]
    · rw [List.length_cons] at h
      omega
    · intro hPrefix
      have hLength := hPrefix.length_le
      omega

theorem replace_append_cons {x : α} (h : x ∉ pattern) (hPattern : pattern ≠ []) (u v : List α) :
    replace pattern new (u ++ x :: v) = replace pattern new u ++ x :: replace pattern new v := by
  have hHead : pattern.head? ≠ some x := fun hSome => h (List.mem_of_head? hSome)
  rw [replace_append hPattern (apart_cons h u v), replace_cons_of_head hHead hPattern]

theorem replace_of_not_infix {l : List α} (h : ¬pattern <:+: l) : replace pattern new l = l := by
  induction l with
  | nil => rfl
  | cons x l ih =>
    rw [replace_cons fun hPrefix => h hPrefix.isInfix, ih fun hInfix => h (hInfix.trans
      (List.suffix_cons x l).isInfix)]

variable (pattern new) in
theorem replace_eq_or_infix (l : List α) : replace pattern new l = l ∨ new <:+: replace pattern new l := by
  induction l with
  | nil => exact .inl rfl
  | cons x l ih =>
    by_cases hHere : pattern <+: x :: l
    · right
      rw [replace, replaceFrom, if_pos hHere]
      exact (List.prefix_append _ _).isInfix
    · rw [replace_cons hHere]
      refine ih.imp (congrArg (x :: ·)) fun hInfix => hInfix.trans (List.suffix_cons _ _).isInfix

end FastVoice.Replacing
