import Mathlib.Data.List.Forall2

/-! # Results that may fail -/
namespace FastVoice.Outcome

variable {ε α β : Type} {x : Except ε α} {f : α → Except ε β}

theorem bind_eq_ok_iff {b : β} : (x >>= f) = .ok b ↔ ∃ a, x = .ok a ∧ f a = .ok b := by
  cases x with
  | ok a => simp [bind, Except.bind]
  | error e => simp [bind, Except.bind]

theorem bind_eq_error_iff {e : ε} :
    (x >>= f) = .error e ↔ x = .error e ∨ ∃ a, x = .ok a ∧ f a = .error e := by
  cases x with
  | ok a => simp [bind, Except.bind]
  | error e => simp [bind, Except.bind]

theorem map_eq_ok_iff {g : α → β} {b : β} : x.map g = .ok b ↔ ∃ a, x = .ok a ∧ g a = b := by
  cases x with
  | ok a => simp [Except.map]
  | error e => simp [Except.map]

theorem returns_iff_not_raises : (∃ a, x = .ok a) ↔ ¬∃ e, x = .error e := by
  cases x with
  | ok a => simp
  | error e => simp

theorem mapM_eq_some_iff {g : α → Option β} {as : List α} {bs : List β} :
    as.mapM g = some bs ↔ List.Forall₂ (fun a b => g a = some b) as bs := by
  induction as generalizing bs with
  | nil =>
    rw [List.mapM_nil, List.forall₂_nil_left_iff]
    simp [eq_comm]
  | cons a as ih =>
    rw [List.mapM_cons, Option.bind_eq_bind, Option.bind_eq_some_iff]
    constructor
    · rintro ⟨b, hb, hRest⟩
      obtain ⟨rest, hMapped, hEq⟩ := Option.bind_eq_some_iff.mp hRest
      cases hEq
      exact .cons hb (ih.mp hMapped)
    · rintro (_ | ⟨hb, hRest⟩)
      exact ⟨_, hb, Option.bind_eq_some_iff.mpr ⟨_, ih.mpr hRest, rfl⟩⟩

theorem mapM_eq_ok_iff {as : List α} {bs : List β} :
    as.mapM f = .ok bs ↔ List.Forall₂ (fun a b => f a = .ok b) as bs := by
  induction as generalizing bs with
  | nil =>
    rw [List.mapM_nil, List.forall₂_nil_left_iff]
    simp [pure, Except.pure, eq_comm]
  | cons a as ih =>
    rw [List.mapM_cons, bind_eq_ok_iff]
    constructor
    · rintro ⟨b, hb, hRest⟩
      obtain ⟨rest, hMapped, hEq⟩ := bind_eq_ok_iff.mp hRest
      cases hEq
      exact .cons hb (ih.mp hMapped)
    · rintro (_ | ⟨hb, hRest⟩)
      exact ⟨_, hb, bind_eq_ok_iff.mpr ⟨_, ih.mpr hRest, rfl⟩⟩

theorem mapM_congr {g g' : α → Option β} {as : List α} (h : ∀ a ∈ as, g a = g' a) :
    as.mapM g = as.mapM g' := by
  induction as with
  | nil => rfl
  | cons a as ih =>
    obtain ⟨hFirst, hRest⟩ := List.forall_mem_cons.mp h
    rw [List.mapM_cons, List.mapM_cons, hFirst, ih hRest]

theorem isOk_map {ε α β : Type} {x : Except ε α} {g : α → β} : (x.map g).isOk = true ↔ x.isOk = true := by
  cases x <;> rfl

theorem isOk_mapM {ε α β : Type} {g : α → Except ε β} {as : List α} :
    (as.mapM g).isOk = true ↔ ∀ a ∈ as, (g a).isOk = true := by
  induction as with
  | nil => simp [Except.isOk, Except.toBool, pure, Except.pure]
  | cons a as ih =>
    rw [List.mapM_cons, List.forall_mem_cons, ← ih]
    cases g a with
    | error e => simp [Except.isOk, Except.toBool, bind, Except.bind]
    | ok b =>
      cases as.mapM g <;> simp [Except.isOk, Except.toBool, bind, Except.bind, pure, Except.pure]

theorem mapM_eq_error_iff {as : List α} {e : ε} : as.mapM f = .error e ↔
    ∃ before a after, as = before ++ a :: after ∧ (∀ b ∈ before, (f b).isOk = true) ∧ f a = .error e := by
  induction as with
  | nil => simp [pure, Except.pure]
  | cons first as ih =>
    rw [List.mapM_cons, bind_eq_error_iff]
    constructor
    · rintro (hFirst | ⟨b, hb, hRest⟩)
      · exact ⟨[], first, as, rfl, fun b h => absurd h List.not_mem_nil, hFirst⟩
      · obtain hRest | ⟨bs, -, hPure⟩ := bind_eq_error_iff.mp hRest
        · obtain ⟨before, a, after, rfl, hBefore, hFails⟩ := ih.mp hRest
          refine ⟨first :: before, a, after, rfl, List.forall_mem_cons.mpr ⟨?_, hBefore⟩, hFails⟩
          rw [hb]
          rfl
        · nomatch hPure
    · rintro ⟨before, a, after, hSplit, hBefore, hFails⟩
      cases before with
      | nil =>
        cases hSplit
        exact .inl hFails
      | cons head before =>
        cases hSplit
        obtain ⟨hHead, hRest⟩ := List.forall_mem_cons.mp hBefore
        cases hValue : f first with
        | error e => rw [hValue] at hHead; nomatch hHead
        | ok b =>
          have hLater := ih.mpr ⟨before, a, after, rfl, hRest, hFails⟩
          exact .inr ⟨b, rfl, bind_eq_error_iff.mpr (.inl hLater)⟩

end FastVoice.Outcome
