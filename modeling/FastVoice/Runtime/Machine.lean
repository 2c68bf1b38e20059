import Mathlib.Data.List.Forall2
import Mathlib.Data.Set.Basic
import Mathlib.Logic.Relation
import Mathlib.Data.Option.Basic

/-! # Caches in front of a source

A cache keeps its entries, the latest first, and beside them the log of what they were made from. What is
found under a key is the value of what was put there last.
-/
namespace FastVoice

/-- `value` is what a source gives, if anything. No operation reads the log. -/
structure ReadThrough (κ : Type) {σ ν : Type} (value : σ → Option ν) where
  entries : List (κ × ν)
  log : List (κ × σ)
  replays : List.Forall₂ (fun entry made => entry.1 = made.1 ∧ value made.2 = some entry.2) entries log

namespace ReadThrough

variable {κ σ ν : Type} {value : σ → Option ν}

def empty : ReadThrough κ value := ⟨[], [], .nil⟩

def put (cache : ReadThrough κ value) (key : κ) (source : σ) (v : ν) (h : value source = some v) :
    ReadThrough κ value :=
  ⟨(key, v) :: cache.entries, (key, source) :: cache.log, .cons ⟨rfl, h⟩ cache.replays⟩

variable [DecidableEq κ]

def find (cache : ReadThrough κ value) (key : κ) : Option ν := cache.entries.lookup key

def last (cache : ReadThrough κ value) (key : κ) : Option σ := cache.log.lookup key

theorem find_eq (cache : ReadThrough κ value) (key : κ) : (cache.find key = none ∧ cache.last key = none) ∨
      ∃ source v, cache.find key = some v ∧ cache.last key = some source ∧ value source = some v := by
  obtain ⟨entries, log, hReplays⟩ := cache
  dsimp only [find, last]
  induction hReplays with
  | nil => exact .inl ⟨rfl, rfl⟩
  | @cons entry made entries log hEntry hRest ih =>
    obtain ⟨name, v⟩ := entry
    obtain ⟨madeName, source⟩ := made
    obtain ⟨rfl, hValue⟩ := hEntry
    simp only [List.lookup_cons]
    cases key == name with
    | true => exact .inr ⟨source, v, rfl, rfl, hValue⟩
    | false => exact ih

end ReadThrough

end FastVoice

/-! # What is reached from a vertex

A set of vertices is reached exactly if each of its parts is entered from outside, by a vertex that can
itself be reached.
-/
namespace FastVoice.Reach
open Relation

variable {α : Type} {edge : α → α → Prop} {root : α}

theorem entered_of_reached {s : Set α} (hRoot : root ∉ s) {b : α}
    (h : ReflTransGen edge root b) (hb : b ∈ s) :
    ∃ a, ReflTransGen edge root a ∧ a ∉ s ∧ ∃ c ∈ s, edge a c := by
  induction h with
  | refl => exact absurd hb hRoot
  | tail hReached hEdge ih =>
    rename_i a c
    by_cases ha : a ∈ s
    · exact ih ha
    · exact ⟨a, hReached, ha, c, hb, hEdge⟩

theorem reached_iff_entered {targets : Set α} {dead : α → Prop} (hRoot : root ∉ targets)
    (hDead : ∀ a, ReflTransGen edge root a → ¬dead a)
    (hSources : ∀ a, ∀ b ∈ targets, edge a b → a = root ∨ a ∈ targets ∨ dead a) :
    (∀ b ∈ targets, ReflTransGen edge root b) ↔
      ∀ s, s ⊆ targets → s.Nonempty → ∃ a, a ∉ s ∧ ¬dead a ∧ ∃ b ∈ s, edge a b := by
  constructor
  · rintro h s hs ⟨b, hb⟩
    obtain ⟨a, hReached, ha, hEdge⟩ :=
      entered_of_reached (fun hMem => hRoot (hs hMem)) (h b (hs hb)) hb
    exact ⟨a, ha, hDead a hReached, hEdge⟩
  · intro h b hb
    by_contra hNot
    obtain ⟨a, ha, hLive, c, ⟨hc, hUnreached⟩, hEdge⟩ :=
      h {b | b ∈ targets ∧ ¬ReflTransGen edge root b} (fun _ hMem => hMem.1) ⟨b, hb, hNot⟩
    have hReached : ReflTransGen edge root a := by
      rcases hSources a c hc hEdge with rfl | hTarget | hDeadEnd
      · exact .refl
      · by_contra hFar
        exact ha ⟨hTarget, hFar⟩
      · exact absurd hDeadEnd hLive
    exact hUnreached (hReached.tail hEdge)

end FastVoice.Reach

/-! # State machines

What an event makes of a state, none where it cannot happen. A run is a list of events, so that statements
about all runs are statements about all event lists.
-/
namespace FastVoice

structure Machine (σ α : Type) where
  step : σ → α → Option σ

namespace Machine

variable {σ α : Type} (M : Machine σ α)

def run (s : σ) : List α → Option σ
  | [] => some s
  | event :: events => (M.step s event).bind fun next => run next events

/-- Each step of the run is allowed in the state it finds. -/
def Follows (allows : σ → α → Prop) : σ → List α → Prop
  | _, [] => True
  | s, event :: events =>
    allows s event ∧ ∀ next, M.step s event = some next → Follows allows next events

/-- Each step of the run does what it should, judged by the states before and after it. -/
def EachStep (does : σ → α → σ → Prop) : σ → List α → Prop
  | _, [] => True
  | s, event :: events => ∀ next, M.step s event = some next → does s event next ∧ EachStep does next events

def decidableFollows (allows : σ → α → Prop) [∀ s event, Decidable (allows s event)] :
    (s : σ) → (events : List α) → Decidable (M.Follows allows s events)
  | _, [] => isTrue trivial
  | s, event :: events =>
    match hStep : M.step s event with
    | none => decidable_of_iff (allows s event) (by simp [Follows, hStep])
    | some next =>
      have := decidableFollows allows next events
      decidable_of_iff (allows s event ∧ M.Follows allows next events) (by simp [Follows, hStep])

instance (allows : σ → α → Prop) [∀ s event, Decidable (allows s event)] (s : σ) (events : List α) :
    Decidable (M.Follows allows s events) := decidableFollows M allows s events

variable {M} {s last : σ} {events : List α}

theorem Follows.cons {allows : σ → α → Prop} {event : α} {next : σ} (hStep : M.step s event = some next)
    (hAllows : allows s event) (hRest : M.Follows allows next events) :
    M.Follows allows s (event :: events) := by
  refine ⟨hAllows, fun other hOther => ?_⟩
  obtain rfl : next = other := Option.some.inj (hStep.symm.trans hOther)
  exact hRest

theorem Follows.of_run {allows : σ → α → Prop} {event : α} {rest : List α}
    (h : M.Follows allows s (events ++ event :: rest)) (hRun : M.run s events = some last) :
    allows last event := by
  induction events generalizing s with
  | nil => exact Option.some.inj hRun ▸ h.1
  | cons first events ih =>
    obtain ⟨next, hNext, hRest⟩ := Option.bind_eq_some_iff.mp hRun
    exact ih (h.2 next hNext) hRest

theorem EachStep.of_run {does : σ → α → σ → Prop} {event : α} {rest : List α} {next : σ}
    (h : M.EachStep does s (events ++ event :: rest)) (hRun : M.run s events = some last)
    (hStep : M.step last event = some next) : does last event next := by
  induction events generalizing s with
  | nil =>
    obtain rfl := Option.some.inj hRun
    exact (h next hStep).1
  | cons first events ih =>
    obtain ⟨mid, hMid, hRest⟩ := Option.bind_eq_some_iff.mp hRun
    exact ih (h mid hMid).2 hRest

theorem Follows.and {allows allows' : σ → α → Prop} (h : M.Follows allows s events)
    (h' : M.Follows allows' s events) : M.Follows (fun s event => allows s event ∧ allows' s event) s events := by
  induction events generalizing s with
  | nil => trivial
  | cons event events ih =>
    exact ⟨⟨h.1, h'.1⟩, fun next hNext => ih (h.2 next hNext) (h'.2 next hNext)⟩

theorem follows_congr {allows allows' : σ → α → Prop} (h : ∀ s event, allows s event ↔ allows' s event) :
    M.Follows allows s events ↔ M.Follows allows' s events := by
  induction events generalizing s with
  | nil => exact Iff.rfl
  | cons event events ih =>
    apply and_congr (h s event)
    exact forall_congr' fun next => imp_congr_right fun _ => ih

theorem run_induction {I : σ → Prop} (hStep : ∀ s event next, I s → M.step s event = some next → I next)
    (hRun : M.run s events = some last) (h : I s) : I last := by
  induction events generalizing s with
  | nil => exact Option.some.inj hRun ▸ h
  | cons event events ih =>
    obtain ⟨next, hNext, hRest⟩ := Option.bind_eq_some_iff.mp hRun
    exact ih hRest (hStep s event next h hNext)

theorem Follows.induction {allows : σ → α → Prop} {I : σ → Prop} (hFollows : M.Follows allows s events)
    (hStep : ∀ s event next, I s → allows s event → M.step s event = some next → I next)
    (hRun : M.run s events = some last) (h : I s) : I last := by
  induction events generalizing s with
  | nil => exact Option.some.inj hRun ▸ h
  | cons event events ih =>
    obtain ⟨next, hNext, hRest⟩ := Option.bind_eq_some_iff.mp hRun
    exact ih (hFollows.2 next hNext) hRest (hStep s event next h hFollows.1 hNext)

/-- A property that each step keeps exactly when it is allowed holds throughout a run exactly when each step
is allowed. Where it holds, `K` does. -/
theorem throughout_iff {allows : σ → α → Prop} {K I : σ → Prop}
    (hStep : ∀ s event next, K s → I s → M.step s event = some next →
      (I next ↔ allows s event) ∧ (I next → K next))
    (hRun : M.run s events = some last) (hK : K s) (h : I s) :
    (∀ n mid, M.run s (events.take n) = some mid → I mid) ↔ M.Follows allows s events := by
  induction events generalizing s with
  | nil =>
    refine ⟨fun _ => trivial, fun _ n mid hMid => ?_⟩
    rw [List.take_nil] at hMid
    exact Option.some.inj hMid ▸ h
  | cons event events ih =>
    obtain ⟨next, hNext, hRest⟩ := Option.bind_eq_some_iff.mp hRun
    obtain ⟨hIff, hKNext⟩ := hStep s event next hK h hNext
    constructor
    · intro hAll
      have hHolds : I next := hAll 1 next (Option.bind_eq_some_iff.mpr ⟨next, hNext, rfl⟩)
      refine ⟨hIff.mp hHolds, fun other hOther => ?_⟩
      obtain rfl : next = other := Option.some.inj (hNext.symm.trans hOther)
      exact (ih hRest (hKNext hHolds) hHolds).mp fun n mid hMid =>
        hAll (n + 1) mid (Option.bind_eq_some_iff.mpr ⟨next, hNext, hMid⟩)
    · rintro ⟨hAllows, hFollows⟩ n mid hMid
      have hHolds : I next := hIff.mpr hAllows
      cases n with
      | zero => exact Option.some.inj hMid ▸ h
      | succ n =>
        obtain ⟨other, hOther, hMid⟩ := Option.bind_eq_some_iff.mp hMid
        obtain rfl : next = other := Option.some.inj (hNext.symm.trans hOther)
        exact (ih hRest (hKNext hHolds) hHolds).mpr (hFollows next hNext) n mid hMid

theorem eachStep_iff_of_allowed {allows : σ → α → Prop} {does : σ → α → σ → Prop} {K : σ → Prop}
    (hStep : ∀ s event next, K s → M.step s event = some next →
      (does s event next ↔ allows s event) ∧ (allows s event → K next))
    (hRun : M.run s events = some last) (hK : K s) :
    M.EachStep does s events ↔ M.Follows allows s events := by
  induction events generalizing s with
  | nil => exact Iff.rfl
  | cons event events ih =>
    obtain ⟨next, hNext, hRest⟩ := Option.bind_eq_some_iff.mp hRun
    obtain ⟨hIff, hKNext⟩ := hStep s event next hK hNext
    constructor
    · intro hEach
      obtain ⟨hDoes, hEachRest⟩ := hEach next hNext
      have hAllows := hIff.mp hDoes
      exact Follows.cons hNext hAllows ((ih hRest (hKNext hAllows)).mp hEachRest)
    · rintro ⟨hAllows, hFollows⟩ other hOther
      obtain rfl : next = other := Option.some.inj (hNext.symm.trans hOther)
      exact ⟨hIff.mpr hAllows, (ih hRest (hKNext hAllows)).mpr (hFollows next hNext)⟩

theorem eachStep_iff {allows : σ → α → Prop} {does : σ → α → σ → Prop} {K : σ → Prop}
    (hStep : ∀ s event next, K s → M.step s event = some next → K next ∧ (does s event next ↔ allows s event))
    (hRun : M.run s events = some last) (hK : K s) :
    M.EachStep does s events ↔ M.Follows allows s events := by
  refine eachStep_iff_of_allowed (fun s event next hKs hNext => ?_) hRun hK
  obtain ⟨hKNext, hIff⟩ := hStep s event next hKs hNext
  exact ⟨hIff, fun _ => hKNext⟩

theorem eachStep_and_iff {allows : σ → α → Prop} {does : σ → α → σ → Prop} {K D : σ → Prop}
    (hStep : ∀ s event next, K s → M.step s event = some next →
      K next ∧ (does s event next ∧ D next ↔ D s ∧ allows s event))
    (hRun : M.run s events = some last) (hK : K s) :
    M.EachStep does s events ∧ D last ↔ D s ∧ M.Follows allows s events := by
  induction events generalizing s with
  | nil =>
    obtain rfl := Option.some.inj hRun
    exact and_comm
  | cons event events ih =>
    obtain ⟨next, hNext, hRest⟩ := Option.bind_eq_some_iff.mp hRun
    obtain ⟨hKNext, hIff⟩ := hStep s event next hK hNext
    have hTail := ih hRest hKNext
    constructor
    · rintro ⟨hEach, hLast⟩
      obtain ⟨hDoes, hEachRest⟩ := hEach next hNext
      obtain ⟨hOwed, hFollows⟩ := hTail.mp ⟨hEachRest, hLast⟩
      obtain ⟨hFirst, hAllows⟩ := hIff.mp ⟨hDoes, hOwed⟩
      exact ⟨hFirst, Follows.cons hNext hAllows hFollows⟩
    · rintro ⟨hFirst, hAllows, hFollows⟩
      obtain ⟨hDoes, hOwed⟩ := hIff.mpr ⟨hFirst, hAllows⟩
      obtain ⟨hEachRest, hLast⟩ := hTail.mpr ⟨hOwed, hFollows next hNext⟩
      refine ⟨fun other hOther => ?_, hLast⟩
      obtain rfl : next = other := Option.some.inj (hNext.symm.trans hOther)
      exact ⟨hDoes, hEachRest⟩

end Machine

end FastVoice
