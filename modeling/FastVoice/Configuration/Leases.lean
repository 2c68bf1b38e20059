import FastVoice.Runtime.Dict
import FastVoice.Runtime.Machine
import Mathlib.Logic.Function.Basic

/-! # Leases over configuration keys

A claim inserts the row of its key and, where there is one already, takes over a lease that has been pending for too
long. Each statement checks and changes the row at once, and a later one may find another row.
-/
namespace FastVoice.Configuration.Leases

structure LeaseValue where
  status : Option String
  ownerToken : Option String
  deriving DecidableEq

structure Row where
  value : LeaseValue
  createdAt : Option Int
  updatedAt : Option Int
  deriving DecidableEq

abbrev Rows := Dict (Nat × String) Row

def leasePending : String := "pending"

def leaseCompleted : String := "completed"

def pendingValue (ownerToken : String) : LeaseValue := ⟨some leasePending, some ownerToken⟩

def Row.isStale (row : Row) (before : Int) : Bool :=
  row.value.status = some leasePending && row.updatedAt.any (· < before)

def Row.isHeldBy (row : Row) (ownerToken : String) : Bool :=
  row.value.status = some leasePending && row.value.ownerToken = some ownerToken

section

variable (rows : Rows) (organizationId : Nat) (key : String)

def insertLease (ownerToken : String) (now : Int) : Bool × Rows :=
  match rows.lookup (organizationId, key) with
  | none => (true, rows.insert (organizationId, key) ⟨pendingValue ownerToken, some now, some now⟩)
  | some _ => (false, rows)

def takeOverLease (ownerToken : String) (now staleAfter : Int) : Bool × Rows :=
  match rows.lookup (organizationId, key) with
  | none => (false, rows)
  | some row =>
    if row.isStale (now - staleAfter) then
      (true, rows.insert (organizationId, key) { row with value := pendingValue ownerToken, updatedAt := some now })
    else (false, rows)

def completeConfigurationLease (ownerToken : String) (now : Int) : Rows :=
  match rows.lookup (organizationId, key) with
  | none => rows
  | some row =>
    if row.isHeldBy ownerToken then
      rows.insert (organizationId, key) { row with value := ⟨some leaseCompleted, none⟩, updatedAt := some now }
    else rows

def releaseConfigurationLease (ownerToken : String) : Rows :=
  match rows.lookup (organizationId, key) with
  | none => rows
  | some row => if row.isHeldBy ownerToken then rows.erase (organizationId, key) else rows

end

/-- What a claim begins with: its token, its reading of the clock and the age that it takes for stale. -/
structure Claim where
  ownerToken : String
  now : Int
  staleAfter : Int

inductive Phase
  | inserting
  | takingOver
  | granted
  | refused
  deriving DecidableEq

structure State where
  rows : Rows
  clock : Int
  claims : List Claim
  phases : Nat → Phase

inductive Event
  | tick (now : Int)
  | claim (ownerToken : String) (staleAfter : Int)
  | insert (claim : Nat)
  | takeOver (claim : Nat)
  | complete (ownerToken : String) (now : Int)
  | release (ownerToken : String)

/-- The callers on a key. A token is a new one, and `complete` has read the clock before its statement. -/
def callers (organizationId : Nat) (key : String) : Machine State Event where
  step
    | s, .tick now => if s.clock ≤ now then some { s with clock := now } else none
    | s, .claim ownerToken staleAfter =>
      if ownerToken ∉ s.claims.map (·.ownerToken) then
        some { s with
          claims := s.claims ++ [⟨ownerToken, s.clock, staleAfter⟩]
          phases := Function.update s.phases s.claims.length .inserting }
      else none
    | s, .insert i =>
      match s.claims[i]?, s.phases i with
      | some claim, .inserting =>
        let (inserted, rows) := insertLease s.rows organizationId key claim.ownerToken claim.now
        some { s with
          rows := rows
          phases := Function.update s.phases i (if inserted then .granted else .takingOver) }
      | _, _ => none
    | s, .takeOver i =>
      match s.claims[i]?, s.phases i with
      | some claim, .takingOver =>
        let (taken, rows) := takeOverLease s.rows organizationId key claim.ownerToken claim.now claim.staleAfter
        some { s with rows := rows, phases := Function.update s.phases i (if taken then .granted else .refused) }
      | _, _ => none
    | s, .complete ownerToken now =>
      if now ≤ s.clock then
        some { s with rows := completeConfigurationLease s.rows organizationId key ownerToken now }
      else none
    | s, .release ownerToken => some { s with rows := releaseConfigurationLease s.rows organizationId key ownerToken }

def State.start (rows : Rows) (clock : Int) : State := ⟨rows, clock, [], fun _ => .inserting⟩

section

variable (organizationId : Nat) (key : String)

def State.row (s : State) : Option Row := s.rows.lookup (organizationId, key)

/-- At most one token of a claim is that of the row. -/
def SingleWinner (s : State) : Prop :=
  ∀ row, s.row organizationId key = some row → ∀ (i j : Nat) claim other,
    s.claims[i]? = some claim → s.claims[j]? = some other →
      row.isHeldBy claim.ownerToken = true → row.isHeldBy other.ownerToken = true → i = j

def GrantsFairly (s next : State) : Prop :=
  ∀ (i : Nat) claim, s.claims[i]? = some claim → s.phases i ≠ .granted → next.phases i = .granted →
    (∀ row, s.row organizationId key = some row → row.isStale (s.clock - claim.staleAfter) = true) ∧
      ∃ row, next.row organizationId key = some row ∧ row.isHeldBy claim.ownerToken = true

def Fences (s next : State) : Event → Prop
  | .complete ownerToken _ | .release ownerToken =>
    (∀ row, s.row organizationId key = some row → row.isHeldBy ownerToken = false) → next.rows = s.rows
  | _ => True

def KeepsCompleted (s next : State) : Prop :=
  ∀ row, s.row organizationId key = some row → row.value.status = some leaseCompleted →
    next.row organizationId key = some row

structure StepSafe (s : State) (event : Event) (next : State) : Prop where
  grants : GrantsFairly organizationId key s next
  fences : Fences organizationId key s next event
  completed : KeepsCompleted organizationId key s next

end

structure Sound (s : State) : Prop where
  read : ∀ claim ∈ s.claims, claim.now ≤ s.clock
  distinct : (s.claims.map (·.ownerToken)).Nodup

section

variable {rows : Rows} {organizationId : Nat} {key ownerToken : String} {row : Row} {s next : State}

theorem pending_ne_completed : leasePending ≠ leaseCompleted := by decide

theorem not_stale_of_completed {before : Int} (h : row.value.status = some leaseCompleted) :
    row.isStale before = false := by
  rw [Row.isStale, h, decide_eq_false fun hSame => pending_ne_completed (Option.some.inj hSame).symm, Bool.false_and]

theorem not_held_of_completed (h : row.value.status = some leaseCompleted) : row.isHeldBy ownerToken = false := by
  rw [Row.isHeldBy, h, decide_eq_false fun hSame => pending_ne_completed (Option.some.inj hSame).symm, Bool.false_and]

theorem token_of_held (h : row.isHeldBy ownerToken = true) : row.value.ownerToken = some ownerToken := by
  rw [Row.isHeldBy, Bool.and_eq_true] at h
  exact of_decide_eq_true h.2

theorem isStale_mono {before later : Int} (hLater : before ≤ later) (h : row.isStale before = true) :
    row.isStale later = true := by
  rw [Row.isStale, Bool.and_eq_true] at h ⊢
  refine ⟨h.1, ?_⟩
  cases hTime : row.updatedAt with
  | none =>
    rw [hTime] at h
    cases h.2
  | some time =>
    rw [hTime] at h
    exact decide_eq_true (lt_of_lt_of_le (of_decide_eq_true h.2) hLater)

theorem isHeldBy_pendingValue (createdAt updatedAt : Option Int) :
    Row.isHeldBy ⟨pendingValue ownerToken, createdAt, updatedAt⟩ ownerToken = true := by
  simp [Row.isHeldBy, pendingValue]

theorem insertLease_inserted {now : Int} (h : (insertLease rows organizationId key ownerToken now).1 = true) :
    rows.lookup (organizationId, key) = none ∧
      (insertLease rows organizationId key ownerToken now).2.lookup (organizationId, key) =
        some ⟨pendingValue ownerToken, some now, some now⟩ := by
  unfold insertLease at h ⊢
  cases hRow : rows.lookup (organizationId, key) with
  | none => exact ⟨rfl, AList.lookup_insert _⟩
  | some row =>
    rw [hRow] at h
    cases h

theorem insertLease_of_row {now : Int} (h : rows.lookup (organizationId, key) = some row) :
    (insertLease rows organizationId key ownerToken now).2 = rows := by
  unfold insertLease
  rw [h]

theorem takeOverLease_taken {now staleAfter : Int}
    (h : (takeOverLease rows organizationId key ownerToken now staleAfter).1 = true) :
    ∃ row, rows.lookup (organizationId, key) = some row ∧ row.isStale (now - staleAfter) = true ∧
      (takeOverLease rows organizationId key ownerToken now staleAfter).2.lookup (organizationId, key) =
        some { row with value := pendingValue ownerToken, updatedAt := some now } := by
  unfold takeOverLease at h ⊢
  cases hRow : rows.lookup (organizationId, key) with
  | none =>
    rw [hRow] at h
    cases h
  | some row =>
    simp only [hRow] at h ⊢
    cases hStale : row.isStale (now - staleAfter) with
    | false =>
      rw [hStale] at h
      cases h
    | true => exact ⟨row, rfl, hStale, AList.lookup_insert _⟩

theorem takeOverLease_of_not_stale {now staleAfter : Int} (h : rows.lookup (organizationId, key) = some row)
    (hFresh : row.isStale (now - staleAfter) = false) :
    (takeOverLease rows organizationId key ownerToken now staleAfter).2 = rows := by
  unfold takeOverLease
  simp only [h, hFresh, Bool.false_eq_true, if_false]

theorem complete_of_not_held {now : Int}
    (h : ∀ row, rows.lookup (organizationId, key) = some row → row.isHeldBy ownerToken = false) :
    completeConfigurationLease rows organizationId key ownerToken now = rows := by
  unfold completeConfigurationLease
  cases hRow : rows.lookup (organizationId, key) with
  | none => rfl
  | some row => simp only [h row hRow, Bool.false_eq_true, if_false]

theorem release_of_not_held
    (h : ∀ row, rows.lookup (organizationId, key) = some row → row.isHeldBy ownerToken = false) :
    releaseConfigurationLease rows organizationId key ownerToken = rows := by
  unfold releaseConfigurationLease
  cases hRow : rows.lookup (organizationId, key) with
  | none => rfl
  | some row => simp only [h row hRow, Bool.false_eq_true, if_false]

theorem Sound.singleWinner (h : Sound s) : SingleWinner organizationId key s := by
  intro row _ i j claim other hClaim hOther hHeld hOtherHeld
  have hToken : claim.ownerToken = other.ownerToken :=
    Option.some.inj ((token_of_held hHeld).symm.trans (token_of_held hOtherHeld))
  have hBound : i < (s.claims.map (·.ownerToken)).length := by
    rw [List.length_map]
    exact (List.getElem?_eq_some_iff.mp hClaim).1
  refine (List.getElem?_inj hBound h.distinct).mp ?_
  rw [List.getElem?_map, List.getElem?_map, hClaim, hOther, Option.map_some, Option.map_some, hToken]

theorem grantsFairly_of_phases (h : next.phases = s.phases) : GrantsFairly organizationId key s next := by
  intro i _ _ hBefore hAfter
  exact absurd (h ▸ hAfter) hBefore

theorem grantsFairly_update {i : Nat} {phase : Phase} {claim : Claim} (hClaim : s.claims[i]? = some claim)
    (hPhases : next.phases = Function.update s.phases i phase) (h : phase = .granted →
      (∀ row, s.row organizationId key = some row → row.isStale (s.clock - claim.staleAfter) = true) ∧
        ∃ row, next.row organizationId key = some row ∧ row.isHeldBy claim.ownerToken = true) :
    GrantsFairly organizationId key s next := by
  intro j other hOther hBefore hAfter
  rw [hPhases] at hAfter
  by_cases hSame : j = i
  · subst hSame
    cases hClaim.symm.trans hOther
    rw [Function.update_self] at hAfter
    exact h hAfter
  · rw [Function.update_of_ne hSame] at hAfter
    exact absurd hAfter hBefore

theorem insert_step {i : Nat} (h : (callers organizationId key).step s (.insert i) = some next) :
    ∃ claim, s.claims[i]? = some claim ∧ next = { s with
        rows := (insertLease s.rows organizationId key claim.ownerToken claim.now).2
        phases := Function.update s.phases i
          (if (insertLease s.rows organizationId key claim.ownerToken claim.now).1 then .granted
            else .takingOver) } := by
  change (match s.claims[i]?, s.phases i with | some claim, .inserting => _ | _, _ => none) = some next at h
  split at h
  case h_1 claim hClaim hPhase => exact ⟨claim, hClaim, (Option.some.inj h).symm⟩
  case h_2 => cases h

theorem takeOver_step {i : Nat} (h : (callers organizationId key).step s (.takeOver i) = some next) :
    ∃ claim, s.claims[i]? = some claim ∧ next = { s with
        rows := (takeOverLease s.rows organizationId key claim.ownerToken claim.now claim.staleAfter).2
        phases := Function.update s.phases i
          (if (takeOverLease s.rows organizationId key claim.ownerToken claim.now claim.staleAfter).1 then .granted
            else .refused) } := by
  change (match s.claims[i]?, s.phases i with | some claim, .takingOver => _ | _, _ => none) = some next at h
  split at h
  case h_1 claim hClaim hPhase => exact ⟨claim, hClaim, (Option.some.inj h).symm⟩
  case h_2 => cases h

theorem step_safe (h : Sound s) {event : Event} (hNext : (callers organizationId key).step s event = some next) :
    Sound next ∧ StepSafe organizationId key s event next := by
  cases event with
  | tick now =>
    obtain ⟨hClock, hNext⟩ := Option.ite_none_right_eq_some.mp hNext
    cases hNext
    refine ⟨⟨fun claim hClaim => le_trans (h.read claim hClaim) hClock, h.distinct⟩,
      grantsFairly_of_phases rfl, trivial, fun row hRow _ => hRow⟩
  | claim ownerToken staleAfter =>
    obtain ⟨hToken, hNext⟩ := Option.ite_none_right_eq_some.mp hNext
    cases hNext
    refine ⟨⟨fun claim hClaim => ?_, ?_⟩, fun i claim hClaim hBefore hAfter => ?_, trivial,
      fun row hRow _ => hRow⟩
    · obtain hOld | hNew := List.mem_append.mp hClaim
      · exact h.read claim hOld
      · cases List.mem_singleton.mp hNew
        exact le_refl s.clock
    · rw [List.map_append]
      refine List.nodup_append.mpr ⟨h.distinct, List.nodup_singleton _, fun token hOld new hNew hSame => hToken ?_⟩
      have hNew : new = ownerToken := List.mem_singleton.mp hNew
      rwa [← hNew, ← hSame]
    · have hBound : i ≠ s.claims.length := Nat.ne_of_lt (List.getElem?_eq_some_iff.mp hClaim).1
      exact absurd ((Function.update_of_ne hBound _ _).symm.trans hAfter) hBefore
  | insert i =>
    obtain ⟨claim, hClaim, hNext⟩ := insert_step hNext
    cases hNext
    refine ⟨⟨h.read, h.distinct⟩, grantsFairly_update hClaim rfl fun hGranted => ?_, trivial,
      fun row hRow _ => ?_⟩
    · cases hInserted : (insertLease s.rows organizationId key claim.ownerToken claim.now).1 with
      | false =>
        rw [hInserted] at hGranted
        cases hGranted
      | true =>
        obtain ⟨hNone, hRow⟩ := insertLease_inserted hInserted
        exact ⟨fun row hSome => (nomatch hNone.symm.trans hSome), _, hRow, isHeldBy_pendingValue _ _⟩
    · rw [State.row, insertLease_of_row hRow]
      exact hRow
  | takeOver i =>
    obtain ⟨claim, hClaim, hNext⟩ := takeOver_step hNext
    cases hNext
    have hRead : claim.now - claim.staleAfter ≤ s.clock - claim.staleAfter := by
      have hNow := h.read claim (List.mem_of_getElem? hClaim)
      omega
    refine ⟨⟨h.read, h.distinct⟩, grantsFairly_update hClaim rfl fun hGranted => ?_, trivial,
      fun row hRow hCompleted => ?_⟩
    · cases hTaken : (takeOverLease s.rows organizationId key claim.ownerToken claim.now claim.staleAfter).1 with
      | false =>
        rw [hTaken] at hGranted
        cases hGranted
      | true =>
        obtain ⟨row, hRow, hStale, hAfter⟩ := takeOverLease_taken hTaken
        refine ⟨fun other hOther => ?_, _, hAfter, isHeldBy_pendingValue _ _⟩
        cases hRow.symm.trans hOther
        exact isStale_mono hRead hStale
    · rw [State.row, takeOverLease_of_not_stale hRow (not_stale_of_completed hCompleted)]
      exact hRow
  | complete ownerToken now =>
    obtain ⟨-, hNext⟩ := Option.ite_none_right_eq_some.mp hNext
    cases hNext
    refine ⟨⟨h.read, h.distinct⟩, grantsFairly_of_phases rfl, complete_of_not_held,
      fun row hRow hCompleted => ?_⟩
    have hSame : completeConfigurationLease s.rows organizationId key ownerToken now = s.rows :=
      complete_of_not_held fun other hOther => by
        cases hRow.symm.trans hOther
        exact not_held_of_completed hCompleted
    rw [State.row, hSame]
    exact hRow
  | release ownerToken =>
    cases hNext
    refine ⟨⟨h.read, h.distinct⟩, grantsFairly_of_phases rfl, release_of_not_held,
      fun row hRow hCompleted => ?_⟩
    have hSame : releaseConfigurationLease s.rows organizationId key ownerToken = s.rows :=
      release_of_not_held fun other hOther => by
        cases hRow.symm.trans hOther
        exact not_held_of_completed hCompleted
    rw [State.row, hSame]
    exact hRow

end

/-- In each state that the callers reach, at most one token is that of the row, and each step from there grants tokens
for missing and stale leases only, fences other tokens out and keeps a completed lease. -/
theorem leases_safe {organizationId : Nat} {key : String} {rows : Rows} {clock : Int} {events : List Event} {s : State}
    (hRun : (callers organizationId key).run (.start rows clock) events = some s) :
    SingleWinner organizationId key s ∧ ∀ event next, (callers organizationId key).step s event = some next →
      StepSafe organizationId key s event next := by
  have hSound : Sound s := Machine.run_induction (fun _ _ _ h hNext => (step_safe h hNext).1) hRun
    ⟨nofun, List.nodup_nil⟩
  exact ⟨hSound.singleWinner, fun event next hNext => (step_safe hSound hNext).2⟩

def takenOver : List Event :=
  [.claim "a" 10, .claim "b" 10, .insert 0, .insert 1, .tick 20, .claim "c" 10, .insert 2, .takeOver 2, .takeOver 1]

theorem leases_safe_takenOver : ∃ s, (callers 1 "K").run (.start ∅ 0) takenOver = some s ∧
    s.phases 0 = .granted ∧ s.phases 1 = .refused ∧ s.phases 2 = .granted ∧
    SingleWinner 1 "K" s ∧ ∀ event next, (callers 1 "K").step s event = some next → StepSafe 1 "K" s event next :=
  ⟨_, rfl, rfl, rfl, rfl, leases_safe (rfl : (callers 1 "K").run (.start ∅ 0) takenOver = some _)⟩

end FastVoice.Configuration.Leases
