import Mathlib.Tactic.Linarith
import Mathlib.Tactic.Positivity
import FastVoice.Campaign.Operations
import FastVoice.Runtime.Machine

/-! # The lock against duplicate batches

Each campaign has a time at which scheduling a batch was last begun. A later call returns while this time is
younger than five seconds. A call that is through starts a task at its end that sleeps for five seconds and
deletes whatever time it finds.
-/
namespace FastVoice.Campaign
open Async

def behindLock (now : UnixTime) (memory : OrchestratorMemory) : CampaignMethod Unit :=
  match scheduleNextBatch with
  | .await (.memory _) resume => resume (.ok (now, memory))
  | other => other

/-- One orchestrator process: the calls that are through, with their campaigns, and the release tasks, with the
times they were started at. The times of the calls that got through since the state was last cleared are kept
for the statements. -/
structure Orchestrator where
  now : UnixTime
  memory : Nat → OrchestratorMemory
  calls : List (Nat × CampaignMethod Unit)
  timers : List (Nat × UnixTime)
  passes : Nat → List UnixTime

inductive OrchestratorStep where
  | tick (now : UnixTime)
  | schedule (campaignId : Nat)
  | resume (call : Nat) (answer : (command : CampaignCommand) → Except Error command.Reply)
  | clear (campaignId : Nat)
  | release (timer : Nat)

namespace Orchestrator

def clear (s : Orchestrator) (campaignId : Nat) : Orchestrator :=
  { s with
    memory := Function.update s.memory campaignId .cleared
    passes := Function.update s.passes campaignId [] }

def schedule (s : Orchestrator) (campaignId : Nat) : Orchestrator :=
  let found := s.memory campaignId
  if found.recentlyLocked s.now then s
  else { s with
    memory := Function.update s.memory campaignId (takeProcessingLock s.now found)
    calls := (campaignId, behindLock s.now found) :: s.calls
    passes := Function.update s.passes campaignId (s.now :: s.passes campaignId) }

/-- The orchestrator's own memory answers at once, and everything else as it likes. -/
def perform (s : Orchestrator) (campaignId : Nat) (answer : (command : CampaignCommand) → Except Error command.Reply) :
    (command : CampaignCommand) → Except Error command.Reply × Orchestrator
  | .memory update =>
    let found := s.memory campaignId
    let updated := update s.now found
    (.ok (s.now, found), if updated = .cleared then s.clear campaignId
      else { s with memory := Function.update s.memory campaignId updated })
  | command => (answer command, s)

def goOn (s : Orchestrator) (call campaignId : Nat) (rest : CampaignMethod Unit) : Orchestrator :=
  if rest.finished then
    { s with calls := s.calls.eraseIdx call, timers := (campaignId, s.now) :: s.timers }
  else { s with calls := s.calls.set call (campaignId, rest) }

def step (s : Orchestrator) : OrchestratorStep → Option Orchestrator
  | .tick now => if s.now ≤ now then some { s with now } else none
  | .schedule campaignId => some (s.schedule campaignId)
  | .resume call answer =>
    match s.calls[call]? with
    | some (campaignId, .await command resume) =>
      let after := s.perform campaignId answer command
      some (after.2.goOn call campaignId (resume after.1))
    | _ => none
  | .clear campaignId => some (s.clear campaignId)
  | .release timer =>
    match s.timers[timer]? with
    | some (campaignId, started) =>
      if started.val + 5 ≤ s.now.val then
        some { s with
          memory := Function.update s.memory campaignId { s.memory campaignId with processingLock := none }
          timers := s.timers.eraseIdx timer }
      else none
    | none => none

def Starts (s : Orchestrator) : Prop :=
  s.memory = (fun _ => .cleared) ∧ s.calls = [] ∧ s.timers = [] ∧ s.passes = fun _ => []

/-- Calls that get through without a clearing in between start five seconds apart. -/
def SpacedOut (s : Orchestrator) : Prop :=
  ∀ campaignId, (s.passes campaignId).Pairwise fun later earlier => earlier.val + 5 ≤ later.val

/-- A release task finds no lock that is younger than five seconds. -/
def ReleasesExpired (s : Orchestrator) : OrchestratorStep → Prop
  | .release timer => ∀ released ∈ s.timers[timer]?, (s.memory released.1).recentlyLocked s.now = false
  | _ => True

end Orchestrator

def orchestrator : Machine Orchestrator OrchestratorStep := ⟨Orchestrator.step⟩

section Calls

def KeepsLock : CampaignCommand → Prop
  | .memory update =>
    ∀ now memory, update now memory = .cleared ∨ (update now memory).processingLock = memory.processingLock
  | _ => True

instance : Serves KeepsLock where
  redis _ := trivial
  breaker _ := trivial
  service _ := trivial
  now := trivial
  getCampaignById := trivial
  loadCampaign := trivial
  refreshCampaign := trivial

theorem hasPendingWork_keepsLock : hasPendingWork.Issues KeepsLock := by
  apply (Program.issues_call trivial).bind
  intro queuedCount
  split
  · trivial
  · exact (Program.issues_call trivial).bind fun now => (Program.issues_call trivial).bind fun _ => trivial

theorem isWithinSchedule_keepsLock (campaign : CampaignRow) : (isWithinSchedule campaign).Issues KeepsLock := by
  unfold isWithinSchedule
  split
  · trivial
  · split
    · trivial
    · apply (service_issues _).bind
      intro now
      split <;> trivial

theorem pauseTripped_keepsLock : pauseTripped.Issues KeepsLock :=
  (updateCampaign_issues fun _ => trivial).bind fun _ => (service_issues _).bind fun _ =>
    (service_issues _).bind fun _ => (Program.issues_call fun _ _ => .inl rfl).bind fun _ => trivial

theorem enqueueBatch_keepsLock : enqueueBatch.Issues KeepsLock :=
  (service_issues _).bind fun _ => (Program.issues_call fun _ _ => .inr rfl).bind fun _ =>
    updateCampaign_issues fun _ => trivial

theorem behindLock_keepsLock (now : UnixTime) (memory : OrchestratorMemory) :
    (behindLock now memory).Issues KeepsLock := by
  unfold behindLock scheduleNextBatch remember
  rw [Program.call_bind]
  dsimp only [Program.proceed_ok]
  split
  · trivial
  apply orElse_issues
  apply (Program.issues_call trivial).bind
  intro campaign
  split
  · trivial
  split
  · apply (isWithinSchedule_keepsLock _).bind
    intro withinSchedule
    split
    · apply (breaker_issues _).bind
      intro report
      split
      · exact pauseTripped_keepsLock
      · apply hasPendingWork_keepsLock.bind
        intro hasWork
        split
        · exact enqueueBatch_keepsLock
        · trivial
    · trivial
  · trivial

end Calls

structure LockHeld (s : Orchestrator) : Prop where
  spacedOut : s.SpacedOut
  held : ∀ campaignId, ∀ last ∈ (s.passes campaignId).head?,
    (s.memory campaignId).processingLock = some last ∨ last.val + 5 ≤ s.now.val
  calls : ∀ call ∈ s.calls, call.2.Issues KeepsLock

section Steps

variable {s : Orchestrator}

theorem recentlyLocked_eq_false {memory : OrchestratorMemory} {now : UnixTime} :
    memory.recentlyLocked now = false ↔ ∀ lock ∈ memory.processingLock, lock.val + 5 ≤ now.val := by
  cases hLock : memory.processingLock with
  | none => simp [OrchestratorMemory.recentlyLocked, hLock]
  | some lock =>
    simp only [OrchestratorMemory.recentlyLocked, hLock, Option.any_some, decide_eq_false_iff_not, not_lt,
      Option.mem_some_iff, forall_eq']
    exact ⟨fun h => by linarith, fun h => by linarith⟩

theorem LockHeld.clear (h : LockHeld s) (campaignId : Nat) : LockHeld (s.clear campaignId) where
  spacedOut other := by
    obtain rfl | hNe := eq_or_ne other campaignId
    · simp [Orchestrator.clear]
    · simp only [Orchestrator.clear, Function.update_of_ne hNe]
      exact h.spacedOut other
  held other last hLast := by
    obtain rfl | hNe := eq_or_ne other campaignId
    · simp [Orchestrator.clear] at hLast
    · simp only [Orchestrator.clear, Function.update_of_ne hNe] at hLast ⊢
      exact h.held other last hLast
  calls := h.calls

theorem LockHeld.schedule (h : LockHeld s) (campaignId : Nat) : LockHeld (s.schedule campaignId) := by
  cases hLocked : (s.memory campaignId).recentlyLocked s.now with
  | true =>
    simp only [Orchestrator.schedule, hLocked, if_true]
    exact h
  | false =>
    have hOver : ∀ last ∈ (s.passes campaignId).head?, last.val + 5 ≤ s.now.val := by
      intro last hLast
      obtain hHeld | hOld := h.held campaignId last hLast
      · exact recentlyLocked_eq_false.mp hLocked last hHeld
      · exact hOld
    simp only [Orchestrator.schedule, hLocked, Bool.false_eq_true, if_false]
    constructor
    · intro other
      obtain rfl | hNe := eq_or_ne other campaignId
      · simp only [Function.update_self]
        have hSpaced := h.spacedOut other
        cases hPasses : s.passes other with
        | nil => exact List.pairwise_singleton _ _
        | cons last earlier =>
          rw [hPasses] at hSpaced hOver
          have hLast := hOver last rfl
          refine List.pairwise_cons.mpr ⟨List.forall_mem_cons.mpr ⟨hLast, fun time hTime => ?_⟩, hSpaced⟩
          have hEarlier := (List.pairwise_cons.mp hSpaced).1 time hTime
          linarith
      · simp only [Function.update_of_ne hNe]
        exact h.spacedOut other
    · intro other last hLast
      obtain rfl | hNe := eq_or_ne other campaignId
      · simp only [Function.update_self, List.head?_cons, Option.mem_some_iff] at hLast ⊢
        left
        rw [takeProcessingLock, hLocked, ← hLast]
        rfl
      · simp only [Function.update_of_ne hNe] at hLast ⊢
        exact h.held other last hLast
    · exact List.forall_mem_cons.mpr ⟨behindLock_keepsLock _ _, h.calls⟩

theorem LockHeld.goOn (h : LockHeld s) (call campaignId : Nat) {rest : CampaignMethod Unit}
    (hRest : rest.Issues KeepsLock) : LockHeld (s.goOn call campaignId rest) := by
  unfold Orchestrator.goOn
  split
  · exact ⟨h.spacedOut, h.held, fun other hOther => h.calls other (List.mem_of_mem_eraseIdx hOther)⟩
  · refine ⟨h.spacedOut, h.held, fun other hOther => ?_⟩
    obtain hOld | rfl := List.mem_or_eq_of_mem_set hOther
    · exact h.calls other hOld
    · exact hRest

theorem LockHeld.perform (h : LockHeld s) (campaignId : Nat)
    (answer : (command : CampaignCommand) → Except Error command.Reply) {command : CampaignCommand}
    (hCommand : KeepsLock command) : LockHeld (s.perform campaignId answer command).2 := by
  cases command with
  | memory update =>
    simp only [Orchestrator.perform]
    split
    · exact h.clear campaignId
    · rename_i hNotCleared
      refine ⟨h.spacedOut, fun other last hLast => ?_, h.calls⟩
      obtain rfl | hNe := eq_or_ne other campaignId
      · simp only [Function.update_self]
        rw [(hCommand s.now (s.memory other)).resolve_left hNotCleared]
        exact h.held other last hLast
      · simp only [Function.update_of_ne hNe]
        exact h.held other last hLast
  | _ => exact h

theorem LockHeld.step {event : OrchestratorStep} {next : Orchestrator} (h : LockHeld s)
    (hReleases : s.ReleasesExpired event) (hStep : s.step event = some next) : LockHeld next := by
  cases event with
  | tick now =>
    rw [Orchestrator.step] at hStep
    split at hStep
    · rename_i hNow
      obtain rfl := Option.some.inj hStep
      refine ⟨h.spacedOut, fun campaignId last hLast => ?_, h.calls⟩
      exact (h.held campaignId last hLast).imp_right fun hOld => hOld.trans hNow
    · cases hStep
  | schedule campaignId =>
    obtain rfl := Option.some.inj hStep
    exact h.schedule campaignId
  | resume call answer =>
    rw [Orchestrator.step] at hStep
    split at hStep
    · rename_i campaignId command resume hCall
      obtain rfl := Option.some.inj hStep
      obtain ⟨hCommand, hResume⟩ := h.calls _ (List.mem_of_getElem? hCall)
      exact (h.perform campaignId answer hCommand).goOn call campaignId (hResume _)
    · cases hStep
  | clear campaignId =>
    obtain rfl := Option.some.inj hStep
    exact h.clear campaignId
  | release timer =>
    rw [Orchestrator.step] at hStep
    split at hStep
    · rename_i campaignId started hTimer
      split at hStep
      · obtain rfl := Option.some.inj hStep
        have hExpired := recentlyLocked_eq_false.mp (hReleases _ hTimer)
        refine ⟨h.spacedOut, fun other last hLast => ?_, h.calls⟩
        obtain rfl | hNe := eq_or_ne other campaignId
        · obtain hHeld | hOld := h.held other last hLast
          · exact .inr (hExpired last hHeld)
          · exact .inr hOld
        · simp only [Function.update_of_ne hNe]
          exact h.held other last hLast
      · cases hStep
    · cases hStep

theorem LockHeld.starts (h : s.Starts) : LockHeld s := by
  obtain ⟨-, hCalls, -, hPasses⟩ := h
  constructor
  · intro campaignId
    rw [hPasses]
    exact List.Pairwise.nil
  · intro campaignId last hLast
    rw [hPasses] at hLast
    cases hLast
  · rw [hCalls]
    exact fun call hCall => nomatch hCall

end Steps

/-- Where the release tasks find no younger lock, batches are scheduled five seconds apart. -/
theorem batches_spaced_out {start s : Orchestrator} {events : List OrchestratorStep} (hStarts : start.Starts)
    (hReleases : orchestrator.Follows Orchestrator.ReleasesExpired start events)
    (hRun : orchestrator.run start events = some s) : s.SpacedOut := by
  have hHeld : LockHeld s :=
    hReleases.induction (fun _ _ _ h hAllowed hStep => h.step hAllowed hStep) hRun (.starts hStarts)
  exact hHeld.spacedOut

def second (n : Nat) : UnixTime := ⟨n + 1, by positivity⟩

def startedNow : Orchestrator := ⟨second 0, fun _ => .cleared, [], [], fun _ => []⟩

/-- The campaign is gone, and every other request fails. -/
def notFound : (command : CampaignCommand) → Except Error command.Reply
  | .getCampaignById => .ok none
  | _ => .error .exception

def passesOf (campaignId : Nat) (s : Option Orchestrator) : Option (List UnixTime) := s.map fun s => s.passes campaignId

theorem exists_of_passesOf {s? : Option Orchestrator} {campaignId : Nat} {times : List UnixTime}
    (h : passesOf campaignId s? = some times) : ∃ s, s? = some s ∧ s.passes campaignId = times :=
  Option.map_eq_some_iff.mp h

instance (s : Orchestrator) (event : OrchestratorStep) : Decidable (s.ReleasesExpired event) := by
  unfold Orchestrator.ReleasesExpired
  split <;> infer_instance

def inTurn : List OrchestratorStep :=
  [.schedule 1, .resume 0 notFound, .tick (second 5), .release 0, .schedule 1]

theorem calls_in_turn_spaced_out : ∃ s, orchestrator.run startedNow inTurn = some s ∧
    s.passes 1 = [second 5, second 0] ∧ s.SpacedOut := by
  obtain ⟨s, hRun, hPasses⟩ := exists_of_passesOf
    (show passesOf 1 (orchestrator.run startedNow inTurn) = some [second 5, second 0] by decide +kernel)
  exact ⟨s, hRun, hPasses, batches_spaced_out ⟨rfl, rfl, rfl, rfl⟩ (by decide +kernel) hRun⟩

def lateRelease : List OrchestratorStep :=
  [.schedule 1, .tick (second 3), .resume 0 notFound, .tick (second 5), .schedule 1, .tick (second 8), .release 0,
    .schedule 1]

theorem late_release_not_spaced_out : ¬∀ (start s : Orchestrator) (events : List OrchestratorStep), start.Starts →
    orchestrator.run start events = some s → s.SpacedOut := by
  intro hAll
  obtain ⟨s, hRun, hPasses⟩ := exists_of_passesOf (show passesOf 1 (orchestrator.run startedNow lateRelease) =
    some [second 8, second 5, second 0] by decide +kernel)
  have hSpaced := hAll startedNow s lateRelease ⟨rfl, rfl, rfl, rfl⟩ hRun 1
  rw [hPasses] at hSpaced
  have hThree : (second 5).val + 5 ≤ (second 8).val := (List.pairwise_cons.mp hSpaced).1 _ List.mem_cons_self
  revert hThree
  decide +kernel

end FastVoice.Campaign
