import Mathlib.Data.Finset.Sort
import Mathlib.Data.String.Basic
import FastVoice.Signaling.Manager

/-! # Sockets that leave each other alone

Two sockets that offer the same id at the same time both store a connection under it, and a socket that closes
removes the sender of its run, whoever has registered it.
-/
namespace FastVoice.Signaling
open Async Ownership

variable {ι : Type}

abbrev SignalingRecord (ι : Type) := Recorded ι (SignalingCommand ι) Error (SignalingState ι) (SignalingMove ι)

def LeavesOthers (workflowRunOf : ι → Nat) :
    Entry ι (SignalingCommand ι) Error (SignalingState ι) (SignalingMove ι) → Prop
  | .call proc (.disconnect pc) _ _ => pc.offeredOn = proc
  | .call proc .cleanUp _ found => ∀ owner, found.wsSenders (workflowRunOf proc) = some owner → owner = proc
  | _ => True

structure Isolated (workflowRunOf : ι → Nat) (s : SignalingRecord ι) : Prop where
  stored : ∀ pcId, (s.state.manager.peerConnectionOwners pcId).isSome =
    (s.state.manager.peerConnections pcId).isSome
  listed : Mirrors s.state.manager.peerConnectionOwners s.state.manager.connectionPeerIds
  others : ∀ entry ∈ s.history, LeavesOthers workflowRunOf entry

/-- A connection is stored under an id that no other socket has then, and a socket closes while it has at most
one peer connection and no other socket has registered the sender of its run. -/
def Apart (workflowRunOf : ι → Nat) (s : SignalingState ι) (proc : ι) : SignalingCommand ι → Prop
  | .track pcId => ∀ owner, s.manager.peerConnectionOwners pcId = some owner → owner = proc
  | .cleanUp => (∀ owner, s.wsSenders (workflowRunOf proc) = some owner → owner = proc) ∧
      (s.manager.connectionPeerIds proc).card ≤ 1
  | _ => True

def apartDiscipline (workflowRunOf : ι → Nat) : System.Discipline ι (SignalingCommand.Reply (ι := ι)) Error
    (SignalingRecord ι) (SignalingMove ι) where
  call proc command _ s := Apart workflowRunOf s.state proc command
  environment _ _ := True

abbrev Holding (ι : Type) := Option (PeerConnection ι) × List String

def signalingProtocol : Protocol (SignalingCommand.Reply (ι := ι)) Error (Holding ι) where
  permits
    | holding, .disconnect pc => holding.1 = some pc
    | holding, .nextPeerConnection peerIds => peerIds = holding.2
    | _, _ => True
  next
    | holding, .track _, .ok pc => (some pc, holding.2)
    | _, .cleanUp, .ok next => next
    | _, .nextPeerConnection _, .ok next => next
    | holding, _, _ => holding

section Obeys

variable {holding : Holding ι}

abbrev Obeying {α : Type} (program : SignalingMethod ι α) (holding : Holding ι) : Prop :=
  program.Obeys signalingProtocol (fun _ _ => True) holding

def Quiet : SignalingCommand ι → Prop
  | .disconnect _ | .track _ | .cleanUp | .nextPeerConnection _ => False
  | _ => True

theorem quiet_next {command : SignalingCommand ι} (h : Quiet command) (holding : Holding ι) :
    signalingProtocol.permits holding command ∧
      ∀ result, signalingProtocol.next holding command result = holding := by
  cases command with
  | disconnect pc => exact h.elim
  | track pcId => exact h.elim
  | cleanUp => exact h.elim
  | nextPeerConnection peerIds => exact h.elim
  | receiveJson => exact ⟨trivial, fun _ => rfl⟩
  | authorizeWorkflowRunStart => exact ⟨trivial, fun _ => rfl⟩
  | acquireOrgSlot => exact ⟨trivial, fun _ => rfl⟩
  | bindWorkflowRun => exact ⟨trivial, fun _ => rfl⟩
  | other => exact ⟨trivial, fun _ => rfl⟩
  | peerConnection pcId => exact ⟨trivial, fun _ => rfl⟩

theorem quiet_obeying {α : Type} {program : SignalingMethod ι α} (h : program.Issues Quiet) (holding : Holding ι) :
    Obeying program holding :=
  Program.Issues.obeys (T := fun _ => True) h
    (fun other _ _ hQuiet => ⟨(quiet_next hQuiet other).1, fun _ => trivial⟩) trivial

theorem obeying_bind {α β : Type} {program : SignalingMethod ι α} {next : α → SignalingMethod ι β}
    (h : Obeying program holding) (hNext : ∀ value holding, Obeying (next value) holding) :
    Obeying (program >>= next) holding :=
  h.bind (fun value other _ => hNext value other) fun _ _ _ => trivial

theorem call_bind_obeying {α : Type} {command : SignalingCommand ι} {next : command.Reply → SignalingMethod ι α}
    (h : Quiet command) (hNext : ∀ reply holding, Obeying (next reply) holding) :
    Obeying (Program.call command >>= next) holding :=
  obeying_bind (quiet_obeying (Program.issues_call h) holding) hNext

theorem other_issues : (other (ι := ι)).Issues Quiet := Program.issues_call trivial

theorem initializePeerConnection_issues : (initializePeerConnection (ι := ι)).Issues Quiet := by
  refine other_issues.tryCatch fun error => ?_
  split
  · exact other_issues.bind fun _ => trivial
  · trivial

theorem takeSlot_issues (enforceCallConcurrency : Bool) : (takeSlot enforceCallConcurrency (ι := ι)).Issues Quiet := by
  unfold takeSlot
  split
  · refine (Program.issues_call trivial).bind fun acquired => ?_
    split
    · exact Program.issues_call trivial
    · trivial
  · trivial

theorem sendAnswer_obeying (pc : PeerConnection ι) (peerIds : List String) :
    Obeying (sendAnswer pc) (some pc, peerIds) := by
  refine ⟨trivial, fun result => ?_⟩
  cases result with
  | ok value => trivial
  | error error =>
    change (if error.isException = true then _ else _ : SignalingMethod ι Unit).Obeys signalingProtocol _ _
    split
    · refine obeying_bind (orElse_obeys ?_ fun _ _ _ => trivial) fun _ _ => trivial
      exact Program.obeys_call rfl fun _ => trivial
    · trivial

theorem disconnectAll_obeying (rounds : Nat) (holding : Holding ι) :
    Obeying (disconnectAll rounds holding) holding := by
  have hDisconnect (pc : PeerConnection ι) (peerIds : List String) :
      (orElse (Program.call (SignalingCommand.disconnect pc)) ()).Obeys signalingProtocol
        (fun _ other => other = (some pc, peerIds)) (some pc, peerIds) :=
    orElse_obeys (Program.obeys_call rfl fun _ => rfl) fun _ _ h => h
  induction rounds generalizing holding with
  | zero =>
    rcases holding with ⟨_ | pc, peerIds⟩
    · trivial
    · exact (hDisconnect pc peerIds).weaken fun _ _ _ => trivial
  | succ rounds ih =>
    rcases holding with ⟨_ | pc, peerIds⟩
    · trivial
    · refine (hDisconnect pc peerIds).bind ?_ fun _ _ _ => trivial
      rintro _ _ rfl
      exact Program.obeys_call_bind rfl ih fun _ => trivial

variable [DecidableEq ι]

theorem handleOffer_obeying (connectionKey : ι) (enforceCallConcurrency : Bool) (pcId sdp type : String)
    (holding : Holding ι) : Obeying (handleOffer connectionKey enforceCallConcurrency pcId sdp type) holding := by
  unfold handleOffer
  split
  case isTrue => exact quiet_obeying other_issues holding
  case isFalse =>
    refine call_bind_obeying trivial fun hasQuota holding => ?_
    split
    case isTrue => exact quiet_obeying other_issues holding
    case isFalse =>
      refine call_bind_obeying trivial fun found holding => ?_
      split
      case isTrue =>
        split
        · exact quiet_obeying other_issues holding
        · exact quiet_obeying (other_issues.bind fun _ => other_issues) holding
      case isFalse =>
        refine obeying_bind (quiet_obeying (takeSlot_issues enforceCallConcurrency) _) fun admitted holding => ?_
        split
        case isTrue => exact quiet_obeying other_issues holding
        case isFalse =>
          refine obeying_bind (quiet_obeying initializePeerConnection_issues _) fun _ holding => ?_
          exact Program.obeys_call_bind trivial (fun pc => sendAnswer_obeying pc holding.2) fun _ => trivial

theorem handleMessage_obeying (connectionKey : ι) (enforceCallConcurrency : Bool) (message : Message)
    (holding : Holding ι) : Obeying (handleMessage connectionKey enforceCallConcurrency message) holding := by
  cases message with
  | offer pcId sdp type => exact handleOffer_obeying connectionKey enforceCallConcurrency pcId sdp type holding
  | iceCandidate pcId addsCandidate =>
    apply quiet_obeying
    change (handleIceCandidate connectionKey pcId addsCandidate).Issues Quiet
    unfold handleIceCandidate
    split
    · trivial
    · refine (Program.issues_call trivial).bind fun found => ?_
      split
      · trivial
      · split
        · exact orElse_issues other_issues
        · trivial
  | renegotiate pcId =>
    apply quiet_obeying
    refine (Program.issues_call trivial).bind fun found => ?_
    split
    · exact other_issues
    · exact other_issues.bind fun _ => other_issues
  | unknown => trivial

theorem receiveMessages_obeying (connectionKey : ι) (enforceCallConcurrency : Bool) (messages : List Message)
    (holding : Holding ι) : Obeying (receiveMessages connectionKey enforceCallConcurrency messages) holding := by
  induction messages generalizing holding with
  | nil => exact call_bind_obeying trivial fun _ _ => trivial
  | cons message messages ih =>
    refine call_bind_obeying trivial fun _ holding => ?_
    exact obeying_bind (handleMessage_obeying connectionKey enforceCallConcurrency message holding) fun _ => ih

theorem handleWebsocket_obeying (connectionKey : ι) (enforceCallConcurrency : Bool) (messages : List Message) :
    Obeying (handleWebsocket connectionKey enforceCallConcurrency messages) (none, []) := by
  apply andFinally_obeys (S := fun _ => True)
  · exact orElse_obeys (receiveMessages_obeying connectionKey enforceCallConcurrency messages _)
      fun _ _ _ => trivial
  · rintro holding -
    exact Program.obeys_call_bind trivial (fun next => disconnectAll_obeying next.2.length next) fun _ => trivial

end Obeys

def OwnsOffers (m : SignalingManager ι) : Prop :=
  ∀ pcId, m.peerConnectionOwners pcId = (m.peerConnections pcId).map PeerConnection.offeredOn

namespace OwnsOffers

variable {m : SignalingManager ι}

theorem pop (h : OwnsOffers m) (pcId : String) : OwnsOffers (m.popPeerConnection pcId) := by
  intro other
  simp only [SignalingManager.popPeerConnection]
  rcases eq_or_ne other pcId with rfl | hOther
  · simp
  · rw [Function.update_of_ne hOther, Function.update_of_ne hOther]
    exact h other

theorem nextPeerConnection (h : OwnsOffers m) (peerIds : List String) :
    OwnsOffers (SignalingManager.nextPeerConnection peerIds m).2 := by
  induction peerIds generalizing m with
  | nil => exact h
  | cons pcId peerIds ih =>
    unfold SignalingManager.nextPeerConnection
    split
    · exact h.pop pcId
    · exact ih (h.pop pcId)

theorem stored (h : OwnsOffers m) (pcId : String) :
    (m.peerConnectionOwners pcId).isSome = (m.peerConnections pcId).isSome := by
  rw [h pcId, Option.isSome_map]

theorem offered (h : OwnsOffers m) {pcId : String} {proc : ι} (hOwner : m.peerConnectionOwners pcId = some proc) :
    ∃ pc, m.peerConnections pcId = some pc ∧ pc.offeredOn = proc := by
  rw [h pcId] at hOwner
  exact Option.map_eq_some_iff.mp hOwner

theorem track [DecidableEq ι] (h : OwnsOffers m) (proc : ι) (pcId : String) :
    OwnsOffers (m.trackPeerConnection proc pcId ⟨pcId, proc⟩) := by
  intro other
  simp only [SignalingManager.trackPeerConnection]
  rcases eq_or_ne other pcId with rfl | hOther
  · simp
  · rw [Function.update_of_ne hOther, Function.update_of_ne hOther]
    exact h other

end OwnsOffers

structure Held (workflowRunOf : ι → Nat) (s : SignalingRecord ι) (holdings : ι → Holding ι) : Prop where
  owns : OwnsOffers s.state.manager
  own : Isolated workflowRunOf s → ∀ proc pc, (holdings proc).1 = some pc → pc.offeredOn = proc
  noneLeft : Isolated workflowRunOf s → ∀ proc, (holdings proc).2 = []

section Step

variable {workflowRunOf : ι → Nat} {s : SignalingRecord ι} {holdings : ι → Holding ι} {proc : ι}

theorem isolated_cons_iff (h : Isolated workflowRunOf s) {state : SignalingState ι} (hOwns : OwnsOffers state.manager)
    (entry : Entry ι (SignalingCommand ι) Error (SignalingState ι) (SignalingMove ι)) :
    Isolated workflowRunOf ⟨state, entry :: s.history⟩ ↔
      Mirrors state.manager.peerConnectionOwners state.manager.connectionPeerIds ∧
        LeavesOthers workflowRunOf entry := by
  constructor
  · exact fun hAfter => ⟨hAfter.listed, hAfter.others entry List.mem_cons_self⟩
  · rintro ⟨hListed, hEntry⟩
    refine ⟨hOwns.stored, hListed, fun other hOther => ?_⟩
    rcases List.mem_cons.mp hOther with rfl | hOld
    · exact hEntry
    · exact h.others other hOld

theorem held_still (hHeld : Held workflowRunOf s holdings) (h : Isolated workflowRunOf s) {s' : SignalingRecord ι}
    (hOwns : OwnsOffers s'.state.manager) : Held workflowRunOf s' holdings :=
  ⟨hOwns, fun _ => hHeld.own h, fun _ => hHeld.noneLeft h⟩

variable [DecidableEq ι]

theorem held_update (hHeld : Held workflowRunOf s holdings) (h : Isolated workflowRunOf s) {s' : SignalingRecord ι}
    {holding : Holding ι} (hOwns : OwnsOffers s'.state.manager)
    (hOwn : ∀ pc, holding.1 = some pc → pc.offeredOn = proc)
    (hNone : Isolated workflowRunOf s' → holding.2 = []) :
    Held workflowRunOf s' (Function.update holdings proc holding) := by
  refine ⟨hOwns, fun hAfter other => ?_, fun hAfter other => ?_⟩
  · rcases eq_or_ne other proc with rfl | hNe
    · rw [Function.update_self]
      exact hOwn
    · rw [Function.update_of_ne hNe]
      exact hHeld.own h other
  · rcases eq_or_ne other proc with rfl | hNe
    · rw [Function.update_self]
      exact hNone hAfter
    · rw [Function.update_of_ne hNe]
      exact hHeld.noneLeft h other

variable (order : SetOrder)

theorem cleanUp_iff (h : Isolated workflowRunOf s) (hOwns : OwnsOffers s.state.manager) (proc : ι) :
    let next := SignalingManager.nextPeerConnection (order.list (s.state.manager.connectionPeerIds proc))
      { s.state.manager with
        connectionPeerIds := Function.update s.state.manager.connectionPeerIds proc ∅ }
    (∀ pc, next.1.1 = some pc → pc.offeredOn = proc) ∧
      (Mirrors next.2.peerConnectionOwners next.2.connectionPeerIds ↔
        (s.state.manager.connectionPeerIds proc).card ≤ 1) ∧
      ((s.state.manager.connectionPeerIds proc).card ≤ 1 → next.1.2 = []) := by
  have hCard : (s.state.manager.connectionPeerIds proc).card =
      (order.list (s.state.manager.connectionPeerIds proc)).length := by
    rw [← List.toFinset_card_of_nodup (order.nodup _)]
    congr 1
    ext pcId
    simp [order.mem]
  have hMem := order.mem (s.state.manager.connectionPeerIds proc)
  cases hIds : order.list (s.state.manager.connectionPeerIds proc) with
  | nil =>
    have hEmpty : s.state.manager.connectionPeerIds proc = ∅ := by
      rw [← Finset.card_eq_zero, hCard, hIds]
      rfl
    refine ⟨?_, ⟨fun _ => ?_, fun _ => h.listed.drop_empty proc hEmpty⟩, fun _ => rfl⟩
    · rintro pc ⟨⟩
    · simp [hEmpty]
  | cons pcId peerIds =>
    have hFirst : pcId ∈ s.state.manager.connectionPeerIds proc := by
      rw [← hMem, hIds]
      exact List.mem_cons_self
    obtain ⟨pc, hStored, hOffered⟩ := hOwns.offered ((h.listed proc pcId).mp hFirst)
    unfold SignalingManager.nextPeerConnection
    simp only [hStored]
    refine ⟨?_, h.listed.drop_iff proc pcId hFirst, fun hOne => ?_⟩
    · rintro _ ⟨⟩
      exact hOffered
    · rw [hCard, hIds, List.length_cons] at hOne
      exact List.length_eq_zero_iff.mp (by omega)

theorem isolated_call_iff (hHeld : Held workflowRunOf s holdings) (h : Isolated workflowRunOf s)
    (command : SignalingCommand ι) (outcome : Outcome Error)
    (hPermits : signalingProtocol.permits (holdings proc) command) :
    Held workflowRunOf ((signalingServices order workflowRunOf).recorded.perform proc command outcome s).2
        (Function.update holdings proc (signalingProtocol.next (holdings proc) command
          ((signalingServices order workflowRunOf).perform proc command outcome s.state).1)) ∧
      (Isolated workflowRunOf ((signalingServices order workflowRunOf).recorded.perform proc command outcome s).2 ↔
        Apart workflowRunOf s.state proc command) := by
  have hStill (result : Except Error command.Reply)
      (hState : ((signalingServices order workflowRunOf).perform proc command outcome s.state).2 = s.state)
      (hNext : signalingProtocol.next (holdings proc) command result = holdings proc)
      (hEntry : LeavesOthers workflowRunOf (.call proc command outcome s.state))
      (hApart : Apart workflowRunOf s.state proc command) :
      Held workflowRunOf ((signalingServices order workflowRunOf).recorded.perform proc command outcome s).2
          (Function.update holdings proc (signalingProtocol.next (holdings proc) command result)) ∧
        (Isolated workflowRunOf
          ((signalingServices order workflowRunOf).recorded.perform proc command outcome s).2 ↔
          Apart workflowRunOf s.state proc command) := by
    rw [hNext, Function.update_eq_self]
    simp only [System.recorded, hState]
    refine ⟨held_still hHeld h hHeld.owns, iff_of_true ?_ hApart⟩
    exact (isolated_cons_iff h hHeld.owns _).mpr ⟨h.listed, hEntry⟩
  cases command with
  | receiveJson => cases outcome <;> exact hStill _ rfl rfl trivial trivial
  | authorizeWorkflowRunStart => cases outcome <;> exact hStill _ rfl rfl trivial trivial
  | acquireOrgSlot => cases outcome <;> exact hStill _ rfl rfl trivial trivial
  | bindWorkflowRun => cases outcome <;> exact hStill _ rfl rfl trivial trivial
  | other => cases outcome <;> exact hStill _ rfl rfl trivial trivial
  | peerConnection pcId => cases outcome <;> exact hStill _ rfl rfl trivial trivial
  | disconnect pc =>
    have hOwn : pc.offeredOn = proc := hHeld.own h proc pc hPermits
    cases outcome <;> exact hStill _ rfl rfl hOwn trivial
  | nextPeerConnection peerIds =>
    have hNone : peerIds = [] := by
      rw [← hHeld.noneLeft h proc]
      exact hPermits
    subst hNone
    refine ⟨held_update hHeld h hHeld.owns ?_ fun _ => rfl, iff_of_true ?_ trivial⟩
    · rintro pc ⟨⟩
    · exact (isolated_cons_iff h hHeld.owns _).mpr ⟨h.listed, trivial⟩
  | track pcId =>
    have hOwns := hHeld.owns.track proc pcId
    refine ⟨held_update hHeld h hOwns ?_ fun _ => hHeld.noneLeft h proc, ?_⟩
    · rintro pc ⟨⟩
      rfl
    · refine (isolated_cons_iff h hOwns _).trans ((and_iff_left ?_).trans (h.listed.claim_iff proc pcId))
      trivial
  | cleanUp =>
    obtain ⟨hOffered, hMirrors, hNone⟩ := cleanUp_iff order h hHeld.owns proc
    have hOwns : OwnsOffers (s.state.execute order workflowRunOf proc .cleanUp).2.manager :=
      OwnsOffers.nextPeerConnection (m := { s.state.manager with
        connectionPeerIds := Function.update s.state.manager.connectionPeerIds proc ∅ }) hHeld.owns _
    have hIff := isolated_cons_iff h hOwns (.call proc .cleanUp outcome s.state)
    refine ⟨held_update hHeld h hOwns hOffered fun hAfter => hNone (hMirrors.mp (hIff.mp hAfter).1), ?_⟩
    refine hIff.trans ((and_congr_left fun _ => hMirrors).trans ?_)
    exact and_comm

theorem isolated_environment (hHeld : Held workflowRunOf s holdings) (h : Isolated workflowRunOf s)
    {move : SignalingMove ι} {s' : SignalingRecord ι}
    (hMove : (signalingServices order workflowRunOf).recorded.environment move s = some s') :
    Held workflowRunOf s' holdings ∧ Isolated workflowRunOf s' := by
  obtain ⟨state, hState, rfl⟩ := Option.map_eq_some_iff.mp hMove
  cases move with
  | outside answers =>
    obtain rfl := Option.some.inj hState
    refine ⟨held_still hHeld h hHeld.owns, hHeld.owns.stored, h.listed, fun entry hEntry => ?_⟩
    rcases List.mem_cons.mp hEntry with rfl | hOld
    · trivial
    · exact h.others entry hOld
  | closed pc =>
    simp only [signalingServices, SignalingState.environment] at hState
    split at hState
    case isTrue =>
      obtain rfl := Option.some.inj hState
      have hOwns : OwnsOffers (s.state.manager.forgetPeerConnection pc.pcId) := hHeld.owns.pop pc.pcId
      refine ⟨held_still hHeld h hOwns, (isolated_cons_iff h hOwns _).mpr ⟨h.listed.forget pc.pcId, ?_⟩⟩
      trivial
    case isFalse => cases hState

end Step

variable [DecidableEq ι]

structure Socket where
  workflowRunId : Nat
  enforceCallConcurrency : Bool
  messages : List Message

def acceptedSockets (outside : Outside) (sockets : ι → Socket) :
    Config ι (SignalingCommand.Reply (ι := ι)) Error Unit (SignalingRecord ι) where
  shared := ⟨⟨⟨fun _ => none, fun _ => ∅, fun _ => none⟩, fun _ => none, [], outside⟩, []⟩
  procs := fun proc => handleWebsocket proc (sockets proc).enforceCallConcurrency (sockets proc).messages

/-- Throughout a run of any number of sockets they are isolated exactly when every connection is stored under an id
that no other socket has, and every socket that closes has at most one connection and no other socket has
registered the sender of its run. -/
theorem sockets_isolated_iff (order : SetOrder) (outside : Outside) (sockets : ι → Socket)
    (events : List (Event ι Error (SignalingMove ι)))
    (last : Config ι (SignalingCommand.Reply (ι := ι)) Error Unit (SignalingRecord ι))
    (hRun : (signalingServices order fun proc => (sockets proc).workflowRunId).recorded.run
      (acceptedSockets outside sockets) events = some last) :
    (∀ n mid, (signalingServices order fun proc => (sockets proc).workflowRunId).recorded.run
        (acceptedSockets outside sockets) (events.take n) = some mid →
      Isolated (fun proc => (sockets proc).workflowRunId) mid.shared) ↔
    (signalingServices order fun proc => (sockets proc).workflowRunId).recorded.Follows
      (apartDiscipline fun proc => (sockets proc).workflowRunId) (acceptedSockets outside sockets) events := by
  refine System.ghost_throughout_iff (P := fun _ => signalingProtocol)
    (J := Held fun proc => (sockets proc).workflowRunId) (t := fun _ => (none, [])) ?_ ?_ hRun
    (fun proc => handleWebsocket_obeying proc _ _) ?_ ?_
  · intro proc command outcome s holdings hHeld h hPermits
    exact isolated_call_iff order hHeld h command outcome hPermits
  · intro move s s' holdings hHeld h hMove
    obtain ⟨hHeld', h'⟩ := isolated_environment order hHeld h hMove
    exact ⟨hHeld', iff_of_true h' trivial⟩
  · refine ⟨fun pcId => rfl, fun _ proc pc hHeld => ?_, fun _ proc => rfl⟩
    cases hHeld
  · refine ⟨fun pcId => rfl, fun proc pcId => ?_, fun entry hEntry => ?_⟩
    · exact iff_of_false (Finset.notMem_empty pcId) nofun
    · cases hEntry

def sortedOrder : SetOrder where
  list := fun ids => ids.sort
  nodup := fun ids => ids.sort_nodup _
  mem := fun ids _ => Finset.mem_sort _

def answering : Outside := ⟨true, true, true⟩

def offeringSocket (proc : Bool) : Socket where
  workflowRunId := 7
  enforceCallConcurrency := true
  messages := if proc then [.offer "pc" "sdp" "offer"] else []

def closedDuringCall : List (Event Bool Error (SignalingMove Bool)) :=
  List.replicate 8 (.resume true .reply) ++ List.replicate 2 (.resume false .reply)

theorem sender_removed :
    ¬ ∀ (ι : Type) [DecidableEq ι] (order : SetOrder) (outside : Outside) (sockets : ι → Socket)
      (events : List (Event ι Error (SignalingMove ι)))
      (last : Config ι (SignalingCommand.Reply (ι := ι)) Error Unit (SignalingRecord ι)),
      (signalingServices order fun proc => (sockets proc).workflowRunId).recorded.run
        (acceptedSockets outside sockets) events = some last →
      Isolated (fun proc => (sockets proc).workflowRunId) last.shared := by
  intro hAll
  have hRun : ∃ last, (signalingServices sortedOrder fun proc => (offeringSocket proc).workflowRunId).recorded.run
      (acceptedSockets answering offeringSocket) closedDuringCall = some last ∧
        ∃ outcome found, .call false .cleanUp outcome found ∈ last.shared.history ∧ found.wsSenders 7 = some true :=
    ⟨_, rfl, .reply, _, List.mem_cons_self, rfl⟩
  obtain ⟨last, hLast, outcome, found, hClosed, hSender⟩ := hRun
  have hLeft := (hAll Bool sortedOrder answering offeringSocket closedDuringCall last hLast).others _ hClosed
  exact absurd (hLeft true hSender) (by decide)

def socketOfOwnRun (proc : Bool) : Socket := { offeringSocket proc with workflowRunId := if proc then 7 else 8 }

theorem own_runs_isolated :
    ∃ last, (signalingServices sortedOrder fun proc => (socketOfOwnRun proc).workflowRunId).recorded.run
        (acceptedSockets answering socketOfOwnRun) closedDuringCall = some last ∧
      ((∀ n mid, (signalingServices sortedOrder fun proc => (socketOfOwnRun proc).workflowRunId).recorded.run
          (acceptedSockets answering socketOfOwnRun) (closedDuringCall.take n) = some mid →
        Isolated (fun proc => (socketOfOwnRun proc).workflowRunId) mid.shared) ↔
      (signalingServices sortedOrder fun proc => (socketOfOwnRun proc).workflowRunId).recorded.Follows
        (apartDiscipline fun proc => (socketOfOwnRun proc).workflowRunId)
        (acceptedSockets answering socketOfOwnRun) closedDuringCall) :=
  ⟨_, rfl, sockets_isolated_iff sortedOrder answering socketOfOwnRun closedDuringCall _ rfl⟩

end FastVoice.Signaling
