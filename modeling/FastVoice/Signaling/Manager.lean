import FastVoice.Runtime
import FastVoice.Runtime.Ownership

/-! # Signaling sockets

The maps of the manager and the registry of feedback senders, and the handlers that update them. What stands
between two awaits is one step.
-/
namespace FastVoice.Signaling
open Async

structure PeerConnection (ι : Type) where
  pcId : String
  /-- The socket of the offer. -/
  offeredOn : ι
  deriving DecidableEq

/-- A socket without an entry lists no peer connection. -/
structure SignalingManager (ι : Type) where
  peerConnections : String → Option (PeerConnection ι)
  connectionPeerIds : ι → Finset String
  peerConnectionOwners : String → Option ι

namespace SignalingManager

variable {ι : Type} [DecidableEq ι]

def trackPeerConnection (m : SignalingManager ι) (connectionId : ι) (pcId : String) (pc : PeerConnection ι) :
    SignalingManager ι where
  peerConnections := Function.update m.peerConnections pcId (some pc)
  peerConnectionOwners := Function.update m.peerConnectionOwners pcId (some connectionId)
  connectionPeerIds :=
    Function.update m.connectionPeerIds connectionId (insert pcId (m.connectionPeerIds connectionId))

def forgetPeerConnection (m : SignalingManager ι) (pcId : String) : SignalingManager ι where
  peerConnections := Function.update m.peerConnections pcId none
  peerConnectionOwners := Function.update m.peerConnectionOwners pcId none
  connectionPeerIds := Ownership.unlist m.peerConnectionOwners m.connectionPeerIds pcId

/-- One round of the loop of the cleanup. -/
def popPeerConnection (m : SignalingManager ι) (pcId : String) : SignalingManager ι :=
  { m with
    peerConnections := Function.update m.peerConnections pcId none
    peerConnectionOwners := Function.update m.peerConnectionOwners pcId none }

/-- The rounds of the cleanup up to its next await: the peer connection to disconnect, if one is stored, and the
ids that are left. -/
def nextPeerConnection : List String → SignalingManager ι →
    (Option (PeerConnection ι) × List String) × SignalingManager ι
  | [], m => ((none, []), m)
  | pcId :: peerIds, m =>
    match m.peerConnections pcId with
    | some pc => ((some pc, peerIds), m.popPeerConnection pcId)
    | none => nextPeerConnection peerIds (m.popPeerConnection pcId)

end SignalingManager

structure Outside where
  hasQuota : Bool
  hasSlot : Bool
  binds : Bool

structure SignalingState (ι : Type) where
  manager : SignalingManager ι
  wsSenders : Nat → Option ι
  handled : List (PeerConnection ι)
  outside : Outside

inductive SignalingCommand (ι : Type) where
  | receiveJson
  | authorizeWorkflowRunStart
  | acquireOrgSlot
  | bindWorkflowRun
  | disconnect (pc : PeerConnection ι)
  | other
  | peerConnection (pcId : String)
  /-- `_track_peer_connection`, `register_ws_sender` and the handler of the `closed` event. -/
  | track (pcId : String)
  | cleanUp
  | nextPeerConnection (peerIds : List String)
  deriving DecidableEq

abbrev SignalingCommand.Reply {ι : Type} : SignalingCommand ι → Type
  | .authorizeWorkflowRunStart | .acquireOrgSlot | .bindWorkflowRun => Bool
  | .peerConnection _ => Option (PeerConnection ι) × Option ι
  | .track _ => PeerConnection ι
  | .cleanUp | .nextPeerConnection _ => Option (PeerConnection ι) × List String
  | .receiveJson | .disconnect _ | .other => Unit

/-- `list` of a set of ids, in whatever order. -/
structure SetOrder where
  list : Finset String → List String
  nodup : ∀ ids, (list ids).Nodup
  mem : ∀ ids pcId, pcId ∈ list ids ↔ pcId ∈ ids

inductive SignalingMove (ι : Type) where
  | closed (pc : PeerConnection ι)
  | outside (answers : Outside)

namespace SignalingState

variable {ι : Type} [DecidableEq ι]

/-- `workflowRunOf` is the run that a socket has been opened for. -/
def execute (order : SetOrder) (workflowRunOf : ι → Nat) (s : SignalingState ι) (proc : ι) :
    (command : SignalingCommand ι) → command.Reply × SignalingState ι
  | .authorizeWorkflowRunStart => (s.outside.hasQuota, s)
  | .acquireOrgSlot => (s.outside.hasSlot, s)
  | .bindWorkflowRun => (s.outside.binds, s)
  | .peerConnection pcId => ((s.manager.peerConnections pcId, s.manager.peerConnectionOwners pcId), s)
  | .track pcId =>
    let pc : PeerConnection ι := ⟨pcId, proc⟩
    (pc, { s with
      manager := s.manager.trackPeerConnection proc pcId pc
      wsSenders := Function.update s.wsSenders (workflowRunOf proc) (some proc)
      handled := pc :: s.handled })
  | .cleanUp =>
    let next := SignalingManager.nextPeerConnection (order.list (s.manager.connectionPeerIds proc))
      { s.manager with connectionPeerIds := Function.update s.manager.connectionPeerIds proc ∅ }
    (next.1, { s with
      manager := next.2
      wsSenders := Function.update s.wsSenders (workflowRunOf proc) none })
  | .nextPeerConnection peerIds =>
    let next := SignalingManager.nextPeerConnection peerIds s.manager
    (next.1, { s with manager := next.2 })
  | .receiveJson | .disconnect _ | .other => ((), s)

def environment (s : SignalingState ι) : SignalingMove ι → Option (SignalingState ι)
  | .closed pc =>
    if pc ∈ s.handled then
      some { s with
        manager := s.manager.forgetPeerConnection pc.pcId
        handled := s.handled.erase pc }
    else none
  | .outside answers => some { s with outside := answers }

end SignalingState

def SignalingCommand.awaits {ι : Type} : SignalingCommand ι → Bool
  | .peerConnection _ | .track _ | .cleanUp | .nextPeerConnection _ => false
  | _ => true

def signalingServices {ι : Type} [DecidableEq ι] (order : SetOrder) (workflowRunOf : ι → Nat) :
    System ι (SignalingCommand.Reply (ι := ι)) Error (SignalingState ι) (SignalingMove ι) where
  perform proc command outcome s :=
    match command.awaits, outcome.raised with
    | true, some error => (.error error, s)
    | _, _ => (.ok (s.execute order workflowRunOf proc command).1, (s.execute order workflowRunOf proc command).2)
  environment move s := s.environment move

variable {ι : Type}

abbrev SignalingMethod (ι α : Type) := Program (SignalingCommand.Reply (ι := ι)) Error α

def other : SignalingMethod ι Unit := Program.call SignalingCommand.other

/-- Whether an offer gets a slot, and its run none before. -/
def takeSlot (enforceCallConcurrency : Bool) : SignalingMethod ι Bool :=
  if enforceCallConcurrency then do
    let acquired ← Program.call SignalingCommand.acquireOrgSlot
    if acquired then Program.call SignalingCommand.bindWorkflowRun else return false
  else return true

def initializePeerConnection : SignalingMethod ι Unit :=
  other.tryCatch fun error =>
    if error.isException then do
      other
      .raise error
    else .raise error

def sendAnswer (pc : PeerConnection ι) : SignalingMethod ι Unit :=
  other.tryCatch fun error =>
    if error.isException then do
      orElse (Program.call (SignalingCommand.disconnect pc)) ()
      .raise error
    else .raise error

/-- The loop of the cleanup from an await on; each round leaves fewer ids. -/
def disconnectAll : Nat → Option (PeerConnection ι) × List String → SignalingMethod ι Unit
  | _, (none, _) => return ()
  | 0, (some pc, _) => orElse (Program.call (SignalingCommand.disconnect pc)) ()
  | rounds + 1, (some pc, peerIds) => do
    orElse (Program.call (SignalingCommand.disconnect pc)) ()
    let next ← Program.call (SignalingCommand.nextPeerConnection peerIds)
    disconnectAll rounds next

def cleanUp : SignalingMethod ι Unit := do
  let next ← Program.call (SignalingCommand.cleanUp (ι := ι))
  disconnectAll next.2.length next

variable [DecidableEq ι]

/-- A missing field of an offer is as good as an empty one. -/
def handleOffer (connectionKey : ι) (enforceCallConcurrency : Bool) (pcId sdp type : String) :
    SignalingMethod ι Unit := do
  if pcId = "" ∨ sdp = "" ∨ type = "" then other
  else
    let hasQuota ← Program.call SignalingCommand.authorizeWorkflowRunStart
    if !hasQuota then other
    else
      let found ← Program.call (SignalingCommand.peerConnection pcId)
      if found.1.isSome then
        if found.2 ≠ some connectionKey then other
        else
          other
          other
      else
        let admitted ← takeSlot enforceCallConcurrency
        if !admitted then other
        else
          initializePeerConnection
          let pc ← Program.call (SignalingCommand.track pcId)
          sendAnswer pc

def handleIceCandidate (connectionKey : ι) (pcId : String) (addsCandidate : Bool) : SignalingMethod ι Unit := do
  if pcId = "" then return ()
  else
    let found ← Program.call (SignalingCommand.peerConnection pcId)
    if found.1.isNone ∨ found.2 ≠ some connectionKey then return ()
    else if addsCandidate then orElse other () else return ()

def handleRenegotiation (connectionKey : ι) (pcId : String) : SignalingMethod ι Unit := do
  let found ← Program.call (SignalingCommand.peerConnection pcId)
  if pcId = "" ∨ found.1.isNone ∨ found.2 ≠ some connectionKey then other
  else
    other
    other

inductive Message where
  | offer (pcId sdp type : String)
  | iceCandidate (pcId : String) (addsCandidate : Bool)
  | renegotiate (pcId : String)
  | unknown

def handleMessage (connectionKey : ι) (enforceCallConcurrency : Bool) : Message → SignalingMethod ι Unit
  | .offer pcId sdp type => handleOffer connectionKey enforceCallConcurrency pcId sdp type
  | .iceCandidate pcId addsCandidate => handleIceCandidate connectionKey pcId addsCandidate
  | .renegotiate pcId => handleRenegotiation connectionKey pcId
  | .unknown => return ()

/-- The loop of a socket whose client disconnects after the messages. -/
def receiveMessages (connectionKey : ι) (enforceCallConcurrency : Bool) : List Message → SignalingMethod ι Unit
  | [] => do
    Program.call SignalingCommand.receiveJson
    .raise .exception
  | message :: messages => do
    Program.call SignalingCommand.receiveJson
    handleMessage connectionKey enforceCallConcurrency message
    receiveMessages connectionKey enforceCallConcurrency messages

def handleWebsocket (connectionKey : ι) (enforceCallConcurrency : Bool) (messages : List Message) :
    SignalingMethod ι Unit :=
  andFinally (orElse (receiveMessages connectionKey enforceCallConcurrency messages) ()) cleanUp

end FastVoice.Signaling
