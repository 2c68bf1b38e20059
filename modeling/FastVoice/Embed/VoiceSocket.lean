import FastVoice.Runtime
import FastVoice.Embed.Tokens
import FastVoice.Workflows.ContextOwnership

/-! # The public signaling socket

Tokens, sessions and runs, and the requests of anonymous clients to the voice socket. Each request reads its
rows one after the other, before the socket is accepted.
-/
namespace FastVoice.Embed
open Async Workflows Python

inductive WorkflowRunMode where
  | ari
  | plivo
  | twilio
  | vonage
  | vobiz
  | cloudonix
  | telnyx
  | webrtc
  | smallwebrtc
  | textchat
  | stasis
  | voice
  | chat
  deriving DecidableEq

/-- The organization is that of the workflow. -/
structure EmbedRun where
  workflowId : Nat
  organizationId : Nat
  mode : WorkflowRunMode
  context : RunContext

/-- What other services answer to an offer. -/
structure OfferAnswers where
  hasQuota : Bool
  correlationId : Option String
  /-- The offer is for a new peer connection, gets a slot, and the connection is initialized. -/
  connects : Bool

structure EmbedStore where
  tokens : Nat → Option EmbedToken
  sessions : String → Option EmbedSession
  runs : Nat → Option EmbedRun
  users : Nat → Bool
  now : Nat
  answers : OfferAnswers
  /-- The pipelines that offers have created: the run of each and the variables of the offer. -/
  created : List (Nat × Context)

inductive VoiceCommand where
  | getEmbedSessionByToken (sessionToken : String)
  | getEmbedTokenById (tokenId : Nat)
  | getWorkflowRun (runId organizationId : Nat)
  | getUserById (userId : Nat)
  | accept (sessionToken origin : String)
  | authorizeWorkflowRunStart (runId : Nat)
  | connectPeer
  /-- `asyncio.create_task(run_pipeline_smallwebrtc(...))`. -/
  | createPipeline (runId : Nat) (callContextVars : Context)
  | other

abbrev VoiceCommand.Reply : VoiceCommand → Type
  | .getEmbedSessionByToken _ => Option EmbedSession × Nat
  | .getEmbedTokenById _ => Option EmbedToken
  | .getWorkflowRun _ _ => Option EmbedRun
  | .getUserById _ | .authorizeWorkflowRunStart _ | .connectPeer => Bool
  | .accept _ _ | .createPipeline _ _ | .other => Unit

structure TokenChanges where
  allowedDomains : Option (List String)
  isActive : Option Bool

def EmbedToken.change (token : EmbedToken) (changes : TokenChanges) : EmbedToken :=
  { token with
    allowedDomains := changes.allowedDomains.getD token.allowedDomains
    isActive := changes.isActive.getD token.isActive }

inductive EmbedMove where
  | createEmbedToken (tokenId : Nat) (token : EmbedToken)
  | updateEmbedToken (tokenId organizationId : Nat) (changes : TokenChanges)
  | createWorkflowRun (runId : Nat) (run : EmbedRun)
  | createEmbedSession (sessionToken : String) (session : EmbedSession)
  | timePasses (duration : Nat)
  | answer (answers : OfferAnswers)
  | pipeline (runId : Nat) (event : ContextEvent Context)

def deactivateEmbedToken (tokenId organizationId : Nat) : EmbedMove :=
  .updateEmbedToken tokenId organizationId ⟨none, some false⟩

def EmbedRun.apply (str : Json → String) (run : EmbedRun) (event : ContextEvent Context) : EmbedRun :=
  { run with context := run.context.apply str event }

namespace EmbedStore

def applyToRun (str : Json → String) (s : EmbedStore) (runId : Nat) (event : ContextEvent Context) : EmbedStore :=
  { s with runs := Function.update s.runs runId ((s.runs runId).map fun run => run.apply str event) }

/-- Ids count from one, so every lookup of a run is scoped to the organization. -/
def execute (str : Json → String) (s : EmbedStore) : (command : VoiceCommand) → command.Reply × EmbedStore
  | .getEmbedSessionByToken sessionToken => ((s.sessions sessionToken, s.now), s)
  | .getEmbedTokenById tokenId => (s.tokens tokenId, s)
  | .getWorkflowRun runId organizationId => ((s.runs runId).filter (·.organizationId = organizationId), s)
  | .getUserById userId => (s.users userId, s)
  | .authorizeWorkflowRunStart runId =>
    (s.answers.hasQuota,
      match s.answers.correlationId with
      | some correlationId => s.applyToRun str runId (.storeRunCorrelationId correlationId)
      | none => s)
  | .connectPeer => (s.answers.connects, s)
  | .createPipeline runId callContextVars => ((), { s with created := (runId, callContextVars) :: s.created })
  | .accept _ _ | .other => ((), s)

/-- A pipeline runs with the variables that it has been created with. -/
def pipelineStep (str : Json → String) (s : EmbedStore) (runId : Nat) (event : ContextEvent Context) :
    Option EmbedStore :=
  match event with
  | .runPipeline callContextVars _ _ =>
    if (runId, callContextVars) ∈ s.created then some (s.applyToRun str runId event) else none
  | _ => some (s.applyToRun str runId event)

def environment (str : Json → String) (s : EmbedStore) : EmbedMove → Option EmbedStore
  | .createEmbedToken tokenId token =>
    if (s.tokens tokenId).isSome then none
    else some { s with tokens := Function.update s.tokens tokenId (some token) }
  | .updateEmbedToken tokenId organizationId changes =>
    match s.tokens tokenId with
    | some token =>
      if token.organizationId = organizationId then
        some { s with tokens := Function.update s.tokens tokenId (some (token.change changes)) }
      else some s
    | none => some s
  | .createWorkflowRun runId run =>
    if (s.runs runId).isSome then none else some { s with runs := Function.update s.runs runId (some run) }
  | .createEmbedSession sessionToken session =>
    if (s.sessions sessionToken).isSome then none
    else some { s with sessions := Function.update s.sessions sessionToken (some session) }
  | .timePasses duration => some { s with now := s.now + duration }
  | .answer answers => some { s with answers := answers }
  | .pipeline runId event => s.pipelineStep str runId event

end EmbedStore

def embedServices (ι : Type) (str : Json → String) : System ι VoiceCommand.Reply Error EmbedStore EmbedMove :=
  System.ofServer (fun command s => s.execute str command) fun move s => s.environment str move

abbrev VoiceMethod (α : Type) := Program VoiceCommand.Reply Error α

def other : VoiceMethod Unit := Program.call VoiceCommand.other

inductive Payload where
  | offer (pcId sdp type : String) (callContextVars : Context)
  /-- A candidate, a renegotiation, or a message that is not handled. -/
  | otherMessage

/-- A missing field is as good as an empty one. -/
def handleOffer (runId : Nat) (allowClientContextVars : Bool) (pcId sdp type : String)
    (clientContextVars : Context) : VoiceMethod Unit := do
  let callContextVars := if allowClientContextVars then clientContextVars else ∅
  if pcId = "" ∨ sdp = "" ∨ type = "" then other
  else
    let hasQuota ← Program.call (VoiceCommand.authorizeWorkflowRunStart runId)
    if !hasQuota then other
    else
      let connects ← Program.call VoiceCommand.connectPeer
      if !connects then other
      else
        Program.call (VoiceCommand.createPipeline runId callContextVars)
        other

def handleMessage (runId : Nat) (allowClientContextVars : Bool) : Payload → VoiceMethod Unit
  | .offer pcId sdp type clientContextVars =>
    handleOffer runId allowClientContextVars pcId sdp type clientContextVars
  | .otherMessage => other

def receivePayloads (runId : Nat) (allowClientContextVars : Bool) : List Payload → VoiceMethod Unit
  | [] => other
  | payload :: payloads => do
    other
    handleMessage runId allowClientContextVars payload
    receivePayloads runId allowClientContextVars payloads

structure SocketRequest where
  sessionToken : String
  origin : String
  payloads : List Payload

def handleWebsocket (request : SocketRequest) (runId : Nat) (allowClientContextVars : Bool) : VoiceMethod Unit := do
  Program.call (VoiceCommand.accept request.sessionToken request.origin)
  orElse (receivePayloads runId allowClientContextVars request.payloads) ()

def closeSocket : VoiceMethod Unit := other

def publicSignalingWebsocket (library : UrlLibrary) (request : SocketRequest) : VoiceMethod Unit := do
  let found ← Program.call (VoiceCommand.getEmbedSessionByToken request.sessionToken)
  match found.1 with
  | none => closeSocket
  | some embedSession =>
    if embedSession.expiresAt < found.2 then closeSocket
    else
      let embedToken ← Program.call (VoiceCommand.getEmbedTokenById embedSession.embedTokenId)
      match embedToken with
      | none => closeSocket
      | some embedToken =>
        match embedSession.workflowRunId with
        | none => do
          other
          closeSocket
        | some runId =>
          let workflowRun ← Program.call (VoiceCommand.getWorkflowRun runId embedToken.organizationId)
          match workflowRun with
          | none => closeSocket
          | some workflowRun =>
            if workflowRun.workflowId ≠ embedToken.workflowId then closeSocket
            else if workflowRun.mode ≠ .smallwebrtc then closeSocket
            else
              match library.validateEmbedOrigin request.origin embedToken.allowedDomains with
              | none => .raise .exception
              | some false => closeSocket
              | some true =>
                let user ← Program.call (VoiceCommand.getUserById embedToken.createdBy)
                if !user then closeSocket else handleWebsocket request runId false

end FastVoice.Embed
