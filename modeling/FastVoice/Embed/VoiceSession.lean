import FastVoice.Embed.VoiceSocket

/-! # What a public voice session may do

A request to the voice socket checks rows that it has read before, and not whether the token is active. The
variables of an offer never reach the context of its run.
-/
namespace FastVoice.Embed
open Async Workflows Python

abbrev EmbedRecord (ι : Type) := Recorded ι VoiceCommand Error EmbedStore EmbedMove

/-! ## What an accepted socket must have -/

/-- An unexpired session of an active token that allows the origin, with a voice run of its workflow. -/
def ValidVoiceSession (library : UrlLibrary) (s : EmbedStore) (sessionToken origin : String) : Prop :=
  ∃ session token runId run,
    s.sessions sessionToken = some session ∧ s.now ≤ session.expiresAt ∧
    s.tokens session.embedTokenId = some token ∧ token.isActive = true ∧
    library.validateEmbedOrigin origin token.allowedDomains = some true ∧
    session.workflowRunId = some runId ∧ s.runs runId = some run ∧ run.mode = .smallwebrtc ∧
    run.workflowId = token.workflowId ∧ run.organizationId = token.organizationId

def AcceptsValid {ι : Type} (library : UrlLibrary) : Entry ι VoiceCommand Error EmbedStore EmbedMove → Prop
  | .call _ (.accept sessionToken origin) _ found => ValidVoiceSession library found sessionToken origin
  | _ => True

/-! ## How far a request has come -/

inductive VoiceStage where
  | start
  | checked (sessionToken : String) (session : EmbedSession)
  | read (sessionToken : String) (session : EmbedSession) (token : EmbedToken)
  | found (sessionToken : String) (session : EmbedSession) (token : EmbedToken) (runId : Nat) (run : EmbedRun)
  | accepted

namespace VoiceStage

def session? : VoiceStage → Option EmbedSession
  | .checked _ session | .read _ session _ | .found _ session _ _ _ => some session
  | .start | .accepted => none

def token? : VoiceStage → Option (EmbedSession × EmbedToken)
  | .read _ session token | .found _ session token _ _ => some (session, token)
  | .start | .checked _ _ | .accepted => none

def permits (library : UrlLibrary) : VoiceStage → VoiceCommand → Prop
  | .checked _ session, .getEmbedTokenById tokenId => tokenId = session.embedTokenId
  | .read _ session token, .getWorkflowRun runId organizationId =>
    session.workflowRunId = some runId ∧ organizationId = token.organizationId
  | stage, .accept sessionToken origin => ∃ session token runId run,
      stage = .found sessionToken session token runId run ∧ run.workflowId = token.workflowId ∧
        run.mode = .smallwebrtc ∧ library.validateEmbedOrigin origin token.allowedDomains = some true
  | _, _ => True

def next : VoiceStage → (command : VoiceCommand) → Except Error command.Reply → VoiceStage
  | .start, .getEmbedSessionByToken sessionToken, .ok (some session, now) =>
    if session.expiresAt < now then .start else .checked sessionToken session
  | .checked sessionToken session, .getEmbedTokenById _, .ok (some token) => .read sessionToken session token
  | .read sessionToken session token, .getWorkflowRun runId _, .ok (some run) =>
    .found sessionToken session token runId run
  | .found _ _ _ _ _, .accept _ _, _ => .accepted
  | stage, _, _ => stage

end VoiceStage

def voiceProtocol (library : UrlLibrary) : Protocol VoiceCommand.Reply Error VoiceStage where
  permits := VoiceStage.permits library
  next := VoiceStage.next

section Obeys

variable {library : UrlLibrary} {stage : VoiceStage}

abbrev Obeying (library : UrlLibrary) (program : VoiceMethod Unit) (stage : VoiceStage) : Prop :=
  program.Obeys (voiceProtocol library) (fun _ _ => True) stage

def Free : VoiceCommand → Prop
  | .authorizeWorkflowRunStart _ | .connectPeer | .createPipeline _ _ | .other => True
  | _ => False

theorem free_obeying {program : VoiceMethod Unit} (h : program.Issues Free) (stage : VoiceStage) :
    Obeying library program stage := by
  refine Program.Issues.obeys (T := fun _ => True) h ?_ trivial
  intro other command _ hFree
  refine ⟨?_, fun _ => trivial⟩
  cases command <;> first | exact hFree.elim | (cases other <;> trivial)

theorem other_issues : other.Issues Free := Program.issues_call trivial

theorem handleMessage_issues (runId : Nat) (allowClientContextVars : Bool) (payload : Payload) :
    (handleMessage runId allowClientContextVars payload).Issues Free := by
  cases payload with
  | otherMessage => exact other_issues
  | offer pcId sdp type clientContextVars =>
    change (handleOffer runId allowClientContextVars pcId sdp type clientContextVars).Issues Free
    unfold handleOffer
    generalize (if allowClientContextVars then clientContextVars else (∅ : Context)) = callContextVars
    dsimp only
    split
    · exact other_issues
    · refine (Program.issues_call trivial).bind fun hasQuota => ?_
      split
      · exact other_issues
      · refine (Program.issues_call trivial).bind fun connects => ?_
        split
        · exact other_issues
        · exact (Program.issues_call trivial).bind fun _ => other_issues

theorem receivePayloads_issues (runId : Nat) (allowClientContextVars : Bool) (payloads : List Payload) :
    (receivePayloads runId allowClientContextVars payloads).Issues Free := by
  induction payloads with
  | nil => exact other_issues
  | cons payload payloads ih =>
    exact other_issues.bind fun _ => (handleMessage_issues runId allowClientContextVars payload).bind fun _ => ih

theorem voice_call_bind {command : VoiceCommand} {next : command.Reply → VoiceMethod Unit}
    (hPermits : stage.permits library command)
    (hNext : ∀ reply, Obeying library (next reply) (stage.next command (.ok reply))) :
    Obeying library (Program.call command >>= next) stage :=
  Program.obeys_call_bind hPermits hNext fun _ => trivial

theorem publicSignalingWebsocket_obeying (request : SocketRequest) :
    Obeying library (publicSignalingWebsocket library request) .start := by
  have hClose (stage : VoiceStage) : Obeying library closeSocket stage := free_obeying other_issues stage
  refine voice_call_bind trivial ?_
  rintro ⟨_ | session, now⟩
  · exact hClose _
  change Obeying library (if session.expiresAt < now then _ else _)
    (if session.expiresAt < now then .start else .checked request.sessionToken session)
  split
  · exact hClose _
  refine voice_call_bind rfl ?_
  rintro (_ | token)
  · exact hClose _
  change Obeying library _ (.read request.sessionToken session token)
  dsimp only
  split
  · exact free_obeying (other_issues.bind fun _ => other_issues) _
  rename_i runId hRunId
  refine voice_call_bind ⟨hRunId, rfl⟩ ?_
  rintro (_ | run)
  · exact hClose _
  change Obeying library (if run.workflowId ≠ token.workflowId then _ else _)
    (.found request.sessionToken session token runId run)
  split
  · exact hClose _
  rename_i hWorkflow
  split
  · exact hClose _
  rename_i hMode
  split
  · trivial
  · exact hClose _
  rename_i hOrigin
  refine voice_call_bind trivial fun user => ?_
  split
  · exact hClose _
  refine voice_call_bind ⟨session, token, runId, run, rfl, not_not.mp hWorkflow, not_not.mp hMode, hOrigin⟩ ?_
  intro _
  exact orElse_obeys (free_obeying (receivePayloads_issues runId false request.payloads) _) fun _ _ _ => trivial

end Obeys

/-! ## The condition -/

variable {ι : Type} [DecidableEq ι] (str : Json → String) (library : UrlLibrary)

def voiceStages (s : EmbedRecord ι) : ι → VoiceStage :=
  (embedServices ι str).ghosts (voiceProtocol library) .start s

/-- An update leaves active what was active, and lets in every origin that was let in. -/
def TokenChanges.Keeps (changes : TokenChanges) (token : EmbedToken) : Prop :=
  changes.isActive ≠ some false ∧ ∀ domains, changes.allowedDomains = some domains → ∀ origin,
    library.validateEmbedOrigin origin token.allowedDomains = some true →
      library.validateEmbedOrigin origin domains = some true

/-- A socket is accepted only if the token was active when it was read; and while a request is under way its
session does not expire, and its token is neither deactivated nor restricted. -/
def watchedDiscipline : System.Discipline ι VoiceCommand.Reply Error (EmbedRecord ι) EmbedMove where
  call proc command _ s :=
    match command with
    | .accept _ _ => ∀ session token, (voiceStages str library s proc).token? = some (session, token) →
        token.isActive = true
    | _ => True
  environment move s :=
    match move with
    | .updateEmbedToken tokenId _ changes => ∀ proc session token,
        (voiceStages str library s proc).token? = some (session, token) → session.embedTokenId = tokenId →
          changes.Keeps library token
    | .timePasses duration => ∀ proc session, (voiceStages str library s proc).session? = some session →
        s.state.now + duration ≤ session.expiresAt
    | _ => True

/-! ## What a request has read is still so -/

section Current

variable {library : UrlLibrary} {s s' : EmbedStore} {stage : VoiceStage}

def TokenCurrent (library : UrlLibrary) (s : EmbedStore) (tokenId : Nat) (token : EmbedToken) : Prop :=
  ∃ row, s.tokens tokenId = some row ∧ row.workflowId = token.workflowId ∧
    row.organizationId = token.organizationId ∧ (token.isActive = true → row.isActive = true) ∧
    ∀ origin, library.validateEmbedOrigin origin token.allowedDomains = some true →
      library.validateEmbedOrigin origin row.allowedDomains = some true

def SameRun (run row : EmbedRun) : Prop :=
  row.workflowId = run.workflowId ∧ row.organizationId = run.organizationId ∧ row.mode = run.mode

def RunCurrent (s : EmbedStore) (runId : Nat) (run : EmbedRun) : Prop :=
  ∃ row, s.runs runId = some row ∧ SameRun run row

def Current (library : UrlLibrary) (s : EmbedStore) : VoiceStage → Prop
  | .start | .accepted => True
  | .checked sessionToken session => s.sessions sessionToken = some session ∧ s.now ≤ session.expiresAt
  | .read sessionToken session token =>
    (s.sessions sessionToken = some session ∧ s.now ≤ session.expiresAt) ∧
      TokenCurrent library s session.embedTokenId token
  | .found sessionToken session token runId run =>
    ((s.sessions sessionToken = some session ∧ s.now ≤ session.expiresAt) ∧
      TokenCurrent library s session.embedTokenId token) ∧
      session.workflowRunId = some runId ∧ run.organizationId = token.organizationId ∧ RunCurrent s runId run

structure Leaves (library : UrlLibrary) (s s' : EmbedStore) (stage : VoiceStage) : Prop where
  sessions : ∀ sessionToken session, s.sessions sessionToken = some session →
    s'.sessions sessionToken = some session
  time : ∀ session, stage.session? = some session → s.now ≤ session.expiresAt → s'.now ≤ session.expiresAt
  tokens : ∀ session token, stage.token? = some (session, token) →
    TokenCurrent library s session.embedTokenId token → TokenCurrent library s' session.embedTokenId token
  runs : ∀ runId run, RunCurrent s runId run → RunCurrent s' runId run

theorem Current.leaves (h : Current library s stage) (hLeaves : Leaves library s s' stage) :
    Current library s' stage := by
  cases stage with
  | start => trivial
  | accepted => trivial
  | checked sessionToken session =>
    exact ⟨hLeaves.sessions _ _ h.1, hLeaves.time session rfl h.2⟩
  | read sessionToken session token =>
    obtain ⟨⟨hSession, hTime⟩, hToken⟩ := h
    exact ⟨⟨hLeaves.sessions _ _ hSession, hLeaves.time session rfl hTime⟩, hLeaves.tokens _ _ rfl hToken⟩
  | found sessionToken session token runId run =>
    obtain ⟨⟨⟨hSession, hTime⟩, hToken⟩, hRunId, hOrganization, hRun⟩ := h
    exact ⟨⟨⟨hLeaves.sessions _ _ hSession, hLeaves.time session rfl hTime⟩, hLeaves.tokens _ _ rfl hToken⟩,
      hRunId, hOrganization, hLeaves.runs _ _ hRun⟩

theorem Leaves.refl (s : EmbedStore) (stage : VoiceStage) : Leaves library s s stage :=
  ⟨fun _ _ h => h, fun _ _ h => h, fun _ _ _ h => h, fun _ _ h => h⟩

theorem leaves_applyToRun (str : Json → String) (s : EmbedStore) (runId : Nat) (event : ContextEvent Context)
    (stage : VoiceStage) : Leaves library s (s.applyToRun str runId event) stage := by
  refine ⟨fun _ _ h => h, fun _ _ h => h, fun _ _ _ h => h, ?_⟩
  rintro otherId run ⟨row, hRow, hSame⟩
  unfold RunCurrent EmbedStore.applyToRun
  rcases eq_or_ne otherId runId with rfl | hNe
  · exact ⟨row.apply str event, by simp [hRow], hSame⟩
  · exact ⟨row, by simp [Function.update_of_ne hNe, hRow], hSame⟩

theorem update_of_isSome {κ α : Type} [DecidableEq κ] {rows : κ → Option α} {key other : κ} {new old : α}
    (hNew : (rows key).isSome = false) (h : rows other = some old) :
    Function.update rows key (some new) other = some old := by
  rcases eq_or_ne other key with rfl | hNe
  · rw [h] at hNew
    cases hNew
  · rw [Function.update_of_ne hNe]
    exact h

theorem leaves_execute (str : Json → String) (s : EmbedStore) (command : VoiceCommand) (stage : VoiceStage) :
    Leaves library s (s.execute str command).2 stage := by
  cases command with
  | authorizeWorkflowRunStart runId =>
    unfold EmbedStore.execute
    cases s.answers.correlationId with
    | none => exact Leaves.refl s stage
    | some correlationId => exact leaves_applyToRun str s runId _ stage
  | createPipeline runId callContextVars =>
    exact ⟨fun _ _ h => h, fun _ _ h => h, fun _ _ _ h => h, fun _ _ h => h⟩
  | getEmbedSessionByToken sessionToken => exact Leaves.refl s stage
  | getEmbedTokenById tokenId => exact Leaves.refl s stage
  | getWorkflowRun runId organizationId => exact Leaves.refl s stage
  | getUserById userId => exact Leaves.refl s stage
  | accept sessionToken origin => exact Leaves.refl s stage
  | connectPeer => exact Leaves.refl s stage
  | other => exact Leaves.refl s stage

theorem tokenCurrent_change {tokenId : Nat} {token row : EmbedToken} {changes : TokenChanges}
    (hRow : s.tokens tokenId = some row) (hKeeps : changes.Keeps library token)
    (h : TokenCurrent library s tokenId token)
    (hTokens : s'.tokens tokenId = some (row.change changes)) : TokenCurrent library s' tokenId token := by
  obtain ⟨same, hSame, hWorkflow, hOrganization, hActive, hOrigins⟩ := h
  obtain rfl := Option.some.inj (hRow.symm.trans hSame)
  refine ⟨_, hTokens, hWorkflow, hOrganization, fun hToken => ?_, fun origin hOrigin => ?_⟩
  · unfold EmbedToken.change
    cases hChange : changes.isActive with
    | none => exact hActive hToken
    | some isActive =>
      cases isActive with
      | true => rfl
      | false => exact absurd hChange hKeeps.1
  · unfold EmbedToken.change
    cases hChange : changes.allowedDomains with
    | none => exact hOrigins origin hOrigin
    | some domains => exact hKeeps.2 domains hChange origin hOrigin

theorem current_next (str : Json → String) (h : Current library s stage) {command : VoiceCommand}
    (hPermits : stage.permits library command) :
    Current library s (stage.next command (.ok (s.execute str command).1)) := by
  cases command with
  | getEmbedSessionByToken sessionToken =>
    cases stage with
    | start =>
      change Current library s (VoiceStage.next .start (.getEmbedSessionByToken sessionToken)
        (.ok (s.sessions sessionToken, s.now)))
      cases hSession : s.sessions sessionToken with
      | none => trivial
      | some session =>
        change Current library s (if session.expiresAt < s.now then _ else _)
        split
        · trivial
        · rename_i hTime
          exact ⟨hSession, not_lt.mp hTime⟩
    | checked sessionToken session => exact h
    | read sessionToken session token => exact h
    | found sessionToken session token runId run => exact h
    | accepted => trivial
  | getEmbedTokenById tokenId =>
    cases stage with
    | checked sessionToken session =>
      obtain rfl : tokenId = session.embedTokenId := hPermits
      change Current library s (VoiceStage.next (.checked sessionToken session)
        (.getEmbedTokenById session.embedTokenId) (.ok (s.tokens session.embedTokenId)))
      cases hToken : s.tokens session.embedTokenId with
      | none => exact h
      | some token => exact ⟨h, token, hToken, rfl, rfl, id, fun _ => id⟩
    | start => trivial
    | read sessionToken session token => exact h
    | found sessionToken session token runId run => exact h
    | accepted => trivial
  | getWorkflowRun runId organizationId =>
    cases stage with
    | read sessionToken session token =>
      obtain ⟨hRunId, rfl⟩ := hPermits
      change Current library s (VoiceStage.next (.read sessionToken session token)
        (.getWorkflowRun runId token.organizationId)
        (.ok ((s.runs runId).filter (·.organizationId = token.organizationId))))
      cases hRun : (s.runs runId).filter (·.organizationId = token.organizationId) with
      | none => exact h
      | some run =>
        obtain ⟨hRow, hOrganization⟩ := Option.filter_eq_some_iff.mp hRun
        exact ⟨h, hRunId, of_decide_eq_true hOrganization, run, hRow, rfl, rfl, rfl⟩
    | start => trivial
    | checked sessionToken session => exact h
    | found sessionToken session token runId run => exact h
    | accepted => trivial
  | accept sessionToken origin => cases stage <;> trivial
  | getUserById userId => cases stage <;> exact h
  | authorizeWorkflowRunStart runId => cases stage <;> exact h
  | connectPeer => cases stage <;> exact h
  | createPipeline runId callContextVars => cases stage <;> exact h
  | other => cases stage <;> exact h

theorem current_error (h : Current library s stage) (command : VoiceCommand)
    (error : Error) : Current library s (stage.next command (.error error)) := by
  cases command <;> cases stage <;> trivial

theorem valid_of_current (h : Current library s stage) {sessionToken origin : String}
    (hPermits : stage.permits library (.accept sessionToken origin))
    (hActive : ∀ session token, stage.token? = some (session, token) → token.isActive = true) :
    ValidVoiceSession library s sessionToken origin := by
  have hFound : ∃ session token runId run,
      stage = .found sessionToken session token runId run ∧ run.workflowId = token.workflowId ∧
        run.mode = .smallwebrtc ∧ library.validateEmbedOrigin origin token.allowedDomains = some true := by
    cases stage <;> exact hPermits
  obtain ⟨session, token, runId, run, rfl, hWorkflow, hMode, hOrigin⟩ := hFound
  obtain ⟨⟨⟨hSession, hTime⟩, row, hRow, hSameWorkflow, hSameOrganization, hRowActive, hOrigins⟩, hRunId,
    hOrganization, run', hRun, hRunWorkflow, hRunOrganization, hRunMode⟩ := h
  refine ⟨session, row, runId, run', hSession, hTime, hRow, hRowActive (hActive session token rfl),
    hOrigins origin hOrigin, hRunId, hRun, ?_, ?_, ?_⟩
  · rw [hRunMode, hMode]
  · rw [hRunWorkflow, hWorkflow, hSameWorkflow]
  · rw [hRunOrganization, hOrganization, hSameOrganization]

end Current

section Step

variable {str library} {s s' : EmbedRecord ι}

theorem leaves_environment {move : EmbedMove} (hMove : s.state.environment str move = some s'.state)
    (hAllows : (watchedDiscipline str library).environment move s) (proc : ι) :
    Leaves library s.state s'.state (voiceStages str library s proc) := by
  obtain ⟨state', history'⟩ := s'
  have hMove : s.state.environment str move = some state' := hMove
  change Leaves library s.state state' _
  cases move with
  | createEmbedToken tokenId token =>
    simp only [EmbedStore.environment] at hMove
    split at hMove
    · cases hMove
    · rename_i hNew
      obtain rfl := Option.some.inj hMove
      refine ⟨fun _ _ h => h, fun _ _ h => h, fun session other _ hCurrent => ?_, fun _ _ h => h⟩
      obtain ⟨row, hRow, hRest⟩ := hCurrent
      exact ⟨row, update_of_isSome (Bool.eq_false_iff.mpr hNew) hRow, hRest⟩
  | updateEmbedToken tokenId organizationId changes =>
    simp only [EmbedStore.environment] at hMove
    split at hMove
    case h_2 =>
      obtain rfl := Option.some.inj hMove
      exact Leaves.refl _ _
    case h_1 row hRow =>
      split at hMove
      case isFalse =>
        obtain rfl := Option.some.inj hMove
        exact Leaves.refl _ _
      case isTrue =>
        obtain rfl := Option.some.inj hMove
        refine ⟨fun _ _ h => h, fun _ _ h => h, fun session token hToken hCurrent => ?_, fun _ _ h => h⟩
        rcases eq_or_ne session.embedTokenId tokenId with hSame | hNe
        · rw [hSame] at hCurrent ⊢
          exact tokenCurrent_change hRow (hAllows proc session token hToken hSame) hCurrent
            (Function.update_self _ _ _)
        · obtain ⟨other, hOther, hRest⟩ := hCurrent
          exact ⟨other, (Function.update_of_ne hNe _ _).trans hOther, hRest⟩
  | createWorkflowRun runId run =>
    simp only [EmbedStore.environment] at hMove
    split at hMove
    · cases hMove
    · rename_i hNew
      obtain rfl := Option.some.inj hMove
      refine ⟨fun _ _ h => h, fun _ _ h => h, fun _ _ _ h => h, ?_⟩
      rintro otherId other ⟨row, hRow, hSame⟩
      exact ⟨row, update_of_isSome (Bool.eq_false_iff.mpr hNew) hRow, hSame⟩
  | createEmbedSession sessionToken session =>
    simp only [EmbedStore.environment] at hMove
    split at hMove
    · cases hMove
    · rename_i hNew
      obtain rfl := Option.some.inj hMove
      exact ⟨fun other row hRow => update_of_isSome (Bool.eq_false_iff.mpr hNew) hRow, fun _ _ h => h,
        fun _ _ _ h => h, fun _ _ h => h⟩
  | timePasses duration =>
    obtain rfl := Option.some.inj hMove
    exact ⟨fun _ _ h => h, fun session hSession _ => hAllows proc session hSession, fun _ _ _ h => h,
      fun _ _ h => h⟩
  | answer answers =>
    obtain rfl := Option.some.inj hMove
    exact ⟨fun _ _ h => h, fun _ _ h => h, fun _ _ _ h => h, fun _ _ h => h⟩
  | pipeline runId event =>
    have hStep : state' = s.state.applyToRun str runId event := by
      cases event with
      | runPipeline callContextVars runtimeConfiguration managed =>
        simp only [EmbedStore.environment, EmbedStore.pipelineStep] at hMove
        split at hMove
        · exact (Option.some.inj hMove).symm
        · cases hMove
      | storeRunCorrelationId correlationId => exact (Option.some.inj hMove).symm
      | pipelineEnds => exact (Option.some.inj hMove).symm
      | preCallFetch response => exact (Option.some.inj hMove).symm
      | executeTextTurn runtimeConfiguration managed fetched => exact (Option.some.inj hMove).symm
      | placeCall => exact (Option.some.inj hMove).symm
    rw [hStep]
    exact leaves_applyToRun str _ _ _ _

structure Watched (str : Json → String) (library : UrlLibrary) (s : EmbedRecord ι) : Prop where
  current : ∀ proc, Current library s.state (voiceStages str library s proc)
  accepted : ∀ entry ∈ s.history, AcceptsValid library entry

theorem watched_call (h : Watched str library s) {proc : ι} {command : VoiceCommand} {outcome : Outcome Error}
    (hPermits : (voiceStages str library s proc).permits library command)
    (hAllows : (watchedDiscipline str library).call proc command outcome s) :
    Watched str library ((embedServices ι str).recorded.perform proc command outcome s).2 := by
  have hLeaves (stage : VoiceStage) :
      Leaves library s.state ((embedServices ι str).perform proc command outcome s.state).2 stage := by
    cases outcome with
    | reply => exact leaves_execute str s.state command stage
    | fail error applied =>
      cases applied with
      | true => exact leaves_execute str s.state command stage
      | false => exact Leaves.refl s.state stage
  constructor
  case current =>
    intro other
    refine Current.leaves ?_ (hLeaves _)
    rw [voiceStages, System.ghosts_perform]
    rcases eq_or_ne other proc with rfl | hNe
    · rw [Function.update_self]
      cases outcome with
      | reply => exact current_next str (h.current other) hPermits
      | fail error applied => exact current_error (h.current other) command error
    · rw [Function.update_of_ne hNe]
      exact h.current other
  case accepted =>
    intro entry hEntry
    rcases List.mem_cons.mp hEntry with rfl | hOld
    · cases command with
      | accept sessionToken origin => exact valid_of_current (h.current proc) hPermits hAllows
      | _ => trivial
    · exact h.accepted entry hOld

theorem watched_environment (h : Watched str library s) {move : EmbedMove}
    (hAllows : (watchedDiscipline str library).environment move s)
    (hMove : (embedServices ι str).recorded.environment move s = some s') : Watched str library s' := by
  have hStages : voiceStages str library s' = voiceStages str library s := System.ghosts_environment hMove
  constructor
  case current =>
    intro proc
    rw [hStages]
    exact (h.current proc).leaves (leaves_environment (environment_recorded hMove) hAllows proc)
  case accepted =>
    obtain ⟨state, -, rfl⟩ := Option.map_eq_some_iff.mp hMove
    intro entry hEntry
    rcases List.mem_cons.mp hEntry with rfl | hOld
    · trivial
    · exact h.accepted entry hOld

end Step

/-! ## What a client sends -/

/-- What decides how far a payload gets: whether it is an offer, and whether that is complete. -/
def Payload.shape : Payload → Option Bool
  | .offer pcId sdp type _ => some (pcId ≠ "" ∧ sdp ≠ "" ∧ type ≠ "")
  | .otherMessage => none

theorem handleOffer_eq (runId : Nat) (pcId sdp type : String) (clientContextVars : Context) :
    handleOffer runId false pcId sdp type clientContextVars =
      if pcId ≠ "" ∧ sdp ≠ "" ∧ type ≠ "" then handleOffer runId false "pc" "sdp" "offer" ∅ else other := by
  by_cases hComplete : pcId ≠ "" ∧ sdp ≠ "" ∧ type ≠ ""
  · rw [if_pos hComplete]
    simp [handleOffer, hComplete]
  · rw [if_neg hComplete]
    have hMissing : pcId = "" ∨ sdp = "" ∨ type = "" := by
      by_contra hNone
      exact hComplete (by simpa using hNone)
    simp [handleOffer, hMissing]

theorem handleMessage_eq (runId : Nat) {payload other : Payload} (h : payload.shape = other.shape) :
    handleMessage runId false payload = handleMessage runId false other := by
  cases payload with
  | otherMessage =>
    cases other with
    | otherMessage => rfl
    | offer pcId sdp type clientContextVars => cases h
  | offer pcId sdp type clientContextVars =>
    cases other with
    | otherMessage => cases h
    | offer pcId' sdp' type' clientContextVars' =>
      have hComplete : (pcId ≠ "" ∧ sdp ≠ "" ∧ type ≠ "") ↔ (pcId' ≠ "" ∧ sdp' ≠ "" ∧ type' ≠ "") :=
        decide_eq_decide.mp (Option.some.inj h)
      change handleOffer _ _ _ _ _ _ = handleOffer _ _ _ _ _ _
      rw [handleOffer_eq, handleOffer_eq runId pcId']
      simp only [hComplete]

theorem receivePayloads_eq (runId : Nat) {payloads others : List Payload}
    (h : payloads.map Payload.shape = others.map Payload.shape) :
    receivePayloads runId false payloads = receivePayloads runId false others := by
  induction payloads generalizing others with
  | nil =>
    cases others with
    | nil => rfl
    | cons other others => cases h
  | cons payload payloads ih =>
    cases others with
    | nil => cases h
    | cons other others =>
      obtain ⟨hHead, hTail⟩ := List.cons.inj h
      unfold receivePayloads
      rw [handleMessage_eq runId hHead, ih hTail]

theorem publicSignalingWebsocket_eq (library : UrlLibrary) (request : SocketRequest) (payloads : List Payload)
    (h : payloads.map Payload.shape = request.payloads.map Payload.shape) :
    publicSignalingWebsocket library { request with payloads } = publicSignalingWebsocket library request := by
  have hHandle (runId : Nat) :
      handleWebsocket { request with payloads } runId false = handleWebsocket request runId false := by
    unfold handleWebsocket
    rw [receivePayloads_eq runId h]
  unfold publicSignalingWebsocket
  simp only [hHandle]

/-! ## Whole runs -/

def voiceRequests (library : UrlLibrary) (store : EmbedStore) (requests : ι → SocketRequest) :
    Config ι VoiceCommand.Reply Error Unit (EmbedRecord ι) where
  shared := ⟨store, []⟩
  procs := fun proc => publicSignalingWebsocket library (requests proc)

def embedStore (isActive : Bool) : EmbedStore where
  tokens := fun tokenId => if tokenId = 1 then some ⟨5, 3, 9, [], isActive⟩ else none
  sessions := fun sessionToken => if sessionToken = "session" then some ⟨1, some 7, 3600⟩ else none
  runs := fun runId =>
    if runId = 7 then some ⟨5, 3, .smallwebrtc, RunContext.created false ∅⟩ else none
  users := fun userId => userId = 9
  now := 0
  answers := ⟨true, none, true⟩
  created := []

def hostLibrary : UrlLibrary where
  lower := String.toLower
  urlsplit := fun url => some ⟨some url, some none⟩

def widgetRequest : SocketRequest := ⟨"session", "https://shop.example", [.offer "pc" "sdp" "offer" ∅]⟩

def activeEvents : List (Event Unit Error EmbedMove) := List.replicate 9 (.resume () .reply)

theorem activeEvents_follow : (embedServices Unit fun _ => "").recorded.Follows
    (watchedDiscipline (fun _ => "") hostLibrary)
    (voiceRequests hostLibrary (embedStore true) fun _ => widgetRequest) activeEvents := by
  unfold activeEvents
  simp only [List.replicate]
  iterate 4
    refine ⟨fun command hCommand => ?_, fun next hNext => ?_⟩
    · cases hCommand
      trivial
    obtain rfl := Option.some.inj hNext
  refine ⟨fun command hCommand => ?_, fun next hNext => ?_⟩
  · cases hCommand
    intro session token hToken
    cases hToken
    rfl
  obtain rfl := Option.some.inj hNext
  iterate 4
    refine ⟨fun command hCommand => ?_, fun next hNext => ?_⟩
    · cases hCommand
      trivial
    obtain rfl := Option.some.inj hNext
  trivial

def deactivatedEvents : List (Event Unit Error EmbedMove) :=
  .environment (deactivateEmbedToken 1 3) :: List.replicate 5 (.resume () .reply)

end FastVoice.Embed
