import FastVoice.Async.Protocol
import FastVoice.Engine.Extraction

/-! # Ending a call

`end_call_with_reason` as a coroutine: the flag that marks the call disposed, the final extraction, the
disposition, the write to the database and the terminal frame. Everything else that changes the engine
meanwhile is a move of its environment.
-/
namespace FastVoice.Engine
open Python Async

inductive EndCallError where
  | render (error : RenderError)
  | callTags
  /-- Any other exception: of the model or of the database. -/
  | exception
  deriving DecidableEq

inductive TerminalFrame where
  | cancel (reason : String)
  | endFrame (reason : String)
  deriving DecidableEq

/-- The reasons that skip the final extraction. -/
structure EndTaskReasons where
  pipelineError : String
  voicemailDetected : String

/-- What does not change while a call ends. `sameValue` is the language's equality of values. -/
structure Ending where
  host : Host
  reasons : EndTaskReasons
  sameValue : Json → Json → Bool

/-- The engine as far as the end of a call reads or changes it. The flag is kept with the call that set it. -/
structure CallState (ι : Type) where
  disposedBy : Option ι := none
  mutePipeline : Bool := false
  currentNode : Option DefinitionNode
  callContextVars : Json
  finalExtractionDone : Bool := false
  gathered : Gathered
  frames : List TerminalFrame := []

inductive Disposal where
  | alreadyDisposed
  | first (finalExtractionDone : Bool)
  deriving DecidableEq

inductive EndCallCommand where
  /-- The flag is read and set. -/
  | dispose
  | awaitPendingExtractions
  | prepareExtraction
  | performExtraction (extraction : Extraction)
  | finishExtraction
  | recordDisposition (reason : String)
  | updateWorkflowRun
  | queueFrame (frame : TerminalFrame)

def EndCallReply : EndCallCommand → Type
  | .dispose => Disposal
  | .awaitPendingExtractions => Unit
  | .prepareExtraction => Except RenderError (Option Extraction)
  | .performExtraction _ => Unit
  | .finishExtraction => Unit
  | .recordDisposition _ => Except Unit Unit
  | .updateWorkflowRun => Unit
  | .queueFrame _ => Unit

abbrev EndCallMethod (α : Type) := Program EndCallReply EndCallError α

def endCallStep (cmd : EndCallCommand) : EndCallMethod (EndCallReply cmd) := Program.call cmd

/-- `_perform_variable_extraction_if_needed` in the foreground: only a failed extraction is caught. -/
def extractNow : EndCallMethod Unit := do
  let prepared : Except RenderError (Option Extraction) ← endCallStep .prepareExtraction
  match prepared with
  | .error error => .raise (.render error)
  | .ok none => .ret ()
  | .ok (some extraction) => (endCallStep (.performExtraction extraction)).tryCatch fun _ => .ret ()

def performFinalVariableExtraction (done : Bool) : EndCallMethod Unit :=
  if done then .ret ()
  else do
    let _ : Unit ← endCallStep .awaitPendingExtractions
    extractNow
    endCallStep .finishExtraction

def finishCall (reason : String) (abortImmediately : Bool) : EndCallMethod Unit := do
  let recorded : Except Unit Unit ← endCallStep (.recordDisposition reason)
  match recorded with
  | .error _ => .raise .callTags
  | .ok _ => do
    (endCallStep .updateWorkflowRun).tryCatch fun _ => .ret ()
    endCallStep (.queueFrame (if abortImmediately then .cancel reason else .endFrame reason))

/-- The extraction, which two reasons skip. -/
def extractAtEnd (reasons : EndTaskReasons) (reason : String) (done : Bool) : EndCallMethod Unit :=
  if reason = reasons.pipelineError ∨ reason = reasons.voicemailDetected then .ret ()
  else performFinalVariableExtraction done

def endCallWithReason (reasons : EndTaskReasons) (reason : String) (abortImmediately : Bool) :
    EndCallMethod Unit := do
  let disposal : Disposal ← endCallStep .dispose
  match disposal with
  | .alreadyDisposed => .ret ()
  | .first done => do
    extractAtEnd reasons reason done
    finishCall reason abortImmediately

/-- `call_tags.append(call_disposition)` unless it is there, on whatever the tags are. -/
def appendTag (sameValue : Json → Json → Bool) (disposition : Json) : Json → Except Unit Json
  | .arr tags =>
    .ok (.arr (if tags.any (sameValue disposition) then tags else tags ++ [disposition]))
  | .str text =>
    match disposition with
    | .str part => if part.toList <:+: text.toList then .ok (.str text) else .error ()
    | _ => .error ()
  | .obj entries =>
    match disposition with
    | .str key => if (entries.lookup key).isSome then .ok (.obj entries) else .error ()
    | _ => .error ()
  | _ => .error ()

/-- The disposition: the extracted one if there is one, else the reason. -/
def dispositionOf (gathered : Gathered) (reason : String) : Json :=
  let extracted := (gathered.lookup "call_disposition").getD (.str "")
  if extracted.truthy then extracted else .str reason

def tagsOf (gathered : Gathered) : Json := (gathered.lookup "call_tags").getD (.arr [])

def recordDisposition (sameValue : Json → Json → Bool) (reason : String) (gathered : Gathered) :
    Except Unit Unit × Gathered :=
  let disposition := dispositionOf gathered reason
  let marked := (gathered.set "call_disposition" disposition).set "mapped_call_disposition" disposition
  if disposition.truthy then
    match appendTag sameValue disposition (tagsOf gathered) with
    | .ok tags => (.ok (), marked.set "call_tags" tags)
    | .error _ => (.error (), marked)
  else
    (.ok (), marked)

/-- Whatever other coroutines do meanwhile to the rest of the engine. -/
structure Interference where
  currentNode : Option DefinitionNode
  callContextVars : Json
  finalExtractionDone : Bool
  gathered : Gathered

section

variable {ι : Type} (ending : Ending)

/-- What the model answers to each request of a call. -/
abbrev Answers (ι : Type) := ι → Extraction → Json

def endCallEnvironment (move : Interference) (s : CallState ι) : Option (CallState ι) :=
  some { s with
    currentNode := move.currentNode
    callContextVars := move.callContextVars
    finalExtractionDone := move.finalExtractionDone
    gathered := move.gathered }

/-- Only the model and the database raise exceptions at an await. -/
def performEndCall (answers : Answers ι) (proc : ι) (outcome : Outcome EndCallError) :
    (cmd : EndCallCommand) → CallState ι → Except EndCallError (EndCallReply cmd) × CallState ι
  | .dispose, s =>
    match s.disposedBy with
    | some _ => (.ok .alreadyDisposed, s)
    | none => (.ok (.first s.finalExtractionDone), { s with disposedBy := some proc, mutePipeline := true })
  | .awaitPendingExtractions, s => (.ok (), s)
  | .prepareExtraction, s => (.ok (prepareExtraction ending.host s.callContextVars s.currentNode), s)
  | .performExtraction extraction, s =>
    match outcome with
    | .reply => (.ok (), { s with gathered := applyExtraction (answers proc extraction) s.gathered })
    | .fail error _ => (.error error, s)
  | .finishExtraction, s => (.ok (), { s with finalExtractionDone := true })
  | .recordDisposition reason, s =>
    (.ok (recordDisposition ending.sameValue reason s.gathered).1,
      { s with gathered := (recordDisposition ending.sameValue reason s.gathered).2 })
  | .updateWorkflowRun, s =>
    match outcome with
    | .reply => (.ok (), s)
    | .fail error _ => (.error error, s)
  | .queueFrame frame, s => (.ok (), { s with frames := s.frames ++ [frame] })

def endCallSystem (answers : Answers ι) : System ι EndCallReply EndCallError (CallState ι) Interference where
  perform proc cmd outcome s := performEndCall ending answers proc outcome cmd s
  environment := endCallEnvironment

end

end FastVoice.Engine
