import FastVoice.Python.Literals
import FastVoice.Workflows.Graph

/-! # Node specifications

The properties of each node type, as `build_spec` derives them from the data models and their overrides,
in the order of `property_order`. Texts and hints for the editor are left out.
-/
namespace FastVoice.Bridge
open Python Workflows

inductive PropertyType where
  | string
  | mentionTextarea
  | url
  | recordingRef
  | credentialRef
  | number
  | boolean
  | options
  | toolRefs
  | documentRefs
  | multiOptions
  | json
  | fixedCollection
  deriving DecidableEq

/-- A default of `None` is no default. -/
structure PropertySpec (F : Type) where
  name : String
  type : PropertyType
  default : Value F := .none
  required : Bool := false
  options : List String := []
  properties : List (PropertySpec F) := []
  minValue : Option F := none
  maxValue : Option F := none
  minLength : Option Nat := none
  maxLength : Option Nat := none
  pattern : Option String := none

def typeName : NodeType → String
  | .startNode => "startCall"
  | .endNode => "endCall"
  | .agentNode => "agentNode"
  | .globalNode => "globalNode"
  | .trigger => "trigger"
  | .webhook => "webhook"
  | .qa => "qa"
  | .noveum => "noveum"
  | .paygent => "paygent"
  | .tuner => "tuner"

def defaultQaSystemPrompt : String :=
  String.intercalate "\n" [
    "You are a QA analyst evaluating a specific segment of a voice AI conversation.",
    "",
    "## Node Purpose",
    "\x7b\x7bnode_summary\x7d\x7d",
    "",
    "## Previous Conversation Context (For start of conversation, previous conversation " ++
      "summary can be empty.)",
    "\x7b\x7bprevious_conversation_summary\x7d\x7d",
    "",
    "## Tags to evaluate",
    "",
    "Examine the conversation carefully and identify which of the following tags apply:",
    "",
    "- UNCLEAR_CONVERSATION - The conversation is not coherent or clear, messages don't " ++
      "connect logically",
    "- ASSISTANT_IN_LOOP - The assistant asks the same question multiple times or gets stuck " ++
      "repeating itself",
    "- ASSISTANT_REPLY_IMPROPER - The assistant did not reply properly to the user's " ++
      "question/query or seems confused by what the user said",
    "- USER_FRUSTRATED - The user seems angry, frustrated, or is complaining about something " ++
      "in the call",
    "- USER_NOT_UNDERSTANDING - The user explicitly says they don't understand or repeatedly " ++
      "asks for clarification",
    "- HEARING_ISSUES - Either party can't hear the other (\"hello?\", \"are you there?\", " ++
      "\"can you hear me?\")",
    "- DEAD_AIR - Unusually long silences in the conversation (use the timestamps to judge)",
    "- USER_REQUESTING_FEATURE - The user asks for something the assistant can't fulfill",
    "- ASSISTANT_LACKS_EMPATHY - The assistant ignores the user's personal situation or " ++
      "emotional state and continues pitching or pushing the agenda.",
    "- USER_DETECTS_AI - The user suspects or identifies that they are talking to an " ++
      "AI/robot/bot rather than a real human.",
    "",
    "## Call metrics (pre-computed)",
    "",
    "Use these alongside the transcript for your analysis:",
    "\x7b\x7bmetrics\x7d\x7d",
    "",
    "## Output format",
    "",
    "Return ONLY a valid JSON object (no markdown):",
    "\x7b",
    "    \"tags\": [",
    "        \x7b",
    "            \"tag\": \"TAG_NAME\",",
    "            \"reason\": \"Short reason with evidence from the transcript\"",
    "        \x7d",
    "    ],",
    "    \"overall_sentiment\": \"positive|neutral|negative\",",
    "    \"call_quality_score\": <1-10>,",
    "    \"summary\": \"1-2 sentence summary of this segment\"",
    "\x7d",
    "",
    "If no tags apply, return an empty tags list. Always provide sentiment, score, and " ++
      "summary."]

def defaultGlobalPrompt : String :=
  "You are a helpful assistant whose mode of interaction with the user is voice. So don't " ++
    "use any special characters which can not be pronounced. Use short sentences and simple " ++
    "language."

section Properties

variable {F : Type}

def text (name : String) : PropertySpec F := { name := name, type := .string }

def flag (name : String) (default : Bool) : PropertySpec F :=
  { name := name, type := .boolean, default := .bool default }

def required (prop : PropertySpec F) : PropertySpec F := { prop with required := true }

def withDefault (prop : PropertySpec F) (default : String) : PropertySpec F :=
  { prop with default := .str default }

def nameProperty (default : String) : PropertySpec F :=
  { name := "name", type := .string, default := .str default, required := true, minLength := some 1 }

def promptProperty : PropertySpec F :=
  { name := "prompt", type := .mentionTextarea, required := true, minLength := some 1 }

def choice (name : String) (options : List String) : PropertySpec F :=
  { name := name, type := .options, options := options }

def extractionVariable : List (PropertySpec F) :=
  [{ name := "name", type := .string, required := true, minLength := some 1 },
    required (withDefault (choice "type" ["string", "number", "boolean"]) "string"),
    text "prompt"]

def extractionProperties : List (PropertySpec F) :=
  [flag "extraction_enabled" false, text "extraction_prompt",
    { name := "extraction_variables", type := .fixedCollection, properties := extractionVariable }]

def refProperties : List (PropertySpec F) :=
  [{ name := "tool_uuids", type := .toolRefs }, { name := "document_uuids", type := .documentRefs }]

def customHeader : List (PropertySpec F) := [required (text "key"), required (text "value")]

def defaultPayloadTemplate : Value F :=
  .dict [(.str "call_id", .str "\x7b\x7bworkflow_run_id\x7d\x7d"),
    (.str "first_name", .str "\x7b\x7binitial_context.first_name\x7d\x7d"),
    (.str "rsvp", .str "\x7b\x7bgathered_context.rsvp\x7d\x7d"),
    (.str "duration", .str "\x7b\x7bcost_info.call_duration_seconds\x7d\x7d"),
    (.str "recording_url", .str "\x7b\x7brecording_url\x7d\x7d"),
    (.str "user_recording_url", .str "\x7b\x7buser_recording_url\x7d\x7d"),
    (.str "bot_recording_url", .str "\x7b\x7bbot_recording_url\x7d\x7d"),
    (.str "transcript_url", .str "\x7b\x7btranscript_url\x7d\x7d")]

def rate (py : Interpreter F) (name limit : String) : PropertySpec F :=
  { name := name, type := .number, minValue := some (py.literal "0.0"),
    maxValue := some (py.literal limit) }

def nodeProperties (py : Interpreter F) : NodeType → List (PropertySpec F)
  | .startNode =>
    [nameProperty "Start Call",
      withDefault (choice "greeting_type" ["text", "audio"]) "text",
      text "greeting",
      { name := "greeting_recording_id", type := .recordingRef },
      promptProperty,
      flag "allow_interrupt" false,
      flag "add_global_prompt" true,
      flag "delayed_start" false,
      { name := "delayed_start_duration", type := .number, default := .float (py.literal "2.0"),
        minValue := some (py.literal "0.1"), maxValue := some (py.literal "10.0") }] ++
    extractionProperties ++ refProperties ++
    [withDefault (choice "pre_call_fetch_mode" ["disabled", "always", "inbound", "outbound"])
        "disabled",
      { name := "pre_call_fetch_url", type := .url },
      { name := "pre_call_fetch_credential_uuid", type := .credentialRef }]
  | .agentNode =>
    [nameProperty "Agent", promptProperty, flag "allow_interrupt" true,
      flag "add_global_prompt" true] ++ extractionProperties ++ refProperties
  | .endNode =>
    [nameProperty "End Call", promptProperty, flag "add_global_prompt" false] ++ extractionProperties
  | .globalNode => [nameProperty "Global Node", withDefault promptProperty defaultGlobalPrompt]
  | .trigger => [nameProperty "API Trigger", flag "enabled" true, text "trigger_path"]
  | .webhook =>
    [nameProperty "Webhook",
      flag "enabled" true,
      withDefault (choice "http_method" ["GET", "POST", "PUT", "PATCH", "DELETE"]) "POST",
      { name := "endpoint_url", type := .url },
      { name := "credential_uuid", type := .credentialRef },
      { name := "custom_headers", type := .fixedCollection, properties := customHeader },
      { name := "payload_template", type := .json, default := defaultPayloadTemplate }]
  | .qa =>
    [nameProperty "QA Analysis",
      flag "qa_enabled" true,
      withDefault (text "qa_system_prompt") defaultQaSystemPrompt,
      { name := "qa_min_call_duration", type := .number, default := .int 15,
        minValue := some (py.literal "0.0") },
      flag "qa_voicemail_calls" false,
      { name := "qa_sample_rate", type := .number, default := .int 100,
        minValue := some (py.literal "1.0"), maxValue := some (py.literal "100.0") },
      flag "qa_use_workflow_llm" true,
      choice "qa_provider" ["openai", "azure", "openrouter", "anthropic"],
      withDefault (text "qa_model") "default",
      text "qa_api_key",
      { name := "qa_endpoint", type := .url }]
  | .noveum =>
    [nameProperty "Noveum", flag "noveum_enabled" true, required (text "noveum_api_key"),
      required (text "noveum_project"), withDefault (text "noveum_environment") "production",
      flag "noveum_record_audio" true]
  | .paygent =>
    [nameProperty "Paygent", flag "paygent_enabled" true, required (text "paygent_api_key"),
      required (text "paygent_agent_id"), required (text "paygent_customer_id"),
      required (withDefault (text "paygent_indicator") "per-minute-call")]
  | .tuner =>
    [nameProperty "Tuner",
      flag "tuner_enabled" true,
      required (text "tuner_agent_id"),
      { name := "tuner_workspace_id", type := .number, required := true,
        minValue := some (py.literal "1.0") },
      required (text "tuner_api_key"),
      flag "cost_calculation_enabled" false,
      rate py "cost_llm_input_rate" "1000.0",
      rate py "cost_llm_cached_input_rate" "1000.0",
      rate py "cost_llm_output_rate" "1000.0",
      rate py "cost_tts_rate" "100.0",
      rate py "cost_stt_rate" "100.0",
      rate py "cost_telephony_rate" "100.0"]

theorem nodup_properties (py : Interpreter F) (nodeType : NodeType) :
    ((nodeProperties py nodeType).map PropertySpec.name).Nodup := by
  cases nodeType <;>
    simp [nodeProperties, extractionProperties, refProperties, nameProperty, promptProperty, text, flag,
      required, withDefault, choice, rate]

end Properties

end FastVoice.Bridge
