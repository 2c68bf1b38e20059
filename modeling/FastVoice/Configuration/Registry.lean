import FastVoice.Python.Models

/-! # The registry of AI services

Every provider of a kind of service has a class, with the settings of the provider as its fields.
-/
namespace FastVoice.Configuration.Registry
open Python

inductive ServiceType where
  | llm
  | tts
  | stt
  | embeddings
  | realtime
  deriving DecidableEq

def parseNumber (text : String) : Option Json :=
  if h : text.toList.all (· ∈ numberChars) = true ∧ text.toList ≠ [] then
    some (.number ⟨text.toList, Text.forall_of_all h.1, h.2⟩)
  else none

def text (name default : String) : Field := ⟨name, .str, some (.str default)⟩

def required (name : String) : Field := ⟨name, .str, none⟩

def optionalText (name : String) : Field := ⟨name, .optional .str, some .null⟩

def float (name default : String) (range : FloatRange) : Field := ⟨name, .float range, parseNumber default⟩

def optionalFloat (name : String) (range : FloatRange) : Field := ⟨name, .optional (.float range), some .null⟩

def flag (name : String) (default : Bool) : Field := ⟨name, .bool, some (.bool default)⟩

def literal (name : String) (values : List String) (default : String) : Field :=
  ⟨name, .literal values, some (.str default)⟩

def apiKey : Field := ⟨"api_key", .texts, none⟩

def optionalApiKey : Field := ⟨"api_key", .optional .texts, some .null⟩

def service (name provider : String) (apiKey : Field) (fields : List Field) (computed : List ComputedField) :
    ModelClass :=
  ⟨name, provider, literal "provider" [provider] provider :: apiKey :: fields, computed⟩

def deepgramModel : ComputedField := ⟨"model", "voice", [("aura-2", "aura-2"), ("aura-1", "aura-1")], "aura-2"⟩

def xaiModel : ComputedField := ⟨"model", "voice", [], "xai-tts"⟩

def openAILLMService : ModelClass :=
  service "OpenAILLMService" "openai" apiKey [text "model" "gpt-4.1",
    text "base_url" "https://api.openai.com/v1"] []

def atlasCloudLLMService : ModelClass :=
  service "AtlasCloudLLMService" "atlascloud" apiKey [text "model" "qwen/qwen3.5-flash",
    text "base_url" "https://api.atlascloud.ai/v1"] []

def googleLLMService : ModelClass :=
  service "GoogleLLMService" "google" apiKey [text "model" "gemini-3.5-flash"] []

def googleVertexLLMConfiguration : ModelClass :=
  service "GoogleVertexLLMConfiguration" "google_vertex" optionalApiKey [text "model" "gemini-3.5-flash",
    required "project_id", text "location" "global", optionalText "credentials"] []

def groqLLMService : ModelClass :=
  service "GroqLLMService" "groq" apiKey [text "model" "llama-3.3-70b-versatile"] []

def openRouterLLMConfiguration : ModelClass :=
  service "OpenRouterLLMConfiguration" "openrouter" apiKey [text "model" "openai/gpt-4.1",
    text "base_url" "https://openrouter.ai/api/v1"] []

def azureLLMService : ModelClass :=
  service "AzureLLMService" "azure" apiKey [text "model" "gpt-4.1-mini", required "endpoint"] []

def dograhLLMService : ModelClass :=
  service "DograhLLMService" "dograh" apiKey [text "model" "default"] []

def awsBedrockLLMConfiguration : ModelClass :=
  service "AWSBedrockLLMConfiguration" "aws_bedrock" optionalApiKey [text "model" "us.amazon.nova-pro-v1:0",
    text "aws_access_key" "", text "aws_secret_key" "", text "aws_region" "us-east-1"] []

def speachesLLMConfiguration : ModelClass :=
  service "SpeachesLLMConfiguration" "speaches" optionalApiKey [text "model" "llama3",
    text "base_url" "http://localhost:11434/v1"] []

def huggingFaceLLMConfiguration : ModelClass :=
  service "HuggingFaceLLMConfiguration" "huggingface" apiKey [text "model" "openai/gpt-oss-120b:cerebras",
    text "base_url" "https://router.huggingface.co/v1", optionalText "bill_to"] []

def miniMaxLLMConfiguration : ModelClass :=
  service "MiniMaxLLMConfiguration" "minimax" apiKey [text "model" "MiniMax-M2.7",
    text "base_url" "https://api.minimax.io/v1", float "temperature" "1.0" ⟨0, true, 2⟩] []

def sarvamLLMConfiguration : ModelClass :=
  service "SarvamLLMConfiguration" "sarvam" apiKey [text "model" "sarvam-105b",
    float "temperature" "0.5" ⟨0, false, 2⟩] []

def openAIRealtimeLLMConfiguration : ModelClass :=
  service "OpenAIRealtimeLLMConfiguration" "openai_realtime" apiKey [text "model" "gpt-realtime-2",
    text "voice" "alloy", optionalText "language"] []

def grokRealtimeLLMConfiguration : ModelClass :=
  service "GrokRealtimeLLMConfiguration" "grok_realtime" apiKey [text "model" "grok-voice-think-fast-1.0",
    text "voice" "ara"] []

def ultravoxRealtimeLLMConfiguration : ModelClass :=
  service "UltravoxRealtimeLLMConfiguration" "ultravox_realtime" apiKey [text "model" "ultravox-v0.7",
    text "voice" "Mark"] []

def googleRealtimeLLMConfiguration : ModelClass :=
  service "GoogleRealtimeLLMConfiguration" "google_realtime" apiKey [
    text "model" "gemini-3.1-flash-live-preview", text "voice" "Puck", text "language" "en",
    optionalFloat "temperature" ⟨0, false, 2⟩] []

def googleVertexRealtimeLLMConfiguration : ModelClass :=
  service "GoogleVertexRealtimeLLMConfiguration" "google_vertex_realtime" optionalApiKey [
    text "model" "google/gemini-live-2.5-flash-native-audio", text "voice" "Charon", text "language" "en",
    optionalFloat "temperature" ⟨0, false, 2⟩, required "project_id", text "location" "global",
    optionalText "credentials"] []

def azureRealtimeLLMConfiguration : ModelClass :=
  service "AzureRealtimeLLMConfiguration" "azure_realtime" apiKey [text "model" "gpt-realtime",
    required "endpoint", text "voice" "alloy", text "api_version" "v1"] []

def deepgramTTSConfiguration : ModelClass :=
  service "DeepgramTTSConfiguration" "deepgram" apiKey [text "voice" "aura-2-helena-en"] [deepgramModel]

def elevenlabsTTSConfiguration : ModelClass :=
  service "ElevenlabsTTSConfiguration" "elevenlabs" apiKey [text "voice" "21m00Tcm4TlvDq8ikWAM",
    float "speed" "1.0" ⟨(1 / 10), false, 2⟩, text "model" "eleven_flash_v2_5",
    text "base_url" "https://api.elevenlabs.io"] []

def googleTTSConfiguration : ModelClass :=
  service "GoogleTTSConfiguration" "google" optionalApiKey [text "model" "chirp_3_hd",
    text "voice" "en-US-Chirp3-HD-Charon", text "language" "en-US", float "speed" "1.0" ⟨(1 / 4), false, 2⟩,
    optionalText "location", optionalText "credentials"] []

def openAITTSService : ModelClass :=
  service "OpenAITTSService" "openai" apiKey [text "model" "gpt-4o-mini-tts", text "voice" "alloy",
    text "base_url" "https://api.openai.com/v1"] []

def dograhTTSService : ModelClass :=
  service "DograhTTSService" "dograh" apiKey [text "model" "default", text "voice" "default",
    float "speed" "1.0" ⟨(1 / 2), false, 2⟩] []

def cartesiaTTSConfiguration : ModelClass :=
  service "CartesiaTTSConfiguration" "cartesia" apiKey [text "model" "sonic-3.5",
    text "voice" "3faa81ae-d3d8-4ab1-9e44-e50e46d33c30", float "speed" "1.0" ⟨(3 / 5), false, (3 / 2)⟩,
    float "volume" "1.0" ⟨(1 / 2), false, 2⟩, text "language" "en"] []

def inworldTTSConfiguration : ModelClass :=
  service "InworldTTSConfiguration" "inworld" apiKey [text "model" "inworld-tts-2", text "voice" "Ashley",
    text "language" "en-US", float "speed" "1.0" ⟨(1 / 4), false, 4⟩,
    literal "delivery_mode" ["STABLE", "BALANCED", "CREATIVE"] "BALANCED"] []

def sarvamTTSConfiguration : ModelClass :=
  service "SarvamTTSConfiguration" "sarvam" apiKey [text "model" "bulbul:v2", text "voice" "anushka",
    text "language" "hi-IN", float "speed" "1.0" ⟨(1 / 2), false, 2⟩] []

def cambTTSConfiguration : ModelClass :=
  service "CambTTSConfiguration" "camb" apiKey [text "model" "mars-flash", text "voice" "147320",
    text "language" "en-us"] []

def rimeTTSConfiguration : ModelClass :=
  service "RimeTTSConfiguration" "rime" apiKey [text "model" "arcana", text "voice" "celeste",
    float "speed" "1.0" ⟨(1 / 2), false, 2⟩, text "language" "en"] []

def speachesTTSConfiguration : ModelClass :=
  service "SpeachesTTSConfiguration" "speaches" optionalApiKey [text "model" "kokoro",
    text "voice" "af_heart", text "base_url" "http://localhost:8000/v1",
    float "speed" "1.0" ⟨(1 / 4), false, 4⟩] []

def miniMaxTTSConfiguration : ModelClass :=
  service "MiniMaxTTSConfiguration" "minimax" apiKey [text "model" "speech-2.8-hd",
    text "voice" "English_Graceful_Lady", text "base_url" "https://api.minimax.io/v1/t2a_v2",
    float "speed" "1.0" ⟨(1 / 2), false, 2⟩, required "group_id"] []

def azureSpeechTTSConfiguration : ModelClass :=
  service "AzureSpeechTTSConfiguration" "azure_speech" apiKey [text "model" "neural", text "region" "eastus",
    text "voice" "en-US-AriaNeural", text "language" "en-US", float "speed" "1.0" ⟨(1 / 2), false, 2⟩] []

def smallestAITTSConfiguration : ModelClass :=
  service "SmallestAITTSConfiguration" "smallest" apiKey [text "model" "lightning_v3.1",
    text "voice" "sophia", text "language" "en", float "speed" "1.0" ⟨(1 / 2), false, 2⟩] []

def xaiTTSConfiguration : ModelClass :=
  service "XAITTSConfiguration" "xai" apiKey [text "voice" "eve", text "language" "en"] [xaiModel]

def lmntTTSConfiguration : ModelClass :=
  service "LmntTTSConfiguration" "lmnt" apiKey [text "model" "aurora", text "voice" "lily",
    text "language" "en"] []

def deepgramSTTConfiguration : ModelClass :=
  service "DeepgramSTTConfiguration" "deepgram" apiKey [text "model" "nova-3-general",
    text "language" "multi"] []

def cartesiaSTTConfiguration : ModelClass :=
  service "CartesiaSTTConfiguration" "cartesia" apiKey [text "model" "ink-whisper", text "language" "en"] []

def openAISTTConfiguration : ModelClass :=
  service "OpenAISTTConfiguration" "openai" apiKey [text "model" "gpt-4o-transcribe",
    text "base_url" "https://api.openai.com/v1"] []

def googleSTTConfiguration : ModelClass :=
  service "GoogleSTTConfiguration" "google" optionalApiKey [text "model" "latest_long",
    text "language" "en-US", text "location" "global", optionalText "credentials"] []

def dograhSTTService : ModelClass :=
  service "DograhSTTService" "dograh" apiKey [text "model" "default", text "language" "multi"] []

def sarvamSTTConfiguration : ModelClass :=
  service "SarvamSTTConfiguration" "sarvam" apiKey [text "model" "saarika:v2.5", text "language" "unknown"] []

def speechmaticsSTTConfiguration : ModelClass :=
  service "SpeechmaticsSTTConfiguration" "speechmatics" apiKey [text "model" "enhanced",
    text "language" "en"] []

def speachesSTTConfiguration : ModelClass :=
  service "SpeachesSTTConfiguration" "speaches" optionalApiKey [
    text "model" "Systran/faster-distil-whisper-small.en", text "language" "en",
    text "base_url" "http://localhost:8000/v1"] []

def huggingFaceSTTConfiguration : ModelClass :=
  service "HuggingFaceSTTConfiguration" "huggingface" apiKey [text "model" "openai/whisper-large-v3-turbo",
    text "base_url" "https://router.huggingface.co/hf-inference", optionalText "bill_to",
    flag "return_timestamps" false] []

def assemblyAISTTConfiguration : ModelClass :=
  service "AssemblyAISTTConfiguration" "assemblyai" apiKey [text "model" "u3-rt-pro", text "language" "en"] []

def gladiaSTTConfiguration : ModelClass :=
  service "GladiaSTTConfiguration" "gladia" apiKey [text "model" "solaria-1", text "language" "en"] []

def azureSpeechSTTConfiguration : ModelClass :=
  service "AzureSpeechSTTConfiguration" "azure_speech" apiKey [text "model" "latest_long",
    text "region" "eastus", text "language" "en-US"] []

def elevenlabsSTTConfiguration : ModelClass :=
  service "ElevenlabsSTTConfiguration" "elevenlabs" apiKey [text "model" "scribe_v2_realtime",
    text "language" "en", text "base_url" "https://api.elevenlabs.io"] []

def smallestAISTTConfiguration : ModelClass :=
  service "SmallestAISTTConfiguration" "smallest" apiKey [text "model" "pulse", text "language" "en"] []

def openAIEmbeddingsConfiguration : ModelClass :=
  service "OpenAIEmbeddingsConfiguration" "openai" apiKey [text "model" "text-embedding-3-small"] []

def openRouterEmbeddingsConfiguration : ModelClass :=
  service "OpenRouterEmbeddingsConfiguration" "openrouter" apiKey [
    text "model" "openai/text-embedding-3-small", text "base_url" "https://openrouter.ai/api/v1"] []

def azureOpenAIEmbeddingsConfiguration : ModelClass :=
  service "AzureOpenAIEmbeddingsConfiguration" "azure" apiKey [text "model" "text-embedding-3-small",
    required "endpoint", text "api_version" "2024-02-15-preview"] []

def dograhEmbeddingsConfiguration : ModelClass :=
  service "DograhEmbeddingsConfiguration" "dograh" apiKey [text "model" "dograh_embedding_v1"] []

def llmConfig : List ModelClass :=
  [openAILLMService, atlasCloudLLMService, googleVertexLLMConfiguration, groqLLMService,
    openRouterLLMConfiguration, googleLLMService, azureLLMService, dograhLLMService,
    awsBedrockLLMConfiguration, speachesLLMConfiguration, huggingFaceLLMConfiguration,
    miniMaxLLMConfiguration, sarvamLLMConfiguration]

def ttsConfig : List ModelClass :=
  [deepgramTTSConfiguration, googleTTSConfiguration, openAITTSService, elevenlabsTTSConfiguration,
    cartesiaTTSConfiguration, inworldTTSConfiguration, dograhTTSService, sarvamTTSConfiguration,
    cambTTSConfiguration, rimeTTSConfiguration, speachesTTSConfiguration, miniMaxTTSConfiguration,
    azureSpeechTTSConfiguration, smallestAITTSConfiguration, xaiTTSConfiguration, lmntTTSConfiguration]

def sttConfig : List ModelClass :=
  [deepgramSTTConfiguration, cartesiaSTTConfiguration, openAISTTConfiguration, googleSTTConfiguration,
    dograhSTTService, speechmaticsSTTConfiguration, sarvamSTTConfiguration, speachesSTTConfiguration,
    huggingFaceSTTConfiguration, assemblyAISTTConfiguration, gladiaSTTConfiguration,
    azureSpeechSTTConfiguration, smallestAISTTConfiguration, elevenlabsSTTConfiguration]

def embeddingsConfig : List ModelClass :=
  [openAIEmbeddingsConfiguration, openRouterEmbeddingsConfiguration, azureOpenAIEmbeddingsConfiguration,
    dograhEmbeddingsConfiguration]

def realtimeConfig : List ModelClass :=
  [openAIRealtimeLLMConfiguration, grokRealtimeLLMConfiguration, ultravoxRealtimeLLMConfiguration,
    googleRealtimeLLMConfiguration, googleVertexRealtimeLLMConfiguration, azureRealtimeLLMConfiguration]

def serviceConfig : ServiceType → List ModelClass
  | .llm => llmConfig
  | .tts => ttsConfig
  | .stt => sttConfig
  | .embeddings => embeddingsConfig
  | .realtime => realtimeConfig

def registeredLLM : List ModelClass :=
  [openAILLMService, atlasCloudLLMService, googleLLMService, googleVertexLLMConfiguration, groqLLMService,
    openRouterLLMConfiguration, azureLLMService, dograhLLMService, awsBedrockLLMConfiguration,
    speachesLLMConfiguration, huggingFaceLLMConfiguration, miniMaxLLMConfiguration, sarvamLLMConfiguration]

def registeredRealtime : List ModelClass :=
  [openAIRealtimeLLMConfiguration, grokRealtimeLLMConfiguration, ultravoxRealtimeLLMConfiguration,
    googleRealtimeLLMConfiguration, googleVertexRealtimeLLMConfiguration, azureRealtimeLLMConfiguration]

def registeredTTS : List ModelClass :=
  [deepgramTTSConfiguration, elevenlabsTTSConfiguration, googleTTSConfiguration, openAITTSService,
    dograhTTSService, cartesiaTTSConfiguration, inworldTTSConfiguration, sarvamTTSConfiguration,
    cambTTSConfiguration, rimeTTSConfiguration, speachesTTSConfiguration, miniMaxTTSConfiguration,
    azureSpeechTTSConfiguration, smallestAITTSConfiguration, xaiTTSConfiguration, lmntTTSConfiguration]

def registeredSTT : List ModelClass :=
  [deepgramSTTConfiguration, cartesiaSTTConfiguration, openAISTTConfiguration, googleSTTConfiguration,
    dograhSTTService, sarvamSTTConfiguration, speechmaticsSTTConfiguration, speachesSTTConfiguration,
    huggingFaceSTTConfiguration, assemblyAISTTConfiguration, gladiaSTTConfiguration,
    azureSpeechSTTConfiguration, elevenlabsSTTConfiguration, smallestAISTTConfiguration]

def registry : ServiceType → List ModelClass
  | .llm => registeredLLM
  | .tts => registeredTTS
  | .stt => registeredSTT
  | .realtime => registeredRealtime
  | .embeddings => []

theorem discriminated_serviceConfig (serviceType : ServiceType) : Discriminated (serviceConfig serviceType) := by
  cases serviceType <;> exact ⟨by decide +kernel, by decide +kernel, by decide +kernel⟩

theorem registry_subset (serviceType : ServiceType) : registry serviceType ⊆ serviceConfig serviceType := by
  have hAll : ∀ cls ∈ registry serviceType, cls ∈ serviceConfig serviceType := by
    cases serviceType <;> decide +kernel
  exact fun cls hClass => hAll cls hClass

end FastVoice.Configuration.Registry
