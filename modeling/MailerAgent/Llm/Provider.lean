import Mathlib.Algebra.GroupWithZero.Nat
import MailerAgent.Foundation.Json
import MailerAgent.Foundation.PyText
import MailerAgent.Foundation.Regex

/-!
# The provider of the language model

`llm/provider_v2.py`: the classification of what a call raises, `_chat_with_retry`, the
reading of JSON from a text, and the routing of `call_llm_json` over models and response
modes. The provider is the sequence of what its calls end with. What is logged is left out,
and how long a retry waits is modelled apart.
-/

namespace MailerAgent
namespace Llm

open Regex

/-! ## Settings and library functions -/

/-- The settings that the provider reads. -/
structure ProviderSettings where
  groqApiKey : String := ""
  llmModel : String := "openai/gpt-oss-120b"
  llmFallbackModels : String := "openai/gpt-oss-20b"
  llmReasoningEffort : String := "low"
  deriving DecidableEq, Repr

/-- `llm_fallback_models_list`. -/
def ProviderSettings.llmFallbackModelsList (settings : ProviderSettings) : List String :=
  ((settings.llmFallbackModels.splitOn ",").map PyText.strip).filter fun model => model != ""

/-- Functions of the standard library. -/
structure Library where
  /-- `json.loads`: a value, or the text of the `JSONDecodeError`. -/
  loads : String → Except String Json
  /-- `str.lower`. -/
  lower : String → String
  /-- `str.isalnum` of one character. -/
  isAlnum : Char → Bool

/-! ## Errors -/

/-- `LLMProviderError`, for an error of unknown kind, and its subclasses. -/
inductive ErrorKind where
  | rateLimit
  | timeout
  | malformedOutput
  | validation
  | providerUnavailable
  | authentication
  | modelUnavailable
  | unknown
  deriving DecidableEq, Repr

/-- An exception of the classified kinds. -/
structure LLMProviderError where
  kind : ErrorKind
  message : String
  deriving DecidableEq, Repr

/-- `_FAILOVER_ELIGIBLE_TRANSIENT`, which is also what `_chat_with_retry` retries. -/
def LLMProviderError.transient (error : LLMProviderError) : Bool :=
  error.kind == .rateLimit || error.kind == .timeout || error.kind == .providerUnavailable

/-- Another exception: its `str`, and the status code of `_extract_status_code`. -/
structure RawError where
  text : String
  statusCode : Option Int := none
  deriving DecidableEq, Repr

/-- `part in text`. -/
def occursIn (part text : String) : Bool :=
  decide (part.toList <:+: text.toList)

/-- `_is_schema_request_rejected`. -/
def isSchemaRequestRejected (errorText : String) : Bool :=
  ["invalid schema", "invalid json_schema", "invalid 'response_format'",
    "invalid response_format", "schema must be", "does not match json schema specification",
    "invalid_schema"].any fun pattern => occursIn pattern errorText

/-- `_is_model_unavailable`. -/
def isModelUnavailable (errorText : String) : Bool :=
  ["model_not_found", "does not exist", "model not found", "no such model", "unknown model",
    "has been decommissioned"].any fun pattern => occursIn pattern errorText

/-- A `_TOKEN_` expression: the status code between word boundaries. -/
def hasToken
    (library : Library)
    (code text : String) : Bool :=
  (Pattern.wholeWord code.toList).search
    (fun character => library.isAlnum character || character == '_') text.toList

/-- The output of the model is not valid. -/
def isMalformedGeneration (errorText : String) : Bool :=
  occursIn "json_validate_failed" errorText || occursIn "invalid json" errorText

/-- The classification by a status code, for the codes that are known. -/
def classifyStatus
    (code : Int)
    (errorText text : String) : Option LLMProviderError :=
  if code = 404 ∨ isModelUnavailable errorText = true then
    some ⟨.modelUnavailable, "Model unavailable: " ++ text⟩
  else if code = 401 ∨ code = 403 then
    some ⟨.authentication, "Authentication failed: " ++ text⟩
  else if code = 429 then
    some ⟨.rateLimit, "Rate limit exceeded: " ++ text⟩
  else if code = 500 ∨ code = 502 ∨ code = 503 ∨ code = 504 then
    some ⟨.providerUnavailable, "Provider server error: " ++ text⟩
  else if code = 400 then
    if isSchemaRequestRejected errorText then
      some ⟨.validation,
        "Bad request (schema/request rejected, not a model output issue): " ++ text⟩
    else if isMalformedGeneration errorText then
      some ⟨.malformedOutput, "Invalid JSON from model: " ++ text⟩
    else
      some ⟨.validation, "Bad request: " ++ text⟩
  else none

/-- The classification by the text of an exception. -/
def classifyText
    (library : Library)
    (errorText text : String) : LLMProviderError :=
  if hasToken library "404" errorText ∨ isModelUnavailable errorText then
    ⟨.modelUnavailable, "Model unavailable: " ++ text⟩
  else if hasToken library "401" errorText ∨ hasToken library "403" errorText ∨
      occursIn "authentication" errorText ∨ occursIn "invalid api key" errorText then
    ⟨.authentication, "Authentication failed: " ++ text⟩
  else if hasToken library "429" errorText ∨ occursIn "rate_limit" errorText ∨
      occursIn "too many requests" errorText then
    ⟨.rateLimit, "Rate limit exceeded: " ++ text⟩
  else if hasToken library "500" errorText ∨ hasToken library "502" errorText ∨
      hasToken library "503" errorText ∨ hasToken library "504" errorText then
    ⟨.providerUnavailable, "Provider server error: " ++ text⟩
  else if isSchemaRequestRejected errorText then
    ⟨.validation, "Bad request (schema/request rejected, not a model output issue): " ++ text⟩
  else if isMalformedGeneration errorText then
    ⟨.malformedOutput, "Invalid JSON from model: " ++ text⟩
  else if hasToken library "400" errorText then
    ⟨.validation, "Bad request: " ++ text⟩
  else if occursIn "timeout" errorText ∨ occursIn "timed out" errorText then
    ⟨.timeout, "Request timeout: " ++ text⟩
  else ⟨.unknown, text⟩

/-- `_classify_error` of an exception that is not classified yet. -/
def classifyError
    (library : Library)
    (error : RawError) : LLMProviderError :=
  let errorText := library.lower error.text
  (error.statusCode.bind fun code => classifyStatus code errorText error.text).getD
    (classifyText library errorText error.text)

/-! ## Models and response modes -/

/-- `ModelCapabilities`. -/
structure ModelCapabilities where
  supportsStrictJsonSchema : Bool
  supportsReasoningEffort : Bool
  reasoningEffortValues : List String := []
  deriving DecidableEq, Repr

/-- `get_model_capabilities`: `MODEL_CAPABILITIES`, and `_DEFAULT_CAPABILITIES` for a model
that is not registered. -/
def getModelCapabilities (model : String) : ModelCapabilities :=
  if model = "openai/gpt-oss-120b" ∨ model = "openai/gpt-oss-20b" then
    ⟨true, true, ["low", "medium", "high"]⟩
  else if model = "qwen/qwen3.8-27b" then ⟨true, true, ["none", "low", "medium", "high"]⟩
  else ⟨false, false, []⟩

/-- `_reasoning_kwargs`: the effort that is sent. -/
def reasoningEffort
    (settings : ProviderSettings)
    (model : String) : Option String :=
  let capabilities := getModelCapabilities model
  if capabilities.supportsReasoningEffort &&
      capabilities.reasoningEffortValues.contains settings.llmReasoningEffort then
    some settings.llmReasoningEffort
  else none

/-- The response modes of `call_llm_json`. -/
inductive ResponseMode where
  | strictSchema
  | jsonObject
  | lenient
  deriving DecidableEq, Repr

/-- The attempt plan of a model; a schema is given or not. -/
def attemptPlan
    (schemaGiven : Bool)
    (model : String) : List ResponseMode :=
  if schemaGiven && (getModelCapabilities model).supportsStrictJsonSchema then
    [.strictSchema, .jsonObject, .lenient]
  else [.jsonObject, .lenient]

/-- `_MAX_MODELS_TO_TRY`. -/
def maxModelsToTry : Nat := 3

/-- `_MAX_TOTAL_ATTEMPTS`. -/
def maxTotalAttempts : Nat := 12

/-- The loop of `_models_to_try`: models not seen before, in order. -/
def orderedUnique : List String → List String → List String
  | _, [] => []
  | seen, model :: rest =>
      if model ∈ seen then orderedUnique seen rest
      else model :: orderedUnique (model :: seen) rest

/-- `_models_to_try`. -/
def modelsToTry (settings : ProviderSettings) : List String :=
  (orderedUnique [] (settings.llmModel :: settings.llmFallbackModelsList)).take maxModelsToTry

/-! ## One model, one mode -/

/-- How a call of the provider ends: with the content of the first choice, or an
exception. -/
inductive ProviderReply where
  | content (text : Option String)
  | raised (error : RawError)
  deriving DecidableEq, Repr

/-- What the calls of the provider end with, by their number. -/
abbrev Provider := Nat → ProviderReply

/-- The content of a reply. -/
def readReply (library : Library) : ProviderReply → Except LLMProviderError String
  | .content text =>
      match text.map PyText.strip with
      | none => .error ⟨.malformedOutput, "LLM returned empty content"⟩
      | some content =>
          if content = "" then .error ⟨.malformedOutput, "LLM returned empty content"⟩
          else .ok content
  | .raised error => .error (classifyError library error)

/-- The error of `_get_client` without a key. -/
def notConfigured : LLMProviderError :=
  ⟨.providerUnavailable, "GROQ_API_KEY is not configured"⟩

section Chatting

variable (settings : ProviderSettings) (library : Library) (provider : Provider)

/-- The body of `_chat_with_retry`, with the replies of its calls. Without a key there is
no call. -/
def chatOnce (calls : Nat) : Except LLMProviderError String × List ProviderReply :=
  if settings.groqApiKey = "" then (.error notConfigured, [])
  else (readReply library (provider calls), [provider calls])

/-- `_chat_with_retry` with some further attempts. -/
def chatWithRetry : Nat → Nat → Except LLMProviderError String × List ProviderReply
  | 0, calls => chatOnce settings library provider calls
  | further + 1, calls =>
      match chatOnce settings library provider calls with
      | (.ok content, replies) => (.ok content, replies)
      | (.error error, replies) =>
          if error.transient then
            let (ended, more) := chatWithRetry further (calls + replies.length)
            (ended, replies ++ more)
          else (.error error, replies)

end Chatting

/-! ## Reading JSON -/

/-- `text.strip("`")`. -/
def stripBackticks (text : List Char) : List Char :=
  ((text.dropWhile (· == '`')).reverse.dropWhile (· == '`')).reverse

/-- The text without its code fence. -/
def withoutFence (cleaned : String) : String :=
  if cleaned.startsWith "```" then
    let bare := stripBackticks cleaned.toList
    PyText.strip (String.ofList (if "json".toList <+: bare then bare.drop 4 else bare))
  else cleaned

/-- The text from the first opening brace to the last closing one. -/
def bracedPart (text : String) : Option String :=
  match text.toList.dropWhile (· != '{') with
  | [] => none
  | opened =>
      match opened.reverse.dropWhile (· != '}') with
      | [] => none
      | closed => some (String.ofList closed.reverse)

/-- `_parse_json`. -/
def parseJson
    (library : Library)
    (raw : String) : Except LLMProviderError Json :=
  let cleaned := withoutFence (PyText.strip raw)
  match library.loads cleaned with
  | .ok value => .ok value
  | .error _ =>
      match bracedPart cleaned with
      | some part =>
          match library.loads part with
          | .ok value => .ok value
          | .error text =>
              .error ⟨.malformedOutput, "Could not extract valid JSON: " ++ text⟩
      | none =>
          .error ⟨.malformedOutput, "No JSON object found in output: " ++
            String.ofList (raw.toList.take 200) ++ "..."⟩

/-! ## Routing -/

/-- `LLMJsonResult`. -/
structure LLMJsonResult where
  data : Json
  modelUsed : String
  requestedModel : String
  attempts : Nat
  usedFallback : Bool
  responseMode : ResponseMode

/-- One call of `_chat_with_retry`: the model and mode, and the replies of the provider. -/
structure Chat where
  model : String
  mode : ResponseMode
  reasoningEffort : Option String
  replies : List ProviderReply

/-- What the loops keep. -/
structure Routing where
  totalAttempts : Nat := 0
  lastError : Option LLMProviderError := none
  chats : List Chat := []

/-- The calls of the provider so far. -/
def Routing.calls (routing : Routing) : Nat :=
  (routing.chats.map fun chat => chat.replies.length).sum

/-- How the loop over the modes of a model ends: with a result, with an exception, or with
the next model. -/
inductive ModesEnd where
  | returned (result : LLMJsonResult)
  | raised (error : LLMProviderError)
  | nextModel

section Loops

variable (settings : ProviderSettings) (library : Library) (provider : Provider)

/-- The loop over the response modes of a model. -/
def tryModes
    (isFallback : Bool)
    (model : String) :
    List ResponseMode → Routing → ModesEnd × Routing
  | [], routing => (.nextModel, routing)
  | mode :: rest, routing =>
      if maxTotalAttempts ≤ routing.totalAttempts then
        (.raised (routing.lastError.getD ⟨.unknown, "Max LLM attempts exhausted"⟩), routing)
      else
        let (ended, replies) := chatWithRetry settings library provider 2 routing.calls
        let attempted : Routing :=
          { routing with
            totalAttempts := routing.totalAttempts + 1
            chats := routing.chats ++
              [⟨model, mode, reasoningEffort settings model, replies⟩] }
        match ended.bind (parseJson library) with
        | .ok data =>
            (.returned
              { data := data
                modelUsed := model
                requestedModel := settings.llmModel
                attempts := attempted.totalAttempts
                usedFallback := isFallback
                responseMode := mode }, attempted)
        | .error error =>
            let failed := { attempted with lastError := some error }
            if error.kind = .malformedOutput then tryModes isFallback model rest failed
            else if error.kind = .modelUnavailable then
              if isFallback then (.nextModel, failed) else (.raised error, failed)
            else if error.transient then (.nextModel, failed)
            else (.raised error, failed)

/-- The loop over the models; the first one of all is no fallback. -/
def tryModels (schemaGiven : Bool) :
    Bool → List String → Routing → Except LLMProviderError LLMJsonResult × Routing
  | _, [], routing =>
      (.error (routing.lastError.getD ⟨.unknown, "No models configured"⟩), routing)
  | isFallback, model :: rest, routing =>
      match tryModes settings library provider isFallback model (attemptPlan schemaGiven model)
        routing with
      | (.returned result, ended) => (.ok result, ended)
      | (.raised error, ended) => (.error error, ended)
      | (.nextModel, ended) => tryModels schemaGiven true rest ended

/-- `call_llm_json`: what it ends with, and its calls of `_chat_with_retry` in order. -/
def callLlmJson (schemaGiven : Bool) : Except LLMProviderError LLMJsonResult × List Chat :=
  let (ended, routing) :=
    tryModels settings library provider schemaGiven false (modelsToTry settings) {}
  (ended, routing.chats)

end Loops

end Llm
end MailerAgent
