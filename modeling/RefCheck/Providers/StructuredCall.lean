import RefCheck.Backends.Interchange
import RefCheck.Graphs.ReferenceGraph
import RefCheck.Lib.Retry

/-!
# `structured_call`

`BaseLLMProvider.structured_call` of `llm/base.py` over any provider: what the attempts of a call come
to is given, and so is what the three methods make of exceptions and responses. The first attempt that
does not ask for another one, or the last one allowed, decides the outcome (`structured_call_outcome`).
-/

namespace RefCheck

/-- The settings of `config.py` for calls. -/
structure CallConfig where
  llmMaxTokens : ℤ
  llmMaxRetries : ℤ

/-- The arguments of `structured_call`. -/
structure CallArguments (M : Type) where
  system : String
  userMessage : String
  outputModel : M
  maxTokens : Option ℤ := none
  model : Option String := none
  enableCache : Bool := false

/-- The arguments of `_execute`. -/
structure ExecuteArguments where
  model : String
  system : String
  userMessage : String
  toolName : String
  schema : List (String × Json)
  maxTokens : ℤ
  enableCache : Bool

/-- A provider, with its exceptions `E` and its responses `R`. -/
structure LLMProvider (E R : Type) where
  providerName : String
  getModel : ModelTier → String
  /-- What the attempts of a call come to. -/
  execute : ExecuteArguments → ℕ → Except E R
  extractToolInput : R → String → Option Json
  isRetryableException : E → Bool
  /-- `str` of an exception. -/
  str : E → String

/-! ### The providers

What Bedrock and OpenRouter make of exceptions and responses. The Anthropic provider reads a response
as Bedrock does, and asks for another attempt where OpenRouter does. -/

/-- The values that are not `None`. -/
def notNone : Json → Option Json
  | .null => none
  | json => some json

namespace BedrockProvider

/-- What the runtime client raises: a `ClientError` has the code of its response, if there is one. -/
inductive Exception where
  | connectionError (text : String)
  | clientError (code : Option String) (text : String)
  | other (text : String)

def Exception.str : Exception → String
  | connectionError text => text
  | clientError _ text => text
  | other text => text

def retryableErrorCodes : List String :=
  ["ThrottlingException", "ServiceUnavailableException", "InternalServerException",
    "ModelTimeoutException"]

/-- `_is_retryable_exception`. -/
def isRetryableException : Exception → Bool
  | .connectionError _ => true
  | .clientError code _ => code.any (· ∈ retryableErrorCodes)
  | .other _ => false

/-- `_extract_tool_input`, of the content of the message. -/
def extractToolInput (content : List ContentBlock) (toolName : String) : Option Json :=
  (content.findSome? (ContentBlock.input? toolName)).bind notNone

/-- The provider over what its calls come to. -/
def provider (getModel : ModelTier → String)
    (execute : ExecuteArguments → ℕ → Except Exception (List ContentBlock)) :
    LLMProvider Exception (List ContentBlock) where
  providerName := "bedrock"
  getModel := getModel
  execute := execute
  extractToolInput := extractToolInput
  isRetryableException := isRetryableException
  str := Exception.str

end BedrockProvider

namespace OpenRouterProvider

/-- The exceptions of the client library. `APITimeoutError` is an `APIConnectionError`. -/
inductive Exception where
  | rateLimitError (text : String)
  | apiConnectionError (text : String)
  | internalServerError (text : String)
  | other (text : String)

def Exception.str : Exception → String
  | rateLimitError text => text
  | apiConnectionError text => text
  | internalServerError text => text
  | other text => text

/-- `_is_retryable_exception`. -/
def isRetryableException : Exception → Bool
  | .other _ => false
  | _ => true

/-- A call in the message of a response. -/
structure FunctionCall where
  name : String
  arguments : String

/-- `_extract_tool_input`, of the tool calls of the message: the arguments of the first call of the tool,
unless they are no JSON text. -/
def extractToolInput (jsonLoads : String → Option Json) (toolCalls : List FunctionCall)
    (toolName : String) : Option Json :=
  (toolCalls.find? (·.name = toolName)).bind fun call => (jsonLoads call.arguments).bind notNone

/-- The provider over what its calls come to. -/
def provider (jsonLoads : String → Option Json) (getModel : ModelTier → String)
    (execute : ExecuteArguments → ℕ → Except Exception (List FunctionCall)) :
    LLMProvider Exception (List FunctionCall) where
  providerName := "openrouter"
  getModel := getModel
  execute := execute
  extractToolInput := extractToolInput jsonLoads
  isRetryableException := isRetryableException
  str := Exception.str

end OpenRouterProvider

/-- What `structured_call` raises: its own error, or an exception of `_execute` again. -/
inductive CallError (E : Type) where
  | structuredCallError (message : String)
  | reraised (exception : E)
  deriving DecidableEq

section call

variable {M E R : Type} (py : PyText) (config : CallConfig) (cls : ModelClasses M)
  (llm : LLMProvider E R) (args : CallArguments M)

/-- What is passed on to `_execute`. -/
def executeArguments : ExecuteArguments where
  model := (args.model.filter (· ≠ "")).getD (llm.getModel .reasoning)
  system := args.system
  userMessage := args.userMessage
  toolName := toolName py cls args.outputModel
  schema := (cls.modelJsonSchema args.outputModel).filter (·.1 ≠ "title")
  maxTokens := (args.maxTokens.filter (· ≠ 0)).getD config.llmMaxTokens
  enableCache := args.enableCache

/-- What the attempts of the call come to. -/
def attempts : ℕ → Except E R := llm.execute (executeArguments py config cls llm args)

/-- What is made of what the last attempt came to. -/
def callResult : Except E R → Except (CallError E) (cls.Value args.outputModel)
  | .error e =>
    if llm.isRetryableException e then
      .error (.structuredCallError
        (llm.providerName ++ " call failed after retries: " ++ llm.str e))
    else .error (.reraised e)
  | .ok response =>
    match llm.extractToolInput response (toolName py cls args.outputModel) with
    | none =>
      .error (.structuredCallError (llm.providerName ++ " did not return the expected tool call ("
        ++ toolName py cls args.outputModel ++ ")."))
    | some input =>
      match cls.modelValidate args.outputModel input with
      | .ok value => .ok value
      | .error e =>
        .error (.structuredCallError ("Model output for " ++ cls.name args.outputModel
          ++ " failed schema validation: " ++ e))

/-- `structured_call`: the number of attempts, and the outcome. -/
def structuredCall : ℕ × Except (CallError E) (cls.Value args.outputModel) :=
  let response := Retry.retrying llm.isRetryableException (attempts py config cls llm args)
    (config.llmMaxRetries - 1).toNat 0
  (response.1, callResult py cls llm args response.2)

variable {py config cls llm args}

/-! ### How a call ends -/

variable (py cls llm args) in
/-- How a call ends, by what the last attempt came to. -/
inductive CallEnds : Except E R → Except (CallError E) (cls.Value args.outputModel) → Prop
  | retriesExhausted (e : E) (hretryable : llm.isRetryableException e = true) (message : String) :
      CallEnds (.error e) (.error (.structuredCallError message))
  | reraised (e : E) (hfatal : llm.isRetryableException e = false) :
      CallEnds (.error e) (.error (.reraised e))
  | noToolCall (response : R)
      (htool : llm.extractToolInput response (toolName py cls args.outputModel) = none)
      (message : String) : CallEnds (.ok response) (.error (.structuredCallError message))
  | invalid (response : R) (input : Json) (error : String)
      (htool : llm.extractToolInput response (toolName py cls args.outputModel) = some input)
      (hvalidate : cls.modelValidate args.outputModel input = .error error) (message : String) :
      CallEnds (.ok response) (.error (.structuredCallError message))
  | value (response : R) (input : Json) (value : cls.Value args.outputModel)
      (htool : llm.extractToolInput response (toolName py cls args.outputModel) = some input)
      (hvalidate : cls.modelValidate args.outputModel input = .ok value) :
      CallEnds (.ok response) (.ok value)

variable (py cls llm args) in
theorem callEnds_callResult (x : Except E R) :
    CallEnds py cls llm args x (callResult py cls llm args x) := by
  cases x with
  | error e =>
    rw [callResult]
    cases hretryable : llm.isRetryableException e with
    | true =>
      rw [if_pos rfl]
      exact .retriesExhausted e hretryable _
    | false =>
      rw [if_neg Bool.false_ne_true]
      exact .reraised e hretryable
  | ok response =>
    rw [callResult]
    cases htool : llm.extractToolInput response (toolName py cls args.outputModel) with
    | none => exact .noToolCall response htool _
    | some input =>
      dsimp only
      cases hvalidate : cls.modelValidate args.outputModel input with
      | ok value => exact .value response input value htool hvalidate
      | error error => exact .invalid response input error htool hvalidate _

section ends

variable {x : Except E R} {result : Except (CallError E) (cls.Value args.outputModel)}

theorem CallEnds.eq_ok_iff (h : CallEnds py cls llm args x result)
    {value : cls.Value args.outputModel} :
    result = .ok value ↔ ∃ response input, x = .ok response ∧
      llm.extractToolInput response (toolName py cls args.outputModel) = some input ∧
      cls.modelValidate args.outputModel input = .ok value := by
  cases h with
  | retriesExhausted => exact iff_of_false nofun nofun
  | reraised => exact iff_of_false nofun nofun
  | noToolCall response htool =>
    refine iff_of_false nofun ?_
    rintro ⟨_, input, hresponse, hinput, -⟩
    cases hresponse
    exact nomatch htool.symm.trans hinput
  | invalid response input error htool hvalidate =>
    refine iff_of_false nofun ?_
    rintro ⟨_, input', hresponse, hinput, hvalue⟩
    cases hresponse
    cases htool.symm.trans hinput
    exact nomatch hvalidate.symm.trans hvalue
  | value response input value' htool hvalidate =>
    constructor
    · intro hvalue
      cases hvalue
      exact ⟨response, input, rfl, htool, hvalidate⟩
    · rintro ⟨_, input', hresponse, hinput, hvalue⟩
      cases hresponse
      cases htool.symm.trans hinput
      cases hvalidate.symm.trans hvalue
      rfl

theorem CallEnds.structuredCallError_iff (h : CallEnds py cls llm args x result) :
    (∃ message, result = .error (.structuredCallError message)) ↔
      (∃ e, x = .error e ∧ llm.isRetryableException e = true) ∨
      (∃ response, x = .ok response ∧
        llm.extractToolInput response (toolName py cls args.outputModel) = none) ∨
      ∃ response input error, x = .ok response ∧
        llm.extractToolInput response (toolName py cls args.outputModel) = some input ∧
        cls.modelValidate args.outputModel input = .error error := by
  cases h with
  | retriesExhausted e hretryable message =>
    exact iff_of_true ⟨message, rfl⟩ (.inl ⟨e, rfl, hretryable⟩)
  | reraised e hfatal =>
    refine iff_of_false nofun ?_
    rintro (⟨_, he, hretryable⟩ | ⟨_, hresponse, -⟩ | ⟨_, _, _, hresponse, -⟩)
    · cases he
      exact nomatch hfatal.symm.trans hretryable
    · cases hresponse
    · cases hresponse
  | noToolCall response htool message =>
    exact iff_of_true ⟨message, rfl⟩ (.inr (.inl ⟨response, rfl, htool⟩))
  | invalid response input error htool hvalidate message =>
    exact iff_of_true ⟨message, rfl⟩ (.inr (.inr ⟨response, input, error, rfl, htool, hvalidate⟩))
  | value response input value htool hvalidate =>
    refine iff_of_false nofun ?_
    rintro (⟨_, he, -⟩ | ⟨_, hresponse, hnone⟩ | ⟨_, input', error, hresponse, hinput, herror⟩)
    · cases he
    · cases hresponse
      exact nomatch htool.symm.trans hnone
    · cases hresponse
      cases htool.symm.trans hinput
      exact nomatch hvalidate.symm.trans herror

theorem CallEnds.reraised_iff (h : CallEnds py cls llm args x result) {e : E} :
    result = .error (.reraised e) ↔ x = .error e ∧ llm.isRetryableException e = false := by
  cases h with
  | retriesExhausted e' hretryable message =>
    refine iff_of_false nofun ?_
    rintro ⟨he, hfatal⟩
    cases he
    exact nomatch hfatal.symm.trans hretryable
  | reraised e' hfatal =>
    constructor
    · intro he
      cases he
      exact ⟨rfl, hfatal⟩
    · rintro ⟨he, -⟩
      cases he
      rfl
  | noToolCall => exact iff_of_false nofun nofun
  | invalid => exact iff_of_false nofun nofun
  | value => exact iff_of_false nofun nofun

end ends

/-- **The outcome of a call is fixed by the sequence of its attempts.** -/
theorem structured_call_outcome (py : PyText) (config : CallConfig) (cls : ModelClasses M)
    (llm : LLMProvider E R) (args : CallArguments M) (hmax : 1 ≤ config.llmMaxRetries) :
    ∃ last result, structuredCall py config cls llm args = (last + 1, result) ∧
      ((last + 1 : ℕ) : ℕ∞) = min (config.llmMaxRetries.toNat : ℕ∞)
        (1 + Retry.leading llm.isRetryableException (attempts py config cls llm args)) ∧
      (∀ n < last, ∃ e, attempts py config cls llm args n = .error e ∧
        llm.isRetryableException e = true) ∧
      (∀ value, result = .ok value ↔ ∃ response input,
        attempts py config cls llm args last = .ok response ∧
        llm.extractToolInput response (toolName py cls args.outputModel) = some input ∧
        cls.modelValidate args.outputModel input = .ok value) ∧
      ((∃ message, result = .error (.structuredCallError message)) ↔
        (∀ n < config.llmMaxRetries.toNat, ∃ e, attempts py config cls llm args n = .error e ∧
          llm.isRetryableException e = true) ∨
        (∃ response, attempts py config cls llm args last = .ok response ∧
          llm.extractToolInput response (toolName py cls args.outputModel) = none) ∨
        ∃ response input error, attempts py config cls llm args last = .ok response ∧
          llm.extractToolInput response (toolName py cls args.outputModel) = some input ∧
          cls.modelValidate args.outputModel input = .error error) ∧
      ∀ e, result = .error (.reraised e) ↔ attempts py config cls llm args last = .error e ∧
        llm.isRetryableException e = false := by
  obtain ⟨last, hrun, -, hle, hends, hbefore⟩ := Retry.retrying_eq llm.isRetryableException
    (attempts py config cls llm args) (config.llmMaxRetries - 1).toNat 0
  have hpred : (config.llmMaxRetries - 1).toNat = config.llmMaxRetries.toNat - 1 := by omega
  rw [Nat.zero_add, hpred] at hle hends
  have hretried : ∀ n < last, Retry.asksAgain llm.isRetryableException
      (attempts py config cls llm args n) = true := fun n hn => hbefore n (Nat.zero_le n) hn
  have hcall : structuredCall py config cls llm args =
      (last + 1, callResult py cls llm args (attempts py config cls llm args last)) := by
    unfold structuredCall
    rw [hrun]
  refine ⟨last, _, hcall, Retry.attempts_eq hle (by omega) hends hretried,
    fun n hn => Retry.asksAgain_eq_true_iff.mp (hretried n hn), ?_⟩
  have hexhausted := Retry.asksAgain_last_iff hle (by omega) hends hretried
  simp only [Retry.asksAgain_eq_true_iff] at hexhausted
  have hcallEnds := callEnds_callResult py cls llm args (attempts py config cls llm args last)
  refine ⟨fun value => hcallEnds.eq_ok_iff, ?_, fun e => hcallEnds.reraised_iff⟩
  rw [← hexhausted]
  exact hcallEnds.structuredCallError_iff

end call

/-! ### A call that is throttled twice -/

def summaryCall : CallArguments OutputModel where
  system := "You summarize references."
  userMessage := "Summarize."
  outputModel := .finalSummary

/-- Bedrock when it throttles the first two attempts. -/
def throttlingProvider : LLMProvider BedrockProvider.Exception (List ContentBlock) :=
  BedrockProvider.provider (fun _ => "large") fun _ n =>
    if n < 2 then .error (.clientError (some "ThrottlingException") "Too many requests")
    else .ok summaryBlocks

/-- The third attempt gives the value. -/
theorem structured_call_throttled :
    structuredCall .plain ⟨1024, 4⟩ summaryClasses throttlingProvider summaryCall =
      (3, .ok ⟨"Fine."⟩) ∧
    (3 : ℕ∞) = min 4 (1 + Retry.leading throttlingProvider.isRetryableException
      (attempts .plain ⟨1024, 4⟩ summaryClasses throttlingProvider summaryCall)) := by
  have hthird : structuredCall .plain ⟨1024, 4⟩ summaryClasses throttlingProvider summaryCall =
      (3, .ok ⟨"Fine."⟩) := rfl
  obtain ⟨last, result, hrun, hcount, -⟩ := structured_call_outcome .plain ⟨1024, 4⟩ summaryClasses
    throttlingProvider summaryCall (by decide)
  rw [hthird] at hrun
  obtain rfl : last = 2 := by simpa using congrArg Prod.fst hrun
  exact ⟨hthird, hcount⟩

/-! ### The provider of the graphs -/

/-- The output models of the pipeline. -/
structure PipelineModels where
  name : OutputModel → String
  modelJsonSchema : OutputModel → List (String × Json)
  modelValidate : (m : OutputModel) → Json → Except String m.Value

def PipelineModels.classes (models : PipelineModels) : ModelClasses OutputModel where
  name := models.name
  Value := OutputModel.Value
  modelJsonSchema := models.modelJsonSchema
  modelValidate := models.modelValidate

/-- The arguments of the call for a request. -/
def LLMRequest.callArguments (rq : LLMRequest) : CallArguments OutputModel where
  system := rq.system
  userMessage := rq.userMessage
  outputModel := rq.outputModel
  model := some rq.model

section provider

variable {E R : Type} (py : PyText) (config : CallConfig) (models : PipelineModels)
  (toException : E → PyException) (llm : LLMProvider E R)

/-- What the graphs see of an error. -/
def CallError.exception : CallError E → PyException
  | structuredCallError message => .raised "StructuredCallError" message
  | reraised e => toException e

/-- A provider that answers every request of the graphs by a call. -/
def LLMProvider.toProvider : Provider where
  getModel := llm.getModel
  answer rq := (structuredCall py config models.classes llm rq.callArguments).2.mapError
    (CallError.exception toException)

variable {py config models toException llm}

/-- A request is answered exactly if, after attempts that ask for another one, one of those allowed gives
a response with the tool call, and its input validates. -/
theorem toProvider_answer_eq_ok_iff (hmax : 1 ≤ config.llmMaxRetries) {rq : LLMRequest}
    {value : rq.outputModel.Value} :
    (llm.toProvider py config models toException).answer rq = .ok value ↔
      ∃ last < config.llmMaxRetries.toNat,
        (∀ n < last, ∃ e, attempts py config models.classes llm rq.callArguments n = .error e ∧
          llm.isRetryableException e = true) ∧
        ∃ response input, attempts py config models.classes llm rq.callArguments last = .ok response ∧
          llm.extractToolInput response (toolName py models.classes rq.outputModel) = some input ∧
          models.modelValidate rq.outputModel input = .ok value := by
  have hanswer : (llm.toProvider py config models toException).answer rq = .ok value ↔
      (structuredCall py config models.classes llm rq.callArguments).2 = .ok value := by
    unfold LLMProvider.toProvider
    dsimp only
    cases (structuredCall py config models.classes llm rq.callArguments).2 with
    | error e => simp [Except.mapError]
    | ok value' =>
      constructor
      · intro h
        cases h
        rfl
      · intro h
        cases h
        rfl
  have hcallEnds := callEnds_callResult py models.classes llm rq.callArguments
    (Retry.retrying llm.isRetryableException (attempts py config models.classes llm rq.callArguments)
      (config.llmMaxRetries - 1).toNat 0).2
  rw [hanswer]
  refine hcallEnds.eq_ok_iff.trans ?_
  simp only [Retry.retrying_eq_ok_iff, Retry.asksAgain_eq_true_iff, Nat.zero_le, true_and, true_imp_iff,
    Nat.zero_add]
  constructor
  · rintro ⟨response, input, ⟨last, hlast, hbefore, hresponse⟩, hinput⟩
    exact ⟨last, by omega, hbefore, response, input, hresponse, hinput⟩
  · rintro ⟨last, hlast, hbefore, response, input, hresponse, hinput⟩
    exact ⟨response, input, ⟨last, by omega, hbefore, hresponse⟩, hinput⟩

end provider

end RefCheck
