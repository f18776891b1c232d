import RefCheck.Agreement.Services
import RefCheck.Providers.Wire

/-!
# The choice of a provider

`get_provider` of `llm/providers.py`, and why it does not matter what it gives. The three APIs put the
replies of a model in shapes of their own, and the exceptions of their client libraries differ. An attempt
is one call of such a library, with whatever the library repeats by itself: the clients of Anthropic and
OpenRouter repeat twice by default, the one of Bedrock never. So each provider has attempts of its own.

Where the attempts of two providers come to the same replies, their calls end alike
(`providers_interchangeable`), but for this: Bedrock does not repeat an attempt that was lost. Where each
provider gets the answer of the model in one of its attempts, the candidate graph comes to the same state
over each of them (`provider_choice_immaterial`).
-/

namespace RefCheck

/-! ### A model behind the APIs -/

/-- How an attempt may fail. -/
inductive Failure where
  | throttled
  | unreachable
  /-- There was no response in time. -/
  | timedOut
  /-- The connection was closed without a response. -/
  | disconnected
  | serverError
  /-- The request is not accepted. -/
  | refused
  deriving DecidableEq

/-- Another attempt may do better. -/
def Failure.transient : Failure → Bool
  | refused => false
  | _ => true

/-- The request was sent, and no response came. -/
def Failure.lost : Failure → Bool
  | timedOut | disconnected => true
  | _ => false

/-- Bedrock makes another attempt. -/
def Failure.repeatedByBedrock (failure : Failure) : Bool :=
  failure.transient && !failure.lost

/-- What an attempt comes to, whatever the API. -/
inductive Reply where
  | failure (failure : Failure)
  | message (content : List ContentBlock)

/-- No response came. -/
def Reply.lost : Reply → Bool
  | failure f => f.lost
  | message _ => false

/-- What the models of the tiers reply to the attempts of asking them. -/
abbrev ModelService := ModelTier → Ask → ℕ → Reply

/-- An API serves the models: a body that it reads as a question to the model of a tier gets the reply, in
the shape that the API gives it. -/
def ApiServes {E R : Type} (read? : Json → Option (String × Ask)) (gives : Reply → Except E R → Prop)
    (getModel : ModelTier → String) (create : Json → ℕ → Except E R) (service : ModelService) : Prop :=
  ∀ body tier ask, read? body = some (getModel tier, ask) →
    ∀ n, gives (service tier ask n) (create body n)

namespace AnthropicProvider

/-- The exceptions of the client library. `APITimeoutError` is an `APIConnectionError`. -/
inductive Exception where
  | rateLimitError (text : String)
  | apiConnectionError (text : String)
  | internalServerError (text : String)
  | other (text : String)

def Exception.str : Exception → String
  | rateLimitError text => text
  | apiConnectionError text => text
  | internalServerError text => text
  | other text => text

/-- `_is_retryable_exception`. -/
def isRetryableException : Exception → Bool
  | .other _ => false
  | _ => true

/-- The provider over its client; `_extract_tool_input` reads the content as that of Bedrock does. -/
def overClient (getModel : ModelTier → String) (create : Json → ℕ → Except Exception (List ContentBlock)) :
    LLMProvider Exception (List ContentBlock) where
  providerName := "anthropic"
  getModel := getModel
  execute args n := create (createBody args) n
  extractToolInput := BedrockProvider.extractToolInput
  isRetryableException := isRetryableException
  str := Exception.str

/-- What the client makes of a reply. -/
inductive Gives : Reply → Except Exception (List ContentBlock) → Prop
  | throttled (text : String) : Gives (.failure .throttled) (.error (.rateLimitError text))
  | unreachable (text : String) : Gives (.failure .unreachable) (.error (.apiConnectionError text))
  | timedOut (text : String) : Gives (.failure .timedOut) (.error (.apiConnectionError text))
  | disconnected (text : String) : Gives (.failure .disconnected) (.error (.apiConnectionError text))
  | serverError (text : String) : Gives (.failure .serverError) (.error (.internalServerError text))
  | refused (text : String) : Gives (.failure .refused) (.error (.other text))
  | message (content : List ContentBlock) : Gives (.message content) (.ok content)

end AnthropicProvider

namespace BedrockProvider

def overClient (getModel : ModelTier → String) (converse : Json → ℕ → Except Exception (List ContentBlock)) :
    LLMProvider Exception (List ContentBlock) :=
  provider getModel fun args n => converse (converseBody args) n

/-- What the client makes of a reply. `ReadTimeoutError` and `ConnectionClosedError` are no
`ConnectionError`s of `botocore`. -/
inductive Gives : Reply → Except Exception (List ContentBlock) → Prop
  | throttled (text : String) :
      Gives (.failure .throttled) (.error (.clientError (some "ThrottlingException") text))
  | unreachable (text : String) : Gives (.failure .unreachable) (.error (.connectionError text))
  | timedOut (text : String) : Gives (.failure .timedOut) (.error (.other text))
  | disconnected (text : String) : Gives (.failure .disconnected) (.error (.other text))
  | serverError (code text : String)
      (hcode : code ∈ ["ServiceUnavailableException", "InternalServerException", "ModelTimeoutException"]) :
      Gives (.failure .serverError) (.error (.clientError (some code) text))
  | refused (code : Option String) (text : String) (hcode : ∀ c ∈ code, c ∉ retryableErrorCodes) :
      Gives (.failure .refused) (.error (.clientError code text))
  | message (content : List ContentBlock) : Gives (.message content) (.ok content)

end BedrockProvider

/-- A block that calls a tool, by the name and the input. -/
def ContentBlock.call? : ContentBlock → Option (String × Json)
  | toolUse name input => some (name, input)
  | other _ _ => none

namespace OpenRouterProvider

def overClient (jsonLoads : String → Option Json) (getModel : ModelTier → String)
    (create : Json → ℕ → Except Exception (List FunctionCall)) : LLMProvider Exception (List FunctionCall) :=
  provider jsonLoads getModel fun args n => create (completionsBody args) n

/-- What the client makes of a reply: the tool calls of a message, with their inputs as JSON texts. -/
inductive Gives (jsonLoads : String → Option Json) : Reply → Except Exception (List FunctionCall) → Prop
  | throttled (text : String) : Gives jsonLoads (.failure .throttled) (.error (.rateLimitError text))
  | unreachable (text : String) : Gives jsonLoads (.failure .unreachable) (.error (.apiConnectionError text))
  | timedOut (text : String) : Gives jsonLoads (.failure .timedOut) (.error (.apiConnectionError text))
  | disconnected (text : String) :
      Gives jsonLoads (.failure .disconnected) (.error (.apiConnectionError text))
  | serverError (text : String) : Gives jsonLoads (.failure .serverError) (.error (.internalServerError text))
  | refused (text : String) : Gives jsonLoads (.failure .refused) (.error (.other text))
  | message (content : List ContentBlock) (calls : List FunctionCall)
      (hcalls : calls.map (fun call => (call.name, jsonLoads call.arguments)) =
        (content.filterMap ContentBlock.call?).map fun call => (call.1, some call.2)) :
      Gives jsonLoads (.message content) (.ok calls)

end OpenRouterProvider

/-! ### What a provider makes of a reply -/

section reports

variable {E R E' R' : Type}

/-- The provider sees the reply: a failure that it tells by whether to try again, or a message in which
it finds the calls that are there. -/
inductive LLMProvider.Sees (llm : LLMProvider E R) : Reply → Except E R → Prop
  | failure (failure : Failure) (e : E) (hretryable : llm.isRetryableException e = failure.transient) :
      Sees llm (.failure failure) (.error e)
  | message (content : List ContentBlock) (response : R)
      (hcall : ∀ tool, llm.extractToolInput response tool = BedrockProvider.extractToolInput content tool) :
      Sees llm (.message content) (.ok response)

theorem LLMProvider.Sees.of_failure {llm : LLMProvider E R} {failure : Failure} {x : Except E R}
    (h : llm.Sees (.failure failure) x) :
    ∃ e, x = .error e ∧ llm.isRetryableException e = failure.transient := by
  cases h with
  | failure _ e he => exact ⟨e, rfl, he⟩

theorem LLMProvider.Sees.of_message {llm : LLMProvider E R} {content : List ContentBlock} {x : Except E R}
    (h : llm.Sees (.message content) x) : ∃ response, x = .ok response ∧
      ∀ tool, llm.extractToolInput response tool = BedrockProvider.extractToolInput content tool := by
  cases h with
  | message _ response hcall => exact ⟨response, rfl, hcall⟩

/-- The provider asks the models of the service, and sees their replies. -/
def LLMProvider.Reaches (llm : LLMProvider E R) (service : ModelService) : Prop :=
  ∀ args tier n, args.model = llm.getModel tier → llm.Sees (service tier args.ask n) (llm.execute args n)

theorem LLMProvider.reaches_of_serves {llm : LLMProvider E R} {service : ModelService}
    {read? : Json → Option (String × Ask)} {gives : Reply → Except E R → Prop}
    {create : Json → ℕ → Except E R} {body : ExecuteArguments → Json}
    (hbody : ∀ args, read? (body args) = some (args.model, args.ask))
    (hexecute : ∀ args n, llm.execute args n = create (body args) n)
    (hsees : ∀ reply x, gives reply x → llm.Sees reply x)
    (h : ApiServes read? gives llm.getModel create service) : llm.Reaches service := by
  intro args tier n hmodel
  have hread : read? (body args) = some (llm.getModel tier, args.ask) := by rw [hbody, hmodel]
  rw [hexecute]
  exact hsees _ _ (h _ tier _ hread n)

/-- The reply as Bedrock has it: an attempt that was lost is not repeated. -/
def Reply.atBedrock : Reply → Reply
  | failure .timedOut => failure .refused
  | failure .disconnected => failure .refused
  | reply => reply

theorem Reply.atBedrock_of_not_lost {reply : Reply} (h : reply.lost = false) : reply.atBedrock = reply := by
  cases reply with
  | message content => rfl
  | failure failure => cases failure <;> first | rfl | cases h

theorem Reply.atBedrock_of_lost {reply : Reply} (h : reply.lost = true) :
    reply.atBedrock = .failure .refused := by
  cases reply with
  | message content => cases h
  | failure failure => cases failure <;> first | rfl | cases h

theorem AnthropicProvider.Gives.sees {getModel : ModelTier → String}
    {create : Json → ℕ → Except Exception (List ContentBlock)} {reply : Reply}
    {x : Except Exception (List ContentBlock)} (h : Gives reply x) :
    (overClient getModel create).Sees reply x := by
  cases h with
  | throttled text => exact .failure _ _ rfl
  | unreachable text => exact .failure _ _ rfl
  | timedOut text => exact .failure _ _ rfl
  | disconnected text => exact .failure _ _ rfl
  | serverError text => exact .failure _ _ rfl
  | refused text => exact .failure _ _ rfl
  | message content => exact .message _ _ fun _ => rfl

theorem BedrockProvider.Gives.sees {getModel : ModelTier → String}
    {converse : Json → ℕ → Except Exception (List ContentBlock)} {reply : Reply}
    {x : Except Exception (List ContentBlock)} (h : Gives reply x) :
    (overClient getModel converse).Sees reply.atBedrock x := by
  cases h with
  | throttled text =>
    have hretryable : "ThrottlingException" ∈ retryableErrorCodes := by decide
    exact .failure _ _ (decide_eq_true hretryable)
  | unreachable text => exact .failure _ _ rfl
  | timedOut text => exact .failure _ _ rfl
  | disconnected text => exact .failure _ _ rfl
  | serverError code text hcode =>
    have hretryable : ∀ c ∈ ["ServiceUnavailableException", "InternalServerException",
        "ModelTimeoutException"], c ∈ retryableErrorCodes := by decide
    exact .failure _ _ (decide_eq_true (hretryable code hcode))
  | refused code text hcode =>
    refine .failure _ _ ?_
    cases code with
    | none => rfl
    | some c => exact decide_eq_false (hcode c rfl)
  | message content => exact .message _ _ fun _ => rfl

theorem findSome?_input?_eq (content : List ContentBlock) (tool : String) :
    content.findSome? (ContentBlock.input? tool) =
      ((content.filterMap ContentBlock.call?).find? (·.1 = tool)).map (·.2) := by
  induction content with
  | nil => rfl
  | cons block content ih =>
    rw [List.findSome?_cons, List.filterMap_cons]
    cases block with
    | toolUse name input =>
      rw [ContentBlock.call?, ContentBlock.input?]
      dsimp only
      rw [List.find?_cons]
      by_cases hname : name = tool
      · rw [if_pos hname, decide_eq_true hname]
        rfl
      · rw [if_neg hname, decide_eq_false hname]
        exact ih
    | other type hother => exact ih

theorem OpenRouterProvider.Gives.sees {jsonLoads : String → Option Json} {getModel : ModelTier → String}
    {create : Json → ℕ → Except Exception (List FunctionCall)} {reply : Reply}
    {x : Except Exception (List FunctionCall)} (h : Gives jsonLoads reply x) :
    (overClient jsonLoads getModel create).Sees reply x := by
  cases h with
  | throttled text => exact .failure _ _ rfl
  | unreachable text => exact .failure _ _ rfl
  | timedOut text => exact .failure _ _ rfl
  | disconnected text => exact .failure _ _ rfl
  | serverError text => exact .failure _ _ rfl
  | refused text => exact .failure _ _ rfl
  | message content calls hcalls =>
    refine .message _ _ fun tool => ?_
    have hfind := congrArg (List.find? (·.1 = tool)) hcalls
    rw [List.find?_map, List.find?_map] at hfind
    change (calls.find? (·.name = tool)).bind (fun call => (jsonLoads call.arguments).bind notNone) =
      (content.findSome? (ContentBlock.input? tool)).bind notNone
    rw [findSome?_input?_eq]
    change (calls.find? (·.name = tool)).map (fun call => (call.name, jsonLoads call.arguments)) =
      ((content.filterMap ContentBlock.call?).find? (·.1 = tool)).map (fun call => (call.1, some call.2))
        at hfind
    cases hcall : calls.find? (·.name = tool) with
    | none =>
      rw [hcall, Option.map_none] at hfind
      rw [Option.map_eq_none_iff.mp hfind.symm]
      rfl
    | some call =>
      rw [hcall, Option.map_some] at hfind
      obtain ⟨input, hinput, heq⟩ := Option.map_eq_some_iff.mp hfind.symm
      rw [hinput, Option.map_some, Option.bind_some, Option.bind_some, ← (Prod.mk.inj heq).2, Option.bind_some]

/-! ### Calls through two providers -/

/-- Calls that end alike, but for the texts of errors. -/
inductive SameOutcome {V : Type} : Except (CallError E) V → Except (CallError E') V → Prop
  | value (value : V) : SameOutcome (.ok value) (.ok value)
  | structuredCallError (message message' : String) :
      SameOutcome (.error (.structuredCallError message)) (.error (.structuredCallError message'))
  | reraised (e : E) (e' : E') : SameOutcome (.error (.reraised e)) (.error (.reraised e'))

variable {M : Type} {py : PyText} {config : CallConfig} {cls : ModelClasses M} {llm : LLMProvider E R}
  {llm' : LLMProvider E' R'} {service service' : ModelService}

/-- A call that asks the model of a tier. -/
def CallArguments.at (args : CallArguments M) (model : String) : CallArguments M :=
  { args with model := some model }

/-- Two providers see one reply. -/
def SeenAlike (llm : LLMProvider E R) (llm' : LLMProvider E' R') (x : Except E R) (y : Except E' R') : Prop :=
  ∃ reply, llm.Sees reply x ∧ llm'.Sees reply y

theorem SeenAlike.asksAgain_eq {x : Except E R} {y : Except E' R'} (h : SeenAlike llm llm' x y) :
    Retry.asksAgain llm.isRetryableException x = Retry.asksAgain llm'.isRetryableException y := by
  obtain ⟨reply, hx, hy⟩ := h
  cases hx with
  | failure failure e he =>
    cases hy with
    | failure _ e' he' => exact he.trans he'.symm
  | message content response hcall =>
    cases hy with
    | message _ response' hcall' => rfl

theorem SeenAlike.sameOutcome {x : Except E R} {y : Except E' R'} (h : SeenAlike llm llm' x y)
    (args : CallArguments M) (model model' : String) :
    SameOutcome (callResult py cls llm (args.at model) x) (callResult py cls llm' (args.at model') y) := by
  obtain ⟨reply, hx, hy⟩ := h
  cases hx with
  | failure failure e he =>
    cases hy with
    | failure _ e' he' =>
      rw [callResult, callResult, he, he']
      cases failure.transient
      · exact .reraised e e'
      · exact .structuredCallError _ _
  | message content response hcall =>
    cases hy with
    | message _ response' hcall' =>
      rw [callResult, callResult, hcall, hcall']
      dsimp only [CallArguments.at]
      cases BedrockProvider.extractToolInput content (toolName py cls args.outputModel) with
      | none => exact .structuredCallError _ _
      | some input =>
        dsimp only
        cases cls.modelValidate args.outputModel input with
        | ok value => exact .value value
        | error error => exact .structuredCallError _ _

/-- What a call of `structured_call` asks. -/
def callAsk (py : PyText) (config : CallConfig) (cls : ModelClasses M) (args : CallArguments M) : Ask where
  system := args.system
  cached := args.enableCache
  userMessage := args.userMessage
  toolName := toolName py cls args.outputModel
  schema := (cls.modelJsonSchema args.outputModel).filter (·.1 ≠ "title")
  maxTokens := .num (toString ((args.maxTokens.filter (· ≠ 0)).getD config.llmMaxTokens))

theorem LLMProvider.Reaches.sees_attempts (h : llm.Reaches service) {tier : ModelTier}
    (hmodel : llm.getModel tier ≠ "") (args : CallArguments M) (n : ℕ) :
    llm.Sees (service tier (callAsk py config cls args) n)
      (attempts py config cls llm (args.at (llm.getModel tier)) n) := by
  have hpassed : (executeArguments py config cls llm (args.at (llm.getModel tier))).model =
      llm.getModel tier := by
    show ((some (llm.getModel tier)).filter (· ≠ "")).getD (llm.getModel .reasoning) = llm.getModel tier
    rw [Option.filter_some, if_pos (decide_eq_true hmodel), Option.getD_some]
  exact h _ tier n hpassed

variable (py config cls llm) in
/-- A call to the model of a tier. -/
def LLMProvider.call (tier : ModelTier) (args : CallArguments M) :
    ℕ × Except (CallError E) (cls.Value args.outputModel) :=
  structuredCall py config cls llm (args.at (llm.getModel tier))

/-- A call to the model of a tier ends the same through two providers that reach the same replies to it,
after as many attempts. -/
theorem call_agree (h : llm.Reaches service) (h' : llm'.Reaches service') {tier : ModelTier}
    (hmodel : llm.getModel tier ≠ "") (hmodel' : llm'.getModel tier ≠ "") (args : CallArguments M)
    (hsame : ∀ n ≤ (config.llmMaxRetries - 1).toNat,
      service tier (callAsk py config cls args) n = service' tier (callAsk py config cls args) n) :
    (llm.call py config cls tier args).1 = (llm'.call py config cls tier args).1 ∧
      SameOutcome (llm.call py config cls tier args).2 (llm'.call py config cls tier args).2 := by
  have halike : ∀ n, 0 ≤ n → n ≤ 0 + (config.llmMaxRetries - 1).toNat → SeenAlike llm llm'
      (attempts py config cls llm (args.at (llm.getModel tier)) n)
      (attempts py config cls llm' (args.at (llm'.getModel tier)) n) := by
    intro n _ hn
    refine ⟨_, h.sees_attempts hmodel args n, ?_⟩
    rw [hsame n (by omega)]
    exact h'.sees_attempts hmodel' args n
  obtain ⟨hcount, hlast⟩ := Retry.retrying_agree (fun _ _ hxy => hxy.asksAgain_eq)
    (config.llmMaxRetries - 1).toNat 0 halike
  exact ⟨hcount, hlast.sameOutcome args _ _⟩

end reports

/-! ### The providers of `get_provider` -/

/-- What the attempts of the three providers come to. -/
structure ModelServices where
  anthropic : ModelService
  bedrock : ModelService
  openRouter : ModelService

/-- What `providers.py` works with: the environment, and the client libraries. -/
structure LLMClients where
  environ : Dict String String
  jsonLoads : String → Option Json
  /-- What the building of a client comes to. -/
  connect : String → Except PyException Unit
  create : Json → ℕ → Except AnthropicProvider.Exception (List ContentBlock)
  converse : Json → ℕ → Except BedrockProvider.Exception (List ContentBlock)
  completions : Json → ℕ → Except OpenRouterProvider.Exception (List OpenRouterProvider.FunctionCall)
  /-- The exceptions of the libraries as the graphs see them. -/
  anthropicException : AnthropicProvider.Exception → PyException
  bedrockException : BedrockProvider.Exception → PyException
  openRouterException : OpenRouterProvider.Exception → PyException

namespace LLMClients

variable (clients : LLMClients) (py : PyText)

/-- `get_model` of a provider. Each of the three has a model for both tiers (`exists_getModel`). -/
def model (provider : String) (tier : ModelTier) : String :=
  match getModel py clients.environ provider tier.name with
  | .ok model => model
  | .error _ => ""

def anthropic : LLMProvider AnthropicProvider.Exception (List ContentBlock) :=
  AnthropicProvider.overClient (clients.model py "anthropic") clients.create

def bedrock : LLMProvider BedrockProvider.Exception (List ContentBlock) :=
  BedrockProvider.overClient (clients.model py "bedrock") clients.converse

def openRouter : LLMProvider OpenRouterProvider.Exception (List OpenRouterProvider.FunctionCall) :=
  OpenRouterProvider.overClient clients.jsonLoads (clients.model py "openrouter") clients.completions

/-- The three APIs serve the models, each with attempts of its own. -/
structure Serve (services : ModelServices) : Prop where
  anthropic : ApiServes AnthropicProvider.read? AnthropicProvider.Gives (clients.model py "anthropic")
    clients.create services.anthropic
  bedrock : ApiServes BedrockProvider.read? BedrockProvider.Gives (clients.model py "bedrock")
    clients.converse services.bedrock
  openRouter : ApiServes OpenRouterProvider.read? (OpenRouterProvider.Gives clients.jsonLoads)
    (clients.model py "openrouter") clients.completions services.openRouter

/-- No model is overridden by an empty name. -/
def ModelsNamed : Prop :=
  ∀ provider ∈ modelTiers.keys, ∀ tier : ModelTier,
    clients.environ.get? (modelKey provider tier.name) ≠ some ""

variable {clients py} {services : ModelServices}

theorem ModelsNamed.model_ne (h : clients.ModelsNamed) {provider : String}
    (hprovider : provider ∈ modelTiers.keys) (tier : ModelTier) : clients.model py provider tier ≠ "" := by
  have hentries : ∀ p ∈ modelTiers.keys, ∀ tier ∈ [ModelTier.extraction, .reasoning],
      (modelTiers.get? p).bind (·.get? tier.name) ≠ some "" := by decide +kernel
  have hexists : ∃ model, getModel py clients.environ provider tier.name = .ok model :=
    exists_getModel hprovider tier
  obtain ⟨model, hmodel⟩ := hexists
  unfold LLMClients.model
  rw [hmodel]
  rintro rfl
  rcases getModel_eq_ok_iff.mp hmodel with hown | ⟨-, htable⟩
  · exact h provider hprovider tier hown
  · exact hentries provider hprovider tier (by cases tier <;> decide) htable

theorem Serve.anthropic_reaches (h : clients.Serve py services) :
    (clients.anthropic py).Reaches services.anthropic :=
  LLMProvider.reaches_of_serves AnthropicProvider.read_createBody (fun _ _ => rfl)
    (fun _ _ hgives => hgives.sees) h.anthropic

theorem Serve.openRouter_reaches (h : clients.Serve py services) :
    (clients.openRouter py).Reaches services.openRouter :=
  LLMProvider.reaches_of_serves OpenRouterProvider.read_completionsBody (fun _ _ => rfl)
    (fun _ _ hgives => hgives.sees) h.openRouter

/-- Bedrock reaches its service as if nothing was lost that is worth another attempt. -/
theorem Serve.bedrock_reaches (h : clients.Serve py services) :
    (clients.bedrock py).Reaches fun tier ask n => (services.bedrock tier ask n).atBedrock := by
  intro args tier n hmodel
  have hread : BedrockProvider.read? (BedrockProvider.converseBody args) =
      some (clients.model py "bedrock" tier, args.ask) := by
    rw [BedrockProvider.read_converseBody, hmodel]
    rfl
  exact (h.bedrock _ tier _ hread n).sees

end LLMClients

section interchangeable

variable {M : Type} {py : PyText} {config : CallConfig} {cls : ModelClasses M} {clients : LLMClients}
  {services : ModelServices}

/-- At its first attempt that is lost, Bedrock's call ends with the exception of the client. -/
theorem LLMClients.Serve.bedrock_call_of_lost (hserve : clients.Serve py services)
    (hnamed : clients.ModelsNamed) {tier : ModelTier} {args : CallArguments M} {k : ℕ}
    (hk : k ≤ (config.llmMaxRetries - 1).toNat)
    (hbefore : ∀ n < k, ∃ failure : Failure,
      services.bedrock tier (callAsk py config cls args) n = .failure failure ∧
        failure.repeatedByBedrock = true)
    (hlost : (services.bedrock tier (callAsk py config cls args) k).lost = true) :
    ∃ e, (clients.bedrock py).call py config cls tier args = (k + 1, .error (.reraised e)) := by
  have hmodel : (clients.bedrock py).getModel tier ≠ "" := hnamed.model_ne (by decide) tier
  have hsees : ∀ n, (clients.bedrock py).Sees
      (services.bedrock tier (callAsk py config cls args) n).atBedrock
      (attempts py config cls (clients.bedrock py) (args.at ((clients.bedrock py).getModel tier)) n) :=
    fun n => hserve.bedrock_reaches.sees_attempts hmodel args n
  have hretried : ∀ n < k, Retry.asksAgain (clients.bedrock py).isRetryableException
      (attempts py config cls (clients.bedrock py) (args.at ((clients.bedrock py).getModel tier)) n) =
        true := by
    intro n hn
    obtain ⟨failure, hreply, hrepeated⟩ := hbefore n hn
    obtain ⟨htransient, hne⟩ := (Bool.and_eq_true _ _).mp hrepeated
    have hkept : (Reply.failure failure).atBedrock = .failure failure :=
      Reply.atBedrock_of_not_lost (Bool.not_eq_true' failure.lost |>.mp hne)
    have hfailed := hsees n
    rw [hreply, hkept] at hfailed
    obtain ⟨e, he, hretryable⟩ := hfailed.of_failure
    exact Retry.asksAgain_eq_true_iff.mpr ⟨e, he, hretryable.trans htransient⟩
  have hlast := hsees k
  rw [Reply.atBedrock_of_lost hlost] at hlast
  obtain ⟨e, he, hfatal⟩ := hlast.of_failure
  have hrun := Retry.retrying_eq_of_first hk hretried (by rw [he]; exact hfatal)
  have hreraised : callResult py cls (clients.bedrock py)
      (args.at ((clients.bedrock py).getModel tier)) (.error e) = .error (.reraised e) := by
    rw [callResult, hfatal]
    rfl
  refine ⟨e, ?_⟩
  unfold LLMProvider.call structuredCall
  rw [hrun, he]
  exact congrArg (Prod.mk (k + 1)) hreraised

/-- **The providers are interchangeable.** A call to the model of a tier takes as many attempts and ends
alike through two providers whose attempts come to the same replies: with the same value, or with a
`StructuredCallError`, or with an exception of the client. Only Bedrock ends at an attempt that is lost. -/
theorem providers_interchangeable (hserve : clients.Serve py services) (hnamed : clients.ModelsNamed)
    (tier : ModelTier) (args : CallArguments M) :
    ((∀ n ≤ (config.llmMaxRetries - 1).toNat,
        services.anthropic tier (callAsk py config cls args) n =
          services.openRouter tier (callAsk py config cls args) n) →
      ((clients.anthropic py).call py config cls tier args).1 =
          ((clients.openRouter py).call py config cls tier args).1 ∧
        SameOutcome ((clients.anthropic py).call py config cls tier args).2
          ((clients.openRouter py).call py config cls tier args).2) ∧
      ((∀ n ≤ (config.llmMaxRetries - 1).toNat,
          services.anthropic tier (callAsk py config cls args) n =
            services.bedrock tier (callAsk py config cls args) n ∧
          (services.bedrock tier (callAsk py config cls args) n).lost = false) →
        ((clients.anthropic py).call py config cls tier args).1 =
            ((clients.bedrock py).call py config cls tier args).1 ∧
          SameOutcome ((clients.anthropic py).call py config cls tier args).2
            ((clients.bedrock py).call py config cls tier args).2) ∧
      ∀ k ≤ (config.llmMaxRetries - 1).toNat,
        (∀ n < k, ∃ failure : Failure,
          services.bedrock tier (callAsk py config cls args) n = .failure failure ∧
            failure.repeatedByBedrock = true) →
        (services.bedrock tier (callAsk py config cls args) k).lost = true →
          ∃ e, (clients.bedrock py).call py config cls tier args = (k + 1, .error (.reraised e)) := by
  have hanthropic : (clients.anthropic py).getModel tier ≠ "" := hnamed.model_ne (by decide) tier
  have hbedrock : (clients.bedrock py).getModel tier ≠ "" := hnamed.model_ne (by decide) tier
  have hopenRouter : (clients.openRouter py).getModel tier ≠ "" := hnamed.model_ne (by decide) tier
  refine ⟨fun hsame => ?_, fun hsame => ?_, fun k hk hbefore hlost => ?_⟩
  · exact call_agree hserve.anthropic_reaches hserve.openRouter_reaches hanthropic hopenRouter args hsame
  · refine call_agree hserve.anthropic_reaches hserve.bedrock_reaches hanthropic hbedrock args
      fun n hn => ?_
    obtain ⟨heq, hkept⟩ := hsame n hn
    rw [heq, Reply.atBedrock_of_not_lost hkept]
  · exact hserve.bedrock_call_of_lost hnamed hk hbefore hlost

end interchangeable

/-- What is replied when the model calls the tool that it is given. -/
def toolContent (tool : String) : List ContentBlock :=
  ((toolModel? tool).map fun m => .toolUse tool (replyInput m)).toList

/-- A service that throttles the first attempts of every call. -/
def throttledService (k : ℕ) : ModelService := fun _ ask n =>
  if n < k then .failure .throttled else .message (toolContent ask.toolName)

/-- Services of which only the client of OpenRouter gets over it by itself. -/
def throttledServices : ModelServices where
  anthropic := throttledService 2
  bedrock := throttledService 2
  openRouter := throttledService 0

/-- The client libraries over it. -/
def throttledClients : LLMClients where
  environ := .empty
  jsonLoads s := JsonCodec.loads s.toList
  connect _ := .ok ()
  create body n :=
    if n < 2 then .error (.rateLimitError "Too many requests")
    else .ok (((AnthropicProvider.read? body).map fun read => toolContent read.2.toolName).getD [])
  converse body n :=
    if n < 2 then .error (.clientError (some "ThrottlingException") "Too many requests")
    else .ok (((BedrockProvider.read? body).map fun read => toolContent read.2.toolName).getD [])
  completions body _ :=
    .ok ((((OpenRouterProvider.read? body).map fun read => toolContent read.2.toolName).getD
      []).filterMap ContentBlock.call? |>.map fun call =>
        { name := call.1, arguments := String.ofList (JsonCodec.dumps call.2) })
  anthropicException e := .raised "APIError" e.str
  bedrockException e := .raised "ClientError" e.str
  openRouterException e := .raised "APIError" e.str

theorem wellFormed_of_mem_toolContent {tool : String} {call : String × Json}
    (h : call ∈ (toolContent tool).filterMap ContentBlock.call?) : JsonCodec.WellFormed call.2 := by
  unfold toolContent at h
  cases htool : toolModel? tool with
  | none =>
    rw [htool] at h
    exact absurd h List.not_mem_nil
  | some m =>
    rw [htool] at h
    obtain rfl := List.mem_singleton.mp h
    exact wellFormed_replyInput m

theorem serve_throttledClients : throttledClients.Serve .plain throttledServices where
  anthropic body tier ask hread n := by
    unfold throttledServices throttledService throttledClients
    dsimp only
    split_ifs
    · exact .throttled _
    · rw [hread]
      exact .message _
  bedrock body tier ask hread n := by
    unfold throttledServices throttledService throttledClients
    dsimp only
    split_ifs
    · exact .throttled _
    · rw [hread]
      exact .message _
  openRouter body tier ask hread n := by
    unfold throttledServices throttledService throttledClients
    dsimp only
    rw [if_neg (Nat.not_lt_zero n), hread]
    refine .message _ _ ?_
    rw [List.map_map]
    refine List.map_congr_left fun call hcall => Prod.ext rfl ?_
    have hloads : JsonCodec.loads (JsonCodec.dumps call.2) = some call.2 :=
      JsonCodec.loads_dumps (wellFormed_of_mem_toolContent hcall)
    simpa using hloads

theorem modelsNamed_throttledClients : throttledClients.ModelsNamed :=
  fun _ _ _ h => Option.some_ne_none _ h.symm

def summaryArguments : CallArguments OutputModel where
  system := "Summarise the reference."
  userMessage := "She was a great colleague."
  outputModel := .finalSummary

theorem providers_interchangeable_throttled :
    ((throttledClients.anthropic .plain).call .plain ⟨1024, 4⟩ replyModels.classes .reasoning
        summaryArguments).1 =
      ((throttledClients.bedrock .plain).call .plain ⟨1024, 4⟩ replyModels.classes .reasoning
        summaryArguments).1 ∧
    SameOutcome
      ((throttledClients.anthropic .plain).call .plain ⟨1024, 4⟩ replyModels.classes .reasoning
        summaryArguments).2
      ((throttledClients.bedrock .plain).call .plain ⟨1024, 4⟩ replyModels.classes .reasoning
        summaryArguments).2 := by
  refine (providers_interchangeable serve_throttledClients modelsNamed_throttledClients .reasoning
    summaryArguments).2.1 fun n _ => ⟨rfl, ?_⟩
  unfold throttledServices throttledService
  dsimp only
  split_ifs <;> rfl

/-! ### Providers that answer the same -/

/-- The model as a provider. -/
def ModelAnswers.toProvider (answers : ModelAnswers) : Provider where
  getModel _ := ""
  answer rq := .ok (answers (rq.system, rq.userMessage) rq.outputModel)

theorem ModelAnswers.answersAs_toProvider (answers : ModelAnswers) : answers.toProvider.AnswersAs answers :=
  fun _ _ _ => rfl

section same

variable {env : Env} {llm llm' : Provider} {answers : ModelAnswers} {subj : Subject} {ref : ReferenceInput}
  {c : CandidateBatchInput} {first first' : ℕ → Bool}

/-- How a run ends is decided by the call for the overall summary. -/
theorem candidateGraph_invoke_result {llm : CandidateLLM} (h : c.references ≠ []) :
    ((candidateGraph env llm).invoke recursionLimit c.inputState).result =
      (llm.forOverall.structuredCall (overallPrompts env c.subject (c.results env llm)) .overallSummary
        .reasoning >>= fun result => pure (c.finalState env llm result.summary)).result := by
  rw [candidateGraph_invoke h, Issue.bind_of_ok rfl]

namespace Provider.AnswersAs

theorem explained_eq (h : llm.AnswersAs answers) (h' : llm'.AnswersAs answers) (ds : List Discrepancy) :
    (explained env llm ds).result = (explained env llm' ds).result := by
  unfold explained
  split_ifs
  · rw [h.result_bind, h'.result_bind]
  · rfl

theorem gather_eq (h : llm.AnswersAs answers) (h' : llm'.AnswersAs answers) :
    (gather env llm subj ref).result = (gather env llm' subj ref).result := by
  unfold gather
  cases ref.type with
  | REF1 =>
    rw [Issue.result_bind, Issue.result_bind]
    refine congrArg _ (funext fun _ => ?_)
    unfold gatherOpenEnded
    rw [h.result_both_bind, h'.result_both_bind, Issue.result_bind, Issue.result_bind, h.explained_eq h']
  | REF2 =>
    rw [Issue.result_bind, Issue.result_bind]
    refine congrArg _ (funext fun form => ?_)
    unfold gatherYesNo
    split_ifs
    · rw [h.result_bind, h'.result_bind]
    · rfl

theorem review_eq (h : llm.AnswersAs answers) (h' : llm'.AnswersAs answers) :
    (review env llm subj ref).result = (review env llm' subj ref).result := by
  unfold review
  rw [Issue.result_bind, Issue.result_bind, h.gather_eq h']
  refine congrArg _ (funext fun ev => ?_)
  unfold summarized
  rw [bind_assoc, bind_assoc, h.result_bind, h'.result_bind]

theorem results_eq (h : llm.AnswersAs answers) (h' : llm'.AnswersAs answers) (c : CandidateBatchInput) :
    c.results env (llm.forCandidate first) = c.results env (llm'.forCandidate first') := by
  refine List.ext_getElem? fun i => ?_
  rw [CandidateBatchInput.getElem?_results, CandidateBatchInput.getElem?_results]
  have hreference : ((llm.forCandidate first).forReference i).AnswersAs answers := h
  have hreference' : ((llm'.forCandidate first').forReference i).AnswersAs answers := h'
  exact congrArg (Option.map · c.references[i]?)
    (funext fun ref => congrArg _ (hreference.review_eq hreference'))

theorem invoke_eq (h : llm.AnswersAs answers) (h' : llm'.AnswersAs answers) (c : CandidateBatchInput) :
    ((candidateGraph env (llm.forCandidate first)).invoke recursionLimit c.inputState).result =
      ((candidateGraph env (llm'.forCandidate first')).invoke recursionLimit c.inputState).result := by
  by_cases hnil : c.references = []
  · rw [candidateGraph_invoke_of_nil hnil, candidateGraph_invoke_of_nil hnil]
  · have hoverall : (llm.forCandidate first).forOverall.AnswersAs answers := h
    have hoverall' : (llm'.forCandidate first').forOverall.AnswersAs answers := h'
    have hresults : c.results env (llm.forCandidate first) = c.results env (llm'.forCandidate first') :=
      h.results_eq h' c
    rw [candidateGraph_invoke_result hnil, candidateGraph_invoke_result hnil, hoverall.result_bind,
      hoverall'.result_bind, hresults]
    unfold CandidateBatchInput.finalState CandidateBatchInput.scoredState
      CandidateBatchInput.crossCheckedState CandidateBatchInput.reviewedState
    rw [hresults]

end Provider.AnswersAs

theorem ModelAnswers.exists_invoke_eq (answers : ModelAnswers) (env : Env) (c : CandidateBatchInput)
    (first : ℕ → Bool) :
    ∃ s, ((candidateGraph env (answers.toProvider.forCandidate first)).invoke recursionLimit
      c.inputState).result = .ok s := by
  by_cases hnil : c.references = []
  · exact ⟨c.inputState, by rw [candidateGraph_invoke_of_nil hnil]; rfl⟩
  · have hoverall : (answers.toProvider.forCandidate first).forOverall.AnswersAs answers :=
      answers.answersAs_toProvider
    rw [candidateGraph_invoke_result hnil, hoverall.result_bind]
    exact ⟨_, rfl⟩

end same

/-! ### The candidate graph over any of them -/

/-- `get_provider`, with `DEFAULT_LLM_PROVIDER`. -/
def getProvider (py : PyText) (config : CallConfig) (models : PipelineModels) (clients : LLMClients)
    (defaultProvider : String) (name : Option String) : Except PyException Provider :=
  let name := py.lower ((name.filter (· ≠ "")).getD defaultProvider)
  if name = "anthropic" then do
    clients.connect name
    return (clients.anthropic py).toProvider py config models clients.anthropicException
  else if name = "bedrock" then do
    clients.connect name
    return (clients.bedrock py).toProvider py config models clients.bedrockException
  else if name = "openrouter" then do
    clients.connect name
    return (clients.openRouter py).toProvider py config models clients.openRouterException
  else .error (.valueError ("Unknown LLM_PROVIDER=" ++ py.reprStr name ++
    ". Expected one of: anthropic, bedrock, openrouter."))

/-- The service answers every call of the pipeline as the model does, if need be after attempts that fail
and are repeated. -/
def ModelService.AnswersAs (service : ModelService) (repeated : Failure → Bool) (py : PyText)
    (config : CallConfig) (models : PipelineModels) (answers : ModelAnswers) : Prop :=
  ∀ (prompts : String × String) (m : OutputModel) (tier : ModelTier), ∃ last < config.llmMaxRetries.toNat,
    let ask := callAsk py config models.classes
      { system := prompts.1, userMessage := prompts.2, outputModel := m }
    (∀ n < last, ∃ failure : Failure, service tier ask n = .failure failure ∧ repeated failure = true) ∧
    ∃ content input, service tier ask last = .message content ∧
      BedrockProvider.extractToolInput content (toolName py models.classes m) = some input ∧
      models.modelValidate m input = .ok (answers prompts m)

/-- The services of all providers do, each after failures of its own. -/
structure ModelServices.AnswerAs (services : ModelServices) (py : PyText) (config : CallConfig)
    (models : PipelineModels) (answers : ModelAnswers) : Prop where
  anthropic : services.anthropic.AnswersAs Failure.transient py config models answers
  bedrock : services.bedrock.AnswersAs Failure.repeatedByBedrock py config models answers
  openRouter : services.openRouter.AnswersAs Failure.transient py config models answers

section choice

variable {env : Env} {config : CallConfig} {models : PipelineModels} {clients : LLMClients}
  {service : ModelService} {services : ModelServices} {answers : ModelAnswers} {c : CandidateBatchInput}

theorem ModelService.AnswersAs.atBedrock {py : PyText}
    (h : service.AnswersAs Failure.repeatedByBedrock py config models answers) :
    ModelService.AnswersAs (fun tier ask n => (service tier ask n).atBedrock) Failure.transient py config
      models answers := by
  intro prompts m tier
  obtain ⟨last, hlast, hbefore, content, input, hcontent, hinput, hvalue⟩ := h prompts m tier
  refine ⟨last, hlast, fun n hn => ?_, content, input, ?_, hinput, hvalue⟩
  · obtain ⟨failure, hreply, hrepeated⟩ := hbefore n hn
    obtain ⟨htransient, hne⟩ := (Bool.and_eq_true _ _).mp hrepeated
    refine ⟨failure, ?_, htransient⟩
    dsimp only
    rw [hreply]
    exact Reply.atBedrock_of_not_lost (Bool.not_eq_true' failure.lost |>.mp hne)
  · dsimp only
    rw [hcontent]
    rfl

theorem LLMProvider.Reaches.callsAnswered {E R : Type} {llm : LLMProvider E R} (h : llm.Reaches service)
    (hmodel : ∀ tier, llm.getModel tier ≠ "")
    (hanswers : service.AnswersAs Failure.transient env.toPyText config models answers) :
    CallsAnswered env models answers config llm := by
  intro prompts m tier
  obtain ⟨last, hlast, hbefore, content, input, hcontent, hinput, hvalue⟩ := hanswers prompts m tier
  let args : CallArguments OutputModel := { system := prompts.1, userMessage := prompts.2, outputModel := m }
  have hsees : ∀ n, llm.Sees (service tier (callAsk env.toPyText config models.classes args) n)
      (attempts env.toPyText config models.classes llm (llm.request prompts m tier).callArguments n) :=
    fun n => h.sees_attempts (hmodel tier) args n
  refine ⟨last, hlast, fun n hn => ?_, ?_⟩
  · obtain ⟨failure, hreply, htransient⟩ := hbefore n hn
    have hfailed := hsees n
    rw [hreply] at hfailed
    obtain ⟨e, he, hretryable⟩ := hfailed.of_failure
    exact ⟨e, he, hretryable.trans htransient⟩
  · have hanswered := hsees last
    rw [hcontent] at hanswered
    obtain ⟨response, hresponse, hcall⟩ := hanswered.of_message
    exact ⟨response, input, hresponse, (hcall _).trans hinput, hvalue⟩

theorem answersAs_of_getProvider (hserve : clients.Serve env.toPyText services) (hnamed : clients.ModelsNamed)
    (hanswers : services.AnswerAs env.toPyText config models answers) {defaultProvider : String}
    {name : Option String} {provider : Provider}
    (h : getProvider env.toPyText config models clients defaultProvider name = .ok provider) :
    provider.AnswersAs answers := by
  have hmodel : ∀ provider ∈ modelTiers.keys, ∀ tier, clients.model env.toPyText provider tier ≠ "" :=
    fun _ hprovider => hnamed.model_ne hprovider
  unfold getProvider at h
  dsimp only at h
  split_ifs at h
  · obtain ⟨-, -, hprovider⟩ := Except.bind_eq_ok.mp h
    obtain rfl := Except.pure_eq_ok.mp hprovider
    exact (hserve.anthropic_reaches.callsAnswered (hmodel _ (by decide)) hanswers.anthropic).answersAs
  · obtain ⟨-, -, hprovider⟩ := Except.bind_eq_ok.mp h
    obtain rfl := Except.pure_eq_ok.mp hprovider
    exact (hserve.bedrock_reaches.callsAnswered (hmodel _ (by decide)) hanswers.bedrock.atBedrock).answersAs
  · obtain ⟨-, -, hprovider⟩ := Except.bind_eq_ok.mp h
    obtain rfl := Except.pure_eq_ok.mp hprovider
    exact (hserve.openRouter_reaches.callsAnswered (hmodel _ (by decide)) hanswers.openRouter).answersAs

/-- **`LLM_PROVIDER` does not matter**: the graph of a candidate comes to the same state over every
provider that `get_provider` gives, however often its attempts were throttled or failed on the way and
whichever of two calls at the same time ends first. -/
theorem provider_choice_immaterial (hserve : clients.Serve env.toPyText services)
    (hnamed : clients.ModelsNamed) (hanswers : services.AnswerAs env.toPyText config models answers)
    (c : CandidateBatchInput) :
    ∃ s : CandidateState, ∀ (defaultProvider : String) (name : Option String) (provider : Provider),
      getProvider env.toPyText config models clients defaultProvider name = .ok provider →
        ∀ sentimentFirst : ℕ → Bool,
          ((candidateGraph env (provider.forCandidate sentimentFirst)).invoke recursionLimit
            c.inputState).result = .ok s := by
  obtain ⟨s, hs⟩ := answers.exists_invoke_eq env c fun _ => false
  refine ⟨s, fun defaultProvider name provider hprovider sentimentFirst => ?_⟩
  have hanswered : provider.AnswersAs answers := answersAs_of_getProvider hserve hnamed hanswers hprovider
  exact (hanswered.invoke_eq answers.answersAs_toProvider c).trans hs

end choice

theorem answersAs_throttledService {k : ℕ} (hk : k < 4) {repeated : Failure → Bool}
    (h : repeated .throttled = true) :
    (throttledService k).AnswersAs repeated .plain ⟨1024, 4⟩ replyModels cleanAnswers := by
  intro prompts m tier
  have hcontent : toolContent (toolName .plain replyModels.classes m) =
      [.toolUse (replyName m) (replyInput m)] := by
    have htool : toolModel? (toolName .plain replyModels.classes m) = some m := toolModel?_replyName m
    rw [toolContent, htool]
    rfl
  refine ⟨k, hk, fun n hn => ⟨.throttled, if_pos hn, h⟩, _, replyInput m,
    if_neg (Nat.lt_irrefl k), ?_, ?_⟩
  · change (List.findSome? _ (toolContent (toolName .plain replyModels.classes m))).bind notNone = _
    rw [hcontent]
    cases m <;> rfl
  · cases m <;> rfl

theorem answerAs_throttledServices :
    throttledServices.AnswerAs .plain ⟨1024, 4⟩ replyModels cleanAnswers where
  anthropic := answersAs_throttledService (k := 2) (by decide) rfl
  bedrock := answersAs_throttledService (k := 2) (by decide) rfl
  openRouter := answersAs_throttledService (k := 0) (by decide) rfl

theorem provider_choice_immaterial_throttled : ∃ s : CandidateState,
    ((candidateGraph sampleEnv (((throttledClients.bedrock .plain).toProvider .plain ⟨1024, 4⟩ replyModels
      throttledClients.bedrockException).forCandidate fun _ => false)).invoke recursionLimit
        pathsCandidate.inputState).result = .ok s ∧
    ((candidateGraph sampleEnv (((throttledClients.openRouter .plain).toProvider .plain ⟨1024, 4⟩
      replyModels throttledClients.openRouterException).forCandidate fun i => i = 0)).invoke recursionLimit
        pathsCandidate.inputState).result = .ok s := by
  have hserve : throttledClients.Serve sampleEnv.toPyText throttledServices := serve_throttledClients
  have hanswers : throttledServices.AnswerAs sampleEnv.toPyText ⟨1024, 4⟩ replyModels cleanAnswers :=
    answerAs_throttledServices
  obtain ⟨s, hs⟩ := provider_choice_immaterial hserve modelsNamed_throttledClients hanswers pathsCandidate
  exact ⟨s, hs "anthropic" (some "Bedrock") _ rfl _, hs "anthropic" (some "openrouter") _ rfl _⟩

end RefCheck
