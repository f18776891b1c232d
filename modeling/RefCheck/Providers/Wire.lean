import RefCheck.Providers.StructuredCall

/-!
# The requests of the providers

`_execute` and what it builds, for the three providers: the arguments of a call as the body of a request.
The APIs name and nest the same things differently. What each of them reads in a body is an `Ask` to a
model, and of the body that its provider builds that is the call (`AnthropicProvider.read_createBody` and
its companions). The warning about a prompt that is too short to be cached is left out.
-/

namespace RefCheck

/-! ### The bodies -/

/-- The description of the tool. -/
def toolDescription : String := "Emit the extracted result as the requested schema."

namespace AnthropicProvider

/-- `_build_system_param`. -/
def buildSystemParam (system : String) (enableCache : Bool) : Json :=
  if enableCache then
    .arr [.obj [("type", .str "text"), ("text", .str system),
      ("cache_control", .obj [("type", .str "ephemeral")])]]
  else .str system

/-- What `_execute` passes to `messages.create`. -/
def createBody (args : ExecuteArguments) : Json :=
  .obj [("model", .str args.model), ("max_tokens", .num (toString args.maxTokens)),
    ("system", buildSystemParam args.system args.enableCache),
    ("messages", .arr [.obj [("role", .str "user"), ("content", .str args.userMessage)]]),
    ("tools", .arr [.obj [("name", .str args.toolName), ("description", .str toolDescription),
      ("input_schema", .obj args.schema)]]),
    ("tool_choice", .obj [("type", .str "tool"), ("name", .str args.toolName)])]

end AnthropicProvider

namespace BedrockProvider

/-- `_build_system_param`. -/
def buildSystemParam (system : String) (enableCache : Bool) : Json :=
  .arr (.obj [("text", .str system)] ::
    if enableCache then [.obj [("cachePoint", .obj [("type", .str "default")])]] else [])

/-- What `_execute` passes to `converse`. -/
def converseBody (args : ExecuteArguments) : Json :=
  .obj [("modelId", .str args.model), ("system", buildSystemParam args.system args.enableCache),
    ("messages", .arr [.obj [("role", .str "user"),
      ("content", .arr [.obj [("text", .str args.userMessage)]])]]),
    ("toolConfig", .obj [
      ("tools", .arr [.obj [("toolSpec", .obj [("name", .str args.toolName),
        ("description", .str toolDescription), ("inputSchema", .obj [("json", .obj args.schema)])])]]),
      ("toolChoice", .obj [("tool", .obj [("name", .str args.toolName)])])]),
    ("inferenceConfig", .obj [("maxTokens", .num (toString args.maxTokens))])]

end BedrockProvider

namespace OpenRouterProvider

/-- `_build_system_message`. -/
def buildSystemMessage (system : String) (enableCache : Bool) : Json :=
  if enableCache then
    .obj [("role", .str "system"), ("content", .arr [.obj [("type", .str "text"), ("text", .str system),
      ("cache_control", .obj [("type", .str "ephemeral")])]])]
  else .obj [("role", .str "system"), ("content", .str system)]

/-- What `_execute` passes to `chat.completions.create`. -/
def completionsBody (args : ExecuteArguments) : Json :=
  .obj [("model", .str args.model), ("max_tokens", .num (toString args.maxTokens)),
    ("messages", .arr [buildSystemMessage args.system args.enableCache,
      .obj [("role", .str "user"), ("content", .str args.userMessage)]]),
    ("tools", .arr [.obj [("type", .str "function"), ("function", .obj [("name", .str args.toolName),
      ("description", .str toolDescription), ("parameters", .obj args.schema)])]]),
    ("tool_choice", .obj [("type", .str "function"),
      ("function", .obj [("name", .str args.toolName)])])]

end OpenRouterProvider

/-! ### What the APIs read -/

/-- What a model is asked: a system prompt, which may be cached, a message, and a tool that it has to
call. -/
structure Ask where
  system : String
  cached : Bool
  userMessage : String
  toolName : String
  schema : List (String × Json)
  maxTokens : Json

def ExecuteArguments.ask (args : ExecuteArguments) : Ask where
  system := args.system
  cached := args.enableCache
  userMessage := args.userMessage
  toolName := args.toolName
  schema := args.schema
  maxTokens := .num (toString args.maxTokens)

theorem ExecuteArguments.ask_bind (args : ExecuteArguments) {system? : Option (String × Bool)}
    (h : system? = some (args.system, args.enableCache)) :
    (system?.bind fun read => (guard (some args.toolName = some args.toolName) : Option Unit).bind fun _ =>
      some (args.model, { args.ask with system := read.1, cached := read.2 })) =
      some (args.model, args.ask) := by
  have hcalled : (guard (some args.toolName = some args.toolName) : Option Unit) = some () := if_pos rfl
  rw [h, hcalled]
  rfl

namespace Json

def members? : Json → Option (List (String × Json))
  | obj members => some members
  | _ => none

/-- The only item of a list. -/
def only? : Json → Option Json
  | arr [item] => some item
  | _ => none

/-- A text, or a block with a text that may be marked for the cache. -/
def systemText? : Json → Option (String × Bool)
  | str system => some (system, false)
  | arr [block] => do
    let system ← block.getStr? "text"
    return (system, (block.get? "cache_control").isSome)
  | _ => none

end Json

open Json (only?)

namespace AnthropicProvider

/-- What the Messages API reads in a body: the model, and what it is asked. -/
def read? (body : Json) : Option (String × Ask) := do
  let model ← body.getStr? "model"
  let maxTokens ← body.get? "max_tokens"
  let (system, cached) ← (← body.get? "system").systemText?
  let userMessage ← (← only? (← body.get? "messages")).getStr? "content"
  let tool ← only? (← body.get? "tools")
  let toolName ← tool.getStr? "name"
  let schema ← (← tool.get? "input_schema").members?
  guard ((← body.get? "tool_choice").getStr? "name" = some toolName)
  return (model, { system, cached, userMessage, toolName, schema, maxTokens })

theorem systemText_buildSystemParam (system : String) (enableCache : Bool) :
    (buildSystemParam system enableCache).systemText? = some (system, enableCache) := by
  cases enableCache <;> rfl

theorem read_createBody (args : ExecuteArguments) :
    read? (createBody args) = some (args.model, args.ask) :=
  args.ask_bind (systemText_buildSystemParam args.system args.enableCache)

end AnthropicProvider

namespace BedrockProvider

/-- A block with a text, and a mark for the cache behind it. -/
def systemText? : Json → Option (String × Bool)
  | .arr [block] => (block.getStr? "text").map fun system => (system, false)
  | .arr [block, mark] => do
    let system ← block.getStr? "text"
    let _ ← mark.get? "cachePoint"
    return (system, true)
  | _ => none

/-- What the Converse API reads. -/
def read? (body : Json) : Option (String × Ask) := do
  let model ← body.getStr? "modelId"
  let maxTokens ← (← body.get? "inferenceConfig").get? "maxTokens"
  let (system, cached) ← systemText? (← body.get? "system")
  let userMessage ← (← only? (← (← only? (← body.get? "messages")).get? "content")).getStr? "text"
  let toolConfig ← body.get? "toolConfig"
  let tool ← (← only? (← toolConfig.get? "tools")).get? "toolSpec"
  let toolName ← tool.getStr? "name"
  let schema ← (← (← tool.get? "inputSchema").get? "json").members?
  guard ((← (← toolConfig.get? "toolChoice").get? "tool").getStr? "name" = some toolName)
  return (model, { system, cached, userMessage, toolName, schema, maxTokens })

theorem systemText_buildSystemParam (system : String) (enableCache : Bool) :
    systemText? (buildSystemParam system enableCache) = some (system, enableCache) := by
  cases enableCache <;> rfl

theorem read_converseBody (args : ExecuteArguments) :
    read? (converseBody args) = some (args.model, args.ask) :=
  args.ask_bind (systemText_buildSystemParam args.system args.enableCache)

end BedrockProvider

namespace OpenRouterProvider

/-- What a chat completions API reads. -/
def read? (body : Json) : Option (String × Ask) := do
  let model ← body.getStr? "model"
  let maxTokens ← body.get? "max_tokens"
  match ← body.get? "messages" with
  | .arr [systemMessage, message] =>
    let (system, cached) ← (← systemMessage.get? "content").systemText?
    let userMessage ← message.getStr? "content"
    let tool ← (← only? (← body.get? "tools")).get? "function"
    let toolName ← tool.getStr? "name"
    let schema ← (← tool.get? "parameters").members?
    guard ((← (← body.get? "tool_choice").get? "function").getStr? "name" = some toolName)
    return (model, { system, cached, userMessage, toolName, schema, maxTokens })
  | _ => none

theorem systemText_buildSystemMessage (system : String) (enableCache : Bool) :
    ((buildSystemMessage system enableCache).get? "content").bind Json.systemText? =
      some (system, enableCache) := by
  cases enableCache <;> rfl

theorem read_completionsBody (args : ExecuteArguments) :
    read? (completionsBody args) = some (args.model, args.ask) := by
  have hread := args.ask_bind (systemText_buildSystemMessage args.system args.enableCache)
  rwa [Option.bind_assoc] at hread

end OpenRouterProvider

end RefCheck
