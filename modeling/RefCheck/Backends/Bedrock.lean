import RefCheck.Backends.Items
import RefCheck.Lib.Url

/-!
# The Bedrock backend

`llm/batch/bedrock_batch.py`: one job for each model, whose requests are the lines of a file and whose
results are the lines of any number of files, under record IDs made of the custom IDs. What the
services come to and how a wait ends are parameters, and so is the JSON codec.
-/

namespace RefCheck.Bedrock

/-! ### Around the backend -/

/-- The settings of `config.py` for this backend. -/
structure Config where
  s3Bucket : String
  roleArn : String
  jobNamePrefix : String
  s3InputPrefix : String
  s3OutputPrefix : String

/-- The arguments of `create_model_invocation_job`. -/
structure JobRequest where
  jobName : String
  roleArn : String
  modelId : String
  inputUri : String
  outputUri : String

/-- The services and libraries that the backend uses. -/
structure Service where
  /-- The digits of `uuid4` in the name of the job of a model. -/
  uuidHex : String → String
  jsonDumps : Json → String
  jsonLoads : String → Except PyException Json
  /-- `str` of a JSON value. -/
  jsonStr : Json → String
  hostChecks : Url.HostChecks
  putObject (bucket key body : String) : Except PyException Unit
  createModelInvocationJob : JobRequest → Except PyException String
  /-- How `_wait_for_single_job` ends. -/
  waitForSingleJob : String → Except PyException Unit
  /-- The URI of the output in the description of a job. -/
  getModelInvocationJob : String → Except PyException String
  /-- The pages of a listing, each with the keys of its `Contents` if it has them. -/
  paginate (bucket keyPrefix : String) : Except PyException (List (Option (List String)))
  getObject (bucket key : String) : Except PyException String

/-! ### Submitting -/

/-- `_sanitize_record_id`. -/
def sanitizeRecordId (customId : String) : String := Text.replace ':' '_' customId

/-- The names of the settings that are missing. -/
def Config.missing (config : Config) : List String :=
  (if config.s3Bucket = "" then ["BEDROCK_BATCH_S3_BUCKET"] else []) ++
    if config.roleArn = "" then ["BEDROCK_BATCH_ROLE_ARN"] else []

/-- `_require_config`. -/
def requireConfig (config : Config) : Except PyException Unit :=
  if config.missing = [] then .ok () else
    .error (.raised "BatchError" ("bedrock_batch.py requires the following config/env vars to be set: "
      ++ ", ".intercalate config.missing ++ ". See .env.example."))

section submit

variable {M : Type} (py : PyText) (llmMaxTokens : ℤ) (cls : ModelClasses M) (config : Config)
  (service : Service)

/-- `_build_model_input`. -/
def buildModelInput (item : RequestItem M) : Json :=
  requestBody py llmMaxTokens cls ("anthropic_version", .str "bedrock-2023-05-31") item

/-- One line of the input file. -/
def inputLine (item : RequestItem M) : String :=
  service.jsonDumps (.obj [("recordId", .str (sanitizeRecordId item.customId)),
    ("modelInput", buildModelInput py llmMaxTokens cls item)])

/-- `_submit_single_model_job`. -/
def submitSingleModelJob (model : String) (items : List (RequestItem M)) :
    Except PyException String := do
  requireConfig config
  let jobName := config.jobNamePrefix ++ "-" ++ service.uuidHex model
  let inputKey := config.s3InputPrefix ++ "/" ++ jobName ++ ".jsonl"
  let outputPrefix := config.s3OutputPrefix ++ "/" ++ jobName ++ "/"
  service.putObject config.s3Bucket inputKey
    ("\n".intercalate (items.map (inputLine py llmMaxTokens cls service)))
  service.createModelInvocationJob {
    jobName
    roleArn := config.roleArn
    modelId := model
    inputUri := "s3://" ++ config.s3Bucket ++ "/" ++ inputKey
    outputUri := "s3://" ++ config.s3Bucket ++ "/" ++ outputPrefix }

/-- `submit_batch`: the jobs by model. -/
def submitBatch (items : List (RequestItem M)) : Except PyException (Dict String String) := do
  if items = [] then
    throw (.valueError "submit_batch called with an empty item list")
  (Dict.group (items.map fun item => (item.model, item))).entries.foldlM
    (fun jobs group => do
      let jobArn ← submitSingleModelJob py llmMaxTokens cls config service group.1 group.2
      return jobs.set group.1 jobArn) .empty

/-- `wait_for_batch`. -/
def waitForBatch (jobs : Dict String String) : Except PyException Unit :=
  forM jobs.entries fun job => service.waitForSingleJob job.2

end submit

/-! ### Reading a record -/

/-- The name of the type of a JSON value in Python. -/
def typeName : Json → String
  | .null => "NoneType"
  | .bool _ => "bool"
  | .num literal => if literal.toList.all (fun c => c.isDigit || c = '-') then "int" else "float"
  | .str _ => "str"
  | .arr _ => "list"
  | .obj _ => "dict"

/-- The members of a value on which `get` is called. -/
def asDict : Json → Except PyException (List (String × Json))
  | .obj members => .ok members
  | _ => .error (.attributeError "get")

/-- The items of a value that is iterated over. -/
def iterate : Json → Except PyException (List Json)
  | .arr items => .ok items
  | .obj members => .ok (members.map fun member => .str member.1)
  | .str value => .ok (value.toList.map fun c => .str (String.ofList [c]))
  | json => .error (.raised "TypeError" ("'" ++ typeName json ++ "' object is not iterable"))

/-- The input of the first block that calls the tool. -/
def firstToolUse (tool : String) : List Json → Except PyException (Option Json)
  | [] => .ok none
  | block :: blocks => do
    let members ← asDict block
    if (Json.obj members).getStr? "type" = some "tool_use" ∧
        (Json.obj members).getStr? "name" = some tool then
      match members.lookup "input" with
      | some input => return some input
      | none => throw (.keyError "'input'")
    else firstToolUse tool blocks

/-- What a record is looked up under: nothing that is no string is a record ID. -/
def lookupRecordId (customIds : Dict String String) : Option Json → Except PyException (Option String)
  | some (.str recordId) => .ok (customIds.get? recordId)
  | some (.arr items) => .error (.raised "TypeError" ("unhashable type: '" ++ typeName (.arr items)
      ++ "'"))
  | some (.obj members) => .error (.raised "TypeError" ("unhashable type: '" ++ typeName (.obj members)
      ++ "'"))
  | _ => .ok none

section fetch

variable {M : Type} (py : PyText) {cls : ModelClasses M} (service : Service)

/-- `_parse_record`. -/
def parseRecord (record : List (String × Json)) (item : RequestItem M) (customId : String) :
    Except PyException (ItemResult cls) :=
  match record.lookup "modelOutput" with
  | none => .ok (.failed customId (match record.lookup "error" with
    | some error => service.jsonStr error
    | none => "unknown error (no modelOutput in record)"))
  | some modelOutput => do
    let output ← asDict modelOutput
    let content ← iterate ((output.lookup "content").getD (.arr []))
    match ← firstToolUse (toolName py cls item.outputModel) content with
    | some input => return validatedResult customId item.outputModel input
    | none => return .failed customId "model did not return expected tool call"

/-! ### Fetching -/

/-- `_parse_s3_uri`. -/
def parseS3Uri (uri : String) : Except PyException (String × String) :=
  match Url.urlparse service.hostChecks uri with
  | .ok parsed => .ok (parsed.netloc, String.ofList (parsed.path.toList.dropWhile (· = '/')))
  | .error message => .error (.valueError message)

/-- The custom ID and the members of the record on a line, if it is a record of one of the items. -/
def recordOfLine (customIds : Dict String String) (line : String) :
    Except PyException (Option (String × List (String × Json))) :=
  if Text.strip line = "" then .ok none else do
    let record ← service.jsonLoads line
    let members ← asDict record
    let customId ← lookupRecordId customIds (members.lookup "recordId")
    return customId.map fun id => (id, members)

/-- Stores the result of a record. -/
def storeRecord (items : Dict String (RequestItem M)) (results : Dict String (ItemResult cls))
    (record : String × List (String × Json)) : Except PyException (Dict String (ItemResult cls)) :=
  match items.get? record.1 with
  | none => .error (.keyError (py.reprStr record.1))
  | some item => do
    let result ← parseRecord py service record.2 item record.1
    return results.set record.1 result

/-- The body of the loop over the lines of a file. -/
def readLine (items : Dict String (RequestItem M)) (customIds : Dict String String)
    (results : Dict String (ItemResult cls)) (line : String) :
    Except PyException (Dict String (ItemResult cls)) := do
  match ← recordOfLine service customIds line with
  | none => return results
  | some record => storeRecord py service items results record

/-- Whether an object is a result file. -/
def isOutputKey (key : String) : Bool := Text.endsWith ".jsonl.out" key || Text.endsWith ".jsonl" key

/-- The body of the loop over the objects. -/
def readObject (items : Dict String (RequestItem M)) (customIds : Dict String String) (bucket : String)
    (results : Dict String (ItemResult cls)) (key : String) :
    Except PyException (Dict String (ItemResult cls)) :=
  if isOutputKey key then do
    let body ← service.getObject bucket key
    (Text.splitlines body).foldlM (readLine py service items customIds) results
  else .ok results

/-- `_fetch_single_job_results`. -/
def fetchSingleJobResults (jobArn : String) (items : Dict String (RequestItem M)) :
    Except PyException (Dict String (ItemResult cls)) := do
  let outputUri ← service.getModelInvocationJob jobArn
  let location ← parseS3Uri service outputUri
  let customIds := Dict.ofPairs (items.keys.map fun id => (sanitizeRecordId id, id))
  let pages ← service.paginate location.1 location.2
  let results ← pages.foldlM (fun results page =>
    (page.getD []).foldlM (readObject py service items customIds location.1) results) .empty
  return fillMissing "no output record found for this custom_id" results items.keys

/-- `fetch_batch_results`. -/
def fetchBatchResults (jobs : Dict String String) (items : Dict String (RequestItem M)) :
    Except PyException (Dict String (ItemResult cls)) :=
  jobs.entries.foldlM (fun all job => do
    let results ← fetchSingleJobResults py service job.2
      (items.filterValues fun item => item.model = job.1)
    return all.update results) .empty

/-- `run_batch_sync`. -/
def runBatchSync (llmMaxTokens : ℤ) (config : Config) (items : List (RequestItem M)) :
    Except PyException (Dict String (ItemResult cls)) := do
  let byId := itemsById items
  let jobs ← submitBatch py llmMaxTokens cls config service items
  waitForBatch service jobs
  fetchBatchResults py service jobs byId

end fetch

end RefCheck.Bedrock
