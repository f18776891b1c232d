import RefCheck.Graphs.CandidateGraph
import RefCheck.Service.Store

/-!
# The service

`submit_check`, `get_check` and `run_check` of the API as one system: requests come in at any time,
an accepted request adds a record to the store and a job that works on it, and the jobs and the polls
take their steps in any order. Every call of the store is one step. What `app.invoke` ends in, what a
callback meets and the IDs that `uuid4` gives are not determined; `toJson` is the conversion of a
result, which may raise.
-/

namespace RefCheck

/-! ### Requests and jobs -/

/-- `CandidateCheckRequest`. -/
structure CandidateCheckRequest extends CandidateBatchInput where
  callbackUrl : Option String := none
  deriving DecidableEq

/-- What `_send_callback` posts. -/
structure CallbackPayload (J : Type) where
  checkId : String
  status : CheckStatus
  result : Option J
  error : Option String
  deriving DecidableEq

def CheckRecord.payload {J : Type} (record : CheckRecord J) : CallbackPayload J where
  checkId := record.checkId
  status := record.status
  result := record.result
  error := record.error

/-- What is posted is the record of the check as a whole. -/
structure CallbackPayload.Carries {J : Type} (payload : CallbackPayload J) (checkId : String)
    (record : CheckRecord J) : Prop where
  checkId : payload.checkId = checkId
  status : payload.status = record.status
  result : payload.result = record.result
  error : payload.error = record.error

theorem CallbackPayload.Carries.payload {J : Type} {checkId : String} {record : CheckRecord J}
    (hid : record.checkId = checkId) : record.payload.Carries checkId record :=
  ⟨hid, rfl, rfl, rfl⟩

/-- How far the work on an accepted request is. -/
inductive JobState (J : Type) where
  /-- The record is created, the task is not added yet. -/
  | created
  | scheduled
  /-- `mark_running` was called. -/
  | running
  /-- The body of the `try` has the result, or has raised. -/
  | invoked (outcome : Except PyException J)
  /-- `mark_completed` or `mark_failed` was called. -/
  | marked
  /-- The record has a callback. -/
  | sending
  | finished

/-- The work on an accepted request: the rest of `submit_check`, then `run_check`. -/
structure Job (J : Type) where
  checkId : String
  request : CandidateCheckRequest
  state : JobState J

/-- What a job does once it has read its record: `if record and record.callback_url`. -/
def afterFetch {J : Type} : Option (CheckRecord J) → JobState J
  | none => .finished
  | some record => if stated record.callbackUrl = none then .finished else .sending

/-! ### The steps -/

/-- What a step of the service does, as seen from outside. -/
inductive Event (J : Type) where
  | rejected (request : CandidateCheckRequest) (response : HTTPException)
  | accepted (request : CandidateCheckRequest) (checkId : String)
  | scheduled (checkId : String)
  | markedRunning (checkId : String)
  | invoked (checkId : String)
  | markedCompleted (checkId : String)
  | markedFailed (checkId : String)
  | fetched (checkId : String)
  | callback (checkId url : String) (payload : CallbackPayload J) (delivered : Except PyException Unit)
  | polled (checkId : String) (response : Except HTTPException (CheckStatusResponse J))

/-- The check that a step is about. -/
def Event.checkId? {J : Type} : Event J → Option String
  | rejected _ _ => none
  | accepted _ checkId => some checkId
  | scheduled checkId => some checkId
  | markedRunning checkId => some checkId
  | invoked checkId => some checkId
  | markedCompleted checkId => some checkId
  | markedFailed checkId => some checkId
  | fetched checkId => some checkId
  | callback checkId _ _ _ => some checkId
  | polled checkId _ => some checkId

/-- A step of one job: what it does to the store, and the state it leads to. An exception in the body
of the `try` is caught, one of the callback is swallowed. -/
inductive JobStep {J : Type} (toJson : CandidateState → Except PyException J) (checkId : String)
    (store : CheckStore J) : JobState J → Event J → CheckStore J → JobState J → Prop
  | schedule : JobStep toJson checkId store .created (.scheduled checkId) store .scheduled
  | markRunning (now : Instant) :
      JobStep toJson checkId store .scheduled (.markedRunning checkId)
        (store.markRunning checkId now) .running
  | invoke (outcome : Except PyException CandidateState) :
      JobStep toJson checkId store .running (.invoked checkId) store
        (.invoked (outcome >>= toJson))
  | markCompleted (result : J) (now : Instant) :
      JobStep toJson checkId store (.invoked (.ok result)) (.markedCompleted checkId)
        (store.markCompleted checkId result now) .marked
  | markFailed (e : PyException) (now : Instant) :
      JobStep toJson checkId store (.invoked (.error e)) (.markedFailed checkId)
        (store.markFailed checkId e.str now) .marked
  | fetch :
      JobStep toJson checkId store .marked (.fetched checkId) store
        (afterFetch (store.get? checkId))
  | callback (record : CheckRecord J) (url : String) (delivered : Except PyException Unit)
      (hrecord : store.get? checkId = some record) (hurl : record.callbackUrl = some url) :
      JobStep toJson checkId store .sending (.callback checkId url record.payload delivered) store
        .finished

/-- The store with the jobs on its checks. -/
structure Service (J : Type) where
  store : CheckStore J
  jobs : List (Job J)

/-- The service when it starts. -/
def Service.initial (J : Type) : Service J := ⟨.empty, []⟩

/-- A step of the service. -/
inductive Service.Step {J : Type} (py : PyText) (toJson : CandidateState → Except PyException J) :
    Service J → Event J → Service J → Prop
  | reject (sv : Service J) (request : CandidateCheckRequest) (response : HTTPException)
      (hreject : submitCheck py request.toCandidateBatchInput = .error response) :
      Step py toJson sv (.rejected request response) sv
  | accept (sv : Service J) (request : CandidateCheckRequest) (checkId : String)
      (createdAt updatedAt : Instant)
      (haccept : submitCheck py request.toCandidateBatchInput = .ok ())
      (hfresh : sv.store.get? checkId = none) :
      Step py toJson sv (.accepted request checkId)
        ⟨sv.store.create checkId request.callbackUrl createdAt updatedAt,
          sv.jobs ++ [⟨checkId, request, .created⟩]⟩
  | job (sv : Service J) (i : ℕ) (job : Job J) (event : Event J) (store : CheckStore J)
      (state : JobState J) (hjob : sv.jobs[i]? = some job)
      (hstep : JobStep toJson job.checkId sv.store job.state event store state) :
      Step py toJson sv event ⟨store, sv.jobs.set i { job with state }⟩
  | poll (sv : Service J) (checkId : String) :
      Step py toJson sv (.polled checkId (getCheck sv.store checkId)) sv

end RefCheck
