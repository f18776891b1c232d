import RefCheck.Lib.Dict
import RefCheck.Model.Validation

/-!
# The store of the checks

`InMemoryCheckStore` of `api/store.py`: a record for each submitted check, and operations that
create, read and update one. An update is the sequence of attribute writes that `_update` performs:
those of its keyword arguments, in their order, and then the time. `J` are the JSON values that a
result may be.
-/

namespace RefCheck

/-! ### Records -/

inductive CheckStatus where
  | queued
  | running
  | completed
  | failed
  deriving DecidableEq, Repr

namespace CheckStatus

def value : CheckStatus → String
  | queued => "queued"
  | running => "running"
  | completed => "completed"
  | failed => "failed"

/-- A status that a check ends with. -/
def Terminal (s : CheckStatus) : Prop := s = completed ∨ s = failed

end CheckStatus

/-- The time of a clock. -/
abbrev Instant := ℕ

structure CheckRecord (J : Type) where
  checkId : String
  status : CheckStatus := .queued
  createdAt : Instant
  updatedAt : Instant
  result : Option J := none
  error : Option String := none
  callbackUrl : Option String := none
  deriving DecidableEq

/-- An attribute of a record with the value to write to it. -/
inductive Attribute (J : Type) where
  | status (value : CheckStatus)
  | result (value : J)
  | error (value : String)
  | updatedAt (value : Instant)
  deriving DecidableEq

/-- `setattr(record, key, value)`. -/
def CheckRecord.setattr {J : Type} (record : CheckRecord J) : Attribute J → CheckRecord J
  | .status value => { record with status := value }
  | .result value => { record with result := some value }
  | .error value => { record with error := some value }
  | .updatedAt value => { record with updatedAt := value }

/-- The writes of `_update(check_id, **kwargs)`, in order. -/
def updateWrites {J : Type} (kwargs : List (Attribute J)) (now : Instant) : List (Attribute J) :=
  kwargs ++ [.updatedAt now]

/-- The keyword arguments of `mark_running`. -/
def runningKwargs (J : Type) : List (Attribute J) := [.status .running]

/-- The keyword arguments of `mark_completed`. -/
def completedKwargs {J : Type} (result : J) : List (Attribute J) :=
  [.status .completed, .result result]

/-- The keyword arguments of `mark_failed`. -/
def failedKwargs {J : Type} (error : String) : List (Attribute J) :=
  [.status .failed, .error error]

/-! ### The store -/

abbrev CheckStore (J : Type) := Dict String (CheckRecord J)

namespace CheckStore

variable {J : Type}

/-- `create`, with the ID that `uuid4` gives. -/
def create (store : CheckStore J) (checkId : String) (callbackUrl : Option String)
    (createdAt updatedAt : Instant) : CheckStore J :=
  store.set checkId { checkId, createdAt, updatedAt, callbackUrl }

/-- `_update`: of an unknown check nothing is written. -/
def update (store : CheckStore J) (checkId : String) (kwargs : List (Attribute J)) (now : Instant) :
    CheckStore J :=
  match store.get? checkId with
  | none => store
  | some record => store.set checkId ((updateWrites kwargs now).foldl CheckRecord.setattr record)

def markRunning (store : CheckStore J) (checkId : String) (now : Instant) : CheckStore J :=
  store.update checkId (runningKwargs J) now

def markCompleted (store : CheckStore J) (checkId : String) (result : J) (now : Instant) :
    CheckStore J :=
  store.update checkId (completedKwargs result) now

def markFailed (store : CheckStore J) (checkId : String) (error : String) (now : Instant) :
    CheckStore J :=
  store.update checkId (failedKwargs error) now

theorem checkId_foldl_setattr (writes : List (Attribute J)) (record : CheckRecord J) :
    (writes.foldl CheckRecord.setattr record).checkId = record.checkId := by
  induction writes generalizing record with
  | nil => rfl
  | cons a writes ih =>
    rw [List.foldl_cons, ih]
    cases a <;> rfl

theorem get?_update (store : CheckStore J) (checkId id : String) (kwargs : List (Attribute J))
    (now : Instant) :
    (store.update checkId kwargs now).get? id =
      if id = checkId then
        (store.get? checkId).map ((updateWrites kwargs now).foldl CheckRecord.setattr)
      else store.get? id := by
  unfold update
  by_cases hid : id = checkId
  · subst hid
    rw [if_pos rfl]
    cases h : store.get? id with
    | none => exact h
    | some record => exact Dict.get?_set_self _ _ _
  · rw [if_neg hid]
    cases store.get? checkId with
    | none => rfl
    | some record => exact Dict.get?_set_of_ne _ _ hid

theorem get?_create (store : CheckStore J) (checkId id : String) (callbackUrl : Option String)
    (createdAt updatedAt : Instant) :
    (store.create checkId callbackUrl createdAt updatedAt).get? id =
      if id = checkId then some { checkId, createdAt, updatedAt, callbackUrl } else store.get? id :=
  Dict.get?_set _ _ _ _

end CheckStore

/-! ### The responses -/

/-- `CheckStatusResponse`. -/
structure CheckStatusResponse (J : Type) where
  checkId : String
  status : String
  result : Option J
  error : Option String
  deriving DecidableEq

/-- The response about a record. -/
def CheckRecord.response {J : Type} (record : CheckRecord J) : CheckStatusResponse J where
  checkId := record.checkId
  status := record.status.value
  result := record.result
  error := record.error

/-- `get_check`. -/
def getCheck {J : Type} (store : CheckStore J) (checkId : String) :
    Except HTTPException (CheckStatusResponse J) :=
  match store.get? checkId with
  | none => .error ⟨404, "check_id not found"⟩
  | some record => .ok record.response

end RefCheck
