import RefCheck.Lib.Transitions
import RefCheck.Service.Runner

/-!
# The life of a check

The store accepts any update of any record at any time; that every check goes from queued over
running to completed or failed, and has a result or an error exactly then, is due to the jobs. The
invariant ties each record to the state of the one job that works on it (`Service.Invariant`); one
step of a job moves both together (`JobStep.spec`), so every run keeps it.
-/

namespace RefCheck

open Transitions

variable {J : Type}

/-! ### Records and jobs -/

/-- A record without an outcome. -/
structure CheckRecord.Pending (record : CheckRecord J) (status : CheckStatus) : Prop where
  status : record.status = status
  result : record.result = none
  error : record.error = none

/-- A record with its outcome. -/
inductive CheckRecord.Ended (record : CheckRecord J) : Prop
  | completed (result : J) (hstatus : record.status = .completed)
      (hresult : record.result = some result) (herror : record.error = none)
  | failed (error : String) (hstatus : record.status = .failed) (hresult : record.result = none)
      (herror : record.error = some error)

/-- What the record of a check is while its job is in the state. -/
def JobState.Matches : JobState J → CheckRecord J → Prop
  | created, record => record.Pending .queued
  | scheduled, record => record.Pending .queued
  | running, record => record.Pending .running
  | invoked _, record => record.Pending .running
  | marked, record => record.Ended
  | sending, record => record.Ended
  | finished, record => record.Ended

/-- The records and the jobs belong to each other. -/
structure Service.Invariant (sv : Service J) : Prop where
  /-- No two jobs work on one check. -/
  distinct : (sv.jobs.map (·.checkId)).Nodup
  /-- The record of a job is as the job left it. -/
  matched : ∀ job ∈ sv.jobs, ∃ record, sv.store.get? job.checkId = some record ∧
    job.state.Matches record
  /-- Every record has its job. -/
  owned : ∀ checkId record, sv.store.get? checkId = some record →
    checkId ∈ sv.jobs.map (·.checkId)
  /-- A record is stored under its own ID. -/
  named : ∀ checkId record, sv.store.get? checkId = some record → record.checkId = checkId

/-- How the status of a check may move in one step. -/
inductive StatusStep : Option CheckStatus → Option CheckStatus → Prop
  | same (status : Option CheckStatus) : StatusStep status status
  | create : StatusStep none (some .queued)
  | start : StatusStep (some .queued) (some .running)
  | complete : StatusStep (some .running) (some .completed)
  | fail : StatusStep (some .running) (some .failed)

/-- The status of a check, if there is one. -/
def Service.status (checkId : String) (sv : Service J) : Option CheckStatus :=
  (sv.store.get? checkId).map (·.status)

/-! ### One step of a job -/

section job

variable {toJson : CandidateState → Except PyException J} {checkId : String}
  {store store' : CheckStore J} {state state' : JobState J} {event : Event J}

theorem afterFetch_matches {record : CheckRecord J} (h : record.Ended) :
    (afterFetch (some record)).Matches record := by
  unfold afterFetch
  dsimp only
  split_ifs
  · exact h
  · exact h

theorem pending_running {record : CheckRecord J} (h : record.Pending .queued) (now : Instant) :
    ((updateWrites (runningKwargs J) now).foldl CheckRecord.setattr record).Pending .running :=
  ⟨rfl, h.result, h.error⟩

theorem ended_completed {record : CheckRecord J} (h : record.Pending .running) (result : J)
    (now : Instant) :
    ((updateWrites (completedKwargs result) now).foldl CheckRecord.setattr record).Ended :=
  .completed result rfl rfl h.error

theorem ended_failed {record : CheckRecord J} (h : record.Pending .running) (error : String)
    (now : Instant) :
    ((updateWrites (failedKwargs error) now).foldl CheckRecord.setattr record).Ended :=
  .failed error rfl h.result rfl

theorem JobStep.get?_of_ne (h : JobStep toJson checkId store state event store' state') {id : String}
    (hid : id ≠ checkId) : store'.get? id = store.get? id := by
  cases h with
  | schedule => rfl
  | markRunning now => exact (CheckStore.get?_update _ _ _ _ _).trans (if_neg hid)
  | invoke outcome => rfl
  | markCompleted result now => exact (CheckStore.get?_update _ _ _ _ _).trans (if_neg hid)
  | markFailed e now => exact (CheckStore.get?_update _ _ _ _ _).trans (if_neg hid)
  | fetch => rfl
  | callback record url delivered hrecord hurl => rfl

theorem get?_update_self {record : CheckRecord J} (hrecord : store.get? checkId = some record)
    (kwargs : List (Attribute J)) (now : Instant) :
    (store.update checkId kwargs now).get? checkId =
      some ((updateWrites kwargs now).foldl CheckRecord.setattr record) := by
  rw [CheckStore.get?_update, if_pos rfl, hrecord, Option.map_some]

theorem JobStep.spec (h : JobStep toJson checkId store state event store' state')
    {record : CheckRecord J} (hrecord : store.get? checkId = some record)
    (hmatches : state.Matches record) :
    ∃ record', store'.get? checkId = some record' ∧ state'.Matches record' ∧
      StatusStep (some record.status) (some record'.status) := by
  cases h with
  | schedule => exact ⟨record, hrecord, hmatches, .same _⟩
  | markRunning now =>
    have hpending : record.Pending .queued := hmatches
    refine ⟨_, get?_update_self hrecord _ _, pending_running hpending now, ?_⟩
    rw [hpending.status]
    exact .start
  | invoke outcome => exact ⟨record, hrecord, hmatches, .same _⟩
  | markCompleted result now =>
    have hpending : record.Pending .running := hmatches
    refine ⟨_, get?_update_self hrecord _ _, ended_completed hpending result now, ?_⟩
    rw [hpending.status]
    exact .complete
  | markFailed e now =>
    have hpending : record.Pending .running := hmatches
    refine ⟨_, get?_update_self hrecord _ _, ended_failed hpending e.str now, ?_⟩
    rw [hpending.status]
    exact .fail
  | fetch =>
    refine ⟨record, hrecord, ?_, .same _⟩
    rw [hrecord]
    exact afterFetch_matches hmatches
  | callback record' url delivered hrecord' hurl => exact ⟨record, hrecord, hmatches, .same _⟩

theorem JobStep.checkId_eq (h : JobStep toJson checkId store state event store' state')
    {record record' : CheckRecord J} (hrecord : store.get? checkId = some record)
    (hrecord' : store'.get? checkId = some record') : record'.checkId = record.checkId := by
  have hsame : store.get? checkId = some record' → record'.checkId = record.checkId := fun h =>
    congrArg CheckRecord.checkId (Option.some.inj (h.symm.trans hrecord))
  have hupdated : ∀ kwargs now, (store.update checkId kwargs now).get? checkId = some record' →
      record'.checkId = record.checkId := by
    intro kwargs now h
    rw [get?_update_self hrecord] at h
    obtain rfl := Option.some.inj h
    exact CheckStore.checkId_foldl_setattr _ record
  cases h with
  | schedule => exact hsame hrecord'
  | markRunning now => exact hupdated _ now hrecord'
  | invoke outcome => exact hsame hrecord'
  | markCompleted result now => exact hupdated _ now hrecord'
  | markFailed e now => exact hupdated _ now hrecord'
  | fetch => exact hsame hrecord'
  | callback record url delivered hrecord hurl => exact hsame hrecord'

theorem JobStep.store_eq_of_ended (h : JobStep toJson checkId store state event store' state')
    {record : CheckRecord J} (hmatches : state.Matches record) (hended : record.Ended) :
    store' = store := by
  have hpending : ∀ status, status = .queued ∨ status = .running → ¬ record.Pending status := by
    rintro status hstatus hpending
    cases hended with
    | completed result hcompleted _ _ =>
      rw [hpending.status] at hcompleted
      rcases hstatus with rfl | rfl <;> cases hcompleted
    | failed error hfailed _ _ =>
      rw [hpending.status] at hfailed
      rcases hstatus with rfl | rfl <;> cases hfailed
  cases h with
  | schedule => rfl
  | markRunning now => exact absurd hmatches (hpending _ (Or.inl rfl))
  | invoke outcome => rfl
  | markCompleted result now => exact absurd hmatches (hpending _ (Or.inr rfl))
  | markFailed e now => exact absurd hmatches (hpending _ (Or.inr rfl))
  | fetch => rfl
  | callback record' url delivered hrecord hurl => rfl

theorem JobStep.checkId?_eq (h : JobStep toJson checkId store state event store' state') :
    event.checkId? = some checkId := by
  cases h <;> rfl

end job

/-! ### One step of the service -/

section step

variable {py : PyText} {toJson : CandidateState → Except PyException J} {sv sv' : Service J}
  {event : Event J}

theorem Service.invariant_initial : (Service.initial J).Invariant where
  distinct := List.nodup_nil
  matched := fun _ hjob => absurd hjob List.not_mem_nil
  owned := by
    intro checkId record hrecord
    cases hrecord
  named := by
    intro checkId record hrecord
    cases hrecord

theorem Service.Invariant.exists_job (hinv : sv.Invariant) {checkId : String}
    {record : CheckRecord J} (hrecord : sv.store.get? checkId = some record) :
    ∃ job ∈ sv.jobs, job.checkId = checkId ∧ job.state.Matches record := by
  obtain ⟨job, hjob, rfl⟩ := List.mem_map.mp (hinv.owned _ _ hrecord)
  obtain ⟨record', hrecord', hmatches⟩ := hinv.matched job hjob
  obtain rfl : record' = record := Option.some.inj (hrecord'.symm.trans hrecord)
  exact ⟨job, hjob, rfl, hmatches⟩

theorem map_checkId_set {jobs : List (Job J)} {i : ℕ} {job : Job J} (hjob : jobs[i]? = some job)
    (state : JobState J) :
    (jobs.set i { job with state }).map (·.checkId) = jobs.map (·.checkId) := by
  obtain ⟨hi, rfl⟩ := List.getElem?_eq_some_iff.mp hjob
  apply List.ext_getElem?
  intro j
  rw [List.getElem?_map, List.getElem?_map, List.getElem?_set]
  by_cases hj : i = j
  · subst hj
    rw [if_pos rfl, if_pos hi, List.getElem?_eq_getElem hi]
    rfl
  · rw [if_neg hj]

theorem mem_set_job {jobs : List (Job J)} (hdistinct : (jobs.map (·.checkId)).Nodup) {i : ℕ}
    {job other : Job J} (hjob : jobs[i]? = some job) {state : JobState J}
    (hother : other ∈ jobs.set i { job with state }) :
    other = { job with state } ∨ (other ∈ jobs ∧ other.checkId ≠ job.checkId) := by
  obtain ⟨j, hj⟩ := List.mem_iff_getElem?.mp hother
  rw [List.getElem?_set] at hj
  split_ifs at hj with hij hi
  · exact Or.inl (Option.some.inj hj).symm
  · refine Or.inr ⟨List.mem_iff_getElem?.mpr ⟨j, hj⟩, fun hid => hij ?_⟩
    have hi : i < (jobs.map (·.checkId)).length := by
      rw [List.length_map]
      exact (List.getElem?_eq_some_iff.mp hjob).1
    refine (List.getElem?_inj hi hdistinct).mp ?_
    rw [List.getElem?_map, List.getElem?_map, hjob, hj, Option.map_some, Option.map_some, hid]

/-- A step of the service keeps the invariant. -/
theorem Service.Step.invariant (hinv : sv.Invariant) (h : Service.Step py toJson sv event sv') :
    sv'.Invariant := by
  cases h with
  | reject request response hreject => exact hinv
  | accept request checkId createdAt updatedAt haccept hfresh =>
    have hnew : ∀ job ∈ sv.jobs, job.checkId ≠ checkId := by
      rintro job hjob rfl
      obtain ⟨record, hrecord, -⟩ := hinv.matched job hjob
      cases hfresh.symm.trans hrecord
    refine ⟨?_, ?_, ?_, ?_⟩
    · rw [List.map_append, List.map_singleton, ← List.concat_eq_append]
      refine List.Nodup.concat (fun hmem => ?_) hinv.distinct
      obtain ⟨job, hjob, hid⟩ := List.mem_map.mp hmem
      exact hnew job hjob hid
    · intro job hjob
      rcases List.mem_append.mp hjob with hold | hjob
      · obtain ⟨record, hrecord, hmatches⟩ := hinv.matched job hold
        refine ⟨record, ?_, hmatches⟩
        rw [CheckStore.get?_create, if_neg (hnew job hold), hrecord]
      · obtain rfl := List.mem_singleton.mp hjob
        exact ⟨_, (CheckStore.get?_create _ _ _ _ _ _).trans (if_pos rfl), rfl, rfl, rfl⟩
    · intro id record hrecord
      rw [CheckStore.get?_create] at hrecord
      rw [List.map_append, List.mem_append]
      split_ifs at hrecord with hid
      · exact Or.inr (List.mem_singleton.mpr hid)
      · exact Or.inl (hinv.owned _ _ hrecord)
    · intro id record hrecord
      rw [CheckStore.get?_create] at hrecord
      split_ifs at hrecord with hid
      · obtain rfl := Option.some.inj hrecord
        exact hid.symm
      · exact hinv.named _ _ hrecord
  | job i job event store state hjob hstep =>
    have hmem : job ∈ sv.jobs := List.mem_iff_getElem?.mpr ⟨i, hjob⟩
    obtain ⟨record, hrecord, hmatches⟩ := hinv.matched job hmem
    obtain ⟨record', hrecord', hmatches', -⟩ := hstep.spec hrecord hmatches
    refine ⟨?_, ?_, ?_, ?_⟩
    · rw [map_checkId_set hjob]
      exact hinv.distinct
    · intro other hother
      rcases mem_set_job hinv.distinct hjob hother with rfl | ⟨hold, hne⟩
      · exact ⟨record', hrecord', hmatches'⟩
      · obtain ⟨r, hr, hm⟩ := hinv.matched other hold
        exact ⟨r, (hstep.get?_of_ne hne).trans hr, hm⟩
    · intro id r hr
      rw [map_checkId_set hjob]
      by_cases hid : id = job.checkId
      · exact List.mem_map.mpr ⟨job, hmem, hid.symm⟩
      · exact hinv.owned id r ((hstep.get?_of_ne hid).symm.trans hr)
    · intro id r hr
      by_cases hid : id = job.checkId
      · subst hid
        exact (hstep.checkId_eq hrecord hr).trans (hinv.named _ _ hrecord)
      · exact hinv.named id r ((hstep.get?_of_ne hid).symm.trans hr)
  | poll checkId => exact hinv

theorem Service.Step.get?_of_ne (h : Service.Step py toJson sv event sv') {id : String}
    (hid : event.checkId? ≠ some id) : sv'.store.get? id = sv.store.get? id := by
  cases h with
  | reject request response hreject => rfl
  | accept request checkId createdAt updatedAt haccept hfresh =>
    exact (CheckStore.get?_create _ _ _ _ _ _).trans
      (if_neg fun heq => hid (congrArg some heq.symm))
  | job i job event store state hjob hstep =>
    refine hstep.get?_of_ne fun heq => hid ?_
    rw [hstep.checkId?_eq, heq]
  | poll checkId => rfl

/-- A step moves the status of every check along its path. -/
theorem Service.Step.status (hinv : sv.Invariant) (h : Service.Step py toJson sv event sv')
    (id : String) : StatusStep (sv.status id) (sv'.status id) := by
  unfold Service.status
  cases h with
  | reject request response hreject => exact .same _
  | accept request checkId createdAt updatedAt haccept hfresh =>
    rw [CheckStore.get?_create]
    split_ifs with hid
    · rw [hid, hfresh]
      exact .create
    · exact .same _
  | job i job event store state hjob hstep =>
    by_cases hid : id = job.checkId
    · obtain ⟨record, hrecord, hmatches⟩ :=
        hinv.matched job (List.mem_iff_getElem?.mpr ⟨i, hjob⟩)
      obtain ⟨record', hrecord', -, hstatus⟩ := hstep.spec hrecord hmatches
      rw [hid, hrecord, hrecord']
      exact hstatus
    · rw [hstep.get?_of_ne hid]
      exact .same _
  | poll checkId => exact .same _

/-- A record with its outcome is never altered again. -/
theorem Service.Step.get?_of_ended (hinv : sv.Invariant) (h : Service.Step py toJson sv event sv')
    {id : String} {record : CheckRecord J} (hrecord : sv.store.get? id = some record)
    (hended : record.Ended) : sv'.store.get? id = some record := by
  cases h with
  | reject request response hreject => exact hrecord
  | accept request checkId createdAt updatedAt haccept hfresh =>
    have hid : id ≠ checkId := by
      rintro rfl
      cases hfresh.symm.trans hrecord
    rw [CheckStore.get?_create, if_neg hid, hrecord]
  | job i job event store state hjob hstep =>
    by_cases hid : id = job.checkId
    · obtain ⟨record', hrecord', hmatches⟩ :=
        hinv.matched job (List.mem_iff_getElem?.mpr ⟨i, hjob⟩)
      subst hid
      obtain rfl : record' = record := Option.some.inj (hrecord'.symm.trans hrecord)
      rw [hstep.store_eq_of_ended hmatches hended, hrecord]
    · rw [hstep.get?_of_ne hid, hrecord]
  | poll checkId => exact hrecord

/-! ### What the single steps show -/

theorem submitCheck_error {request : CandidateBatchInput} {response : HTTPException}
    (h : submitCheck py request = .error response) :
    response.statusCode = 400 ∧ (request.references = [] ∨
      ∃ ref ∈ request.references, ref.validateShape py ≠ .ok ()) := by
  have hrefused : ¬ submitCheck py request = .ok () := by
    rw [h]
    exact nofun
  refine ⟨?_, ?_⟩
  · unfold submitCheck at h
    split_ifs at h with hne
    · cases h
      rfl
    · obtain ⟨ref, -, href⟩ := Loop.exists_of_forM_eq_error h
      cases hshape : ref.validateShape py with
      | ok u =>
        rw [hshape] at href
        cases href
      | error e =>
        rw [hshape] at href
        cases href
        rfl
  · by_cases hne : request.references = []
    · exact Or.inl hne
    · refine Or.inr ?_
      by_contra hall
      push Not at hall
      exact hrefused ((submitCheck_ok_iff py request).mpr ⟨hne, hall⟩)

/-- A callback is sent by the job of a check that has ended, and leaves the store as it is. -/
theorem Service.Step.callback_spec (hinv : sv.Invariant) {checkId url : String}
    {payload : CallbackPayload J} {delivered : Except PyException Unit}
    (h : Service.Step py toJson sv (.callback checkId url payload delivered) sv') :
    ∃ record, sv.store.get? checkId = some record ∧ record.Ended ∧ record.callbackUrl = some url ∧
      payload = record.payload ∧ sv'.store = sv.store ∧ ∀ delivered',
        Service.Step py toJson sv (.callback checkId url payload delivered') sv' := by
  cases h with
  | job i job event store state hjob hstep =>
    obtain ⟨record, hrecord, hmatches⟩ := hinv.matched job (List.mem_iff_getElem?.mpr ⟨i, hjob⟩)
    obtain ⟨jobId, request, jobState⟩ := job
    cases hstep with
    | callback record' url delivered hrecord' hurl =>
      obtain rfl : record' = record := Option.some.inj (hrecord'.symm.trans hrecord)
      exact ⟨record', hrecord, hmatches, hurl, rfl, rfl, fun delivered' =>
        .job sv i _ _ _ _ hjob (.callback record' url delivered' hrecord' hurl)⟩

end step

/-! ### Runs -/

section runs

variable {py : PyText} {toJson : CandidateState → Except PyException J} {sv : Service J}
  {trace : List (Event J × Service J)}

/-- The statuses on the way to a status. -/
def statusPath : Option CheckStatus → List CheckStatus
  | none => []
  | some .queued => [.queued]
  | some .running => [.queued, .running]
  | some .completed => [.queued, .running, .completed]
  | some .failed => [.queued, .running, .failed]

theorem StatusStep.observe_statusPath {before after : Option CheckStatus}
    (h : StatusStep before after) : observe (statusPath before) after = statusPath after := by
  cases h with
  | same =>
    cases before with
    | none => rfl
    | some status => cases status <;> rfl
  | create => rfl
  | start => rfl
  | complete => rfl
  | fail => rfl

theorem statusPath_prefix (status : Option CheckStatus) :
    statusPath status <+: [.queued, .running, .completed] ∨
      statusPath status <+: [.queued, .running, .failed] := by
  cases status with
  | none => decide
  | some status => cases status <;> decide

theorem Service.invariant_of_run
    (h : Run (Service.Step py toJson) (Service.initial J) trace sv) : sv.Invariant :=
  h.invariant Service.invariant_initial fun _ _ _ hinv hstep => hstep.invariant hinv

/-- The history of a check is the path to its status. -/
theorem Service.history_status (h : Run (Service.Step py toJson) (Service.initial J) trace sv)
    (checkId : String) :
    history (Service.status checkId) (Service.initial J) trace =
      statusPath (Service.status checkId sv) :=
  h.history_eq Service.invariant_initial (fun _ _ _ hinv hstep => hstep.invariant hinv) rfl
    fun _ _ _ hinv hstep => (hstep.status hinv checkId).observe_statusPath

theorem JobState.Matches.cases {state : JobState J} {record : CheckRecord J}
    (h : state.Matches record) :
    record.Pending .queued ∨ record.Pending .running ∨ record.Ended := by
  cases state with
  | created => exact Or.inl h
  | scheduled => exact Or.inl h
  | running => exact Or.inr (Or.inl h)
  | invoked outcome => exact Or.inr (Or.inl h)
  | marked => exact Or.inr (Or.inr h)
  | sending => exact Or.inr (Or.inr h)
  | finished => exact Or.inr (Or.inr h)

theorem CheckRecord.Ended.terminal {record : CheckRecord J} (h : record.Ended) :
    record.status.Terminal := by
  cases h with
  | completed result hstatus _ _ => exact Or.inl hstatus
  | failed error hstatus _ _ => exact Or.inr hstatus

theorem JobState.Matches.ended {state : JobState J} {record : CheckRecord J}
    (h : state.Matches record) (hterminal : record.status.Terminal) : record.Ended := by
  have hpending : ∀ status, record.Pending status → ¬ status.Terminal → record.Ended := by
    intro status hpending hnot
    rw [hpending.status] at hterminal
    exact absurd hterminal hnot
  rcases h.cases with hqueued | hrunning | hended
  · exact hpending _ hqueued (by simp [CheckStatus.Terminal])
  · exact hpending _ hrunning (by simp [CheckStatus.Terminal])
  · exact hended

theorem JobState.Matches.outcome {state : JobState J} {record : CheckRecord J}
    (h : state.Matches record) : (record.result ≠ none ↔ record.status = .completed) ∧
      (record.error ≠ none ↔ record.status = .failed) := by
  rcases h.cases with hqueued | hrunning | hended
  · simp [hqueued.status, hqueued.result, hqueued.error]
  · simp [hrunning.status, hrunning.result, hrunning.error]
  · cases hended with
    | completed result hstatus hresult herror => simp [hstatus, hresult, herror]
    | failed error hstatus hresult herror => simp [hstatus, hresult, herror]

/-- What holds of the checks of the service after a run, and of its next steps. -/
structure Service.LifecycleHolds (py : PyText) (toJson : CandidateState → Except PyException J)
    (trace : List (Event J × Service J)) (sv : Service J) : Prop where
  /-- Every check has gone some of the way from queued over running to completed or failed. -/
  statuses : ∀ checkId,
    history (Service.status checkId) (Service.initial J) trace <+: [.queued, .running, .completed] ∨
      history (Service.status checkId) (Service.initial J) trace <+: [.queued, .running, .failed]
  /-- No step alters a record that has ended. -/
  terminal : ∀ checkId record, sv.store.get? checkId = some record → record.status.Terminal →
    ∀ event sv', Service.Step py toJson sv event sv' → sv'.store.get? checkId = some record
  /-- A result is there exactly when the check completed, an error exactly when it failed. -/
  outcome : ∀ checkId record, sv.store.get? checkId = some record →
    (record.result ≠ none ↔ record.status = .completed) ∧
      (record.error ≠ none ↔ record.status = .failed)
  /-- A step about one check alters no other record. -/
  frame : ∀ event sv', Service.Step py toJson sv event sv' → ∀ checkId,
    event.checkId? ≠ some checkId → sv'.store.get? checkId = sv.store.get? checkId
  /-- A rejected request leaves the records and the jobs as they are. -/
  rejected : ∀ request response sv', Service.Step py toJson sv (.rejected request response) sv' →
    sv' = sv ∧ response.statusCode = 400 ∧ (request.references = [] ∨
      ∃ ref ∈ request.references, ref.validateShape py ≠ .ok ())
  /-- What is accepted has references, each with its input. -/
  accepted : ∀ request checkId sv', Service.Step py toJson sv (.accepted request checkId) sv' →
    request.references ≠ [] ∧ ∀ ref ∈ request.references, ref.validateShape py = .ok ()
  /-- The record of a finished `run_check` has ended. -/
  finished : ∀ job ∈ sv.jobs, job.state = .finished →
    ∃ record, sv.store.get? job.checkId = some record ∧ record.status.Terminal
  /-- A callback carries the record, which has ended, and its failure changes nothing. -/
  callback : ∀ checkId url payload delivered sv',
    Service.Step py toJson sv (.callback checkId url payload delivered) sv' →
      ∃ record, sv.store.get? checkId = some record ∧ record.status.Terminal ∧
        record.callbackUrl = some url ∧ payload.Carries checkId record ∧ sv'.store = sv.store ∧
        ∀ delivered', Service.Step py toJson sv (.callback checkId url payload delivered') sv'

/-- Over every run of the service, its checks live as they should. -/
theorem check_lifecycle (h : Run (Service.Step py toJson) (Service.initial J) trace sv) :
    Service.LifecycleHolds py toJson trace sv := by
  have hinv := Service.invariant_of_run h
  refine ⟨?_, ?_, ?_, fun _ _ hstep _ hid => hstep.get?_of_ne hid, ?_, ?_, ?_, ?_⟩
  · intro checkId
    rw [Service.history_status h]
    exact statusPath_prefix _
  · intro checkId record hrecord hterminal event sv' hstep
    obtain ⟨job, -, -, hmatches⟩ := hinv.exists_job hrecord
    exact hstep.get?_of_ended hinv hrecord (hmatches.ended hterminal)
  · intro checkId record hrecord
    obtain ⟨job, -, -, hmatches⟩ := hinv.exists_job hrecord
    exact hmatches.outcome
  · intro request response sv' hstep
    cases hstep with
    | reject _ _ hreject => exact ⟨rfl, submitCheck_error hreject⟩
    | job i job event store state hjob hstep => exact absurd hstep.checkId?_eq (by simp [Event.checkId?])
  · intro request checkId sv' hstep
    cases hstep with
    | accept _ _ createdAt updatedAt haccept hfresh => exact (submitCheck_ok_iff _ _).mp haccept
    | job i job event store state hjob hstep =>
      obtain ⟨jobId, request', jobState⟩ := job
      cases hstep
  · intro job hjob hfinished
    obtain ⟨record, hrecord, hmatches⟩ := hinv.matched job hjob
    rw [hfinished] at hmatches
    exact ⟨record, hrecord, CheckRecord.Ended.terminal hmatches⟩
  · intro checkId url payload delivered sv' hstep
    obtain ⟨record, hrecord, hended, hurl, rfl, hrest⟩ := hstep.callback_spec hinv
    exact ⟨record, hrecord, hended.terminal, hurl, .payload (hinv.named _ _ hrecord), hrest⟩

end runs

/-! ### A check that fails -/

def callbackRequest : CandidateCheckRequest where
  candidateName := "Ann"
  roleAppliedFor := "Analyst"
  claimedDetails := { jobTitle := "Analyst", company := "Acme", startDate := "2021-01" }
  references := [{ referenceName := "Bob", relationship := "Manager", rawInput := some "Reliable." }]
  callbackUrl := some "http://localhost/done"

/-- The service while it works on one check. -/
def oneCheck (store : CheckStore CandidateState) (state : JobState CandidateState) :
    Service CandidateState :=
  ⟨store, [⟨"a1", callbackRequest, state⟩]⟩

def queuedStore : CheckStore CandidateState :=
  CheckStore.create .empty "a1" callbackRequest.callbackUrl 0 0

def failedStore : CheckStore CandidateState :=
  (queuedStore.markRunning "a1" 1).markFailed "a1" "overloaded" 2

theorem run_oneCheck {trace : List (Event CandidateState × Service CandidateState)}
    {store store' : CheckStore CandidateState} {state state' : JobState CandidateState}
    {event : Event CandidateState}
    (h : Run (Service.Step .plain .ok) (Service.initial CandidateState) trace
      (oneCheck store state))
    (hstep : JobStep .ok "a1" store state event store' state') :
    Run (Service.Step .plain .ok) (Service.initial CandidateState)
      (trace ++ [(event, oneCheck store' state')]) (oneCheck store' state') :=
  h.snoc (.job _ 0 ⟨"a1", callbackRequest, state⟩ event store' state' rfl hstep)

theorem exists_run_failedStore : ∃ trace,
    Run (Service.Step .plain .ok) (Service.initial CandidateState) trace
      (oneCheck failedStore .finished) := by
  have haccepted : Run (Service.Step .plain .ok) (Service.initial CandidateState) _
      (oneCheck queuedStore .created) :=
    Run.nil.snoc (.accept _ callbackRequest "a1" 0 0 (by decide) rfl)
  have hscheduled := run_oneCheck haccepted .schedule
  have hrunning := run_oneCheck hscheduled (.markRunning 1)
  have hinvoked := run_oneCheck hrunning (.invoke (.error (.raised "APIError" "overloaded")))
  have hfailed := run_oneCheck hinvoked (.markFailed (.raised "APIError" "overloaded") 2)
  have hfetched := run_oneCheck hfailed .fetch
  exact ⟨_, run_oneCheck hfetched (.callback _ "http://localhost/done"
    (.error (.raised "ConnectError" "refused")) rfl rfl)⟩

theorem check_lifecycle_failedStore : ∃ trace,
    Service.LifecycleHolds .plain .ok trace (oneCheck failedStore .finished) ∧
    history (Service.status "a1") (Service.initial CandidateState) trace =
      [.queued, .running, .failed] := by
  obtain ⟨trace, hrun⟩ := exists_run_failedStore
  exact ⟨trace, check_lifecycle hrun, Service.history_status hrun "a1"⟩

end RefCheck
