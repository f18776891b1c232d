import RefCheck.Lib.Lists
import RefCheck.Lib.Progress
import RefCheck.Service.Checks

/-!
# Every check ends

In an infinite run of the service that leaves no job waiting for ever, a check that was accepted ends
(`checks_end`): its record comes to an outcome that stays, every later poll is answered with it, and the
callback was posted if there is to be one. Nothing in the service can hold a job up: as long as it has
not finished, its next step is possible (`Service.Followed.exists_step`).
-/

namespace RefCheck

open Transitions

section progress

variable {J : Type} {env : Env} {provider : Except PyException (ModelTier → String)}
  {toJson : CandidateState → Except PyException J} {labels : List (Event J)} {sv sv' : Service J}
  {job : Job J} {record : CheckRecord J} {checkId : String}

/-! ### The next step of a job -/

theorem afterFetch_ne_invoked (record? : Option (CheckRecord J)) (outcome : Except PyException J) :
    afterFetch record? ≠ .invoked outcome := by
  cases record? with
  | none => exact nofun
  | some record =>
    unfold afterFetch
    dsimp only
    split_ifs <;> exact nofun

theorem exists_checkOutcome (request : CandidateCheckRequest) :
    ∃ outcome : Except PyException CandidateState,
      CheckOutcome env provider toJson request (outcome >>= toJson) := by
  cases hprovider : provider with
  | error e => exact ⟨.error e, .noProvider e rfl⟩
  | ok getModel =>
    let llm : CandidateLLM :=
      { getModel, reference := fun _ _ => .error .zeroDivisionError,
        overall := fun _ => .error .zeroDivisionError }
    exact ⟨((candidateGraph env llm).invoke recursionLimit request.inputState).result, .invoked llm rfl⟩

/-- A job that has not finished can go on. -/
theorem Job.Follows.exists_jobStep (h : job.Follows env provider toJson labels record)
    (hrecord : sv.store.get? job.checkId = some record) (hunfinished : job.state ≠ .finished) :
    ∃ event store state, JobStep toJson job.checkId sv.store job.state event store state ∧
      ∀ outcome, state = .invoked outcome → CheckOutcome env provider toJson job.request outcome := by
  cases hstate : job.state with
  | created => exact ⟨_, _, _, .schedule, nofun⟩
  | scheduled => exact ⟨_, _, _, .markRunning 0, nofun⟩
  | running =>
    have houtcome : ∃ outcome : Except PyException CandidateState,
        CheckOutcome env provider toJson job.request (outcome >>= toJson) := exists_checkOutcome _
    obtain ⟨outcome, houtcome⟩ := houtcome
    refine ⟨_, _, _, .invoke outcome, ?_⟩
    rintro _ ⟨⟩
    exact houtcome
  | invoked outcome =>
    cases outcome with
    | ok result => exact ⟨_, _, _, .markCompleted result 0, nofun⟩
    | error e => exact ⟨_, _, _, .markFailed e 0, nofun⟩
  | marked => exact ⟨_, _, _, .fetch, fun outcome hinvoked => absurd hinvoked (afterFetch_ne_invoked _ _)⟩
  | sending =>
    have hposts : (stated job.request.callbackUrl).isSome := h.sending hstate
    obtain ⟨url, hurl⟩ := Option.isSome_iff_exists.mp hposts
    have hcallback : record.callbackUrl = some url := by
      rw [h.url]
      exact (Option.filter_eq_some_iff.mp hurl).1
    exact ⟨_, _, _, .callback record url (.ok ()) hrecord hcallback, nofun⟩
  | finished => exact absurd hstate hunfinished

theorem Event.about_of_stage? {event : Event J} {stage : ℕ} (h : event.stage? checkId = some stage) :
    event.isAbout checkId = true := by
  by_contra hnot
  rw [Event.stage?_of_not_about (Bool.eq_false_iff.mpr hnot)] at h
  cases h

/-- The steps of the job of a check: all on its way but the first. -/
def Service.Advance (env : Env) (provider : Except PyException (ModelTier → String))
    (toJson : CandidateState → Except PyException J) (checkId : String) (sv : Service J)
    (event : Event J) (sv' : Service J) : Prop :=
  Service.CheckStep env provider toJson sv event sv' ∧ ∃ stage, 0 < stage ∧
    event.stage? checkId = some stage

theorem JobState.stages_pos (state : JobState J) (posts : Bool) : 0 < state.stages posts := by
  cases state <;> cases posts <;> simp [JobState.stages]

theorem Service.Followed.exists_step (hf : Service.Followed env provider toJson labels sv)
    (hinv : sv.Invariant) (hjob : job ∈ sv.jobs) (hunfinished : job.state ≠ .finished) :
    ∃ event sv', Service.Advance env provider toJson job.checkId sv event sv' := by
  obtain ⟨record, hrecord, -⟩ := hinv.matched job hjob
  obtain ⟨event, store, state, hstep, houtcome⟩ :=
    (hf.jobs job hjob record hrecord).exists_jobStep hrecord hunfinished
  obtain ⟨i, hi⟩ := List.mem_iff_getElem?.mp hjob
  refine ⟨event, _, ⟨.job sv i job event store state hi hstep, ?_⟩, job.state.stages job.request.posts,
    JobState.stages_pos _ _, hstep.stage?_eq _⟩
  intro other hother outcome hinvoked
  rcases mem_set_job hinv.distinct hi hother with rfl | ⟨hold, -⟩
  · exact Or.inr (houtcome outcome hinvoked)
  · exact Or.inl hold

theorem Service.Advance.exists_unfinished {event : Event J}
    (h : Service.Advance env provider toJson checkId sv event sv') :
    ∃ job ∈ sv.jobs, job.checkId = checkId ∧ job.state ≠ .finished := by
  obtain ⟨⟨hstep, -⟩, stage, hpos, hstage⟩ := h
  have habout : event.isAbout checkId = true := Event.about_of_stage? hstage
  have hid : event.checkId? = some checkId := of_decide_eq_true habout
  unfold Event.stage? at hstage
  rw [if_pos habout] at hstage
  cases hstep with
  | reject request response hreject => cases hid
  | accept request id createdAt updatedAt haccept hfresh =>
    cases hstage
    cases hpos
  | job i job event store state hjob hstep =>
    obtain rfl := Option.some.inj (hstep.checkId?_eq.symm.trans hid)
    exact ⟨job, List.mem_iff_getElem?.mpr ⟨i, hjob⟩, rfl, hstep.ne_finished⟩
  | poll id => cases hstage

/-! ### How far a check has come -/

def stagesDone (checkId : String) (labels : List (Event J)) : ℕ :=
  (labels.filterMap (Event.stage? checkId)).length

theorem stagesDone_snoc (checkId : String) (labels : List (Event J)) (event : Event J) :
    stagesDone checkId (labels ++ [event]) =
      stagesDone checkId labels + if event.stage? checkId = none then 0 else 1 := by
  unfold stagesDone
  rw [List.filterMap_append, List.length_append]
  cases hstage : event.stage? checkId with
  | none => rw [List.filterMap_cons_none hstage, if_pos rfl]; rfl
  | some stage => rw [List.filterMap_cons_some hstage, if_neg (Option.some_ne_none stage)]; rfl

theorem Service.Followed.stagesDone_le (hf : Service.Followed env provider toJson labels sv)
    (hinv : sv.Invariant) (checkId : String) : stagesDone checkId labels ≤ 7 := by
  unfold stagesDone
  cases hrecord : sv.store.get? checkId with
  | none =>
    rw [hf.fresh checkId hrecord]
    exact Nat.zero_le 7
  | some record =>
    obtain ⟨job, hjob, rfl, -⟩ := hinv.exists_job hrecord
    rw [(hf.jobs job hjob record hrecord).stages, List.length_range]
    exact JobState.stages_le _ _

theorem Service.Followed.exists_record {request : CandidateCheckRequest}
    (hf : Service.Followed env provider toJson labels sv) (h : .accepted request checkId ∈ labels) :
    ∃ record, sv.store.get? checkId = some record := by
  refine Option.ne_none_iff_exists'.mp fun hnone => ?_
  have hzero : 0 ∈ labels.filterMap (Event.stage? checkId) := List.mem_filterMap.mpr
    ⟨_, h, by simp [Event.stage?, Event.isAbout, Event.checkId?]⟩
  rw [hf.fresh checkId hnone] at hzero
  cases hzero

theorem Job.Follows.request_eq {request : CandidateCheckRequest}
    (h : job.Follows env provider toJson labels record)
    (haccepted : .accepted request job.checkId ∈ labels) : job.request = request := by
  have hnodup : (labels.filterMap (Event.stage? job.checkId)).Nodup := by
    rw [h.stages]
    exact List.nodup_range
  have hfirst : ∀ request, (Event.accepted request job.checkId : Event J).stage? job.checkId = some 0 :=
    fun request => by simp [Event.stage?, Event.isAbout, Event.checkId?]
  cases Lists.eq_of_nodup_filterMap hnodup h.accepted haccepted (hfirst _) (hfirst _)
  rfl

theorem Event.eq_callback {event : Event J} (h : event.stage? checkId = some 6) :
    ∃ url payload delivered, event = .callback checkId url payload delivered := by
  have habout : event.isAbout checkId = true := Event.about_of_stage? h
  have hid : event.checkId? = some checkId := of_decide_eq_true habout
  unfold Event.stage? at h
  rw [if_pos habout] at h
  cases event with
  | callback id url payload delivered =>
    obtain rfl := Option.some.inj hid
    exact ⟨url, payload, delivered, rfl⟩
  | rejected | accepted | scheduled | markedRunning | invoked | markedCompleted | markedFailed
  | fetched | polled => cases h

theorem Event.eq_polled {event : Event J} (hid : event.checkId? = some checkId)
    (h : event.stage? checkId = none) : ∃ response, event = .polled checkId response := by
  have habout : event.isAbout checkId = true := decide_eq_true hid
  unfold Event.stage? at h
  rw [if_pos habout] at h
  cases event with
  | polled id response =>
    obtain rfl := Option.some.inj hid
    exact ⟨response, rfl⟩
  | rejected => cases hid
  | accepted | scheduled | markedRunning | invoked | markedCompleted | markedFailed | fetched
  | callback => cases h

theorem Service.Step.polled_eq {py : PyText} {response : Except HTTPException (CheckStatusResponse J)}
    (h : Service.Step py toJson sv (.polled checkId response) sv')
    (hrecord : sv.store.get? checkId = some record) : response = .ok record.response := by
  cases h with
  | job i job _ store state hjob hstep =>
    obtain ⟨id, request, jobState⟩ := job
    cases hstep
  | poll =>
    unfold getCheck
    rw [hrecord]

/-! ### Runs that go on for ever -/

/-- An infinite run of the service. -/
abbrev Service.Execution (env : Env) (provider : Except PyException (ModelTier → String))
    (toJson : CandidateState → Except PyException J) :=
  Transitions.Execution (Service.CheckStep env provider toJson) (Service.initial J)

/-- The background tasks are run: a job that can go on is not left waiting for ever. -/
def Service.Execution.Fair (x : Service.Execution env provider toJson) : Prop :=
  ∀ checkId, x.WeaklyFair (Service.Advance env provider toJson checkId)

/-- What holds of a check and its request from a point of the run on. -/
structure Service.Execution.Settled (x : Service.Execution env provider toJson) (checkId : String)
    (request : CandidateCheckRequest) (record : CheckRecord J) (m : ℕ) : Prop where
  once : Service.RunsOnce env provider toJson (x.labels m) (x.state m) checkId record request
  /-- There is an outcome, a result or an error, and it stays. -/
  ended : record.Ended
  stays : ∀ k, m ≤ k → (x.state k).store.get? checkId = some record
  /-- The callback was posted, if there is to be one. -/
  called : ∀ url, stated request.callbackUrl = some url →
    ∃ payload delivered, payload.Carries checkId record ∧
      .callback checkId url payload delivered ∈ x.labels m
  /-- Nothing about the check follows but polls, and they are answered with the outcome. -/
  answered : ∀ k, m ≤ k → (x.label k).checkId? = some checkId →
    x.label k = .polled checkId (.ok record.response)

section execution

variable {x : Service.Execution env provider toJson}

theorem Service.Execution.invariant (x : Service.Execution env provider toJson) (n : ℕ) :
    (x.state n).Invariant := Service.invariant_of_checkRun (x.run n)

theorem Service.Execution.followed (x : Service.Execution env provider toJson) (n : ℕ) :
    Service.Followed env provider toJson (x.labels n) (x.state n) := by
  rw [← x.map_fst_trace]
  exact Service.followed_of_run (x.run n)

theorem Service.Execution.stagesDone_succ (x : Service.Execution env provider toJson)
    (checkId : String) (k : ℕ) : stagesDone checkId (x.labels (k + 1)) =
      stagesDone checkId (x.labels k) + if (x.label k).stage? checkId = none then 0 else 1 := by
  rw [x.labels_succ, stagesDone_snoc]

/-- The job of a check finishes, and nothing on its way follows. -/
theorem Service.Execution.Fair.exists_finished {request : CandidateCheckRequest} (hfair : x.Fair) {n : ℕ}
    (haccepted : .accepted request checkId ∈ x.labels n) : ∃ m, n ≤ m ∧
      (∀ k, m ≤ k → (x.label k).stage? checkId = none) ∧
      ∃ job ∈ (x.state m).jobs, job.checkId = checkId ∧ job.state = .finished := by
  have hmono : Monotone fun k => stagesDone checkId (x.labels k) :=
    monotone_nat_of_le_succ fun k => Nat.le.intro (x.stagesDone_succ checkId k).symm
  have hbound : ∀ k, stagesDone checkId (x.labels k) ≤ 7 := fun k =>
    (x.followed k).stagesDone_le (x.invariant k) checkId
  have hrises : ∀ k, Service.Advance env provider toJson checkId (x.state k) (x.label k)
      (x.state (k + 1)) → stagesDone checkId (x.labels k) < stagesDone checkId (x.labels (k + 1)) := by
    rintro k ⟨-, stage, -, hstage⟩
    rw [x.stagesDone_succ, hstage, if_neg (Option.some_ne_none stage)]
    exact Nat.lt_succ_self _
  obtain ⟨m, hm, hstill, hover⟩ := (hfair checkId).exists_over hmono hbound hrises n
  obtain ⟨record, hrecord⟩ := (x.followed m).exists_record (x.labels_subset hm haccepted)
  obtain ⟨job, hjob, rfl, -⟩ := (x.invariant m).exists_job hrecord
  refine ⟨m, hm, fun k hk => ?_, job, hjob, rfl, ?_⟩
  · by_contra hstage
    have hnext := x.stagesDone_succ job.checkId k
    rw [if_neg hstage, hstill (k + 1) (Nat.le_succ_of_le hk), hstill k hk] at hnext
    exact absurd hnext (Nat.succ_ne_self _).symm
  · by_contra hunfinished
    obtain ⟨event, sv', hadvance⟩ := (x.followed m).exists_step (x.invariant m) hjob hunfinished
    exact hover event sv' hadvance

theorem Service.Execution.stays (x : Service.Execution env provider toJson) {m : ℕ}
    (hrecord : (x.state m).store.get? checkId = some record) (hended : record.Ended) {k : ℕ}
    (hk : m ≤ k) : (x.state k).store.get? checkId = some record :=
  x.holds_from (P := fun sv => sv.store.get? checkId = some record)
    (fun k hrecord => (x.steps k).step.get?_of_ended (x.invariant k) hrecord hended) hrecord hk

theorem Service.RunsOnce.exists_callback {request : CandidateCheckRequest} {url : String}
    (h : Service.RunsOnce env provider toJson labels sv checkId record request) (hjob : job ∈ sv.jobs)
    (hid : job.checkId = checkId) (hfinished : job.state = .finished)
    (hurl : stated request.callbackUrl = some url) :
    ∃ payload delivered, payload.Carries checkId record ∧
      .callback checkId url payload delivered ∈ labels := by
  have hposts : request.posts = true := by
    unfold CandidateCheckRequest.posts
    rw [hurl]
    rfl
  have hstages := h.complete job hjob hid hfinished
  rw [if_pos hposts] at hstages
  have hlast : 6 ∈ labels.filterMap (Event.stage? checkId) := by
    rw [hstages]
    exact List.mem_range.mpr (by decide)
  obtain ⟨event, hevent, hsix⟩ := List.mem_filterMap.mp hlast
  obtain ⟨url', payload, delivered, rfl⟩ := Event.eq_callback hsix
  obtain ⟨hurl', hcarries⟩ := h.callback url' payload delivered hevent
  obtain rfl : url' = url := Option.some.inj (hurl'.symm.trans (Option.filter_eq_some_iff.mp hurl).1)
  exact ⟨payload, delivered, hcarries, hevent⟩

/-- **Every accepted check ends**, if no job is left waiting for ever: its record comes to an outcome that
stays, the callback is posted with it, and every later poll is answered with it. -/
theorem checks_end {request : CandidateCheckRequest} (hfair : x.Fair) {n : ℕ}
    (haccepted : .accepted request checkId ∈ x.labels n) :
    ∃ m record, n ≤ m ∧ x.Settled checkId request record m := by
  obtain ⟨m, hm, hover, job, hjob, rfl, hfinished⟩ := hfair.exists_finished haccepted
  obtain ⟨record, hrecord, hmatches⟩ := (x.invariant m).matched job hjob
  obtain rfl : job.request = request :=
    ((x.followed m).jobs job hjob record hrecord).request_eq (x.labels_subset hm haccepted)
  have honce : Service.RunsOnce env provider toJson (x.labels m) (x.state m) job.checkId record
      job.request := by
    rw [← x.map_fst_trace]
    exact Service.runsOnce_of_run (x.run m) hjob hrecord
  have hended : record.Ended := by
    rw [hfinished] at hmatches
    exact hmatches
  refine ⟨m, record, hm, honce, hended, fun k hk => x.stays hrecord hended hk,
    fun url hurl => honce.exists_callback hjob rfl hfinished hurl, fun k hk hid => ?_⟩
  obtain ⟨response, hpolled⟩ := Event.eq_polled hid (hover k hk)
  have hstep := (x.steps k).step
  rw [hpolled] at hstep ⊢
  rw [hstep.polled_eq (x.stays hrecord hended hk)]

end execution

end progress

/-! ### A check that fails, and is polled for ever -/

/-- What `failedStore` holds. -/
def failedRecord : CheckRecord CandidateState where
  checkId := "a1"
  status := .failed
  error := some "overloaded"
  callbackUrl := callbackRequest.callbackUrl
  createdAt := 0
  updatedAt := 2

/-- The state of the service after each step. -/
def failingState : ℕ → Service CandidateState
  | 0 => Service.initial CandidateState
  | 1 => oneCheck queuedStore .created
  | 2 => oneCheck queuedStore .scheduled
  | 3 => oneCheck (queuedStore.markRunning "a1" 1) .running
  | 4 => oneCheck (queuedStore.markRunning "a1" 1) (.invoked (.error (.raised "APIError" "overloaded")))
  | 5 => oneCheck failedStore .marked
  | 6 => oneCheck failedStore .sending
  | _ + 7 => oneCheck failedStore .finished

def failingLabel : ℕ → Event CandidateState
  | 0 => .accepted callbackRequest "a1"
  | 1 => .scheduled "a1"
  | 2 => .markedRunning "a1"
  | 3 => .invoked "a1"
  | 4 => .markedFailed "a1"
  | 5 => .fetched "a1"
  | 6 => .callback "a1" "http://localhost/done" failedRecord.payload
      (.error (.raised "ConnectError" "refused"))
  | _ + 7 => .polled "a1" (getCheck failedStore "a1")

/-- A step of the service whose provider raises. -/
abbrev FailingStep : Service CandidateState → Event CandidateState → Service CandidateState → Prop :=
  Service.CheckStep (.shipped .plain) (.error (.raised "APIError" "overloaded")) .ok

theorem failingStep_job {store store' : CheckStore CandidateState}
    {state state' : JobState CandidateState} {event : Event CandidateState}
    (hstep : JobStep .ok "a1" store state event store' state')
    (hgenuine : ∀ outcome, state' = .invoked outcome →
      outcome = .error (.raised "APIError" "overloaded")) :
    FailingStep (oneCheck store state) event (oneCheck store' state') := by
  refine ⟨.job _ 0 ⟨"a1", callbackRequest, state⟩ event store' state' rfl hstep, ?_⟩
  intro job hjob outcome hstate
  obtain rfl := List.mem_singleton.mp hjob
  rw [hgenuine outcome hstate]
  exact Or.inr (.noProvider _ rfl)

theorem failingStep : ∀ n, FailingStep (failingState n) (failingLabel n) (failingState (n + 1))
  | 0 => ⟨.accept _ callbackRequest "a1" 0 0 (by decide) rfl, fun job hjob outcome hstate => by
      obtain rfl := List.mem_singleton.mp hjob
      cases hstate⟩
  | 1 => failingStep_job .schedule (by rintro _ ⟨⟩)
  | 2 => failingStep_job (.markRunning 1) (by rintro _ ⟨⟩)
  | 3 => failingStep_job (.invoke (.error (.raised "APIError" "overloaded"))) (by
      rintro _ ⟨⟩
      rfl)
  | 4 => failingStep_job (.markFailed (.raised "APIError" "overloaded") 2) (by rintro _ ⟨⟩)
  | 5 => failingStep_job .fetch (by rintro _ ⟨⟩)
  | 6 => failingStep_job (.callback failedRecord "http://localhost/done"
      (.error (.raised "ConnectError" "refused")) rfl rfl) (by rintro _ ⟨⟩)
  | n + 7 => ⟨.poll _ "a1", fun _ hjob _ _ => Or.inl hjob⟩

/-- The provider raises, so does the callback, and then there are only polls. -/
def failingExecution :
    Service.Execution (.shipped .plain) (.error (.raised "APIError" "overloaded")) .ok where
  state := failingState
  label := failingLabel
  start := rfl
  steps := failingStep

theorem fair_failingExecution : failingExecution.Fair := by
  intro checkId n hpossible
  -- once the job has finished no such step is possible
  obtain ⟨event, sv', hadvance⟩ := hpossible (n + 7) (Nat.le_add_right n 7)
  obtain ⟨job, hjob, -, hunfinished⟩ := hadvance.exists_unfinished
  obtain rfl := List.mem_singleton.mp hjob
  exact absurd rfl hunfinished

theorem checks_end_failing : ∃ m record, 1 ≤ m ∧
    failingExecution.Settled "a1" callbackRequest record m :=
  checks_end fair_failingExecution (List.mem_map.mpr ⟨0, by decide, rfl⟩)

end RefCheck
