import RefCheck.Graphs.CandidateRun
import RefCheck.Service.Lifecycle

/-!
# Each check on its own

The jobs of the service share a store and take their steps in any order. `Service.CheckStep` are the
steps in which what a job invokes is the candidate graph on its own request. `Service.only` is the
service with nothing but one check: what is seen of a check in a run is a run of that
(`checks_independent`), so that it is enough to follow a check that is alone. It is accepted, worked on
and called back once, and its record holds what its own request leads to (`check_runs_once`).
-/

namespace RefCheck

open Transitions

variable {J : Type}

/-! ### What a job invokes -/

section steps

variable (env : Env) (provider : Except PyException (ModelTier → String))
  (toJson : CandidateState → Except PyException J)

/-- The body of the `try` of `run_check`, once `_get_app` has given the graph. -/
def invokeCheck (llm : CandidateLLM) (request : CandidateCheckRequest) : Except PyException J := do
  let result ← ((candidateGraph env llm).invoke recursionLimit request.inputState).result
  toJson result

/-- What the body of the `try` may come to. The graph is built over the provider, which raises for every
check or for none; what its model answers differs from check to check. -/
inductive CheckOutcome (request : CandidateCheckRequest) : Except PyException J → Prop
  | noProvider (e : PyException) (hprovider : provider = .error e) : CheckOutcome request (.error e)
  | invoked (llm : CandidateLLM) (hprovider : provider = .ok llm.getModel) :
      CheckOutcome request (invokeCheck env toJson llm request)

/-- A step of the service whose jobs invoke the candidate graph. -/
structure Service.CheckStep (sv : Service J) (event : Event J) (sv' : Service J) : Prop where
  step : Service.Step env.toPyText toJson sv event sv'
  invoked : ∀ job ∈ sv'.jobs, ∀ outcome, job.state = .invoked outcome → job ∈ sv.jobs ∨
    CheckOutcome env provider toJson job.request outcome

end steps

/-! ### The part of one check -/

/-- The service with nothing but one check. -/
def Service.only (checkId : String) (sv : Service J) : Service J where
  store := sv.store.filterKeys (· = checkId)
  jobs := sv.jobs.filter (·.checkId = checkId)

/-- Whether an event is about the check. -/
def Event.isAbout (checkId : String) (event : Event J) : Bool := event.checkId? = some checkId

theorem Service.only_initial (checkId : String) :
    (Service.initial J).only checkId = Service.initial J := rfl

section part

variable {toJson : CandidateState → Except PyException J} {checkId id : String}
  {store store' : CheckStore J} {state state' : JobState J} {event : Event J}

theorem get?_filterKeys_self :
    (store.filterKeys (· = checkId)).get? checkId = store.get? checkId := by
  rw [Dict.get?_filterKeys, if_pos (decide_eq_true rfl)]

theorem filterKeys_update (kwargs : List (Attribute J)) (now : Instant) :
    Dict.filterKeys (· = checkId) (store.update checkId kwargs now) =
      CheckStore.update (store.filterKeys (· = checkId)) checkId kwargs now := by
  unfold CheckStore.update
  rw [get?_filterKeys_self]
  cases store.get? checkId with
  | none => rfl
  | some record => exact (Dict.filterKeys_set _ _ _ _).trans (if_pos (decide_eq_true rfl))

theorem filterKeys_update_of_ne (hid : id ≠ checkId) (kwargs : List (Attribute J)) (now : Instant) :
    Dict.filterKeys (· = checkId) (store.update id kwargs now) = store.filterKeys (· = checkId) := by
  unfold CheckStore.update
  cases store.get? id with
  | none => rfl
  | some record => exact (Dict.filterKeys_set _ _ _ _).trans (if_neg (by simpa using hid))

theorem JobStep.only (h : JobStep toJson checkId store state event store' state') :
    JobStep toJson checkId (store.filterKeys (· = checkId)) state event
      (store'.filterKeys (· = checkId)) state' := by
  cases h with
  | schedule => exact .schedule
  | markRunning now =>
    unfold CheckStore.markRunning
    rw [filterKeys_update]
    exact .markRunning now
  | invoke outcome => exact .invoke outcome
  | markCompleted result now =>
    unfold CheckStore.markCompleted
    rw [filterKeys_update]
    exact .markCompleted result now
  | markFailed e now =>
    unfold CheckStore.markFailed
    rw [filterKeys_update]
    exact .markFailed e now
  | fetch =>
    rw [← get?_filterKeys_self]
    exact .fetch
  | callback record url delivered hrecord hurl =>
    exact .callback record url delivered (get?_filterKeys_self.trans hrecord) hurl

theorem JobStep.only_of_ne (h : JobStep toJson id store state event store' state')
    (hid : id ≠ checkId) : store'.filterKeys (· = checkId) = store.filterKeys (· = checkId) := by
  cases h with
  | schedule => rfl
  | markRunning now => exact filterKeys_update_of_ne hid _ _
  | invoke outcome => rfl
  | markCompleted result now => exact filterKeys_update_of_ne hid _ _
  | markFailed e now => exact filterKeys_update_of_ne hid _ _
  | fetch => rfl
  | callback record url delivered hrecord hurl => rfl

end part

theorem filter_set_of_neg {A : Type} {p : A → Bool} {l : List A} {i : ℕ} {a b : A}
    (ha : l[i]? = some a) (hpa : p a = false) (hpb : p b = false) :
    (l.set i b).filter p = l.filter p := by
  induction l generalizing i with
  | nil => cases ha
  | cons x l ih =>
    cases i with
    | zero =>
      cases ha
      rw [List.set_cons_zero, List.filter_cons_of_neg (by simp [hpb]),
        List.filter_cons_of_neg (by simp [hpa])]
    | succ i =>
      rw [List.set_cons_succ, List.filter_cons, List.filter_cons, ih ha]

section step

variable {env : Env} {provider : Except PyException (ModelTier → String)} {py : PyText}
  {toJson : CandidateState → Except PyException J} {checkId : String} {sv sv' : Service J}
  {event : Event J}

/-- A step about the check is a step of the part. -/
theorem Service.Step.only (hinv : sv.Invariant) (h : Service.Step py toJson sv event sv')
    (habout : event.isAbout checkId = true) :
    Service.Step py toJson (sv.only checkId) event (sv'.only checkId) := by
  have hid : event.checkId? = some checkId := of_decide_eq_true habout
  have hinv' : sv'.Invariant := h.invariant hinv
  cases h with
  | reject request response hreject => cases hid
  | accept request id createdAt updatedAt haccept hfresh =>
    obtain rfl := Option.some.inj hid
    have hstore : Dict.filterKeys (· = id)
        (sv.store.create id request.callbackUrl createdAt updatedAt) =
          CheckStore.create (sv.store.filterKeys (· = id)) id request.callbackUrl createdAt
            updatedAt := (Dict.filterKeys_set _ _ _ _).trans (if_pos (decide_eq_true rfl))
    have hnew : [Job.mk id request (.created : JobState J)].filter (·.checkId = id) =
        [⟨id, request, .created⟩] := by simp
    unfold Service.only
    dsimp only
    rw [hstore, List.filter_append, hnew]
    exact .accept _ request id createdAt updatedAt haccept (get?_filterKeys_self.trans hfresh)
  | job i job event store state hjob hstep =>
    obtain rfl := Option.some.inj (hstep.checkId?_eq.symm.trans hid)
    have hmem : job ∈ sv.jobs := List.mem_iff_getElem?.mpr ⟨i, hjob⟩
    have hi := (List.getElem?_eq_some_iff.mp hjob).1
    have hbefore : sv.jobs.filter (·.checkId = job.checkId) = [job] :=
      Loop.filter_key_eq_singleton hinv.distinct hmem
    have hafter : (sv.jobs.set i { job with state }).filter (·.checkId = job.checkId) =
        [{ job with state }] :=
      Loop.filter_key_eq_singleton hinv'.distinct (List.mem_set hi _)
    unfold Service.only
    dsimp only
    rw [hbefore, hafter]
    exact .job _ 0 job event _ state rfl hstep.only
  | poll id =>
    obtain rfl := Option.some.inj hid
    have hresponse : getCheck sv.store id = getCheck (sv.only id).store id := by
      unfold getCheck
      rw [show (sv.only id).store.get? id = sv.store.get? id from get?_filterKeys_self]
    rw [hresponse]
    exact .poll _ id

/-- Any other step leaves the part alone. -/
theorem Service.Step.only_of_not_about (h : Service.Step py toJson sv event sv')
    (habout : event.isAbout checkId = false) : sv'.only checkId = sv.only checkId := by
  have hid : event.checkId? ≠ some checkId := of_decide_eq_false habout
  cases h with
  | reject request response hreject => rfl
  | accept request id createdAt updatedAt haccept hfresh =>
    have hne : id ≠ checkId := fun heq => hid (congrArg some heq)
    have hstore : Dict.filterKeys (· = checkId)
        (sv.store.create id request.callbackUrl createdAt updatedAt) =
          sv.store.filterKeys (· = checkId) :=
      (Dict.filterKeys_set _ _ _ _).trans (if_neg (by simpa using hne))
    have hnew : [Job.mk id request (.created : JobState J)].filter (·.checkId = checkId) = [] := by
      simpa using hne
    unfold Service.only
    dsimp only
    rw [hstore, List.filter_append, hnew, List.append_nil]
  | job i job event store state hjob hstep =>
    have hne : job.checkId ≠ checkId := by
      rintro rfl
      exact hid hstep.checkId?_eq
    unfold Service.only
    dsimp only
    rw [hstep.only_of_ne hne, filter_set_of_neg hjob (decide_eq_false hne) (decide_eq_false hne)]
  | poll id => rfl

theorem Service.CheckStep.only (hinv : sv.Invariant)
    (h : Service.CheckStep env provider toJson sv event sv')
    (habout : event.isAbout checkId = true) :
    Service.CheckStep env provider toJson (sv.only checkId) event (sv'.only checkId) := by
  refine ⟨h.step.only hinv habout, ?_⟩
  intro job hjob outcome hstate
  obtain ⟨hmem, hid⟩ := List.mem_filter.mp hjob
  rcases h.invoked job hmem outcome hstate with hbefore | houtcome
  · exact Or.inl (List.mem_filter.mpr ⟨hbefore, hid⟩)
  · exact Or.inr houtcome

variable {trace : List (Event J × Service J)}

theorem Service.invariant_of_checkRun
    (h : Run (Service.CheckStep env provider toJson) (Service.initial J) trace sv) : sv.Invariant :=
  h.invariant Service.invariant_initial fun _ _ _ hinv hstep => hstep.step.invariant hinv

/-- **Every check runs as if it were the only one**: its events in a run of the service, among them what
polls of it see and what its callback carries, are a run of the service with nothing but the check. -/
theorem checks_independent
    (h : Run (Service.CheckStep env provider toJson) (Service.initial J) trace sv)
    (checkId : String) :
    Run (Service.CheckStep env provider toJson) (Service.initial J)
      ((trace.filter fun e => e.1.isAbout checkId).map fun e => (e.1, e.2.only checkId))
      (sv.only checkId) := by
  rw [← Service.only_initial checkId]
  exact h.project_about Service.invariant_initial (fun _ _ _ hinv hstep => hstep.step.invariant hinv)
    (fun _ _ _ hinv hstep habout => hstep.only hinv habout)
    fun _ _ _ _ hstep habout => hstep.step.only_of_not_about habout

end step

/-! ### The way of a check -/

/-- The place of an event on the way of the check; a poll is not on it. -/
def Event.stage? (checkId : String) (event : Event J) : Option ℕ :=
  if event.isAbout checkId then
    match event with
    | rejected _ _ => none
    | accepted _ _ => some 0
    | scheduled _ => some 1
    | markedRunning _ => some 2
    | invoked _ => some 3
    | markedCompleted _ => some 4
    | markedFailed _ => some 4
    | fetched _ => some 5
    | callback _ _ _ _ => some 6
    | polled _ _ => none
  else none

/-- How many of them there are behind a job, which may have to post its callback or not. -/
def JobState.stages (posts : Bool) : JobState J → ℕ
  | created => 1
  | scheduled => 2
  | running => 3
  | invoked _ => 4
  | marked => 5
  | sending => 6
  | finished => if posts then 7 else 6

/-- Whether the request asks for a callback. -/
def CandidateCheckRequest.posts (request : CandidateCheckRequest) : Bool :=
  (stated request.callbackUrl).isSome

section course

variable (env : Env) (provider : Except PyException (ModelTier → String))
  (toJson : CandidateState → Except PyException J)

/-- What the events so far have made of a job and its record. -/
structure Job.Follows (labels : List (Event J)) (job : Job J) (record : CheckRecord J) : Prop where
  accepted : .accepted job.request job.checkId ∈ labels
  shape : submitCheck env.toPyText job.request.toCandidateBatchInput = .ok ()
  url : record.callbackUrl = job.request.callbackUrl
  stages : labels.filterMap (Event.stage? job.checkId) =
    List.range (job.state.stages job.request.posts)
  invoked : ∀ outcome, job.state = .invoked outcome →
    CheckOutcome env provider toJson job.request outcome
  result : ∀ result, record.result = some result →
    CheckOutcome env provider toJson job.request (.ok result)
  error : ∀ error, record.error = some error →
    ∃ e : PyException, CheckOutcome env provider toJson job.request (.error e) ∧ e.str = error
  callback : ∀ url payload delivered, .callback job.checkId url payload delivered ∈ labels →
    job.state = .finished ∧ job.request.callbackUrl = some url ∧ payload = record.payload
  sending : job.state = .sending → job.request.posts = true

variable {env provider toJson} {labels : List (Event J)} {job : Job J} {record record' : CheckRecord J}
  {event : Event J} {store store' : CheckStore J} {state state' : JobState J} {checkId : String}

theorem Event.stage?_of_not_about (habout : event.isAbout checkId = false) :
    event.stage? checkId = none := by
  unfold Event.stage?
  rw [if_neg (Bool.eq_false_iff.mp habout)]

theorem Job.Follows.snoc (h : job.Follows env provider toJson labels record)
    (hstage : event.stage? job.checkId = none) :
    job.Follows env provider toJson (labels ++ [event]) record := by
  refine ⟨List.mem_append_left _ h.accepted, h.shape, h.url, ?_, h.invoked, h.result, h.error, ?_,
    h.sending⟩
  · rw [List.filterMap_append, List.filterMap_cons_none hstage, List.filterMap_nil, List.append_nil]
    exact h.stages
  · intro url payload delivered hmem
    rcases List.mem_append.mp hmem with hbefore | hnow
    · exact h.callback url payload delivered hbefore
    · rw [← List.mem_singleton.mp hnow] at hstage
      simp [Event.stage?, Event.isAbout, Event.checkId?] at hstage

/-- What a job does next is the next event on the way. -/
theorem JobStep.stage?_eq (h : JobStep toJson checkId store state event store' state') (posts : Bool) :
    event.stage? checkId = some (state.stages posts) := by
  cases h <;> simp [Event.stage?, Event.isAbout, Event.checkId?, JobState.stages]

theorem JobStep.ne_finished (h : JobStep toJson checkId store state event store' state') :
    state ≠ .finished := by
  cases h <;> exact nofun

/-- An event that is on the way takes the job one stage on. -/
theorem Job.Follows.advance (hf : job.Follows env provider toJson labels record)
    (hstage : event.stage? job.checkId = some (job.state.stages job.request.posts))
    (hfinished : job.state ≠ .finished)
    (hnext : state'.stages job.request.posts = job.state.stages job.request.posts + 1)
    (hurl : record'.callbackUrl = record.callbackUrl)
    (hinvoked : ∀ outcome, state' = .invoked outcome →
      CheckOutcome env provider toJson job.request outcome)
    (hresult : ∀ result, record'.result = some result →
      CheckOutcome env provider toJson job.request (.ok result))
    (herror : ∀ error, record'.error = some error →
      ∃ e : PyException, CheckOutcome env provider toJson job.request (.error e) ∧ e.str = error)
    (hcallback : ∀ url payload delivered, event = .callback job.checkId url payload delivered →
      state' = .finished ∧ job.request.callbackUrl = some url ∧ payload = record'.payload)
    (hsending : state' = .sending → job.request.posts = true) :
    Job.Follows env provider toJson (labels ++ [event]) { job with state := state' } record' := by
  refine ⟨List.mem_append_left _ hf.accepted, hf.shape, hurl.trans hf.url, ?_, hinvoked, hresult,
    herror, ?_, hsending⟩
  · rw [List.filterMap_append, hf.stages, List.filterMap_cons_some hstage, List.filterMap_nil]
    dsimp only
    rw [hnext, List.range_succ]
  · intro url payload delivered hmem
    rcases List.mem_append.mp hmem with hbefore | hnow
    · exact absurd (hf.callback url payload delivered hbefore).1 hfinished
    · exact hcallback url payload delivered (List.mem_singleton.mp hnow).symm

theorem JobStep.follows (h : JobStep toJson job.checkId store job.state event store' state')
    (hf : job.Follows env provider toJson labels record)
    (hrecord : store.get? job.checkId = some record)
    (hgenuine : ∀ outcome, state' = .invoked outcome →
      CheckOutcome env provider toJson job.request outcome)
    (hrecord' : store'.get? job.checkId = some record') :
    Job.Follows env provider toJson (labels ++ [event]) { job with state := state' } record' := by
  have hstage := h.stage?_eq job.request.posts
  have hfinished := h.ne_finished
  obtain ⟨checkId, request, state⟩ := job
  cases h with
  | schedule =>
    obtain rfl := Option.some.inj (hrecord.symm.trans hrecord')
    exact hf.advance hstage hfinished rfl rfl hgenuine hf.result hf.error (by rintro _ _ _ ⟨⟩) (by rintro ⟨⟩)
  | markRunning now =>
    obtain rfl := Option.some.inj ((get?_update_self hrecord _ now).symm.trans hrecord')
    exact hf.advance hstage hfinished rfl rfl hgenuine hf.result hf.error (by rintro _ _ _ ⟨⟩) (by rintro ⟨⟩)
  | invoke outcome =>
    obtain rfl := Option.some.inj (hrecord.symm.trans hrecord')
    exact hf.advance hstage hfinished rfl rfl hgenuine hf.result hf.error (by rintro _ _ _ ⟨⟩) (by rintro ⟨⟩)
  | markCompleted result now =>
    obtain rfl := Option.some.inj ((get?_update_self hrecord _ now).symm.trans hrecord')
    refine hf.advance hstage hfinished rfl rfl hgenuine ?_ hf.error (by rintro _ _ _ ⟨⟩) (by rintro ⟨⟩)
    intro result' hresult'
    obtain rfl := Option.some.inj hresult'
    exact hf.invoked _ rfl
  | markFailed e now =>
    obtain rfl := Option.some.inj ((get?_update_self hrecord _ now).symm.trans hrecord')
    refine hf.advance hstage hfinished rfl rfl hgenuine hf.result ?_ (by rintro _ _ _ ⟨⟩) (by rintro ⟨⟩)
    intro error herror
    obtain rfl := Option.some.inj herror
    exact ⟨e, hf.invoked _ rfl, rfl⟩
  | fetch =>
    obtain rfl := Option.some.inj (hrecord.symm.trans hrecord')
    have hfetch : afterFetch (store.get? checkId) =
        if request.posts then (.sending : JobState J) else .finished := by
      have hurl : record.callbackUrl = request.callbackUrl := hf.url
      rw [hrecord]
      unfold afterFetch CandidateCheckRequest.posts
      dsimp only
      rw [hurl]
      cases stated request.callbackUrl <;> rfl
    refine hf.advance hstage hfinished ?_ rfl hgenuine hf.result hf.error (by rintro _ _ _ ⟨⟩) ?_
    · show (afterFetch (store.get? checkId)).stages request.posts = _
      rw [hfetch]
      cases request.posts <;> rfl
    · intro hsending
      have hposts : afterFetch (store.get? checkId) = .sending := hsending
      rw [hfetch] at hposts
      by_contra hnot
      rw [if_neg hnot] at hposts
      cases hposts
  | callback record₀ url delivered hrecord₀ hurl =>
    obtain rfl := Option.some.inj (hrecord.symm.trans hrecord')
    obtain rfl := Option.some.inj (hrecord.symm.trans hrecord₀)
    refine hf.advance hstage hfinished ?_ rfl hgenuine hf.result hf.error
      ?_ (by rintro ⟨⟩)
    · have hposts : request.posts = true := hf.sending rfl
      show (JobState.finished : JobState J).stages request.posts = _
      rw [hposts]
      rfl
    · intro url' payload delivered' hevent
      cases hevent
      exact ⟨rfl, hf.url.symm.trans hurl, rfl⟩

end course

/-! ### What becomes of a check -/

section invoke

variable {env : Env} {toJson : CandidateState → Except PyException J} {request : CandidateCheckRequest}
  {llm : CandidateLLM}

/-- The request for the overall summary of a check. -/
def CandidateBatchInput.overallCall (c : CandidateBatchInput) (env : Env) (llm : CandidateLLM) :
    LLMRequest :=
  llm.forOverall.request (overallPrompts env c.subject (c.results env llm)) .overallSummary .reasoning

theorem invokeCheck_eq (hne : request.references ≠ []) :
    invokeCheck env toJson llm request = (do
      let result ← llm.overall (request.overallCall env llm)
      toJson (request.finalState env llm result.summary)) := by
  unfold invokeCheck
  rw [candidateGraph_invoke hne, Issue.result_bind, Issue.result_bind]
  show (llm.overall (request.overallCall env llm) >>= _) >>= _ = _
  cases llm.overall (request.overallCall env llm) with
  | error e => rfl
  | ok result => rfl

variable {provider : Except PyException (ModelTier → String)}

theorem checkOutcome_iff {outcome : Except PyException J} :
    CheckOutcome env provider toJson request outcome ↔
      (∃ e, provider = .error e ∧ outcome = .error e) ∨ ∃ llm : CandidateLLM,
        provider = .ok llm.getModel ∧ outcome = invokeCheck env toJson llm request := by
  constructor
  · rintro (⟨e, hprovider⟩ | ⟨llm, hprovider⟩)
    · exact Or.inl ⟨e, hprovider, rfl⟩
    · exact Or.inr ⟨llm, hprovider, rfl⟩
  · rintro (⟨e, hprovider, rfl⟩ | ⟨llm, hprovider, rfl⟩)
    · exact .noProvider e hprovider
    · exact .invoked llm hprovider

end invoke

section run

variable {env : Env} {provider : Except PyException (ModelTier → String)}
  {toJson : CandidateState → Except PyException J} {labels : List (Event J)} {sv sv' : Service J}
  {event : Event J} {trace : List (Event J × Service J)} {checkId : String} {record : CheckRecord J}

/-- What the events so far have made of all jobs. -/
structure Service.Followed (env : Env) (provider : Except PyException (ModelTier → String))
    (toJson : CandidateState → Except PyException J) (labels : List (Event J)) (sv : Service J) :
    Prop where
  jobs : ∀ job ∈ sv.jobs, ∀ record, sv.store.get? job.checkId = some record →
    job.Follows env provider toJson labels record
  fresh : ∀ checkId, sv.store.get? checkId = none → labels.filterMap (Event.stage? checkId) = []

theorem Service.Followed.of_off_way (hf : Service.Followed env provider toJson labels sv)
    (hstage : ∀ checkId, event.stage? checkId = none) :
    Service.Followed env provider toJson (labels ++ [event]) sv := by
  refine ⟨fun job hjob record hrecord => (hf.jobs job hjob record hrecord).snoc (hstage _), ?_⟩
  intro checkId hnone
  rw [List.filterMap_append, hf.fresh checkId hnone, List.filterMap_cons_none (hstage checkId)]
  rfl

theorem Event.not_about_of_ne (hid : event.checkId? = some checkId) {id : String} (hne : id ≠ checkId) :
    event.isAbout id = false := by
  unfold Event.isAbout
  rw [hid]
  exact decide_eq_false fun heq => hne (Option.some.inj heq).symm

theorem callback_not_mem (h : labels.filterMap (Event.stage? checkId) = []) (url : String)
    (payload : CallbackPayload J) (delivered : Except PyException Unit) :
    .callback checkId url payload delivered ∉ labels := by
  intro hmem
  have hsix : 6 ∈ labels.filterMap (Event.stage? checkId) := List.mem_filterMap.mpr
    ⟨_, hmem, by simp [Event.stage?, Event.isAbout, Event.checkId?]⟩
  rw [h] at hsix
  cases hsix

theorem Service.CheckStep.followed (hinv : sv.Invariant)
    (hf : Service.Followed env provider toJson labels sv)
    (h : Service.CheckStep env provider toJson sv event sv') :
    Service.Followed env provider toJson (labels ++ [event]) sv' := by
  obtain ⟨hstep, hgenuine⟩ := h
  cases hstep with
  | reject request response hreject =>
    exact hf.of_off_way fun _ => Event.stage?_of_not_about rfl
  | accept request id createdAt updatedAt haccept hfresh =>
    have hother : ∀ {checkId}, checkId ≠ id →
        (Event.accepted request id : Event J).stage? checkId = none := fun hne =>
      Event.stage?_of_not_about (Event.not_about_of_ne rfl hne)
    constructor
    · intro job hjob record hrecord
      rw [CheckStore.get?_create] at hrecord
      rcases List.mem_append.mp hjob with hold | hnew
      · have hne : job.checkId ≠ id := by
          rintro rfl
          obtain ⟨r, hr, -⟩ := hinv.matched job hold
          cases hfresh.symm.trans hr
        rw [if_neg hne] at hrecord
        exact (hf.jobs job hold record hrecord).snoc (hother hne)
      · obtain rfl := List.mem_singleton.mp hnew
        rw [if_pos rfl] at hrecord
        obtain rfl := Option.some.inj hrecord
        have hbefore := hf.fresh id hfresh
        refine ⟨List.mem_append_right _ (List.mem_singleton_self _), haccept, rfl, ?_, nofun, nofun,
          nofun, ?_, nofun⟩
        · rw [List.filterMap_append, hbefore]
          simp [Event.stage?, Event.isAbout, Event.checkId?, JobState.stages, List.range_succ]
        · intro url payload delivered hmem
          rcases List.mem_append.mp hmem with hin | hnow
          · exact absurd hin (callback_not_mem hbefore url payload delivered)
          · cases List.mem_singleton.mp hnow
    · intro checkId hnone
      rw [CheckStore.get?_create] at hnone
      have hne : checkId ≠ id := by
        rintro rfl
        rw [if_pos rfl] at hnone
        cases hnone
      rw [if_neg hne] at hnone
      rw [List.filterMap_append, hf.fresh checkId hnone, List.filterMap_cons_none (hother hne)]
      rfl
  | job i job event store state hjob hstep =>
    have hmem : job ∈ sv.jobs := List.mem_iff_getElem?.mpr ⟨i, hjob⟩
    obtain ⟨record, hrecord, hmatches⟩ := hinv.matched job hmem
    have hother : ∀ {checkId}, checkId ≠ job.checkId → event.stage? checkId = none := fun hne =>
      Event.stage?_of_not_about (Event.not_about_of_ne hstep.checkId?_eq hne)
    constructor
    · intro other hin record' hrecord'
      rcases mem_set_job hinv.distinct hjob hin with rfl | ⟨hold, hne⟩
      · refine hstep.follows (hf.jobs job hmem record hrecord) hrecord (fun outcome hstate => ?_) hrecord'
        rcases hgenuine _ hin outcome hstate with hbefore | houtcome
        · exact (hf.jobs _ hbefore record hrecord).invoked outcome hstate
        · exact houtcome
      · rw [hstep.get?_of_ne hne] at hrecord'
        exact (hf.jobs other hold record' hrecord').snoc (hother hne)
    · intro checkId hnone
      have hne : checkId ≠ job.checkId := by
        rintro rfl
        obtain ⟨r, hr, -⟩ := hstep.spec hrecord hmatches
        cases hnone.symm.trans hr
      dsimp only at hnone
      rw [hstep.get?_of_ne hne] at hnone
      rw [List.filterMap_append, hf.fresh checkId hnone, List.filterMap_cons_none (hother hne)]
      rfl
  | poll id =>
    refine hf.of_off_way fun checkId => ?_
    unfold Event.stage?
    split_ifs <;> rfl

theorem Service.followed_of_run
    (h : Run (Service.CheckStep env provider toJson) (Service.initial J) trace sv) :
    Service.Followed env provider toJson (trace.map Prod.fst) sv := by
  have hboth := h.invariant_labels
    (P := fun labels sv => sv.Invariant ∧ Service.Followed env provider toJson labels sv)
    ⟨Service.invariant_initial, fun _ hjob => absurd hjob List.not_mem_nil, fun _ _ => rfl⟩
    fun _ _ _ _ hboth hstep => ⟨hstep.step.invariant hboth.1, hstep.followed hboth.1 hboth.2⟩
  exact hboth.2

theorem JobState.stages_le (state : JobState J) (posts : Bool) : state.stages posts ≤ 7 := by
  cases state <;> cases posts <;> simp [JobState.stages]

/-- What holds of a check and its request after the events. -/
structure Service.RunsOnce (env : Env) (provider : Except PyException (ModelTier → String))
    (toJson : CandidateState → Except PyException J) (labels : List (Event J)) (sv : Service J)
    (checkId : String) (record : CheckRecord J) (request : CandidateCheckRequest) : Prop where
  /-- The request was accepted under the ID, with references that all have their input. -/
  accepted : .accepted request checkId ∈ labels
  valid : request.references ≠ [] ∧ ∀ ref ∈ request.references, ref.validateShape env.toPyText = .ok ()
  /-- Nothing happened to the check twice or out of order. -/
  inOrder : ∃ n ≤ 7, labels.filterMap (Event.stage? checkId) = List.range n
  /-- Once its job has finished everything has happened, the callback if there is to be one. -/
  complete : ∀ job ∈ sv.jobs, job.checkId = checkId → job.state = .finished →
    labels.filterMap (Event.stage? checkId) = List.range (if request.posts then 7 else 6)
  /-- A callback went to the URL of the request, with the record as it still is. -/
  callback : ∀ url payload delivered, .callback checkId url payload delivered ∈ labels →
    request.callbackUrl = some url ∧ payload.Carries checkId record
  /-- A result is what the graph makes of the request. -/
  completed : ∀ result, record.result = some result → ∃ (llm : CandidateLLM) (summary : OverallSummary),
    provider = .ok llm.getModel ∧ llm.overall (request.overallCall env llm) = .ok summary ∧
      toJson (request.finalState env llm summary.summary) = .ok result
  /-- An error is that of the provider, of the call for the overall summary or of the conversion. -/
  failed : ∀ error, record.error = some error → ∃ e : PyException, e.str = error ∧
    (provider = .error e ∨ ∃ llm : CandidateLLM, provider = .ok llm.getModel ∧
      (llm.overall (request.overallCall env llm) = .error e ∨ ∃ summary : OverallSummary,
        llm.overall (request.overallCall env llm) = .ok summary ∧
          toJson (request.finalState env llm summary.summary) = .error e))

theorem Service.runsOnce_of_run {job : Job J}
    (h : Run (Service.CheckStep env provider toJson) (Service.initial J) trace sv)
    (hjob : job ∈ sv.jobs) (hrecord : sv.store.get? job.checkId = some record) :
    Service.RunsOnce env provider toJson (trace.map Prod.fst) sv job.checkId record job.request := by
  have hinv := Service.invariant_of_checkRun h
  have hf := (Service.followed_of_run h).jobs job hjob record hrecord
  have hvalid := (submitCheck_ok_iff _ _).mp hf.shape
  refine ⟨hf.accepted, hvalid, ⟨_, job.state.stages_le _, hf.stages⟩, ?_, ?_, ?_, ?_⟩
  · intro other hother hid hfinished
    obtain rfl : other = job := List.inj_on_of_nodup_map hinv.distinct hother hjob hid
    rw [hf.stages, hfinished]
    rfl
  · intro url payload delivered hmem
    obtain ⟨-, hurl, rfl⟩ := hf.callback url payload delivered hmem
    exact ⟨hurl, .payload (hinv.named _ _ hrecord)⟩
  · intro result hresult
    rcases checkOutcome_iff.mp (hf.result result hresult) with
      ⟨e, -, houtcome⟩ | ⟨llm, hprovider, houtcome⟩
    · cases houtcome
    · rw [invokeCheck_eq hvalid.1] at houtcome
      obtain ⟨summary, hsummary, hjson⟩ := Except.bind_eq_ok.mp houtcome.symm
      exact ⟨llm, summary, hprovider, hsummary, hjson⟩
  · intro error herror
    obtain ⟨e, hgenuine, hstr⟩ := hf.error error herror
    refine ⟨e, hstr, ?_⟩
    rcases checkOutcome_iff.mp hgenuine with ⟨e', hprovider, houtcome⟩ | ⟨llm, hprovider, houtcome⟩
    · cases houtcome
      exact Or.inl hprovider
    · rw [invokeCheck_eq hvalid.1] at houtcome
      refine Or.inr ⟨llm, hprovider, ?_⟩
      rcases Except.bind_eq_error.mp houtcome.symm with hcall | ⟨summary, hsummary, hjson⟩
      · exact Or.inl hcall
      · exact Or.inr ⟨summary, hsummary, hjson⟩

/-- **Every check is worked on once, and for its own request**, whatever else the service does. -/
theorem check_runs_once
    (h : Run (Service.CheckStep env provider toJson) (Service.initial J) trace sv)
    (hrecord : sv.store.get? checkId = some record) :
    ∃ request, Service.RunsOnce env provider toJson (trace.map Prod.fst) sv checkId record request := by
  obtain ⟨job, hjob, rfl, -⟩ := (Service.invariant_of_checkRun h).exists_job hrecord
  exact ⟨job.request, Service.runsOnce_of_run h hjob hrecord⟩

end run

/-! ### Two checks at once -/

/-- A model that is there for the overall summary only. -/
def overallOnly : (m : OutputModel) → Except PyException m.Value
  | .overallSummary => .ok ⟨"Fine."⟩
  | .extractedFacts => .error (.raised "APIError" "overloaded")
  | .sentimentAndRedFlags => .error (.raised "APIError" "overloaded")
  | .discrepancyNotes => .error (.raised "APIError" "overloaded")
  | .finalSummary => .error (.raised "APIError" "overloaded")

def overallLLM : CandidateLLM where
  getModel _ := "large"
  reference _ rq := overallOnly rq.outputModel
  overall rq := overallOnly rq.outputModel

/-- A step of the service over this model. -/
abbrev OverallStep : Service CandidateState → Event CandidateState → Service CandidateState → Prop :=
  Service.CheckStep (.shipped .plain) (.ok overallLLM.getModel) .ok

/-- What the check of `callbackRequest` comes to: its reference fails, the check does not. -/
def overallOutcome : CandidateState :=
  callbackRequest.finalState (.shipped .plain) overallLLM "Fine."

theorem checkOutcome_overall : CheckOutcome (.shipped .plain) (.ok overallLLM.getModel) .ok
    callbackRequest (.ok overallOutcome) := by
  refine checkOutcome_iff.mpr (Or.inr ⟨overallLLM, rfl, ?_⟩)
  rw [invokeCheck_eq (by simp [callbackRequest])]
  rfl

/-- The service with two checks. -/
def twoChecks (store : CheckStore CandidateState) (first second : JobState CandidateState) :
    Service CandidateState :=
  ⟨store, [⟨"a1", callbackRequest, first⟩, ⟨"b2", callbackRequest, second⟩]⟩

theorem run_first {trace : List (Event CandidateState × Service CandidateState)}
    {store store' : CheckStore CandidateState} {state state' second : JobState CandidateState}
    {event : Event CandidateState}
    (h : Run OverallStep (Service.initial CandidateState) trace (twoChecks store state second))
    (hstep : JobStep .ok "a1" store state event store' state')
    (hgenuine : ∀ outcome, state' = .invoked outcome →
      CheckOutcome (.shipped .plain) (.ok overallLLM.getModel) .ok callbackRequest outcome) :
    Run OverallStep (Service.initial CandidateState)
      (trace ++ [(event, twoChecks store' state' second)]) (twoChecks store' state' second) := by
  refine h.snoc ⟨.job _ 0 ⟨"a1", callbackRequest, state⟩ event store' state' rfl hstep, ?_⟩
  intro job hjob outcome hstate
  rcases List.mem_cons.mp hjob with rfl | hrest
  · exact Or.inr (hgenuine outcome hstate)
  · exact Or.inl (List.mem_cons_of_mem _ hrest)

/-- The store when both checks are accepted. -/
def bothStore : CheckStore CandidateState :=
  (CheckStore.create .empty "a1" callbackRequest.callbackUrl 0 0).create "b2"
    callbackRequest.callbackUrl 1 1

def completedStore : CheckStore CandidateState :=
  (bothStore.markRunning "a1" 2).markCompleted "a1" overallOutcome 3

/-- The first check completes while the second one waits. -/
theorem exists_run_twoChecks : ∃ trace,
    Run OverallStep (Service.initial CandidateState) trace
      (twoChecks completedStore .marked .created) := by
  have haccepted : Run OverallStep (Service.initial CandidateState) _
      (⟨CheckStore.create .empty "a1" callbackRequest.callbackUrl 0 0,
        [⟨"a1", callbackRequest, .created⟩]⟩ : Service CandidateState) :=
    Run.nil.snoc ⟨.accept _ callbackRequest "a1" 0 0 (by decide) rfl, by simp⟩
  have hboth : Run OverallStep (Service.initial CandidateState) _
      (twoChecks bothStore .created .created) :=
    haccepted.snoc ⟨.accept _ callbackRequest "b2" 1 1 (by decide) rfl, by simp [twoChecks]⟩
  have hscheduled := run_first hboth .schedule (by rintro _ ⟨⟩)
  have hrunning := run_first hscheduled (.markRunning 2) (by rintro _ ⟨⟩)
  have hinvoked := run_first hrunning (.invoke (.ok overallOutcome)) (by
    rintro outcome ⟨⟩
    exact checkOutcome_overall)
  exact ⟨_, run_first hinvoked (.markCompleted overallOutcome 3) (by rintro _ ⟨⟩)⟩

theorem checks_independent_twoChecks : ∃ trace trace',
    Run OverallStep (Service.initial CandidateState) trace
        (twoChecks completedStore .marked .created) ∧
      Run OverallStep (Service.initial CandidateState) trace'
        ((twoChecks completedStore .marked .created).only "b2") := by
  obtain ⟨trace, hrun⟩ := exists_run_twoChecks
  exact ⟨trace, _, hrun, checks_independent hrun "b2"⟩

theorem check_runs_once_twoChecks : ∃ trace record request,
    completedStore.get? "a1" = some record ∧ record.result = some overallOutcome ∧
      Service.RunsOnce (.shipped .plain) (.ok overallLLM.getModel) .ok trace
        (twoChecks completedStore .marked .created) "a1" record request := by
  obtain ⟨trace, hrun⟩ := exists_run_twoChecks
  obtain ⟨record, hrecord, hresult⟩ : ∃ record : CheckRecord CandidateState,
      completedStore.get? "a1" = some record ∧ record.result = some overallOutcome := ⟨_, rfl, rfl⟩
  obtain ⟨request, honce⟩ := check_runs_once hrun hrecord
  exact ⟨_, record, request, hrecord, hresult, honce⟩

end RefCheck
