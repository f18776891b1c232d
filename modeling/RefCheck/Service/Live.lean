import RefCheck.Service.Checks
import RefCheck.Service.LaterPolls

/-!
# The service under its lock

`Service.Step` takes a call of the store as one step. For the other threads an update is more than one:
`_update` holds the lock while it sets one attribute of the live record after the other, and the reads of
`get_check`, which hold no lock, fall anywhere between. `LiveService.Step` are the steps of the service with
its updates taken apart, and those of any number of `GET`s. The store of the service is ahead of the live
record by the writes that are still to come, so that a `GET` never shows more than it holds
(`LiveService.Invariant.exists_sight`).
-/

namespace RefCheck

open Transitions

variable {J : Type}

/-! ### Updates and `GET`s under way -/

/-- An update that holds the lock. -/
structure Writing (J : Type) where
  checkId : String
  /-- The record as it is by now. -/
  record : CheckRecord J
  todo : List (Attribute J)

/-- A `GET` of a check. -/
structure Get (J : Type) where
  checkId : String
  poll : PollState J := .waiting

structure LiveService (J : Type) where
  service : Service J
  writing : Option (Writing J) := none
  gets : List (Get J) := []

def LiveService.initial (J : Type) : LiveService J := { service := Service.initial J }

/-- The record of a check as the threads share it. -/
def LiveService.visible (live : LiveService J) (checkId : String) : Option (CheckRecord J) :=
  match live.writing with
  | none => live.service.store.get? checkId
  | some writing =>
    if checkId = writing.checkId then some writing.record else live.service.store.get? checkId

/-- What a step of the service does with the store. -/
inductive StoreUse where
  | none
  /-- `create` or `get`, which are over when the lock is released. -/
  | call
  | update
  | poll
  deriving DecidableEq

def Event.storeUse : Event J → StoreUse
  | rejected _ _ => .none
  | accepted _ _ => .call
  | scheduled _ => .none
  | markedRunning _ => .update
  | invoked _ => .none
  | markedCompleted _ => .update
  | markedFailed _ => .update
  | fetched _ => .call
  | callback _ _ _ _ => .none
  | polled _ _ => .poll

/-- The update that a step of the service is, with its keyword arguments. -/
inductive Event.Updates : Event J → String → List (Attribute J) → Prop
  | running (checkId : String) : Updates (.markedRunning checkId) checkId (runningKwargs J)
  | completed (checkId : String) (result : J) :
      Updates (.markedCompleted checkId) checkId (completedKwargs result)
  | failed (checkId error : String) : Updates (.markedFailed checkId) checkId (failedKwargs error)

/-- The step need not wait: neither for the lock, nor for the thread that holds it. -/
def LiveService.Allows (live : LiveService J) (event : Event J) : Prop :=
  match live.writing with
  | none => event.storeUse = .none ∨ event.storeUse = .call
  | some writing => event.storeUse = .none ∧ event.checkId? ≠ some writing.checkId

inductive LiveEvent (J : Type) where
  | service (event : Event J)
  | write (a : Attribute J)
  | release
  | requested (checkId : String)
  | read (n : ℕ)

/-- What the service does. -/
def LiveEvent.service? : LiveEvent J → Option (Event J)
  | service event => some event
  | _ => none

/-- A step of one of the threads. A `GET` of a check that is unknown goes no further. -/
inductive LiveService.Step (env : Env) (provider : Except PyException (ModelTier → String))
    (toJson : CandidateState → Except PyException J) (live : LiveService J) :
    LiveEvent J → LiveService J → Prop
  | service (event : Event J) (service : Service J)
      (hstep : Service.CheckStep env provider toJson live.service event service)
      (hallowed : live.Allows event) : Step env provider toJson live (.service event) { live with service }
  /-- An update takes the lock and gets the record. -/
  | update (event : Event J) (service : Service J) (checkId : String) (kwargs : List (Attribute J))
      (now : Instant) (record : CheckRecord J)
      (hstep : Service.CheckStep env provider toJson live.service event service)
      (hfree : live.writing = none) (hupdates : event.Updates checkId kwargs)
      (hrecord : live.service.store.get? checkId = some record)
      (hstore : service.store = live.service.store.update checkId kwargs now) :
      Step env provider toJson live (.service event)
        { live with service, writing := some ⟨checkId, record, updateWrites kwargs now⟩ }
  | write (checkId : String) (record : CheckRecord J) (a : Attribute J) (todo : List (Attribute J))
      (hwriting : live.writing = some ⟨checkId, record, a :: todo⟩) :
      Step env provider toJson live (.write a)
        { live with writing := some ⟨checkId, record.setattr a, todo⟩ }
  | release (checkId : String) (record : CheckRecord J)
      (hwriting : live.writing = some ⟨checkId, record, []⟩) :
      Step env provider toJson live .release { live with writing := none }
  | request (checkId : String) :
      Step env provider toJson live (.requested checkId) { live with gets := live.gets ++ [{ checkId }] }
  | read (n : ℕ) (get : Get J) (record : CheckRecord J) (poll : PollState J)
      (hget : live.gets[n]? = some get) (hrecord : live.visible get.checkId = some record)
      (hmove : PollMove record live.writing.isSome get.poll poll) :
      Step env provider toJson live (.read n) { live with gets := live.gets.set n { get with poll } }

/-! ### Writes that only add -/

/-- Each of the writes only adds to what the record shows. -/
def CheckRecord.Grows : CheckRecord J → List (Attribute J) → Prop
  | _, [] => True
  | record, a :: todo => record.sight.Le (record.setattr a).sight ∧ (record.setattr a).Grows todo

/-- What a check shows when nothing is known of it. -/
def Sight.start (J : Type) (checkId : String) : Sight J := ⟨checkId, .queued, none, none⟩

section grows

variable {record : CheckRecord J} {todo : List (Attribute J)}

theorem CheckRecord.Grows.sight_le (h : record.Grows todo) :
    record.sight.Le (todo.foldl CheckRecord.setattr record).sight := by
  induction todo generalizing record with
  | nil => exact .refl _
  | cons a todo ih => exact h.1.trans (ih h.2)

theorem sight_le_setattr_status {status : CheckStatus} (h : record.status.Precedes status) :
    record.sight.Le (record.setattr (.status status)).sight :=
  ⟨rfl, h, .refl _, .refl _⟩

theorem sight_le_setattr_result (h : record.result = none) (result : J) :
    record.sight.Le (record.setattr (.result result)).sight := by
  refine ⟨rfl, Or.inl rfl, fun v hv => ?_, .refl _⟩
  cases h.symm.trans hv

theorem sight_le_setattr_error (h : record.error = none) (error : String) :
    record.sight.Le (record.setattr (.error error)).sight := by
  refine ⟨rfl, Or.inl rfl, .refl _, fun v hv => ?_⟩
  cases h.symm.trans hv

theorem grows_running (h : record.Pending .queued) (now : Instant) :
    record.Grows (updateWrites (runningKwargs J) now) :=
  ⟨sight_le_setattr_status (Or.inr (Or.inl h.status)), .refl _, trivial⟩

theorem grows_completed (h : record.Pending .running) (result : J) (now : Instant) :
    record.Grows (updateWrites (completedKwargs result) now) := by
  have hresult : (record.setattr (.status .completed)).result = none := h.result
  exact ⟨sight_le_setattr_status (Or.inr (Or.inr ⟨h.status, by decide⟩)),
    sight_le_setattr_result hresult result, .refl _, trivial⟩

theorem grows_failed (h : record.Pending .running) (error : String) (now : Instant) :
    record.Grows (updateWrites (failedKwargs error) now) := by
  have herror : (record.setattr (.status .failed)).error = none := h.error
  exact ⟨sight_le_setattr_status (Or.inr (Or.inr ⟨h.status, by decide⟩)),
    sight_le_setattr_error herror error, .refl _, trivial⟩

theorem Sight.start_le {a : Sight J} : (Sight.start J a.checkId).Le a :=
  ⟨rfl, Or.inr (Or.inl rfl), nofun, nofun⟩

end grows

section step

variable {env : Env} {provider : Except PyException (ModelTier → String)}
  {toJson : CandidateState → Except PyException J} {py : PyText} {sv sv' : Service J} {event : Event J}
  {live live' : LiveService J} {checkId id : String} {record : CheckRecord J}

theorem Service.Step.get?_of_storeUse (h : Service.Step py toJson sv event sv')
    (huse : event.storeUse ≠ .update) (hrecord : sv.store.get? id = some record) :
    sv'.store.get? id = some record := by
  cases h with
  | reject request response hreject => exact hrecord
  | accept request checkId createdAt updatedAt haccept hfresh =>
    have hne : id ≠ checkId := by
      rintro rfl
      cases hfresh.symm.trans hrecord
    rw [CheckStore.get?_create, if_neg hne, hrecord]
  | job i job event store state hjob hstep =>
    obtain ⟨jobId, request, jobState⟩ := job
    cases hstep with
    | schedule => exact hrecord
    | markRunning now => exact absurd rfl huse
    | invoke outcome => exact hrecord
    | markCompleted result now => exact absurd rfl huse
    | markFailed e now => exact absurd rfl huse
    | fetch => exact hrecord
    | callback record' url delivered hrecord' hurl => exact hrecord
  | poll id => exact hrecord

theorem Service.Step.grows (hinv : sv.Invariant) (h : Service.Step py toJson sv event sv')
    {kwargs : List (Attribute J)} (hupdates : event.Updates checkId kwargs)
    (hrecord : sv.store.get? checkId = some record) (now : Instant) :
    record.Grows (updateWrites kwargs now) := by
  cases h with
  | reject request response hreject => cases hupdates
  | accept request checkId createdAt updatedAt haccept hfresh => cases hupdates
  | job i job event store state hjob hstep =>
    obtain ⟨record', hrecord', hmatches⟩ := hinv.matched job (List.mem_iff_getElem?.mpr ⟨i, hjob⟩)
    obtain ⟨jobId, request, jobState⟩ := job
    cases hstep with
    | schedule => cases hupdates
    | markRunning now' =>
      cases hupdates
      obtain rfl := Option.some.inj (hrecord'.symm.trans hrecord)
      exact grows_running hmatches now
    | invoke outcome => cases hupdates
    | markCompleted result now' =>
      cases hupdates with
      | completed _ written =>
        obtain rfl := Option.some.inj (hrecord'.symm.trans hrecord)
        exact grows_completed hmatches written now
    | markFailed e now' =>
      cases hupdates with
      | failed _ written =>
        obtain rfl := Option.some.inj (hrecord'.symm.trans hrecord)
        exact grows_failed hmatches written now
    | fetch => cases hupdates
    | callback record url delivered hrecord hurl => cases hupdates
  | poll id => cases hupdates

theorem Event.Updates.checkId? {kwargs : List (Attribute J)} (h : event.Updates checkId kwargs) :
    event.checkId? = some checkId := by
  cases h <;> rfl

theorem LiveService.visible_of_free (h : live.writing = none) (id : String) :
    live.visible id = live.service.store.get? id := by
  unfold LiveService.visible
  rw [h]

theorem LiveService.visible_of_writing {writing : Writing J} (h : live.writing = some writing)
    (id : String) : live.visible id =
      if id = writing.checkId then some writing.record else live.service.store.get? id := by
  unfold LiveService.visible
  rw [h]

theorem LiveService.exists_visible (h : live.service.store.get? id = some record) :
    ∃ record', live.visible id = some record' := by
  cases hwriting : live.writing with
  | none => exact ⟨record, (LiveService.visible_of_free hwriting id).trans h⟩
  | some writing =>
    rw [LiveService.visible_of_writing hwriting]
    split_ifs
    · exact ⟨_, rfl⟩
    · exact ⟨record, h⟩

/-! ### The invariant -/

/-- The live record is short of what the service holds by the writes that are to come, and a `GET` has
seen no more than the live record shows. -/
structure LiveService.Invariant (live : LiveService J) : Prop where
  service : live.service.Invariant
  writing : ∀ writing, live.writing = some writing →
    live.service.store.get? writing.checkId =
        some (writing.todo.foldl CheckRecord.setattr writing.record) ∧
      writing.record.Grows writing.todo
  gets : ∀ (n : ℕ) (get : Get J), live.gets[n]? = some get → get.poll = .waiting ∨
    ∃ record, live.visible get.checkId = some record ∧
      get.poll.SeenBetween (.start J get.checkId) record.sight

theorem LiveService.invariant_initial : (LiveService.initial J).Invariant where
  service := Service.invariant_initial
  writing := by
    intro writing hwriting
    cases hwriting
  gets := by
    intro n get hget
    cases hget

theorem LiveService.Invariant.exists_record (hinv : live.Invariant)
    (hvisible : live.visible id = some record) :
    ∃ record', live.service.store.get? id = some record' ∧ record.sight.Le record'.sight := by
  cases hwriting : live.writing with
  | none =>
    rw [LiveService.visible_of_free hwriting] at hvisible
    exact ⟨record, hvisible, .refl _⟩
  | some writing =>
    rw [LiveService.visible_of_writing hwriting] at hvisible
    split_ifs at hvisible with hid
    · obtain ⟨hstore, hgrows⟩ := hinv.writing writing hwriting
      obtain rfl := Option.some.inj hvisible
      exact ⟨_, hid ▸ hstore, hgrows.sight_le⟩
    · exact ⟨record, hvisible, .refl _⟩

theorem LiveService.Invariant.start_le (hinv : live.Invariant) (hvisible : live.visible id = some record) :
    (Sight.start J id).Le record.sight := by
  obtain ⟨record', hrecord', hle⟩ := hinv.exists_record hvisible
  obtain rfl : record.checkId = id := hle.checkId.trans (hinv.service.named id record' hrecord')
  exact Sight.start_le (a := record.sight)

/-- What is visible of a check only grows. -/
theorem LiveService.Step.visible_mono (hinv : live.Invariant) {event : LiveEvent J}
    (h : LiveService.Step env provider toJson live event live') (hvisible : live.visible id = some record) :
    ∃ record', live'.visible id = some record' ∧ record.sight.Le record'.sight := by
  cases h with
  | service event service hstep hallowed =>
    refine ⟨record, ?_, .refl _⟩
    unfold LiveService.Allows at hallowed
    cases hwriting : live.writing with
    | none =>
      rw [hwriting] at hallowed
      rw [LiveService.visible_of_free hwriting] at hvisible
      rw [LiveService.visible_of_free rfl]
      exact hstep.step.get?_of_storeUse (by rcases hallowed with huse | huse <;> simp [huse]) hvisible
    | some writing =>
      rw [hwriting] at hallowed
      rw [LiveService.visible_of_writing hwriting] at hvisible
      rw [LiveService.visible_of_writing rfl]
      split_ifs at hvisible ⊢ with hid
      · exact hvisible
      · exact hstep.step.get?_of_storeUse (by simp [hallowed.1]) hvisible
  | update event service checkId kwargs now old hstep hfree hupdates hrecord hstore =>
    refine ⟨record, ?_, .refl _⟩
    rw [LiveService.visible_of_free hfree] at hvisible
    rw [LiveService.visible_of_writing rfl]
    dsimp only
    split_ifs with hid
    · rw [← hrecord, ← hid, hvisible]
    · rw [hstep.step.get?_of_ne (by rw [hupdates.checkId?]; simpa using Ne.symm hid), hvisible]
  | write checkId old a todo hwriting =>
    obtain ⟨-, hgrows⟩ := hinv.writing _ hwriting
    rw [LiveService.visible_of_writing hwriting] at hvisible
    rw [LiveService.visible_of_writing rfl]
    dsimp only at hvisible ⊢
    split_ifs at hvisible ⊢ with hid
    · obtain rfl := Option.some.inj hvisible
      exact ⟨_, rfl, hgrows.1⟩
    · exact ⟨record, hvisible, .refl _⟩
  | release checkId old hwriting =>
    obtain ⟨hstore, -⟩ := hinv.writing _ hwriting
    rw [LiveService.visible_of_writing hwriting] at hvisible
    rw [LiveService.visible_of_free rfl]
    dsimp only at hvisible hstore
    split_ifs at hvisible with hid
    · obtain rfl := Option.some.inj hvisible
      exact ⟨old, hid ▸ hstore, .refl _⟩
    · exact ⟨record, hvisible, .refl _⟩
  | request checkId => exact ⟨record, hvisible, .refl _⟩
  | read n get live' poll hget hrecord hmove => exact ⟨record, hvisible, .refl _⟩

theorem LiveService.Step.checkStep {event : LiveEvent J} {serviceEvent : Event J}
    (h : LiveService.Step env provider toJson live event live')
    (hservice : event.service? = some serviceEvent) :
    Service.CheckStep env provider toJson live.service serviceEvent live'.service := by
  cases h with
  | service event service hstep hallowed =>
    cases hservice
    exact hstep
  | update event service checkId kwargs now record hstep hfree hupdates hrecord hstore =>
    cases hservice
    exact hstep
  | write checkId record a todo hwriting => cases hservice
  | release checkId record hwriting => cases hservice
  | request checkId => cases hservice
  | read n get record poll hget hrecord hmove => cases hservice

theorem LiveService.Step.service_eq {event : LiveEvent J}
    (h : LiveService.Step env provider toJson live event live') (hservice : event.service? = none) :
    live'.service = live.service := by
  cases h with
  | service event service hstep hallowed => cases hservice
  | update event service checkId kwargs now record hstep hfree hupdates hrecord hstore => cases hservice
  | write checkId record a todo hwriting => rfl
  | release checkId record hwriting => rfl
  | request checkId => rfl
  | read n get record poll hget hrecord hmove => rfl

/-- What an update has still to write leads to what the service holds. -/
theorem LiveService.Step.writing_spec (hinv : live.Invariant) {event : LiveEvent J}
    (h : LiveService.Step env provider toJson live event live') {writing : Writing J}
    (hwriting' : live'.writing = some writing) :
    live'.service.store.get? writing.checkId =
        some (writing.todo.foldl CheckRecord.setattr writing.record) ∧
      writing.record.Grows writing.todo := by
  cases h with
  | service event service hstep hallowed =>
    obtain ⟨hstore, hgrows⟩ := hinv.writing writing hwriting'
    have hbusy : live.writing = some writing := hwriting'
    unfold LiveService.Allows at hallowed
    rw [hbusy] at hallowed
    exact ⟨hstep.step.get?_of_storeUse (by simp [hallowed.1]) hstore, hgrows⟩
  | update event service checkId kwargs now record hstep hfree hupdates hrecord hstore =>
    cases hwriting'
    dsimp only
    rw [hstore, get?_update_self hrecord]
    exact ⟨rfl, hstep.step.grows hinv.service hupdates hrecord now⟩
  | write checkId record a todo hwriting =>
    cases hwriting'
    obtain ⟨hstore, hgrows⟩ := hinv.writing _ hwriting
    exact ⟨hstore, hgrows.2⟩
  | release checkId record hwriting => cases hwriting'
  | request checkId => exact hinv.writing writing hwriting'
  | read n get record poll hget hrecord hmove => exact hinv.writing writing hwriting'

theorem LiveService.Invariant.seen_of_move (hinv : live.Invariant) {get : Get J} {locked : Bool}
    {poll : PollState J} (hseen : get.poll = .waiting ∨ ∃ record, live.visible get.checkId = some record ∧
      get.poll.SeenBetween (.start J get.checkId) record.sight)
    (hrecord : live.visible get.checkId = some record) (hmove : PollMove record locked get.poll poll) :
    poll.SeenBetween (.start J get.checkId) record.sight := by
  rcases hseen with hwaiting | ⟨record', hrecord', hseen⟩
  · rw [hwaiting] at hmove
    cases hmove with
    | get hfree => trivial
  · obtain rfl := Option.some.inj (hrecord'.symm.trans hrecord)
    exact hmove.seenBetween (hinv.start_le hrecord) hseen

theorem LiveService.Step.invariant (hinv : live.Invariant) {event : LiveEvent J}
    (h : LiveService.Step env provider toJson live event live') : live'.Invariant := by
  have hservice : live'.service.Invariant := by
    cases hevent : event.service? with
    | none =>
      rw [h.service_eq hevent]
      exact hinv.service
    | some serviceEvent => exact (h.checkStep hevent).step.invariant hinv.service
  -- a `GET` that is left alone has seen no more than before
  have hkept : ∀ (n : ℕ) (get : Get J), live.gets[n]? = some get → get.poll = .waiting ∨
      ∃ record, live'.visible get.checkId = some record ∧
        get.poll.SeenBetween (.start J get.checkId) record.sight := by
    intro n get hget
    refine (hinv.gets n get hget).imp_right fun ⟨record, hrecord, hseen⟩ => ?_
    obtain ⟨record', hrecord', hle⟩ := h.visible_mono hinv hrecord
    exact ⟨record', hrecord', hseen.mono hle⟩
  refine ⟨hservice, fun writing => h.writing_spec hinv, ?_⟩
  cases h with
  | service event service hstep hallowed => exact hkept
  | update event service checkId kwargs now record hstep hfree hupdates hrecord hstore => exact hkept
  | write checkId record a todo hwriting => exact hkept
  | release checkId record hwriting => exact hkept
  | request checkId =>
    intro n get hget
    rcases List.mem_append.mp (List.mem_of_getElem? hget) with hold | hnew
    · obtain ⟨m, hm⟩ := List.mem_iff_getElem?.mp hold
      exact hkept m get hm
    · obtain rfl := List.mem_singleton.mp hnew
      exact Or.inl rfl
  | read m old record poll hold hrecord hmove =>
    intro n get hget
    have hseen := hinv.seen_of_move (hinv.gets m old hold) hrecord hmove
    rw [List.getElem?_set] at hget
    split_ifs at hget with hmn hm
    · obtain rfl := Option.some.inj hget
      exact Or.inr ⟨record, hrecord, hseen⟩
    · exact hkept n get hget

/-- **What a `GET` returns shows no more than the service holds**, though it may show less: each of its
reads saw the record at some time. -/
theorem LiveService.Invariant.exists_sight (hinv : live.Invariant) {n : ℕ} {get : Get J}
    {response : CheckStatusResponse J} (hget : live.gets[n]? = some get)
    (hdone : get.poll = .done response) : ∃ (record : CheckRecord J) (a : Sight J),
      live.service.store.get? get.checkId = some record ∧ response = a.response ∧
        a.Le record.sight := by
  rcases hinv.gets n get hget with hwaiting | ⟨record, hrecord, hseen⟩
  · cases hdone.symm.trans hwaiting
  · rw [hdone] at hseen
    obtain ⟨a, ha, -, hle⟩ := hseen
    obtain ⟨record', hrecord', hle'⟩ := hinv.exists_record hrecord
    exact ⟨record', a, hrecord', ha, hle.trans hle'⟩

theorem LiveService.Step.done {event : LiveEvent J}
    (h : LiveService.Step env provider toJson live event live') {n : ℕ} {get : Get J}
    {response : CheckStatusResponse J} (hget : live.gets[n]? = some get)
    (hdone : get.poll = .done response) : live'.gets[n]? = some get := by
  cases h with
  | service event service hstep hallowed => exact hget
  | update event service checkId kwargs now record hstep hfree hupdates hrecord hstore => exact hget
  | write checkId record a todo hwriting => exact hget
  | release checkId record hwriting => exact hget
  | request checkId =>
    exact (List.getElem?_append_left (List.getElem?_eq_some_iff.mp hget).1).trans hget
  | read m old record poll hold hrecord hmove =>
    have hne : m ≠ n := by
      rintro rfl
      obtain rfl := Option.some.inj (hold.symm.trans hget)
      rw [hdone] at hmove
      cases hmove
    exact (List.getElem?_set_ne hne).trans hget

theorem LiveService.Step.exists_get {event : LiveEvent J}
    (h : LiveService.Step env provider toJson live event live') {n : ℕ} {get : Get J}
    (hget : live.gets[n]? = some get) : ∃ get', live'.gets[n]? = some get' ∧ get'.checkId = get.checkId := by
  cases h with
  | service event service hstep hallowed => exact ⟨get, hget, rfl⟩
  | update event service checkId kwargs now record hstep hfree hupdates hrecord hstore =>
    exact ⟨get, hget, rfl⟩
  | write checkId record a todo hwriting => exact ⟨get, hget, rfl⟩
  | release checkId record hwriting => exact ⟨get, hget, rfl⟩
  | request checkId =>
    exact ⟨get, (List.getElem?_append_left (List.getElem?_eq_some_iff.mp hget).1).trans hget, rfl⟩
  | read m old record poll hold hrecord hmove =>
    by_cases hmn : m = n
    · subst hmn
      obtain rfl := Option.some.inj (hold.symm.trans hget)
      exact ⟨_, List.getElem?_set_self (List.getElem?_eq_some_iff.mp hget).1, rfl⟩
    · exact ⟨get, (List.getElem?_set_ne hmn).trans hget, rfl⟩

end step

/-! ### Runs -/

section run

variable {env : Env} {provider : Except PyException (ModelTier → String)}
  {toJson : CandidateState → Except PyException J} {live : LiveService J}
  {trace : List (LiveEvent J × LiveService J)}

theorem LiveService.invariant_of_run
    (h : Run (LiveService.Step env provider toJson) (LiveService.initial J) trace live) : live.Invariant :=
  h.invariant LiveService.invariant_initial fun _ _ _ hinv hstep => hstep.invariant hinv

theorem LiveService.service_run
    (h : Run (LiveService.Step env provider toJson) (LiveService.initial J) trace live) :
    ∃ trace', Run (Service.CheckStep env provider toJson) (Service.initial J) trace' live.service := by
  have hkept : ∀ (s : LiveService J) (event : LiveEvent J) (s' : LiveService J) (serviceEvent : Event J),
      True → LiveService.Step env provider toJson s event s' → event.service? = some serviceEvent →
        Service.CheckStep env provider toJson s.service serviceEvent s'.service :=
    fun _ _ _ _ _ hstep hservice => hstep.checkStep hservice
  have hother : ∀ (s : LiveService J) (event : LiveEvent J) (s' : LiveService J), True →
      LiveService.Step env provider toJson s event s' → event.service? = none → s'.service = s.service :=
    fun _ _ _ _ hstep hservice => hstep.service_eq hservice
  exact ⟨_, h.project trivial (fun _ _ _ _ _ => trivial) hkept hother⟩

end run

end RefCheck
