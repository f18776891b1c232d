import RefCheck.Service.Lifecycle

/-!
# Polls beside a running check

`_update` and `get_check` in the steps that the threads take: the writer holds the lock while it sets
the attributes one by one, while `store.get` returns the live record and releases the lock, so that
the reads of `get_check` fall anywhere between the writes. `Polling.Step` are these steps for one
check and any number of polls. A response is `Whole` when it shows no half-written outcome; whether it
is depends on the order of a few writes and reads (`polls_whole_iff`), and the lock does not exclude
the bad orders (`completed_without_result`).
-/

namespace RefCheck

open Transitions

variable {J : Type}

/-! ### The steps of `run_check` -/

/-- What the thread of `run_check` does to the store. -/
inductive RunnerAction (J : Type) where
  | acquire
  | write (a : Attribute J)
  | release

/-- The attribute that an action writes. -/
def RunnerAction.write? : RunnerAction J → Option (Attribute J)
  | acquire => none
  | write a => some a
  | release => none

/-- `_update(check_id, **kwargs)`, of a check that is there. -/
def updateActions (kwargs : List (Attribute J)) (now : Instant) : List (RunnerAction J) :=
  [.acquire] ++ (updateWrites kwargs now).map .write ++ [.release]

/-- The keyword arguments of the update that records the outcome. -/
def outcomeKwargs : Except String J → List (Attribute J)
  | .ok result => completedKwargs result
  | .error error => failedKwargs error

/-- `run_check`: it marks the check as running, records the outcome and gets the record. -/
def runCheckActions (outcome : Except String J) (startedAt endedAt : Instant) :
    List (RunnerAction J) :=
  updateActions (runningKwargs J) startedAt ++ updateActions (outcomeKwargs outcome) endedAt ++
    [.acquire, .release]

/-! ### The steps of all threads -/

/-- How far a call of `get_check` is. -/
inductive PollState (J : Type) where
  | waiting
  /-- It has the record and no lock. -/
  | got
  | readStatus (status : CheckStatus)
  | readResult (status : CheckStatus) (result : Option J)
  | done (response : CheckStatusResponse J)

/-- The record of a check, the lock, what `run_check` has still to do, and the polls. -/
structure Polling (J : Type) where
  record : CheckRecord J
  locked : Bool := false
  todo : List (RunnerAction J)
  polls : List (PollState J)

/-- A check that was created, before `run_check` runs. -/
def Polling.initial (record : CheckRecord J) (outcome : Except String J)
    (startedAt endedAt : Instant) (polls : ℕ) : Polling J where
  record := record
  todo := runCheckActions outcome startedAt endedAt
  polls := List.replicate polls .waiting

def Polling.perform (p : Polling J) : RunnerAction J → Polling J
  | .acquire => { p with locked := true }
  | .write a => { p with record := p.record.setattr a }
  | .release => { p with locked := false }

inductive PollingLabel (J : Type) where
  | runner (action : RunnerAction J)
  | get (i : ℕ)
  | readStatus (i : ℕ)
  | readResult (i : ℕ)
  | readError (i : ℕ)

def PollingLabel.action? : PollingLabel J → Option (RunnerAction J)
  | runner action => some action
  | get _ => none
  | readStatus _ => none
  | readResult _ => none
  | readError _ => none

/-- The reads of a poll. -/
def PollingLabel.readOf : PollingLabel J → Option ℕ
  | runner _ => none
  | get _ => none
  | readStatus i => some i
  | readResult i => some i
  | readError i => some i

/-- A step of one of the threads. -/
inductive Polling.Step : Polling J → PollingLabel J → Polling J → Prop
  | runner (p : Polling J) (action : RunnerAction J) (todo : List (RunnerAction J))
      (htodo : p.todo = action :: todo) (hfree : action = .acquire → p.locked = false) :
      Step p (.runner action) { p.perform action with todo }
  | get (p : Polling J) (i : ℕ) (hpoll : p.polls[i]? = some .waiting) (hfree : p.locked = false) :
      Step p (.get i) { p with polls := p.polls.set i .got }
  | readStatus (p : Polling J) (i : ℕ) (hpoll : p.polls[i]? = some .got) :
      Step p (.readStatus i) { p with polls := p.polls.set i (.readStatus p.record.status) }
  | readResult (p : Polling J) (i : ℕ) (status : CheckStatus)
      (hpoll : p.polls[i]? = some (.readStatus status)) :
      Step p (.readResult i) { p with polls := p.polls.set i (.readResult status p.record.result) }
  | readError (p : Polling J) (i : ℕ) (status : CheckStatus) (result : Option J)
      (hpoll : p.polls[i]? = some (.readResult status result)) :
      Step p (.readError i) { p with
        polls := p.polls.set i (.done ⟨p.record.checkId, status.value, result, p.record.error⟩) }

/-- The response shows an outcome as a whole, or none. -/
structure CheckStatusResponse.Whole (response : CheckStatusResponse J) : Prop where
  completed : response.status = CheckStatus.completed.value → response.result ≠ none
  failed : response.status = CheckStatus.failed.value → response.error ≠ none
  result : response.result ≠ none → response.status = CheckStatus.completed.value

/-! ### What the writes have made of the record -/

section writes

/-- The attributes written so far. -/
def performedWrites (labels : List (PollingLabel J)) : List (Attribute J) :=
  (labels.filterMap PollingLabel.action?).filterMap RunnerAction.write?

theorem mem_performedWrites {labels : List (PollingLabel J)} {a : Attribute J} :
    a ∈ performedWrites labels ↔ .runner (.write a) ∈ labels := by
  unfold performedWrites
  rw [List.mem_filterMap]
  constructor
  · rintro ⟨action, haction, hwrite⟩
    obtain ⟨label, hlabel, hlabelAction⟩ := List.mem_filterMap.mp haction
    cases label <;> cases hlabelAction
    cases action <;> cases hwrite
    exact hlabel
  · intro hlabel
    exact ⟨.write a, List.mem_filterMap.mpr ⟨_, hlabel, rfl⟩, rfl⟩

def Attribute.status? : Attribute J → Option CheckStatus
  | .status value => some value
  | .result _ => none
  | .error _ => none
  | .updatedAt _ => none

def Attribute.result? : Attribute J → Option J
  | .status _ => none
  | .result value => some value
  | .error _ => none
  | .updatedAt _ => none

def Attribute.error? : Attribute J → Option String
  | .status _ => none
  | .result _ => none
  | .error value => some value
  | .updatedAt _ => none

theorem foldl_setattr {V : Type} (get : CheckRecord J → Option V) (value? : Attribute J → Option V)
    (hset : ∀ record a, get (record.setattr a) = (value? a).or (get record))
    (writes : List (Attribute J)) (record : CheckRecord J) :
    get (writes.foldl CheckRecord.setattr record) =
      (writes.filterMap value?).getLast?.or (get record) := by
  induction writes using List.reverseRecOn with
  | nil => rfl
  | append_singleton writes a ih =>
    rw [List.foldl_append, List.foldl_cons, List.foldl_nil, hset, ih, List.filterMap_append]
    cases h : value? a with
    | none => simp [h]
    | some v => simp [h]

variable {outcome : Except String J} {startedAt endedAt : Instant} {writes : List (Attribute J)}
  {record : CheckRecord J}

/-- The writes of `run_check`, in order. -/
def runCheckWrites (outcome : Except String J) (startedAt endedAt : Instant) :
    List (Attribute J) :=
  updateWrites (runningKwargs J) startedAt ++ updateWrites (outcomeKwargs outcome) endedAt

theorem filterMap_runCheckActions (outcome : Except String J) (startedAt endedAt : Instant) :
    (runCheckActions outcome startedAt endedAt).filterMap RunnerAction.write? =
      runCheckWrites outcome startedAt endedAt := by
  cases outcome <;> rfl

theorem get?_runCheckWrites {store : CheckStore J} {checkId : String}
    (hrecord : store.get? checkId = some record) :
    ((store.markRunning checkId startedAt).update checkId (outcomeKwargs outcome) endedAt).get?
        checkId =
      some ((runCheckWrites outcome startedAt endedAt).foldl CheckRecord.setattr record) := by
  unfold CheckStore.markRunning
  rw [CheckStore.get?_update, if_pos rfl, CheckStore.get?_update, if_pos rfl, hrecord,
    Option.map_some, Option.map_some, ← List.foldl_append]
  rfl

theorem mem_filterMap_writes {V : Type} {value? : Attribute J → Option V} {mk : V → Attribute J}
    (hmk : ∀ a v, value? a = some v ↔ a = mk v) {v : V} :
    v ∈ writes.filterMap value? ↔ mk v ∈ writes := by
  rw [List.mem_filterMap]
  constructor
  · rintro ⟨a, ha, hvalue⟩
    rwa [← (hmk a v).mp hvalue]
  · intro ha
    exact ⟨mk v, ha, (hmk _ v).mpr rfl⟩

theorem eq_some_iff_written {V : Type} (get : CheckRecord J → Option V)
    (value? : Attribute J → Option V) {mk : V → Attribute J}
    (hset : ∀ record a, get (record.setattr a) = (value? a).or (get record))
    (hmk : ∀ a v, value? a = some v ↔ a = mk v) (hnone : get record = none)
    (honce : (writes.filterMap value?).length ≤ 1) (v : V) :
    get (writes.foldl CheckRecord.setattr record) = some v ↔ mk v ∈ writes := by
  rw [foldl_setattr get value? hset, hnone, Option.or_none, ← mem_filterMap_writes hmk]
  generalize writes.filterMap value? = values at honce
  cases values with
  | nil => simp
  | cons first rest =>
    obtain rfl : rest = [] := List.eq_nil_of_length_eq_zero (by simpa using honce)
    simp [eq_comm]

/-- The status that `run_check` ends with. -/
def endStatus : Except String J → CheckStatus
  | .ok _ => .completed
  | .error _ => .failed

theorem eq_of_prefix_pair {α : Type} {l : List α} {a b : α} (h : l <+: [a, b]) :
    l = [] ∨ l = [a] ∨ l = [a, b] := by
  rcases List.prefix_cons_iff.mp h with rfl | ⟨t, rfl, ht⟩
  · exact Or.inl rfl
  · rcases List.prefix_cons_iff.mp ht with rfl | ⟨u, rfl, hu⟩
    · exact Or.inr (Or.inl rfl)
    · rw [List.prefix_nil.mp hu]
      exact Or.inr (Or.inr rfl)

theorem status_mem_runCheckWrites {status : CheckStatus}
    (h : .status status ∈ runCheckWrites outcome startedAt endedAt) :
    status = .running ∨ status = endStatus outcome := by
  cases outcome with
  | ok result =>
    simpa [runCheckWrites, updateWrites, runningKwargs, outcomeKwargs, completedKwargs,
      endStatus] using h
  | error error =>
    simpa [runCheckWrites, updateWrites, runningKwargs, outcomeKwargs, failedKwargs,
      endStatus] using h

theorem result_mem_runCheckWrites {result : J}
    (h : .result result ∈ runCheckWrites outcome startedAt endedAt) : outcome = .ok result := by
  cases outcome with
  | ok result' =>
    have heq : result = result' := by
      simpa [runCheckWrites, updateWrites, runningKwargs, outcomeKwargs, completedKwargs] using h
    rw [heq]
  | error error => simp [runCheckWrites, updateWrites, runningKwargs, outcomeKwargs, failedKwargs] at h

theorem error_mem_runCheckWrites {error : String}
    (h : .error error ∈ runCheckWrites outcome startedAt endedAt) : outcome = .error error := by
  cases outcome with
  | ok result =>
    simp [runCheckWrites, updateWrites, runningKwargs, outcomeKwargs, completedKwargs] at h
  | error error' =>
    have heq : error = error' := by
      simpa [runCheckWrites, updateWrites, runningKwargs, outcomeKwargs, failedKwargs] using h
    rw [heq]

variable (hpending : record.Pending .queued)
  (hwrites : writes <+: runCheckWrites outcome startedAt endedAt)

include hpending hwrites

theorem status_eq_iff_written {status : CheckStatus} (hterminal : status.Terminal) :
    (writes.foldl CheckRecord.setattr record).status = status ↔ .status status ∈ writes := by
  have hmk : ∀ (a : Attribute J) v, a.status? = some v ↔ a = .status v := by
    intro a v
    cases a <;> simp [Attribute.status?]
  have hlast := foldl_setattr (fun r => some r.status) Attribute.status?
    (fun r a => by cases a <;> rfl) writes record
  have hprefix : writes.filterMap Attribute.status? <+: [.running, endStatus outcome] := by
    cases outcome with
    | ok result => exact hwrites.filterMap _
    | error error => exact hwrites.filterMap _
  rw [hpending.status] at hlast
  rw [← mem_filterMap_writes hmk, ← Option.some.injEq, hlast]
  have hvalues := eq_of_prefix_pair hprefix
  generalize writes.filterMap Attribute.status? = values at hvalues
  rcases hterminal with rfl | rfl
  · rcases hvalues with rfl | rfl | rfl <;> simp [eq_comm]
  · rcases hvalues with rfl | rfl | rfl <;> simp [eq_comm]

theorem result_eq_iff_written (result : J) :
    (writes.foldl CheckRecord.setattr record).result = some result ↔ .result result ∈ writes := by
  refine eq_some_iff_written CheckRecord.result Attribute.result? (fun r a => by cases a <;> rfl)
    (fun a v => by cases a <;> simp [Attribute.result?]) hpending.result ?_ result
  refine (hwrites.filterMap Attribute.result?).length_le.trans ?_
  cases outcome with
  | ok r => exact Nat.le_refl 1
  | error e => exact Nat.zero_le 1

theorem error_eq_iff_written (error : String) :
    (writes.foldl CheckRecord.setattr record).error = some error ↔ .error error ∈ writes := by
  refine eq_some_iff_written CheckRecord.error Attribute.error? (fun r a => by cases a <;> rfl)
    (fun a v => by cases a <;> simp [Attribute.error?]) hpending.error ?_ error
  refine (hwrites.filterMap Attribute.error?).length_le.trans ?_
  cases outcome with
  | ok r => exact Nat.zero_le 1
  | error e => exact Nat.le_refl 1

end writes

/-! ### What the polls have seen -/

section polls

/-- The attribute is written before the read. -/
def WrittenBefore (labels : List (PollingLabel J)) (a : Attribute J) (read : PollingLabel J) : Prop :=
  Precedes labels (.runner (.write a)) read

/-- What a poll has read, in terms of the writes before the reads. -/
structure SawStatus (labels : List (PollingLabel J)) (i : ℕ) (status : CheckStatus) : Prop where
  read : .readStatus i ∈ labels
  seen : ∀ s : CheckStatus, s.Terminal →
    (status = s ↔ WrittenBefore labels (.status s) (.readStatus i))

structure SawResult (labels : List (PollingLabel J)) (i : ℕ) (result : Option J) : Prop where
  read : .readResult i ∈ labels
  seen : ∀ v, result = some v ↔ WrittenBefore labels (.result v) (.readResult i)

structure SawError (labels : List (PollingLabel J)) (i : ℕ) (error : Option String) : Prop where
  read : .readError i ∈ labels
  seen : ∀ e, error = some e ↔ WrittenBefore labels (.error e) (.readError i)

/-- The reads of a poll that is so far. -/
def PollState.Matches (labels : List (PollingLabel J)) (i : ℕ) : PollState J → Prop
  | waiting => .readStatus i ∉ labels ∧ .readResult i ∉ labels ∧ .readError i ∉ labels
  | got => .readStatus i ∉ labels ∧ .readResult i ∉ labels ∧ .readError i ∉ labels
  | readStatus status =>
    SawStatus labels i status ∧ .readResult i ∉ labels ∧ .readError i ∉ labels
  | readResult status result =>
    SawStatus labels i status ∧ SawResult labels i result ∧ .readError i ∉ labels
  | done response => ∃ status, response.status = status.value ∧ SawStatus labels i status ∧
    SawResult labels i response.result ∧ SawError labels i response.error

variable {labels : List (PollingLabel J)} {l : PollingLabel J} {a : Attribute J} {i : ℕ}

theorem writtenBefore_snoc {l' : PollingLabel J} (hne : l' ≠ l) :
    WrittenBefore (labels ++ [l']) a l ↔ WrittenBefore labels a l := by
  unfold WrittenBefore
  rw [precedes_append_singleton, or_iff_left fun heq => hne heq.1]

theorem writtenBefore_read (hread : l ∉ labels) :
    WrittenBefore (labels ++ [l]) a l ↔ .runner (.write a) ∈ labels := by
  unfold WrittenBefore
  rw [precedes_append_singleton, or_iff_right fun hp => hread hp.mem, and_iff_right rfl]

theorem SawStatus.snoc {status : CheckStatus} (h : SawStatus labels i status)
    (hne : l ≠ .readStatus i) : SawStatus (labels ++ [l]) i status :=
  ⟨List.mem_append_left _ h.read, fun s hs => (h.seen s hs).trans (writtenBefore_snoc hne).symm⟩

theorem SawResult.snoc {result : Option J} (h : SawResult labels i result)
    (hne : l ≠ .readResult i) : SawResult (labels ++ [l]) i result :=
  ⟨List.mem_append_left _ h.read, fun v => (h.seen v).trans (writtenBefore_snoc hne).symm⟩

theorem SawError.snoc {error : Option String} (h : SawError labels i error)
    (hne : l ≠ .readError i) : SawError (labels ++ [l]) i error :=
  ⟨List.mem_append_left _ h.read, fun e => (h.seen e).trans (writtenBefore_snoc hne).symm⟩

theorem not_mem_snoc {l' : PollingLabel J} (h : l' ∉ labels) (hne : l ≠ l') : l' ∉ labels ++ [l] := by
  simpa [h] using hne.symm

/-- A step that is no read of the poll leaves it where it is. -/
theorem PollState.Matches.snoc {poll : PollState J} (h : poll.Matches labels i)
    (hne : l.readOf ≠ some i) : poll.Matches (labels ++ [l]) i := by
  have hstatus : l ≠ .readStatus i := by
    rintro rfl
    exact hne rfl
  have hresult : l ≠ .readResult i := by
    rintro rfl
    exact hne rfl
  have herror : l ≠ .readError i := by
    rintro rfl
    exact hne rfl
  cases poll with
  | waiting =>
    exact ⟨not_mem_snoc h.1 hstatus, not_mem_snoc h.2.1 hresult, not_mem_snoc h.2.2 herror⟩
  | got => exact ⟨not_mem_snoc h.1 hstatus, not_mem_snoc h.2.1 hresult, not_mem_snoc h.2.2 herror⟩
  | readStatus status =>
    exact ⟨h.1.snoc hstatus, not_mem_snoc h.2.1 hresult, not_mem_snoc h.2.2 herror⟩
  | readResult status result =>
    exact ⟨h.1.snoc hstatus, h.2.1.snoc hresult, not_mem_snoc h.2.2 herror⟩
  | done response =>
    obtain ⟨status, hvalue, hs, hr, he⟩ := h
    exact ⟨status, hvalue, hs.snoc hstatus, hr.snoc hresult, he.snoc herror⟩

end polls

/-! ### The invariant -/

section invariant

/-- What the labels so far say about the record and the polls. -/
structure Polling.Invariant (created : CheckRecord J) (program : List (RunnerAction J))
    (labels : List (PollingLabel J)) (p : Polling J) : Prop where
  performed : labels.filterMap PollingLabel.action? ++ p.todo = program
  record : p.record = (performedWrites labels).foldl CheckRecord.setattr created
  polls : ∀ (i : ℕ) (poll : PollState J), p.polls[i]? = some poll → poll.Matches labels i
  reads : ∀ i : ℕ, .readError i ∈ labels → i < p.polls.length

variable {created : CheckRecord J} {outcome : Except String J} {startedAt endedAt : Instant}
  {labels : List (PollingLabel J)} {l : PollingLabel J} {p p' : Polling J}

theorem performedWrites_snoc_of_action?_eq_none (h : l.action? = none) :
    performedWrites (labels ++ [l]) = performedWrites labels := by
  unfold performedWrites
  rw [List.filterMap_append, List.filterMap_cons_none h, List.filterMap_nil, List.append_nil]

theorem performedWrites_snoc_runner (action : RunnerAction J) :
    performedWrites (labels ++ [.runner action]) =
      performedWrites labels ++ [action].filterMap RunnerAction.write? := by
  unfold performedWrites
  rw [List.filterMap_append, List.filterMap_append]
  rfl

theorem Polling.perform_record (p : Polling J) (action : RunnerAction J) :
    (p.perform action).record =
      ([action].filterMap RunnerAction.write?).foldl CheckRecord.setattr p.record := by
  cases action <;> rfl

theorem Polling.perform_polls (p : Polling J) (action : RunnerAction J) :
    (p.perform action).polls = p.polls := by
  cases action <;> rfl

theorem Polling.Invariant.of_poll {program : List (RunnerAction J)}
    (hinv : p.Invariant created program labels) {i : ℕ} {poll poll' : PollState J}
    (hpoll : p.polls[i]? = some poll) (haction : l.action? = none)
    (hread : ∀ j, j ≠ i → l.readOf ≠ some j)
    (hmatches : poll.Matches labels i → poll'.Matches (labels ++ [l]) i) :
    Polling.Invariant created program (labels ++ [l]) { p with polls := p.polls.set i poll' } := by
  refine ⟨?_, ?_, ?_, ?_⟩
  · rw [List.filterMap_append, List.filterMap_cons_none haction, List.filterMap_nil, List.append_nil]
    exact hinv.performed
  · rw [performedWrites_snoc_of_action?_eq_none haction]
    exact hinv.record
  · intro j other hother
    rw [List.getElem?_set] at hother
    split_ifs at hother with hij hi
    · cases hother
      rw [← hij]
      exact hmatches (hinv.polls i poll hpoll)
    · exact (hinv.polls j other hother).snoc (hread j (Ne.symm hij))
  · intro j hj
    rw [List.length_set]
    rcases List.mem_append.mp hj with hold | hnew
    · exact hinv.reads j hold
    · obtain rfl : j = i := by
        by_contra hji
        refine hread j hji ?_
        rw [← List.mem_singleton.mp hnew]
        rfl
      exact (List.getElem?_eq_some_iff.mp hpoll).1

theorem Polling.Step.invariant (hpending : created.Pending .queued)
    (hinv : p.Invariant created (runCheckActions outcome startedAt endedAt) labels)
    (h : Polling.Step p l p') :
    p'.Invariant created (runCheckActions outcome startedAt endedAt) (labels ++ [l]) := by
  have hwrites : performedWrites labels <+: runCheckWrites outcome startedAt endedAt := by
    rw [← filterMap_runCheckActions, ← hinv.performed, List.filterMap_append]
    exact List.prefix_append _ _
  cases h with
  | runner action todo htodo hfree =>
    refine ⟨?_, ?_, ?_, ?_⟩
    · rw [← hinv.performed, htodo, List.filterMap_append, List.append_assoc]
      rfl
    · rw [performedWrites_snoc_runner, List.foldl_append, ← hinv.record]
      exact p.perform_record action
    · intro i poll hpoll
      rw [p.perform_polls] at hpoll
      exact (hinv.polls i poll hpoll).snoc nofun
    · intro i hi
      rw [p.perform_polls]
      refine hinv.reads i ?_
      simpa using hi
  | get i hpoll hfree =>
    refine hinv.of_poll hpoll rfl (fun _ _ => nofun) fun h => ?_
    exact ⟨not_mem_snoc h.1 nofun, not_mem_snoc h.2.1 nofun, not_mem_snoc h.2.2 nofun⟩
  | readStatus i hpoll =>
    refine hinv.of_poll hpoll rfl (fun j hj heq => hj (Option.some.inj heq).symm) fun h => ?_
    refine ⟨⟨by simp, fun s hs => ?_⟩, not_mem_snoc h.2.1 nofun, not_mem_snoc h.2.2 nofun⟩
    rw [writtenBefore_read h.1, hinv.record, status_eq_iff_written hpending hwrites hs,
      mem_performedWrites]
  | readResult i status hpoll =>
    refine hinv.of_poll hpoll rfl (fun j hj heq => hj (Option.some.inj heq).symm) fun h => ?_
    refine ⟨h.1.snoc nofun, ⟨by simp, fun v => ?_⟩, not_mem_snoc h.2.2 nofun⟩
    rw [writtenBefore_read h.2.1, hinv.record, result_eq_iff_written hpending hwrites, mem_performedWrites]
  | readError i status result hpoll =>
    refine hinv.of_poll hpoll rfl (fun j hj heq => hj (Option.some.inj heq).symm) fun h => ?_
    refine ⟨status, rfl, h.1.snoc nofun, h.2.1.snoc nofun, by simp, fun e => ?_⟩
    rw [writtenBefore_read h.2.2, hinv.record, error_eq_iff_written hpending hwrites, mem_performedWrites]

theorem Polling.invariant_initial (created : CheckRecord J) (outcome : Except String J)
    (startedAt endedAt : Instant) (n : ℕ) :
    (Polling.initial created outcome startedAt endedAt n).Invariant created
      (runCheckActions outcome startedAt endedAt) [] where
  performed := rfl
  record := rfl
  polls := by
    intro i poll hpoll
    have hmem : poll ∈ List.replicate n PollState.waiting := List.mem_of_getElem? hpoll
    rw [List.eq_of_mem_replicate hmem]
    exact ⟨List.not_mem_nil, List.not_mem_nil, List.not_mem_nil⟩
  reads := fun _ hread => absurd hread List.not_mem_nil

theorem Polling.invariant_of_run (hpending : created.Pending .queued) {n : ℕ}
    {trace : List (PollingLabel J × Polling J)}
    (h : Run Polling.Step (Polling.initial created outcome startedAt endedAt n) trace p) :
    p.Invariant created (runCheckActions outcome startedAt endedAt) (trace.map Prod.fst) :=
  h.invariant_labels (Polling.invariant_initial created outcome startedAt endedAt n)
    fun _ _ _ _ hinv hstep => hstep.invariant hpending hinv

end invariant

/-! ### Whole responses -/

section whole

variable {created : CheckRecord J} {outcome : Except String J} {startedAt endedAt : Instant}
  {labels : List (PollingLabel J)} {p : Polling J} {i : ℕ}

/-- What a poll reads of an outcome is on one side of the writes of the outcome: in a run that
completes, `status` is read after its write exactly if `result` is; in one that fails, `error` is
read after its write if `status` is. -/
def UnbrokenReads : Except String J → List (PollingLabel J) → ℕ → Prop
  | .ok result, labels, i =>
    WrittenBefore labels (.status .completed) (.readStatus i) ↔
      WrittenBefore labels (.result result) (.readResult i)
  | .error error, labels, i =>
    WrittenBefore labels (.status .failed) (.readStatus i) →
      WrittenBefore labels (.error error) (.readError i)

theorem CheckStatus.value_inj {s t : CheckStatus} : s.value = t.value ↔ s = t := by
  cases s <;> cases t <;> decide

theorem Polling.Invariant.mem_writes
    (hinv : p.Invariant created (runCheckActions outcome startedAt endedAt) labels)
    {a : Attribute J} {read : PollingLabel J} (h : WrittenBefore labels a read) :
    a ∈ runCheckWrites outcome startedAt endedAt := by
  rw [← filterMap_runCheckActions, ← hinv.performed, List.filterMap_append]
  exact List.mem_append_left _ (mem_performedWrites.mpr h.mem_left)

theorem ne_none_iff_seen {V : Type} {value : Option V} {seen : V → Prop} {v : V}
    (hseen : ∀ w, value = some w ↔ seen w) (honly : ∀ w, seen w → w = v) :
    value ≠ none ↔ seen v := by
  rw [Option.ne_none_iff_exists']
  constructor
  · rintro ⟨w, hw⟩
    have hsaw := (hseen w).mp hw
    rwa [← honly w hsaw]
  · intro hv
    exact ⟨v, (hseen v).mpr hv⟩

/-- A terminal status that a poll has seen is the one that `run_check` ends with. -/
theorem Polling.Invariant.eq_endStatus
    (hinv : p.Invariant created (runCheckActions outcome startedAt endedAt) labels)
    {status : CheckStatus} (hstatus : SawStatus labels i status) (hterminal : status.Terminal) :
    status = endStatus outcome := by
  have hwritten := (hstatus.seen status hterminal).mp rfl
  rcases status_mem_runCheckWrites (hinv.mem_writes hwritten) with hrunning | hend
  · rw [hrunning] at hterminal
    rcases hterminal with h | h <;> cases h
  · exact hend

/-- The response of a poll is whole exactly when its reads are unbroken. -/
theorem Polling.Invariant.whole_iff
    (hinv : p.Invariant created (runCheckActions outcome startedAt endedAt) labels)
    {response : CheckStatusResponse J} (hpoll : p.polls[i]? = some (.done response)) :
    response.Whole ↔ UnbrokenReads outcome labels i := by
  obtain ⟨status, hvalue, hstatus, hresult, herror⟩ := hinv.polls i _ hpoll
  have hwhole : response.Whole ↔ (status = .completed → response.result ≠ none) ∧
      (status = .failed → response.error ≠ none) ∧
        (response.result ≠ none → status = .completed) := by
    simp only [← CheckStatus.value_inj, ← hvalue]
    exact ⟨fun h => ⟨h.completed, h.failed, h.result⟩, fun h => ⟨h.1, h.2.1, h.2.2⟩⟩
  rw [hwhole]
  cases outcome with
  | ok result =>
    have hnot : status ≠ .failed := by
      rintro rfl
      cases hinv.eq_endStatus hstatus (Or.inr rfl)
    have hsome : response.result ≠ none ↔ WrittenBefore labels (.result result) (.readResult i) := by
      refine ne_none_iff_seen hresult.seen fun v hv => ?_
      exact (Except.ok.inj (result_mem_runCheckWrites (hinv.mem_writes hv))).symm
    rw [UnbrokenReads, ← hsome, ← hstatus.seen .completed (Or.inl rfl)]
    exact ⟨fun h => ⟨h.1, h.2.2⟩, fun h => ⟨h.mp, fun heq => absurd heq hnot, h.mpr⟩⟩
  | error error =>
    have hnot : status ≠ .completed := by
      rintro rfl
      cases hinv.eq_endStatus hstatus (Or.inl rfl)
    have hnone : response.result = none := by
      by_contra hne
      obtain ⟨v, hv⟩ := Option.ne_none_iff_exists'.mp hne
      cases result_mem_runCheckWrites (hinv.mem_writes ((hresult.seen v).mp hv))
    have hsome : response.error ≠ none ↔ WrittenBefore labels (.error error) (.readError i) := by
      refine ne_none_iff_seen herror.seen fun e he => ?_
      exact (Except.error.inj (error_mem_runCheckWrites (hinv.mem_writes he))).symm
    rw [UnbrokenReads, ← hsome, ← hstatus.seen .failed (Or.inr rfl)]
    exact ⟨fun h => h.2.1, fun h => ⟨fun heq => absurd heq hnot, h, fun hne => absurd hnone hne⟩⟩

theorem PollState.Matches.exists_done {poll : PollState J} (h : poll.Matches labels i)
    (hread : .readError i ∈ labels) : ∃ response, poll = .done response := by
  cases poll with
  | waiting => exact absurd hread h.2.2
  | got => exact absurd hread h.2.2
  | readStatus status => exact absurd hread h.2.2
  | readResult status result => exact absurd hread h.2.2
  | done response => exact ⟨response, rfl⟩

/-- No poll reports a half-written outcome exactly when the reads of every poll that has returned are
unbroken. -/
theorem polls_whole_iff (hpending : created.Pending .queued) {n : ℕ}
    {trace : List (PollingLabel J × Polling J)}
    (h : Run Polling.Step (Polling.initial created outcome startedAt endedAt n) trace p) :
    (∀ (i : ℕ) (response : CheckStatusResponse J),
      p.polls[i]? = some (.done response) → response.Whole) ↔
      ∀ i, .readError i ∈ trace.map Prod.fst →
        UnbrokenReads outcome (trace.map Prod.fst) i := by
  have hinv := Polling.invariant_of_run hpending h
  constructor
  · intro hwhole i hread
    have hpoll := List.getElem?_eq_getElem (hinv.reads i hread)
    obtain ⟨response, hresponse⟩ := (hinv.polls i _ hpoll).exists_done hread
    rw [hresponse] at hpoll
    exact (hinv.whole_iff hpoll).mp (hwhole i response hpoll)
  · intro hunbroken i response hpoll
    obtain ⟨status, -, -, -, herror⟩ := hinv.polls i _ hpoll
    exact (hinv.whole_iff hpoll).mpr (hunbroken i herror.read)

end whole

/-! ### A poll between the writes -/

def queuedRecord : CheckRecord String where
  checkId := "a1"
  createdAt := 0
  updatedAt := 0

theorem queuedRecord_pending : queuedRecord.Pending .queued := ⟨rfl, rfl, rfl⟩

/-- The poll gets the record before the last update takes the lock, and reads it after the status is
written and before the result is. -/
theorem exists_run_between : ∃ trace p,
    Run Polling.Step (Polling.initial queuedRecord (.ok "report") 1 2 1) trace p ∧
      p.polls[0]? = some (.done ⟨"a1", "completed", none, none⟩) := by
  have hacquired := Run.nil.snoc (Polling.Step.runner
    (Polling.initial queuedRecord (.ok "report") 1 2 1) .acquire _ rfl fun _ => rfl)
  have hrunning := hacquired.snoc (.runner _ (.write (.status .running)) _ rfl nofun)
  have hupdated := hrunning.snoc (.runner _ (.write (.updatedAt 1)) _ rfl nofun)
  have hreleased := hupdated.snoc (.runner _ .release _ rfl nofun)
  have hgot := hreleased.snoc (.get _ 0 rfl rfl)
  have hacquiredAgain := hgot.snoc (.runner _ .acquire _ rfl fun _ => rfl)
  have hcompleted := hacquiredAgain.snoc (.runner _ (.write (.status .completed)) _ rfl nofun)
  have hreadStatus := hcompleted.snoc (.readStatus _ 0 rfl)
  have hreadResult := hreadStatus.snoc (.readResult _ 0 _ rfl)
  exact ⟨_, _, hreadResult.snoc (.readError _ 0 _ _ rfl), rfl⟩

theorem not_whole_of_no_result {J : Type} {checkId : String} {error : Option String} :
    ¬ (CheckStatusResponse.mk checkId "completed" (none : Option J) error).Whole :=
  fun h => h.completed rfl rfl

theorem polls_whole_iff_between : ∃ trace p,
    Run Polling.Step (Polling.initial queuedRecord (.ok "report") 1 2 1) trace p ∧
      ¬ ∀ i, .readError i ∈ trace.map Prod.fst →
        UnbrokenReads (.ok "report") (trace.map Prod.fst) i := by
  obtain ⟨trace, p, hrun, hpoll⟩ := exists_run_between
  refine ⟨trace, p, hrun, fun hunbroken => ?_⟩
  exact not_whole_of_no_result
    ((polls_whole_iff queuedRecord_pending hrun).mpr hunbroken 0 _ hpoll)

/-- A poll may report a completed check without its result. -/
theorem completed_without_result : ∃ trace p, ∃ response : CheckStatusResponse String,
    Run Polling.Step (Polling.initial queuedRecord (.ok "report") 1 2 1) trace p ∧
      p.polls[0]? = some (.done response) ∧ response.status = "completed" ∧
      response.result = none ∧ ¬ response.Whole := by
  obtain ⟨trace, p, hrun, hpoll⟩ := exists_run_between
  exact ⟨trace, p, _, hrun, hpoll, rfl, rfl, not_whole_of_no_result⟩

end RefCheck
