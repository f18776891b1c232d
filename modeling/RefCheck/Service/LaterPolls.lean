import RefCheck.Lib.Sections
import RefCheck.Service.Polling

/-!
# Polls one after the other

A poll may meet an update halfway. A client that polls again never goes back, though: what a poll shows
lies between the record when it got it and the record when it returns (`Polling.exists_between`), and
it can only get the record while no update holds the lock, so between two updates. A poll that
begins after another one has shown an outcome, or half of it, therefore shows all of it
(`later_polls_settled`).
-/

namespace RefCheck

open Transitions Sections

variable {J : Type}

/-! ### How far an outcome is known -/

/-- What is known stays known. -/
def Known {V : Type} (a b : Option V) : Prop := ∀ v, a = some v → b = some v

namespace Known

variable {V : Type} {a b c : Option V}

theorem refl (a : Option V) : Known a a := fun _ h => h

theorem trans (h : Known a b) (h' : Known b c) : Known a c := fun v ha => h' v (h v ha)

theorem antisymm (h : Known a b) (h' : Known b a) : a = b := by
  cases a with
  | some v => exact (h v rfl).symm
  | none =>
    cases b with
    | none => rfl
    | some v => exact h' v rfl

end Known

namespace CheckStatus

/-- Queued before running before the two ends. -/
def Precedes (s t : CheckStatus) : Prop := s = t ∨ s = queued ∨ (s = running ∧ t ≠ queued)

instance (s t : CheckStatus) : Decidable (s.Precedes t) := inferInstanceAs (Decidable (_ ∨ _))

theorem Precedes.trans {s t u : CheckStatus} (h : s.Precedes t) (h' : t.Precedes u) : s.Precedes u := by
  revert h h'
  cases s <;> cases t <;> cases u <;> decide

theorem Precedes.antisymm {s t : CheckStatus} (h : s.Precedes t) (h' : t.Precedes s) : s = t := by
  revert h h'
  cases s <;> cases t <;> decide

theorem Precedes.eq_of_terminal {s t : CheckStatus} (h : s.Precedes t) (hterminal : s.Terminal) :
    t = s := by
  rcases hterminal with rfl | rfl
  · revert h
    cases t <;> decide
  · revert h
    cases t <;> decide

end CheckStatus

/-- What a record shows of its check. -/
structure Sight (J : Type) where
  checkId : String
  status : CheckStatus
  result : Option J
  error : Option String

/-- One sight is of the same check as the other, and no further. -/
structure Sight.Le (a b : Sight J) : Prop where
  checkId : a.checkId = b.checkId
  status : a.status.Precedes b.status
  result : Known a.result b.result
  error : Known a.error b.error

namespace Sight.Le

variable {a b c : Sight J}

theorem refl (a : Sight J) : a.Le a := ⟨rfl, Or.inl rfl, .refl _, .refl _⟩

theorem trans (h : a.Le b) (h' : b.Le c) : a.Le c :=
  ⟨h.checkId.trans h'.checkId, h.status.trans h'.status, h.result.trans h'.result,
    h.error.trans h'.error⟩

theorem antisymm (h : a.Le b) (h' : b.Le a) : a = b := by
  cases a
  cases b
  obtain rfl := h.checkId
  obtain rfl := h.status.antisymm h'.status
  obtain rfl := h.result.antisymm h'.result
  obtain rfl := h.error.antisymm h'.error
  rfl

end Sight.Le

def CheckRecord.sight (record : CheckRecord J) : Sight J :=
  ⟨record.checkId, record.status, record.result, record.error⟩

/-- The response that shows it. -/
def Sight.response (a : Sight J) : CheckStatusResponse J :=
  ⟨a.checkId, a.status.value, a.result, a.error⟩

/-! ### The record while `run_check` writes -/

section record

variable {created : CheckRecord J} {outcome : Except String J} {startedAt endedAt : Instant}
  {writes writes' : List (Attribute J)}

theorem status_eq_queued_iff (hpending : created.Pending .queued)
    (hwrites : writes <+: runCheckWrites outcome startedAt endedAt) :
    (writes.foldl CheckRecord.setattr created).status = .queued ↔ writes = [] := by
  have hlast := foldl_setattr (fun r => some r.status) Attribute.status?
    (fun r a => by cases a <;> rfl) writes created
  have hprefix : writes.filterMap Attribute.status? <+: [.running, endStatus outcome] := by
    cases outcome with
    | ok result => exact hwrites.filterMap _
    | error error => exact hwrites.filterMap _
  constructor
  · intro hqueued
    rw [hqueued] at hlast
    rcases List.prefix_cons_iff.mp hwrites with rfl | ⟨rest, rfl, -⟩
    · rfl
    · rcases eq_of_prefix_pair hprefix with hnone | hone | htwo
      · cases hnone
      · rw [hone] at hlast
        cases hlast
      · rw [htwo] at hlast
        cases outcome <;> cases hlast
  · rintro rfl
    exact hpending.status

/-- More writes only add to what the record shows. -/
theorem sight_le_of_prefix (hpending : created.Pending .queued)
    (hwrites' : writes' <+: runCheckWrites outcome startedAt endedAt) (h : writes <+: writes') :
    (writes.foldl CheckRecord.setattr created).sight.Le
      (writes'.foldl CheckRecord.setattr created).sight := by
  have hwrites := h.trans hwrites'
  refine ⟨?_, ?_, fun v hv => ?_, fun v hv => ?_⟩
  · exact (CheckStore.checkId_foldl_setattr writes created).trans
      (CheckStore.checkId_foldl_setattr writes' created).symm
  · show (writes.foldl CheckRecord.setattr created).status.Precedes
      (writes'.foldl CheckRecord.setattr created).status
    have hend : ∀ s : CheckStatus, s.Terminal →
        (writes.foldl CheckRecord.setattr created).status = s →
        (writes'.foldl CheckRecord.setattr created).status = s := fun s hs hstatus =>
      (status_eq_iff_written hpending hwrites' hs).mpr
        (h.subset ((status_eq_iff_written hpending hwrites hs).mp hstatus))
    cases hstatus : (writes.foldl CheckRecord.setattr created).status with
    | queued => exact Or.inr (Or.inl rfl)
    | running =>
      refine Or.inr (Or.inr ⟨rfl, fun hqueued => ?_⟩)
      have hnone := (status_eq_queued_iff hpending hwrites').mp hqueued
      rw [hnone, List.prefix_nil] at h
      rw [h] at hstatus
      exact absurd (hstatus.symm.trans hpending.status) (by decide)
    | completed => exact Or.inl (hend _ (Or.inl rfl) hstatus).symm
    | failed => exact Or.inl (hend _ (Or.inr rfl) hstatus).symm
  · exact (result_eq_iff_written hpending hwrites' v).mpr
      (h.subset ((result_eq_iff_written hpending hwrites v).mp hv))
  · exact (error_eq_iff_written hpending hwrites' v).mpr
      (h.subset ((error_eq_iff_written hpending hwrites v).mp hv))

end record

/-! ### The lock -/

/-- What an action makes of the lock. -/
def RunnerAction.hold (locked : Bool) : RunnerAction J → Bool
  | acquire => true
  | write _ => locked
  | release => false

/-- The critical sections of `run_check`: its two updates, and `store.get`. -/
def runCheckSections (outcome : Except String J) (startedAt endedAt : Instant) :
    List (List (RunnerAction J)) :=
  [updateActions (runningKwargs J) startedAt, updateActions (outcomeKwargs outcome) endedAt,
    [.acquire, .release]]

theorem flatten_runCheckSections (outcome : Except String J) (startedAt endedAt : Instant) :
    (runCheckSections outcome startedAt endedAt).flatten =
      runCheckActions outcome startedAt endedAt := by
  simp [runCheckSections, runCheckActions]

theorem isSection_updateActions (kwargs : List (Attribute J)) (now : Instant) :
    IsSection RunnerAction.hold (updateActions kwargs now) := by
  refine isSection_of_bracket (fun _ => rfl) ?_ fun _ => rfl
  intro a ha
  obtain ⟨w, -, rfl⟩ := List.mem_map.mp ha
  exact fun _ => rfl

theorem isSection_of_mem {outcome : Except String J} {startedAt endedAt : Instant}
    {s : List (RunnerAction J)} (hs : s ∈ runCheckSections outcome startedAt endedAt) :
    IsSection RunnerAction.hold s := by
  have hget : IsSection RunnerAction.hold (.acquire :: [] ++ [.release] : List (RunnerAction J)) :=
    isSection_of_bracket (fun _ => rfl) (fun _ ha => absurd ha List.not_mem_nil) fun _ => rfl
  simp only [runCheckSections, List.mem_cons, List.not_mem_nil, or_false] at hs
  rcases hs with rfl | rfl | rfl
  · exact isSection_updateActions _ _
  · exact isSection_updateActions _ _
  · exact hget

section lock

variable {created : CheckRecord J} {outcome : Except String J} {startedAt endedAt : Instant} {n : ℕ}
  {p p' : Polling J} {trace trace' : List (PollingLabel J × Polling J)}

theorem Polling.perform_locked (p : Polling J) (action : RunnerAction J) :
    (p.perform action).locked = action.hold p.locked := by
  cases action <;> rfl

theorem Polling.locked_of_run
    (h : Run Polling.Step (Polling.initial created outcome startedAt endedAt n) trace p) :
    p.locked = ((trace.map Prod.fst).filterMap PollingLabel.action?).foldl
      RunnerAction.hold false := by
  refine h.invariant_labels (P := fun labels p => p.locked = (labels.filterMap
    PollingLabel.action?).foldl RunnerAction.hold false) rfl ?_
  intro labels p l p' hlocked hstep
  rw [List.filterMap_append, List.foldl_append, ← hlocked]
  cases hstep with
  | runner action todo htodo hfree => exact p.perform_locked action
  | get i hpoll hfree => rfl
  | readStatus i hpoll => rfl
  | readResult i status hpoll => rfl
  | readError i status result hpoll => rfl

/-- While the lock is free the record is as before, between, or after the two updates. -/
theorem Polling.record_of_free (hpending : created.Pending .queued)
    (h : Run Polling.Step (Polling.initial created outcome startedAt endedAt n) trace p)
    (hfree : p.locked = false) :
    p.record = created ∨
      p.record = (updateWrites (runningKwargs J) startedAt).foldl CheckRecord.setattr created ∨
      p.record = (runCheckWrites outcome startedAt endedAt).foldl CheckRecord.setattr created := by
  have hinv := Polling.invariant_of_run hpending h
  have hdone : (trace.map Prod.fst).filterMap PollingLabel.action? <+:
      (runCheckSections outcome startedAt endedAt).flatten := by
    rw [flatten_runCheckSections, ← hinv.performed]
    exact List.prefix_append _ _
  obtain ⟨m, hm, hwhole⟩ := exists_take_of_free (fun s hs => isSection_of_mem hs) hdone
    ((Polling.locked_of_run h).symm.trans hfree)
  have hrecord := hinv.record
  unfold performedWrites at hrecord
  rw [hwhole] at hrecord
  have hlength : (runCheckSections outcome startedAt endedAt).length = 3 := rfl
  rw [hlength] at hm
  obtain rfl | rfl | rfl | rfl : m = 0 ∨ m = 1 ∨ m = 2 ∨ m = 3 := by omega
  · exact Or.inl hrecord
  · exact Or.inr (Or.inl hrecord)
  · refine Or.inr (Or.inr ?_)
    cases outcome <;> exact hrecord
  · refine Or.inr (Or.inr ?_)
    cases outcome <;> exact hrecord

theorem Polling.sight_le_of_run (hpending : created.Pending .queued)
    (h : Run Polling.Step (Polling.initial created outcome startedAt endedAt n) trace p)
    (h' : Run Polling.Step p trace' p') : p.record.sight.Le p'.record.sight := by
  have hinv := Polling.invariant_of_run hpending h
  have hinv' := Polling.invariant_of_run hpending (h.append h')
  have hall : performedWrites ((trace ++ trace').map Prod.fst) <+:
      runCheckWrites outcome startedAt endedAt := by
    rw [← filterMap_runCheckActions, ← hinv'.performed, List.filterMap_append]
    exact List.prefix_append _ _
  rw [hinv.record, hinv'.record]
  refine sight_le_of_prefix hpending hall ?_
  unfold performedWrites
  rw [List.map_append, List.filterMap_append, List.filterMap_append]
  exact List.prefix_append _ _

theorem Polling.sight_le_end (hpending : created.Pending .queued)
    (h : Run Polling.Step (Polling.initial created outcome startedAt endedAt n) trace p) :
    p.record.sight.Le
      ((runCheckWrites outcome startedAt endedAt).foldl CheckRecord.setattr created).sight := by
  have hinv := Polling.invariant_of_run hpending h
  rw [hinv.record]
  refine sight_le_of_prefix hpending (List.prefix_refl _) ?_
  rw [← filterMap_runCheckActions, ← hinv.performed, List.filterMap_append]
  exact List.prefix_append _ _

end lock

/-! ### What one poll sees -/

/-- A step of a poll, from one state to the next, with the record and the lock as they are. -/
inductive PollMove (record : CheckRecord J) (locked : Bool) : PollState J → PollState J → Prop
  | get (hfree : locked = false) : PollMove record locked .waiting .got
  | readStatus : PollMove record locked .got (.readStatus record.status)
  | readResult (status : CheckStatus) :
      PollMove record locked (.readStatus status) (.readResult status record.result)
  | readError (status : CheckStatus) (result : Option J) :
      PollMove record locked (.readResult status result)
        (.done ⟨record.checkId, status.value, result, record.error⟩)

section poll

variable {created : CheckRecord J} {outcome : Except String J} {startedAt endedAt : Instant} {n : ℕ}
  {p p' : Polling J} {l : PollingLabel J} {trace trace' : List (PollingLabel J × Polling J)}

theorem Polling.Step.poll (h : Polling.Step p l p') (j : ℕ) : p'.polls[j]? = p.polls[j]? ∨
    ∃ poll poll', p.polls[j]? = some poll ∧ p'.polls[j]? = some poll' ∧ p'.record = p.record ∧
      PollMove p.record p.locked poll poll' := by
  have hset : ∀ {i : ℕ} {old new : PollState J}, p.polls[i]? = some old → PollMove p.record p.locked old new →
      (p.polls.set i new)[j]? = p.polls[j]? ∨ ∃ poll poll', p.polls[j]? = some poll ∧
        (p.polls.set i new)[j]? = some poll' ∧ p.record = p.record ∧ PollMove p.record p.locked poll poll' := by
    intro i old new hold hmove
    by_cases hij : i = j
    · subst hij
      have hi := (List.getElem?_eq_some_iff.mp hold).1
      exact Or.inr ⟨old, new, hold, List.getElem?_set_self hi, rfl, hmove⟩
    · exact Or.inl (List.getElem?_set_ne hij)
  cases h with
  | runner action todo htodo hfree => exact Or.inl (by rw [p.perform_polls])
  | get i hpoll hfree => exact hset hpoll (.get hfree)
  | readStatus i hpoll => exact hset hpoll .readStatus
  | readResult i status hpoll => exact hset hpoll (.readResult status)
  | readError i status result hpoll => exact hset hpoll (.readError status result)

/-- What a poll has seen so far lies between the two. -/
def PollState.SeenBetween (lo hi : Sight J) : PollState J → Prop
  | waiting => False
  | got => True
  | readStatus status => lo.status.Precedes status ∧ status.Precedes hi.status
  | readResult status result =>
    (lo.status.Precedes status ∧ status.Precedes hi.status) ∧ Known lo.result result ∧
      Known result hi.result
  | done response => ∃ a : Sight J, response = a.response ∧ lo.Le a ∧ a.Le hi

theorem PollState.SeenBetween.mono {lo hi hi' : Sight J} {poll : PollState J}
    (h : poll.SeenBetween lo hi) (hle : hi.Le hi') : poll.SeenBetween lo hi' := by
  cases poll with
  | waiting => exact h
  | got => exact h
  | readStatus status => exact ⟨h.1, h.2.trans hle.status⟩
  | readResult status result => exact ⟨⟨h.1.1, h.1.2.trans hle.status⟩, h.2.1, h.2.2.trans hle.result⟩
  | done response =>
    obtain ⟨a, ha, hlo, hhi⟩ := h
    exact ⟨a, ha, hlo, hhi.trans hle⟩

theorem PollMove.seenBetween {record : CheckRecord J} {locked : Bool} {lo : Sight J} {poll poll' : PollState J}
    (h : PollMove record locked poll poll') (hlo : lo.Le record.sight)
    (hseen : poll.SeenBetween lo record.sight) : poll'.SeenBetween lo record.sight := by
  cases h with
  | get hfree => exact hseen.elim
  | readStatus => exact ⟨hlo.status, Or.inl rfl⟩
  | readResult status => exact ⟨hseen, hlo.result, .refl _⟩
  | readError status result =>
    obtain ⟨hstatus, hresult⟩ := hseen
    exact ⟨⟨record.checkId, status, result, record.error⟩, rfl,
      ⟨hlo.checkId, hstatus.1, hresult.1, hlo.error⟩, ⟨rfl, hstatus.2, hresult.2, .refl _⟩⟩

/-- What a poll shows lies between the record when it gets it, which it does while the lock is free, and
the record now. -/
theorem Polling.exists_between (hpending : created.Pending .queued)
    (h : Run Polling.Step (Polling.initial created outcome startedAt endedAt n) trace p)
    {j : ℕ} (hwaiting : p.polls[j]? = some .waiting) (h' : Run Polling.Step p trace' p')
    {poll : PollState J} (hpoll : p'.polls[j]? = some poll) (hbegun : poll ≠ .waiting) :
    ∃ g trace₁ trace₂, Run Polling.Step p trace₁ g ∧ g.locked = false ∧
      Run Polling.Step g trace₂ p' ∧ poll.SeenBetween g.record.sight p'.record.sight := by
  induction h' generalizing poll with
  | nil => exact absurd (Option.some.inj (hpoll.symm.trans hwaiting)) hbegun
  | @snoc trace' q p' l hq hstep ih =>
    have hle : q.record.sight.Le p'.record.sight :=
      Polling.sight_le_of_run hpending (h.append hq) (Run.nil.snoc hstep)
    rcases hstep.poll j with hsame | ⟨poll₀, poll₁, hbefore, hafter, hrecord, hmove⟩
    · rw [hsame] at hpoll
      obtain ⟨g, trace₁, trace₂, hg, hfree, hg', hseen⟩ := ih hpoll hbegun
      exact ⟨g, trace₁, _, hg, hfree, hg'.snoc hstep, hseen.mono hle⟩
    · obtain rfl := Option.some.inj (hafter.symm.trans hpoll)
      rw [hrecord]
      by_cases hfirst : poll₀ = .waiting
      · subst hfirst
        cases hmove with
        | get hfree => exact ⟨q, _, _, hq, hfree, Run.nil.snoc hstep, trivial⟩
      · obtain ⟨g, trace₁, trace₂, hg, hfree, hg', hseen⟩ := ih hbefore hfirst
        have hlo := Polling.sight_le_of_run hpending (h.append hg) hg'
        exact ⟨g, trace₁, _, hg, hfree, hg'.snoc hstep, hmove.seenBetween hlo hseen⟩

end poll

/-! ### A later poll -/

/-- The response is of the same check as the other, and no further. -/
def CheckStatusResponse.NoFurther (earlier later : CheckStatusResponse J) : Prop :=
  ∃ a b : Sight J, earlier = a.response ∧ later = b.response ∧ a.Le b

/-- The response shows an outcome, or half of it. -/
def CheckStatusResponse.ShowsOutcome (response : CheckStatusResponse J) : Prop :=
  response.status = CheckStatus.completed.value ∨ response.status = CheckStatus.failed.value ∨
    response.result ≠ none ∨ response.error ≠ none

section later

variable {created : CheckRecord J} {outcome : Except String J} {startedAt endedAt : Instant} {n : ℕ}
  {p p' : Polling J} {trace trace' : List (PollingLabel J × Polling J)}

theorem Sight.Le.not_pending {record : CheckRecord J} {a : Sight J} {status : CheckStatus}
    (h : a.Le record.sight) (hshows : a.response.ShowsOutcome) (hstatus : ¬ status.Terminal) :
    ¬ record.Pending status := by
  intro hpending
  have hterminal : ∀ s : CheckStatus, s.Terminal → a.response.status = s.value → False := by
    intro s hs hvalue
    have hsame := CheckStatus.value_inj.mp hvalue
    have hend : record.status = s := h.status.eq_of_terminal (by rwa [hsame]) |>.trans hsame
    exact hstatus (hpending.status ▸ hend ▸ hs)
  rcases hshows with hcompleted | hfailed | hresult | herror
  · exact hterminal _ (Or.inl rfl) hcompleted
  · exact hterminal _ (Or.inr rfl) hfailed
  · obtain ⟨v, hv⟩ := Option.ne_none_iff_exists'.mp hresult
    cases hpending.result.symm.trans (h.result v hv)
  · obtain ⟨e, he⟩ := Option.ne_none_iff_exists'.mp herror
    cases hpending.error.symm.trans (h.error e he)

theorem Polling.exists_sight (hpending : created.Pending .queued)
    (h : Run Polling.Step (Polling.initial created outcome startedAt endedAt n) trace p) {i : ℕ}
    {response : CheckStatusResponse J} (hdone : p.polls[i]? = some (.done response)) :
    ∃ a : Sight J, response = a.response ∧ a.Le p.record.sight := by
  have hwaiting : (Polling.initial created outcome startedAt endedAt n).polls[i]? =
      some .waiting := by
    cases hfirst : (Polling.initial created outcome startedAt endedAt n).polls[i]? with
    | some poll => rw [List.eq_of_mem_replicate (List.mem_of_getElem? hfirst)]
    | none =>
      have hnone : p.polls[i]? = none := by
        refine h.invariant (P := fun q => q.polls[i]? = none) hfirst ?_
        intro q l q' hq hstep
        rcases hstep.poll i with hsame | ⟨poll, poll', hbefore, -⟩
        · rw [hsame, hq]
        · cases hq.symm.trans hbefore
      cases hnone.symm.trans hdone
  obtain ⟨g, -, -, -, -, -, a, ha, -, hle⟩ :=
    Polling.exists_between hpending Run.nil hwaiting h hdone nofun
  exact ⟨a, ha, hle⟩

theorem CheckRecord.Ended.whole {record : CheckRecord J} (h : record.Ended) : record.response.Whole := by
  have hends : CheckStatus.completed.value ≠ CheckStatus.failed.value := by decide
  unfold CheckRecord.response
  cases h with
  | completed result hstatus hresult herror =>
    rw [hstatus, hresult]
    exact ⟨fun _ => nofun, fun hfailed => absurd hfailed hends, fun _ => rfl⟩
  | failed error hstatus hresult herror =>
    rw [hstatus, hresult, herror]
    exact ⟨fun hcompleted => absurd hcompleted hends.symm, fun _ => nofun,
      fun hresult => absurd rfl hresult⟩

theorem ended_runCheckWrites (hpending : created.Pending .queued) :
    ((runCheckWrites outcome startedAt endedAt).foldl CheckRecord.setattr created).Ended := by
  unfold runCheckWrites
  rw [List.foldl_append]
  cases outcome with
  | ok result => exact ended_completed (pending_running hpending startedAt) result endedAt
  | error error => exact ended_failed (pending_running hpending startedAt) error endedAt

/-- **A poll that begins after another one has returned shows no less, and once an outcome has shown
it shows the whole of it**: what the store holds after both updates, each taken as one step. -/
theorem later_polls_settled (hpending : created.Pending .queued)
    (h : Run Polling.Step (Polling.initial created outcome startedAt endedAt n) trace p) {i j : ℕ}
    {earlier later : CheckStatusResponse J} (hearlier : p.polls[i]? = some (.done earlier))
    (hwaiting : p.polls[j]? = some .waiting) (h' : Run Polling.Step p trace' p')
    (hlater : p'.polls[j]? = some (.done later)) :
    earlier.NoFurther later ∧ (earlier.ShowsOutcome → later.Whole ∧
      ∀ (store : CheckStore J) (checkId : String), store.get? checkId = some created →
        getCheck ((store.markRunning checkId startedAt).update checkId (outcomeKwargs outcome) endedAt)
          checkId = .ok later) := by
  obtain ⟨a, rfl, hap⟩ := Polling.exists_sight hpending h hearlier
  obtain ⟨g, trace₁, trace₂, hg, hfree, hg', b, rfl, hgb, hbp'⟩ :=
    Polling.exists_between hpending h hwaiting h' hlater nofun
  have hag : a.Le g.record.sight := hap.trans (Polling.sight_le_of_run hpending h hg)
  refine ⟨⟨a, b, rfl, rfl, hag.trans hgb⟩, fun hshows => ?_⟩
  -- the lock is free when the later poll gets the record, so both updates are done
  have hend : g.record = (runCheckWrites outcome startedAt endedAt).foldl CheckRecord.setattr
      created := by
    rcases Polling.record_of_free hpending (h.append hg) hfree with hqueued | hrunning | hended
    · exact absurd (hqueued ▸ hpending) (hag.not_pending hshows (by simp [CheckStatus.Terminal]))
    · exact absurd (hrunning ▸ pending_running hpending startedAt)
        (hag.not_pending hshows (by simp [CheckStatus.Terminal]))
    · exact hended
  have hbg : b.Le g.record.sight := by
    rw [hend]
    exact hbp'.trans (Polling.sight_le_end hpending (h.append h'))
  obtain rfl := hbg.antisymm hgb
  rw [hend]
  refine ⟨(ended_runCheckWrites hpending).whole, fun store checkId hcreated => ?_⟩
  unfold getCheck
  rw [get?_runCheckWrites hcreated]
  rfl

end later

/-- One of two polls has shown half of the outcome. -/
def halfShown : Polling String where
  record := { checkId := "a1", status := .completed, createdAt := 0, updatedAt := 1 }
  locked := true
  todo := [.write (.result "report"), .write (.updatedAt 2), .release, .acquire, .release]
  polls := [.done ⟨"a1", "completed", none, none⟩, .waiting]

theorem exists_run_again : ∃ trace trace' p',
    Run Polling.Step (Polling.initial queuedRecord (.ok "report") 1 2 2) trace halfShown ∧
      Run Polling.Step halfShown trace' p' ∧
      p'.polls[1]? = some (.done ⟨"a1", "completed", some "report", none⟩) := by
  have hacquired := Run.nil.snoc (Polling.Step.runner
    (Polling.initial queuedRecord (.ok "report") 1 2 2) .acquire _ rfl fun _ => rfl)
  have hrunning := hacquired.snoc (.runner _ (.write (.status .running)) _ rfl nofun)
  have hupdated := hrunning.snoc (.runner _ (.write (.updatedAt 1)) _ rfl nofun)
  have hreleased := hupdated.snoc (.runner _ .release _ rfl nofun)
  have hgot := hreleased.snoc (.get _ 0 rfl rfl)
  have hacquiredAgain := hgot.snoc (.runner _ .acquire _ rfl fun _ => rfl)
  have hcompleted := hacquiredAgain.snoc (.runner _ (.write (.status .completed)) _ rfl nofun)
  have hreadStatus := hcompleted.snoc (.readStatus _ 0 rfl)
  have hreadResult := hreadStatus.snoc (.readResult _ 0 _ rfl)
  have hdone := hreadResult.snoc (.readError _ 0 _ _ rfl)
  have hhalf : Run Polling.Step (Polling.initial queuedRecord (.ok "report") 1 2 2) _ halfShown := hdone
  have hresult := Run.nil.snoc (Polling.Step.runner halfShown (.write (.result "report")) _ rfl nofun)
  have hended := hresult.snoc (.runner _ (.write (.updatedAt 2)) _ rfl nofun)
  have hreleasedAgain := hended.snoc (.runner _ .release _ rfl nofun)
  have hgotAgain := hreleasedAgain.snoc (.get _ 1 rfl rfl)
  have hreadStatusAgain := hgotAgain.snoc (.readStatus _ 1 rfl)
  have hreadResultAgain := hreadStatusAgain.snoc (.readResult _ 1 _ rfl)
  exact ⟨_, _, _, hhalf, hreadResultAgain.snoc (.readError _ 1 _ _ rfl), rfl⟩

theorem later_polls_settled_again :
    (CheckStatusResponse.mk "a1" "completed" none none).NoFurther
        (CheckStatusResponse.mk "a1" "completed" (some "report") none) ∧
      (CheckStatusResponse.mk "a1" "completed" (some "report") none).Whole := by
  obtain ⟨trace, trace', p', h, h', hlater⟩ := exists_run_again
  have hearlier : halfShown.polls[0]? = some (.done ⟨"a1", "completed", none, none⟩) := rfl
  have hwaiting : halfShown.polls[1]? = some .waiting := rfl
  obtain ⟨hfurther, hsettled⟩ :=
    later_polls_settled queuedRecord_pending h hearlier hwaiting h' hlater
  exact ⟨hfurther, (hsettled (Or.inl rfl)).1⟩

end RefCheck
