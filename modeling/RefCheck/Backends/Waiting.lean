import Mathlib.Data.Rat.Floor
import RefCheck.Backends.BedrockResults
import RefCheck.Backends.Anthropic
import RefCheck.Lib.Deadline

/-!
# Waiting for batches

The waiting loops of `bedrock_batch.py` and `anthropic_batch.py`, which `Bedrock.Service` and
`Anthropic.Client` leave open. What a service reports at each poll and what the clock shows are given;
`waits_terminate` says how many polls there are, what they end in, and which jobs are polled.
-/

namespace RefCheck

open Deadline

/-! ### Settings -/

/-- The settings of `config.py` for waiting, in seconds. -/
structure WaitConfig where
  pollIntervalSeconds : ℚ
  maxWaitSeconds : ℚ

/-- `value or default`. -/
def orDefault (value : Option ℚ) (default : ℚ) : ℚ := (value.filter (· ≠ 0)).getD default

/-- The most polls that there may be of one job or batch. -/
def maxBatchPolls (config : WaitConfig) (pollInterval maxWait : Option ℚ) : ℕ :=
  maxPolls (orDefault maxWait config.maxWaitSeconds) (orDefault pollInterval config.pollIntervalSeconds)

/-! ### Bedrock -/

namespace Bedrock

/-- What `get_model_invocation_job` reports. -/
structure JobDescription where
  status : String
  message : Option String := none

/-- What a poll comes to: the branches of the loop on the status. -/
def judge (jobArn : String) (job : JobDescription) : Verdict PyException :=
  if job.status = "Completed" then .finished
  else if job.status = "Failed" ∨ job.status = "Stopped" then
    .failed (.raised "BatchError" ("Bedrock batch job " ++ jobArn ++ " ended with status=" ++ job.status
      ++ ": " ++ job.message.getD ""))
  else .unfinished

theorem judge_eq_finished_iff {jobArn : String} {job : JobDescription} :
    judge jobArn job = .finished ↔ job.status = "Completed" := by
  unfold judge
  split_ifs with hcompleted hfailed
  · exact iff_of_true rfl hcompleted
  · exact iff_of_false nofun hcompleted
  · exact iff_of_false nofun hcompleted

theorem exists_of_judge_eq_failed {jobArn : String} {job : JobDescription} {e : PyException}
    (h : judge jobArn job = .failed e) : ∃ message, e = .raised "BatchError" message := by
  unfold judge at h
  split_ifs at h
  cases h
  exact ⟨_, rfl⟩

/-- What is raised when the job takes too long. -/
def timeout (py : PyText) (jobArn : String) (maxWait : ℚ) (job : JobDescription) : PyException :=
  .raised "BatchError" ("Bedrock batch job " ++ jobArn ++ " did not finish within "
    ++ py.floatStr maxWait ++ "s (status=" ++ job.status ++ "); it may still complete -- check "
    ++ "get_model_invocation_job('" ++ jobArn ++ "') later.")

/-- How a job is waited for. -/
def jobPolicy (py : PyText) (jobArn : String) (maxWait : ℚ) : Policy JobDescription PyException ℚ where
  judge := judge jobArn
  timeout := timeout py jobArn maxWait
  maxWait := maxWait

/-- `_wait_for_single_job`: the number of polls, and how it ends. -/
def waitForSingleJob (py : PyText) (jobArn : String) (job : ℕ → JobDescription) (elapsed : ℕ → ℚ)
    (maxWait : ℚ) (fuel : ℕ) : Option (ℕ × Except PyException Unit) :=
  pollLoop (jobPolicy py jobArn maxWait) job elapsed fuel 0

/-- The loop over the jobs: the polls of each job that was waited for, and how the last one ended. -/
def waitForJobs (wait : String × String → Option (ℕ × Except PyException Unit)) :
    List (String × String) → Option (List (String × ℕ) × Except PyException Unit)
  | [] => some ([], .ok ())
  | job :: jobs => do
    let (polls, result) ← wait job
    match result with
    | .error e => return ([(job.1, polls)], .error e)
    | .ok () =>
      let (log, result) ← waitForJobs wait jobs
      return ((job.1, polls) :: log, result)

/-- `wait_for_batch`, with what is reported of the job of each model. -/
def waitForBatchPolling (py : PyText) (config : WaitConfig) (jobs : Dict String String)
    (job : String → ℕ → JobDescription) (pollInterval maxWait : Option ℚ)
    (clock : String → Clock (orDefault pollInterval config.pollIntervalSeconds)) (fuel : ℕ) :
    Option (List (String × ℕ) × Except PyException Unit) :=
  waitForJobs (fun entry => waitForSingleJob py entry.2 (job entry.1) (clock entry.1).elapsed
    (orDefault maxWait config.maxWaitSeconds) fuel) jobs.entries

theorem waitForJobs_congr {wait wait' : String × String → Option (ℕ × Except PyException Unit)}
    {entries : List (String × String)} (h : ∀ job ∈ entries, wait job = wait' job) :
    waitForJobs wait entries = waitForJobs wait' entries := by
  induction entries with
  | nil => rfl
  | cons job jobs ih =>
    unfold waitForJobs
    rw [h job List.mem_cons_self, ih fun job' hjob' => h job' (List.mem_cons_of_mem _ hjob')]

/-- The jobs of the log were waited for, one after the other, and ended. -/
def AllEnded (wait : String × String → Option (ℕ × Except PyException Unit))
    (entries : List (String × String)) (log : List (String × ℕ)) : Prop :=
  log.map Prod.fst = entries.map Prod.fst ∧
    ∀ p ∈ log, ∃ arn, wait (p.1, arn) = some (p.2, .ok ())

theorem AllEnded.cons {wait : String × String → Option (ℕ × Except PyException Unit)}
    {entries : List (String × String)} {log : List (String × ℕ)} (h : AllEnded wait entries log)
    {job : String × String} {polls : ℕ} (hjob : wait job = some (polls, .ok ())) :
    AllEnded wait (job :: entries) ((job.1, polls) :: log) := by
  constructor
  · rw [List.map_cons, List.map_cons, h.1]
  · rw [List.forall_mem_cons]
    exact ⟨⟨job.2, hjob⟩, h.2⟩

/-- The jobs are all waited for and end, or one of them raises and no further one is waited for. -/
theorem waitForJobs_eq_some (wait : String × String → Option (ℕ × Except PyException Unit))
    (entries : List (String × String)) (h : ∀ job ∈ entries, ∃ out, wait job = some out) :
    ∃ log result, waitForJobs wait entries = some (log, result) ∧
      ((result = .ok () ∧ AllEnded wait entries log) ∨
        ∃ before job after ended polls e, entries = before ++ job :: after ∧
          AllEnded wait before ended ∧ wait job = some (polls, .error e) ∧
          log = ended ++ [(job.1, polls)] ∧ result = .error e) := by
  induction entries with
  | nil => exact ⟨[], .ok (), rfl, .inl ⟨rfl, rfl, nofun⟩⟩
  | cons job jobs ih =>
    obtain ⟨⟨polls, result⟩, hwait⟩ := h job List.mem_cons_self
    unfold waitForJobs
    rw [hwait]
    cases result with
    | error e =>
      exact ⟨_, _, rfl, .inr ⟨[], job, jobs, [], polls, e, rfl, ⟨rfl, nofun⟩, hwait, rfl, rfl⟩⟩
    | ok u =>
      obtain ⟨log, result, hrest, hends⟩ := ih fun job' hjob' => h job' (List.mem_cons_of_mem _ hjob')
      refine ⟨(job.1, polls) :: log, result, ?_, ?_⟩
      · simp only [Option.bind_eq_bind, Option.bind_some, hrest]
        rfl
      · rcases hends with ⟨hok, hall⟩ | ⟨before, bad, after, ended, n, e, rfl, hall, hbad, rfl, herror⟩
        · exact .inl ⟨hok, hall.cons hwait⟩
        · exact .inr ⟨job :: before, bad, after, (job.1, polls) :: ended, n, e, rfl, hall.cons hwait,
            hbad, rfl, herror⟩

section single

variable {py : PyText} {jobArn : String} {job : ℕ → JobDescription} {elapsed : ℕ → ℚ} {maxWait : ℚ}
  {fuel polls : ℕ}

theorem status_of_waitForSingleJob_ok
    (h : waitForSingleJob py jobArn job elapsed maxWait fuel = some (polls, .ok ())) :
    ∃ n, polls = n + 1 ∧ (job n).status = "Completed" := by
  obtain ⟨n, rfl, -, hends, -⟩ := pollLoop_eq_some h
  cases hends with
  | finished hjudge => exact ⟨n, rfl, judge_eq_finished_iff.mp hjudge⟩

theorem status_of_waitForSingleJob_error {e : PyException}
    (h : waitForSingleJob py jobArn job elapsed maxWait fuel = some (polls, .error e)) :
    ∃ n message, polls = n + 1 ∧ (job n).status ≠ "Completed" ∧ e = .raised "BatchError" message := by
  obtain ⟨n, rfl, -, hends, -⟩ := pollLoop_eq_some h
  have hne : judge jobArn (job n) ≠ .finished := by
    intro hfinished
    cases hends with
    | failed _ hjudge => exact nomatch hfinished.symm.trans hjudge
    | timeout hjudge hlate => exact nomatch hfinished.symm.trans hjudge
  obtain ⟨message, rfl⟩ : ∃ message, e = .raised "BatchError" message := by
    cases hends with
    | failed _ hjudge => exact exists_of_judge_eq_failed hjudge
    | timeout hjudge hlate => exact ⟨_, rfl⟩
  exact ⟨n, message, rfl, fun hcompleted => hne (judge_eq_finished_iff.mpr hcompleted), rfl⟩

end single

section batch

variable {py : PyText} {config : WaitConfig} {pollInterval maxWait : Option ℚ}

/-- Waiting for one job comes to an end. -/
theorem exists_waitForSingleJob (py : PyText) (maxWait : Option ℚ)
    (hinterval : 0 < orDefault pollInterval config.pollIntervalSeconds) (jobArn : String)
    (job : ℕ → JobDescription) (clock : Clock (orDefault pollInterval config.pollIntervalSeconds)) :
    ∃ polls result, (∀ fuel, maxBatchPolls config pollInterval maxWait ≤ fuel →
        waitForSingleJob py jobArn job clock.elapsed (orDefault maxWait config.maxWaitSeconds) fuel =
          some (polls, result)) ∧
      polls ≤ maxBatchPolls config pollInterval maxWait := by
  obtain ⟨polls, result, hpoll, hle⟩ := exists_pollLoop
    (jobPolicy py jobArn (orDefault maxWait config.maxWaitSeconds)) job clock hinterval
    (le_refl (maxBatchPolls config pollInterval maxWait))
  exact ⟨polls, result, fun fuel hfuel => pollLoop_mono hfuel hpoll, hle⟩

theorem AllEnded.of_mem {polls : String × String → ℕ}
    {out : String × String → Except PyException Unit} {entries : List (String × String)}
    {log : List (String × ℕ)}
    (h : AllEnded (fun entry => some (polls entry, out entry)) entries log) {p : String × ℕ}
    (hp : p ∈ log) : ∃ entry, p.1 = entry.1 ∧ p.2 = polls entry ∧ out entry = .ok () := by
  obtain ⟨arn, hwait⟩ := h.2 p hp
  obtain ⟨hpolls, hout⟩ := Prod.mk.inj (Option.some.inj hwait)
  exact ⟨(p.1, arn), rfl, hpolls.symm, hout⟩

theorem waitForBatchPolling_eq_some (py : PyText)
    (hinterval : 0 < orDefault pollInterval config.pollIntervalSeconds) (jobs : Dict String String)
    (job : String → ℕ → JobDescription)
    (clock : String → Clock (orDefault pollInterval config.pollIntervalSeconds)) :
    ∃ log result,
      (∀ fuel, maxBatchPolls config pollInterval maxWait ≤ fuel →
        waitForBatchPolling py config jobs job pollInterval maxWait clock fuel = some (log, result)) ∧
      (∀ p ∈ log, p.2 ≤ maxBatchPolls config pollInterval maxWait) ∧
      log.map Prod.fst <+: jobs.keys ∧
      (result = .ok () → log.map Prod.fst = jobs.keys ∧
        ∀ p ∈ log, ∃ n, p.2 = n + 1 ∧ (job p.1 n).status = "Completed") ∧
      (result ≠ .ok () → ∃ message before model n, result = .error (.raised "BatchError" message) ∧
        log = before ++ [(model, n + 1)] ∧ (job model n).status ≠ "Completed" ∧
        ∀ p ∈ before, ∃ m, p.2 = m + 1 ∧ (job p.1 m).status = "Completed") := by
  choose polls out hpolls hle using fun entry : String × String =>
    exists_waitForSingleJob py maxWait hinterval entry.2 (job entry.1) (clock entry.1)
  have hended : ∀ {entries : List (String × String)} {log : List (String × ℕ)},
      AllEnded (fun entry => some (polls entry, out entry)) entries log → ∀ p ∈ log,
        p.2 ≤ maxBatchPolls config pollInterval maxWait ∧
          ∃ n, p.2 = n + 1 ∧ (job p.1 n).status = "Completed" := by
    intro entries log hall p hp
    obtain ⟨entry, hmodel, hcount, hout⟩ := hall.of_mem hp
    have hrun := hpolls entry _ le_rfl
    rw [hout] at hrun
    rw [hmodel, hcount]
    exact ⟨hle entry, status_of_waitForSingleJob_ok hrun⟩
  obtain ⟨log, result, hlog, hends⟩ := waitForJobs_eq_some
    (fun entry => some (polls entry, out entry)) jobs.entries fun entry _ => ⟨_, rfl⟩
  refine ⟨log, result, fun fuel hfuel => ?_, ?_⟩
  · rw [← hlog]
    exact waitForJobs_congr fun entry _ => hpolls entry fuel hfuel
  rcases hends with ⟨rfl, hall⟩ | ⟨before, bad, after, ended, n, e, hentries, hall, hbad, rfl, rfl⟩
  · refine ⟨fun p hp => (hended hall p hp).1, ?_, fun _ => ⟨hall.1, fun p hp => (hended hall p hp).2⟩,
      fun hne => absurd rfl hne⟩
    rw [hall.1]
    exact List.prefix_rfl
  · obtain ⟨m, message, rfl, hstatus, rfl⟩ :=
      status_of_waitForSingleJob_error ((hpolls bad _ le_rfl).trans hbad)
    refine ⟨?_, ?_, nofun, fun _ => ⟨message, ended, bad.1, m, rfl, rfl, hstatus, fun p hp =>
      (hended hall p hp).2⟩⟩
    · rw [List.forall_mem_append, List.forall_mem_singleton]
      obtain ⟨hpolls, -⟩ := Prod.mk.inj (Option.some.inj hbad)
      refine ⟨fun p hp => (hended hall p hp).1, ?_⟩
      dsimp only
      rw [← hpolls]
      exact hle _
    · rw [Dict.keys, hentries, List.map_append, List.map_append, hall.1, List.map_cons]
      exact ⟨after.map Prod.fst, by simp⟩

end batch

end Bedrock

/-! ### Anthropic -/

namespace Anthropic

/-- What a poll comes to. -/
def judge (processingStatus : String) : Verdict PyException :=
  if processingStatus = "ended" then .finished else .unfinished

/-- What is raised when the batch takes too long. -/
def timeout (py : PyText) (batchId : String) (maxWait : ℚ) (processingStatus : String) : PyException :=
  .raised "BatchError" ("Batch " ++ batchId ++ " did not finish within " ++ py.floatStr maxWait
    ++ "s (status=" ++ processingStatus ++ "); it may still complete -- check "
    ++ "client.messages.batches.retrieve('" ++ batchId ++ "') later.")

def batchPolicy (py : PyText) (batchId : String) (maxWait : ℚ) : Policy String PyException ℚ where
  judge := judge
  timeout := timeout py batchId maxWait
  maxWait := maxWait

/-- `wait_for_batch`: the number of polls, and how it ends. -/
def waitForBatchPolling (py : PyText) (config : WaitConfig) (batchId : String)
    (processingStatus : ℕ → String) (pollInterval maxWait : Option ℚ)
    (clock : Clock (orDefault pollInterval config.pollIntervalSeconds)) (fuel : ℕ) :
    Option (ℕ × Except PyException Unit) :=
  pollLoop (batchPolicy py batchId (orDefault maxWait config.maxWaitSeconds)) processingStatus
    clock.elapsed fuel 0

theorem judge_eq_finished_iff {processingStatus : String} :
    judge processingStatus = .finished ↔ processingStatus = "ended" := by
  unfold judge
  split_ifs with hended
  · exact iff_of_true rfl hended
  · exact iff_of_false nofun hended

theorem waitForBatchPolling_eq_some (py : PyText) {config : WaitConfig}
    {pollInterval maxWait : Option ℚ}
    (hinterval : 0 < orDefault pollInterval config.pollIntervalSeconds) (batchId : String)
    (processingStatus : ℕ → String)
    (clock : Clock (orDefault pollInterval config.pollIntervalSeconds)) :
    ∃ n result,
      (∀ fuel, maxBatchPolls config pollInterval maxWait ≤ fuel →
        waitForBatchPolling py config batchId processingStatus pollInterval maxWait clock fuel =
          some (n + 1, result)) ∧
      n + 1 ≤ maxBatchPolls config pollInterval maxWait ∧
      (result = .ok () → processingStatus n = "ended") ∧
      (result ≠ .ok () → processingStatus n ≠ "ended" ∧
        ∃ message, result = .error (.raised "BatchError" message)) := by
  obtain ⟨polls, result, hpoll, hle⟩ := exists_pollLoop
    (batchPolicy py batchId (orDefault maxWait config.maxWaitSeconds)) processingStatus clock hinterval
    (le_refl (maxBatchPolls config pollInterval maxWait))
  obtain ⟨n, rfl, -, hends, -⟩ := pollLoop_eq_some hpoll
  refine ⟨n, result, fun fuel hfuel => pollLoop_mono hfuel hpoll, hle, ?_⟩
  cases hends with
  | finished hjudge =>
    exact ⟨fun _ => judge_eq_finished_iff.mp hjudge, fun hne => absurd rfl hne⟩
  | failed error hjudge =>
    change judge (processingStatus n) = _ at hjudge
    unfold judge at hjudge
    split at hjudge <;> cases hjudge
  | timeout hjudge hlate =>
    refine ⟨nofun, fun _ => ⟨fun hended => ?_, _, rfl⟩⟩
    exact nomatch (judge_eq_finished_iff.mpr hended).symm.trans hjudge

end Anthropic

/-! ### Both -/

/-- **Waiting for batches terminates and never passes an unfinished job.** -/
theorem waits_terminate (py : PyText) (config : WaitConfig) (pollInterval maxWait : Option ℚ)
    (hinterval : 0 < orDefault pollInterval config.pollIntervalSeconds) :
    (∀ (jobs : Dict String String) (job : String → ℕ → Bedrock.JobDescription)
        (clock : String → Clock (orDefault pollInterval config.pollIntervalSeconds)),
      ∃ log result,
        (∀ fuel, maxBatchPolls config pollInterval maxWait ≤ fuel →
          Bedrock.waitForBatchPolling py config jobs job pollInterval maxWait clock fuel =
            some (log, result)) ∧
        (∀ p ∈ log, p.2 ≤ maxBatchPolls config pollInterval maxWait) ∧
        log.map Prod.fst <+: jobs.keys ∧
        (result = .ok () → log.map Prod.fst = jobs.keys ∧
          ∀ p ∈ log, ∃ n, p.2 = n + 1 ∧ (job p.1 n).status = "Completed") ∧
        (result ≠ .ok () → ∃ message before model n, result = .error (.raised "BatchError" message) ∧
          log = before ++ [(model, n + 1)] ∧ (job model n).status ≠ "Completed" ∧
          ∀ p ∈ before, ∃ m, p.2 = m + 1 ∧ (job p.1 m).status = "Completed")) ∧
    ∀ (batchId : String) (processingStatus : ℕ → String)
        (clock : Clock (orDefault pollInterval config.pollIntervalSeconds)),
      ∃ n result,
        (∀ fuel, maxBatchPolls config pollInterval maxWait ≤ fuel →
          Anthropic.waitForBatchPolling py config batchId processingStatus pollInterval maxWait clock
            fuel = some (n + 1, result)) ∧
        n + 1 ≤ maxBatchPolls config pollInterval maxWait ∧
        (result = .ok () → processingStatus n = "ended") ∧
        (result ≠ .ok () → processingStatus n ≠ "ended" ∧
          ∃ message, result = .error (.raised "BatchError" message)) :=
  ⟨Bedrock.waitForBatchPolling_eq_some py hinterval,
    Anthropic.waitForBatchPolling_eq_some py hinterval⟩

/-- A clock that shows the seconds of the sleeps and nothing else. -/
def sleepingClock (interval : ℚ) : Clock interval where
  start := 0
  reading n := n * interval
  start_le := by simp
  sleep_le n := by
    push_cast
    linarith

/-- A job that stays in a status which the code does not know is given up, and no other one is waited
for. -/
theorem waits_terminate_expired : ∃ polls message,
    Bedrock.waitForBatchPolling .plain ⟨30, 14400⟩ (.ofPairs [("large", "job-1"), ("small", "job-2")])
      (fun _ _ => ⟨"Expired", none⟩) (some 2) (some 5)
      (fun _ => sleepingClock (orDefault (some 2) 30)) 4 =
        some ([("large", polls)], .error (.raised "BatchError" message)) ∧
    polls ≤ 4 := by
  have hmax : maxBatchPolls ⟨30, 14400⟩ (some 2) (some 5) = 4 := by decide +kernel
  obtain ⟨hbedrock, -⟩ := waits_terminate .plain ⟨30, 14400⟩ (some 2) (some 5) (by decide +kernel)
  obtain ⟨log, result, hrun, hpolls, hkeys, hok, herror⟩ := hbedrock
    (.ofPairs [("large", "job-1"), ("small", "job-2")]) (fun _ _ => ⟨"Expired", none⟩)
    fun _ => sleepingClock (orDefault (some 2) 30)
  have hexpired : ∀ before : List (String × ℕ),
      (∀ p ∈ before, ∃ m, p.2 = m + 1 ∧ "Expired" = "Completed") → before = [] := by
    intro before hbefore
    refine List.eq_nil_iff_forall_not_mem.mpr fun p hp => ?_
    obtain ⟨m, -, hcompleted⟩ := hbefore p hp
    exact absurd hcompleted (by decide)
  have hne : result ≠ .ok () := by
    intro hresult
    obtain ⟨hall, hcompleted⟩ := hok hresult
    rw [hexpired log hcompleted] at hall
    cases hall
  obtain ⟨message, before, model, n, rfl, rfl, -, hbefore⟩ := herror hne
  obtain rfl := hexpired before hbefore
  obtain ⟨rest, hrest⟩ := hkeys
  obtain rfl : model = "large" := (List.cons.inj hrest).1
  rw [hmax] at hrun hpolls
  exact ⟨n + 1, message, hrun 4 le_rfl, hpolls _ List.mem_cons_self⟩

end RefCheck
