import RefCheck.Backends.Location
import RefCheck.Lib.JsonText
import RefCheck.Lib.Transitions

/-!
# Objects and jobs

The bucket and the batch service as a transition system: any number of clients put input files and
create jobs for them, jobs write result files and end, and all this happens in any order. No two
clients have the same UUID. Then no job ever meets an object of another one (`Cloud.Invariant`): an
input file stays what it was when it was put, and under the output prefix of a job there are the files
that this job wrote (`cloud_isolated`).
-/

namespace RefCheck.Bedrock

open Transitions

/-! ### Locations of a job -/

/-- `job_name`. -/
def jobName (config : Config) (uuid : String) : String := config.jobNamePrefix ++ "-" ++ uuid

/-- `input_key`. -/
def inputKey (config : Config) (name : String) : String :=
  config.s3InputPrefix ++ "/" ++ name ++ ".jsonl"

/-- The arguments with which the job of a name is created. -/
def jobRequest (config : Config) (model name : String) : JobRequest where
  jobName := name
  roleArn := config.roleArn
  modelId := model
  inputUri := s3Uri config.s3Bucket (inputKey config name)
  outputUri := s3Uri config.s3Bucket (outputPrefix config name)

/-- The digits of a UUID. -/
def IsUuid (uuid : String) : Prop := uuid.toList.all JsonText.isHex = true

/-- The settings keep input files and results apart. -/
structure Config.Separate (config : Config) : Prop where
  bucket : '/' ∉ config.s3Bucket.toList
  name : '/' ∉ config.jobNamePrefix.toList
  apart : ¬ (config.s3OutputPrefix ++ "/" ++ config.jobNamePrefix ++ "-").toList <+:
    (config.s3InputPrefix ++ "/").toList

/-- The object is under the prefix. -/
def Under (keyPrefix key : String) : Prop := keyPrefix.toList <+: key.toList

theorem IsUuid.slash_not_mem {uuid : String} (h : IsUuid uuid) : '/' ∉ uuid.toList :=
  fun hmem => absurd (List.all_eq_true.mp h '/' hmem) (by decide)

theorem s3Uri_inj {bucket bucket' key key' : String} (hbucket : '/' ∉ bucket.toList)
    (hbucket' : '/' ∉ bucket'.toList) (h : s3Uri bucket key = s3Uri bucket' key') :
    bucket = bucket' ∧ key = key' := by
  have hlist := congrArg String.toList h
  simp only [s3Uri, String.toList_append, List.append_assoc] at hlist
  obtain ⟨hb, hk⟩ := Text.append_sep_inj hbucket hbucket' (List.append_cancel_left hlist)
  exact ⟨String.toList_inj.mp hb, String.toList_inj.mp hk⟩

/-- No object is under the output prefixes of two jobs. -/
theorem uuid_eq_of_under {config : Config} {uuid uuid' key : String} (huuid : IsUuid uuid)
    (huuid' : IsUuid uuid') (h : Under (outputPrefix config (jobName config uuid)) key)
    (h' : Under (outputPrefix config (jobName config uuid')) key) : uuid = uuid' := by
  obtain ⟨rest, hrest⟩ := h
  obtain ⟨rest', hrest'⟩ := h'
  have hlist := hrest.trans hrest'.symm
  simp only [outputPrefix, jobName, String.toList_append, List.append_assoc] at hlist
  have hcancel := List.append_cancel_left (List.append_cancel_left (List.append_cancel_left
    (List.append_cancel_left hlist)))
  exact String.toList_inj.mp
    (Text.append_sep_inj huuid.slash_not_mem huuid'.slash_not_mem hcancel).1

theorem Config.Separate.not_under {config : Config} (h : config.Separate) {uuid uuid' : String}
    (huuid : IsUuid uuid) :
    ¬ Under (outputPrefix config (jobName config uuid')) (inputKey config (jobName config uuid)) := by
  rintro ⟨rest, hrest⟩
  simp only [outputPrefix, inputKey, jobName, String.toList_append] at hrest
  have happ : (config.s3OutputPrefix ++ "/" ++ config.jobNamePrefix ++ "-").toList ++
      (uuid'.toList ++ '/' :: rest) = (config.s3InputPrefix ++ "/").toList ++
      (config.jobNamePrefix.toList ++ '-' :: (uuid.toList ++ ".jsonl".toList)) := by
    simpa [String.toList_append] using hrest
  -- either the input prefix goes on below an output prefix, or a slash is in the file name
  rcases List.append_eq_append_iff.mp happ with ⟨mid, hin, -⟩ | ⟨mid, -, hname⟩
  · exact h.apart ⟨mid, hin.symm⟩
  · have hslash : '/' ∈ config.jobNamePrefix.toList ++ '-' :: (uuid.toList ++ ".jsonl".toList) := by
      rw [hname]
      simp
    rw [List.mem_append, List.mem_cons, List.mem_append] at hslash
    rcases hslash with hmem | hmem | hmem | hmem
    · exact h.name hmem
    · exact absurd hmem (by decide)
    · exact huuid.slash_not_mem hmem
    · exact absurd hmem (by decide)

/-! ### The transition system -/

deriving instance DecidableEq for JobRequest

/-- A job, with the result files that it has written. -/
structure Job where
  request : JobRequest
  files : Dict String String := .empty
  completed : Bool := false

/-- The objects by bucket and key, and the jobs by ARN. -/
structure Cloud where
  objects : Dict (String × String) String
  jobs : Dict String Job

def Cloud.empty : Cloud := ⟨.empty, .empty⟩

inductive CloudLabel where
  | put (bucket key body : String)
  | create (request : JobRequest) (jobArn : String)
  | write (jobArn key body : String)
  | finish (jobArn : String)
  deriving DecidableEq

/-- The steps of the clients and of the jobs. What the result files of a job that ends have to do with
its input file is a parameter. -/
inductive CloudStep (config : Config)
    (Processes : String → String → List (String × String) → Prop) : Cloud → CloudLabel → Cloud → Prop
  /-- A client puts the input file of a job with a new UUID. -/
  | put {c : Cloud} {uuid body : String} (huuid : IsUuid uuid)
      (hnew : c.objects.get? (config.s3Bucket, inputKey config (jobName config uuid)) = none) :
      CloudStep config Processes c
        (.put config.s3Bucket (inputKey config (jobName config uuid)) body)
        { c with objects :=
            c.objects.set (config.s3Bucket, inputKey config (jobName config uuid)) body }
  /-- The client creates the job. -/
  | create {c : Cloud} {uuid model jobArn : String} (huuid : IsUuid uuid)
      (hname : ∀ arn job, c.jobs.get? arn = some job → job.request.jobName ≠ jobName config uuid)
      (harn : c.jobs.get? jobArn = none) :
      CloudStep config Processes c (.create (jobRequest config model (jobName config uuid)) jobArn)
        { c with jobs :=
            c.jobs.set jobArn { request := jobRequest config model (jobName config uuid) } }
  /-- A job writes a result file. -/
  | write {c : Cloud} {jobArn bucket keyPrefix key body : String} {job : Job}
      (hjob : c.jobs.get? jobArn = some job) (hrunning : job.completed = false)
      (hbucket : '/' ∉ bucket.toList) (huri : job.request.outputUri = s3Uri bucket keyPrefix)
      (hunder : Under keyPrefix key) :
      CloudStep config Processes c (.write jobArn key body)
        { objects := c.objects.set (bucket, key) body
          jobs := c.jobs.set jobArn { job with files := job.files.set key body } }
  /-- A job ends, having processed its input file. -/
  | finish {c : Cloud} {jobArn bucket key body : String} {job : Job}
      (hjob : c.jobs.get? jobArn = some job) (hrunning : job.completed = false)
      (hbucket : '/' ∉ bucket.toList) (huri : job.request.inputUri = s3Uri bucket key)
      (hinput : c.objects.get? (bucket, key) = some body)
      (hprocesses : Processes job.request.modelId body job.files.entries) :
      CloudStep config Processes c (.finish jobArn)
        { c with jobs := c.jobs.set jobArn { job with completed := true } }

/-! ### The invariant -/

section invariant

variable {config : Config} {Processes : String → String → List (String × String) → Prop}
  {labels : List CloudLabel} {c c' : Cloud} {l : CloudLabel}

/-- What holds in every state. -/
structure Cloud.Invariant (config : Config)
    (Processes : String → String → List (String × String) → Prop) (labels : List CloudLabel)
    (c : Cloud) : Prop where
  /-- Every job is one of the clients'. -/
  named : ∀ jobArn job, c.jobs.get? jobArn = some job → ∃ uuid model, IsUuid uuid ∧
    job.request = jobRequest config model (jobName config uuid)
  /-- No two jobs have the same name. -/
  distinct : ∀ arn job arn' job', c.jobs.get? arn = some job → c.jobs.get? arn' = some job' →
    job.request.jobName = job'.request.jobName → arn = arn'
  /-- What was put is there. -/
  puts : ∀ bucket key body, .put bucket key body ∈ labels →
    (∃ uuid, IsUuid uuid ∧ key = inputKey config (jobName config uuid)) ∧
      bucket = config.s3Bucket ∧ c.objects.get? (bucket, key) = some body
  /-- What was created is there. -/
  creates : ∀ request jobArn, .create request jobArn ∈ labels →
    ∃ job, c.jobs.get? jobArn = some job ∧ job.request = request
  /-- What a job wrote is there, under its output prefix. -/
  files : ∀ jobArn job, c.jobs.get? jobArn = some job → ∀ key body,
    job.files.get? key = some body →
      Under (outputPrefix config job.request.jobName) key ∧
        c.objects.get? (config.s3Bucket, key) = some body
  /-- The files of a job are those that it wrote. -/
  writes : ∀ jobArn job, c.jobs.get? jobArn = some job → ∀ key body,
    job.files.get? key = some body → .write jobArn key body ∈ labels
  /-- Nothing else is there. -/
  objects : ∀ bucket key body, c.objects.get? (bucket, key) = some body → bucket = config.s3Bucket ∧
    ((∃ uuid, IsUuid uuid ∧ key = inputKey config (jobName config uuid) ∧
        .put bucket key body ∈ labels) ∨
      ∃ jobArn job, c.jobs.get? jobArn = some job ∧ job.files.get? key = some body)
  /-- A job that has ended has processed its input file. -/
  ended : ∀ jobArn job, c.jobs.get? jobArn = some job → job.completed = true →
    ∃ body, c.objects.get? (config.s3Bucket, inputKey config job.request.jobName) = some body ∧
      Processes job.request.modelId body job.files.entries

theorem Cloud.invariant_empty : Cloud.empty.Invariant config Processes [] where
  named := nofun
  distinct := nofun
  puts := nofun
  creates := nofun
  files := nofun
  writes := nofun
  objects := nofun
  ended := nofun

theorem Cloud.Invariant.location (h : c.Invariant config Processes labels) {jobArn : String} {job : Job}
    (hjob : c.jobs.get? jobArn = some job) :
    job.request.inputUri = s3Uri config.s3Bucket (inputKey config job.request.jobName) ∧
    job.request.outputUri = s3Uri config.s3Bucket (outputPrefix config job.request.jobName) := by
  obtain ⟨uuid, model, -, hrequest⟩ := h.named _ _ hjob
  rw [hrequest]
  exact ⟨rfl, rfl⟩

theorem Cloud.Invariant.eq_of_under (h : c.Invariant config Processes labels) {arn arn' key : String}
    {job job' : Job} (hjob : c.jobs.get? arn = some job) (hjob' : c.jobs.get? arn' = some job')
    (hunder : Under (outputPrefix config job.request.jobName) key)
    (hunder' : Under (outputPrefix config job'.request.jobName) key) : arn = arn' := by
  obtain ⟨uuid, model, huuid, hrequest⟩ := h.named _ _ hjob
  obtain ⟨uuid', model', huuid', hrequest'⟩ := h.named _ _ hjob'
  refine h.distinct _ _ _ _ hjob hjob' ?_
  rw [hrequest] at hunder ⊢
  rw [hrequest'] at hunder' ⊢
  exact congrArg (jobName config) (uuid_eq_of_under huuid huuid' hunder hunder')

theorem Cloud.Invariant.not_under (h : c.Invariant config Processes labels)
    (hconfig : config.Separate) {uuid jobArn : String} {job : Job} (huuid : IsUuid uuid)
    (hjob : c.jobs.get? jobArn = some job) :
    ¬ Under (outputPrefix config job.request.jobName) (inputKey config (jobName config uuid)) := by
  obtain ⟨uuid', model, -, hrequest⟩ := h.named _ _ hjob
  rw [hrequest]
  exact hconfig.not_under huuid

theorem Cloud.Invariant.put (h : c.Invariant config Processes labels) (hconfig : config.Separate)
    {uuid body : String} (huuid : IsUuid uuid)
    (hnew : c.objects.get? (config.s3Bucket, inputKey config (jobName config uuid)) = none) :
    Cloud.Invariant config Processes
      (labels ++ [.put config.s3Bucket (inputKey config (jobName config uuid)) body])
      { c with objects :=
          c.objects.set (config.s3Bucket, inputKey config (jobName config uuid)) body } where
  named := h.named
  distinct := h.distinct
  puts := by
    intro bucket key body' hmem
    rw [List.mem_append, List.mem_singleton] at hmem
    rcases hmem with hmem | heq
    · obtain ⟨hkey, hbucket, hget⟩ := h.puts _ _ _ hmem
      refine ⟨hkey, hbucket, ?_⟩
      rw [Dict.get?_set_of_ne, hget]
      intro heq
      rw [heq, hnew] at hget
      cases hget
    · cases heq
      exact ⟨⟨uuid, huuid, rfl⟩, rfl, Dict.get?_set_self _ _ _⟩
  creates := by
    intro request jobArn hmem
    rw [List.mem_append, List.mem_singleton] at hmem
    rcases hmem with hmem | heq
    · exact h.creates _ _ hmem
    · cases heq
  files := by
    intro jobArn job hjob key body' hfile
    obtain ⟨hunder, hget⟩ := h.files _ _ hjob _ _ hfile
    refine ⟨hunder, ?_⟩
    rw [Dict.get?_set_of_ne, hget]
    intro heq
    obtain ⟨-, rfl⟩ := Prod.mk.inj heq
    exact h.not_under hconfig huuid hjob hunder
  writes jobArn job hjob key body' hfile :=
    List.mem_append_left _ (h.writes _ _ hjob _ _ hfile)
  objects := by
    intro bucket key body' hget
    rw [Dict.get?_set] at hget
    split_ifs at hget with heq
    · obtain ⟨rfl, rfl⟩ := Prod.mk.inj heq
      cases hget
      exact ⟨rfl, .inl ⟨uuid, huuid, rfl, by simp⟩⟩
    · obtain ⟨hbucket, ⟨uuid', huuid', hkey, hput⟩ | hfile⟩ := h.objects _ _ _ hget
      · exact ⟨hbucket, .inl ⟨uuid', huuid', hkey, List.mem_append_left _ hput⟩⟩
      · exact ⟨hbucket, .inr hfile⟩
  ended := by
    intro jobArn job hjob hcompleted
    obtain ⟨body', hget, hprocesses⟩ := h.ended _ _ hjob hcompleted
    refine ⟨body', ?_, hprocesses⟩
    rw [Dict.get?_set_of_ne, hget]
    intro heq
    rw [heq, hnew] at hget
    cases hget

theorem Cloud.Invariant.create (h : c.Invariant config Processes labels) {uuid model jobArn : String}
    (huuid : IsUuid uuid)
    (hname : ∀ arn job, c.jobs.get? arn = some job → job.request.jobName ≠ jobName config uuid)
    (harn : c.jobs.get? jobArn = none) :
    Cloud.Invariant config Processes
      (labels ++ [.create (jobRequest config model (jobName config uuid)) jobArn])
      { c with jobs :=
          c.jobs.set jobArn { request := jobRequest config model (jobName config uuid) } } := by
  have hkeep : ∀ arn job, c.jobs.get? arn = some job →
      (c.jobs.set jobArn { request := jobRequest config model (jobName config uuid) }).get? arn =
        some job := by
    intro arn job hjob
    rw [Dict.get?_set_of_ne, hjob]
    rintro rfl
    rw [harn] at hjob
    cases hjob
  have hcases : ∀ arn job,
      (c.jobs.set jobArn { request := jobRequest config model (jobName config uuid) }).get? arn =
        some job → (arn = jobArn ∧ job = { request := jobRequest config model (jobName config uuid) }) ∨
          c.jobs.get? arn = some job := by
    intro arn job hjob
    rw [Dict.get?_set] at hjob
    split_ifs at hjob with heq
    · cases hjob
      exact .inl ⟨heq, rfl⟩
    · exact .inr hjob
  constructor
  case named =>
    intro arn job hjob
    rcases hcases arn job hjob with ⟨-, rfl⟩ | hold
    · exact ⟨uuid, model, huuid, rfl⟩
    · exact h.named _ _ hold
  case distinct =>
    intro arn job arn' job' hjob hjob' heq
    rcases hcases arn job hjob with ⟨rfl, rfl⟩ | hold
    · rcases hcases arn' job' hjob' with ⟨rfl, -⟩ | hold'
      · rfl
      · exact absurd heq.symm (hname _ _ hold')
    · rcases hcases arn' job' hjob' with ⟨rfl, rfl⟩ | hold'
      · exact absurd heq (hname _ _ hold)
      · exact h.distinct _ _ _ _ hold hold' heq
  case puts =>
    intro bucket key body hmem
    rw [List.mem_append, List.mem_singleton] at hmem
    rcases hmem with hmem | heq
    · exact h.puts _ _ _ hmem
    · cases heq
  case creates =>
    intro request arn hmem
    rw [List.mem_append, List.mem_singleton] at hmem
    rcases hmem with hmem | heq
    · obtain ⟨job, hjob, hrequest⟩ := h.creates _ _ hmem
      exact ⟨job, hkeep _ _ hjob, hrequest⟩
    · cases heq
      exact ⟨_, Dict.get?_set_self _ _ _, rfl⟩
  case files =>
    intro arn job hjob key body hfile
    rcases hcases arn job hjob with ⟨-, rfl⟩ | hold
    · cases hfile
    · exact h.files _ _ hold _ _ hfile
  case writes =>
    intro arn job hjob key body hfile
    rcases hcases arn job hjob with ⟨-, rfl⟩ | hold
    · cases hfile
    · exact List.mem_append_left _ (h.writes _ _ hold _ _ hfile)
  case objects =>
    intro bucket key body hget
    obtain ⟨hbucket, ⟨uuid', huuid', hkey, hput⟩ | ⟨arn, job, hjob, hfile⟩⟩ := h.objects _ _ _ hget
    · exact ⟨hbucket, .inl ⟨uuid', huuid', hkey, List.mem_append_left _ hput⟩⟩
    · exact ⟨hbucket, .inr ⟨arn, job, hkeep _ _ hjob, hfile⟩⟩
  case ended =>
    intro arn job hjob hcompleted
    rcases hcases arn job hjob with ⟨-, rfl⟩ | hold
    · cases hcompleted
    · exact h.ended _ _ hold hcompleted

/-- The jobs after one of them has moved on: each is for the request that it was for. -/
theorem exists_of_get?_set {jobArn arn : String} {job job₁ job' : Job}
    (hjob : c.jobs.get? jobArn = some job) (hrequest : job₁.request = job.request)
    (h : (c.jobs.set jobArn job₁).get? arn = some job') :
    ∃ old, c.jobs.get? arn = some old ∧ job'.request = old.request := by
  rw [Dict.get?_set] at h
  split_ifs at h with heq
  · cases h
    subst heq
    exact ⟨job, hjob, hrequest⟩
  · exact ⟨job', h, rfl⟩

theorem exists_get?_set {jobArn arn : String} {job job₁ old : Job}
    (hjob : c.jobs.get? jobArn = some job) (hrequest : job₁.request = job.request)
    (h : c.jobs.get? arn = some old) :
    ∃ job', (c.jobs.set jobArn job₁).get? arn = some job' ∧ job'.request = old.request := by
  rw [Dict.get?_set]
  split_ifs with heq
  · subst heq
    obtain rfl := Option.some.inj (hjob.symm.trans h)
    exact ⟨job₁, rfl, hrequest⟩
  · exact ⟨old, h, rfl⟩

section move

variable {jobArn : String} {job job₁ : Job}

theorem Cloud.Invariant.named_set (h : c.Invariant config Processes labels)
    (hjob : c.jobs.get? jobArn = some job) (hrequest : job₁.request = job.request) (arn : String)
    (job' : Job) (hjob' : (c.jobs.set jobArn job₁).get? arn = some job') :
    ∃ uuid model, IsUuid uuid ∧ job'.request = jobRequest config model (jobName config uuid) := by
  obtain ⟨old, hold, heq⟩ := exists_of_get?_set hjob hrequest hjob'
  rw [heq]
  exact h.named _ _ hold

theorem Cloud.Invariant.distinct_set (h : c.Invariant config Processes labels)
    (hjob : c.jobs.get? jobArn = some job) (hrequest : job₁.request = job.request) (arn : String)
    (a : Job) (arn' : String) (a' : Job) (ha : (c.jobs.set jobArn job₁).get? arn = some a)
    (ha' : (c.jobs.set jobArn job₁).get? arn' = some a')
    (hname : a.request.jobName = a'.request.jobName) : arn = arn' := by
  obtain ⟨old, hold, heq⟩ := exists_of_get?_set hjob hrequest ha
  obtain ⟨old', hold', heq'⟩ := exists_of_get?_set hjob hrequest ha'
  rw [heq, heq'] at hname
  exact h.distinct _ _ _ _ hold hold' hname

theorem Cloud.Invariant.creates_set (h : c.Invariant config Processes labels)
    (hjob : c.jobs.get? jobArn = some job) (hrequest : job₁.request = job.request) {l : CloudLabel}
    (hl : ∀ request arn, l ≠ .create request arn) (request : JobRequest) (arn : String)
    (hmem : .create request arn ∈ labels ++ [l]) :
    ∃ job', (c.jobs.set jobArn job₁).get? arn = some job' ∧ job'.request = request := by
  rw [List.mem_append, List.mem_singleton] at hmem
  rcases hmem with hmem | heq
  · obtain ⟨old, hold, rfl⟩ := h.creates _ _ hmem
    exact exists_get?_set hjob hrequest hold
  · exact absurd heq.symm (hl _ _)

end move

theorem Cloud.Invariant.write (h : c.Invariant config Processes labels) (hconfig : config.Separate)
    {jobArn key body : String} {job : Job} (hjob : c.jobs.get? jobArn = some job)
    (hrunning : job.completed = false)
    (hunder : Under (outputPrefix config job.request.jobName) key) :
    Cloud.Invariant config Processes (labels ++ [.write jobArn key body])
      { objects := c.objects.set (config.s3Bucket, key) body
        jobs := c.jobs.set jobArn { job with files := job.files.set key body } } := by
  have hinput : ∀ uuid, IsUuid uuid →
      (config.s3Bucket, inputKey config (jobName config uuid)) ≠ (config.s3Bucket, key) := by
    intro uuid huuid heq
    rw [← (Prod.mk.inj heq).2] at hunder
    exact h.not_under hconfig huuid hjob hunder
  constructor
  case named => exact h.named_set hjob rfl
  case distinct => exact h.distinct_set hjob rfl
  case creates =>
    refine h.creates_set hjob ?_ ?_
    · rfl
    · rintro request arn ⟨⟩
  case puts =>
    intro bucket key' body' hmem
    rw [List.mem_append, List.mem_singleton] at hmem
    rcases hmem with hmem | heq
    · obtain ⟨⟨uuid, huuid, rfl⟩, rfl, hget⟩ := h.puts _ _ _ hmem
      exact ⟨⟨uuid, huuid, rfl⟩, rfl, by rw [Dict.get?_set_of_ne _ _ (hinput uuid huuid), hget]⟩
    · cases heq
  case files =>
    intro arn job' hjob' key' body' hfile
    rw [Dict.get?_set] at hjob'
    split_ifs at hjob' with heq
    · cases hjob'
      dsimp only at hfile ⊢
      rw [Dict.get?_set] at hfile ⊢
      split_ifs at hfile with hkey
      · subst hkey
        exact ⟨hunder, by rw [if_pos rfl, hfile]⟩
      · rw [if_neg (fun hloc => hkey (Prod.mk.inj hloc).2)]
        exact h.files _ _ hjob _ _ hfile
    · obtain ⟨hunder', hget⟩ := h.files _ _ hjob' _ _ hfile
      refine ⟨hunder', ?_⟩
      rw [Dict.get?_set_of_ne, hget]
      rintro hloc
      rw [(Prod.mk.inj hloc).2] at hunder'
      exact heq (h.eq_of_under hjob' hjob hunder' hunder)
  case writes =>
    intro arn job' hjob' key' body' hfile
    rw [List.mem_append, List.mem_singleton]
    rw [Dict.get?_set] at hjob'
    split_ifs at hjob' with heq
    · cases hjob'
      dsimp only at hfile
      rw [Dict.get?_set] at hfile
      split_ifs at hfile with hkey
      · cases hfile
        rw [heq, hkey]
        exact .inr rfl
      · rw [heq]
        exact .inl (h.writes _ _ hjob _ _ hfile)
    · exact .inl (h.writes _ _ hjob' _ _ hfile)
  case objects =>
    intro bucket key' body' hget
    rw [Dict.get?_set] at hget
    split_ifs at hget with heq
    · obtain ⟨rfl, rfl⟩ := Prod.mk.inj heq
      cases hget
      exact ⟨rfl, .inr ⟨jobArn, _, Dict.get?_set_self _ _ _, Dict.get?_set_self _ _ _⟩⟩
    · obtain ⟨rfl, ⟨uuid, huuid, hkey, hput⟩ | ⟨arn, job', hjob', hfile⟩⟩ := h.objects _ _ _ hget
      · exact ⟨rfl, .inl ⟨uuid, huuid, hkey, List.mem_append_left _ hput⟩⟩
      · refine ⟨rfl, .inr ?_⟩
        by_cases harn : arn = jobArn
        · subst harn
          obtain rfl := Option.some.inj (hjob.symm.trans hjob')
          refine ⟨arn, _, Dict.get?_set_self _ _ _, ?_⟩
          dsimp only
          rw [Dict.get?_set_of_ne, hfile]
          rintro rfl
          exact heq rfl
        · exact ⟨arn, job', by rw [Dict.get?_set_of_ne _ _ harn, hjob'], hfile⟩
  case ended =>
    intro arn job' hjob' hcompleted
    rw [Dict.get?_set] at hjob'
    split_ifs at hjob' with heq
    · cases hjob'
      rw [hrunning] at hcompleted
      cases hcompleted
    · obtain ⟨body', hget, hprocesses⟩ := h.ended _ _ hjob' hcompleted
      obtain ⟨uuid, model, huuid, hrequest⟩ := h.named _ _ hjob'
      refine ⟨body', ?_, hprocesses⟩
      rw [hrequest] at hget ⊢
      exact (Dict.get?_set_of_ne _ _ (hinput uuid huuid)).trans hget

theorem Cloud.Invariant.finish (h : c.Invariant config Processes labels) {jobArn body : String}
    {job : Job} (hjob : c.jobs.get? jobArn = some job)
    (hinput : c.objects.get? (config.s3Bucket, inputKey config job.request.jobName) = some body)
    (hprocesses : Processes job.request.modelId body job.files.entries) :
    Cloud.Invariant config Processes (labels ++ [.finish jobArn])
      { c with jobs := c.jobs.set jobArn { job with completed := true } } := by
  constructor
  case named => exact h.named_set hjob rfl
  case distinct => exact h.distinct_set hjob rfl
  case creates =>
    refine h.creates_set hjob ?_ ?_
    · rfl
    · rintro request arn ⟨⟩
  case puts =>
    intro bucket key body' hmem
    rw [List.mem_append, List.mem_singleton] at hmem
    rcases hmem with hmem | heq
    · exact h.puts _ _ _ hmem
    · cases heq
  case files =>
    intro arn job' hjob' key body' hfile
    rw [Dict.get?_set] at hjob'
    split_ifs at hjob' with heq
    · cases hjob'
      exact h.files _ _ hjob _ _ hfile
    · exact h.files _ _ hjob' _ _ hfile
  case writes =>
    intro arn job' hjob' key body' hfile
    rw [Dict.get?_set] at hjob'
    split_ifs at hjob' with heq
    · cases hjob'
      rw [heq]
      exact List.mem_append_left _ (h.writes _ _ hjob _ _ hfile)
    · exact List.mem_append_left _ (h.writes _ _ hjob' _ _ hfile)
  case objects =>
    intro bucket key body' hget
    obtain ⟨hbucket, ⟨uuid, huuid, hkey, hput⟩ | ⟨arn, job', hjob', hfile⟩⟩ := h.objects _ _ _ hget
    · exact ⟨hbucket, .inl ⟨uuid, huuid, hkey, List.mem_append_left _ hput⟩⟩
    · refine ⟨hbucket, .inr ?_⟩
      by_cases harn : arn = jobArn
      · subst harn
        obtain rfl := Option.some.inj (hjob.symm.trans hjob')
        exact ⟨arn, _, Dict.get?_set_self _ _ _, hfile⟩
      · exact ⟨arn, job', by rw [Dict.get?_set_of_ne _ _ harn, hjob'], hfile⟩
  case ended =>
    intro arn job' hjob' hcompleted
    rw [Dict.get?_set] at hjob'
    split_ifs at hjob' with heq
    · cases hjob'
      exact ⟨body, hinput, hprocesses⟩
    · exact h.ended _ _ hjob' hcompleted

theorem CloudStep.invariant (hconfig : config.Separate) (h : c.Invariant config Processes labels)
    (hstep : CloudStep config Processes c l c') :
    c'.Invariant config Processes (labels ++ [l]) := by
  cases hstep with
  | put huuid hnew => exact h.put hconfig huuid hnew
  | create huuid hname harn => exact h.create huuid hname harn
  | write hjob hrunning hbucket huri hunder =>
    obtain ⟨rfl, rfl⟩ :=
      s3Uri_inj hbucket hconfig.bucket (huri.symm.trans (h.location hjob).2)
    exact h.write hconfig hjob hrunning hunder
  | finish hjob hrunning hbucket huri hinput hprocesses =>
    obtain ⟨rfl, rfl⟩ :=
      s3Uri_inj hbucket hconfig.bucket (huri.symm.trans (h.location hjob).1)
    exact h.finish hjob hinput hprocesses

theorem Cloud.invariant_of_run (hconfig : config.Separate) {trace : List (CloudLabel × Cloud)}
    (h : Run (CloudStep config Processes) .empty trace c) :
    c.Invariant config Processes (trace.map Prod.fst) :=
  h.invariant_labels Cloud.invariant_empty fun _ _ _ _ hinv hstep => hstep.invariant hconfig hinv

/-- The objects under the output prefix of a job are the files that it wrote. -/
theorem Cloud.Invariant.get?_iff (h : c.Invariant config Processes labels) (hconfig : config.Separate)
    {jobArn : String} {job : Job} (hjob : c.jobs.get? jobArn = some job) {key body : String} :
    (Under (outputPrefix config job.request.jobName) key ∧
      c.objects.get? (config.s3Bucket, key) = some body) ↔ job.files.get? key = some body := by
  constructor
  · rintro ⟨hunder, hget⟩
    obtain ⟨-, ⟨uuid, huuid, rfl, -⟩ | ⟨arn, job', hjob', hfile⟩⟩ := h.objects _ _ _ hget
    · exact absurd hunder (h.not_under hconfig huuid hjob)
    · obtain rfl := h.eq_of_under hjob hjob' hunder (h.files _ _ hjob' _ _ hfile).1
      obtain rfl := Option.some.inj (hjob.symm.trans hjob')
      exact hfile
  · exact h.files _ _ hjob _ _

theorem CloudStep.get?_of_completed (hstep : CloudStep config Processes c l c') {jobArn : String}
    {job : Job} (hjob : c.jobs.get? jobArn = some job) (hcompleted : job.completed = true) :
    c'.jobs.get? jobArn = some job := by
  cases hstep with
  | put huuid hnew => exact hjob
  | create huuid hname harn =>
    refine (Dict.get?_set_of_ne _ _ ?_).trans hjob
    rintro rfl
    rw [harn] at hjob
    cases hjob
  | write hother hrunning hbucket huri hunder =>
    refine (Dict.get?_set_of_ne _ _ ?_).trans hjob
    rintro rfl
    obtain rfl := Option.some.inj (hother.symm.trans hjob)
    rw [hrunning] at hcompleted
    cases hcompleted
  | finish hother hrunning hbucket huri hinput hprocesses =>
    refine (Dict.get?_set_of_ne _ _ ?_).trans hjob
    rintro rfl
    obtain rfl := Option.some.inj (hother.symm.trans hjob)
    rw [hrunning] at hcompleted
    cases hcompleted

/-- **No job meets the files of another one.** Whatever the clients and the jobs did, in any order: an
input file is as it was put; under the output prefix of a job there is what this job wrote, and nothing
else; and a job that has ended has processed the input file that was put for it. -/
theorem cloud_isolated (hconfig : config.Separate) {trace : List (CloudLabel × Cloud)}
    (hrun : Run (CloudStep config Processes) .empty trace c) :
    (∀ bucket key body, .put bucket key body ∈ trace.map Prod.fst →
      c.objects.get? (bucket, key) = some body) ∧
    ∀ jobArn job, c.jobs.get? jobArn = some job →
      (∀ key body, (Under (outputPrefix config job.request.jobName) key ∧
          c.objects.get? (config.s3Bucket, key) = some body) ↔ job.files.get? key = some body) ∧
      (∀ key body, job.files.get? key = some body → .write jobArn key body ∈ trace.map Prod.fst) ∧
      (job.completed = true → ∃ body,
        .put config.s3Bucket (inputKey config job.request.jobName) body ∈ trace.map Prod.fst ∧
          Processes job.request.modelId body job.files.entries) := by
  have h := Cloud.invariant_of_run hconfig hrun
  refine ⟨fun bucket key body hput => (h.puts _ _ _ hput).2.2, fun jobArn job hjob =>
    ⟨fun key body => h.get?_iff hconfig hjob, h.writes _ _ hjob, fun hcompleted => ?_⟩⟩
  obtain ⟨body, hget, hprocesses⟩ := h.ended _ _ hjob hcompleted
  obtain ⟨uuid, model, huuid, hrequest⟩ := h.named _ _ hjob
  obtain ⟨-, ⟨-, -, -, hput⟩ | ⟨arn, other, hother, hfile⟩⟩ := h.objects _ _ _ hget
  · exact ⟨body, hput, hprocesses⟩
  · have hunder := (h.files _ _ hother _ _ hfile).1
    rw [hrequest] at hunder
    exact absurd hunder (h.not_under hconfig huuid hother)

end invariant

/-! ### Two clients -/

/-- The settings as they are without an environment. -/
def defaultConfig : Config where
  s3Bucket := "refcheck"
  roleArn := "role"
  jobNamePrefix := "refcheck-batch"
  s3InputPrefix := "refcheck-batch/input"
  s3OutputPrefix := "refcheck-batch/output"

theorem separate_defaultConfig : defaultConfig.Separate :=
  ⟨by decide +kernel, by decide +kernel, by decide +kernel⟩

/-- What the jobs of the sample do. -/
def SampleProcesses (_ body : String) (files : List (String × String)) : Prop :=
  body = "second" ∧ files.map Prod.snd = ["done"]

def firstInput : (String × String) × String :=
  (("refcheck", "refcheck-batch/input/refcheck-batch-0a.jsonl"), "first")

def secondInput : (String × String) × String :=
  (("refcheck", "refcheck-batch/input/refcheck-batch-0b.jsonl"), "second")

def secondOutput : (String × String) × String :=
  (("refcheck", "refcheck-batch/output/refcheck-batch-0b/records.jsonl.out"), "done")

def secondJob (files : Dict String String) (completed : Bool) : Dict String Job :=
  .ofPairs [("job-2", ⟨jobRequest defaultConfig "large" "refcheck-batch-0b", files, completed⟩)]

def secondFiles : Dict String String :=
  .ofPairs [("refcheck-batch/output/refcheck-batch-0b/records.jsonl.out", "done")]

theorem exists_run_second : ∃ trace, Run (CloudStep defaultConfig SampleProcesses) .empty trace
    ⟨.ofPairs [firstInput, secondInput, secondOutput], secondJob secondFiles true⟩ := by
  have huuid : IsUuid "0a" := rfl
  have huuid' : IsUuid "0b" := rfl
  have hslash : '/' ∉ "refcheck".toList := by decide
  have hunder : Under "refcheck-batch/output/refcheck-batch-0b/" secondOutput.1.2 :=
    List.isPrefixOf_iff_prefix.mp (by decide +kernel)
  have hput : CloudStep defaultConfig SampleProcesses .empty
      (.put "refcheck" firstInput.1.2 "first") ⟨.ofPairs [firstInput], .empty⟩ :=
    @CloudStep.put defaultConfig SampleProcesses .empty "0a" "first" huuid rfl
  have hput' : CloudStep defaultConfig SampleProcesses ⟨.ofPairs [firstInput], .empty⟩
      (.put "refcheck" secondInput.1.2 "second") ⟨.ofPairs [firstInput, secondInput], .empty⟩ :=
    @CloudStep.put defaultConfig SampleProcesses ⟨.ofPairs [firstInput], .empty⟩ "0b" "second" huuid'
      (by decide +kernel)
  have hcreate : CloudStep defaultConfig SampleProcesses
      ⟨.ofPairs [firstInput, secondInput], .empty⟩
      (.create (jobRequest defaultConfig "large" "refcheck-batch-0b") "job-2")
      ⟨.ofPairs [firstInput, secondInput], secondJob .empty false⟩ :=
    .create huuid' nofun rfl
  have hwrite : CloudStep defaultConfig SampleProcesses
      ⟨.ofPairs [firstInput, secondInput], secondJob .empty false⟩
      (.write "job-2" secondOutput.1.2 "done")
      ⟨.ofPairs [firstInput, secondInput, secondOutput], secondJob secondFiles false⟩ :=
    @CloudStep.write defaultConfig SampleProcesses
      ⟨.ofPairs [firstInput, secondInput], secondJob .empty false⟩ "job-2" "refcheck" _ _ "done"
      ⟨jobRequest defaultConfig "large" "refcheck-batch-0b", .empty, false⟩ rfl rfl hslash rfl hunder
  have hfinish : CloudStep defaultConfig SampleProcesses
      ⟨.ofPairs [firstInput, secondInput, secondOutput], secondJob secondFiles false⟩
      (.finish "job-2")
      ⟨.ofPairs [firstInput, secondInput, secondOutput], secondJob secondFiles true⟩ :=
    @CloudStep.finish defaultConfig SampleProcesses
      ⟨.ofPairs [firstInput, secondInput, secondOutput], secondJob secondFiles false⟩ "job-2" "refcheck"
      secondInput.1.2 "second" ⟨jobRequest defaultConfig "large" "refcheck-batch-0b", secondFiles, false⟩
      rfl rfl hslash rfl (by decide +kernel) ⟨rfl, rfl⟩
  exact ⟨_, ((((Run.nil.snoc hput).snoc hput').snoc hcreate).snoc hwrite).snoc hfinish⟩

theorem cloud_isolated_second : ∃ trace,
    Run (CloudStep defaultConfig SampleProcesses) .empty trace
      ⟨.ofPairs [firstInput, secondInput, secondOutput], secondJob secondFiles true⟩ ∧
    ∃ body, .put "refcheck" secondInput.1.2 body ∈ trace.map Prod.fst ∧
      SampleProcesses "large" body secondFiles.entries := by
  obtain ⟨trace, hrun⟩ := exists_run_second
  obtain ⟨-, hjobs⟩ := cloud_isolated separate_defaultConfig hrun
  exact ⟨trace, hrun, (hjobs "job-2" _ rfl).2.2 rfl⟩

end RefCheck.Bedrock
