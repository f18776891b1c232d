import RefCheck.Backends.Interchange

/-!
# Where the results of a job are

`_submit_single_model_job` writes the URI of the key prefix under which the service is to put the
results; `_fetch_single_job_results` gets the bucket and the prefix back with a URL parser. That is the
same location exactly if neither has a character that a URL ends a part at or drops, and the prefix does
not start with a slash (`s3_location_recovered_iff`).
-/

namespace RefCheck.Bedrock

def s3Uri (bucket keyPrefix : String) : String := "s3://" ++ bucket ++ "/" ++ keyPrefix

/-- `output_prefix` of a job. -/
def outputPrefix (config : Config) (jobName : String) : String :=
  config.s3OutputPrefix ++ "/" ++ jobName ++ "/"

/-- The bucket and the key prefix go through a URL unchanged. -/
structure Recoverable (checks : Url.HostChecks) (bucket keyPrefix : String) : Prop where
  plain_bucket : Url.Plain bucket
  accepts_bucket : Url.Accepts checks bucket
  plain_keyPrefix : Url.Plain keyPrefix
  head_keyPrefix : keyPrefix.toList.head? ≠ some '/'

theorem Recoverable.of_ascii {checks : Url.HostChecks} {bucket keyPrefix : String}
    (hascii : ∀ c ∈ bucket.toList, c.toNat < 128) (hopen : '[' ∉ bucket.toList)
    (hclose : ']' ∉ bucket.toList) (hbucket : Url.Plain bucket) (hkeyPrefix : Url.Plain keyPrefix)
    (hhead : keyPrefix.toList.head? ≠ some '/') : Recoverable checks bucket keyPrefix where
  plain_bucket := hbucket
  accepts_bucket := Url.accepts_of_ascii checks hascii hopen hclose
  plain_keyPrefix := hkeyPrefix
  head_keyPrefix := hhead

theorem isScheme_s3 : Url.IsScheme "s3".toList := ⟨by decide, by decide, by decide⟩

section location

variable {service : Service} {bucket keyPrefix : String}

theorem parseS3Uri_eq_ok {uri : String} (h : parseS3Uri service uri = .ok (bucket, keyPrefix)) :
    Recoverable service.hostChecks bucket keyPrefix := by
  unfold parseS3Uri at h
  cases hparsed : Url.urlparse service.hostChecks uri with
  | error message =>
    rw [hparsed] at h
    cases h
  | ok parsed =>
    rw [hparsed] at h
    cases h
    obtain ⟨hnetloc, haccepts, hpath⟩ := Url.urlparse_eq_ok hparsed
    refine ⟨hnetloc, haccepts, fun c hc => ?_, fun hslash => ?_⟩
    · rw [String.toList_ofList] at hc
      exact hpath c ((List.dropWhile_suffix _).subset hc)
    · rw [String.toList_ofList] at hslash
      have hne : parsed.path.toList.dropWhile (· = '/') ≠ [] := by
        intro hnil
        rw [hnil] at hslash
        cases hslash
      have hhead := List.head_dropWhile_not (fun c => decide (c = '/')) hne
      rw [List.head?_eq_some_head hne, Option.some.injEq] at hslash
      rw [hslash] at hhead
      cases hhead

theorem Recoverable.parseS3Uri_s3Uri (h : Recoverable service.hostChecks bucket keyPrefix)
    (hbucket : '/' ∉ bucket.toList) :
    parseS3Uri service (s3Uri bucket keyPrefix) = .ok (bucket, keyPrefix) := by
  have hdrop : keyPrefix.toList.dropWhile (· = '/') = keyPrefix.toList := by
    cases hchars : keyPrefix.toList with
    | nil => rfl
    | cons c cs =>
      have hne : c ≠ '/' := by
        rintro rfl
        exact h.head_keyPrefix (by rw [hchars]; rfl)
      rw [List.dropWhile_cons_of_neg (by simpa using hne)]
  unfold parseS3Uri s3Uri
  rw [show ("s3://" : String) = "s3" ++ "://" from rfl, Url.urlparse_of_plain isScheme_s3 (by decide)
    h.plain_bucket hbucket h.accepts_bucket h.plain_keyPrefix]
  dsimp only
  rw [String.toList_append, show "/".toList = ['/'] from rfl, List.singleton_append,
    List.dropWhile_cons_of_pos (by decide), hdrop, String.ofList_toList]

theorem parseS3Uri_s3Uri_iff (hbucket : '/' ∉ bucket.toList) :
    parseS3Uri service (s3Uri bucket keyPrefix) = .ok (bucket, keyPrefix) ↔
      Recoverable service.hostChecks bucket keyPrefix :=
  ⟨parseS3Uri_eq_ok, fun h => h.parseS3Uri_s3Uri hbucket⟩

end location

/-- Pages list the keys of the objects of a bucket under every prefix. -/
def ListsByPrefix (service : Service) (bucket : String) (objects : List String) : Prop :=
  ∀ keyPrefix, ∃ pages, service.paginate bucket keyPrefix = .ok pages ∧
    (pages.flatMap fun page => page.getD []) =
      objects.filter fun key => keyPrefix.toList.isPrefixOf key.toList

section submitted

variable {M : Type} {py : PyText} {llmMaxTokens : ℤ} {cls : ModelClasses M} {config : Config}
  {service : Service} {model : String} {items : List (RequestItem M)} {jobArn : String}

theorem exists_request (h : submitSingleModelJob py llmMaxTokens cls config service model items =
      .ok jobArn) :
    ∃ request, service.createModelInvocationJob request = .ok jobArn ∧
      request.jobName = config.jobNamePrefix ++ "-" ++ service.uuidHex model ∧
      request.outputUri = s3Uri config.s3Bucket (outputPrefix config request.jobName) := by
  unfold submitSingleModelJob at h
  obtain ⟨⟨⟩, -, h⟩ := Except.bind_eq_ok.mp h
  obtain ⟨⟨⟩, -, h⟩ := Except.bind_eq_ok.mp h
  refine ⟨_, h, rfl, ?_⟩
  unfold s3Uri outputPrefix
  rfl

variable (py llmMaxTokens cls config service) in
/-- **The location of the results is recovered exactly if the bucket and the key prefix go through a URL
unchanged.** -/
theorem s3_location_recovered_iff (hbucket : '/' ∉ config.s3Bucket.toList) :
    (∀ keyPrefix, parseS3Uri service (s3Uri config.s3Bucket keyPrefix) =
        .ok (config.s3Bucket, keyPrefix) ↔
      Recoverable service.hostChecks config.s3Bucket keyPrefix) ∧
    ∀ (model : String) (items : List (RequestItem M)) (jobArn : String),
      submitSingleModelJob py llmMaxTokens cls config service model items = .ok jobArn →
      ∃ request, service.createModelInvocationJob request = .ok jobArn ∧
        request.jobName = config.jobNamePrefix ++ "-" ++ service.uuidHex model ∧
        request.outputUri = s3Uri config.s3Bucket (outputPrefix config request.jobName) ∧
        (parseS3Uri service request.outputUri =
            .ok (config.s3Bucket, outputPrefix config request.jobName) ↔
          Recoverable service.hostChecks config.s3Bucket (outputPrefix config request.jobName)) ∧
        ∀ location objects, parseS3Uri service request.outputUri = .ok location →
          Recoverable service.hostChecks config.s3Bucket (outputPrefix config request.jobName) →
          ListsByPrefix service config.s3Bucket objects →
          ∃ pages, service.paginate location.1 location.2 = .ok pages ∧
            ∀ key ∈ objects, (outputPrefix config request.jobName).toList <+: key.toList →
              key ∈ pages.flatMap fun page => page.getD [] := by
  refine ⟨fun keyPrefix => parseS3Uri_s3Uri_iff hbucket, fun model items jobArn hsubmit => ?_⟩
  obtain ⟨request, hcreate, hname, huri⟩ := exists_request hsubmit
  refine ⟨request, hcreate, hname, huri, ?_, fun location objects hlocation hrecoverable hlists => ?_⟩
  · rw [huri]
    exact parseS3Uri_s3Uri_iff hbucket
  · rw [huri, hrecoverable.parseS3Uri_s3Uri hbucket] at hlocation
    cases hlocation
    obtain ⟨pages, hpages, hkeys⟩ := hlists (outputPrefix config request.jobName)
    refine ⟨pages, hpages, fun key hkey hunder => ?_⟩
    rw [hkeys, List.mem_filter]
    exact ⟨hkey, List.isPrefixOf_iff_prefix.mpr hunder⟩

end submitted

/-! ### Locations of jobs -/

theorem recoverable_summary : Recoverable summaryService.hostChecks summaryConfig.s3Bucket
    (outputPrefix summaryConfig "check-0123456789ab") :=
  .of_ascii (by simp [summaryConfig]) (by decide) (by decide) (by decide) (by decide +kernel)
    (by decide +kernel)

/-- The results of a job under a plain prefix are found. -/
theorem s3_location_of_summary :
    ∃ request, summaryService.createModelInvocationJob request = .ok "job-1" ∧
      request.outputUri = s3Uri "bucket" "output/check-0123456789ab/" ∧
      parseS3Uri summaryService request.outputUri = .ok ("bucket", "output/check-0123456789ab/") := by
  have hbucket : '/' ∉ summaryConfig.s3Bucket.toList := by decide
  have hsubmit : submitSingleModelJob .plain 1024 summaryClasses summaryConfig summaryService "large"
      [summaryItem] = .ok "job-1" := rfl
  obtain ⟨-, hjobs⟩ := s3_location_recovered_iff .plain 1024 summaryClasses summaryConfig
    summaryService hbucket
  obtain ⟨request, hrequest, hname, huri, hiff, -⟩ := hjobs "large" [summaryItem] "job-1" hsubmit
  have hjobName : request.jobName = "check-0123456789ab" := hname
  rw [hjobName] at huri hiff
  exact ⟨request, hrequest, huri, hiff.mpr recoverable_summary⟩

/-- A configured prefix with a `#` and an empty one are not recovered. -/
theorem s3_location_lost :
    parseS3Uri summaryService (s3Uri "bucket" (outputPrefix
        { summaryConfig with s3OutputPrefix := "runs#1" } "check-0123456789ab")) =
      .ok ("bucket", "runs") ∧
    parseS3Uri summaryService (s3Uri "bucket" (outputPrefix
        { summaryConfig with s3OutputPrefix := "" } "check-0123456789ab")) =
      .ok ("bucket", "check-0123456789ab/") ∧
    outputPrefix { summaryConfig with s3OutputPrefix := "" } "check-0123456789ab" =
      "/check-0123456789ab/" := by
  refine ⟨by decide +kernel, by decide +kernel, rfl⟩

end RefCheck.Bedrock
