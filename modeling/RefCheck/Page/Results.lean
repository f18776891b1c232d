import RefCheck.Page.System

/-!
# What pages post and show

A request that a page posts arrives as the forms on the page describe it and is accepted (`posts_accepted`).
The check that a page looks at is its own, and what it shows is what has become of its own request
(`pages_show_own_check`), or half of that (`ShownCheck`): a check that has failed without its error, which
the page shows as `None`, or a completed check without its result, at which the script fails. Nothing else
makes it fail (`scripts_raise_iff`).
-/

namespace RefCheck

open JsonCodec Transitions

/-! ### What a response is shown as -/

/-- The check of the request ends in the error: of the provider, or of the call for the overall summary. -/
def CandidateCheckRequest.FailsWith (env : Env) (provider : Except PyException (ModelTier → String))
    (request : CandidateCheckRequest) (e : PyException) : Prop :=
  provider = .error e ∨ ∃ llm : CandidateLLM, provider = .ok llm.getModel ∧
    llm.overall (request.overallCall env llm) = .error e

/-- The graph comes to its end for the request, with the overall summary. -/
def CandidateCheckRequest.CompletesWith (env : Env) (provider : Except PyException (ModelTier → String))
    (request : CandidateCheckRequest) (llm : CandidateLLM) (summary : OverallSummary) : Prop :=
  provider = .ok llm.getModel ∧ llm.overall (request.overallCall env llm) = .ok summary

/-- What a page shows below the heading of its check, and the exception that ends its script, if any. -/
structure Shown where
  elements : List Element
  raised : Option PyException := none

/-- What is shown for a response about the check of a request. -/
inductive ShownCheck (text : PageText) (env : Env) (provider : Except PyException (ModelTier → String))
    (request : CandidateCheckRequest) (response : CheckStatusResponse Json) : Shown → Prop
  | queued (hstatus : response.status = CheckStatus.queued.value) :
      ShownCheck text env provider request response { elements := [.info "Queued..."] }
  | running (hstatus : response.status = CheckStatus.running.value) :
      ShownCheck text env provider request response { elements := [.info "Running..."] }
  | failed (e : PyException) (hfails : request.FailsWith env provider e)
      (hstatus : response.status = CheckStatus.failed.value) (herror : response.error = some e.str) :
      ShownCheck text env provider request response { elements := [.error ("Failed: " ++ e.str)] }
  /-- The error is not written yet. -/
  | failing (e : PyException) (hfails : request.FailsWith env provider e)
      (hstatus : response.status = CheckStatus.failed.value) (herror : response.error = none) :
      ShownCheck text env provider request response { elements := [.error "Failed: None"] }
  /-- The report of the state that the graph ends in. -/
  | completed (llm : CandidateLLM) (summary : OverallSummary)
      (hcompletes : request.CompletesWith env provider llm summary)
      (hstatus : response.status = CheckStatus.completed.value) (hresult : response.result ≠ none) :
      ShownCheck text env provider request response
        { elements := report text env.toPyText (request.results env llm)
            (crossCheckReferences env.toPyText (request.results env llm))
            (verdict env (request.results env llm)).overallConfidence
            (verdict env (request.results env llm)).overallNeedsReview summary.summary }
  /-- The result is not written yet. -/
  | completing (llm : CandidateLLM) (summary : OverallSummary)
      (hcompletes : request.CompletesWith env provider llm summary)
      (hstatus : response.status = CheckStatus.completed.value) (hresult : response.result = none) :
      ShownCheck text env provider request response
        { elements := [.success "Completed"], raised := some noneSubscripted }

/-- What the script makes of the body of a response. -/
inductive Shown.Of (text : PageText) (data : Json) : Shown → Prop
  | rendered (elements : List Element) (hrender : renderStatus text data = .ok elements) :
      Shown.Of text data { elements }
  | raised (e : PyException) (hrender : renderStatus text data = .error e) :
      Shown.Of text data { elements := begunResult data, raised := some e }

/-- A piece of the script puts this on the page. -/
structure Piece.Shows (text : PageText) (piece : Piece) (shown : Shown) : Prop where
  elements : piece.elements = heading text piece.session :: shown.elements
  raised : ∀ e, piece.ending = .raises e ↔ shown.raised = some e

section shown

variable {text : PageText} {env : Env} {provider : Except PyException (ModelTier → String)}
  {request : CandidateCheckRequest}

theorem Shown.Of.raised_iff {data : Json} {shown : Shown} (h : Shown.Of text data shown)
    {e : PyException} : shown.raised = some e ↔ renderStatus text data = .error e := by
  cases h with
  | rendered elements hrender =>
    rw [hrender]
    exact ⟨nofun, nofun⟩
  | raised e' hrender =>
    rw [hrender]
    exact ⟨fun h => congrArg Except.error (Option.some.inj h), fun h => congrArg some (Except.error.inj h)⟩

theorem Shown.Of.shows {data : Json} {shown : Shown} (h : Shown.Of text data shown)
    (hdata : data.truthy = true) (w : Widgets) (session : Session) :
    (showStatus text w data session).Shows text shown := by
  refine ⟨?_, fun e => ?_⟩
  · rw [showStatus_session]
    unfold showStatus
    rw [if_pos hdata]
    cases h with
    | rendered elements hrender => rw [hrender]
    | raised e hrender => rw [hrender]
  · rw [showStatus_raises_iff, and_iff_right hdata]
    exact h.raised_iff.symm

/-- What is shown of a sight of the record, at the end of the check or on the way to it. -/
theorem shownCheck_of_le {record : CheckRecord Json} {a : Sight Json} (hle : a.Le record.sight)
    (hended : record.Pending .queued ∨ record.Pending .running ∨ record.Ended)
    (hcompleted : ∀ result, record.result = some result → ∃ llm summary,
      request.CompletesWith env provider llm summary ∧
        result = (request.finalState env llm summary.summary).py.toJson env.toPyText)
    (hfailed : ∀ error, record.error = some error → ∃ e, request.FailsWith env provider e ∧ e.str = error) :
    ∃ shown, ShownCheck text env provider request a.response shown ∧
      Shown.Of text a.response.body shown := by
  obtain ⟨checkId, status, result, error⟩ := a
  have hrender := renderStatus_body text checkId status result error
  -- at an end, the record has the status of the sight, and its outcome
  have hend : status.Terminal → record.status = status ∧ record.Ended := by
    intro hterminal
    have hstatus : record.status = status := hle.status.eq_of_terminal hterminal
    refine ⟨hstatus, ?_⟩
    rcases hended with hpending | hpending | hended
    · rw [← hstatus, hpending.status] at hterminal
      exact absurd hterminal (by simp [CheckStatus.Terminal])
    · rw [← hstatus, hpending.status] at hterminal
      exact absurd hterminal (by simp [CheckStatus.Terminal])
    · exact hended
  cases status with
  | queued => exact ⟨_, .queued rfl, .rendered _ hrender⟩
  | running => exact ⟨_, .running rfl, .rendered _ hrender⟩
  | completed =>
    obtain ⟨hstatus, hrecord⟩ := hend (Or.inl rfl)
    cases hrecord with
    | failed e hfailed _ _ => cases hstatus.symm.trans hfailed
    | completed whole _ hwhole _ =>
      cases result with
      | none =>
        obtain ⟨llm, summary, hcompletes, -⟩ := hcompleted whole hwhole
        exact ⟨_, .completing llm summary hcompletes rfl rfl, .raised _ hrender⟩
      | some result =>
        obtain ⟨llm, summary, hcompletes, rfl⟩ := hcompleted result (hle.result result rfl)
        rw [Option.getD_some, renderResult_finalState] at hrender
        exact ⟨_, .completed llm summary hcompletes rfl (Option.some_ne_none _), .rendered _ hrender⟩
  | failed =>
    obtain ⟨hstatus, hrecord⟩ := hend (Or.inr rfl)
    cases hrecord with
    | completed whole hcompleted _ _ => cases hstatus.symm.trans hcompleted
    | failed whole _ _ hwhole =>
      cases error with
      | none =>
        obtain ⟨e, hfails, -⟩ := hfailed whole hwhole
        rw [optJson, text.str_null] at hrender
        exact ⟨_, .failing e hfails rfl rfl, .rendered _ hrender⟩
      | some error =>
        obtain ⟨e, hfails, rfl⟩ := hfailed error (hle.error error rfl)
        rw [optJson, text.str_str] at hrender
        exact ⟨_, .failed e hfails rfl rfl, .rendered _ hrender⟩

end shown

/-! ### Runs of the system -/

section run

variable {text : PageText} {env : Env} {provider : Except PyException (ModelTier → String)}
  {parse : Json → Except String CandidateCheckRequest} {sys : System}
  {trace : List (SystemEvent × System)}

theorem System.invariant_of_run (hparse : ReadsRequests parse)
    (h : Run (System.Step text env provider parse) System.initial trace sys) :
    sys.Invariant text parse (trace.map Prod.fst) :=
  h.invariant_labels (P := fun labels sys => System.Invariant text parse labels sys)
    System.invariant_initial fun _ _ _ _ hinv hstep => hstep.invariant hparse hinv

theorem Post.Meant.valid_iff {labels : List SystemEvent} {sv : Service Json} {n : ℕ} {post : Post}
    {request : CandidateCheckRequest} (h : post.Meant parse labels sv n request)
    (hmin : env.minRawInputChars ≤ 10) : ∀ ref ∈ request.references, ref.Valid env ↔
      (ref.type = .REF1 → ((ref.rawInput.getD "").length : ℤ) ≤ env.maxRawInputChars) := by
  obtain ⟨before, w, payload, -, hrequest⟩ := h.sent
  obtain ⟨-, candidate, -, rfl⟩ := Draft.request?_eq_some.mp hrequest
  intro ref href
  obtain ⟨form, hform, rfl⟩ := List.mem_map.mp href
  rw [((Draft.of_complete post.page before).references form hform).valid_iff hmin]
  refine imp_congr_right fun htype => ?_
  rw [form.rawInput_reference htype, Option.getD_some]

/-- **What a page posts arrives as its forms say, is accepted, and makes one check**, whatever is lost or
late: a `POST` is never refused, no two of them have one check, and the pipeline takes each reference
unless its transcript is too long. -/
theorem posts_accepted (hparse : ReadsRequests parse) (hmin : env.minRawInputChars ≤ 10)
    (h : Run (System.Step text env provider parse) System.initial trace sys) {n : ℕ} {post : Post}
    (hpost : sys.posts[n]? = some post) :
    ∃ request, post.Meant parse (trace.map Prod.fst) sys.live.service n request ∧
      (∀ ref ∈ request.references, ref.Valid env ↔
        (ref.type = .REF1 → ((ref.rawInput.getD "").length : ℤ) ≤ env.maxRawInputChars)) ∧
      ∀ (m : ℕ) (post' : Post) (response : Except HTTPException Json), sys.posts[m]? = some post' →
        post.response = some response → post'.response = some response → m = n := by
  have hinv := System.invariant_of_run hparse h
  obtain ⟨request, hmeant⟩ := hinv.posts n post hpost
  refine ⟨request, hmeant, hmeant.valid_iff hmin, ?_⟩
  intro m post' response hpost' hresponse hresponse'
  obtain ⟨id, rfl, -⟩ := hmeant.answered response hresponse
  exact hinv.distinct m n post' post (submittedBody id) hpost' hpost hresponse' hresponse

theorem System.live_run (h : Run (System.Step text env provider parse) System.initial trace sys) :
    ∃ trace', Run (System.LiveStep env provider) (LiveService.initial Json) trace' sys.live := by
  have hkept : ∀ (s : System) (event : SystemEvent) (s' : System) (liveEvent : LiveEvent Json), True →
      System.Step text env provider parse s event s' → event.live? = some liveEvent →
        System.LiveStep env provider s.live liveEvent s'.live :=
    fun _ _ _ _ _ hstep hlive => hstep.liveStep hlive
  have hother : ∀ (s : System) (event : SystemEvent) (s' : System), True →
      System.Step text env provider parse s event s' → event.live? = none → s'.live = s.live :=
    fun _ _ _ _ hstep hlive => hstep.live_eq hlive
  exact ⟨_, h.project trivial (fun _ _ _ _ _ => trivial) hkept hother⟩

/-- A `GET` of a check that the service works on is shown as what has become of its request. -/
theorem System.exists_shownCheck
    (h : Run (System.Step text env provider parse) System.initial trace sys) {n : ℕ} {get : Get Json}
    {response : CheckStatusResponse Json} (hget : sys.live.gets[n]? = some get)
    (hdone : get.poll = .done response) {request : CandidateCheckRequest}
    (hworks : sys.live.service.WorksOn get.checkId request) :
    ∃ shown, ShownCheck text env provider request response shown ∧
      Shown.Of text response.body shown := by
  obtain ⟨trace', hlive⟩ := System.live_run h
  obtain ⟨trace'', hrun⟩ := LiveService.service_run hlive
  obtain ⟨record, a, hrecord, rfl, hle⟩ := (LiveService.invariant_of_run hlive).exists_sight hget hdone
  obtain ⟨job, hjob, hid, rfl⟩ := hworks
  rw [← hid] at hrecord
  obtain ⟨record', hrecord', hmatches⟩ := (Service.invariant_of_checkRun hrun).matched job hjob
  obtain rfl := Option.some.inj (hrecord'.symm.trans hrecord)
  have honce := Service.runsOnce_of_run hrun hjob hrecord
  refine shownCheck_of_le hle hmatches.cases (fun result hresult => ?_) fun error herror => ?_
  · obtain ⟨llm, summary, hprovider, hsummary, hjson⟩ := honce.completed result hresult
    exact ⟨llm, summary, ⟨hprovider, hsummary⟩, (Except.ok.inj hjson).symm⟩
  · obtain ⟨e, hstr, hcause⟩ := honce.failed error herror
    refine ⟨e, ?_, hstr⟩
    rcases hcause with hprovider | ⟨llm, hprovider, hcall | ⟨summary, -, hjson⟩⟩
    · exact Or.inl hprovider
    · exact Or.inr ⟨llm, hprovider, hcall⟩
    · cases hjson

/-- **A page looks at a check of its own**: one that it posted itself and that no other page looks at. A
`GET` of it finds it, and what a response to a `GET` puts on the page is what has become of the request that
its forms described, or half of that. -/
theorem pages_show_own_check (hparse : ReadsRequests parse)
    (h : Run (System.Step text env provider parse) System.initial trace sys) {p : ℕ}
    (hid : (sys.pages p).session.checkId.truthy = true) :
    ∃ (n : ℕ) (post : Post) (id : String) (request : CandidateCheckRequest),
      sys.posts[n]? = some post ∧ post.page = p ∧
        post.Meant parse (trace.map Prod.fst) sys.live.service n request ∧
        (sys.pages p).session.checkId = .str id ∧
        (∀ q, (sys.pages q).session.checkId = .str id → q = p) ∧
        (∃ record, sys.live.visible id = some record) ∧
        (∀ w m, (sys.pages p).phase = .getting w m →
          ∃ get, sys.live.gets[m]? = some get ∧ get.checkId = id) ∧
        ∀ (m : ℕ) (get : Get Json) (response : CheckStatusResponse Json), sys.live.gets[m]? = some get →
          get.checkId = id → get.poll = .done response →
            ∃ shown, ShownCheck text env provider request response shown ∧ ∀ w,
              (showResult text w (.ok response.body) (sys.pages p).session).Shows text shown := by
  have hinv := System.invariant_of_run hparse h
  rcases hinv.checkIds p with hnull | howns
  · rw [hnull] at hid
    cases hid
  · obtain ⟨n, post, id, request, hpost, hpage, hresponse, hmeant, hcheckId, hworks⟩ :=
      hinv.exists_meant howns
    refine ⟨n, post, id, request, hpost, hpage, hmeant, hcheckId, ?_, ?_, ?_, ?_⟩
    · intro q hq
      rcases hinv.checkIds q with hnull | ⟨m, post', id', hpost', hpage', hresponse', hid'⟩
      · cases hnull.symm.trans hq
      · obtain rfl := Json.str.inj (hid'.symm.trans hq)
        obtain rfl := hinv.distinct m n post' post _ hpost' hpost hresponse' hresponse
        obtain rfl := Option.some.inj (hpost'.symm.trans hpost)
        exact hpage'.symm.trans hpage
    · obtain ⟨job, hjob, rfl, -⟩ := hworks
      obtain ⟨record, hrecord, -⟩ := hinv.live.service.matched job hjob
      exact LiveService.exists_visible hrecord
    · intro w m hphase
      obtain ⟨-, get, hget, hgetId⟩ := hinv.getting p w m hphase
      exact ⟨get, hget, by rw [hgetId, hcheckId, text.str_str]⟩
    · intro m get response hget hgetId hdone
      rw [← hgetId] at hworks
      obtain ⟨shown, hshown, hof⟩ := System.exists_shownCheck h hget hdone hworks
      exact ⟨shown, hshown, fun w => hof.shows rfl w _⟩

/-! ### When a script fails -/

/-- The last event of a page. -/
def SystemEvent.last? (p : ℕ) (labels : List SystemEvent) : Option PageEvent :=
  (labels.filterMap (SystemEvent.page? p)).getLast?

theorem SystemEvent.last?_of_none {p : ℕ} {labels : List SystemEvent} {event : SystemEvent}
    (hp : event.page? p = none) : SystemEvent.last? p (labels ++ [event]) = SystemEvent.last? p labels := by
  unfold SystemEvent.last?
  rw [List.filterMap_append, List.filterMap_cons_none hp, List.filterMap_nil, List.append_nil]

theorem SystemEvent.last?_of_some {p : ℕ} {labels : List SystemEvent} {event : SystemEvent}
    {pageEvent : PageEvent} (hp : event.page? p = some pageEvent) :
    SystemEvent.last? p (labels ++ [event]) = some pageEvent := by
  unfold SystemEvent.last?
  rw [List.filterMap_append, List.filterMap_cons_some hp, List.filterMap_nil, List.getLast?_concat]

/-- A page has failed exactly if it cannot show what it viewed last. -/
theorem System.raised_iff (hparse : ReadsRequests parse)
    (h : Run (System.Step text env provider parse) System.initial trace sys) (p : ℕ) (e : PyException) :
    (sys.pages p).phase = .raised e ↔ ∃ n data,
      SystemEvent.last? p (trace.map Prod.fst) = some (.viewed n (.ok data)) ∧ data.truthy = true ∧
        renderStatus text data = .error e := by
  induction h with
  | nil => exact ⟨nofun, fun ⟨_, _, hlast, _⟩ => nomatch hlast⟩
  | @snoc trace sys sys' event h hstep ih =>
    rw [List.map_append, List.map_singleton]
    cases hp : event.page? p with
    | none => rw [SystemEvent.last?_of_none hp, hstep.pages_eq hp, ih]
    | some pageEvent =>
      rw [SystemEvent.last?_of_some hp,
        (hstep.pageStep hp).1.raised_iff ((System.invariant_of_run hparse h).drafts p)]
      simp only [Option.some.injEq]

theorem System.viewed_done (hparse : ReadsRequests parse)
    (h : Run (System.Step text env provider parse) System.initial trace sys) {p n : ℕ} {data : Json}
    (hlast : SystemEvent.last? p (trace.map Prod.fst) = some (.viewed n (.ok data))) :
    ∃ get response request, sys.live.gets[n]? = some get ∧ get.poll = .done response ∧
      data = response.body ∧ sys.live.service.WorksOn get.checkId request := by
  induction h with
  | nil => cases hlast
  | @snoc trace sys sys' event h hstep ih =>
    have hinv := System.invariant_of_run hparse h
    have hkept : ∀ {get : Get Json} {response : CheckStatusResponse Json} {request : CandidateCheckRequest},
        sys.live.gets[n]? = some get → get.poll = .done response → data = response.body →
          sys.live.service.WorksOn get.checkId request →
            ∃ get response request, sys'.live.gets[n]? = some get ∧ get.poll = .done response ∧
              data = response.body ∧ sys'.live.service.WorksOn get.checkId request :=
      fun hget hdone hdata hworks =>
        ⟨_, _, _, hstep.done hget hdone, hdone, hdata, hstep.worksOn hworks⟩
    rw [List.map_append, List.map_singleton] at hlast
    cases hp : event.page? p with
    | none =>
      rw [SystemEvent.last?_of_none hp] at hlast
      obtain ⟨get, response, request, hget, hdone, hdata, hworks⟩ := ih hlast
      exact hkept hget hdone hdata hworks
    | some pageEvent =>
      rw [SystemEvent.last?_of_some hp] at hlast
      obtain rfl := Option.some.inj hlast
      obtain ⟨hpage, get, response, hget, hdone, hdata⟩ := hstep.pageStep hp
      -- the page asked for its own check
      obtain ⟨w, hphase⟩ := hpage.getting_of_viewed
      obtain ⟨htruthy, get', hget', hid⟩ := hinv.getting p w n hphase
      obtain rfl := Option.some.inj (hget'.symm.trans hget)
      rcases hinv.checkIds p with hnull | howns
      · rw [hnull] at htruthy
        cases htruthy
      · obtain ⟨-, -, id, request, -, -, -, -, hcheckId, hworks⟩ := hinv.exists_meant howns
        rw [hcheckId, text.str_str] at hid
        rw [← hid] at hworks
        exact hkept hget hdone hdata hworks

/-- **The script of a page fails exactly at a completed check without its result**: the `GET` read the
status after it was written and the result before, and the script reads a member of `None`. -/
theorem scripts_raise_iff (hparse : ReadsRequests parse)
    (h : Run (System.Step text env provider parse) System.initial trace sys) (p : ℕ) (e : PyException) :
    (sys.pages p).phase = .raised e ↔ e = noneSubscripted ∧
      ∃ (n : ℕ) (get : Get Json) (response : CheckStatusResponse Json),
        SystemEvent.last? p (trace.map Prod.fst) = some (.viewed n (.ok response.body)) ∧
          sys.live.gets[n]? = some get ∧ get.poll = .done response ∧
          response.status = CheckStatus.completed.value ∧ response.result = none := by
  rw [System.raised_iff hparse h]
  constructor
  · rintro ⟨n, data, hlast, htruthy, hrender⟩
    obtain ⟨get, response, request, hget, hdone, rfl, hworks⟩ := System.viewed_done hparse h hlast
    obtain ⟨shown, hshown, hof⟩ := System.exists_shownCheck h hget hdone hworks
    have hraised : shown.raised = some e := hof.raised_iff.mpr hrender
    cases hshown with
    | completing llm summary hcompletes hstatus hresult =>
      cases hraised
      exact ⟨rfl, n, get, response, hlast, hget, hdone, hstatus, hresult⟩
    | _ => cases hraised
  · rintro ⟨rfl, n, get, ⟨checkId, status, result, error⟩, hlast, -, -, hstatus, hresult⟩
    obtain rfl : status = CheckStatus.completed.value := hstatus
    obtain rfl : result = none := hresult
    refine ⟨n, _, hlast, rfl, ?_⟩
    exact renderStatus_body text checkId .completed none error

end run

/-! ### A page that submits a check and looks too early -/

def plainText : PageText where
  str
    | .str text => text
    | .bool b => pyBool b
    | .num literal => literal
    | _ => "None"
  repr
    | .str text => "'" ++ text ++ "'"
    | _ => "None"
  fixed1 literal := literal
  str_null := rfl
  str_str _ := rfl
  str_bool _ := rfl

/-- A reading of the request model that reads no more than it has to. -/
def readRequest (json : Json) : Except String CandidateCheckRequest :=
  match CandidateCheckRequest.read? json with
  | some request => .ok request
  | none => .error "unprocessable"

theorem readsRequests_readRequest : ReadsRequests readRequest := by
  intro json request hread
  unfold readRequest
  rw [hread]

def adaForm : CandidateForm where
  candidateName := "Ada"
  roleAppliedFor := "Clerk"
  jobTitle := "Clerk"
  company := "Acme"
  startDate := "2020-01"

def bobForm : ReferenceForm where
  type := .REF2
  referenceName := "Bob"
  relationship := "Manager"

def pressing (button : Button) : Widgets where
  candidate := adaForm
  reference := bobForm
  callbackUrl := ""
  autoRefresh := false
  pressed := some button

abbrev PlainStep : System → SystemEvent → System → Prop :=
  System.Step plainText (.shipped .plain) (.ok overallLLM.getModel) readRequest

/-- The system with one page. -/
def onePage (live : LiveService Json) (page : Page) (posts : List Post) : System :=
  ⟨live, Function.update (fun _ => {}) 0 page, posts⟩

section one

variable {trace : List (SystemEvent × System)} {live live' : LiveService Json} {page page' : Page}
  {posts : List Post}

theorem run_onePage {event : PageEvent} (h : Run PlainStep System.initial trace (onePage live page posts))
    (hstep : PageStep plainText page event page') (hallowed : (onePage live page posts).Allows event) :
    Run PlainStep System.initial
      (trace ++ [(.page 0 event, onePage { live with gets := live.gets ++ event.gets } page'
        (posts ++ event.sent 0))])
      (onePage { live with gets := live.gets ++ event.gets } page' (posts ++ event.sent 0)) := by
  have hwhole : PlainStep (onePage live page posts) (.page 0 event) _ := .page 0 event page' hstep hallowed
  unfold System.act onePage at hwhole
  unfold onePage at h ⊢
  rw [Function.update_idem] at hwhole
  exact h.snoc hwhole

theorem run_oneService {event : LiveEvent Json}
    (h : Run PlainStep System.initial trace (onePage live page posts))
    (hstep : System.LiveStep (.shipped .plain) (.ok overallLLM.getModel) live event live') :
    Run PlainStep System.initial (trace ++ [(.service event, onePage live' page posts)])
      (onePage live' page posts) :=
  h.snoc (.service event live' hstep)

end one

def adaRequest : CandidateCheckRequest := checkRequest adaForm [bobForm] ""

def adaPost : Post where
  page := 0
  body := dumps (checkPayload adaForm.entry [bobForm.entry] "")
  response := some (.ok (submittedBody "a1"))

/-- The page when the response has arrived. -/
def adaPage : Page where
  session := {
    references := [bobForm.entry], candidate := some adaForm.entry, checkId := .str "a1" }
  phase := .submitted (pressing .submit)
  elements := [.info "Candidate ready: Ada", .markdown "**1 reference(s) added:**",
    .write "- Bob (Manager) — REF2", .success "Submitted. check_id = a1"]

/-- The service with the check of the page. -/
def adaService (store : CheckStore Json) (state : JobState Json) : Service Json :=
  ⟨store, [⟨"a1", adaRequest, state⟩]⟩

def adaStore : CheckStore Json := CheckStore.create .empty "a1" none 0 0

def adaLive : LiveService Json := { service := adaService adaStore .created }

theorem exists_run_adaPage : ∃ trace,
    Run PlainStep System.initial trace (onePage adaLive adaPage [adaPost]) := by
  have hinitial : Run PlainStep System.initial [] (onePage (LiveService.initial Json) {} []) := by
    unfold onePage
    rw [Function.update_eq_self]
    exact .nil
  have hsaved := run_onePage (run_onePage hinitial (.press (pressing .saveCandidate)) trivial)
    (.form (pressing .saveCandidate) rfl) trivial
  have hadded := run_onePage (run_onePage hsaved (.press (pressing .addReference)) trivial)
    (.form (pressing .addReference) rfl) trivial
  have hformed := run_onePage (run_onePage hadded (.press (pressing .submit)) trivial)
    (.form (pressing .submit) rfl) trivial
  have hposted := run_onePage hformed (.post 0 (pressing .submit)
    (checkPayload adaForm.entry [bobForm.entry] "") rfl rfl) rfl
  have haccept : Service.CheckStep (.shipped .plain) (.ok overallLLM.getModel) (storedResult .plain)
      (Service.initial Json) (.accepted adaRequest "a1") (adaService adaStore .created) :=
    ⟨.accept _ adaRequest "a1" 0 0 (by decide) rfl, by simp [adaService]⟩
  have hhandled : Run PlainStep System.initial _ (onePage adaLive _ [adaPost]) :=
    hposted.snoc (.handle 0 { adaPost with response := none } adaRequest (.accepted adaRequest "a1")
      adaLive (.ok (submittedBody "a1")) rfl rfl
      (readBody_dumps readsRequests_readRequest adaForm [bobForm] "") (.service _ _ haccept (Or.inr rfl))
      (.accepted "a1"))
  have hacknowledged := run_onePage hhandled
    (.acknowledge 0 (pressing .submit) (.ok (submittedBody "a1")) rfl) ⟨adaPost, rfl, rfl⟩
  exact ⟨_, hacknowledged⟩

theorem posts_accepted_ada : ∃ trace request,
    Run PlainStep System.initial trace (onePage adaLive adaPage [adaPost]) ∧
      adaPost.Meant readRequest (trace.map Prod.fst) adaLive.service 0 request := by
  obtain ⟨trace, hrun⟩ := exists_run_adaPage
  obtain ⟨request, hmeant, -, -⟩ :=
    posts_accepted readsRequests_readRequest (by decide) hrun (show [adaPost][0]? = some adaPost from rfl)
  exact ⟨trace, request, hrun, hmeant⟩

theorem ada_checkStep {store store' : CheckStore Json} {state state' : JobState Json} {event : Event Json}
    (hstep : JobStep (storedResult .plain) "a1" store state event store' state')
    (hgenuine : ∀ outcome, state' = .invoked outcome →
      CheckOutcome (.shipped .plain) (.ok overallLLM.getModel) (storedResult .plain) adaRequest outcome) :
    Service.CheckStep (.shipped .plain) (.ok overallLLM.getModel) (storedResult .plain)
      (adaService store state) event (adaService store' state') := by
  refine ⟨.job _ 0 ⟨"a1", adaRequest, state⟩ event store' state' rfl hstep, ?_⟩
  intro job hjob outcome hstate
  obtain rfl := List.mem_singleton.mp hjob
  exact Or.inr (hgenuine outcome hstate)

def adaRecord : CheckRecord Json where
  checkId := "a1"
  createdAt := 0
  updatedAt := 0

/-- What the check comes to: its form needs no model. -/
def adaState : CandidateState := adaRequest.finalState (.shipped .plain) overallLLM "Fine."

def adaResult : Json := adaState.py.toJson .plain

theorem checkOutcome_ada : CheckOutcome (.shipped .plain) (.ok overallLLM.getModel) (storedResult .plain)
    adaRequest (.ok adaState >>= storedResult .plain) := by
  refine checkOutcome_iff.mpr (Or.inr ⟨overallLLM, rfl, ?_⟩)
  rw [invokeCheck_eq (by simp [adaRequest, checkRequest])]
  rfl

/-- The check is completed, but for its result. -/
def adaBetween : LiveService Json where
  service := adaService ((adaStore.markRunning "a1" 1).markCompleted "a1" adaResult 2) .marked
  writing := some ⟨"a1", { adaRecord with status := .completed, updatedAt := 1 },
    [.result adaResult, .updatedAt 2]⟩
  gets := [⟨"a1", .done ⟨"a1", "completed", none, none⟩⟩]

/-- The page that has looked. -/
def adaFailed : Page where
  session := adaPage.session
  phase := .raised noneSubscripted
  elements := adaPage.elements ++ [.write "check_id: `a1`", .success "Completed"]

/-- The page looks between two writes of the update that completes its check. -/
theorem exists_run_adaFailed : ∃ trace,
    Run PlainStep System.initial trace (onePage adaBetween adaFailed [adaPost]) ∧
      SystemEvent.last? 0 (trace.map Prod.fst) =
        some (.viewed 0 (.ok (CheckStatusResponse.body ⟨"a1", "completed", none, none⟩))) := by
  obtain ⟨trace, hsubmitted⟩ := exists_run_adaPage
  have hscheduled := run_oneService hsubmitted
    (.service _ _ (ada_checkStep .schedule (by rintro _ ⟨⟩)) (Or.inl rfl))
  have hmarked := run_oneService hscheduled (.update _ _ "a1" (runningKwargs Json) 1 adaRecord
    (ada_checkStep (.markRunning 1) (by rintro _ ⟨⟩)) rfl (.running "a1") rfl rfl)
  have hstatus := run_oneService hmarked (.write "a1" _ _ _ rfl)
  have hupdated := run_oneService hstatus (.write "a1" _ _ _ rfl)
  have hrunning := run_oneService hupdated (.release "a1" _ rfl)
  have hinvoked := run_oneService hrunning (.service _ _ (ada_checkStep (.invoke (.ok adaState)) (by
    rintro outcome ⟨⟩
    exact checkOutcome_ada)) (Or.inl rfl))
  have hasked := run_onePage hinvoked (.request 0 (pressing .submit) rfl (by decide)) rfl
  have hgot := run_oneService hasked (.read 0 _ _ _ rfl rfl (.get rfl))
  have hcompleting := run_oneService hgot (.update _ _ "a1" (completedKwargs adaResult) 2 _
    (ada_checkStep (.markCompleted adaResult 2) (by rintro _ ⟨⟩)) rfl (.completed "a1" adaResult) rfl rfl)
  have hcompleted := run_oneService hcompleting (.write "a1" _ _ _ rfl)
  have hreadStatus := run_oneService hcompleted (.read 0 _ _ _ rfl rfl .readStatus)
  have hreadResult := run_oneService hreadStatus (.read 0 _ _ _ rfl rfl (.readResult _))
  have hreadError := run_oneService hreadResult (.read 0 _ _ _ rfl rfl (.readError _ _))
  have hread : Run PlainStep System.initial _ (onePage adaBetween
    { adaPage with phase := .getting (pressing .submit) 0 } [adaPost]) := hreadError
  have hviewed := run_onePage hread
    (.view 0 (pressing .submit) (.ok (CheckStatusResponse.body ⟨"a1", "completed", none, none⟩)) rfl)
    ⟨_, ⟨"a1", "completed", none, none⟩, rfl, rfl, rfl⟩
  refine ⟨_, hviewed, ?_⟩
  rw [List.map_append]
  exact SystemEvent.last?_of_some rfl

theorem pages_show_own_check_ada : ∃ shown,
    ShownCheck plainText (.shipped .plain) (.ok overallLLM.getModel) adaRequest
        ⟨"a1", "completed", none, none⟩ shown ∧
      (∀ w, (showResult plainText w (.ok (CheckStatusResponse.body ⟨"a1", "completed", none, none⟩))
        adaPage.session).Shows plainText shown) ∧
      ∀ q, ((onePage adaBetween adaFailed [adaPost]).pages q).session.checkId = .str "a1" → q = 0 := by
  obtain ⟨trace, hrun, -⟩ := exists_run_adaFailed
  have htruthy : ((onePage adaBetween adaFailed [adaPost]).pages 0).session.checkId.truthy = true :=
    show (Json.str "a1").truthy = true by decide
  obtain ⟨n, post, id, request, hpost, -, hmeant, hid, hown, -, -, hgets⟩ :=
    pages_show_own_check readsRequests_readRequest hrun htruthy
  obtain rfl : id = "a1" := (Json.str.inj hid).symm
  obtain rfl : post = adaPost := List.mem_singleton.mp (List.mem_of_getElem? hpost)
  obtain rfl : request = adaRequest := Option.some.inj
    (hmeant.read.symm.trans (readBody_dumps readsRequests_readRequest adaForm [bobForm] ""))
  obtain ⟨shown, hshown, hshows⟩ := hgets 0 _ _ rfl rfl rfl
  exact ⟨shown, hshown, hshows, hown⟩

theorem scripts_raise_iff_ada : ∃ trace,
    Run PlainStep System.initial trace (onePage adaBetween adaFailed [adaPost]) ∧
      ((onePage adaBetween adaFailed [adaPost]).pages 0).phase = .raised noneSubscripted := by
  obtain ⟨trace, hrun, hlast⟩ := exists_run_adaFailed
  exact ⟨trace, hrun, (scripts_raise_iff readsRequests_readRequest hrun 0 noneSubscripted).mpr
    ⟨rfl, 0, _, _, hlast, rfl, rfl, rfl, rfl⟩⟩

end RefCheck
