import RefCheck.Page.Drafts
import RefCheck.Page.Report
import RefCheck.Service.Live

/-!
# Pages and the service

Any number of pages, each with its own session, and the service with its threads. A `POST` in between may be
lost, handled late, or handled without its response being seen; a `GET` reads the live record, be it between
two writes of an update. Every step of a page, of a thread of the service or of another client is a step of
the system, in any order. The invariant says what each `POST` means, that no two of them have one check, and
that a page has no check but one that it posted (`System.Invariant`); every step keeps it
(`System.Step.invariant`).
-/

namespace RefCheck

open JsonCodec Transitions

/-! ### The system -/

/-- A `POST` of a page. -/
structure Post where
  page : ℕ
  body : List Char
  /-- The response, once the request is handled. -/
  response : Option (Except HTTPException Json) := none

structure System where
  live : LiveService Json
  pages : ℕ → Page
  posts : List Post

def System.initial : System := ⟨LiveService.initial Json, fun _ => {}, []⟩

inductive SystemEvent where
  | page (p : ℕ) (event : PageEvent)
  | handled (post : ℕ) (event : Event Json)
  | unreadable (post : ℕ)
  | service (event : LiveEvent Json)

/-- What an event of a page sends. -/
def PageEvent.sent (p : ℕ) : PageEvent → List Post
  | .posted _ _ payload => [{ page := p, body := dumps payload }]
  | _ => []

def PageEvent.gets : PageEvent → List (Get Json)
  | .requested _ checkId => [{ checkId }]
  | _ => []

/-- The response to a request with which the service does something. -/
inductive Event.Responds (request : CandidateCheckRequest) : Event Json → Except HTTPException Json → Prop
  | accepted (checkId : String) : Responds request (.accepted request checkId) (.ok (submittedBody checkId))
  | rejected (response : HTTPException) : Responds request (.rejected request response) (.error response)

/-- What the rest of the system has to do with an event of a page. An exception may have any cause, a
response is one of the service. -/
def System.Allows (sys : System) : PageEvent → Prop
  | .posted n _ _ => n = sys.posts.length
  | .acknowledged n (.ok body) => ∃ post, sys.posts[n]? = some post ∧ post.response = some (.ok body)
  | .requested n _ => n = sys.live.gets.length
  | .viewed n (.ok data) => ∃ get response, sys.live.gets[n]? = some get ∧ get.poll = .done response ∧
      data = response.body
  | _ => True

/-- The system after an event of the page `p`, which is then `page`. -/
def System.act (sys : System) (p : ℕ) (event : PageEvent) (page : Page) : System where
  live := { sys.live with gets := sys.live.gets ++ event.gets }
  pages := Function.update sys.pages p page
  posts := sys.posts ++ event.sent p

section step

variable (text : PageText) (env : Env) (provider : Except PyException (ModelTier → String))
  (parse : Json → Except String CandidateCheckRequest)

/-- A step of the service and its threads. -/
abbrev System.LiveStep : LiveService Json → LiveEvent Json → LiveService Json → Prop :=
  LiveService.Step env provider (storedResult env.toPyText)

inductive System.Step (sys : System) : SystemEvent → System → Prop
  | page (p : ℕ) (event : PageEvent) (page : Page) (hstep : PageStep text (sys.pages p) event page)
      (hallowed : sys.Allows event) : Step sys (.page p event) (sys.act p event page)
  /-- The request of a body is handled. -/
  | handle (n : ℕ) (post : Post) (request : CandidateCheckRequest) (event : Event Json)
      (live : LiveService Json) (response : Except HTTPException Json) (hpost : sys.posts[n]? = some post)
      (hopen : post.response = none) (hread : readBody parse post.body = some request)
      (hstep : System.LiveStep env provider sys.live (.service event) live)
      (hresponse : event.Responds request response) :
      Step sys (.handled n event)
        { sys with live, posts := sys.posts.set n { post with response := some response } }
  /-- A body that is no request. -/
  | refuse (n : ℕ) (post : Post) (response : HTTPException) (hpost : sys.posts[n]? = some post)
      (hopen : post.response = none) (hread : readBody parse post.body = none)
      (hstatus : response.statusCode = 422) :
      Step sys (.unreadable n)
        { sys with posts := sys.posts.set n { post with response := some (.error response) } }
  /-- A job, a `GET` or another client. -/
  | service (event : LiveEvent Json) (live : LiveService Json)
      (hstep : System.LiveStep env provider sys.live event live) :
      Step sys (.service event) { sys with live }

end step

/-- What the service and its threads do at an event of the system. -/
def SystemEvent.live? : SystemEvent → Option (LiveEvent Json)
  | page _ (.requested _ checkId) => some (.requested checkId)
  | handled _ event => some (.service event)
  | service event => some event
  | _ => none

/-- What the page does. -/
def SystemEvent.page? (p : ℕ) : SystemEvent → Option PageEvent
  | page q event => if q = p then some event else none
  | _ => none

/-- The draft of a page after events of the system. -/
def Draft.of (p : ℕ) (labels : List SystemEvent) : Draft :=
  (labels.filterMap (SystemEvent.page? p)).foldl Draft.after {}

section draft

variable {p : ℕ} {labels : List SystemEvent}

theorem Draft.of_append (label : SystemEvent) :
    Draft.of p (labels ++ [label]) = match label.page? p with
      | some event => (Draft.of p labels).after event
      | none => Draft.of p labels := by
  unfold Draft.of
  rw [List.filterMap_append, List.foldl_append]
  cases hlabel : label.page? p with
  | none => rw [List.filterMap_cons_none hlabel]; rfl
  | some event => rw [List.filterMap_cons_some hlabel]; rfl

theorem Draft.of_append_of_none {label : SystemEvent} (hlabel : label.page? p = none) :
    Draft.of p (labels ++ [label]) = Draft.of p labels := by
  rw [Draft.of_append, hlabel]

theorem Draft.of_append_of_some {label : SystemEvent} {event : PageEvent}
    (hlabel : label.page? p = some event) :
    Draft.of p (labels ++ [label]) = (Draft.of p labels).after event := by
  rw [Draft.of_append, hlabel]

theorem Draft.of_complete (p : ℕ) (labels : List SystemEvent) : (Draft.of p labels).Complete := by
  induction labels using List.reverseRecOn with
  | nil => exact Draft.complete_empty
  | append_singleton labels label ih =>
    rw [Draft.of_append]
    split
    · exact ih.after _
    · exact ih

theorem Draft.request?_eq_some {draft : Draft} {callbackUrl : String} {request : CandidateCheckRequest} :
    draft.request? callbackUrl = some request ↔ draft.references ≠ [] ∧
      ∃ candidate, draft.candidate = some candidate ∧
        checkRequest candidate draft.references callbackUrl = request := by
  unfold Draft.request?
  by_cases hnil : draft.references = []
  · rw [if_pos hnil]
    exact ⟨nofun, fun h => absurd hnil h.1⟩
  · rw [if_neg hnil, Option.map_eq_some_iff]
    exact ⟨fun h => ⟨hnil, h⟩, fun h => h.2⟩

end draft

/-! ### The service -/

/-- The service has a job on the check, for the request. -/
def Service.WorksOn {J : Type} (sv : Service J) (checkId : String) (request : CandidateCheckRequest) :
    Prop :=
  ∃ job ∈ sv.jobs, job.checkId = checkId ∧ job.request = request

section service

variable {J : Type} {py : PyText} {toJson : CandidateState → Except PyException J} {sv sv' : Service J}
  {event : Event J} {request : CandidateCheckRequest} {checkId : String}

/-- A job is not given up, and its request stays. -/
theorem Service.Step.worksOn (h : Service.Step py toJson sv event sv') (hworks : sv.WorksOn checkId request) :
    sv'.WorksOn checkId request := by
  obtain ⟨job, hjob, hid, hrequest⟩ := hworks
  cases h with
  | reject request response hreject => exact ⟨job, hjob, hid, hrequest⟩
  | accept request id createdAt updatedAt haccept hfresh =>
    exact ⟨job, List.mem_append_left _ hjob, hid, hrequest⟩
  | job i moved event store state hmoved hstep =>
    obtain ⟨j, hj⟩ := List.mem_iff_getElem?.mp hjob
    by_cases hij : i = j
    · subst hij
      obtain rfl := Option.some.inj (hmoved.symm.trans hj)
      have hi := (List.getElem?_eq_some_iff.mp hj).1
      exact ⟨_, List.mem_set hi _, hid, hrequest⟩
    · refine ⟨job, List.mem_iff_getElem?.mpr ⟨j, ?_⟩, hid, hrequest⟩
      dsimp only
      rw [List.getElem?_set_ne hij, hj]
  | poll id => exact ⟨job, hjob, hid, hrequest⟩

theorem JobStep.not_request {store store' : CheckStore J} {state state' : JobState J}
    (h : JobStep toJson checkId store state event store' state') :
    (∀ request id, event ≠ .accepted request id) ∧ ∀ request response, event ≠ .rejected request response := by
  constructor
  · rintro request id rfl
    cases h
  · rintro request response rfl
    cases h

theorem Service.Step.of_accepted (h : Service.Step py toJson sv (.accepted request checkId) sv') :
    sv.store.get? checkId = none ∧ sv'.WorksOn checkId request := by
  generalize hevent : Event.accepted request checkId = event at h
  cases h with
  | reject request response hreject => cases hevent
  | accept request id createdAt updatedAt haccept hfresh =>
    cases hevent
    exact ⟨hfresh, _, List.mem_append_right _ (List.mem_singleton_self _), rfl, rfl⟩
  | job i moved event store state hmoved hstep => exact absurd hevent.symm (hstep.not_request.1 _ _)
  | poll id => cases hevent

theorem Service.Step.of_rejected {response : HTTPException}
    (h : Service.Step py toJson sv (.rejected request response) sv') :
    submitCheck py request.toCandidateBatchInput = .error response := by
  generalize hevent : Event.rejected request response = event at h
  cases h with
  | reject request response hreject =>
    cases hevent
    exact hreject
  | accept request id createdAt updatedAt haccept hfresh => cases hevent
  | job i moved event store state hmoved hstep => exact absurd hevent.symm (hstep.not_request.2 _ _)
  | poll id => cases hevent

theorem LiveService.Step.worksOn {env : Env} {provider : Except PyException (ModelTier → String)}
    {live live' : LiveService J} {event : LiveEvent J}
    (h : LiveService.Step env provider toJson live event live')
    (hworks : live.service.WorksOn checkId request) : live'.service.WorksOn checkId request := by
  cases hevent : event.service? with
  | none =>
    rw [h.service_eq hevent]
    exact hworks
  | some serviceEvent => exact (h.checkStep hevent).step.worksOn hworks

end service

/-! ### The invariant -/

/-- What a `POST` says. -/
structure Post.Meant (parse : Json → Except String CandidateCheckRequest) (labels : List SystemEvent)
    (sv : Service Json) (n : ℕ) (post : Post) (request : CandidateCheckRequest) : Prop where
  /-- The request is what the forms on its page said when it was sent. -/
  sent : ∃ before w payload, before ++ [.page post.page (.posted n w payload)] <+: labels ∧
    (Draft.of post.page before).request? w.callbackUrl = some request
  /-- It arrives as that request. -/
  read : readBody parse post.body = some request
  /-- If it was handled then it was accepted. -/
  answered : ∀ response, post.response = some response →
    ∃ checkId, response = .ok (submittedBody checkId) ∧ sv.WorksOn checkId request

/-- The value is the ID of a check that a `POST` of the page led to. -/
def System.Owns (sys : System) (p : ℕ) (checkId : Json) : Prop :=
  ∃ (n : ℕ) (post : Post) (id : String), sys.posts[n]? = some post ∧ post.page = p ∧
    post.response = some (.ok (submittedBody id)) ∧ checkId = .str id

structure System.Invariant (text : PageText) (parse : Json → Except String CandidateCheckRequest)
    (labels : List SystemEvent) (sys : System) : Prop where
  live : sys.live.Invariant
  drafts : ∀ p, (sys.pages p).session.Holds (Draft.of p labels)
  posts : ∀ (n : ℕ) (post : Post), sys.posts[n]? = some post →
    ∃ request, post.Meant parse labels sys.live.service n request
  distinct : ∀ (m n : ℕ) (post post' : Post) (response : Json), sys.posts[m]? = some post →
    sys.posts[n]? = some post' → post.response = some (.ok response) →
      post'.response = some (.ok response) → m = n
  waiting : ∀ p w n, (sys.pages p).phase = .posting w n →
    ∃ post : Post, sys.posts[n]? = some post ∧ post.page = p
  checkIds : ∀ p, (sys.pages p).session.checkId = .null ∨ sys.Owns p (sys.pages p).session.checkId
  getting : ∀ p w n, (sys.pages p).phase = .getting w n → (sys.pages p).session.checkId.truthy = true ∧
    ∃ get, sys.live.gets[n]? = some get ∧ get.checkId = text.str (sys.pages p).session.checkId

section invariant

variable {text : PageText} {env : Env} {provider : Except PyException (ModelTier → String)}
  {parse : Json → Except String CandidateCheckRequest} {labels : List SystemEvent} {sys sys' : System}
  {event : SystemEvent} {request : CandidateCheckRequest}

theorem System.invariant_initial : System.initial.Invariant text parse [] := by
  have hnone : ∀ (n : ℕ) (post : Post), System.initial.posts[n]? ≠ some post := by simp [System.initial]
  refine ⟨LiveService.invariant_initial, fun _ => Session.holds_empty, ?_, ?_, ?_, fun _ => Or.inl rfl, ?_⟩
  · intro n post hpost
    exact absurd hpost (hnone n post)
  · intro m n post post' response hpost
    exact absurd hpost (hnone m post)
  · intro p w n hphase
    cases hphase
  · intro p w n hphase
    cases hphase

/-! ### What a step leaves -/

theorem System.Step.liveStep (h : System.Step text env provider parse sys event sys')
    {liveEvent : LiveEvent Json} (hlive : event.live? = some liveEvent) :
    System.LiveStep env provider sys.live liveEvent sys'.live := by
  cases h with
  | page p event page hstep hallowed =>
    cases event with
    | requested n checkId =>
      cases hlive
      exact .request checkId
    | _ => cases hlive
  | handle n post request event live response hpost hopen hread hstep hresponse =>
    cases hlive
    exact hstep
  | refuse n post response hpost hopen hread hstatus => cases hlive
  | service event live hstep =>
    cases hlive
    exact hstep

theorem System.Step.live_eq (h : System.Step text env provider parse sys event sys')
    (hlive : event.live? = none) : sys'.live = sys.live := by
  cases h with
  | page p event page hstep hallowed =>
    have hgets : event.gets = [] := by
      cases event with
      | requested n checkId => cases hlive
      | _ => rfl
    unfold System.act
    dsimp only
    rw [hgets, List.append_nil]
  | handle n post request event live response hpost hopen hread hstep hresponse => cases hlive
  | refuse n post response hpost hopen hread hstatus => rfl
  | service event live hstep => cases hlive

/-- What the threads of the service keep, the system keeps. -/
theorem System.Step.live_kept {P : LiveService Json → Prop}
    (h : System.Step text env provider parse sys event sys')
    (hkept : ∀ liveEvent live, System.LiveStep env provider sys.live liveEvent live → P live)
    (hlive : P sys.live) : P sys'.live := by
  cases hevent : event.live? with
  | none =>
    rw [h.live_eq hevent]
    exact hlive
  | some liveEvent => exact hkept liveEvent _ (h.liveStep hevent)

theorem System.Step.worksOn (h : System.Step text env provider parse sys event sys') {checkId : String}
    (hworks : sys.live.service.WorksOn checkId request) : sys'.live.service.WorksOn checkId request :=
  h.live_kept (P := fun live => live.service.WorksOn checkId request) (fun _ _ hstep => hstep.worksOn hworks)
    hworks

theorem System.Step.exists_get (h : System.Step text env provider parse sys event sys') {n : ℕ}
    {get : Get Json} (hget : sys.live.gets[n]? = some get) :
    ∃ get', sys'.live.gets[n]? = some get' ∧ get'.checkId = get.checkId :=
  h.live_kept (P := fun live => ∃ get', live.gets[n]? = some get' ∧ get'.checkId = get.checkId)
    (fun _ _ hstep => hstep.exists_get hget) ⟨get, hget, rfl⟩

theorem System.Step.done (h : System.Step text env provider parse sys event sys') {n : ℕ}
    {get : Get Json} {response : CheckStatusResponse Json} (hget : sys.live.gets[n]? = some get)
    (hdone : get.poll = .done response) : sys'.live.gets[n]? = some get :=
  h.live_kept (P := fun live => live.gets[n]? = some get) (fun _ _ hstep => hstep.done hget hdone) hget

theorem System.Step.pages_eq (h : System.Step text env provider parse sys event sys') {p : ℕ}
    (hp : event.page? p = none) : sys'.pages p = sys.pages p := by
  cases h with
  | page q event page hstep hallowed =>
    have hne : p ≠ q := by
      rintro rfl
      cases (if_pos rfl).symm.trans hp
    exact Function.update_of_ne hne _ _
  | handle n post request event live response hpost hopen hread hstep hresponse => rfl
  | refuse n post response hpost hopen hread hstatus => rfl
  | service event live hstep => rfl

theorem System.Step.pageStep (h : System.Step text env provider parse sys event sys') {p : ℕ}
    {pageEvent : PageEvent} (hp : event.page? p = some pageEvent) :
    PageStep text (sys.pages p) pageEvent (sys'.pages p) ∧ sys.Allows pageEvent := by
  cases h with
  | page q event page hstep hallowed =>
    unfold SystemEvent.page? at hp
    dsimp only at hp
    split_ifs at hp with hq
    cases hp
    subst hq
    refine ⟨?_, hallowed⟩
    unfold System.act
    dsimp only
    rw [Function.update_self]
    exact hstep
  | handle n post request event live response hpost hopen hread hstep hresponse => cases hp
  | refuse n post response hpost hopen hread hstatus => cases hp
  | service event live hstep => cases hp

theorem Post.Meant.mono {sv sv' : Service Json} {n : ℕ} {post : Post}
    (h : post.Meant parse labels sv n request)
    (hworks : ∀ checkId, sv.WorksOn checkId request → sv'.WorksOn checkId request) :
    post.Meant parse (labels ++ [event]) sv' n request := by
  obtain ⟨before, w, payload, hbefore, hrequest⟩ := h.sent
  refine ⟨⟨before, w, payload, hbefore.trans (List.prefix_append _ _), hrequest⟩, h.read, ?_⟩
  intro response hresponse
  obtain ⟨checkId, hbody, hjob⟩ := h.answered response hresponse
  exact ⟨checkId, hbody, hworks checkId hjob⟩

/-- A `POST` stays what it is, and its response stays. -/
theorem System.Step.posts_mono (h : System.Step text env provider parse sys event sys') {n : ℕ} {post : Post}
    (hpost : sys.posts[n]? = some post) : ∃ post', sys'.posts[n]? = some post' ∧ post'.page = post.page ∧
      ∀ response, post.response = some response → post' = post := by
  have hset : ∀ (m : ℕ) (old : Post) (response : Except HTTPException Json), sys.posts[m]? = some old →
      old.response = none → ∃ post',
        (sys.posts.set m { old with response := some response })[n]? = some post' ∧
          post'.page = post.page ∧ ∀ response, post.response = some response → post' = post := by
    intro m old response hold hopen
    rw [List.getElem?_set]
    by_cases hmn : m = n
    · subst hmn
      obtain rfl := Option.some.inj (hold.symm.trans hpost)
      rw [if_pos rfl, if_pos (List.getElem?_eq_some_iff.mp hold).1]
      refine ⟨_, rfl, rfl, fun response hresponse => ?_⟩
      rw [hopen] at hresponse
      cases hresponse
    · rw [if_neg hmn]
      exact ⟨post, hpost, rfl, fun _ _ => rfl⟩
  cases h with
  | page p event page hstep hallowed =>
    exact ⟨post, List.getElem?_append_left (List.getElem?_eq_some_iff.mp hpost).1 ▸ hpost, rfl, fun _ _ => rfl⟩
  | handle m old request event live response hold hopen hread hstep hresponse =>
    exact hset m old response hold hopen
  | refuse m old response hold hopen hread hstatus => exact hset m old (.error response) hold hopen
  | service event live hstep => exact ⟨post, hpost, rfl, fun _ _ => rfl⟩

theorem System.Owns.mono (h : System.Step text env provider parse sys event sys') {p : ℕ} {checkId : Json}
    (howns : sys.Owns p checkId) : sys'.Owns p checkId := by
  obtain ⟨n, post, id, hpost, hpage, hresponse, hid⟩ := howns
  obtain ⟨post', hpost', -, hsame⟩ := h.posts_mono hpost
  obtain rfl := hsame _ hresponse
  exact ⟨n, _, id, hpost', hpage, hresponse, hid⟩

theorem submittedBody_inj {id id' : String} (h : submittedBody id = submittedBody id') : id = id' := by
  unfold submittedBody at h
  simp only [Json.obj.injEq, List.cons.injEq, Prod.mk.injEq, Json.str.injEq, true_and, and_true] at h
  exact h

theorem Post.Meant.submitCheck_ok {n : ℕ} {post : Post} {sv : Service Json}
    (h : post.Meant parse labels sv n request) (py : PyText) :
    submitCheck py request.toCandidateBatchInput = .ok () := by
  obtain ⟨before, w, payload, -, hrequest⟩ := h.sent
  obtain ⟨hne, candidate, -, rfl⟩ := Draft.request?_eq_some.mp hrequest
  exact submitCheck_checkRequest hne (Draft.of_complete post.page before).references w.callbackUrl py

/-- The service works on a check that a page owns, for the request of the `POST`. -/
theorem System.Invariant.exists_meant (hinv : sys.Invariant text parse labels) {p : ℕ} {checkId : Json}
    (howns : sys.Owns p checkId) : ∃ (n : ℕ) (post : Post) (id : String) (request : CandidateCheckRequest),
      sys.posts[n]? = some post ∧ post.page = p ∧ post.response = some (.ok (submittedBody id)) ∧
        post.Meant parse labels sys.live.service n request ∧ checkId = .str id ∧
          sys.live.service.WorksOn id request := by
  obtain ⟨n, post, id, hpost, hpage, hresponse, hid⟩ := howns
  obtain ⟨request, hmeant⟩ := hinv.posts n post hpost
  obtain ⟨id', hbody, hworks⟩ := hmeant.answered _ hresponse
  obtain rfl := submittedBody_inj (Except.ok.inj hbody)
  exact ⟨n, post, id, request, hpost, hpage, hresponse, hmeant, hid, hworks⟩

theorem System.Invariant.response_ne (hinv : sys.Invariant text parse labels) {id : String}
    (hfresh : sys.live.service.store.get? id = none) {m : ℕ} {post : Post}
    (hpost : sys.posts[m]? = some post) : post.response ≠ some (.ok (submittedBody id)) := by
  intro hresponse
  have howns : sys.Owns post.page (.str id) := ⟨m, post, id, hpost, rfl, hresponse, rfl⟩
  obtain ⟨-, -, id', -, -, -, -, -, hid, job, hjob, hjobId, -⟩ := hinv.exists_meant howns
  obtain rfl := Json.str.inj hid
  obtain ⟨record, hrecord, -⟩ := hinv.live.service.matched job hjob
  rw [hjobId] at hrecord
  cases hfresh.symm.trans hrecord

/-! ### The fields of the invariant -/

theorem System.Step.live_invariant (hinv : sys.Invariant text parse labels)
    (h : System.Step text env provider parse sys event sys') : sys'.live.Invariant :=
  h.live_kept (fun _ _ hstep => hstep.invariant hinv.live) hinv.live

theorem System.Step.drafts (hinv : sys.Invariant text parse labels)
    (h : System.Step text env provider parse sys event sys') (p : ℕ) :
    (sys'.pages p).session.Holds (Draft.of p (labels ++ [event])) := by
  cases hp : event.page? p with
  | none =>
    rw [h.pages_eq hp, Draft.of_append_of_none hp]
    exact hinv.drafts p
  | some pageEvent =>
    rw [Draft.of_append_of_some hp]
    exact (h.pageStep hp).1.holds (hinv.drafts p)

theorem getElem?_append_sent {posts : List Post} {p m : ℕ} {event : PageEvent} {post : Post}
    (hm : (posts ++ event.sent p)[m]? = some post) : posts[m]? = some post ∨
      (m = posts.length ∧ ∃ n w payload, event = .posted n w payload ∧
        post = { page := p, body := dumps payload }) := by
  rcases lt_or_ge m posts.length with hlt | hge
  · rw [List.getElem?_append_left hlt] at hm
    exact Or.inl hm
  · rw [List.getElem?_append_right hge] at hm
    cases event with
    | posted n w payload =>
      have hmem := List.mem_of_getElem? hm
      have hzero := (List.getElem?_eq_some_iff.mp hm).1
      rw [PageEvent.sent, List.length_singleton] at hzero
      exact Or.inr ⟨by omega, n, w, payload, rfl, List.mem_singleton.mp hmem⟩
    | _ => cases hm

theorem System.Invariant.of_handled (hinv : sys.Invariant text parse labels) {n : ℕ} {post : Post}
    {event : Event Json} {live : LiveService Json} {response : Except HTTPException Json}
    (hpost : sys.posts[n]? = some post) (hread : readBody parse post.body = some request)
    (hstep : System.LiveStep env provider sys.live (.service event) live)
    (hresponse : event.Responds request response) :
    ∃ id, response = .ok (submittedBody id) ∧ sys.live.service.store.get? id = none ∧
      live.service.WorksOn id request := by
  obtain ⟨request', hmeant⟩ := hinv.posts n post hpost
  obtain rfl : request = request' := Option.some.inj (hread.symm.trans hmeant.read)
  have hservice := (hstep.checkStep rfl).step
  cases hresponse with
  | rejected e => cases hservice.of_rejected.symm.trans (hmeant.submitCheck_ok env.toPyText)
  | accepted id =>
    obtain ⟨hfresh, hworks⟩ := hservice.of_accepted
    exact ⟨id, rfl, hfresh, hworks⟩

theorem getElem?_set_response {posts : List Post} {n m : ℕ} {old post post' : Post}
    (hold : posts[n]? = some old) (hm : (posts.set n post)[m]? = some post') :
    (m = n ∧ post' = post) ∨ posts[m]? = some post' := by
  rw [List.getElem?_set] at hm
  by_cases hnm : n = m
  · rw [if_pos hnm, if_pos (List.getElem?_eq_some_iff.mp hold).1] at hm
    exact Or.inl ⟨hnm.symm, (Option.some.inj hm).symm⟩
  · rw [if_neg hnm] at hm
    exact Or.inr hm

theorem System.Step.posts (hparse : ReadsRequests parse) (hinv : sys.Invariant text parse labels)
    (h : System.Step text env provider parse sys event sys') (m : ℕ) (post : Post)
    (hm : sys'.posts[m]? = some post) :
    ∃ request, post.Meant parse (labels ++ [event]) sys'.live.service m request := by
  have hkept : sys.posts[m]? = some post →
      ∃ request, post.Meant parse (labels ++ [event]) sys'.live.service m request := by
    intro hold
    obtain ⟨request, hmeant⟩ := hinv.posts m post hold
    exact ⟨request, hmeant.mono fun _ => h.worksOn⟩
  cases id h with
  | page p event page hstep hallowed =>
    rcases getElem?_append_sent hm with hold | ⟨rfl, n, w, payload, rfl, rfl⟩
    · exact hkept hold
    · obtain rfl : n = sys.posts.length := hallowed
      cases hstep with
      | post n w payload hphase hsubmission =>
        obtain ⟨candidate, hcandidate, hne, rfl⟩ := submission_eq_post (hinv.drafts p) hsubmission
        refine ⟨_, ⟨labels, w, _, List.prefix_refl _,
          Draft.request?_eq_some.mpr ⟨hne, candidate, hcandidate, rfl⟩⟩, ?_, nofun⟩
        exact readBody_dumps hparse candidate (Draft.of p labels).references w.callbackUrl
  | handle n old request event live response hold hopen hread hstep hresponse =>
    rcases getElem?_set_response hold hm with ⟨rfl, rfl⟩ | hbefore
    · obtain ⟨request', hmeant⟩ := hinv.posts m old hold
      obtain rfl : request = request' := Option.some.inj (hread.symm.trans hmeant.read)
      obtain ⟨id, rfl, -, hworks⟩ := hinv.of_handled hold hread hstep hresponse
      obtain ⟨before, w, payload, hbefore, hrequest⟩ := hmeant.sent
      refine ⟨request, ⟨before, w, payload, hbefore.trans (List.prefix_append _ _), hrequest⟩, hread, ?_⟩
      rintro response ⟨⟩
      exact ⟨id, rfl, hworks⟩
    · exact hkept hbefore
  | refuse n old response hold hopen hread hstatus =>
    obtain ⟨request, hmeant⟩ := hinv.posts n old hold
    cases hread.symm.trans hmeant.read
  | service event live hstep => exact hkept hm

theorem System.Step.distinct (hinv : sys.Invariant text parse labels)
    (h : System.Step text env provider parse sys event sys') (m m' : ℕ) (post post' : Post) (body : Json)
    (hm : sys'.posts[m]? = some post) (hm' : sys'.posts[m']? = some post')
    (hr : post.response = some (.ok body)) (hr' : post'.response = some (.ok body)) : m = m' := by
  cases h with
  | page p event page hstep hallowed =>
    rcases getElem?_append_sent hm with hold | ⟨-, n, w, payload, -, rfl⟩
    · rcases getElem?_append_sent hm' with hold' | ⟨-, n, w, payload, -, rfl⟩
      · exact hinv.distinct m m' post post' body hold hold' hr hr'
      · cases hr'
    · cases hr
  | handle n old request event live response hold hopen hread hstep hresponse =>
    obtain ⟨id, rfl, hfresh, -⟩ := hinv.of_handled hold hread hstep hresponse
    rcases getElem?_set_response hold hm with ⟨rfl, rfl⟩ | hbefore
    · cases hr
      rcases getElem?_set_response hold hm' with ⟨rfl, -⟩ | hbefore'
      · rfl
      · exact absurd hr' (hinv.response_ne hfresh hbefore')
    · rcases getElem?_set_response hold hm' with ⟨rfl, rfl⟩ | hbefore'
      · cases hr'
        exact absurd hr (hinv.response_ne hfresh hbefore)
      · exact hinv.distinct m m' post post' body hbefore hbefore' hr hr'
  | refuse n old response hold hopen hread hstatus =>
    obtain ⟨request, hmeant⟩ := hinv.posts n old hold
    cases hread.symm.trans hmeant.read
  | service event live hstep => exact hinv.distinct m m' post post' body hm hm' hr hr'

theorem System.Step.waiting (hinv : sys.Invariant text parse labels)
    (h : System.Step text env provider parse sys event sys') (p : ℕ) (w : Widgets) (n : ℕ)
    (hphase : (sys'.pages p).phase = .posting w n) :
    ∃ post : Post, sys'.posts[n]? = some post ∧ post.page = p := by
  cases hp : event.page? p with
  | none =>
    rw [h.pages_eq hp] at hphase
    obtain ⟨post, hpost, hpage⟩ := hinv.waiting p w n hphase
    obtain ⟨post', hpost', hsame, -⟩ := h.posts_mono hpost
    exact ⟨post', hpost', hsame.trans hpage⟩
  | some pageEvent =>
    obtain ⟨hstep, hallowed⟩ := h.pageStep hp
    obtain ⟨payload, rfl⟩ := hstep.posting hphase
    obtain rfl : n = sys.posts.length := hallowed
    cases h with
    | page q event page hstep' hallowed' =>
      unfold SystemEvent.page? at hp
      dsimp only at hp
      split_ifs at hp with hq
      cases hp
      subst hq
      refine ⟨{ page := q, body := dumps payload }, ?_, rfl⟩
      exact (List.getElem?_append_right (le_refl _)).trans (by rw [Nat.sub_self]; rfl)
    | handle n post request event live response hpost hopen hread hstep hresponse => cases hp
    | refuse n post response hpost hopen hread hstatus => cases hp
    | service event live hstep => cases hp

/-- A page has the check of a response that it waited for. -/
theorem System.Step.checkIds (hinv : sys.Invariant text parse labels)
    (h : System.Step text env provider parse sys event sys') (p : ℕ) :
    (sys'.pages p).session.checkId = .null ∨ sys'.Owns p (sys'.pages p).session.checkId := by
  have hkept : sys.Owns p (sys.pages p).session.checkId → sys'.Owns p (sys.pages p).session.checkId :=
    fun howns => howns.mono h
  cases hp : event.page? p with
  | none =>
    rw [h.pages_eq hp]
    exact (hinv.checkIds p).imp_right hkept
  | some pageEvent =>
    obtain ⟨hstep, hallowed⟩ := h.pageStep hp
    rcases hstep.checkId (hinv.drafts p) with hsame | hnull | ⟨n, w, body, hphase, rfl, hbody⟩
    · rw [hsame]
      exact (hinv.checkIds p).imp_right hkept
    · exact Or.inl hnull
    · -- the response is that of the request that the page waits for
      obtain ⟨post, hpost, hpage⟩ := hinv.waiting p w n hphase
      obtain ⟨post', hpost', hresponse⟩ := hallowed
      obtain rfl : post = post' := Option.some.inj (hpost.symm.trans hpost')
      obtain ⟨request, hmeant⟩ := hinv.posts n post hpost
      obtain ⟨id, hid, -⟩ := hmeant.answered _ hresponse
      obtain rfl := Except.ok.inj hid
      have howns : sys.Owns p (.str id) := ⟨n, post, id, hpost, hpage, hresponse, rfl⟩
      have hcheckId : (sys'.pages p).session.checkId = .str id := (Except.ok.inj hbody).symm
      rw [hcheckId]
      exact Or.inr (howns.mono h)

theorem System.Step.getting (hinv : sys.Invariant text parse labels)
    (h : System.Step text env provider parse sys event sys') (p : ℕ) (w : Widgets) (n : ℕ)
    (hphase : (sys'.pages p).phase = .getting w n) : (sys'.pages p).session.checkId.truthy = true ∧
      ∃ get, sys'.live.gets[n]? = some get ∧ get.checkId = text.str (sys'.pages p).session.checkId := by
  cases hp : event.page? p with
  | none =>
    rw [h.pages_eq hp] at hphase ⊢
    obtain ⟨htruthy, get, hget, hid⟩ := hinv.getting p w n hphase
    obtain ⟨get', hget', hsame⟩ := h.exists_get hget
    exact ⟨htruthy, get', hget', hsame.trans hid⟩
  | some pageEvent =>
    obtain ⟨hstep, hallowed⟩ := h.pageStep hp
    obtain ⟨hevent, htruthy⟩ := hstep.getting hphase
    refine ⟨htruthy, { checkId := text.str (sys'.pages p).session.checkId }, ?_, rfl⟩
    generalize (sys'.pages p).session.checkId = checkId at hevent
    subst hevent
    obtain rfl : n = sys.live.gets.length := hallowed
    cases h with
    | page q event page hstep' hallowed' =>
      unfold SystemEvent.page? at hp
      dsimp only at hp
      split_ifs at hp
      cases hp
      exact (List.getElem?_append_right (le_refl _)).trans (by rw [Nat.sub_self]; rfl)
    | handle n post request event live response hpost hopen hread hstep hresponse => cases hp
    | refuse n post response hpost hopen hread hstatus => cases hp
    | service event live hstep => cases hp

theorem System.Step.invariant (hparse : ReadsRequests parse) (hinv : sys.Invariant text parse labels)
    (h : System.Step text env provider parse sys event sys') :
    sys'.Invariant text parse (labels ++ [event]) where
  live := h.live_invariant hinv
  drafts := h.drafts hinv
  posts := h.posts hparse hinv
  distinct := h.distinct hinv
  waiting := h.waiting hinv
  checkIds := h.checkIds hinv
  getting := h.getting hinv

end invariant

end RefCheck
