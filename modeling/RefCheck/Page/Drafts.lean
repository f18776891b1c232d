import RefCheck.Page.Script

/-!
# What is entered on a page

A page steps through its script; a press of a widget begins a new run at any time. Its session holds
dictionaries. A `Draft` is what they stand for: the forms that were saved and added, less those that were
removed. Every step of a page does to the draft what its event says (`PageStep.holds`), and a page whose
session holds a draft fails at nothing but a response that cannot be shown (`PageStep.raised_iff`).
-/

namespace RefCheck

/-! ### The steps of a page -/

/-- Where a page is in its script. -/
inductive Phase where
  | idle
  | starting (w : Widgets)
  /-- The forms are done. -/
  | formed (w : Widgets)
  /-- A `POST` is sent and not answered. -/
  | posting (w : Widgets) (post : ℕ)
  /-- The submission is done. -/
  | submitted (w : Widgets)
  /-- A `GET` is sent and not answered. -/
  | getting (w : Widgets) (get : ℕ)
  /-- The result is shown. -/
  | shown (w : Widgets)
  | raised (e : PyException)

structure Page where
  session : Session := {}
  phase : Phase := .idle
  /-- What the run has put on the page. -/
  elements : List Element := []

/-- The page after a piece of its script that leads to the phase `next`. -/
def Page.after (page : Page) (w : Widgets) (piece : Piece) (next : Phase) : Page where
  session := piece.session
  phase := match piece.ending with
    | .proceeds => next
    | .reruns => .starting w.released
    | .raises e => .raised e
  elements := page.elements ++ piece.elements

/-- What a page does. A response is its JSON, or the text of the exception that is caught. -/
inductive PageEvent where
  | pressed (w : Widgets)
  | formed (w : Widgets)
  | notSubmitted
  | refused (message : String)
  | posted (post : ℕ) (w : Widgets) (payload : Json)
  | acknowledged (post : ℕ) (response : Except String Json)
  | noCheck
  | requested (get : ℕ) (checkId : String)
  | viewed (get : ℕ) (response : Except String Json)
  | finished (w : Widgets)

inductive PageStep (text : PageText) (page : Page) : PageEvent → Page → Prop
  | press (w : Widgets) : PageStep text page (.pressed w) { page with phase := .starting w }
  | form (w : Widgets) (hphase : page.phase = .starting w) :
      PageStep text page (.formed w)
        (Page.after { page with elements := [] } w (forms text w page.session) (.formed w))
  | pass (w : Widgets) (hphase : page.phase = .formed w)
      (hsubmission : submission w page.session = .notPressed) :
      PageStep text page .notSubmitted { page with phase := .submitted w }
  | refuse (w : Widgets) (message : String) (hphase : page.phase = .formed w)
      (hsubmission : submission w page.session = .refused message) :
      PageStep text page (.refused message)
        { page with phase := .submitted w, elements := page.elements ++ [.error message] }
  | post (n : ℕ) (w : Widgets) (payload : Json) (hphase : page.phase = .formed w)
      (hsubmission : submission w page.session = .post payload) :
      PageStep text page (.posted n w payload) { page with phase := .posting w n }
  | acknowledge (n : ℕ) (w : Widgets) (response : Except String Json) (hphase : page.phase = .posting w n) :
      PageStep text page (.acknowledged n response)
        (page.after w (acknowledge text response page.session) (.submitted w))
  | skip (w : Widgets) (hphase : page.phase = .submitted w) (hid : page.session.checkId.truthy = false) :
      PageStep text page .noCheck { page with phase := .shown w }
  | request (n : ℕ) (w : Widgets) (hphase : page.phase = .submitted w)
      (hid : page.session.checkId.truthy = true) :
      PageStep text page (.requested n (text.str page.session.checkId)) { page with phase := .getting w n }
  | view (n : ℕ) (w : Widgets) (response : Except String Json) (hphase : page.phase = .getting w n) :
      PageStep text page (.viewed n response)
        (page.after w (showResult text w response page.session) (.shown w))
  | finish (w : Widgets) (hphase : page.phase = .shown w) :
      PageStep text page (.finished w) (page.after w (startNew w page.session) .idle)

/-! ### Drafts -/

/-- The forms that are saved on a page. -/
structure Draft where
  candidate : Option CandidateForm := none
  references : List ReferenceForm := []

/-- What is left of a list when a button removes one of its entries. -/
def Widgets.remaining {A : Type} (w : Widgets) (l : List A) : List A :=
  match w.pressed with
  | some (.remove i) => l.eraseIdx i
  | _ => l

namespace Draft

variable (draft : Draft)

def save (w : Widgets) : Draft :=
  if w.pressed = some .saveCandidate ∧ w.candidate.Complete then
    { draft with candidate := some w.candidate }
  else draft

def add (w : Widgets) : Draft :=
  if w.pressed = some .addReference ∧ w.reference.Complete then
    { draft with references := draft.references ++ [w.reference] }
  else draft

def remove (w : Widgets) : Draft := { draft with references := w.remaining draft.references }

/-- What an event of the page makes of the draft. -/
def after : PageEvent → Draft
  | .formed w => ((draft.save w).add w).remove w
  | .finished w => if w.pressed = some .newCheck then {} else draft
  | _ => draft

/-- The request that is posted, with the callback URL of the page. -/
def request? (callbackUrl : String) : Option CandidateCheckRequest :=
  if draft.references = [] then none
  else draft.candidate.map fun candidate => checkRequest candidate draft.references callbackUrl

/-- Only complete forms are kept. -/
structure Complete : Prop where
  candidate : ∀ form, draft.candidate = some form → form.Complete
  references : ∀ form ∈ draft.references, form.Complete

end Draft

theorem Widgets.remaining_subset {A : Type} (w : Widgets) (l : List A) : w.remaining l ⊆ l := by
  unfold Widgets.remaining
  split
  · exact List.eraseIdx_subset
  · exact fun _ h => h

theorem Widgets.remaining_map {A B : Type} (w : Widgets) (f : A → B) (l : List A) :
    w.remaining (l.map f) = (w.remaining l).map f := by
  unfold Widgets.remaining
  split
  · rw [List.eraseIdx_eq_take_drop_succ, List.eraseIdx_eq_take_drop_succ, List.map_append, List.map_take,
      List.map_drop]
  · rfl

theorem Draft.complete_empty : ({} : Draft).Complete where
  candidate := by rintro form ⟨⟩
  references := by rintro form ⟨⟩

theorem Draft.Complete.after {draft : Draft} (h : draft.Complete) (event : PageEvent) :
    (draft.after event).Complete := by
  cases event with
  | formed w =>
    have hsave : (draft.save w).Complete := by
      unfold Draft.save
      split_ifs with hpressed
      · refine ⟨fun form hform => ?_, h.references⟩
        obtain rfl := Option.some.inj hform
        exact hpressed.2
      · exact h
    have hadd : ((draft.save w).add w).Complete := by
      unfold Draft.add
      split_ifs with hpressed
      · refine ⟨hsave.candidate, fun form hform => ?_⟩
        rcases List.mem_append.mp hform with hold | hnew
        · exact hsave.references form hold
        · obtain rfl := List.mem_singleton.mp hnew
          exact hpressed.2
      · exact hsave
    exact ⟨hadd.candidate, fun form hform => hadd.references form (w.remaining_subset _ hform)⟩
  | finished w =>
    unfold Draft.after
    dsimp only
    split_ifs
    · exact Draft.complete_empty
    · exact h
  | pressed w => exact h
  | notSubmitted => exact h
  | refused message => exact h
  | posted n w payload => exact h
  | acknowledged n response => exact h
  | noCheck => exact h
  | requested n checkId => exact h
  | viewed n response => exact h

/-! ### The session -/

/-- The session has the entries of the draft. -/
structure Session.Holds (session : Session) (draft : Draft) : Prop where
  candidate : session.candidate = draft.candidate.map (·.entry)
  references : session.references = draft.references.map (·.entry)

section session

variable {text : PageText} {w : Widgets} {session : Session} {draft : Draft}

theorem Session.holds_empty : ({} : Session).Holds {} := ⟨rfl, rfl⟩

theorem Session.Holds.saved? (h : session.Holds draft) :
    session.saved? = draft.candidate.map (·.entry) := by
  unfold Session.saved?
  rw [h.candidate]
  cases draft.candidate <;> rfl

theorem Session.Holds.references_eq_nil (h : session.Holds draft) :
    session.references = [] ↔ draft.references = [] := by
  rw [h.references, List.map_eq_nil_iff]

/-- A piece that proceeds, with a session that holds the draft and has the check. -/
structure Piece.Proceeds (piece : Piece) (draft : Draft) (checkId : Json) : Prop where
  holds : piece.session.Holds draft
  checkId : piece.session.checkId = checkId
  ending : piece.ending = .proceeds

theorem Piece.andThen_eq {piece : Piece} (h : piece.ending = .proceeds) (next : Session → Piece) :
    piece.andThen next =
      { next piece.session with elements := piece.elements ++ (next piece.session).elements } := by
  unfold Piece.andThen
  rw [h]

theorem Piece.Proceeds.andThen {piece : Piece} {draft' : Draft} {checkId : Json} {next : Session → Piece}
    (h : piece.Proceeds draft checkId)
    (hnext : ∀ session : Session, session.Holds draft → session.checkId = checkId →
      (next session).Proceeds draft' checkId) : (piece.andThen next).Proceeds draft' checkId := by
  rw [Piece.andThen_eq h.ending]
  obtain ⟨hholds, hcheckId, hending⟩ := hnext _ h.holds h.checkId
  exact ⟨hholds, hcheckId, hending⟩

theorem saveCandidate_proceeds (h : session.Holds draft) :
    (saveCandidate w session).Proceeds (draft.save w) session.checkId := by
  unfold saveCandidate Draft.save
  by_cases hpressed : w.pressed = some .saveCandidate
  · by_cases hcomplete : w.candidate.Complete
    · rw [if_pos hpressed, if_pos hcomplete, if_pos ⟨hpressed, hcomplete⟩]
      exact ⟨⟨rfl, h.references⟩, rfl, rfl⟩
    · rw [if_pos hpressed, if_neg hcomplete, if_neg fun hboth => hcomplete hboth.2]
      exact ⟨h, rfl, rfl⟩
  · rw [if_neg hpressed, if_neg fun hboth => hpressed hboth.1]
    exact ⟨h, rfl, rfl⟩

theorem showCandidate_proceeds (h : session.Holds draft) :
    (showCandidate text session).Proceeds draft session.checkId := by
  unfold showCandidate
  rw [h.saved?]
  cases draft.candidate with
  | none => exact ⟨h, rfl, rfl⟩
  | some form => exact ⟨h, rfl, rfl⟩

theorem addReference_proceeds (h : session.Holds draft) :
    (addReference w session).Proceeds (draft.add w) session.checkId := by
  unfold addReference Draft.add
  by_cases hpressed : w.pressed = some .addReference
  · rw [if_pos hpressed]
    by_cases hnames : w.reference.referenceName ≠ "" ∧ w.reference.relationship ≠ ""
    · rw [if_neg (not_not_intro hnames)]
      by_cases htranscript : w.reference.type = .REF1 ∧ ¬w.reference.TranscriptOk
      · rw [if_pos htranscript, if_neg fun hboth => htranscript.2 (hboth.2.2 htranscript.1)]
        exact ⟨h, rfl, rfl⟩
      · have hcomplete : w.reference.Complete :=
          ⟨hnames, fun htype => not_not.mp fun hnot => htranscript ⟨htype, hnot⟩⟩
        rw [if_neg htranscript, if_pos ⟨hpressed, hcomplete⟩]
        refine ⟨⟨h.candidate, ?_⟩, rfl, rfl⟩
        dsimp only
        rw [h.references, List.map_append, List.map_singleton]
    · rw [if_pos hnames, if_neg fun hboth => hnames hboth.2.1]
      exact ⟨h, rfl, rfl⟩
  · rw [if_neg hpressed, if_neg fun hboth => hpressed hboth.1]
    exact ⟨h, rfl, rfl⟩

theorem referenceLine_entry (text : PageText) (form : ReferenceForm) :
    ∃ line, referenceLine text form.entry = .ok line := by
  cases htype : form.type <;> exact ⟨_, by unfold referenceLine ReferenceForm.entry; rw [htype]; rfl⟩

theorem referenceLines_spec (refs : List ReferenceForm) (i : ℕ) (session : Session) :
    let piece := referenceLines text w i (refs.map (·.entry)) session
    (∃ k, w.pressed = some (.remove k) ∧ i ≤ k ∧ k < i + refs.length ∧
      piece.session = { session with references := session.references.eraseIdx k } ∧
      piece.ending = .reruns) ∨
    ((∀ k, w.pressed = some (.remove k) → i ≤ k → i + refs.length ≤ k) ∧ piece.session = session ∧
      piece.ending = .proceeds) := by
  induction refs generalizing i with
  | nil => exact Or.inr ⟨fun k _ hk => hk, rfl, rfl⟩
  | cons form refs ih =>
    obtain ⟨line, hline⟩ := referenceLine_entry text form
    rw [List.map_cons, referenceLines, hline]
    dsimp only
    by_cases hpressed : w.pressed = some (.remove i)
    · rw [if_pos hpressed]
      exact Or.inl ⟨i, hpressed, le_refl i, by simp, rfl, rfl⟩
    · rw [if_neg hpressed, Piece.andThen_eq rfl]
      dsimp only
      rcases ih (i + 1) with ⟨k, hk, hge, hlt, hrest⟩ | ⟨hother, hrest⟩
      · exact Or.inl ⟨k, hk, by omega, by rw [List.length_cons]; omega, hrest⟩
      · refine Or.inr ⟨fun k hk hge => ?_, hrest⟩
        have hne : k ≠ i := by
          rintro rfl
          exact hpressed hk
        have hle := hother k hk (by omega)
        rw [List.length_cons]
        omega

theorem Widgets.remaining_eq_self {A : Type} {l : List A}
    (h : ∀ k, w.pressed = some (.remove k) → l.length ≤ k) : w.remaining l = l := by
  unfold Widgets.remaining
  split
  · exact List.eraseIdx_of_length_le (h _ (by assumption))
  · rfl

/-- A piece that removes a reference if it is asked to, and does not fail. -/
structure Piece.Lists (piece : Piece) (draft : Draft) (checkId : Json) : Prop where
  holds : piece.session.Holds draft
  checkId : piece.session.checkId = checkId
  ending : ∀ e, piece.ending ≠ .raises e

theorem listReferences_lists (h : session.Holds draft) :
    (listReferences text w session).Lists (draft.remove w) session.checkId := by
  have hremaining : ({ session with references := w.remaining session.references } : Session).Holds
      (draft.remove w) := ⟨h.candidate, by rw [h.references, w.remaining_map]; rfl⟩
  have hkept : (∀ k, w.pressed = some (.remove k) → session.references.length ≤ k) →
      session.Holds (draft.remove w) := by
    intro hother
    rw [Widgets.remaining_eq_self hother] at hremaining
    exact hremaining
  unfold listReferences
  by_cases hnil : session.references = []
  · rw [if_pos hnil]
    exact ⟨hkept fun k _ => by simp [hnil], rfl, nofun⟩
  · rw [if_neg hnil, Piece.andThen_eq rfl]
    dsimp only
    rw [h.references]
    rcases referenceLines_spec draft.references 0 session with
      ⟨k, hk, -, -, hsession, hending⟩ | ⟨hother, hsession, hending⟩
    · have heq : w.remaining session.references = session.references.eraseIdx k := by
        unfold Widgets.remaining
        rw [hk]
      refine ⟨?_, ?_, ?_⟩
      · dsimp only
        rw [hsession, ← heq]
        exact hremaining
      · dsimp only
        rw [hsession]
      · dsimp only
        rw [hending]
        exact nofun
    · refine ⟨?_, ?_, ?_⟩
      · dsimp only
        rw [hsession]
        refine hkept fun k hk => ?_
        rw [h.references, List.length_map]
        have hle := hother k hk (Nat.zero_le k)
        omega
      · dsimp only
        rw [hsession]
      · dsimp only
        rw [hending]
        exact nofun

/-- The forms do to the draft what the pressed button says, and do not fail. -/
theorem forms_lists (h : session.Holds draft) :
    (forms text w session).Lists (draft.after (.formed w)) session.checkId := by
  have hshown : ((saveCandidate w session).andThen (showCandidate text)).Proceeds (draft.save w)
      session.checkId := (saveCandidate_proceeds h).andThen fun s hs hid => by
    rw [← hid]
    exact showCandidate_proceeds hs
  have hadded : (((saveCandidate w session).andThen (showCandidate text)).andThen
      (addReference w)).Proceeds ((draft.save w).add w) session.checkId := hshown.andThen fun s hs hid => by
    rw [← hid]
    exact addReference_proceeds hs
  unfold forms
  rw [Piece.andThen_eq hadded.ending]
  have hlisted : (listReferences text w _).Lists _ _ := listReferences_lists hadded.holds
  exact ⟨hlisted.holds, hlisted.checkId.trans hadded.checkId, hlisted.ending⟩

theorem submission_eq_post (h : session.Holds draft) {payload : Json}
    (hpost : submission w session = .post payload) :
    ∃ candidate, draft.candidate = some candidate ∧ draft.references ≠ [] ∧
      payload = checkPayload candidate.entry (draft.references.map (·.entry)) w.callbackUrl := by
  unfold submission at hpost
  rw [h.saved?] at hpost
  cases hcandidate : draft.candidate with
  | none =>
    rw [hcandidate] at hpost
    split_ifs at hpost <;> cases hpost
  | some candidate =>
    rw [hcandidate] at hpost
    dsimp only [Option.map_some] at hpost
    split_ifs at hpost with hpressed hnil
    cases hpost
    refine ⟨candidate, rfl, fun hnone => hnil (h.references_eq_nil.mpr hnone), ?_⟩
    rw [h.references]

theorem acknowledge_holds (h : session.Holds draft) (response : Except String Json) :
    (acknowledge text response session).session.Holds draft := by
  unfold acknowledge
  split
  · exact h
  · split
    · exact h
    · exact ⟨h.candidate, h.references⟩

theorem showStatus_session (data : Json) : (showStatus text w data session).session = session := by
  unfold showStatus
  by_cases hdata : data.truthy = true
  · rw [if_pos hdata]
    cases renderStatus text data <;> rfl
  · rw [if_neg hdata]

theorem showResult_session (response : Except String Json) :
    (showResult text w response session).session = session := by
  cases response with
  | error e => rfl
  | ok data => exact showStatus_session data

/-- **The session holds what its user has entered**: a step does to the draft what its event says. -/
theorem PageStep.holds {page page' : Page} {event : PageEvent} (h : page.session.Holds draft)
    (hstep : PageStep text page event page') : page'.session.Holds (draft.after event) := by
  cases hstep with
  | press w => exact h
  | form w hphase =>
    have hlists : (forms text w page.session).Lists _ _ := forms_lists h
    exact hlists.holds
  | pass w hphase hsubmission => exact h
  | refuse w message hphase hsubmission => exact h
  | post n w payload hphase hsubmission => exact h
  | acknowledge n w response hphase => exact acknowledge_holds h response
  | skip w hphase hid => exact h
  | request n w hphase hid => exact h
  | view n w response hphase =>
    show (showResult text w response page.session).session.Holds draft
    rw [showResult_session]
    exact h
  | finish w hphase =>
    show (startNew w page.session).session.Holds _
    unfold startNew Draft.after
    dsimp only
    split_ifs
    · exact Session.holds_empty
    · exact h

theorem Page.after_phase {page : Page} {w : Widgets} {piece : Piece} {next phase : Phase}
    (hphase : (page.after w piece next).phase = phase) :
    next = phase ∨ phase = .starting w.released ∨ ∃ e, piece.ending = .raises e ∧ phase = .raised e := by
  unfold Page.after at hphase
  dsimp only at hphase
  cases hending : piece.ending with
  | proceeds =>
    rw [hending] at hphase
    exact Or.inl hphase
  | reruns =>
    rw [hending] at hphase
    exact Or.inr (Or.inl hphase.symm)
  | raises e =>
    rw [hending] at hphase
    exact Or.inr (Or.inr ⟨e, rfl, hphase.symm⟩)

theorem PageStep.posting {page page' : Page} {event : PageEvent} (hstep : PageStep text page event page')
    {n : ℕ} (hphase : page'.phase = .posting w n) : ∃ payload, event = .posted n w payload := by
  have hafter : ∀ {page : Page} {w' : Widgets} {piece : Piece} {next : Phase},
      (page.after w' piece next).phase = .posting w n → next = .posting w n := by
    intro page w' piece next hnext
    rcases Page.after_phase hnext with heq | heq | ⟨e, -, heq⟩
    · exact heq
    · cases heq
    · cases heq
  cases hstep with
  | press w => cases hphase
  | form w hstarting => cases hafter hphase
  | pass w hformed hsubmission => cases hphase
  | refuse w message hformed hsubmission => cases hphase
  | post n w payload hformed hsubmission =>
    cases hphase
    exact ⟨payload, rfl⟩
  | acknowledge n w response hposting => cases hafter hphase
  | skip w hsubmitted hid => cases hphase
  | request n w hsubmitted hid => cases hphase
  | view n w response hgetting => cases hafter hphase
  | finish w hshown => cases hafter hphase

theorem PageStep.getting {page page' : Page} {event : PageEvent} (hstep : PageStep text page event page')
    {n : ℕ} (hphase : page'.phase = .getting w n) :
    event = .requested n (text.str page'.session.checkId) ∧ page'.session.checkId.truthy = true := by
  have hafter : ∀ {page : Page} {w' : Widgets} {piece : Piece} {next : Phase},
      (page.after w' piece next).phase = .getting w n → next = .getting w n := by
    intro page w' piece next hnext
    rcases Page.after_phase hnext with heq | heq | ⟨e, -, heq⟩
    · exact heq
    · cases heq
    · cases heq
  cases hstep with
  | press w => cases hphase
  | form w hstarting => cases hafter hphase
  | pass w hformed hsubmission => cases hphase
  | refuse w message hformed hsubmission => cases hphase
  | post n w payload hformed hsubmission => cases hphase
  | acknowledge n w response hposting => cases hafter hphase
  | skip w hsubmitted hid => cases hphase
  | request n w hsubmitted hid =>
    cases hphase
    exact ⟨rfl, hid⟩
  | view n w response hgetting => cases hafter hphase
  | finish w hshown => cases hafter hphase

theorem PageStep.getting_of_viewed {page page' : Page} {n : ℕ} {response : Except String Json}
    (hstep : PageStep text page (.viewed n response) page') : ∃ w, page.phase = .getting w n := by
  cases hstep with
  | view n w response hphase => exact ⟨w, hphase⟩

theorem PageStep.checkId {page page' : Page} {event : PageEvent} (h : page.session.Holds draft)
    (hstep : PageStep text page event page') :
    page'.session.checkId = page.session.checkId ∨ page'.session.checkId = .null ∨
      ∃ n w body, page.phase = .posting w n ∧ event = .acknowledged n (.ok body) ∧
        body.subscript "check_id" = .ok page'.session.checkId := by
  cases hstep with
  | press w => exact Or.inl rfl
  | form w hphase =>
    have hlists : (forms text w page.session).Lists _ _ := forms_lists h
    exact Or.inl hlists.checkId
  | pass w hphase hsubmission => exact Or.inl rfl
  | refuse w message hphase hsubmission => exact Or.inl rfl
  | post n w payload hphase hsubmission => exact Or.inl rfl
  | acknowledge n w response hphase =>
    cases response with
    | error e => exact Or.inl rfl
    | ok body =>
      cases hid : body.subscript "check_id" with
      | error e =>
        refine Or.inl ?_
        show (RefCheck.acknowledge text (.ok body) page.session).session.checkId = _
        unfold RefCheck.acknowledge
        dsimp only
        rw [hid]
      | ok checkId =>
        refine Or.inr (Or.inr ⟨n, w, body, hphase, rfl, ?_⟩)
        rw [hid]
        show _ = Except.ok (RefCheck.acknowledge text (.ok body) page.session).session.checkId
        unfold RefCheck.acknowledge
        dsimp only
        rw [hid]
  | skip w hphase hid => exact Or.inl rfl
  | request n w hphase hid => exact Or.inl rfl
  | view n w response hphase =>
    refine Or.inl ?_
    show (showResult text w response page.session).session.checkId = _
    rw [showResult_session]
  | finish w hphase =>
    show (startNew w page.session).session.checkId = _ ∨ (startNew w page.session).session.checkId = _ ∨ _
    unfold startNew
    split_ifs
    · exact Or.inr (Or.inl rfl)
    · exact Or.inl rfl

/-! ### Failing -/

theorem acknowledge_ending (response : Except String Json) :
    (acknowledge text response session).ending = .proceeds := by
  unfold acknowledge
  split
  · rfl
  · split <;> rfl

theorem showStatus_raises_iff {data : Json} {e : PyException} :
    (showStatus text w data session).ending = .raises e ↔
      data.truthy = true ∧ renderStatus text data = .error e := by
  unfold showStatus
  by_cases hdata : data.truthy = true
  · rw [if_pos hdata, and_iff_right hdata]
    cases renderStatus text data with
    | error e' => simp
    | ok elements =>
      dsimp only
      split_ifs <;> simp
  · rw [if_neg hdata]
    exact ⟨nofun, fun h => absurd h.1 hdata⟩

theorem showResult_raises_iff {response : Except String Json} {e : PyException} :
    (showResult text w response session).ending = .raises e ↔
      ∃ data, response = .ok data ∧ data.truthy = true ∧ renderStatus text data = .error e := by
  cases response with
  | error text => exact ⟨nofun, fun ⟨_, h, _⟩ => nomatch h⟩
  | ok data =>
    refine showStatus_raises_iff.trans ⟨fun h => ⟨data, rfl, h⟩, fun ⟨data', hdata, h⟩ => ?_⟩
    cases hdata
    exact h

theorem Page.after_raised_iff {page : Page} {piece : Piece} {next : Phase} {e : PyException}
    (hnext : next ≠ .raised e) : (page.after w piece next).phase = .raised e ↔ piece.ending = .raises e := by
  unfold Page.after
  dsimp only
  cases piece.ending with
  | proceeds => simpa using hnext
  | reruns => simp
  | raises e' => simp

theorem Page.after_ne_raised {page : Page} {piece : Piece} {next : Phase} {e : PyException}
    (hnext : next ≠ .raised e) (hending : piece.ending ≠ .raises e) :
    (page.after w piece next).phase ≠ .raised e :=
  mt (Page.after_raised_iff hnext).mp hending

/-- A step fails exactly at a response that cannot be shown. -/
theorem PageStep.raised_iff {page page' : Page} {event : PageEvent} (h : page.session.Holds draft)
    (hstep : PageStep text page event page') {e : PyException} :
    page'.phase = .raised e ↔ ∃ n data, event = .viewed n (.ok data) ∧ data.truthy = true ∧
      renderStatus text data = .error e := by
  have hnot : ∀ {phase : Phase} {event : PageEvent}, phase ≠ .raised e →
      (∀ n response, event ≠ .viewed n response) → (phase = .raised e ↔ ∃ n data,
        event = .viewed n (.ok data) ∧ data.truthy = true ∧ renderStatus text data = .error e) :=
    fun hphase hevent => ⟨fun hraised => absurd hraised hphase,
      fun ⟨n, data, hviewed, _⟩ => absurd hviewed (hevent n (.ok data))⟩
  cases hstep with
  | press w => exact hnot nofun nofun
  | form w hphase =>
    have hlists : (forms text w page.session).Lists _ _ := forms_lists h
    exact hnot (Page.after_ne_raised nofun (hlists.ending e)) nofun
  | pass w hphase hsubmission => exact hnot nofun nofun
  | refuse w message hphase hsubmission => exact hnot nofun nofun
  | post n w payload hphase hsubmission => exact hnot nofun nofun
  | acknowledge n w response hphase =>
    refine hnot (Page.after_ne_raised nofun ?_) nofun
    rw [acknowledge_ending]
    exact nofun
  | skip w hphase hid => exact hnot nofun nofun
  | request n w hphase hid => exact hnot nofun nofun
  | view n w response hphase =>
    have hshown : Phase.shown w ≠ .raised e := nofun
    refine (Page.after_raised_iff hshown).trans (showResult_raises_iff.trans ?_)
    constructor
    · rintro ⟨data, rfl, hdata⟩
      exact ⟨n, data, rfl, hdata⟩
    · rintro ⟨m, data, hviewed, hdata⟩
      cases hviewed
      exact ⟨data, rfl, hdata⟩
  | finish w hphase =>
    refine hnot (Page.after_ne_raised nofun ?_) nofun
    unfold startNew
    split_ifs <;> exact nofun

end session

end RefCheck
