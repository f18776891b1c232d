import RefCheck.Graphs.SummaryRoute
import RefCheck.Realtime.Isolation

/-!
# The verdict does not depend on prose

Notes on discrepancies and summaries are texts for a reader. Two runs that got the same facts and
sentiments differ in nothing else, whatever the notes and the summaries say (`verdict_ignores_prose`):
neither in what was found, nor in a score, nor in which summary was asked for.
-/

namespace RefCheck

open StateGraph Target Issue

/-! ### Without the prose -/

def Discrepancy.withoutNote (d : Discrepancy) : Discrepancy := { d with note := none }

def Evidence.withoutNotes (ev : Evidence) : Evidence :=
  { ev with discrepancies := ev.discrepancies.map Discrepancy.withoutNote }

/-- A result without the notes and without the summary. -/
def ReferenceResult.withoutProse (r : ReferenceResult) : ReferenceResult :=
  { r with
    discrepancies := r.discrepancies.map Discrepancy.withoutNote
    referenceSummary := "" }

/-- A state of the candidate graph without what the models wrote in prose. -/
def CandidateState.withoutProse (s : CandidateState) : CandidateState :=
  { s with
    referenceResults := s.referenceResults.map ReferenceResult.withoutProse
    overallSummary := none }

/-- Two providers that give the same replies about facts and sentiments. -/
def Provider.SameExtraction (llm llm' : Provider) : Prop :=
  ∀ prompts m, m = .extractedFacts ∨ m = .sentimentAndRedFlags →
    (llm.structuredCall prompts m .extraction).result =
      (llm'.structuredCall prompts m .extraction).result

/-- The run ends in `s`, and no call that it made raised. -/
structure CandidateLLM.Succeeds (llm : CandidateLLM) (env : Env) (c : CandidateBatchInput)
    (s : CandidateState) : Prop where
  overall : ((candidateGraph env llm).invoke recursionLimit c.inputState).result = .ok s
  reference : ∀ i ref, c.references[i]? = some ref →
    ∀ rq ∈ (runReference env (llm.forReference i) (c.inputState.payload ref i)).log,
      ¬ (llm.forReference i).Raises rq

/-! ### One reference -/

section reference

variable {env : Env} {llm llm' : Provider} {subj : Subject} {ref : ReferenceInput}

theorem map_withoutNote_applyNotes (notes : DiscrepancyNotes) (ds : List Discrepancy) :
    (applyNotes notes ds).map Discrepancy.withoutNote = ds.map Discrepancy.withoutNote := by
  unfold applyNotes
  rw [List.map_map]
  rfl

theorem map_withoutNote_explained {ds ds' : List Discrepancy}
    (h : (explained env llm ds).result = .ok ds') :
    ds'.map Discrepancy.withoutNote = ds.map Discrepancy.withoutNote := by
  unfold explained at h
  split_ifs at h
  · obtain ⟨notes, -, hpure⟩ := bind_eq_ok.mp h
    cases hpure
    exact map_withoutNote_applyNotes notes ds
  · cases h
    rfl

theorem gatherOpenEnded_withoutNotes (hsame : llm.SameExtraction llm') {rawInput : String}
    {ev ev' : Evidence} (h : (gatherOpenEnded env llm subj rawInput).result = .ok ev)
    (h' : (gatherOpenEnded env llm' subj rawInput).result = .ok ev') :
    ev.withoutNotes = ev'.withoutNotes := by
  obtain ⟨facts, result, ds, hfacts, hresult, hds, rfl⟩ := gatherOpenEnded_eq_ok.mp h
  obtain ⟨facts', result', ds', hfacts', hresult', hds', rfl⟩ := gatherOpenEnded_eq_ok.mp h'
  rw [hsame _ _ (Or.inl rfl)] at hfacts
  rw [hsame _ _ (Or.inr rfl)] at hresult
  cases hfacts.symm.trans hfacts'
  cases hresult.symm.trans hresult'
  unfold Evidence.withoutNotes
  simp only [map_withoutNote_explained hds, map_withoutNote_explained hds']

theorem gatherYesNo_same (hsame : llm.SameExtraction llm') {claimed : ClaimedDetails}
    {form : YesNoReferenceForm} {ev ev' : Evidence}
    (h : (gatherYesNo llm claimed form).result = .ok ev)
    (h' : (gatherYesNo llm' claimed form).result = .ok ev') : ev = ev' := by
  unfold gatherYesNo at h h'
  split_ifs at h h'
  · obtain ⟨result, hresult, h⟩ := bind_eq_ok.mp h
    cases h
    obtain ⟨result', hresult', h'⟩ := bind_eq_ok.mp h'
    cases h'
    rw [hsame _ _ (Or.inr rfl)] at hresult
    cases hresult.symm.trans hresult'
    rfl
  · cases h
    cases h'
    rfl

theorem gather_withoutNotes (hsame : llm.SameExtraction llm') {ev ev' : Evidence}
    (h : (gather env llm subj ref).result = .ok ev)
    (h' : (gather env llm' subj ref).result = .ok ev') : ev.withoutNotes = ev'.withoutNotes := by
  have hvalid := (gathered_of_ok h).valid
  cases htype : ref.type with
  | REF1 =>
    have hraw := (valid_iff_of_transcript htype).mp hvalid
    rw [gather_of_transcript htype hraw] at h h'
    exact gatherOpenEnded_withoutNotes hsame h h'
  | REF2 =>
    obtain ⟨form, hform⟩ := (valid_iff_of_form htype).mp hvalid
    rw [gather_of_form htype hform] at h h'
    rw [gatherYesNo_same hsame h h']

theorem score_eq_of_withoutNotes (env : Env) {ev ev' : Evidence}
    (h : ev.withoutNotes = ev'.withoutNotes) : ev.score env = ev'.score env := by
  have hscore : ∀ ev : Evidence, ev.withoutNotes.score env = ev.score env := fun ev =>
    scoreConfidence_congr env _ _ (by rw [Evidence.withoutNotes, List.map_map]; rfl)
  rw [← hscore ev, h, hscore]

theorem reviewed_withoutProse {ev ev' : Evidence} (h : ev.withoutNotes = ev'.withoutNotes)
    (summary summary' : String) :
    (ref.reviewed env ev summary).withoutProse = (ref.reviewed env ev' summary').withoutProse := by
  have hscore := score_eq_of_withoutNotes env h
  obtain ⟨hfacts, hds, hsentiment, hred⟩ := Evidence.mk.inj h
  unfold ReferenceInput.reviewed ReferenceResult.withoutProse
  simp only [hfacts, hds, hsentiment, hred, hscore]

theorem exists_review (hvalid : ref.Valid env)
    (h : ∀ rq ∈ (review env llm subj ref).log, ¬ llm.Raises rq) :
    ∃ ev summary, (gather env llm subj ref).result = .ok ev ∧
      (review env llm subj ref).result = .ok (ev, summary) := by
  cases hreview : (review env llm subj ref).result with
  | error e =>
    obtain ⟨rq, hrq, hraises⟩ := (raisesWith_review hvalid).mp ⟨e, hreview⟩
    exact absurd hraises (h rq hrq)
  | ok y =>
    exact ⟨y.1, y.2, gather_of_review hreview, rfl⟩

theorem resultOf_withoutProse (hsame : llm.SameExtraction llm')
    (h : ∀ rq ∈ (review env llm subj ref).log, ¬ llm.Raises rq)
    (h' : ∀ rq ∈ (review env llm' subj ref).log, ¬ llm'.Raises rq) :
    (ref.resultOf env (review env llm subj ref).result).withoutProse =
      (ref.resultOf env (review env llm' subj ref).result).withoutProse := by
  by_cases hvalid : ref.Valid env
  · obtain ⟨ev, summary, hev, hreview⟩ := exists_review hvalid h
    obtain ⟨ev', summary', hev', hreview'⟩ := exists_review hvalid h'
    rw [hreview, hreview']
    exact reviewed_withoutProse (gather_withoutNotes hsame hev hev') summary summary'
  · unfold review
    rw [gather_of_not_valid hvalid, gather_of_not_valid hvalid]
    rfl

/-- The two reviews come to the same summary node. -/
theorem runsSummary_of_same {c : CandidateBatchInput} {i : ℕ} {route : ReviewRoute}
    (hsame : llm.SameExtraction llm')
    (h' : ∀ rq ∈ (review env llm' c.subject ref).log, ¬ llm'.Raises rq)
    (hruns : RunsSummary env llm (c.inputState.payload ref i) route) :
    RunsSummary env llm' (c.inputState.payload ref i) route := by
  obtain ⟨ev, hev, hroute⟩ := runsSummary_iff.mp hruns
  have hvalid := (gathered_of_ok hev).valid
  obtain ⟨ev', summary', hev', -⟩ := exists_review hvalid h'
  refine runsSummary_iff.mpr ⟨ev', hev', ?_⟩
  unfold Evidence.route at hroute ⊢
  rw [← score_eq_of_withoutNotes env (gather_withoutNotes hsame hev hev')]
  exact hroute

end reference

/-! ### The candidate -/

section candidate

variable {env : Env} {llm llm' : CandidateLLM} {c : CandidateBatchInput} {s s' : CandidateState}

theorem no_call_raises (h : llm.Succeeds env c s) {i : ℕ} {ref : ReferenceInput}
    (hi : c.references[i]? = some ref) :
    ∀ rq ∈ (review env (llm.forReference i) c.subject ref).log,
      ¬ (llm.forReference i).Raises rq := by
  have hlog := h.reference i ref hi
  rw [runReference_eq] at hlog
  exact hlog

theorem results_withoutProse
    (hsame : ∀ i, (llm.forReference i).SameExtraction (llm'.forReference i))
    (h : llm.Succeeds env c s) (h' : llm'.Succeeds env c s') :
    (c.results env llm).map ReferenceResult.withoutProse =
      (c.results env llm').map ReferenceResult.withoutProse := by
  refine List.ext_getElem? fun i => ?_
  rw [List.getElem?_map, List.getElem?_map, CandidateBatchInput.getElem?_results,
    CandidateBatchInput.getElem?_results, Option.map_map, Option.map_map]
  cases hi : c.references[i]? with
  | none => rfl
  | some ref =>
    exact congrArg some
      (resultOf_withoutProse (hsame i) (no_call_raises h hi) (no_call_raises h' hi))

/-- The verdict and the cross-check read no prose. -/
theorem verdict_of_withoutProse (env : Env) {results results' : List ReferenceResult}
    (h : results.map ReferenceResult.withoutProse = results'.map ReferenceResult.withoutProse) :
    crossCheckReferences env.toPyText results = crossCheckReferences env.toPyText results' ∧
      verdict env results = verdict env results' := by
  have hread : ∀ {B : Type} (f : ReferenceResult → B), (∀ r, f r.withoutProse = f r) →
      results.map f = results'.map f := by
    intro B f hf
    have hmap : ∀ l : List ReferenceResult, (l.map ReferenceResult.withoutProse).map f = l.map f :=
      fun l => by rw [List.map_map]; exact List.map_congr_left fun r _ => hf r
    rw [← hmap results, h, hmap]
  have hflags := crossCheckReferences_congr env.toPyText
    (hread ReferenceResult.testimony fun _ => rfl)
  refine ⟨hflags, ?_⟩
  unfold verdict
  rw [hflags]
  exact overallScore_congr env _ (hread _ fun _ => rfl) (hread _ fun _ => rfl)

theorem exists_summary_of_invoke (hne : c.references ≠ [])
    (hinvoke : ((candidateGraph env llm).invoke recursionLimit c.inputState).result = .ok s) :
    ∃ summary, s = c.finalState env llm summary := by
  rw [candidateGraph_invoke hne] at hinvoke
  obtain ⟨-, -, hinvoke⟩ := bind_eq_ok.mp hinvoke
  obtain ⟨result, -, hpure⟩ := bind_eq_ok.mp hinvoke
  cases hpure
  exact ⟨_, rfl⟩

theorem exists_summary_of_succeeds (hne : c.references ≠ []) (h : llm.Succeeds env c s) :
    ∃ summary, s = c.finalState env llm summary := exists_summary_of_invoke hne h.overall

theorem eq_inputState_of_nil (hnil : c.references = []) (h : llm.Succeeds env c s) :
    s = c.inputState := by
  have hinvoke := h.overall
  rw [candidateGraph_invoke_of_nil hnil] at hinvoke
  cases hinvoke
  rfl

theorem succeeds_of_nil (hnil : c.references = [])
    (hinvoke : ((candidateGraph env llm).invoke recursionLimit c.inputState).result = .ok s) :
    llm.Succeeds env c s where
  overall := hinvoke
  reference i ref href := by
    rw [hnil] at href
    cases href

/-- **The verdict does not depend on prose.** Two runs without an exception that got the same facts
and sentiments end in states that differ in notes and summaries only, and come to the same summary
nodes: for every reference, and for the candidate. -/
theorem verdict_ignores_prose
    (hsame : ∀ i, (llm.forReference i).SameExtraction (llm'.forReference i))
    (h : llm.Succeeds env c s) (h' : llm'.Succeeds env c s') :
    s.withoutProse = s'.withoutProse ∧
    (∀ i ref, c.references[i]? = some ref → ∀ route,
      RunsSummary env (llm.forReference i) (c.inputState.payload ref i) route ↔
        RunsSummary env (llm'.forReference i) (c.inputState.payload ref i) route) ∧
    ∀ n, n = .overallFlagForReview ∨ n = .overallClear →
      ((∃ st, (candidateGraph env llm).Reaches c.inputState ([.node n], st)) ↔
        ∃ st, (candidateGraph env llm').Reaches c.inputState ([.node n], st)) := by
  have hresults := results_withoutProse hsame h h'
  obtain ⟨hflags, hverdict⟩ := verdict_of_withoutProse env hresults
  refine ⟨?_, fun i ref hi route => ?_, fun n hn => ?_⟩
  · by_cases hnil : c.references = []
    · rw [eq_inputState_of_nil hnil h, eq_inputState_of_nil hnil h']
    · obtain ⟨summary, rfl⟩ := exists_summary_of_succeeds hnil h
      obtain ⟨summary', rfl⟩ := exists_summary_of_succeeds hnil h'
      unfold CandidateState.withoutProse
      simp only [CandidateBatchInput.finalState, CandidateBatchInput.scoredState,
        CandidateBatchInput.crossCheckedState, CandidateBatchInput.reviewedState, hresults, hflags,
        hverdict]
  · have hsame' : (llm'.forReference i).SameExtraction (llm.forReference i) :=
      fun prompts m hm => (hsame i prompts m hm).symm
    exact ⟨runsSummary_of_same (hsame i) (no_call_raises h' hi),
      runsSummary_of_same hsame' (no_call_raises h hi)⟩
  · by_cases hnil : c.references = []
    · have hstart : ∀ llm : CandidateLLM, (candidateGraph env llm).start c.inputState = .ok [] :=
        fun llm => congrArg Except.ok (fanOutReferences_nil hnil)
      simp only [reaches_iff_of_start (hstart _), reflTransGen_nil_iff, Prod.mk.injEq]
    · simp only [reaches_overall_iff hnil hn]
      unfold overallNode
      simp only [hverdict, exists_eq_right]

end candidate

/-! ### Models that differ in prose -/

/-- Finds a title and nothing else, and writes `text` wherever it writes prose. -/
def proseAnswer (title text : String) : (m : OutputModel) → Except PyException m.Value
  | .extractedFacts => .ok { jobTitle := some title }
  | .sentimentAndRedFlags => .ok ⟨.neutral, []⟩
  | .discrepancyNotes => .ok ⟨[⟨"job_title", text⟩, ⟨"salary", text⟩]⟩
  | .finalSummary => .ok ⟨text⟩
  | .overallSummary => .ok ⟨text⟩

def proseLLM (title text : String) : CandidateLLM where
  getModel := sampleModel
  reference _ rq := proseAnswer title text rq.outputModel
  overall rq := proseAnswer title text rq.outputModel

theorem succeeds_proseLLM (env : Env) {c : CandidateBatchInput} (hne : c.references ≠ [])
    (title text : String) :
    (proseLLM title text).Succeeds env c (c.finalState env (proseLLM title text) text) where
  overall := by
    rw [candidateGraph_invoke hne]
    rfl
  reference i ref _ rq _ := by
    rintro ⟨e, he⟩
    have hanswer : proseAnswer title text rq.outputModel = .error e := he
    cases hm : rq.outputModel <;> rw [hm] at hanswer <;> cases hanswer

theorem verdict_of_proseLLM :
    ((sampleCandidate [sampleTranscript "Bob"]).finalState sampleEnv (proseLLM "Clerk" "Minor.")
      "Minor.").withoutProse =
    ((sampleCandidate [sampleTranscript "Bob"]).finalState sampleEnv (proseLLM "Clerk" "Grave.")
      "Grave.").withoutProse := by
  have hne : (sampleCandidate [sampleTranscript "Bob"]).references ≠ [] := by
    simp [sampleCandidate]
  have hsame : ∀ i, ((proseLLM "Clerk" "Minor.").forReference i).SameExtraction
      ((proseLLM "Clerk" "Grave.").forReference i) := by
    rintro i prompts m (rfl | rfl) <;> rfl
  exact (verdict_ignores_prose hsame (succeeds_proseLLM sampleEnv hne "Clerk" "Minor.")
    (succeeds_proseLLM sampleEnv hne "Clerk" "Grave.")).1

end RefCheck
