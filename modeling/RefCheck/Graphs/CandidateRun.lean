import RefCheck.Graphs.CandidateGraph

/-!
# What the candidate graph computes

Every reference contributes one result, made of its review (`runReference_eq`). So a run has one
course: the results in the order of the references, their cross-check, the verdict, and the overall
summary. `candidateGraph_reaches_iff` lists the configurations on that course and
`candidateGraph_invoke` is the program it runs; only the call for the overall summary may raise.
-/

namespace RefCheck

open StateGraph Target

variable {env : Env}

/-! ### One reference -/

/-- The result that a review ends in. -/
def ReferenceInput.resultOf (ref : ReferenceInput) (env : Env) :
    Except PyException (Evidence × String) → ReferenceResult
  | .ok (ev, summary) => ref.reviewed env ev summary
  | .error e => failedResult ref.referenceName ref.relationship e

theorem runReference_of_process {llm : Provider} {p : ReferencePayload} {ref : ReferenceInput}
    {x : Issue LLMRequest PyException (Evidence × String)}
    {fin : Evidence × String → ReferenceCheckState}
    (hname : p.referenceName = ref.referenceName) (hrel : p.relationship = ref.relationship)
    (h : processReference env llm p = x >>= fun y => pure (fin y))
    (hfin : ∀ y, x.result = .ok y → resultOfState ref.referenceName ref.relationship (fin y) =
      .ok (ref.reviewed env y.1 y.2)) :
    runReference env llm p = ⟨x.log, .ok (ref.resultOf env x.result)⟩ := by
  unfold runReference
  rw [h, hname, hrel]
  cases hx : x.result with
  | error e =>
    rw [Issue.bind_of_error hx, Issue.bind_of_ok (Issue.result_attempt _)]
    simp [ReferenceInput.resultOf]
  | ok y =>
    rw [Issue.bind_of_ok hx, Issue.bind_of_ok (Issue.result_attempt _)]
    simp [ReferenceInput.resultOf, hfin y hx]

theorem processReference_of_not_valid {llm : Provider} {c : CandidateBatchInput}
    {ref : ReferenceInput} {i : ℕ} (h : ¬ ref.Valid env) :
    processReference env llm (c.inputState.payload ref i) =
      Issue.lift (.error (ref.missingInput env c.subject)) := by
  unfold processReference CandidateState.payload
  cases htype : ref.type with
  | REF1 =>
    have hraw : validateRawInput env ref.rawInput
        (c.subject.candidateName ++ "/" ++ ref.referenceName) =
          .error (ref.missingInput env c.subject) :=
      validateRawInput_of_not_ok htype ((valid_iff_of_transcript htype).not.mp h)
    show Issue.lift (validateRawInput env ref.rawInput
      (c.subject.candidateName ++ "/" ++ ref.referenceName)) >>= _ = _
    rw [hraw]
    rfl
  | REF2 =>
    rw [ReferenceInput.missingInput, htype]
    exact yesNoGraph_invoke_none (yesNoForm_of_not_valid htype h)

theorem processReference_of_transcript {llm : Provider} {c : CandidateBatchInput}
    {ref : ReferenceInput} {i : ℕ} (htype : ref.type = .REF1) (hraw : RawInputOk env ref.rawInput) :
    processReference env llm (c.inputState.payload ref i) =
      review env llm c.subject ref >>= fun y => pure
        ({ (c.inputState.payload ref i).state with extractedFacts := some y.1.facts }.finish env
          y.1 y.2) := by
  have hp : (c.inputState.payload ref i).state.rawInput = ref.rawInput := by
    simp [CandidateState.payload, ReferencePayload.state, htype]
  have hok : RawInputOk env (c.inputState.payload ref i).state.rawInput := by
    rw [hp]
    exact hraw
  have hvalid := (validateRawInput_ok_iff env ref.rawInput
    ((c.inputState.payload ref i).candidateName ++ "/" ++
      (c.inputState.payload ref i).referenceName)).mpr hraw
  unfold processReference review
  rw [show (c.inputState.payload ref i).type = .REF1 from htype, gather_of_transcript htype hraw]
  dsimp only
  rw [show (c.inputState.payload ref i).rawInput = ref.rawInput from hp, hvalid,
    Issue.lift_eq_pure, pure_bind, openEndedGraph_invoke hok, hp]
  simp only [bind_assoc, pure_bind]
  rfl

theorem processReference_of_form {llm : Provider} {c : CandidateBatchInput} {ref : ReferenceInput}
    {form : YesNoReferenceForm} {i : ℕ} (htype : ref.type = .REF2)
    (hform : ref.yesNoForm = some form) :
    processReference env llm (c.inputState.payload ref i) =
      review env llm c.subject ref >>= fun y => pure
        ((c.inputState.payload ref i).state.finish env y.1 y.2) := by
  have hp : (c.inputState.payload ref i).state.yesNoForm = some form := by
    simp [CandidateState.payload, ReferencePayload.state, htype, hform]
  unfold processReference review
  rw [show (c.inputState.payload ref i).type = .REF2 from htype, gather_of_form htype hform]
  dsimp only
  rw [yesNoGraph_invoke hp]
  simp only [bind_assoc, pure_bind]
  rfl

/-- `run_reference` never raises: its result is the one its review ends in. -/
theorem runReference_eq (env : Env) (llm : Provider) (c : CandidateBatchInput) (ref : ReferenceInput)
    (i : ℕ) :
    runReference env llm (c.inputState.payload ref i) =
      ⟨(review env llm c.subject ref).log,
        .ok (ref.resultOf env (review env llm c.subject ref).result)⟩ := by
  by_cases hvalid : ref.Valid env
  · cases htype : ref.type with
    | REF1 =>
      have hraw := (valid_iff_of_transcript htype).mp hvalid
      exact runReference_of_process rfl rfl (processReference_of_transcript htype hraw)
        (fun y _ => rfl)
    | REF2 =>
      obtain ⟨form, hform⟩ := (valid_iff_of_form htype).mp hvalid
      refine runReference_of_process rfl rfl (processReference_of_form htype hform) ?_
      intro y hy
      obtain ⟨ev, hev, hsummary⟩ := Issue.bind_eq_ok.mp hy
      obtain ⟨summary, -, hpure⟩ := Issue.bind_eq_ok.mp hsummary
      rw [gather_of_form htype hform] at hev
      cases hpure
      -- the state has no facts, and neither has the evidence of a form
      show Except.ok _ = _
      unfold ReferenceInput.reviewed
      rw [gatherYesNo_facts hev]
      rfl
  · unfold runReference review
    rw [processReference_of_not_valid hvalid, gather_of_not_valid hvalid]
    rfl

/-! ### The candidate -/

/-- The node that the verdict routes to. -/
def overallNode (env : Env) (results : List ReferenceResult) : CandidateNode :=
  match routeOverallReview (verdict env results).overallNeedsReview with
  | .overallFlagForReview => .overallFlagForReview
  | .overallClear => .overallClear

namespace CandidateBatchInput

variable (c : CandidateBatchInput) (env : Env) (llm : CandidateLLM)

/-- The result of each reference, in the order of the references. -/
def results : List ReferenceResult :=
  c.references.mapIdx fun i ref =>
    ref.resultOf env (review env (llm.forReference i) c.subject ref).result

/-- The requests of the reviews. -/
def reviewLog : List LLMRequest :=
  (c.references.mapIdx fun i ref => (review env (llm.forReference i) c.subject ref).log).flatten

/-- The state after the references. -/
def reviewedState : CandidateState :=
  { c.inputState with referenceResults := c.results env llm }

/-- The state after the cross-check. -/
def crossCheckedState : CandidateState :=
  { c.reviewedState env llm with
    crossReferenceFlags := some (crossCheckReferences env.toPyText (c.results env llm)) }

/-- The state after the verdict. -/
def scoredState : CandidateState :=
  { c.crossCheckedState env llm with
    overallConfidence := some (verdict env (c.results env llm)).overallConfidence
    overallNeedsReview := some (verdict env (c.results env llm)).overallNeedsReview }

/-- The state after the overall summary. -/
def finalState (summary : String) : CandidateState :=
  { c.scoredState env llm with overallSummary := some summary }

@[simp] theorem length_results : (c.results env llm).length = c.references.length := by
  simp [results]

variable {c env llm}

theorem getElem?_results (j : ℕ) :
    (c.results env llm)[j]? = c.references[j]?.map fun ref =>
      ref.resultOf env (review env (llm.forReference j) c.subject ref).result := by
  rw [results, List.getElem?_mapIdx]

theorem exists_of_mem_results {r : ReferenceResult} (hr : r ∈ c.results env llm) :
    ∃ (i : ℕ) (ref : ReferenceInput), c.references[i]? = some ref ∧
      r = ref.resultOf env (review env (llm.forReference i) c.subject ref).result := by
  obtain ⟨i, hi⟩ := List.getElem?_of_mem hr
  rw [getElem?_results] at hi
  obtain ⟨ref, href, rfl⟩ := Option.map_eq_some_iff.mp hi
  exact ⟨i, ref, href, rfl⟩

theorem results_ne_nil (h : c.references ≠ []) : c.results env llm ≠ [] := by
  intro hnil
  have hlen := c.length_results env llm
  rw [hnil, List.length_nil] at hlen
  exact h (List.length_eq_zero_iff.mp hlen.symm)

end CandidateBatchInput

section run

variable {llm : CandidateLLM} {c : CandidateBatchInput}

theorem foldl_append_result (results : List ReferenceResult) (s : CandidateState) :
    (results.map fun r => fun s : CandidateState =>
        { s with referenceResults := s.referenceResults ++ [r] }).foldl (fun s w => w s) s =
      { s with referenceResults := s.referenceResults ++ results } := by
  induction results generalizing s with
  | nil => simp
  | cons r results ih =>
    rw [List.map_cons, List.foldl_cons, ih]
    simp

theorem runReferenceNode_eq (ref : ReferenceInput) (i : ℕ) :
    runReferenceNode env llm (c.inputState.payload ref i) =
      ⟨(review env (llm.forReference i) c.subject ref).log, .ok fun s : CandidateState =>
        { s with referenceResults := s.referenceResults ++
          [ref.resultOf env (review env (llm.forReference i) c.subject ref).result] }⟩ := by
  unfold runReferenceNode
  rw [show (c.inputState.payload ref i).index = i from rfl, runReference_eq, Issue.bind_of_ok rfl,
    Issue.log_pure, List.append_nil]
  rfl

theorem mapM_runReferenceNode :
    (c.references.mapIdx fun i ref => c.inputState.payload ref i).mapM
        (fun p => (runReferenceNode env llm p).result) =
      .ok ((c.results env llm).map fun r => fun s : CandidateState =>
        { s with referenceResults := s.referenceResults ++ [r] }) := by
  unfold CandidateBatchInput.results
  rw [List.mapIdx_eq_zipIdx_map, List.mapIdx_eq_zipIdx_map, List.mapM_map, List.map_map]
  exact Loop.mapM_eq_ok fun p _ => congrArg Issue.result (runReferenceNode_eq p.1 p.2)

theorem flatMap_log_runReferenceNode :
    (c.references.mapIdx fun i ref => c.inputState.payload ref i).flatMap
      (fun p => (runReferenceNode env llm p).log) = c.reviewLog env llm := by
  unfold CandidateBatchInput.reviewLog
  rw [List.mapIdx_eq_zipIdx_map, List.mapIdx_eq_zipIdx_map, List.flatMap_def, List.map_map]
  refine congrArg List.flatten (List.map_congr_left fun p _ => ?_)
  exact congrArg Issue.log (runReferenceNode_eq p.1 p.2)

theorem superstep_fanOut (h : c.references ≠ []) :
    (candidateGraph env llm).superstep (fanOutReferences c.inputState) c.inputState =
      ⟨c.reviewLog env llm, .ok ([.node .crossCheckReferences], c.reviewedState env llm)⟩ := by
  have hps : (c.references.mapIdx fun i ref => c.inputState.payload ref i) ≠ [] := by
    simpa using h
  refine (superstep_sends_to (m := .crossCheckReferences) hps (fun _ => rfl)
    mapM_runReferenceNode).trans ?_
  rw [foldl_append_result]
  exact congrArg (Issue.mk · _) flatMap_log_runReferenceNode

theorem superstep_crossCheck :
    (candidateGraph env llm).superstep [.node .crossCheckReferences] (c.reviewedState env llm) =
      pure ([.node .scoreOverall], c.crossCheckedState env llm) := by
  rw [superstep_node_to (m := .scoreOverall) (fun _ => rfl)]
  rfl

theorem superstep_scoreOverall (h : c.references ≠ []) :
    (candidateGraph env llm).superstep [.node .scoreOverall] (c.crossCheckedState env llm) =
      pure ([.node (overallNode env (c.results env llm))], c.scoredState env llm) := by
  have hscore : scoreOverall env (c.crossCheckedState env llm).referenceResults
      ((c.crossCheckedState env llm).crossReferenceFlags.getD []) =
        .ok (verdict env (c.results env llm)) :=
    scoreOverall_of_ne_nil (CandidateBatchInput.results_ne_nil h) _
  have hedges : (candidateGraph env llm).edges .scoreOverall (c.scoredState env llm) =
      .ok [.node (overallNode env (c.results env llm))] := by
    show Except.ok _ = _
    unfold overallNode
    cases routeOverallReview (verdict env (c.results env llm)).overallNeedsReview <;> rfl
  rw [superstep_node]
  show (scoreOverallNode env (c.crossCheckedState env llm) >>= _) = _
  unfold scoreOverallNode
  rw [hscore, Issue.lift_eq_pure, pure_bind, pure_bind]
  show (Issue.lift ((candidateGraph env llm).edges .scoreOverall (c.scoredState env llm)) >>= _) = _
  rw [hedges]
  rfl

theorem superstep_overall :
    (candidateGraph env llm).superstep [.node (overallNode env (c.results env llm))]
        (c.scoredState env llm) = (do
      let result ← llm.forOverall.structuredCall
        (overallPrompts env c.subject (c.results env llm)) .overallSummary .reasoning
      return ([], c.finalState env llm result.summary)) := by
  unfold overallPrompts overallNode
  rw [superstep_node]
  cases routeOverallReview (verdict env (c.results env llm)).overallNeedsReview with
  | overallFlagForReview =>
    show (overallFlagForReviewNode env llm (c.scoredState env llm) >>= _) = _
    unfold overallFlagForReviewNode
    simp only [bind_assoc, pure_bind]
    rfl
  | overallClear =>
    show (overallClearNode env llm (c.scoredState env llm) >>= _) = _
    unfold overallClearNode
    simp only [bind_assoc, pure_bind]
    rfl

theorem fanOutReferences_ne_nil (h : c.references ≠ []) : fanOutReferences c.inputState ≠ [] := by
  unfold fanOutReferences
  rw [Ne, List.map_eq_nil_iff, List.mapIdx_eq_nil_iff]
  exact h

/-- The program that the candidate graph runs. -/
theorem candidateGraph_invoke (h : c.references ≠ []) :
    (candidateGraph env llm).invoke recursionLimit c.inputState = (do
      Issue.emit (c.reviewLog env llm)
      let result ← llm.forOverall.structuredCall
        (overallPrompts env c.subject (c.results env llm)) .overallSummary .reasoning
      return c.finalState env llm result.summary) := by
  obtain ⟨t, ts, hts⟩ := List.exists_cons_of_ne_nil (fanOutReferences_ne_nil h)
  show (candidateGraph env llm).run (24 + 1) (fanOutReferences c.inputState) c.inputState = _
  rw [hts, run_cons, ← hts, superstep_fanOut h, Issue.eq_emit_bind, bind_assoc, pure_bind]
  refine congrArg _ (funext fun _ => ?_)
  rw [run_cons, superstep_crossCheck, pure_bind, run_cons, superstep_scoreOverall h, pure_bind,
    run_cons, superstep_overall]
  simp only [bind_assoc, pure_bind, run_nil]

theorem fanOutReferences_nil (h : c.references = []) : fanOutReferences c.inputState = [] := by
  unfold fanOutReferences
  rw [show c.inputState.references = [] from h]
  rfl

theorem candidateGraph_invoke_of_nil (h : c.references = []) :
    (candidateGraph env llm).invoke recursionLimit c.inputState = pure c.inputState := by
  show (candidateGraph env llm).run recursionLimit (fanOutReferences c.inputState) c.inputState = _
  rw [fanOutReferences_nil h, run_nil]

/-- The configurations that a run of the candidate graph comes to, in order: the sent tasks, the
cross-check, the verdict, the summary that the verdict routes to, and the end if it is answered. -/
theorem candidateGraph_reaches_iff (h : c.references ≠ [])
    (cfg : List (Target CandidateNode ReferencePayload) × CandidateState) :
    (candidateGraph env llm).Reaches c.inputState cfg ↔
      cfg = (fanOutReferences c.inputState, c.inputState) ∨
      cfg = ([.node .crossCheckReferences], c.reviewedState env llm) ∨
      cfg = ([.node .scoreOverall], c.crossCheckedState env llm) ∨
      cfg = ([.node (overallNode env (c.results env llm))], c.scoredState env llm) ∨
      ∃ result : OverallSummary, llm.overall (llm.forOverall.request
          (overallPrompts env c.subject (c.results env llm)) .overallSummary .reasoning) = .ok result ∧
        cfg = ([], c.finalState env llm result.summary) := by
  have hstart : (candidateGraph env llm).start c.inputState =
      .ok (fanOutReferences c.inputState) := rfl
  have hstep₁ : (candidateGraph env llm).Step (fanOutReferences c.inputState, c.inputState)
      ([.node .crossCheckReferences], c.reviewedState env llm) :=
    ⟨fanOutReferences_ne_nil h, by rw [superstep_fanOut h]⟩
  have hstep₂ : (candidateGraph env llm).Step
      ([.node .crossCheckReferences], c.reviewedState env llm)
      ([.node .scoreOverall], c.crossCheckedState env llm) :=
    ⟨by simp, by rw [superstep_crossCheck]; rfl⟩
  have hstep₃ : (candidateGraph env llm).Step
      ([.node .scoreOverall], c.crossCheckedState env llm)
      ([.node (overallNode env (c.results env llm))], c.scoredState env llm) :=
    ⟨by simp, by rw [superstep_scoreOverall h]; rfl⟩
  rw [reaches_iff_of_start hstart, reflTransGen_step_iff hstep₁, reflTransGen_step_iff hstep₂,
    reflTransGen_step_iff hstep₃]
  refine or_congr_right (or_congr_right (or_congr_right ?_))
  cases hanswer : llm.overall (llm.forOverall.request
      (overallPrompts env c.subject (c.results env llm)) .overallSummary .reasoning) with
  | error e =>
    have hraise : ((candidateGraph env llm).superstep
        [.node (overallNode env (c.results env llm))] (c.scoredState env llm)).result = .error e := by
      rw [superstep_overall, Issue.result_bind]
      exact Except.bind_eq_error.mpr (Or.inl hanswer)
    constructor
    · exact fun hcfg => Or.inl (reflTransGen_of_error hraise hcfg)
    · rintro (rfl | ⟨result, hresult, -⟩)
      · exact Relation.ReflTransGen.refl
      · cases hresult
  | ok result =>
    have hstep₄ : (candidateGraph env llm).Step
        ([.node (overallNode env (c.results env llm))], c.scoredState env llm)
        ([], c.finalState env llm result.summary) :=
      ⟨by simp, by rw [superstep_overall]; exact Issue.bind_eq_ok.mpr ⟨result, hanswer, rfl⟩⟩
    rw [reflTransGen_step_iff hstep₄, reflTransGen_nil_iff]
    refine or_congr_right ⟨fun hcfg => ⟨result, rfl, hcfg⟩, ?_⟩
    rintro ⟨result', hresult, hcfg⟩
    cases hresult
    exact hcfg

theorem fanOutReferences_ne_node (s : CandidateState) (n : CandidateNode) :
    fanOutReferences s ≠ [.node n] := by
  intro h
  obtain ⟨p, -, hp⟩ := List.map_eq_singleton_iff.mp h
  cases hp

theorem reaches_scoreOverall_iff (h : c.references ≠ []) (st : CandidateState) :
    (candidateGraph env llm).Reaches c.inputState ([.node .scoreOverall], st) ↔
      st = c.crossCheckedState env llm := by
  have hne : overallNode env (c.results env llm) ≠ .scoreOverall := by
    unfold overallNode
    cases routeOverallReview (verdict env (c.results env llm)).overallNeedsReview <;> simp
  rw [candidateGraph_reaches_iff h]
  constructor
  · rintro (hfan | hcross | hscore | hnode | ⟨result, -, hend⟩)
    · exact absurd (Prod.ext_iff.mp hfan).1.symm (fanOutReferences_ne_node _ _)
    · cases hcross
    · exact (Prod.ext_iff.mp hscore).2
    · have hlist := (Prod.ext_iff.mp hnode).1
      simp only [List.cons.injEq, Target.node.injEq, and_true] at hlist
      exact absurd hlist.symm hne
    · cases hend
  · rintro rfl
    exact Or.inr (Or.inr (Or.inl rfl))

theorem reaches_overall_iff (h : c.references ≠ []) {n : CandidateNode}
    (hn : n = .overallFlagForReview ∨ n = .overallClear) (st : CandidateState) :
    (candidateGraph env llm).Reaches c.inputState ([.node n], st) ↔
      overallNode env (c.results env llm) = n ∧ st = c.scoredState env llm := by
  rw [candidateGraph_reaches_iff h]
  constructor
  · rintro (hfan | hcross | hscore | hnode | ⟨result, -, hend⟩)
    · exact absurd (Prod.ext_iff.mp hfan).1.symm (fanOutReferences_ne_node _ _)
    · rcases hn with rfl | rfl <;> cases hcross
    · rcases hn with rfl | rfl <;> cases hscore
    · obtain ⟨hlist, hstate⟩ := Prod.ext_iff.mp hnode
      simp only [List.cons.injEq, Target.node.injEq, and_true] at hlist
      exact ⟨hlist.symm, hstate⟩
    · cases hend
  · rintro ⟨hnode, rfl⟩
    rw [← hnode]
    exact Or.inr (Or.inr (Or.inr (Or.inl rfl)))

end run

end RefCheck
