import RefCheck.Graphs.ReferenceGraph
import RefCheck.Model.Evidence

/-!
# What the reference graphs compute

A review gathers evidence (facts, discrepancies, sentiment, red flags), scores it and asks for a
summary of what it found. `gatherOpenEnded` and `gatherYesNo` are the two ways to gather;
`openEndedGraph_invoke` and `yesNoGraph_invoke` say that the graphs run exactly these programs, and
`review` puts both together for a reference of either type.
-/

namespace RefCheck

def ReferenceCheckState.subject (s : ReferenceCheckState) : Subject :=
  ⟨s.candidateName, s.roleAppliedFor, s.claimedDetails⟩

/-- The discrepancies with their notes; a model is asked only if there are any. -/
def explained (env : Env) (llm : Provider) (discrepancies : List Discrepancy) :
    Issue LLMRequest PyException (List Discrepancy) :=
  if discrepancies ≠ [] then do
    let result ← llm.structuredCall (explainDiscrepanciesRequest env.toPyText discrepancies)
      .discrepancyNotes .reasoning
    return applyNotes result discrepancies
  else return discrepancies

def gatherOpenEnded (env : Env) (llm : Provider) (subj : Subject) (rawInput : String) :
    Issue LLMRequest PyException Evidence := do
  let read ← Issue.both llm.sentimentFirst
    (llm.structuredCall (extractFactsRequest env.toPyText subj.candidateName subj.roleAppliedFor
      subj.claimedDetails rawInput) .extractedFacts .extraction)
    (llm.structuredCall (sentimentAndRedFlagsRequest rawInput) .sentimentAndRedFlags .extraction)
  let discrepancies ← explained env llm (diffFacts env subj.claimedDetails read.1)
  return ⟨read.1, discrepancies, read.2.sentiment.text, read.2.redFlags⟩

def gatherYesNo (llm : Provider) (claimed : ClaimedDetails) (form : YesNoReferenceForm) :
    Issue LLMRequest PyException Evidence :=
  if form.hasComments then do
    let result ← llm.structuredCall (sentimentAndRedFlagsRequest (pyStr form.additionalComments))
      .sentimentAndRedFlags .extraction
    return (formEvidence claimed form).withComments result
  else return formEvidence claimed form

/-- The summary of gathered evidence. -/
def summarized (env : Env) (llm : Provider) (subj : Subject) (ev : Evidence) :
    Issue LLMRequest PyException String := do
  let result ← llm.structuredCall (ev.summaryPrompts env subj) .finalSummary .reasoning
  return result.summary

/-- The evidence about one reference, gathered the way its type asks for. -/
def gather (env : Env) (llm : Provider) (subj : Subject) (ref : ReferenceInput) :
    Issue LLMRequest PyException Evidence :=
  match ref.type with
  | .REF1 => do
    Issue.lift (validateRawInput env ref.rawInput (subj.candidateName ++ "/" ++ ref.referenceName))
    gatherOpenEnded env llm subj (pyStr ref.rawInput)
  | .REF2 => do
    let form ← Issue.lift (getAttr "confirmed_title" ref.yesNoForm)
    gatherYesNo llm subj.claimedDetails form

/-- The review of one reference: what was gathered, and its summary. -/
def review (env : Env) (llm : Provider) (subj : Subject) (ref : ReferenceInput) :
    Issue LLMRequest PyException (Evidence × String) := do
  let ev ← gather env llm subj ref
  let summary ← summarized env llm subj ev
  return (ev, summary)

/-- The state in which a graph ends. -/
def ReferenceCheckState.finish (s : ReferenceCheckState) (env : Env) (ev : Evidence)
    (summary : String) : ReferenceCheckState :=
  { s with
    discrepancies := some ev.discrepancies
    sentiment := some ev.sentiment
    redFlags := some ev.redFlags
    confidenceScore := some (ev.score env).confidenceScore
    needsHumanReview := some (ev.score env).needsHumanReview
    finalSummary := some summary }

/-- The state when the evidence is complete. -/
def ReferenceCheckState.scored (s : ReferenceCheckState) (ev : Evidence) : ReferenceCheckState :=
  { s with
    discrepancies := some ev.discrepancies
    sentiment := some ev.sentiment
    redFlags := some ev.redFlags }

open StateGraph

variable {env : Env} {llm : Provider}

/-! ### Gathering, case by case -/

theorem gatherOpenEnded_eq_ok {subj : Subject} {rawInput : String} {ev : Evidence} :
    (gatherOpenEnded env llm subj rawInput).result = .ok ev ↔ ∃ facts result discrepancies,
      (llm.structuredCall (extractFactsRequest env.toPyText subj.candidateName subj.roleAppliedFor
        subj.claimedDetails rawInput) .extractedFacts .extraction).result = .ok facts ∧
      (llm.structuredCall (sentimentAndRedFlagsRequest rawInput) .sentimentAndRedFlags
        .extraction).result = .ok result ∧
      (explained env llm (diffFacts env subj.claimedDetails facts)).result = .ok discrepancies ∧
      ev = ⟨facts, discrepancies, result.sentiment.text, result.redFlags⟩ := by
  constructor
  · intro h
    obtain ⟨⟨facts, result⟩, hread, h⟩ := Issue.bind_eq_ok.mp h
    obtain ⟨hfacts, hresult⟩ := Issue.both_eq_ok.mp hread
    obtain ⟨discrepancies, hexplained, h⟩ := Issue.bind_eq_ok.mp h
    cases h
    exact ⟨facts, result, discrepancies, hfacts, hresult, hexplained, rfl⟩
  · rintro ⟨facts, result, discrepancies, hfacts, hresult, hexplained, rfl⟩
    exact Issue.bind_eq_ok.mpr ⟨(facts, result), Issue.both_eq_ok.mpr ⟨hfacts, hresult⟩,
      Issue.bind_eq_ok.mpr ⟨discrepancies, hexplained, rfl⟩⟩

theorem gather_of_transcript {subj : Subject} {ref : ReferenceInput} (htype : ref.type = .REF1)
    (hraw : RawInputOk env ref.rawInput) :
    gather env llm subj ref = gatherOpenEnded env llm subj (pyStr ref.rawInput) := by
  unfold gather
  rw [htype]
  dsimp only
  rw [(validateRawInput_ok_iff env ref.rawInput _).mpr hraw, Issue.lift_eq_pure, pure_bind]

theorem gather_of_form {subj : Subject} {ref : ReferenceInput} {form : YesNoReferenceForm}
    (htype : ref.type = .REF2) (hform : ref.yesNoForm = some form) :
    gather env llm subj ref = gatherYesNo llm subj.claimedDetails form := by
  unfold gather
  rw [htype]
  dsimp only
  rw [hform, getAttr_some, Issue.lift_eq_pure, pure_bind]

/-- What gathering without an input raises. -/
def ReferenceInput.missingInput (ref : ReferenceInput) (env : Env) (subj : Subject) : PyException :=
  match ref.type with
  | .REF1 =>
    match validateRawInput env ref.rawInput (subj.candidateName ++ "/" ++ ref.referenceName) with
    | .error e => e
    | .ok _ => .attributeError "confirmed_title"
  | .REF2 => .attributeError "confirmed_title"

theorem validateRawInput_of_not_ok {subj : Subject} {ref : ReferenceInput}
    (htype : ref.type = .REF1) (hraw : ¬ RawInputOk env ref.rawInput) :
    validateRawInput env ref.rawInput (subj.candidateName ++ "/" ++ ref.referenceName) =
      .error (ref.missingInput env subj) := by
  unfold ReferenceInput.missingInput
  rw [htype]
  dsimp only
  cases h : validateRawInput env ref.rawInput (subj.candidateName ++ "/" ++ ref.referenceName) with
  | error e => rfl
  | ok u => exact absurd ((validateRawInput_ok_iff env _ _).mp h) hraw

theorem gather_of_not_valid {subj : Subject} {ref : ReferenceInput} (h : ¬ ref.Valid env) :
    gather env llm subj ref = Issue.lift (.error (ref.missingInput env subj)) := by
  unfold gather
  cases htype : ref.type with
  | REF1 =>
    dsimp only
    rw [validateRawInput_of_not_ok htype ((valid_iff_of_transcript htype).not.mp h)]
    rfl
  | REF2 =>
    dsimp only
    rw [yesNoForm_of_not_valid htype h, ReferenceInput.missingInput, htype]
    rfl

theorem gatherYesNo_facts {claimed : ClaimedDetails} {form : YesNoReferenceForm} {ev : Evidence}
    (h : (gatherYesNo llm claimed form).result = .ok ev) : ev.facts = {} := by
  unfold gatherYesNo at h
  split at h
  · obtain ⟨result, -, h⟩ := Issue.bind_eq_ok.mp h
    cases h
    rfl
  · cases h
    rfl

/-- The ways in which evidence is gathered, with the replies that it is made of. -/
inductive Gathered (env : Env) (llm : Provider) (subj : Subject) (ref : ReferenceInput) :
    Evidence → Prop
  | transcript (facts : ExtractedFacts) (result : SentimentAndRedFlags)
      (discrepancies : List Discrepancy) (htype : ref.type = .REF1)
      (hraw : RawInputOk env ref.rawInput)
      (hfacts : (llm.structuredCall (extractFactsRequest env.toPyText subj.candidateName
        subj.roleAppliedFor subj.claimedDetails (pyStr ref.rawInput)) .extractedFacts
          .extraction).result = .ok facts)
      (hresult : (llm.structuredCall (sentimentAndRedFlagsRequest (pyStr ref.rawInput))
        .sentimentAndRedFlags .extraction).result = .ok result)
      (hexplained : (explained env llm (diffFacts env subj.claimedDetails facts)).result =
        .ok discrepancies) :
      Gathered env llm subj ref ⟨facts, discrepancies, result.sentiment.text, result.redFlags⟩
  | form (form : YesNoReferenceForm) (htype : ref.type = .REF2)
      (hform : ref.yesNoForm = some form) (hcomments : form.hasComments = false) :
      Gathered env llm subj ref (formEvidence subj.claimedDetails form)
  | comments (form : YesNoReferenceForm) (result : SentimentAndRedFlags) (htype : ref.type = .REF2)
      (hform : ref.yesNoForm = some form) (hcomments : form.hasComments = true)
      (hresult : (llm.structuredCall (sentimentAndRedFlagsRequest (pyStr form.additionalComments))
        .sentimentAndRedFlags .extraction).result = .ok result) :
      Gathered env llm subj ref ((formEvidence subj.claimedDetails form).withComments result)

section gathered

variable {subj : Subject} {ref : ReferenceInput} {ev : Evidence}

theorem gathered_of_ok (h : (gather env llm subj ref).result = .ok ev) :
    Gathered env llm subj ref ev := by
  have hvalid : ref.Valid env := by
    by_contra hinvalid
    rw [gather_of_not_valid hinvalid] at h
    cases h
  cases htype : ref.type with
  | REF1 =>
    have hraw := (valid_iff_of_transcript htype).mp hvalid
    rw [gather_of_transcript htype hraw] at h
    obtain ⟨facts, result, discrepancies, hfacts, hresult, hexplained, rfl⟩ :=
      gatherOpenEnded_eq_ok.mp h
    exact .transcript facts result discrepancies htype hraw hfacts hresult hexplained
  | REF2 =>
    obtain ⟨form, hform⟩ := (valid_iff_of_form htype).mp hvalid
    rw [gather_of_form htype hform] at h
    unfold gatherYesNo at h
    split_ifs at h with hcomments
    · obtain ⟨result, hresult, h⟩ := Issue.bind_eq_ok.mp h
      cases h
      exact .comments form result htype hform hcomments hresult
    · cases h
      exact .form form htype hform (Bool.eq_false_iff.mpr hcomments)

theorem Gathered.valid (h : Gathered env llm subj ref ev) : ref.Valid env := by
  cases h with
  | transcript facts result discrepancies htype hraw hfacts hresult hexplained =>
    exact (valid_iff_of_transcript htype).mpr hraw
  | form form htype hform hcomments => exact (valid_iff_of_form htype).mpr ⟨form, hform⟩
  | comments form result htype hform hcomments hresult =>
    exact (valid_iff_of_form htype).mpr ⟨form, hform⟩

/-- The sentiment of gathered evidence is never `unclear`, the sentiment of a failure result. -/
theorem Gathered.sentiment_ne_unclear (h : Gathered env llm subj ref ev) :
    ev.sentiment ≠ "unclear" := by
  cases h with
  | transcript facts result discrepancies htype hraw hfacts hresult hexplained =>
    exact Sentiment.text_ne_unclear _
  | form form htype hform hcomments =>
    show "neutral" ≠ "unclear"
    decide
  | comments form result htype hform hcomments hresult => exact Sentiment.text_ne_unclear _

theorem gather_of_review {y : Evidence × String}
    (h : (review env llm subj ref).result = .ok y) :
    (gather env llm subj ref).result = .ok y.1 := by
  obtain ⟨ev, hev, hrest⟩ := Issue.bind_eq_ok.mp h
  obtain ⟨summary, -, hpure⟩ := Issue.bind_eq_ok.mp hrest
  cases hpure
  exact hev

end gathered

/-! ### From the score on -/

/-- What `score_confidence` writes. -/
def ReferenceCheckState.withScore (s : ReferenceCheckState) (env : Env) (ev : Evidence) :
    ReferenceCheckState :=
  { s.scored ev with
    confidenceScore := some (ev.score env).confidenceScore
    needsHumanReview := some (ev.score env).needsHumanReview }

def ReviewRoute.openEndedNode : ReviewRoute → OpenEndedNode
  | .flagForHumanReview => .flagForHumanReview
  | .autoSummarize => .autoSummarize

def ReviewRoute.yesNoNode : ReviewRoute → YesNoNode
  | .flagForHumanReview => .flagForHumanReview
  | .autoSummarize => .autoSummarize

/-- The route of gathered evidence. -/
def Evidence.route (env : Env) (ev : Evidence) : ReviewRoute :=
  routeReview (ev.score env).needsHumanReview

/-- The part that the graphs share: the score routes to one of the two nodes that ask for the summary,
and both lead to the end. -/
structure EndsInSummary {N P : Type} [DecidableEq N] (env : Env) (llm : Provider)
    (g : StateGraph N P ReferenceCheckState LLMRequest PyException) (score : N)
    (node : ReviewRoute → N) : Prop where
  scores : g.body score = scoreConfidenceNode env
  routes : ∀ (s : ReferenceCheckState) (ev : Evidence),
    g.edges score (s.withScore env ev) = .ok [.node (node (ev.route env))]
  flag : g.body (node .flagForHumanReview) = flagForHumanReviewNode env llm
  auto : g.body (node .autoSummarize) = autoSummarizeNode env llm
  done : ∀ route s, g.edges (node route) s = .ok []

section endsInSummary

variable {N P : Type} [DecidableEq N]
  {g : StateGraph N P ReferenceCheckState LLMRequest PyException} {score : N}
  {node : ReviewRoute → N}

theorem EndsInSummary.superstep_score (h : EndsInSummary env llm g score node)
    (s : ReferenceCheckState) (ev : Evidence) :
    g.superstep [.node score] (s.scored ev) =
      pure ([.node (node (ev.route env))], s.withScore env ev) := by
  have hwrite : g.body score (s.scored ev) = pure fun s => { s with
      confidenceScore := some (ev.score env).confidenceScore
      needsHumanReview := some (ev.score env).needsHumanReview } := by
    rw [h.scores]
    rfl
  rw [superstep_node, hwrite, pure_bind]
  show (Issue.lift (g.edges score (s.withScore env ev)) >>= fun next => _) = _
  rw [h.routes, Issue.lift_eq_pure, pure_bind, Target.schedule_node]
  rfl

theorem EndsInSummary.superstep_summary (h : EndsInSummary env llm g score node)
    (s : ReferenceCheckState) (ev : Evidence) :
    g.superstep [.node (node (ev.route env))] (s.withScore env ev) = (do
      let summary ← summarized env llm s.subject ev
      return ([], s.finish env ev summary)) := by
  rw [superstep_node_end (h.done _)]
  unfold summarized Evidence.summaryPrompts Evidence.route
  cases routeReview (ev.score env).needsHumanReview with
  | flagForHumanReview =>
    rw [h.flag]
    unfold flagForHumanReviewNode
    simp only [bind_assoc, pure_bind]
    rfl
  | autoSummarize =>
    rw [h.auto]
    unfold autoSummarizeNode
    simp only [bind_assoc, pure_bind]
    rfl

theorem EndsInSummary.run (h : EndsInSummary env llm g score node) (s : ReferenceCheckState)
    (ev : Evidence) (limit : ℕ) :
    g.run (limit + 2) [.node score] (s.scored ev) = (do
      let summary ← summarized env llm s.subject ev
      return s.finish env ev summary) := by
  rw [run_cons, h.superstep_score, pure_bind, run_cons, h.superstep_summary]
  simp only [bind_assoc, pure_bind, run_nil]

end endsInSummary

theorem openEndedGraph_endsInSummary : EndsInSummary env llm (openEndedGraph env llm)
    .scoreConfidence ReviewRoute.openEndedNode where
  scores := rfl
  routes := by
    intro s ev
    show (getItem "needs_human_review" (some (ev.score env).needsHumanReview) >>= fun _ => _) = _
    unfold Evidence.route
    cases (ev.score env).needsHumanReview <;> rfl
  flag := rfl
  auto := rfl
  done := by
    intro route s
    cases route <;> rfl

theorem yesNoGraph_endsInSummary : EndsInSummary env llm (yesNoGraph env llm) .scoreConfidence
    ReviewRoute.yesNoNode where
  scores := rfl
  routes := by
    intro s ev
    show (getItem "needs_human_review" (some (ev.score env).needsHumanReview) >>= fun _ => _) = _
    unfold Evidence.route
    cases (ev.score env).needsHumanReview <;> rfl
  flag := rfl
  auto := rfl
  done := by
    intro route s
    cases route <;> rfl

/-! ### The supersteps that gather -/

theorem superstep_extractFacts {s : ReferenceCheckState} (hraw : RawInputOk env s.rawInput) :
    (openEndedGraph env llm).superstep [.node .extractFacts, .node .sentimentAndRedFlags] s =
      Issue.both llm.sentimentFirst
        (llm.structuredCall (extractFactsRequest env.toPyText s.candidateName s.roleAppliedFor
          s.claimedDetails (pyStr s.rawInput)) .extractedFacts .extraction)
        (llm.structuredCall (sentimentAndRedFlagsRequest (pyStr s.rawInput)) .sentimentAndRedFlags
          .extraction) >>= fun p => pure ([.node .diffFacts], { s with
        extractedFacts := some p.1
        sentiment := some p.2.sentiment.text
        redFlags := some p.2.redFlags }) := by
  have hvalid : ∀ context, validateRawInput env s.rawInput context = .ok () := fun context =>
    (validateRawInput_ok_iff env s.rawInput context).mpr hraw
  rw [superstep_pair_to (k := .diffFacts) (fun _ => rfl) (fun _ => rfl) rfl]
  show Issue.both _ (extractFactsNode env llm s) (sentimentAndRedFlagsNode env llm s) >>= _ = _
  unfold extractFactsNode sentimentAndRedFlagsNode
  simp only [hvalid, Issue.lift_eq_pure, pure_bind, Issue.both_map, bind_assoc]

theorem superstep_diffFacts (s : ReferenceCheckState) (facts : ExtractedFacts)
    (result : SentimentAndRedFlags) :
    (openEndedGraph env llm).superstep [.node .diffFacts] { s with
        extractedFacts := some facts
        sentiment := some result.sentiment.text
        redFlags := some result.redFlags } =
      pure (if diffFacts env s.claimedDetails facts ≠ [] then [.node .explainDiscrepancies]
          else [.node .scoreConfidence],
        { s with extractedFacts := some facts }.scored ⟨facts, diffFacts env s.claimedDetails facts,
          result.sentiment.text, result.redFlags⟩) := by
  set ds := diffFacts env s.claimedDetails facts with hds
  let s' : ReferenceCheckState := { s with extractedFacts := some facts }.scored
    ⟨facts, ds, result.sentiment.text, result.redFlags⟩
  have hedges : (openEndedGraph env llm).edges .diffFacts s' =
      .ok (if ds ≠ [] then [.node .explainDiscrepancies] else [.node .scoreConfidence]) := rfl
  rw [superstep_node]
  show (Issue.lift ((openEndedGraph env llm).edges .diffFacts s') >>= fun next =>
    pure (Target.schedule next, s')) = _
  rw [hedges, Issue.lift_eq_pure, pure_bind]
  split_ifs <;> rfl

theorem superstep_explainDiscrepancies (s : ReferenceCheckState) (ev : Evidence) :
    (openEndedGraph env llm).superstep [.node .explainDiscrepancies] (s.scored ev) =
      llm.structuredCall (explainDiscrepanciesRequest env.toPyText ev.discrepancies)
        .discrepancyNotes .reasoning >>= fun notes => pure ([.node .scoreConfidence],
          s.scored { ev with discrepancies := applyNotes notes ev.discrepancies }) := by
  rw [superstep_node_to (m := .scoreConfidence) (fun _ => rfl)]
  show (explainDiscrepanciesNode env llm (s.scored ev) >>= _) = _
  unfold explainDiscrepanciesNode
  rw [show (s.scored ev).discrepancies = some ev.discrepancies from rfl, getItem_some,
    Issue.lift_eq_pure]
  simp only [bind_assoc, pure_bind]
  rfl

theorem superstep_evaluateYesNoForm {s : ReferenceCheckState} {form : YesNoReferenceForm}
    (hform : s.yesNoForm = some form) :
    (yesNoGraph env llm).superstep [.node .evaluateYesNoForm] s =
      pure (if form.hasComments then [.node .sentimentFromComments] else [.node .scoreConfidence],
        s.scored (formEvidence s.claimedDetails form)) := by
  let ev := formEvidence s.claimedDetails form
  have hbody : (yesNoGraph env llm).body .evaluateYesNoForm s = pure fun s => s.scored ev := by
    show evaluateYesNoFormNode s = _
    unfold evaluateYesNoFormNode
    rw [hform, getAttr_some, Issue.lift_eq_pure, pure_bind]
    rfl
  have hedges : (yesNoGraph env llm).edges .evaluateYesNoForm (s.scored ev) = .ok
      (if form.hasComments then [.node .sentimentFromComments] else [.node .scoreConfidence]) := by
    show (getAttr "additional_comments" s.yesNoForm >>= fun form => _) = _
    rw [hform, getAttr_some]
    rfl
  rw [superstep_node, hbody, pure_bind, hedges, Issue.lift_eq_pure, pure_bind]
  split_ifs <;> rfl

theorem superstep_evaluateYesNoForm_none {s : ReferenceCheckState} (hform : s.yesNoForm = none) :
    (yesNoGraph env llm).superstep [.node .evaluateYesNoForm] s =
      Issue.lift (.error (.attributeError "confirmed_title")) := by
  rw [superstep_node]
  show (evaluateYesNoFormNode s >>= _) = _
  unfold evaluateYesNoFormNode
  rw [hform]
  rfl

theorem superstep_sentimentFromComments {s : ReferenceCheckState} {form : YesNoReferenceForm}
    (hform : s.yesNoForm = some form) (ev : Evidence) :
    (yesNoGraph env llm).superstep [.node .sentimentFromComments] (s.scored ev) =
      llm.structuredCall (sentimentAndRedFlagsRequest (pyStr form.additionalComments))
        .sentimentAndRedFlags .extraction >>= fun result =>
          pure ([.node .scoreConfidence], s.scored (ev.withComments result)) := by
  rw [superstep_node_to (m := .scoreConfidence) (fun _ => rfl)]
  show (sentimentFromCommentsNode llm (s.scored ev) >>= _) = _
  unfold sentimentFromCommentsNode
  rw [show (s.scored ev).yesNoForm = some form from hform, getAttr_some]
  simp only [Issue.lift_eq_pure, bind_assoc, pure_bind]
  rfl

/-! ### The whole runs -/

theorem openEndedGraph_diff (s : ReferenceCheckState) (facts : ExtractedFacts)
    (result : SentimentAndRedFlags) (limit : ℕ) :
    (openEndedGraph env llm).run (limit + 4) [.node .diffFacts]
        { s with
          extractedFacts := some facts
          sentiment := some result.sentiment.text
          redFlags := some result.redFlags } = (do
      let discrepancies ← explained env llm (diffFacts env s.claimedDetails facts)
      let ev : Evidence := ⟨facts, discrepancies, result.sentiment.text, result.redFlags⟩
      let summary ← summarized env llm s.subject ev
      return { s with extractedFacts := some facts }.finish env ev summary) := by
  rw [run_cons, superstep_diffFacts, pure_bind]
  unfold explained
  by_cases hne : diffFacts env s.claimedDetails facts ≠ []
  · rw [if_pos hne, if_pos hne, run_cons, superstep_explainDiscrepancies]
    simp only [bind_assoc, pure_bind]
    refine congrArg _ (funext fun notes => ?_)
    exact openEndedGraph_endsInSummary.run _ _ limit
  · rw [if_neg hne, if_neg hne, pure_bind]
    exact openEndedGraph_endsInSummary.run _ _ (limit + 1)

/-- On a transcript within the bounds the open-ended graph gathers, scores and summarises. -/
theorem openEndedGraph_invoke {s : ReferenceCheckState} (hraw : RawInputOk env s.rawInput) :
    (openEndedGraph env llm).invoke recursionLimit s = (do
      let ev ← gatherOpenEnded env llm s.subject (pyStr s.rawInput)
      let summary ← summarized env llm s.subject ev
      return { s with extractedFacts := some ev.facts }.finish env ev summary) := by
  show (openEndedGraph env llm).run (24 + 1) [.node .extractFacts, .node .sentimentAndRedFlags] s
    = _
  rw [run_cons, superstep_extractFacts hraw]
  unfold gatherOpenEnded
  simp only [bind_assoc, pure_bind]
  exact congrArg _ (funext fun read => openEndedGraph_diff s read.1 read.2 20)

/-- On a form the yes/no graph gathers, scores and summarises. -/
theorem yesNoGraph_invoke {s : ReferenceCheckState} {form : YesNoReferenceForm}
    (hform : s.yesNoForm = some form) :
    (yesNoGraph env llm).invoke recursionLimit s = (do
      let ev ← gatherYesNo llm s.claimedDetails form
      let summary ← summarized env llm s.subject ev
      return s.finish env ev summary) := by
  show (yesNoGraph env llm).run (24 + 1) [.node .evaluateYesNoForm] s = _
  rw [run_cons, superstep_evaluateYesNoForm hform, pure_bind]
  unfold gatherYesNo
  by_cases hcomments : form.hasComments = true
  · rw [if_pos hcomments, if_pos hcomments, run_cons, superstep_sentimentFromComments hform]
    simp only [bind_assoc, pure_bind]
    refine congrArg _ (funext fun result => ?_)
    exact yesNoGraph_endsInSummary.run _ _ 21
  · rw [if_neg hcomments, if_neg hcomments, pure_bind]
    exact yesNoGraph_endsInSummary.run _ _ 22

/-- Without a form the yes/no graph raises, with no request made. -/
theorem yesNoGraph_invoke_none {s : ReferenceCheckState} (hform : s.yesNoForm = none) :
    (yesNoGraph env llm).invoke recursionLimit s =
      Issue.lift (.error (.attributeError "confirmed_title")) := by
  show (yesNoGraph env llm).run (24 + 1) [.node .evaluateYesNoForm] s = _
  rw [run_cons, superstep_evaluateYesNoForm_none hform]
  rfl

end RefCheck
