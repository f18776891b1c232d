import RefCheck.Graphs.CandidateGraph

/-!
# Which summary a review comes to

The review of a reference comes to one of two summary nodes. `runsSummary_iff` says which: the one
that the score of the gathered evidence routes to, provided that gathering returns.
-/

namespace RefCheck

open StateGraph Target

/-- The graph of a reference, if it is invoked at all, comes to the summary node of the route. -/
def RunsSummary (env : Env) (llm : Provider) (p : ReferencePayload) (route : ReviewRoute) : Prop :=
  match p.type with
  | .REF1 =>
    validateRawInput env p.rawInput (p.candidateName ++ "/" ++ p.referenceName) = .ok () ∧
      ∃ st, (openEndedGraph env llm).Reaches p.state ([.node route.openEndedNode], st)
  | .REF2 => ∃ st, (yesNoGraph env llm).Reaches p.state ([.node route.yesNoNode], st)

variable {env : Env} {llm : Provider} {s : ReferenceCheckState} {route : ReviewRoute}

/-! ### From the score on -/

/-- In either graph the score leads to the node of its route, and to no other summary. -/
theorem EndsInSummary.reaches_iff {N P : Type} [DecidableEq N]
    {g : StateGraph N P ReferenceCheckState LLMRequest PyException} {score : N}
    {node : ReviewRoute → N} (h : EndsInSummary env llm g score node)
    (hinj : Function.Injective node) (hne : ∀ r, node r ≠ score) (s : ReferenceCheckState)
    (ev : Evidence) (route : ReviewRoute) :
    (∃ st, Relation.ReflTransGen g.Step ([.node score], s.scored ev) ([.node (node route)], st)) ↔
      ev.route env = route := by
  have hnode : [(Target.node score : Target N P)] ≠ [.node (node route)] := by
    intro heq
    simp only [List.cons.injEq, Target.node.injEq, and_true] at heq
    exact hne route heq.symm
  rw [exists_reaches_pure_iff (by simp) hnode (h.superstep_score s ev)]
  constructor
  · rintro ⟨st, hst⟩
    rcases (reflTransGen_superstep_iff (by simp) (superstep_node_end (h.done _))).mp hst with
      heq | ⟨w, -, hrest⟩
    · simp only [Prod.mk.injEq, List.cons.injEq, Target.node.injEq, and_true] at heq
      exact (hinj heq.1).symm
    · cases reflTransGen_nil_iff.mp hrest
  · rintro rfl
    exact ⟨_, Relation.ReflTransGen.refl⟩

theorem openEndedGraph_reaches_score (s : ReferenceCheckState) (ev : Evidence)
    (route : ReviewRoute) :
    (∃ st, Relation.ReflTransGen (openEndedGraph env llm).Step ([.node .scoreConfidence], s.scored ev)
      ([.node route.openEndedNode], st)) ↔ ev.route env = route := by
  refine openEndedGraph_endsInSummary.reaches_iff ?_ ?_ s ev route
  · intro r r' h
    cases r <;> cases r' <;> first | rfl | cases h
  · intro r h
    cases r <;> cases h

theorem yesNoGraph_reaches_score (s : ReferenceCheckState) (ev : Evidence) (route : ReviewRoute) :
    (∃ st, Relation.ReflTransGen (yesNoGraph env llm).Step ([.node .scoreConfidence], s.scored ev)
      ([.node route.yesNoNode], st)) ↔ ev.route env = route := by
  refine yesNoGraph_endsInSummary.reaches_iff ?_ ?_ s ev route
  · intro r r' h
    cases r <;> cases r' <;> first | rfl | cases h
  · intro r h
    cases r <;> cases h

/-! ### The whole reviews -/

theorem openEndedGraph_reaches_diff (s : ReferenceCheckState) (facts : ExtractedFacts)
    (result : SentimentAndRedFlags) (route : ReviewRoute) :
    (∃ st, Relation.ReflTransGen (openEndedGraph env llm).Step ([.node .diffFacts], { s with
        extractedFacts := some facts
        sentiment := some result.sentiment.text
        redFlags := some result.redFlags }) ([.node route.openEndedNode], st)) ↔
      ∃ ds, (explained env llm (diffFacts env s.claimedDetails facts)).result = .ok ds ∧
        (Evidence.mk facts ds result.sentiment.text result.redFlags).route env = route := by
  have hroute : route.openEndedNode ≠ .diffFacts ∧ route.openEndedNode ≠ .explainDiscrepancies := by
    cases route <;> exact ⟨by simp [ReviewRoute.openEndedNode], by simp [ReviewRoute.openEndedNode]⟩
  rw [exists_reaches_pure_iff (by simp) (by simpa using hroute.1.symm)
    (superstep_diffFacts s facts result)]
  unfold explained
  by_cases hne : diffFacts env s.claimedDetails facts ≠ []
  · rw [if_pos hne, if_pos hne, exists_reaches_superstep_iff (by simp) (by simpa using hroute.2.symm)
      (superstep_explainDiscrepancies _ _)]
    constructor
    · rintro ⟨notes, hnotes, hst⟩
      exact ⟨_, Issue.bind_eq_ok.mpr ⟨notes, hnotes, rfl⟩,
        (openEndedGraph_reaches_score _ _ route).mp hst⟩
    · rintro ⟨ds, hds, hev⟩
      obtain ⟨notes, hnotes, hpure⟩ := Issue.bind_eq_ok.mp hds
      cases hpure
      exact ⟨notes, hnotes, (openEndedGraph_reaches_score _ _ route).mpr hev⟩
  · rw [if_neg hne, if_neg hne, openEndedGraph_reaches_score]
    constructor
    · exact fun hev => ⟨_, rfl, hev⟩
    · rintro ⟨ds, hds, hev⟩
      cases hds
      exact hev

theorem openEndedGraph_reaches_iff (hraw : RawInputOk env s.rawInput) :
    (∃ st, (openEndedGraph env llm).Reaches s ([.node route.openEndedNode], st)) ↔
      ∃ ev, (gatherOpenEnded env llm s.subject (pyStr s.rawInput)).result = .ok ev ∧
        ev.route env = route := by
  have hreaches : ∀ c, (openEndedGraph env llm).Reaches s c ↔ Relation.ReflTransGen
      (openEndedGraph env llm).Step ([.node .extractFacts, .node .sentimentAndRedFlags], s) c :=
    fun c => reaches_iff_of_start rfl
  simp only [hreaches]
  rw [exists_reaches_superstep_iff (by simp) (by simp) (superstep_extractFacts hraw)]
  constructor
  · rintro ⟨⟨facts, result⟩, hp, hst⟩
    obtain ⟨hfacts, hresult⟩ := Issue.both_eq_ok.mp hp
    obtain ⟨ds, hds, hev⟩ := (openEndedGraph_reaches_diff s facts result route).mp hst
    exact ⟨_, gatherOpenEnded_eq_ok.mpr ⟨facts, result, ds, hfacts, hresult, hds, rfl⟩, hev⟩
  · rintro ⟨ev, hgather, hev⟩
    obtain ⟨facts, result, ds, hfacts, hresult, hds, rfl⟩ := gatherOpenEnded_eq_ok.mp hgather
    exact ⟨(facts, result), Issue.both_eq_ok.mpr ⟨hfacts, hresult⟩,
      (openEndedGraph_reaches_diff s facts result route).mpr ⟨ds, hds, hev⟩⟩

theorem yesNoGraph_reaches_iff {form : YesNoReferenceForm} (hform : s.yesNoForm = some form) :
    (∃ st, (yesNoGraph env llm).Reaches s ([.node route.yesNoNode], st)) ↔
      ∃ ev, (gatherYesNo llm s.claimedDetails form).result = .ok ev ∧ ev.route env = route := by
  have hroute : route.yesNoNode ≠ .evaluateYesNoForm ∧ route.yesNoNode ≠ .sentimentFromComments := by
    cases route <;> exact ⟨by simp [ReviewRoute.yesNoNode], by simp [ReviewRoute.yesNoNode]⟩
  have hreaches : ∀ c, (yesNoGraph env llm).Reaches s c ↔ Relation.ReflTransGen
      (yesNoGraph env llm).Step ([.node .evaluateYesNoForm], s) c := fun c =>
    reaches_iff_of_start rfl
  simp only [hreaches]
  rw [exists_reaches_pure_iff (by simp) (by simpa using hroute.1.symm)
    (superstep_evaluateYesNoForm hform)]
  unfold gatherYesNo
  by_cases hcomments : form.hasComments = true
  · rw [if_pos hcomments, if_pos hcomments, exists_reaches_superstep_iff (by simp)
      (by simpa using hroute.2.symm) (superstep_sentimentFromComments hform _)]
    constructor
    · rintro ⟨result, hresult, hst⟩
      exact ⟨_, Issue.bind_eq_ok.mpr ⟨result, hresult, rfl⟩,
        (yesNoGraph_reaches_score s _ route).mp hst⟩
    · rintro ⟨ev', hev', hr⟩
      obtain ⟨result, hresult, hpure⟩ := Issue.bind_eq_ok.mp hev'
      cases hpure
      exact ⟨result, hresult, (yesNoGraph_reaches_score s _ route).mpr hr⟩
  · rw [if_neg hcomments, if_neg hcomments, yesNoGraph_reaches_score]
    constructor
    · exact fun hr => ⟨_, rfl, hr⟩
    · rintro ⟨ev', hev', hr⟩
      cases hev'
      exact hr

theorem not_yesNoGraph_reaches (hform : s.yesNoForm = none) (st : ReferenceCheckState) :
    ¬ (yesNoGraph env llm).Reaches s ([.node route.yesNoNode], st) := by
  have hraise : ((yesNoGraph env llm).superstep [.node .evaluateYesNoForm] s).result =
      .error (.attributeError "confirmed_title") := by
    rw [superstep_evaluateYesNoForm_none hform]
    rfl
  rw [reaches_iff_of_start rfl]
  intro hst
  have heq := (Prod.ext_iff.mp (reflTransGen_of_error hraise hst)).1
  cases route <;> cases heq

/-- The summary that a review comes to is the one its evidence routes to. -/
theorem runsSummary_iff {c : CandidateBatchInput} {ref : ReferenceInput} {i : ℕ} :
    RunsSummary env llm (c.inputState.payload ref i) route ↔
      ∃ ev, (gather env llm c.subject ref).result = .ok ev ∧ ev.route env = route := by
  unfold RunsSummary
  cases htype : ref.type with
  | REF1 =>
    rw [show (c.inputState.payload ref i).type = .REF1 from htype]
    have hp : (c.inputState.payload ref i).rawInput = ref.rawInput := by
      simp [CandidateState.payload, htype]
    dsimp only
    rw [hp, validateRawInput_ok_iff]
    by_cases hraw : RawInputOk env ref.rawInput
    · rw [and_iff_right hraw, gather_of_transcript htype hraw,
        openEndedGraph_reaches_iff (by rw [ReferencePayload.state, hp]; exact hraw)]
      rw [show (c.inputState.payload ref i).state.rawInput = ref.rawInput from hp]
      rfl
    · rw [gather_of_not_valid ((valid_iff_of_transcript htype).not.mpr hraw)]
      simp [hraw]
  | REF2 =>
    rw [show (c.inputState.payload ref i).type = .REF2 from htype]
    have hp : (c.inputState.payload ref i).state.yesNoForm = ref.yesNoForm := by
      simp [CandidateState.payload, ReferencePayload.state, htype]
    dsimp only
    cases hform : ref.yesNoForm with
    | none =>
      have hvalid : ¬ ref.Valid env := fun h => by
        obtain ⟨form, hsome⟩ := (valid_iff_of_form htype).mp h
        rw [hform] at hsome
        cases hsome
      rw [gather_of_not_valid hvalid]
      simp [not_yesNoGraph_reaches (hp.trans hform)]
    | some form =>
      rw [gather_of_form htype hform, yesNoGraph_reaches_iff (hp.trans hform)]
      rfl

end RefCheck
