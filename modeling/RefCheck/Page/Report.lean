import RefCheck.Graphs.CandidateRun
import RefCheck.Page.Script

/-!
# What the page shows of a check

The script takes the body of a response apart member by member, and a member that is missing is an
exception that nothing catches. The result that the service stores has every member that is asked for:
what is on the page is the report of the state that the graph ended in (`renderResult_finalState`).
-/

namespace RefCheck

section report

variable (text : PageText) (py : PyText)

/-! ### The report -/

def Discrepancy.report (d : Discrepancy) : List Element :=
  .write ("- [" ++ d.severity.text ++ "] " ++ d.field ++ ": claimed=" ++
      text.repr (.str d.claimedValue) ++ " vs stated=" ++ text.repr (.str d.statedValue)) ::
    match d.note with
    | none => []
    | some note => if note = "" then [] else [.caption note]

def ReferenceResult.report (r : ReferenceResult) : Element :=
  .expander (r.referenceName ++ " (" ++ r.relationship ++ ") — confidence " ++
      text.str (.num (py.floatStr r.confidenceScore)))
    ([.write ("Sentiment: " ++ r.sentiment), .write ("Needs review: " ++ pyBool r.needsHumanReview)] ++
      (if r.discrepancies = [] then []
        else .write "**Discrepancies:**" :: (r.discrepancies.map (·.report text)).flatten) ++
      (if r.redFlags = [] then []
        else .write "**Red flags:**" :: r.redFlags.map fun rf => .write ("- " ++ rf)) ++
      [.write "**Reference summary:**", .write r.referenceSummary])

def CrossReferenceFlag.report (f : CrossReferenceFlag) : Element :=
  .write ("- [" ++ f.severity.text ++ "] " ++ f.field ++ ": " ++ f.description)

/-- The report of a completed check. -/
def report (results : List ReferenceResult) (flags : List CrossReferenceFlag) (confidence : ℚ)
    (needsReview : Bool) (summary : String) : List Element :=
  [.success "Completed",
      .metric "Overall confidence" (text.fixed1 (py.floatStr confidence) ++ "/100"),
      .metric "Needs human review" (pyBool needsReview)] ++
    results.map (·.report text py) ++
    (if flags = [] then []
      else .markdown "**Cross-reference flags** (references disagreeing with each other):" ::
        flags.map (·.report)) ++
    [.markdown "**Overall summary:**", .write summary]

end report

section render

variable {text : PageText} {py : PyText}

/-! ### Lists -/

theorem mapM_map_eq_ok {A B C : Type} {encode : A → B} {render : B → Except PyException C} {value : A → C}
    (h : ∀ a, render (encode a) = .ok (value a)) (l : List A) :
    (l.map encode).mapM render = .ok (l.map value) := by
  rw [List.mapM_map]
  exact Loop.mapM_eq_ok fun a _ => h a

theorem truthy_arr_map {A : Type} (encode : A → Json) (l : List A) :
    (Json.arr (l.map encode)).truthy = !l.isEmpty := by
  cases l <;> rfl

theorem toJsonItems_map {A : Type} (encode : A → PyValue) (l : List A) :
    PyValue.toJsonItems py (l.map encode) = l.map fun a => (encode a).toJson py := by
  rw [PyValue.toJsonItems_eq_map, List.map_map]
  rfl

theorem toJson_strs (values : List String) :
    (PyValue.strs values).toJson py = .arr (values.map .str) := by
  unfold PyValue.strs
  rw [PyValue.toJson, toJsonItems_map]
  rfl

theorem renderSection_map {A B : Type} {encode : A → Json} {render : Json → Except PyException B}
    {value : A → B} (h : ∀ a, render (encode a) = .ok (value a)) (l : List A)
    (put : List B → List Element) :
    renderSection (.arr (l.map encode)) render put = .ok (if l = [] then [] else put (l.map value)) := by
  unfold renderSection
  rw [truthy_arr_map]
  cases l with
  | nil => rfl
  | cons a l =>
    show (do
      let rendered ← ((a :: l).map encode).mapM render
      return put rendered) = _
    rw [mapM_map_eq_ok h]
    rfl

/-! ### Members -/

theorem subscript_cons_self (key : String) (value : Json) (members : List (String × Json)) :
    (Json.obj ((key, value) :: members)).subscript key = .ok value := by
  unfold Json.subscript
  dsimp only
  rw [List.lookup_cons_self]

theorem subscript_cons_of_ne {key key' : String} (h : key ≠ key') (value : Json)
    (members : List (String × Json)) :
    (Json.obj ((key', value) :: members)).subscript key = (Json.obj members).subscript key := by
  unfold Json.subscript
  dsimp only
  rw [Dict.lookup_cons_eq_ite, if_neg h]

/-! ### The models -/

theorem renderDiscrepancy_py (d : Discrepancy) :
    renderDiscrepancy text (d.py.toJson py) = .ok (d.report text) := by
  unfold renderDiscrepancy Discrepancy.py Discrepancy.report
  cases hnote : d.note with
  | none =>
    simp [PyValue.toJson, PyValue.toJsonEntries, subscript_cons_self, subscript_cons_of_ne,
      Json.getMember, Dict.lookup_cons_eq_ite, PyValue.optStr, Json.truthy, text.str_str, Except.ok_bind]
  | some note =>
    simp [PyValue.toJson, PyValue.toJsonEntries, subscript_cons_self, subscript_cons_of_ne,
      Json.getMember, Dict.lookup_cons_eq_ite, PyValue.optStr, Json.truthy, text.str_str, Except.ok_bind]

theorem renderRedFlag_str (rf : String) :
    renderRedFlag text (.str rf) = .ok (.write ("- " ++ rf)) := by
  unfold renderRedFlag
  rw [text.str_str]

theorem renderFlag_py (f : CrossReferenceFlag) : renderFlag text (f.py.toJson py) = .ok f.report := by
  unfold renderFlag CrossReferenceFlag.py CrossReferenceFlag.report
  simp [PyValue.toJson, PyValue.toJsonEntries, subscript_cons_self, subscript_cons_of_ne, text.str_str,
    Except.ok_bind]

theorem renderReference_py (r : ReferenceResult) :
    renderReference text (r.py.toJson py) = .ok (r.report text py) := by
  have hdiscrepancies : ∀ put, renderSection (.arr (r.discrepancies.map fun d => d.py.toJson py))
      (renderDiscrepancy text) put =
        .ok (if r.discrepancies = [] then [] else put (r.discrepancies.map (·.report text))) := fun put =>
    renderSection_map (fun d => renderDiscrepancy_py d) r.discrepancies put
  have hredFlags : ∀ put, renderSection (.arr (r.redFlags.map .str)) (renderRedFlag text) put =
      .ok (if r.redFlags = [] then [] else put (r.redFlags.map fun rf => .write ("- " ++ rf))) :=
    fun put => renderSection_map renderRedFlag_str r.redFlags put
  unfold renderReference ReferenceResult.py ReferenceResult.report
  simp [PyValue.toJson, PyValue.toJsonEntries, subscript_cons_self, subscript_cons_of_ne,
    Except.ok_bind, toJsonItems_map, toJson_strs, hdiscrepancies, hredFlags, text.str_str, text.str_bool]

/-- The result of a state that has gone through the whole graph. -/
theorem renderResult_py {s : CandidateState} {flags : List CrossReferenceFlag} {confidence : ℚ}
    {needsReview : Bool} {summary : String} (hflags : s.crossReferenceFlags = some flags)
    (hconfidence : s.overallConfidence = some confidence)
    (hneedsReview : s.overallNeedsReview = some needsReview)
    (hsummary : s.overallSummary = some summary) :
    renderResult text (s.py.toJson py) =
      .ok (report text py s.referenceResults flags confidence needsReview summary) := by
  have hcards : (s.referenceResults.map fun r => r.py.toJson py).mapM (renderReference text) =
      .ok (s.referenceResults.map (·.report text py)) := mapM_map_eq_ok renderReference_py _
  have hflagLines : ∀ put, renderSection (.arr (flags.map fun f => f.py.toJson py)) (renderFlag text) put =
      .ok (if flags = [] then [] else put (flags.map (·.report))) := fun put =>
    renderSection_map renderFlag_py flags put
  unfold renderResult CandidateState.py report
  simp [PyValue.toJson, PyValue.toJsonEntries, PyValue.entry, subscript_cons_self, subscript_cons_of_ne,
    hflags, hconfidence, hneedsReview, hsummary, Except.ok_bind, toJsonItems_map, Json.iterate,
    Json.getMember, Dict.lookup_cons_eq_ite, formatFixed1, hcards, hflagLines, text.str_str, text.str_bool]

/-! ### The responses -/

theorem renderResult_finalState (c : CandidateBatchInput) (env : Env) (llm : CandidateLLM)
    (summary : String) :
    renderResult text ((c.finalState env llm summary).py.toJson py) =
      .ok (report text py (c.results env llm) (crossCheckReferences env.toPyText (c.results env llm))
        (verdict env (c.results env llm)).overallConfidence
        (verdict env (c.results env llm)).overallNeedsReview summary) :=
  renderResult_py rfl rfl rfl rfl

theorem renderStatus_body (text : PageText) (checkId : String) (status : CheckStatus) (result : Option Json)
    (error : Option String) :
    renderStatus text (CheckStatusResponse.body ⟨checkId, status.value, result, error⟩) =
      match status with
      | .queued => .ok [.info "Queued..."]
      | .running => .ok [.info "Running..."]
      | .failed => .ok [.error ("Failed: " ++ text.str (optJson error))]
      | .completed => renderResult text (result.getD .null) := by
  cases status <;> rfl

/-- What the script meets when it reads a member of `None`. -/
def noneSubscripted : PyException := .raised "TypeError" "'NoneType' object is not subscriptable"

end render

end RefCheck
