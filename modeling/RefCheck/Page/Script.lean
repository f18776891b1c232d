import RefCheck.Page.Entries

/-!
# The script of the page

`streamlit_app.py` runs from top to bottom each time a widget changes, with the session that it left
behind. A `Piece` is what a stretch of it does: to the session, on the page, and whether the script goes
on. The script is three parts here, between which the rest of the world may take steps: the forms, the
submission with its `POST`, and the result with its `GET`. `st.rerun()` ends a run and starts another one,
in which no button is pressed. Titles, dividers and columns are left out, and of a result that lacks a
member all but its first line.
-/

namespace RefCheck

/-! ### Reading a response -/

namespace Json

/-- `value[key]`. -/
def subscript (key : String) : Json → Except PyException Json
  | obj members =>
    match members.lookup key with
    | some value => .ok value
    | none => .error (.keyError ("'" ++ key ++ "'"))
  | null => .error (.raised "TypeError" "'NoneType' object is not subscriptable")
  | bool _ => .error (.raised "TypeError" "'bool' object is not subscriptable")
  | num _ => .error (.raised "TypeError" "'float' object is not subscriptable")
  | str _ => .error (.raised "TypeError" "string indices must be integers, not 'str'")
  | arr _ => .error (.raised "TypeError" "list indices must be integers or slices, not str")

/-- `value.get(key)`. -/
def getMember (key : String) : Json → Except PyException Json
  | obj members => .ok ((members.lookup key).getD null)
  | _ => .error (.raised "AttributeError" "object has no attribute 'get'")

/-- `for item in value`. -/
def iterate : Json → Except PyException (List Json)
  | arr items => .ok items
  | obj members => .ok (members.map fun m => str m.1)
  | str value => .ok (value.toList.map fun c => str (String.singleton c))
  | _ => .error (.raised "TypeError" "object is not iterable")

/-- `if value`; a number is true when its mantissa has a digit other than zero. -/
def truthy : Json → Bool
  | null => false
  | bool value => value
  | num literal => (literal.toList.takeWhile (· ∉ ['e', 'E'])).any (· ∈ "123456789".toList)
  | str value => value ≠ ""
  | arr items => !items.isEmpty
  | obj members => !members.isEmpty

end Json

/-- How Python shows the values that it has loaded. -/
structure PageText where
  /-- `str(value)`. -/
  str : Json → String
  /-- `repr(value)`. -/
  repr : Json → String
  /-- `f"{value:.1f}"`, of the value of a literal. -/
  fixed1 : String → String
  str_null : str .null = "None"
  str_str : ∀ text, str (.str text) = text
  str_bool : ∀ b, str (.bool b) = pyBool b

/-- What the script puts on the page. -/
inductive Element where
  | error (text : String)
  | info (text : String)
  | success (text : String)
  | metric (label value : String)
  | write (text : String)
  | caption (text : String)
  | markdown (text : String)
  | expander (title : String) (body : List Element)

section render

variable (text : PageText)

/-- `f"{value:.1f}"`. -/
def formatFixed1 : Json → Except PyException String
  | .num literal => .ok (text.fixed1 literal)
  | .bool value => .ok (text.fixed1 (if value then "1" else "0"))
  | .str _ => .error (.valueError "Unknown format code 'f' for object of type 'str'")
  | _ => .error (.raised "TypeError" "unsupported format string")

def renderDiscrepancy (d : Json) : Except PyException (List Element) := do
  let severity ← d.subscript "severity"
  let field ← d.subscript "field"
  let claimed ← d.subscript "claimed_value"
  let statedValue ← d.subscript "stated_value"
  let note ← d.getMember "note"
  return .write ("- [" ++ text.str severity ++ "] " ++ text.str field ++ ": claimed=" ++
      text.repr claimed ++ " vs stated=" ++ text.repr statedValue) ::
    if note.truthy then [.caption (text.str note)] else []

def renderRedFlag (rf : Json) : Except PyException Element := .ok (.write ("- " ++ text.str rf))

/-- What is put for a list, if there is anything in it. -/
def renderSection {A : Type} (list : Json) (render : Json → Except PyException A)
    (put : List A → List Element) : Except PyException (List Element) :=
  if list.truthy then do
    let items ← list.iterate
    let rendered ← items.mapM render
    return put rendered
  else .ok []

/-- One expander of the result. -/
def renderReference (r : Json) : Except PyException Element := do
  let name ← r.subscript "reference_name"
  let relationship ← r.subscript "relationship"
  let confidence ← r.subscript "confidence_score"
  let sentiment ← r.subscript "sentiment"
  let needsReview ← r.subscript "needs_human_review"
  let discrepancies ← r.subscript "discrepancies"
  let discrepancyLines ← renderSection discrepancies (renderDiscrepancy text) fun rendered =>
    .write "**Discrepancies:**" :: rendered.flatten
  let redFlags ← r.subscript "red_flags"
  let redFlagLines ← renderSection redFlags (renderRedFlag text) fun rendered =>
    .write "**Red flags:**" :: rendered
  let summary ← r.subscript "reference_summary"
  return .expander (text.str name ++ " (" ++ text.str relationship ++ ") — confidence " ++
      text.str confidence)
    ([.write ("Sentiment: " ++ text.str sentiment), .write ("Needs review: " ++ text.str needsReview)] ++
      discrepancyLines ++ redFlagLines ++
      [.write "**Reference summary:**", .write (text.str summary)])

def renderFlag (f : Json) : Except PyException Element := do
  let severity ← f.subscript "severity"
  let field ← f.subscript "field"
  let description ← f.subscript "description"
  return .write ("- [" ++ text.str severity ++ "] " ++ text.str field ++ ": " ++ text.str description)

/-- The result of a completed check. -/
def renderResult (result : Json) : Except PyException (List Element) := do
  let confidence ← formatFixed1 text (← result.subscript "overall_confidence")
  let needsReview ← result.subscript "overall_needs_review"
  let results ← (← result.subscript "reference_results").iterate
  let cards ← results.mapM (renderReference text)
  let flags ← result.getMember "cross_reference_flags"
  let flagLines ← renderSection flags (renderFlag text) fun rendered =>
    .markdown "**Cross-reference flags** (references disagreeing with each other):" :: rendered
  let summary ← result.subscript "overall_summary"
  return [.success "Completed", .metric "Overall confidence" (confidence ++ "/100"),
      .metric "Needs human review" (text.str needsReview)] ++ cards ++ flagLines ++
    [.markdown "**Overall summary:**", .write (text.str summary)]

/-- What is shown of the body of a status response. -/
def renderStatus (data : Json) : Except PyException (List Element) := do
  match ← data.subscript "status" with
  | .str "queued" => return [.info "Queued..."]
  | .str "running" => return [.info "Running..."]
  | .str "failed" => return [.error ("Failed: " ++ text.str (← data.getMember "error"))]
  | .str "completed" => renderResult text (← data.subscript "result")
  | _ => return []

/-- What is put of a completed check before the first member of its result is read. -/
def begunResult (data : Json) : List Element :=
  match data.subscript "status", data.subscript "result" with
  | .ok (.str "completed"), .ok _ => [.success "Completed"]
  | _, _ => []

/-- Whether the script is asked to look again. -/
def isPending (data : Json) : Bool :=
  match data.get? "status" with
  | some (.str "queued") => true
  | some (.str "running") => true
  | _ => false

end render

/-! ### Pieces of the script -/

/-- `st.session_state`. -/
structure Session where
  references : List Json := []
  candidate : Option (List (String × Json)) := none
  checkId : Json := .null

/-- The candidate, if one is saved: `None` and an empty dictionary are false. -/
def Session.saved? (session : Session) : Option (List (String × Json)) :=
  session.candidate.filter fun candidate => !candidate.isEmpty

inductive Button where
  | saveCandidate
  | addReference
  | remove (i : ℕ)
  | submit
  | refresh
  | newCheck
  deriving DecidableEq

/-- The widgets as a run of the script finds them. -/
structure Widgets where
  candidate : CandidateForm
  reference : ReferenceForm
  callbackUrl : String
  autoRefresh : Bool
  pressed : Option Button

/-- A press is seen by one run of the script. -/
def Widgets.released (w : Widgets) : Widgets := { w with pressed := none }

/-- How a piece of the script ends. -/
inductive Ending where
  | proceeds
  /-- `st.rerun()`. -/
  | reruns
  | raises (e : PyException)
  deriving DecidableEq

/-- What a piece of the script does. -/
structure Piece where
  session : Session
  elements : List Element := []
  ending : Ending := .proceeds

/-- The next piece is reached if the first one proceeds. -/
def Piece.andThen (piece : Piece) (next : Session → Piece) : Piece :=
  match piece.ending with
  | .proceeds => { next piece.session with elements := piece.elements ++ (next piece.session).elements }
  | _ => piece

section pieces

variable (text : PageText) (w : Widgets)

/-! ### The forms -/

def saveCandidate (session : Session) : Piece :=
  if w.pressed = some .saveCandidate then
    if w.candidate.Complete then
      { session := { session with candidate := some w.candidate.entry }, elements := [.success "Saved."] }
    else
      { session, elements :=
          [.error "Candidate name, role, job title, company, and start date are required."] }
  else { session }

def showCandidate (session : Session) : Piece :=
  match session.saved? with
  | none => { session }
  | some candidate =>
    match (Json.obj candidate).subscript "candidate_name" with
    | .ok name => { session, elements := [.info ("Candidate ready: " ++ text.str name)] }
    | .error e => { session, ending := .raises e }

def addReference (session : Session) : Piece :=
  if w.pressed = some .addReference then
    if ¬(w.reference.referenceName ≠ "" ∧ w.reference.relationship ≠ "") then
      { session, elements := [.error "Reference name and relationship are required."] }
    else if w.reference.type = .REF1 ∧ ¬w.reference.TranscriptOk then
      { session, elements := [.error "Transcript/email text is required (at least 10 characters)."] }
    else
      { session := { session with references := session.references ++ [w.reference.entry] }
        elements :=
          [.success ("Added: " ++ w.reference.referenceName ++ " (" ++ w.reference.type.text ++ ")")] }
  else { session }

def referenceLine (ref : Json) : Except PyException Element := do
  let name ← ref.subscript "reference_name"
  let relationship ← ref.subscript "relationship"
  let type ← ref.subscript "type"
  return .write ("- " ++ text.str name ++ " (" ++ text.str relationship ++ ") — " ++ text.str type)

/-- The references from the index `i` on, each with its button: the lines, and what ends the loop. The
reference of a button that is pressed is removed by its index. -/
def referenceLines : ℕ → List Json → Session → Piece
  | _, [], session => { session }
  | i, ref :: refs, session =>
    match referenceLine text ref with
    | .error e => { session, ending := .raises e }
    | .ok line =>
      if w.pressed = some (.remove i) then
        { session := { session with references := session.references.eraseIdx i }
          elements := [line], ending := .reruns }
      else
        Piece.andThen { session, elements := [line] } (referenceLines (i + 1) refs)

def listReferences (session : Session) : Piece :=
  if session.references = [] then { session }
  else
    Piece.andThen
      { session, elements :=
          [.markdown ("**" ++ toString session.references.length ++ " reference(s) added:**")] }
      (referenceLines text w 0 session.references)

/-- The script up to the submission. -/
def forms (session : Session) : Piece :=
  (((saveCandidate w session).andThen (showCandidate text)).andThen (addReference w)).andThen
    (listReferences text w)

/-! ### The submission -/

/-- What the button for the submission does. -/
inductive Submission where
  | notPressed
  | refused (message : String)
  | post (payload : Json)

def submission (session : Session) : Submission :=
  if w.pressed = some .submit then
    match session.saved? with
    | none => .refused "Save candidate details first."
    | some candidate =>
      if session.references = [] then .refused "Add at least one reference first."
      else .post (checkPayload candidate session.references w.callbackUrl)
  else .notPressed

/-- The end of the submission, given the JSON of its response or the text of an exception. -/
def acknowledge (response : Except String Json) (session : Session) : Piece :=
  match response with
  | .error e => { session, elements := [.error ("Submission failed: " ++ e)] }
  | .ok body =>
    match body.subscript "check_id" with
    | .error e => { session, elements := [.error ("Submission failed: " ++ e.str)] }
    | .ok checkId =>
      { session := { session with checkId }
        elements := [.success ("Submitted. check_id = " ++ text.str checkId)] }

/-! ### The result -/

/-- What the page says about its check. -/
def heading (session : Session) : Element :=
  .write ("check_id: `" ++ text.str session.checkId ++ "`")

/-- What is done with a response. The script is run again, after a while, if it is to look again. -/
def showStatus (data : Json) (session : Session) : Piece :=
  if data.truthy then
    match renderStatus text data with
    | .error e =>
      { session, elements := heading text session :: begunResult data, ending := .raises e }
    | .ok elements =>
      { session, elements := heading text session :: elements
        ending :=
          if isPending data ∧ (w.autoRefresh ∨ w.pressed = some .refresh) then .reruns else .proceeds }
  else { session, elements := [heading text session] }

/-- The part with the result of a check, given the JSON of the response or the text of an exception. -/
def showResult (response : Except String Json) (session : Session) : Piece :=
  match response with
  | .error e => { session, elements := [heading text session, .error ("Could not fetch status: " ++ e)] }
  | .ok data => showStatus text w data session

/-- The end of the script. -/
def startNew (session : Session) : Piece :=
  if w.pressed = some .newCheck then { session := {}, ending := .reruns } else { session }

end pieces

end RefCheck
