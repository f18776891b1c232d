import RefCheck.Backends.OutputLines

/-!
# Records that are joined by line feeds

A file that consists of serialised records, one to a line, is read back record for record exactly if no
text has one of the line separators that JSON allows in a string (`framing_kept_iff`).
-/

namespace RefCheck.Bedrock

/-- A result record as one JSON text without a line feed or carriage return, which `json.loads` reads
back. -/
structure SerialisedRecord (service : Service) where
  text : String
  record : OutputRecord
  isJson : JsonText.IsJsonText text.toList
  no_feed : '\n' ∉ text.toList
  no_return : '\r' ∉ text.toList
  loads : service.jsonLoads text = .ok (.obj record.members)
  readable : ∀ tool, RecordReadable tool record.members

/-- The body of a file of the records. -/
def fileBody {service : Service} (records : List (SerialisedRecord service)) : String :=
  "\n".intercalate (records.map (·.text))

section framing

variable {M : Type} {py : PyText} {cls : ModelClasses M} {service : Service}
  {items : Dict String (RequestItem M)}

theorem SerialisedRecord.strip_ne (r : SerialisedRecord service) : Text.strip r.text ≠ "" := by
  obtain ⟨c, hc, hspace⟩ := JsonText.Derives.exists_visible r.isJson
  exact Text.strip_ne_empty hc hspace

theorem SerialisedRecord.lineReadable (r : SerialisedRecord service) :
    LineReadable py cls service items r.text :=
  .of_record r.loads r.readable

theorem splitlines_fileBody {records : List (SerialisedRecord service)}
    (h : ∀ r ∈ records, ∀ c ∈ r.text.toList, Text.isLineBreak c = false) :
    Text.splitlines (fileBody records) = records.map (·.text) := by
  refine Text.splitlines_intercalate ?_ ?_
  · simp only [List.forall_mem_map]
    rintro r - hempty
    exact r.strip_ne (by rw [hempty]; rfl)
  · simpa only [List.forall_mem_map] using h

/-- Records on lines of their own are read without a raise, and the last one of an item is its result. -/
theorem exists_readLines {records : List (SerialisedRecord service)}
    (h : ∀ r ∈ records, ∀ c ∈ r.text.toList, Text.isLineBreak c = false)
    (results : Dict String (ItemResult cls)) :
    ∃ results', (Text.splitlines (fileBody records)).foldlM (readLine py service items
        (Dict.ofPairs (items.keys.map fun id => (sanitizeRecordId id, id)))) results = .ok results' ∧
      ∀ before r after id, records = before ++ r :: after →
        customIdOf items r.record.recordId = some id →
        (∀ r' ∈ after, customIdOf items r'.record.recordId ≠ some id) →
        ∃ item result, items.get? id = some item ∧
          parseRecord py service r.record.members item id = .ok result ∧
          results'.get? id = some result := by
  obtain ⟨os, hos⟩ : ∃ os, (records.map (·.text)).mapM (lineResult py cls service items) = .ok os := by
    rw [Loop.exists_mapM_eq_ok_iff, List.forall_mem_map]
    exact fun r _ => (lineResult_eq_ok_iff r.strip_ne).mpr r.lineReadable
  refine ⟨os.foldl putResult results, ?_, ?_⟩
  · rw [splitlines_fileBody h, Loop.foldlM_eq_map_mapM readLine_eq, hos]
    rfl
  · rintro before r after id rfl hid hlast
    obtain ⟨item, hitem⟩ := get?_of_customIdOf hid
    obtain ⟨result, hresult⟩ : ∃ result : ItemResult cls,
        parseRecord py service r.record.members item id = .ok result :=
      parseRecord_eq_ok_iff.mpr (r.readable _)
    refine ⟨item, result, hitem, hresult, ?_⟩
    have hafter : (after.map (·.text)).filterMap (usableResult py cls service items id) = [] := by
      rw [List.filterMap_eq_nil_iff, List.forall_mem_map]
      intro r' hr'
      rw [Option.eq_none_iff_forall_ne_some]
      intro result' hsome
      exact hlast r' hr' ((usableResult_record_iff r'.strip_ne r'.loads).mp hsome).1
    have hown := (usableResult_record_iff r.strip_ne r.loads).mpr ⟨hid, item, hitem, hresult⟩
    rw [get?_foldl_putResult, ← filterMap_usableResult (Loop.mapM_eq_ok_iff.mp hos),
      List.map_append, List.map_cons, List.filterMap_append, List.filterMap_cons_some hown, hafter,
      List.getLast?_append_cons]
    rfl

/-- **Joined records are read back record for record exactly if no text has a separator at which
`str.splitlines` ends a line and JSON does not.** -/
theorem framing_kept_iff (py : PyText) (cls : ModelClasses M) (items : Dict String (RequestItem M))
    (records : List (SerialisedRecord service)) :
    (bodyLines (fileBody records) = records.map (·.text) ∧
      ∀ results : Dict String (ItemResult cls), ∃ results',
        (Text.splitlines (fileBody records)).foldlM (readLine py service items
            (Dict.ofPairs (items.keys.map fun id => (sanitizeRecordId id, id)))) results =
          .ok results' ∧
        ∀ before r after id, records = before ++ r :: after →
          customIdOf items r.record.recordId = some id →
          (∀ r' ∈ after, customIdOf items r'.record.recordId ≠ some id) →
          ∃ item result, items.get? id = some item ∧
            parseRecord py service r.record.members item id = .ok result ∧
            results'.get? id = some result) ↔
      ∀ r ∈ records, '\u0085' ∉ r.text.toList ∧ '\u2028' ∉ r.text.toList ∧
        '\u2029' ∉ r.text.toList := by
  have hbreaks : (∀ r ∈ records, '\u0085' ∉ r.text.toList ∧ '\u2028' ∉ r.text.toList ∧
      '\u2029' ∉ r.text.toList) ↔
        ∀ r ∈ records, ∀ c ∈ r.text.toList, Text.isLineBreak c = false :=
    forall₂_congr fun r _ => (JsonText.IsJsonText.isLineBreak_iff r.isJson r.no_feed r.no_return).symm
  rw [hbreaks]
  constructor
  · rintro ⟨hlines, -⟩ r hr
    have hmem : r.text ∈ bodyLines (fileBody records) := by
      rw [hlines]
      exact List.mem_map.mpr ⟨r, hr, rfl⟩
    exact Text.isLineBreak_of_mem_splitlines (List.mem_of_mem_filter hmem)
  · intro h
    refine ⟨?_, exists_readLines h⟩
    rw [bodyLines, splitlines_fileBody h, List.filter_eq_self]
    simp only [List.forall_mem_map, decide_eq_true_eq]
    exact fun r _ => r.strip_ne

end framing

/-! ### A line separator in a string -/

/-- A record whose text holds a line separator. -/
def separatorRecord : OutputRecord where
  recordId := "c0_r0_summary"
  members := [("recordId", .str "c0_r0_summary"), ("modelOutput", .obj [("content", .arr
    [.obj [("type", .str "text"), ("text", .str "So:\u2028Fine.")]])])]
  recordId_eq := rfl

def separatorText : String :=
  "\x7b\"recordId\":\"c0_r0_summary\",\"modelOutput\":\x7b\"content\":[" ++
    "\x7b\"type\":\"text\",\"text\":\"So:\u2028Fine.\"\x7d]\x7d\x7d"

theorem isJsonText_separatorText : JsonText.IsJsonText separatorText.toList := by
  have hws : JsonText.Ws [] := by simp [JsonText.Ws]
  have hchars : ∀ s ∈ ["recordId", "c0_r0_summary", "modelOutput", "content", "type", "text",
      "So:\u2028Fine."], JsonText.Chars s.toList := by
    intro s hs
    refine JsonText.chars_of_all ?_
    have hall : ["recordId", "c0_r0_summary", "modelOutput", "content", "type", "text",
        "So:\u2028Fine."].all fun s =>
          s.toList.all fun c => 0x20 ≤ c.toNat && c ≠ '"' && c ≠ '\\' := by decide +kernel
    exact List.all_eq_true.mp hall s hs
  have hblock := JsonText.Derives.members hws (hchars "type" (by simp)) hws
    (JsonText.Derives.string (hchars "text" (by simp))).unpadded
    (.member hws (hchars "text" (by simp)) hws
      (JsonText.Derives.string (hchars "So:\u2028Fine." (by simp))).unpadded)
  have houtput := JsonText.Derives.member hws (hchars "content" (by simp)) hws
    (JsonText.Derives.array (.element (JsonText.Derives.object hblock).unpadded)).unpadded
  have hrecord := JsonText.Derives.object (.members hws (hchars "recordId" (by simp)) hws
    (JsonText.Derives.string (hchars "c0_r0_summary" (by simp))).unpadded
    (.member hws (hchars "modelOutput" (by simp)) hws (JsonText.Derives.object houtput).unpadded))
  have htext : JsonText.IsJsonText _ := hrecord.unpadded
  refine (congrArg JsonText.IsJsonText ?_).mpr htext
  decide +kernel

theorem readable_separatorRecord (tool : String) :
    RecordReadable tool separatorRecord.members := by
  intro modelOutput h
  obtain rfl := Option.some.inj h
  refine ⟨_, _, rfl, rfl, .other _ _ ?_ .nil⟩
  rintro ⟨htype, -⟩
  exact absurd htype (by decide)

/-- `json.loads` of the record, and of the first part of the line that the separator breaks. -/
def separatorLoads (line : String) : Except PyException Json :=
  if line = separatorText then .ok (.obj separatorRecord.members)
  else .error (.raised "JSONDecodeError" "Unterminated string starting at: line 1 column 77 (char 76)")

theorem separatorLoads_separatorText :
    separatorLoads separatorText = .ok (.obj separatorRecord.members) := if_pos rfl

def separatorService : Service := fileService separatorLoads separatorText

/-- The record as it is serialised. -/
def separatorSerialised : SerialisedRecord separatorService where
  text := separatorText
  record := separatorRecord
  isJson := isJsonText_separatorText
  no_feed := by decide +kernel
  no_return := by decide +kernel
  loads := separatorLoads_separatorText
  readable := readable_separatorRecord

/-- The two parts of the line that the separator breaks. -/
def separatorParts : List String :=
  ["\x7b\"recordId\":\"c0_r0_summary\",\"modelOutput\":\x7b\"content\":[" ++
    "\x7b\"type\":\"text\",\"text\":\"So:", "Fine.\"\x7d]\x7d\x7d"]

/-- The separator breaks the record in two, the first part is no JSON, and the job is lost. -/
theorem separator_breaks_record :
    fileBody [separatorSerialised] = separatorText ∧
    Text.splitlines separatorText = separatorParts ∧
    HoldsFiles separatorService "job-1" [.ok separatorText] ∧
    (fetchSingleJobResults .plain separatorService "job-1" summaryItems :
        Except PyException (Dict String (ItemResult summaryClasses))) =
      .error (.raised "JSONDecodeError"
        "Unterminated string starting at: line 1 column 77 (char 76)") := by
  have hlines : Text.splitlines separatorText = separatorParts := by decide +kernel
  refine ⟨String.intercalate_singleton, hlines, holdsFiles_fileService _ _, ?_⟩
  have hne : ("\x7b\"recordId\":\"c0_r0_summary\",\"modelOutput\":\x7b\"content\":[" ++
      "\x7b\"type\":\"text\",\"text\":\"So:" : String) ≠ separatorText := by decide +kernel
  exact fetch_of_bad_line hlines (by decide +kernel) (if_neg hne)

end RefCheck.Bedrock
