import Mathlib.Data.List.DropRight
import Mathlib.Data.List.TakeWhile
import RefCheck.Lib.Loop

/-!
# Splitting a URL

`urlparse` of `urllib.parse`: what is at most a space in front, every tab and every line break are
dropped; then the scheme, the location, the fragment, the query and the parameters are cut off, and the
path is what remains. What the checks of a location ask `ipaddress` and `unicodedata` is a parameter.
`urlparse_of_plain` gives the parts of a URL without such characters, `urlparse_netloc` and
`urlparse_path` say which characters no location and no path has.
-/

namespace RefCheck.Url

/-- What is asked about a location. -/
structure HostChecks where
  /-- Why a location with brackets is refused. -/
  bracketsError : String → Option String
  /-- `unicodedata.normalize("NFKC", ·)`. -/
  nfkc : String → String

structure ParseResult where
  scheme : String
  netloc : String
  path : String
  params : String
  query : String
  fragment : String
  deriving DecidableEq, Repr

/-- The characters that are dropped wherever they stand. -/
def isUnsafe (c : Char) : Bool := c = '\t' || c = '\r' || c = '\n'

def isSchemeChar (c : Char) : Bool := c.isAlphanum || c = '+' || c = '-' || c = '.'

/-- The characters that end a location. -/
def endsNetloc (c : Char) : Bool := c = '/' || c = '?' || c = '#'

/-- The schemes whose paths may have parameters. -/
def usesParams : List String :=
  ["", "ftp", "hdl", "prospero", "http", "https", "shttp", "rtsp", "rtspu", "sip", "sips", "mms",
    "sftp", "tel"]

/-- The text before the first separator and the one after it. -/
def cut (sep : Char) (url : List Char) : List Char × List Char :=
  (url.takeWhile (· ≠ sep), (url.dropWhile (· ≠ sep)).tail)

/-- The scheme and what follows its colon. -/
def splitScheme (url : List Char) : List Char × List Char :=
  let parts := cut ':' url
  if ':' ∈ url ∧ parts.1.head?.any Char.isAlpha ∧ parts.1.all isSchemeChar then
    (parts.1.map Char.toLower, parts.2)
  else ([], url)

/-- The location and what follows it. -/
def splitNetloc : List Char → List Char × List Char
  | '/' :: '/' :: url => (url.takeWhile (!endsNetloc ·), url.dropWhile (!endsNetloc ·))
  | url => ([], url)

/-- The path and the parameters of its last segment. -/
def splitParams (path : List Char) : List Char × List Char :=
  let parts := cut ';' (path.rtakeWhile (· ≠ '/'))
  (path.rdropWhile (· ≠ '/') ++ parts.1, parts.2)

/-- The check of the brackets of a location. -/
def checkBrackets (checks : HostChecks) (netloc : List Char) : Except String Unit :=
  if '[' ∈ netloc ∧ ']' ∈ netloc then
    match checks.bracketsError (String.ofList netloc) with
    | some error => .error error
    | none => .ok ()
  else if '[' ∈ netloc ∨ ']' ∈ netloc then .error "Invalid IPv6 URL"
  else .ok ()

/-- `_checknetloc`: no character may turn into one that ends a part of the location. -/
def checkNfkc (checks : HostChecks) (netloc : List Char) : Except String Unit :=
  if netloc.all (·.toNat < 128) then .ok () else
    let plain := String.ofList (netloc.filter (· ∉ ['@', ':', '#', '?']))
    let normal := checks.nfkc plain
    if plain ≠ normal ∧ normal.toList.any (· ∈ ['/', '?', '#', '@', ':']) then
      .error ("netloc '" ++ String.ofList netloc
        ++ "' contains invalid characters under NFKC normalization")
    else .ok ()

/-- `urlparse`. -/
def urlparse (checks : HostChecks) (url : String) : Except String ParseResult := do
  let cleaned := (url.toList.dropWhile (·.toNat ≤ 0x20)).filter (!isUnsafe ·)
  let scheme := splitScheme cleaned
  let netloc := splitNetloc scheme.2
  checkBrackets checks netloc.1
  let fragment := cut '#' netloc.2
  let query := cut '?' fragment.1
  checkNfkc checks netloc.1
  let path :=
    if String.ofList scheme.1 ∈ usesParams ∧ ';' ∈ query.1 then splitParams query.1 else (query.1, [])
  return {
    scheme := String.ofList scheme.1
    netloc := String.ofList netloc.1
    path := String.ofList path.1
    params := String.ofList path.2
    query := String.ofList query.2
    fragment := String.ofList fragment.2 }

/-- The location passes the checks. -/
def Accepts (checks : HostChecks) (netloc : String) : Prop :=
  checkBrackets checks netloc.toList = .ok () ∧ checkNfkc checks netloc.toList = .ok ()

instance (checks : HostChecks) (netloc : String) : Decidable (Accepts checks netloc) :=
  inferInstanceAs (Decidable (_ ∧ _))

theorem accepts_of_ascii (checks : HostChecks) {netloc : String}
    (hascii : ∀ c ∈ netloc.toList, c.toNat < 128) (hopen : '[' ∉ netloc.toList)
    (hclose : ']' ∉ netloc.toList) : Accepts checks netloc := by
  constructor
  · unfold checkBrackets
    rw [if_neg fun h => hopen h.1, if_neg fun h => h.elim hopen hclose]
  · unfold checkNfkc
    rw [if_pos]
    simpa using hascii

/-- The text has none of the characters that a URL ends a part at or drops. -/
def Plain (text : String) : Prop :=
  ∀ c ∈ text.toList, isUnsafe c = false ∧ c ≠ '?' ∧ c ≠ '#'

instance (text : String) : Decidable (Plain text) :=
  decidable_of_iff (text.toList.all fun c => !isUnsafe c && c ≠ '?' && c ≠ '#')
    (by simp [Plain, and_assoc])

/-! ### Cutting -/

theorem cut_append {sep : Char} {a : List Char} (ha : sep ∉ a) (b : List Char) :
    cut sep (a ++ sep :: b) = (a, b) := by
  have hne : ∀ c ∈ a, decide (c ≠ sep) = true := by
    rintro c hc
    rw [decide_eq_true_eq]
    rintro rfl
    exact ha hc
  unfold cut
  rw [List.takeWhile_append_of_pos hne, List.dropWhile_append_of_pos hne,
    List.takeWhile_cons_of_neg (by simp), List.dropWhile_cons_of_neg (by simp), List.append_nil]
  rfl

theorem cut_of_not_mem {sep : Char} {a : List Char} (ha : sep ∉ a) : cut sep a = (a, []) := by
  have hne : ∀ c ∈ a, decide (c ≠ sep) = true := by
    rintro c hc
    rw [decide_eq_true_eq]
    rintro rfl
    exact ha hc
  unfold cut
  rw [List.takeWhile_eq_self_iff.mpr hne, List.dropWhile_eq_nil_iff.mpr hne]
  rfl

theorem of_mem_cut {sep c : Char} {url : List Char} (h : c ∈ (cut sep url).1) :
    c ∈ url ∧ c ≠ sep := by
  unfold cut at h
  exact ⟨(List.takeWhile_prefix _).subset h, by simpa using List.mem_takeWhile_imp h⟩

theorem mem_of_mem_cut_right {sep c : Char} {url : List Char} (h : c ∈ (cut sep url).2) : c ∈ url :=
  (List.dropWhile_suffix _).subset (List.mem_of_mem_tail h)

theorem mem_of_mem_splitScheme {c : Char} {url : List Char} (h : c ∈ (splitScheme url).2) :
    c ∈ url := by
  unfold splitScheme at h
  dsimp only at h
  split at h
  · exact mem_of_mem_cut_right h
  · exact h

theorem of_mem_splitNetloc {c : Char} {url : List Char} (h : c ∈ (splitNetloc url).1) :
    c ∈ url ∧ endsNetloc c = false := by
  unfold splitNetloc at h
  split at h
  · exact ⟨List.mem_cons_of_mem _ (List.mem_cons_of_mem _ ((List.takeWhile_prefix _).subset h)),
      by simpa using List.mem_takeWhile_imp h⟩
  · cases h

theorem mem_of_mem_splitNetloc_right {c : Char} {url : List Char} (h : c ∈ (splitNetloc url).2) :
    c ∈ url := by
  unfold splitNetloc at h
  split at h
  · exact List.mem_cons_of_mem _ (List.mem_cons_of_mem _ ((List.dropWhile_suffix _).subset h))
  · exact h

theorem mem_of_mem_splitParams {c : Char} {path : List Char} (h : c ∈ (splitParams path).1) :
    c ∈ path := by
  unfold splitParams at h
  rcases List.mem_append.mp h with hdir | hlast
  · exact (List.rdropWhile_prefix _ _).subset hdir
  · exact (List.rtakeWhile_suffix _ _).subset (of_mem_cut hlast).1

/-! ### The parts of a URL -/

section parts

variable {checks : HostChecks}

/-- No location has a character that ends one, no path one that ends it, and the location passed. -/
theorem urlparse_eq_ok {url : String} {parsed : ParseResult} (h : urlparse checks url = .ok parsed) :
    Plain parsed.netloc ∧ Accepts checks parsed.netloc ∧ Plain parsed.path := by
  unfold urlparse at h
  obtain ⟨⟨⟩, hbrackets, h⟩ := Except.bind_eq_ok.mp h
  obtain ⟨⟨⟩, hnfkc, h⟩ := Except.bind_eq_ok.mp h
  obtain rfl := Except.pure_eq_ok.mp h
  have hsafe : ∀ c ∈ (url.toList.dropWhile (·.toNat ≤ 0x20)).filter (!isUnsafe ·),
      isUnsafe c = false := fun c hc => by simpa using (List.mem_filter.mp hc).2
  refine ⟨fun c hc => ?_, ⟨?_, ?_⟩, fun c hc => ?_⟩
  · rw [String.toList_ofList] at hc
    obtain ⟨hmem, hends⟩ := of_mem_splitNetloc hc
    refine ⟨hsafe c (mem_of_mem_splitScheme hmem), ?_, ?_⟩
    · rintro rfl
      cases hends
    · rintro rfl
      cases hends
  · rw [String.toList_ofList]
    exact hbrackets
  · rw [String.toList_ofList]
    exact hnfkc
  · rw [String.toList_ofList] at hc
    have hquery := hc
    split_ifs at hquery with hparams
    · replace hquery := mem_of_mem_splitParams hquery
      obtain ⟨hfragment, hnequery⟩ := of_mem_cut hquery
      obtain ⟨hmem, hnefragment⟩ := of_mem_cut hfragment
      exact ⟨hsafe c (mem_of_mem_splitScheme (mem_of_mem_splitNetloc_right hmem)), hnequery,
        hnefragment⟩
    · obtain ⟨hfragment, hnequery⟩ := of_mem_cut hquery
      obtain ⟨hmem, hnefragment⟩ := of_mem_cut hfragment
      exact ⟨hsafe c (mem_of_mem_splitScheme (mem_of_mem_splitNetloc_right hmem)), hnequery,
        hnefragment⟩

/-- A scheme as `urlparse` returns it. -/
structure IsScheme (scheme : List Char) : Prop where
  alpha : scheme.head?.any Char.isAlpha = true
  chars : scheme.all isSchemeChar = true
  lower : scheme.map Char.toLower = scheme

theorem IsScheme.splitScheme_append {scheme : List Char} (h : IsScheme scheme) (url : List Char) :
    splitScheme (scheme ++ ':' :: url) = (scheme, url) := by
  have hcolon : ':' ∉ scheme := by
    intro hmem
    have hchar := List.all_eq_true.mp h.chars _ hmem
    cases hchar
  unfold splitScheme
  rw [cut_append hcolon, if_pos ⟨List.mem_append_right _ List.mem_cons_self, h.alpha, h.chars⟩,
    h.lower]

theorem splitNetloc_append {netloc : List Char} (h : ∀ c ∈ netloc, endsNetloc c = false)
    (path : List Char) : splitNetloc ('/' :: '/' :: (netloc ++ '/' :: path)) = (netloc, '/' :: path) := by
  have hpos : ∀ c ∈ netloc, (!endsNetloc c) = true := fun c hc => by rw [h c hc]; rfl
  rw [splitNetloc, List.takeWhile_append_of_pos hpos, List.dropWhile_append_of_pos hpos,
    List.takeWhile_cons_of_neg (by decide), List.dropWhile_cons_of_neg (by decide), List.append_nil]

theorem IsScheme.cleaned {scheme url : List Char} (h : IsScheme scheme)
    (hsafe : ∀ c ∈ scheme ++ url, isUnsafe c = false) :
    ((scheme ++ url).dropWhile (·.toNat ≤ 0x20)).filter (!isUnsafe ·) = scheme ++ url := by
  have hdrop : (scheme ++ url).dropWhile (·.toNat ≤ 0x20) = scheme ++ url := by
    cases scheme with
    | nil => cases h.alpha
    | cons c scheme =>
      have hletter : c.isAlpha = true := h.alpha
      have hnone : ∀ n ≤ 0x20, (Char.ofNat n).isAlpha = false := by decide
      have hgt : ¬ c.toNat ≤ 0x20 := by
        intro hle
        rw [← Char.ofNat_toNat c, hnone c.toNat hle] at hletter
        cases hletter
      rw [List.cons_append, List.dropWhile_cons_of_neg (by simpa using hgt)]
  rw [hdrop, List.filter_eq_self]
  intro c hc
  rw [hsafe c hc]
  rfl

theorem isUnsafe_of_isSchemeChar {c : Char} (h : isSchemeChar c = true) : isUnsafe c = false := by
  by_contra hunsafe
  rw [Bool.not_eq_false] at hunsafe
  simp only [isUnsafe, Bool.or_eq_true, decide_eq_true_eq] at hunsafe
  rcases hunsafe with (rfl | rfl) | rfl <;> cases h

theorem Plain.endsNetloc_eq_false {netloc : String} (h : Plain netloc) (hslash : '/' ∉ netloc.toList) :
    ∀ c ∈ netloc.toList, endsNetloc c = false := by
  intro c hc
  have hne : c ≠ '/' := by
    rintro rfl
    exact hslash hc
  obtain ⟨-, hquery, hfragment⟩ := h c hc
  simp [endsNetloc, hne, hquery, hfragment]

theorem Plain.not_mem_path {path : String} (h : Plain path) :
    '#' ∉ '/' :: path.toList ∧ '?' ∉ '/' :: path.toList := by
  rw [List.mem_cons, List.mem_cons, not_or, not_or]
  exact ⟨⟨by decide, fun hmem => (h _ hmem).2.2 rfl⟩, by decide, fun hmem => (h _ hmem).2.1 rfl⟩

/-- The parts of a URL of a scheme without parameters, whose location and path are plain. -/
theorem urlparse_of_plain {scheme netloc path : String} (hscheme : IsScheme scheme.toList)
    (hparams : scheme ∉ usesParams) (hnetloc : Plain netloc) (hslash : '/' ∉ netloc.toList)
    (haccepts : Accepts checks netloc) (hpath : Plain path) :
    urlparse checks (scheme ++ "://" ++ netloc ++ "/" ++ path) =
      .ok ⟨scheme, netloc, "/" ++ path, "", "", ""⟩ := by
  have htext : (scheme ++ "://" ++ netloc ++ "/" ++ path).toList =
      scheme.toList ++ ':' :: '/' :: '/' :: (netloc.toList ++ '/' :: path.toList) := by
    simp [String.toList_append]
  have hsafe : ∀ c ∈ scheme.toList ++ ':' :: '/' :: '/' :: (netloc.toList ++ '/' :: path.toList),
      isUnsafe c = false := by
    intro c hc
    simp only [List.mem_append, List.mem_cons] at hc
    rcases hc with hc | rfl | rfl | rfl | hc | rfl | hc
    · exact isUnsafe_of_isSchemeChar (List.all_eq_true.mp hscheme.chars c hc)
    · rfl
    · rfl
    · rfl
    · exact (hnetloc c hc).1
    · rfl
    · exact (hpath c hc).1
  have hends := hnetloc.endsNetloc_eq_false hslash
  obtain ⟨hfragment, hquery⟩ := hpath.not_mem_path
  have hpathText : String.ofList ('/' :: path.toList) = "/" ++ path := by
    rw [← String.toList_inj, String.toList_ofList, String.toList_append]
    rfl
  unfold urlparse
  simp only [htext, hscheme.cleaned hsafe, hscheme.splitScheme_append, splitNetloc_append hends,
    haccepts.1, haccepts.2, cut_of_not_mem hfragment, cut_of_not_mem hquery, String.ofList_toList,
    hparams, false_and, if_false, hpathText, bind, Except.bind]
  rfl

end parts

end RefCheck.Url
