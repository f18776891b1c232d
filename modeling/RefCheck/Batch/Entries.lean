import RefCheck.Batch.Outcome

/-!
# The references of a batch, and their validation

The references of a batch have distinct keys (`nodup_key_refEntries`), so a loop over them that
writes only at the key of the reference it is at does to every row what that reference says. Phase 0
is the first such loop: `phase0_spec` says that it always returns, with the excluded references.
-/

namespace RefCheck

variable {env : Env} {candidates : List CandidateBatchInput}

/-! ### The references of a batch have distinct keys -/

theorem mem_refEntries_iff {e : RefEntry} :
    e ∈ refEntries candidates ↔ candidates[e.candidateIdx]? = some e.candidate ∧
      e.candidate.references[e.refIdx]? = some e.ref := by
  simp only [refEntries, CandidateBatchInput.entries, List.mem_flatten, List.mem_mapIdx]
  constructor
  · rintro ⟨l, ⟨c, hc, rfl⟩, he⟩
    obtain ⟨r, hr, rfl⟩ := List.mem_mapIdx.mp he
    exact ⟨List.getElem?_eq_getElem hc, List.getElem?_eq_getElem hr⟩
  · rintro ⟨hc, hr⟩
    obtain ⟨hclt, hceq⟩ := List.getElem?_eq_some_iff.mp hc
    obtain ⟨hrlt, hreq⟩ := List.getElem?_eq_some_iff.mp hr
    refine ⟨_, ⟨e.candidateIdx, hclt, rfl⟩,
      List.mem_mapIdx.mpr ⟨e.refIdx, by rw [hceq]; exact hrlt, ?_⟩⟩
    cases e
    simp_all

theorem nodup_key_entries (c : CandidateBatchInput) (candidateIdx : ℕ) :
    ((c.entries candidateIdx).map RefEntry.key).Nodup := by
  rw [List.nodup_iff_injective_getElem]
  intro i j hij
  refine Fin.ext ?_
  simpa [CandidateBatchInput.entries, RefEntry.key] using hij

theorem nodup_key_refEntries (candidates : List CandidateBatchInput) :
    ((refEntries candidates).map RefEntry.key).Nodup := by
  rw [refEntries, List.map_flatten, List.nodup_flatten]
  constructor
  · intro l hl
    obtain ⟨entries, hentries, rfl⟩ := List.mem_map.mp hl
    obtain ⟨c, hc, rfl⟩ := List.mem_mapIdx.mp hentries
    exact nodup_key_entries _ c
  · rw [List.pairwise_map, List.pairwise_iff_getElem]
    intro i j hi hj hij
    -- references of different candidates differ in the first component of the key
    have hfst : ∀ (c : CandidateBatchInput) (n : ℕ) (k : RefKey),
        k ∈ (c.entries n).map RefEntry.key → k.1 = n := by
      intro c n k hk
      obtain ⟨e, he, rfl⟩ := List.mem_map.mp hk
      obtain ⟨r, hr, rfl⟩ := List.mem_mapIdx.mp he
      rfl
    intro k hk hk'
    rw [List.getElem_mapIdx] at hk hk'
    have h₁ := hfst _ _ _ hk
    have h₂ := hfst _ _ _ hk'
    omega

theorem eq_of_key_eq {e e' : RefEntry} (he : e ∈ refEntries candidates)
    (he' : e' ∈ refEntries candidates) (h : e.key = e'.key) : e = e' :=
  List.inj_on_of_nodup_map (nodup_key_refEntries candidates) he he' h

theorem flatten_mapIdx_ite {A B : Type} (f : A → List B) (l : List A) (i : ℕ) :
    (l.mapIdx fun j a => if j = i then f a else []).flatten = (l[i]?.map f).getD [] := by
  induction l generalizing i with
  | nil => simp
  | cons a l ih =>
    rw [List.mapIdx_cons, List.flatten_cons]
    cases i with
    | zero => simp
    | succ i => simpa using ih i

theorem filter_candidateIdx (candidates : List CandidateBatchInput) (i : ℕ) :
    (refEntries candidates).filter (fun e => e.candidateIdx = i) =
      (candidates[i]?.map fun c => c.entries i).getD [] := by
  rw [← flatten_mapIdx_ite, refEntries, List.filter_flatten]
  congr 1
  refine (List.mapIdx_eq_iff.mpr fun j => ?_).symm
  rw [List.getElem?_map, List.getElem?_mapIdx, Option.map_map]
  congr 1
  funext c
  have hentries : ∀ e ∈ c.entries j, e.candidateIdx = j := by
    intro e he
    obtain ⟨r, hr, rfl⟩ := List.mem_mapIdx.mp he
    rfl
  by_cases hji : j = i
  · rw [if_pos hji, Function.comp_apply, List.filter_eq_self.mpr, hji]
    intro e he
    simp [hentries e he, hji]
  · rw [if_neg hji, Function.comp_apply, List.filter_eq_nil_iff]
    intro e he
    simp [hentries e he, hji]

/-! ### Phase 0 -/

/-- Why a reference is excluded, if it is. -/
def RefEntry.failure (e : RefEntry) (env : Env) : Option String :=
  match validateReference env e.candidate.candidateName e.ref with
  | .ok _ => none
  | .error err => some err.str

/-- The dictionary of the excluded references is the right one. -/
def Excludes (env : Env) (candidates : List CandidateBatchInput) (invalidRefs : Dict RefKey String) :
    Prop :=
  ∀ e ∈ refEntries candidates, invalidRefs.get? e.key = e.failure env

/-- The message that validation writes for a reference. -/
def phase0Effect (env : Env) (_ : Option String) (e : RefEntry) :
    Except PyException (Option String) :=
  match validateReference env e.candidate.candidateName e.ref with
  | .ok _ => .ok none
  | .error err => if err.isValueError then .ok (some err.str) else .error err

theorem phase0Step_eq : phase0Step env =
    Loop.rowStep Dict.get? Dict.set RefEntry.key (phase0Effect env) := by
  funext d e
  unfold phase0Step Loop.rowStep phase0Effect
  cases validateReference env e.candidate.candidateName e.ref with
  | ok u => rfl
  | error err =>
    dsimp only
    split_ifs <;> rfl

theorem phase0Effect_eq (r : Option String) (e : RefEntry) :
    phase0Effect env r e = .ok (e.failure env) := by
  unfold phase0Effect RefEntry.failure
  cases h : validateReference env e.candidate.candidateName e.ref with
  | ok u => rfl
  | error err => exact if_pos (isValueError_of_validateReference h)

/-- Validation always returns, with the excluded references. -/
theorem phase0_spec (env : Env) (candidates : List CandidateBatchInput) :
    ∃ invalidRefs, (refEntries candidates).foldlM (phase0Step env) .empty = .ok invalidRefs ∧
      Excludes env candidates invalidRefs := by
  rw [phase0Step_eq]
  have heffect : ∀ e ∈ refEntries candidates,
      phase0Effect env (Dict.get? .empty e.key) e = .ok (e.failure env) := fun e _ =>
    phase0Effect_eq _ e
  obtain ⟨invalidRefs, hrun, hrow, -⟩ :=
    rowWrites_dict.exists_run (nodup_key_refEntries candidates) heffect
  refine ⟨invalidRefs, hrun, fun e he => ?_⟩
  rw [hrow e he, Dict.get?_empty]
  cases e.failure env <;> rfl

theorem failure_eq_none_iff {e : RefEntry} : e.failure env = none ↔ e.ref.Valid env := by
  rw [← validateReference_ok_iff env e.candidate.candidateName]
  unfold RefEntry.failure
  cases validateReference env e.candidate.candidateName e.ref with
  | ok u => simp
  | error err => simp

theorem Excludes.contains_iff {invalidRefs : Dict RefKey String}
    (h : Excludes env candidates invalidRefs) {e : RefEntry} (he : e ∈ refEntries candidates) :
    invalidRefs.contains e.key = true ↔ ¬ e.ref.Valid env := by
  rw [Dict.contains, h e he, ← failure_eq_none_iff, Option.isSome_iff_ne_none]

theorem flatMap_congr_of_mem {E I : Type} {f g : E → List I} {es : List E}
    (h : ∀ e ∈ es, f e = g e) : es.flatMap f = es.flatMap g := by
  rw [List.flatMap_def, List.flatMap_def, List.map_congr_left h]

theorem phase1_items (backend : Backend) {invalidRefs : Dict RefKey String}
    (h : Excludes env candidates invalidRefs)
    (a : ℕ → ℕ → RefReplies) :
    (refEntries candidates).flatMap (phase1ItemsOf env backend invalidRefs) =
      (refEntries candidates).flatMap fun e =>
        e.items env backend (a e.candidateIdx e.refIdx) [.extract, .sentiment] := by
  refine flatMap_congr_of_mem (fun e he => ?_)
  unfold phase1ItemsOf RefEntry.items ReferenceInput.asks
  have hcontains := h.contains_iff he
  by_cases hvalid : e.ref.Valid env
  · simp only [hvalid, not_true_eq_false, iff_false] at hcontains
    cases htype : e.ref.type with
    | REF1 => simp [hcontains, hvalid, RefEntry.item, ReferenceInput.prompts,
        CandidateBatchInput.subject, RefStep.tag, RefStep.tier]
    | REF2 => simp [hvalid]
  · simp only [hvalid, not_false_eq_true, iff_true] at hcontains
    simp [hcontains, hvalid]

end RefCheck
