import RefCheck.Batch.Completion

/-!
# Candidates of one batch do not interfere

The candidates of a batch share its items, its dictionaries and the IDs that are rendered and parsed
back. What becomes of one of them is nevertheless decided by its own references and by the replies
under its own IDs: a batch of any of the candidates, in any order, gives them the same entries
(`exists_run_select`), so a candidate is assessed as if it were alone.
-/

namespace RefCheck

variable {env : Env} {backend backend' : Backend} {candidates selected : List CandidateBatchInput}
  {replies replies' : BatchResults}

/-- One map has under the IDs of candidate `k` what another has under those of candidate `i`. -/
def BatchResults.AgreesAt (replies' : BatchResults) (k : ℕ) (replies : BatchResults) (i : ℕ) :
    Prop :=
  ∀ m rest, replies'.get m (candidatePrefix k ++ rest) = replies.get m (candidatePrefix i ++ rest)

namespace BatchResults.AgreesAt

variable {k i : ℕ}

theorem get_cid (h : replies'.AgreesAt k replies i) (m : OutputModel) (j : ℕ) (tag : String) :
    replies'.get m (cid k j tag) = replies.get m (cid i j tag) := by
  rw [cid_eq_append, cid_eq_append]
  exact h m _

theorem value?_cid (h : replies'.AgreesAt k replies i) (m : OutputModel) (j : ℕ) (tag : String) :
    replies'.value? m (cid k j tag) = replies.value? m (cid i j tag) := by
  rw [BatchResults.value?, BatchResults.value?, h.get_cid]

theorem repliesAt_eq (h : replies'.AgreesAt k replies i) :
    replies'.repliesAt k = replies.repliesAt i := by
  funext j s
  exact h.value?_cid s.model j s.tag

theorem overall_eq (h : replies'.AgreesAt k replies i) :
    replies'.value? .overallSummary (overallCid k) =
      replies.value? .overallSummary (overallCid i) := by
  rw [BatchResults.value?, BatchResults.value?, overallCid_eq_append, overallCid_eq_append, h]

theorem hasPhase1 (h : replies'.AgreesAt k replies i) {j : ℕ} {c : CandidateBatchInput}
    {ref : ReferenceInput} (hphase1 : HasPhase1 env replies ⟨i, j, c, ref⟩) :
    HasPhase1 env replies' ⟨k, j, c, ref⟩ := by
  intro hvalid htype
  obtain ⟨hextract, hsentiment⟩ := hphase1 hvalid htype
  refine ⟨?_, ?_⟩
  · show (replies'.get _ (cid k j "extract")).isSome = true
    rw [h.get_cid]
    exact hextract
  · show (replies'.value? _ (cid k j "sentiment")).isSome = true
    rw [h.value?_cid]
    exact hsentiment

end BatchResults.AgreesAt

/-- The candidates of one batch are those of another at the places `ks`, with their replies. -/
structure Selects (ks : List ℕ) (candidates : List CandidateBatchInput) (replies : BatchResults)
    (selected : List CandidateBatchInput) (replies' : BatchResults) : Prop where
  candidates : selected.map some = ks.map (candidates[·]?)
  replies : ∀ k i, ks[k]? = some i → replies'.AgreesAt k replies i

theorem Selects.exists_place {ks : List ℕ} (h : Selects ks candidates replies selected replies')
    {k : ℕ} {c : CandidateBatchInput} (hc : selected[k]? = some c) :
    ∃ i, ks[k]? = some i ∧ candidates[i]? = some c := by
  have hk := congrArg (·[k]?) h.candidates
  simp only [List.getElem?_map, hc, Option.map_some] at hk
  cases hi : ks[k]? with
  | none =>
    rw [hi] at hk
    cases hk
  | some i =>
    rw [hi, Option.map_some, Option.some.injEq] at hk
    exact ⟨i, rfl, hk.symm⟩

/-- **A batch of selected candidates returns, with the entries of these candidates.** -/
theorem exists_run_select {ks : List ℕ} (hgives : backend.Gives replies)
    (hgives' : backend'.Gives replies') (hselects : Selects ks candidates replies selected replies')
    {outputs : List CandidateOutput}
    (h : runBatchPipeline env backend candidates = .ok outputs) :
    ∃ outputs', runBatchPipeline env backend' selected = .ok outputs' ∧
      outputs'.map some = ks.map (outputs[·]?) := by
  obtain ⟨run, hrun, rfl⟩ := runBatchPipeline_eq_ok_iff.mp h
  obtain ⟨hne, hphase1⟩ := (exists_batchRun_iff hgives).mp ⟨run, hrun⟩
  obtain ⟨run', hrun'⟩ : ∃ run', batchRun env backend' selected = .ok run' := by
    refine (exists_batchRun_iff hgives').mpr ⟨fun c hc => ?_, fun e he => ?_⟩
    · obtain ⟨k, hk⟩ := List.mem_iff_getElem?.mp hc
      obtain ⟨i, -, hi⟩ := hselects.exists_place hk
      exact hne c (List.mem_of_getElem? hi)
    · obtain ⟨hc, hr⟩ := mem_refEntries_iff.mp he
      obtain ⟨i, hk, hi⟩ := hselects.exists_place hc
      exact (hselects.replies _ i hk).hasPhase1 (hphase1 _ (mem_refEntries_of_getElem? hi hr))
  refine ⟨run'.output, runBatchPipeline_eq_ok_iff.mpr ⟨run', hrun', rfl⟩, List.ext_getElem? ?_⟩
  intro k
  rw [List.getElem?_map, List.getElem?_map, (batchRun_refines hrun').getElem?_output_eq hgives']
  cases hc : selected[k]? with
  | none =>
    have hk : ks[k]? = none := by
      have hlength := congrArg List.length hselects.candidates
      rw [List.length_map, List.length_map] at hlength
      rw [List.getElem?_eq_none_iff] at hc ⊢
      omega
    rw [hk]
    rfl
  | some c =>
    obtain ⟨i, hk, hi⟩ := hselects.exists_place hc
    have hagrees := hselects.replies k i hk
    rw [hk, Option.map_some, Option.map_some, Option.map_some,
      (batchRun_refines hrun).getElem?_output_eq hgives, hi, hagrees.repliesAt_eq,
      hagrees.overall_eq]
    rfl

theorem selects_singleton {i : ℕ} {c : CandidateBatchInput} (hc : candidates[i]? = some c)
    (h : replies'.AgreesAt 0 replies i) : Selects [i] candidates replies [c] replies' where
  candidates := by
    rw [List.map_singleton, List.map_singleton, hc]
  replies := by
    intro k i' hk
    rw [List.getElem?_singleton] at hk
    split_ifs at hk with hzero
    cases hk
    rw [hzero]
    exact h

/-- **Candidates do not interfere.** When a batch returns, each of its candidates has the entry that
it has alone, with its replies relabelled; permuted candidates with their replies have the permuted
entries; and whatever becomes of the other candidates and their replies, the entry is the same. -/
theorem candidates_do_not_interfere (hgives : backend.Gives replies) {outputs : List CandidateOutput}
    (h : runBatchPipeline env backend candidates = .ok outputs) :
    (∀ i c backend' replies', candidates[i]? = some c → Backend.Gives backend' replies' →
      replies'.AgreesAt 0 replies i →
      ∃ out, outputs[i]? = some out ∧ runBatchPipeline env backend' [c] = .ok [out]) ∧
    (∀ ks permuted backend' replies', ks.Perm (List.range candidates.length) →
      Backend.Gives backend' replies' → Selects ks candidates replies permuted replies' →
      ∃ outputs', runBatchPipeline env backend' permuted = .ok outputs' ∧
        outputs'.map some = ks.map (outputs[·]?) ∧ outputs'.Perm outputs) ∧
    ∀ i candidates' backend' replies' outputs', candidates'[i]? = candidates[i]? →
      Backend.Gives backend' replies' → replies'.AgreesAt i replies i →
      runBatchPipeline env backend' candidates' = .ok outputs' → outputs'[i]? = outputs[i]? := by
  refine ⟨?_, ?_, ?_⟩
  · intro i c backend' replies' hc hgives' hagrees
    obtain ⟨outputs', houtputs', hmap⟩ :=
      exists_run_select hgives hgives' (selects_singleton hc hagrees) h
    rw [List.map_singleton] at hmap
    obtain ⟨out, rfl, hout⟩ := List.map_eq_singleton_iff.mp hmap
    exact ⟨out, hout.symm, houtputs'⟩
  · intro ks permuted backend' replies' hperm hgives' hselects
    obtain ⟨outputs', houtputs', hmap⟩ := exists_run_select hgives hgives' hselects h
    obtain ⟨-, hlength, -⟩ := completes_of_runBatchPipeline h
    refine ⟨outputs', houtputs', hmap, ?_⟩
    have hsome : (outputs'.map some).Perm (outputs.map some) := by
      rw [hmap, ← Lists.map_getElem?_range outputs, hlength]
      exact hperm.map _
    exact (List.map_perm_map_iff (Option.some_injective _)).mp hsome
  · intro i candidates' backend' replies' outputs' hc hgives' hagrees h'
    obtain ⟨run, hrun, rfl⟩ := runBatchPipeline_eq_ok_iff.mp h
    obtain ⟨run', hrun', rfl⟩ := runBatchPipeline_eq_ok_iff.mp h'
    rw [(batchRun_refines hrun).getElem?_output_eq hgives,
      (batchRun_refines hrun').getElem?_output_eq hgives', hc, hagrees.repliesAt_eq,
      hagrees.overall_eq]

/-- Replies by ID: those of the second candidate lack its summaries. -/
def unevenReplies : BatchResults where
  get m customId :=
    some (if (candidatePrefix 1).toList <+: customId.toList then withoutSummaries m else cleanReply m)

theorem agreesAt_unevenReplies :
    BatchResults.AgreesAt ⟨fun m _ => some (withoutSummaries m)⟩ 0 unevenReplies 1 := by
  intro m rest
  unfold unevenReplies
  dsimp only
  rw [String.toList_append, if_pos (List.prefix_append _ _)]

/-- The second of two candidates, whose replies are not those of the first, is assessed as if it were
alone. -/
theorem second_candidate_alone : ∃ outputs out,
    runBatchPipeline sampleEnv (.fixed sampleModel unevenReplies)
      [sampleCandidate [sampleTranscript "Bob"], sampleCandidate [sampleTranscript "Eve"]] =
        .ok outputs ∧
    outputs[1]? = some out ∧
    runBatchPipeline sampleEnv (replyBackend withoutSummaries)
      [sampleCandidate [sampleTranscript "Eve"]] = .ok [out] := by
  have hphase1 : ∀ e ∈ refEntries
      [sampleCandidate [sampleTranscript "Bob"], sampleCandidate [sampleTranscript "Eve"]],
      HasPhase1 sampleEnv unevenReplies e := by
    intro e _ _ _
    refine ⟨rfl, ?_⟩
    unfold BatchResults.value? unevenReplies
    dsimp only
    split_ifs <;> rfl
  obtain ⟨run, hrun⟩ := (exists_batchRun_iff (gives_fixed sampleModel unevenReplies)).mpr
    ⟨by simp [sampleCandidate], hphase1⟩
  have h := runBatchPipeline_eq_ok_iff.mpr ⟨run, hrun, rfl⟩
  obtain ⟨out, hout, halone⟩ := (candidates_do_not_interfere (gives_fixed _ _) h).1 1 _ _
    ⟨fun m _ => some (withoutSummaries m)⟩ rfl (gives_fixed sampleModel _) agreesAt_unevenReplies
  exact ⟨run.output, out, h, hout, halone⟩

end RefCheck
