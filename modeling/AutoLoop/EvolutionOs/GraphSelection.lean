import AutoLoop.EvolutionOs.BudgetSplit
import AutoLoop.EvolutionOs.PromotionGates
import AutoLoop.EvolutionOs.ReplayFingerprints

/-!
# The candidates that a compiler selects

The loop over the ranked drafts keeps the slots of each strategy and template, and passes
over no draft while nothing is selected; where every draft is too risky, the safest one
remains.
-/

namespace AutoLoop.EvolutionOs

open FloatOps DynamicRuntimeGraphCompiler List

structure LawfulSelection {F : Type} [FloatOps F] (threshold : F)
    (drafts selected : List (CandidateDraft F)) : Prop where
  explored : selected ⊆ drafts
  nonempty : selected ≠ []
  limited : selected.length ≤ maxCandidates
  perStrategy : ∀ id, selected.countP (·.strategy.id == id) ≤ 2
  perTemplate : ∀ template, selected.countP (·.template == template) ≤ 2
  clipped : (∀ draft ∈ selected, draft.expectedRiskScore ≤ threshold) ∨
    (∀ draft ∈ drafts, ¬draft.expectedRiskScore ≤ threshold) ∧
      ∃ safe, selected = [safe] ∧
        ∀ draft ∈ drafts, safe.expectedRiskScore ≤ draft.expectedRiskScore

/-- The same priors up to order, repetition and surrounding whitespace. -/
structure CrystalPriorSelection.Same (first second : CrystalPriorSelection) : Prop where
  templateRefs : SameRefs first.templateRefs second.templateRefs
  reusableSubgraphRefs : SameRefs first.reusableSubgraphRefs second.reusableSubgraphRefs
  strategyPriors : SameRefs first.strategyPriors second.strategyPriors

section Selection

variable {F : Type} [FloatOps F]

/-! ## The loop -/

structure WithinSlots (drafts selected : List (CandidateDraft F)) : Prop where
  taken : selected ⊆ drafts
  limited : selected.length ≤ maxCandidates
  perStrategy : ∀ id, selected.countP (·.strategy.id == id) ≤ 2
  perTemplate : ∀ template, selected.countP (·.template == template) ≤ 2

theorem countP_append_le {selected : List (CandidateDraft F)} {draft : CandidateDraft F}
    {label : CandidateDraft F → String} (room : selected.countP (label · == label draft) < 2)
    (kept : ∀ text, selected.countP (label · == text) ≤ 2) (text : String) :
    (selected ++ [draft]).countP (label · == text) ≤ 2 := by
  rw [countP_append, countP_singleton]
  split
  · next same =>
    rw [eq_of_beq same] at room
    exact room
  · exact kept text

theorem WithinSlots.step {drafts selected : List (CandidateDraft F)} {draft : CandidateDraft F}
    (within : WithinSlots drafts selected) (membership : draft ∈ drafts) :
    WithinSlots drafts (selectDraft selected draft) := by
  unfold selectDraft
  split_ifs with full strategyFull templateFull near
  · exact within
  · exact within
  · exact within
  · exact within
  · refine ⟨?_, ?_, ?_, ?_⟩
    · exact append_subset.mpr ⟨within.taken, by simpa using membership⟩
    · rw [maxCandidates] at full ⊢
      rw [length_append, length_singleton]
      omega
    · exact countP_append_le (not_le.mp strategyFull) within.perStrategy
    · exact countP_append_le (not_le.mp templateFull) within.perTemplate

theorem WithinSlots.foldl {drafts : List (CandidateDraft F)} :
    ∀ (rest selected : List (CandidateDraft F)), rest ⊆ drafts →
      WithinSlots drafts selected → WithinSlots drafts (rest.foldl selectDraft selected)
  | [], _, _, within => within
  | _ :: rest, _, known, within =>
    WithinSlots.foldl rest _ (cons_subset.mp known).2
      (within.step (known mem_cons_self))

theorem subset_selectDraft (selected : List (CandidateDraft F)) (draft : CandidateDraft F) :
    selected ⊆ selectDraft selected draft := by
  unfold selectDraft
  split_ifs <;> simp

theorem subset_foldl_selectDraft (rest selected : List (CandidateDraft F)) :
    selected ⊆ rest.foldl selectDraft selected := by
  induction rest generalizing selected with
  | nil => exact List.Subset.refl _
  | cons draft rest ih => exact List.Subset.trans (subset_selectDraft selected draft) (ih _)

/-- The first draft finds every slot free. -/
theorem foldl_selectDraft_eq_nil {drafts : List (CandidateDraft F)}
    (none_selected : drafts.foldl selectDraft [] = []) : drafts = [] := by
  cases drafts with
  | nil => rfl
  | cons draft rest =>
    have first : selectDraft [] draft = [draft] := by
      simp [selectDraft, isNearDuplicate, maxCandidates]
    have kept := subset_foldl_selectDraft rest (selectDraft [] draft)
    rw [foldl_cons] at none_selected
    rw [none_selected, first] at kept
    exact absurd (kept mem_cons_self) not_mem_nil

/-! ## The drafts -/

theorem candidateDrafts_congr (reality : RealitySnapshot) {first second : CrystalPriorSelection}
    (same : first.Same second) :
    candidateDrafts (F := F) reality first = candidateDrafts reality second := by
  simp only [candidateDrafts, strategyProfiles, normalizedOrDefault,
    normalizeRefs_congr same.templateRefs, normalizeRefs_congr same.reusableSubgraphRefs,
    normalizeRefs_congr same.strategyPriors]

/-! ## Built graphs -/

omit [FloatOps F] in
theorem candidateId_inj {idx other : Nat} {draft otherDraft : CandidateDraft F}
    {reality : RealitySnapshot}
    (same : (buildCandidateGraph idx draft reality).candidateId =
      (buildCandidateGraph other otherDraft reality).candidateId) : idx = other := by
  have lists := congrArg String.toList same
  simp only [buildCandidateGraph, String.toList_append, append_assoc,
    append_cancel_left_eq] at lists
  have digits : ∀ (number : Nat) (rest : List Char),
      (number.repr.toList ++ (":".toList ++ rest)).takeWhile (· ≠ ':') =
        number.repr.toList := by
    intro number rest
    rw [takeWhile_append_of_pos]
    · exact append_nil _
    · intro char membership
      rw [decide_eq_true_iff]
      rintro rfl
      exact Text.not_mem_repr (by decide) number membership
  have numbers := congrArg (List.takeWhile (· ≠ ':')) lists
  rw [digits, digits, String.toList_inj, Text.repr_inj] at numbers
  exact Nat.succ.inj numbers

omit [FloatOps F] in
theorem nodup_candidateIds (drafts : List (CandidateDraft F)) (reality : RealitySnapshot) :
    ((drafts.mapIdx fun idx draft => buildCandidateGraph idx draft reality).map
      (·.candidateId)).Nodup := by
  rw [List.Nodup, pairwise_iff_getElem]
  intro idx other inside otherInside before same
  simp only [getElem_map, getElem_mapIdx] at same
  exact before.ne (candidateId_inj same)

end Selection

/-! ## Ordered risks -/

section Ordered

variable {F : Type} [OrderedFloats F]
  (total : ∀ first second : F, totalCmp first second = compare first second)
include total

theorem saferDraft_le (held draft : CandidateDraft F) :
    ∃ safe, saferDraft (some held) draft = some safe ∧
      (safe = held ∨ safe = draft) ∧ safe.expectedRiskScore ≤ held.expectedRiskScore ∧
        safe.expectedRiskScore ≤ draft.expectedRiskScore := by
  rw [saferDraft]
  by_cases safer : compareSafety draft held = .lt
  · refine ⟨draft, by simp [safer], Or.inr rfl, ?_, le_rfl⟩
    rw [compareSafety, Ordering.then_eq_lt, total, compare_lt_iff_lt, compare_eq_iff_eq] at safer
    exact safer.elim le_of_lt fun tied => tied.1.le
  · refine ⟨held, by simp [safer], Or.inl rfl, le_rfl, ?_⟩
    rw [compareSafety, Ordering.then_eq_lt, total, compare_lt_iff_lt, not_or] at safer
    exact not_lt.mp safer.1

theorem foldl_saferDraft (drafts : List (CandidateDraft F)) (held : CandidateDraft F) :
    ∃ safe, drafts.foldl saferDraft (some held) = some safe ∧ safe ∈ held :: drafts ∧
      ∀ draft ∈ held :: drafts, safe.expectedRiskScore ≤ draft.expectedRiskScore := by
  induction drafts generalizing held with
  | nil => exact ⟨held, rfl, mem_cons_self, by simp⟩
  | cons draft rest ih =>
    obtain ⟨kept, isKept, oneOf, belowHeld, belowDraft⟩ := saferDraft_le total held draft
    obtain ⟨safe, isSafe, membership, least⟩ := ih kept
    rw [foldl_cons, isKept]
    rw [forall_mem_cons] at least
    refine ⟨safe, isSafe, ?_, ?_⟩
    · obtain rfl | later := mem_cons.mp membership
      · obtain rfl | rfl := oneOf <;> simp
      · simp [later]
    · rw [forall_mem_cons, forall_mem_cons]
      exact ⟨least.1.trans belowHeld, least.1.trans belowDraft, least.2⟩

theorem lawful_selectDrafts (threshold : F) {drafts : List (CandidateDraft F)}
    (some_draft : drafts ≠ []) :
    LawfulSelection threshold drafts (selectDrafts threshold drafts) := by
  have within : WithinSlots _ _ := WithinSlots.foldl
    (drafts.filter (·.expectedRiskScore ≤ threshold)) [] (List.Subset.refl _)
    ⟨nil_subset _, by simp, by simp, by simp⟩
  rw [selectDrafts]
  split
  · next none_selected =>
    have risky := foldl_selectDraft_eq_nil (List.isEmpty_iff.mp none_selected)
    obtain ⟨first, rest, rfl⟩ := exists_cons_of_ne_nil some_draft
    obtain ⟨safe, isSafe, membership, least⟩ := foldl_saferDraft total rest first
    have found : safest (first :: rest) = some safe := isSafe
    rw [found]
    refine ⟨by simpa using membership, cons_ne_nil _ _, by simp [maxCandidates],
      fun _ => countP_le_length.trans (by simp),
      fun _ => countP_le_length.trans (by simp), Or.inr ⟨?_, safe, rfl, least⟩⟩
    simpa using filter_eq_nil_iff.mp risky
  · next some_selected =>
    refine ⟨List.Subset.trans within.taken (filter_subset_self _),
      by simpa using some_selected, within.limited, within.perStrategy, within.perTemplate, Or.inl ?_⟩
    intro draft membership
    simpa using (mem_filter.mp (within.taken membership)).2

omit total in
theorem LawfulSelection.of_perm {threshold : F} {drafts sorted selected : List (CandidateDraft F)}
    (lawful : LawfulSelection threshold sorted selected) (perm : sorted.Perm drafts) :
    LawfulSelection threshold drafts selected := by
  refine ⟨List.Subset.trans lawful.explored perm.subset, lawful.nonempty, lawful.limited,
    lawful.perStrategy, lawful.perTemplate, ?_⟩
  simpa only [perm.mem_iff] using lawful.clipped

/-- Compiled candidates are a lawful selection of the explored drafts, under ids of their own,
and depend on the set of each kind of prior only. -/
theorem compile_lawful (reality : RealitySnapshot) (priors : CrystalPriorSelection) :
    (∃ selected : List (CandidateDraft F),
      LawfulSelection (riskThreshold reality) (candidateDrafts reality priors) selected ∧
      compile reality priors =
        selected.mapIdx fun idx draft => buildCandidateGraph idx draft reality) ∧
    ((compile (F := F) reality priors).map (·.candidateId)).Nodup ∧
    ∀ other, priors.Same other →
      compile (F := F) reality other =
        compile reality priors := by
  have perm : (sortBy compareDrafts (candidateDrafts (F := F) reality priors)).Perm _ :=
    mergeSort_perm _ _
  have sorted_ne : sortBy compareDrafts (candidateDrafts (F := F) reality priors) ≠ [] :=
    fun empty => candidateDrafts_ne_nil reality priors (nil_perm.mp (empty ▸ perm))
  refine ⟨⟨_, (lawful_selectDrafts total _ sorted_ne).of_perm perm, rfl⟩,
    nodup_candidateIds _ _, ?_⟩
  intro other same
  simp only [compile, candidateDrafts_congr reality same]

end Ordered

theorem compile_lawful_unprimed :
    ∃ selected : List (CandidateDraft ℚ), LawfulSelection (riskThreshold (flooredSnapshot 2))
        (candidateDrafts (flooredSnapshot 2) ⟨[], [], [], [], []⟩) selected ∧
      compile (flooredSnapshot 2) ⟨[], [], [], [], []⟩ =
        selected.mapIdx fun idx draft => buildCandidateGraph idx draft (flooredSnapshot 2) :=
  (compile_lawful (fun _ _ => rfl) (flooredSnapshot 2) ⟨[], [], [], [], []⟩).1

end AutoLoop.EvolutionOs
