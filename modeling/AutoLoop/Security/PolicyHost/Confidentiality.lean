import AutoLoop.Security.PolicyHost.LeafRules

/-!
# Confidentiality of decision logs

Two payloads of one shape that carry one policy and differ in selected values only.
Each rule goes by the places that the rules before it left.
-/

namespace AutoLoop.Security.PolicyHost

open JsonValue (Related)
open JsonValue DecisionLogPolicy List LogRule DecisionLogArtifact

/-! ## Following a value -/

def LogRule.follow (path : JsonPath) : LogRule → Option JsonPath
  | .drop rule => followSelector shiftRemoved (parseSelector rule.selector) path
  | .mask rule => followSelector (fun _ step => step) (parseSelector rule.selector) path

/-- Where the scalar at a path stands after the rules, each of which goes by the place
at which it finds it; none if one of them removes or masks it. -/
def followRules (rules : List LogRule) (path : JsonPath) : Option JsonPath :=
  rules.foldlM follow path

def LogRule.HidesAll : LogRule → Prop
  | .drop _ => True
  | .mask rule => PolicyHost.HidesAll rule.strategy

open Option

section Rules

variable {hashText : JsonValue → String} {rule : LogRule} {rules : List LogRule}
variable {relation : ScalarRelation} {value other : JsonValue}

theorem LogRule.related (hidesAll : rule.HidesAll) (related : Related relation value other) :
    Related (fun path first second => first = second ∨
        ∃ before, rule.follow before = some path ∧ relation before first second)
        (rule.apply hashText value).value (rule.apply hashText other).value ∧
      (rule.apply hashText value).hits = (rule.apply hashText other).hits := by
  cases rule with
  | drop rule =>
    have relates := relates_applyRule relates_removeLeaf (parseSelector rule.selector)
    exact ⟨relates.value "" related, relates.hits "" related⟩
  | mask rule =>
    have relates := relates_applyRule (@relates_maskLeaf hashText _ hidesAll)
      (parseSelector rule.selector)
    exact ⟨relates.value "" related, relates.hits "" related⟩

theorem LogRule.scalarAt_apply {path after : JsonPath} (isFollowed : rule.follow path = some after)
    (value : JsonValue) :
    (rule.apply hashText value).value.scalarAt after = value.scalarAt path := by
  cases rule with
  | drop rule => exact keeps_applyRule keeps_removeLeaf (parseSelector rule.selector) value "" isFollowed
  | mask rule =>
    exact keeps_applyRule keeps_maskLeaf (parseSelector rule.selector) value "" isFollowed

theorem LogRule.quiet (noHits : (rule.apply hashText value).hits = []) :
    (rule.apply hashText value).value = value ∧
      ∀ {relation : ScalarRelation} {other : JsonValue}, Related relation value other →
        Related (fun path first second =>
          ¬Covers rule.selector path ∧ relation path first second) value other := by
  cases rule with
  | drop rule => exact quiet_applyRule quiet_removeLeaf (parseSelector rule.selector) value "" noHits
  | mask rule =>
    exact quiet_applyRule quiet_maskLeaf (parseSelector rule.selector) value "" noHits

theorem LogRule.calm (hidesAll : rule.HidesAll) (value : JsonValue) :
    none ∉ (rule.apply hashText value).hits := by
  cases rule with
  | drop rule => exact calm_applyRule calm_removeLeaf (parseSelector rule.selector) value ""
  | mask rule =>
    exact calm_applyRule (calm_maskLeaf hidesAll) (parseSelector rule.selector) value ""

/-! ## Runs of the rules -/

def DecisionLogArtifact.IsBare (artifact : DecisionLogArtifact) : Prop :=
  artifact.maskedFields = [] ∧ artifact.droppedFields = []

instance : DecidablePred IsBare :=
  fun _ => inferInstanceAs (Decidable (_ ∧ _))

theorem LogRule.bare_of_note {hits : List String} {artifact : DecisionLogArtifact}
    (bare : (if hits = [] then artifact else rule.note hits artifact).IsBare) :
    hits = [] ∧ artifact.IsBare := by
  by_cases noHits : hits = []
  · rw [if_pos noHits] at bare
    exact ⟨noHits, bare⟩
  · rw [if_neg noHits] at bare
    cases rule with
    | drop rule => exact absurd (append_eq_nil_iff.mp bare.2).2 noHits
    | mask rule => exact absurd (append_eq_nil_iff.mp bare.1).2 noHits

theorem filterMap_id_eq_nil {hits : List (Option String)} (calm : none ∉ hits)
    (noHits : hits.filterMap id = []) : hits = [] := by
  cases hits with
  | nil => rfl
  | cons hit rest =>
    cases hit with
    | none => exact absurd mem_cons_self calm
    | some path => cases noHits

/-- What the rules make of a payload, beside what they make of one of the same shape. -/
structure RulesRun (hashText : JsonValue → String) (rules : List LogRule)
    (artifact : DecisionLogArtifact) (value : JsonValue) (final : JsonValue)
    (collected : DecisionLogArtifact) : Prop where
  runs : rules.foldlM (ruleStep hashText) (value, artifact) = some (final, collected)
  keeps : ∀ {path after : JsonPath}, followRules rules path = some after →
    final.scalarAt after = value.scalarAt path
  quiet : collected.IsBare → final = value ∧
    ∀ {relation : ScalarRelation} {other : JsonValue}, Related relation value other →
      Related (fun path first second => (∀ rule ∈ rules, ¬Covers rule.selector path) ∧
        relation path first second) value other
  related : ∀ {relation : ScalarRelation} {other : JsonValue}, Related relation value other →
    ∃ otherFinal, rules.foldlM (ruleStep hashText) (other, artifact) =
        some (otherFinal, collected) ∧
      Related (fun path first second => first = second ∨
        ∃ before, followRules rules before = some path ∧ relation before first second)
        final otherFinal

theorem ruleStep_of_calm (calm : none ∉ (rule.apply hashText value).hits)
    (artifact : DecisionLogArtifact) :
    ruleStep hashText (value, artifact) rule =
      some ((rule.apply hashText value).value,
        if (rule.apply hashText value).hits.filterMap id = [] then artifact
        else rule.note ((rule.apply hashText value).hits.filterMap id) artifact) :=
  if_neg calm

theorem rules_run (hideAll : ∀ rule ∈ rules, rule.HidesAll) (artifact : DecisionLogArtifact)
    (value : JsonValue) :
    ∃ final collected, RulesRun hashText rules artifact value final collected ∧
      (collected.IsBare → artifact.IsBare) := by
  induction rules generalizing artifact value with
  | nil =>
    refine ⟨value, artifact, ⟨rfl, ?_, ?_, ?_⟩, id⟩
    · intro path after isFollowed
      cases isFollowed
      rfl
    · intro _
      exact ⟨rfl, fun related => related.mono fun _ _ _ holds => ⟨nofun, holds⟩⟩
    · intro relation other related
      exact ⟨other, rfl, related.mono fun path _ _ holds => Or.inr ⟨path, rfl, holds⟩⟩
  | cons rule rest ih =>
    have hidesAll := hideAll rule mem_cons_self
    have calm := @LogRule.calm hashText rule hidesAll
    obtain ⟨final, collected, later, bareLater⟩ :=
      ih (fun other inRest => hideAll other (mem_cons_of_mem _ inRest)) _
        (rule.apply hashText value).value
    refine ⟨final, collected, ⟨?_, ?_, ?_, ?_⟩, ?_⟩
    · rw [foldlM_cons, ruleStep_of_calm (calm value)]
      exact later.runs
    · intro path after isFollowed
      rw [followRules, foldlM_cons, bind_eq_bind, bind_eq_some_iff]
        at isFollowed
      obtain ⟨middle, isMiddle, isAfter⟩ := isFollowed
      exact (later.keeps isAfter).trans (scalarAt_apply isMiddle value)
    · intro bare
      have noHits := filterMap_id_eq_nil (calm value)
        (bare_of_note (bareLater bare)).1
      obtain ⟨isValue, quiet⟩ := LogRule.quiet noHits
      obtain ⟨isFinal, quietLater⟩ := later.quiet bare
      rw [isValue] at isFinal quietLater
      refine ⟨isFinal, fun related => (quietLater (quiet related)).mono ?_⟩
      intro path first second holds
      exact ⟨forall_mem_cons.mpr ⟨holds.2.1, holds.1⟩, holds.2.2⟩
    · intro relation other related
      obtain ⟨applied, sameHits⟩ := @LogRule.related hashText rule _ _ _ hidesAll related
      obtain ⟨otherFinal, otherRuns, finals⟩ := later.related applied
      refine ⟨otherFinal, ?_, finals.mono ?_⟩
      · rw [foldlM_cons, ruleStep_of_calm (calm other), ← sameHits]
        exact otherRuns
      · intro path first second holds
        rcases holds with same | ⟨middle, isAfter, same | ⟨before, isMiddle, holds⟩⟩
        · exact Or.inl same
        · exact Or.inl same
        · refine Or.inr ⟨before, ?_, holds⟩
          rw [followRules, foldlM_cons, isMiddle]
          exact isAfter
    · intro bare
      exact (bare_of_note (bareLater bare)).2

/-! ## Artifacts -/

theorem sortDedup_eq_nil {texts : List String} : sortDedup texts = [] ↔ texts = [] := by
  rw [sortDedup, destutter_eq_nil, ← length_eq_zero_iff, length_insertionSort, length_eq_zero_iff]

theorem isBare_sorted {artifact : DecisionLogArtifact} :
    artifact.sorted.IsBare ↔ artifact.IsBare := by
  rw [IsBare, sorted, sortDedup_eq_nil, sortDedup_eq_nil]
  rfl

theorem scalarAt_insertArtifact {name : String} (otherName : name ≠ "decision_log_artifact")
    (artifact : DecisionLogArtifact) (value : JsonValue) (rest : JsonPath) :
    (insertArtifact artifact value).scalarAt (.key name :: rest) =
      value.scalarAt (.key name :: rest) := by
  cases value with
  | scalar _ => rfl
  | array _ => rfl
  | object members =>
    rw [scalarAt_cons, scalarAt_cons, insertArtifact, child,
      child, lookup_insertMember_of_ne otherName]

theorem insertArtifact_congr (artifact : DecisionLogArtifact)
    (related : Related relation value other)
    (equal : ∀ path first second, relation path first second →
      path.head? ≠ some (.key "decision_log_artifact") → first = second) :
    insertArtifact artifact value = insertArtifact artifact other := by
  cases related with
  | scalar holds => rw [equal _ _ _ holds nofun]
  | array sameLength related =>
    congr 2
    apply ext_getElem sameLength
    intro place inFirst inSecond
    exact (related place _ _ (getElem?_eq_getElem inFirst)
      (getElem?_eq_getElem inSecond)).eq fun _ _ _ holds => equal _ _ _ holds nofun
  | @object _ first second sameKeys related =>
    have filtered : ∀ keep : String → Bool, keep "decision_log_artifact" = false →
        first.filter (keep ·.1) = second.filter (keep ·.1) := by
      intro keep notKept
      apply filter_eq_of_zip sameKeys
      intro entry inZip kept
      refine (related entry inZip).eq fun path left right holds => equal _ _ _ holds ?_
      intro isArtifact
      rw [head?_cons, Option.some.injEq, JsonStep.key.injEq] at isArtifact
      rw [isArtifact, notKept] at kept
      cases kept
    simp only [insertArtifact, insertMember]
    rw [filtered (fun name => name < "decision_log_artifact") (by simp),
      filtered (fun name => "decision_log_artifact" < name) (by simp)]

end Rules

/-! ## Results -/

def Selected (policy : DecisionLogPolicy) (path : JsonPath) : Prop :=
  ∃ rule ∈ policy.rules, Covers rule.selector path

def DifferInSelected (policy : DecisionLogPolicy) : JsonValue → JsonValue → Prop :=
  Related fun path first second => first = second ∨
    Selected policy path ∧ path.head? ≠ some (.key "decision_log_policy")

def Confidential (hashText : JsonValue → String) (policy : DecisionLogPolicy)
    (payload : JsonValue) : Prop :=
  ∀ other, DifferInSelected policy payload other →
    (sanitizeDecisionPayload hashText other).map (·.payload) =
      (sanitizeDecisionPayload hashText payload).map (·.payload)

/-- Each selected value, apart from the policy and what the artifact replaces, is removed
or masked by a rule at the place where the drops before the rule moved it. -/
def AllTaken (policy : DecisionLogPolicy) (payload : JsonValue) : Prop :=
  ∀ path scalar, payload.scalarAt path = some scalar → Selected policy path →
    path.head? ≠ some (.key "decision_log_policy") →
      path.head? ≠ some (.key "decision_log_artifact") → followRules policy.rules path = none

section Payloads

variable {hashText : JsonValue → String} {policy : DecisionLogPolicy}
variable {payload other : JsonValue}

theorem DifferInSelected.get_policy (differ : DifferInSelected policy payload other) :
    payload.get "decision_log_policy" = other.get "decision_log_policy" := by
  apply Related.get_eq differ
  intro path first second holds
  rcases holds with same | ⟨-, outside⟩
  · exact same
  · exact absurd rfl outside

theorem detectPolicy_of_carries (carries : (payload.get "decision_log_policy").bind
    fromValue = some policy) : detectPolicy payload = some policy := by
  rw [detectPolicy, carries]
  rfl

/-- What is logged under the policy after its rules. -/
def logged (final : JsonValue) (collected : DecisionLogArtifact) : JsonValue :=
  if collected.IsBare then final else insertArtifact collected.sorted final

theorem sanitize_of_runs (carries : (payload.get "decision_log_policy").bind
      fromValue = some policy) {final : JsonValue}
    {collected : DecisionLogArtifact}
    (runs : policy.rules.foldlM (ruleStep hashText)
      (payload, ⟨policy.policyVersion, [], [], [], []⟩) = some (final, collected)) :
    (sanitizeDecisionPayload hashText payload).map (·.payload) =
      some (logged final collected) := by
  have sameBare := @isBare_sorted collected
  rw [sanitizeDecisionPayload, detectPolicy_of_carries carries]
  simp only [runs, bind_eq_bind, bind_some]
  by_cases bare : collected.IsBare
  · have noFields : collected.sorted.maskedFields = [] ∧ collected.sorted.droppedFields = [] :=
      sameBare.mpr bare
    rw [logged, if_pos bare, if_pos noFields]
    rfl
  · have someField :
        ¬(collected.sorted.maskedFields = [] ∧ collected.sorted.droppedFields = []) :=
      fun noFields => bare (sameBare.mp noFields)
    rw [logged, if_neg bare, if_neg someField]
    rfl

theorem exists_other_scalar (old : JsonScalar) : ∃ new, new ≠ old := by
  by_cases isNull : old = .null
  · rw [isNull]
    exact ⟨.bool true, nofun⟩
  · exact ⟨.null, Ne.symm isNull⟩

theorem head_followSelector {shift : String → JsonStep → JsonStep} {name : String}
    (isKey : ∀ head, shift head (.key name) = .key name) (selector : List String)
    {path after : JsonPath} (isHead : path.head? = some (.key name))
    (isFollowed : followSelector shift selector path = some after) :
    after.head? = some (.key name) := by
  obtain ⟨rest, rfl⟩ := head?_eq_some_iff.mp isHead
  cases selector with
  | nil =>
    cases isFollowed
    rfl
  | cons head later =>
    cases later with
    | nil =>
      rw [followSelector] at isFollowed
      split at isFollowed
      · cases isFollowed
      · cases isFollowed
        rw [head?_cons, isKey]
    | cons next tail =>
      rw [followSelector] at isFollowed
      split at isFollowed
      · rw [map_eq_some_iff] at isFollowed
        obtain ⟨inner, -, rfl⟩ := isFollowed
        rfl
      · cases isFollowed
        rfl

theorem head_followRules {name : String} (rules : List LogRule) {path after : JsonPath}
    (isHead : path.head? = some (.key name)) (isFollowed : followRules rules path = some after) :
    after.head? = some (.key name) := by
  induction rules generalizing path with
  | nil =>
    cases isFollowed
    exact isHead
  | cons rule rest ih =>
    rw [followRules, foldlM_cons, bind_eq_bind, bind_eq_some_iff]
      at isFollowed
    obtain ⟨middle, isMiddle, isAfter⟩ := isFollowed
    refine ih ?_ isAfter
    cases rule with
    | drop rule => exact head_followSelector (fun _ => rfl) _ isHead isMiddle
    | mask rule => exact head_followSelector (fun _ => rfl) _ isHead isMiddle

theorem head_of_scalarAt (carries : (payload.get "decision_log_policy").bind
      fromValue = some policy) {path : JsonPath} {scalar : JsonScalar}
    (isScalar : payload.scalarAt path = some scalar) : ∃ name, path.head? = some (.key name) := by
  cases payload with
  | scalar _ => cases carries
  | array _ => cases carries
  | object members =>
    cases path with
    | nil => cases isScalar
    | cons step rest =>
      cases step with
      | key name => exact ⟨name, rfl⟩
      | index place => cases isScalar

theorem HidesAll.rules (hideAll : ∀ rule ∈ policy.maskRules, HidesAll rule.strategy) :
    ∀ rule ∈ policy.rules, rule.HidesAll := by
  intro rule inRules
  rcases mem_append.mp inRules with isDrop | isMask
  · obtain ⟨drop, -, rfl⟩ := mem_map.mp isDrop
    trivial
  · obtain ⟨mask, inMasks, rfl⟩ := mem_map.mp isMask
    exact hideAll mask inMasks

end Payloads

/-- A payload whose masks hide all is logged confidentially exactly when each selected
value of it is taken at the place to which earlier drops moved it. -/
theorem confidential_iff (hashText : JsonValue → String) {payload : JsonValue}
    {policy : DecisionLogPolicy} (distinct : payload.Distinct)
    (carries : (payload.get "decision_log_policy").bind fromValue = some policy)
    (hideAll : ∀ rule ∈ policy.maskRules, HidesAll rule.strategy) :
    Confidential hashText policy payload ↔ AllTaken policy payload := by
  obtain ⟨final, collected, run, -⟩ := @rules_run hashText policy.rules (HidesAll.rules hideAll)
    ⟨policy.policyVersion, [], [], [], []⟩ payload
  have isLogged := sanitize_of_runs carries run.runs
  constructor
  · intro confidential path old isScalar selected outsidePolicy outsideArtifact
    by_contra stays
    obtain ⟨after, isFollowed⟩ := ne_none_iff_exists'.mp stays
    obtain ⟨new, isNew⟩ := exists_other_scalar old
    have changed := @scalarAt_setScalar payload new old path isScalar
    have differ : DifferInSelected policy payload (payload.setScalar new path) :=
      related_setScalar (fun _ _ => Or.inl rfl)
        (fun _ => Or.inr ⟨selected, outsidePolicy⟩) payload
    obtain ⟨otherFinal, otherRuns, -⟩ := run.related differ
    obtain ⟨final', collected', otherRun, -⟩ := @rules_run hashText policy.rules
      (HidesAll.rules hideAll) ⟨policy.policyVersion, [], [], [], []⟩
      (payload.setScalar new path)
    obtain ⟨rfl, rfl⟩ : final' = otherFinal ∧ collected' = collected := by
      have sameRuns := otherRun.runs.symm.trans otherRuns
      simpa using sameRuns
    have sameLogged := confidential _ differ
    rw [isLogged, sanitize_of_runs (differ.get_policy ▸ carries) otherRuns,
      Option.some.injEq] at sameLogged
    have sameScalars : final'.scalarAt after = final.scalarAt after := by
      obtain ⟨name, isHead⟩ := head_of_scalarAt carries isScalar
      obtain ⟨rest, rfl⟩ := head?_eq_some_iff.mp
        (head_followRules policy.rules isHead isFollowed)
      have otherName : name ≠ "decision_log_artifact" := by
        intro isArtifact
        rw [isArtifact] at isHead
        exact outsideArtifact isHead
      rw [logged, logged] at sameLogged
      split at sameLogged
      · rw [sameLogged]
      · have sameAt := congrArg (·.scalarAt (.key name :: rest)) sameLogged
        simpa only [scalarAt_insertArtifact otherName] using sameAt
    rw [otherRun.keeps isFollowed, run.keeps isFollowed, changed, isScalar] at sameScalars
    exact isNew (Option.some.inj sameScalars)
  · intro allTaken other differ
    have carriesOther : (other.get "decision_log_policy").bind fromValue =
        some policy := differ.get_policy ▸ carries
    obtain ⟨otherFinal, otherRuns, finals⟩ := run.related (differ.located distinct)
    by_cases bare : collected.IsBare
    · have same : payload = other := by
        refine ((run.quiet bare).2 differ).eq fun path first second holds => ?_
        rcases holds.2 with same | ⟨⟨rule, inRules, covers⟩, -⟩
        · exact same
        · exact absurd covers (holds.1 rule inRules)
      rw [same]
    · rw [isLogged, sanitize_of_runs carriesOther otherRuns, logged, logged, if_neg bare,
        if_neg bare]
      refine congrArg some (insertArtifact_congr _ finals ?_).symm
      intro path first second holds outsideArtifact
      rcases holds with same | ⟨before, isFollowed, isScalar, same | ⟨selected, outsidePolicy⟩⟩
      · exact same
      · exact same
      · have isTaken := allTaken before first isScalar selected outsidePolicy fun isArtifact =>
          outsideArtifact (head_followRules policy.rules isArtifact isFollowed)
        rw [isTaken] at isFollowed
        cases isFollowed

def maskedPayload : JsonValue :=
  .object [("decision_log_policy", .object [("mask_rules", .array [.object [
      ("id", .string "mask-secret"), ("selector", .string "secret"),
      ("strategy", .string "Full")]])]),
    ("secret", .string "abcd")]

def maskedPolicy : DecisionLogPolicy := ⟨none, [⟨"mask-secret", "secret", "Full", none⟩], []⟩

theorem masked_secret_confidential :
    Confidential (fun _ => "") maskedPolicy maskedPayload := by
  refine (confidential_iff _ ?_ (by decide) (by decide)).mpr ?_
  · simp [maskedPayload]
  · intro path scalar _ selected _ _
    obtain ⟨rule, inRules, covers⟩ := selected
    obtain rfl : rule = .mask ⟨"mask-secret", "secret", "Full", none⟩ :=
      mem_singleton.mp inRules
    have isSelector : parseSelector "secret" = ["secret"] := by decide
    simp only [LogRule.selector, isSelector] at covers
    cases path with
    | nil => cases covers
    | cons step rest =>
      have taken : follow (step :: rest)
          (.mask ⟨"mask-secret", "secret", "Full", none⟩) = none := by
        simp only [follow, isSelector]
        exact if_pos covers
      rw [followRules]
      exact congrArg (bind · _) taken

def droppedPayload (second : String) : JsonValue :=
  .object [("a", .array [.string "x", .string second, .string "z"]),
    ("decision_log_policy", .object [("drop_rules", .array [
      .object [("id", .string "first"), ("selector", .string "a.0")],
      .object [("id", .string "second"), ("selector", .string "a.1")]])])]

def droppedPolicy : DecisionLogPolicy :=
  ⟨none, [], [⟨"first", "a.0", none⟩, ⟨"second", "a.1", none⟩]⟩

/-- The second drop removes the third element, and the second one is logged. -/
theorem second_drop_misses :
    (droppedPayload "y").Distinct ∧
      ((droppedPayload "y").get "decision_log_policy").bind fromValue =
        some droppedPolicy ∧
      ¬Confidential (fun _ => "") droppedPolicy (droppedPayload "y") := by
  refine ⟨by simp [droppedPayload], by decide, ?_⟩
  · intro confidential
    have differ : DifferInSelected droppedPolicy (droppedPayload "y") (droppedPayload "n") := by
      have selected : Selected droppedPolicy [.key "a", .index 1] :=
        ⟨.drop ⟨"second", "a.1", none⟩, by decide, by decide⟩
      exact @related_setScalar _ (.string "n") [.key "a", .index 1]
        (fun _ _ => Or.inl rfl) (fun _ => Or.inr ⟨selected, nofun⟩) (droppedPayload "y")
    have same := confidential _ differ
    have sameLogged := congrArg (·.bind (·.scalarAt [.key "a", .index 0])) same
    revert sameLogged
    decide

end AutoLoop.Security.PolicyHost
