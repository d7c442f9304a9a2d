import AutoLoop.Contracts.PolicyPdp
import AutoLoop.Foundation.Text
import Mathlib.Data.List.Destutter
import Mathlib.Data.List.Sort

/-!
# Decision logs

`sanitize_decision_payload`: the drop rules and then the mask rules of the policy that a
payload carries, each applied to what the rules before it left.
-/

namespace AutoLoop.Security.PolicyHost

open Contracts

/-! ## Policies -/

structure DecisionLogPolicy where
  policyVersion : Option PolicyVersion
  maskRules : List MaskRule
  dropRules : List DropRule
  deriving DecidableEq, Repr

def DecisionLogPolicy.fromValue (value : JsonValue) : Option DecisionLogPolicy :=
  match structFields ["policy_version", "mask_rules", "drop_rules"] value with
  | some [policyVersion, maskRules, dropRules] =>
    return ⟨← optionalField PolicyVersion.fromValue policyVersion,
      ← listField MaskRule.fromValue maskRules, ← listField DropRule.fromValue dropRules⟩
  | _ => none

def policyFromDecision (decision : PolicyDecision) : DecisionLogPolicy :=
  ⟨some decision.version, decision.maskRules, decision.dropRules⟩

def detectPolicy (payload : JsonValue) : Option DecisionLogPolicy :=
  ((payload.get "decision_log_policy").bind DecisionLogPolicy.fromValue) <|>
    (((payload.get "pdp_decision").bind PolicyDecision.fromValue).map policyFromDecision) <|>
    (((payload.get "policy_decision").bind PolicyDecision.fromValue).map policyFromDecision)

/-! ## Walking along a selector -/

def parseSelector (selector : String) : List String :=
  ((Text.split '.' selector).map Text.trim).filter (· ≠ "")

def parseUsize (segment : String) : Option Nat := Text.parseUnsigned (2 ^ 64) segment

def joinPath (base segment : String) : String :=
  if base = "" then segment else base ++ "." ++ segment

/-- A value that a rule left, and the paths that it hit; no path where it panics. -/
structure Rewritten where
  value : JsonValue
  hits : List (Option String)

def Rewritten.unchanged (value : JsonValue) : Rewritten := ⟨value, []⟩

/-- Apply a function to the children that a segment names. -/
def descendChildren (value : JsonValue) (segment basePath : String)
    (func : JsonValue → String → Rewritten) : Rewritten :=
  match value with
  | .object members =>
    let rewritten := members.map fun member => (member.1,
      if segment = "*" ∨ segment = member.1 then func member.2 (joinPath basePath member.1)
      else .unchanged member.2)
    ⟨.object (rewritten.map fun entry => (entry.1, entry.2.value)),
      rewritten.flatMap fun entry => entry.2.hits⟩
  | .array items =>
    let rewritten := items.mapIdx fun index item =>
      if segment = "*" then func item (joinPath basePath index.repr)
      else if parseUsize segment = some index then func item (joinPath basePath segment)
      else .unchanged item
    ⟨.array (rewritten.map (·.value)), rewritten.flatMap (·.hits)⟩
  | .scalar _ => .unchanged value

/-- Go down along all segments of a selector but the last. -/
def applyRule (leaf : JsonValue → String → String → Rewritten) :
    List String → JsonValue → String → Rewritten
  | [], value, _ => .unchanged value
  | [head], value, basePath => leaf value head basePath
  | head :: next :: tail, value, basePath =>
    descendChildren value head basePath (applyRule leaf (next :: tail))

/-! ## Drops -/

def removeLeaf (value : JsonValue) (segment basePath : String) : Rewritten :=
  match value with
  | .object members =>
    if segment = "*" then
      ⟨.object [], members.map fun member => some (joinPath basePath member.1)⟩
    else if segment ∈ members.map Prod.fst then
      ⟨.object (members.filter fun member => member.1 ≠ segment),
        [some (joinPath basePath segment)]⟩
    else
      .unchanged value
  | .array items =>
    if segment = "*" then
      ⟨.array [], (List.range items.length).map fun index =>
        some (joinPath basePath index.repr)⟩
    else
      match parseUsize segment with
      | some index =>
        if index < items.length then
          ⟨.array (items.eraseIdx index), [some (joinPath basePath segment)]⟩
        else
          .unchanged value
      | none => .unchanged value
  | .scalar _ => .unchanged value

def applyDropRule : List String → JsonValue → String → Rewritten := applyRule removeLeaf

/-! ## Masks -/

section Masks

-- `{:016x}` of the hash of the text of a value.
variable (hashText : JsonValue → String)

/-- The last four bytes, unless they begin inside a character. -/
def lastFour (raw : String) : Option String :=
  (raw.toList.tails.map String.ofList).find? (·.utf8ByteSize = 4)

def maskedValue (value : JsonValue) (strategy : String) : Option JsonValue :=
  let strategy := Text.toAsciiLowercase strategy
  if strategy = "full" ∨ strategy = "redact" then
    some (.string "[MASKED]")
  else if strategy = "last4" then
    match value with
    | .string raw =>
      if raw.utf8ByteSize ≤ 4 then some (.string "[MASKED]")
      else (lastFour raw).map fun last => .string ("***" ++ last)
    | _ => some (.string "[MASKED]")
  else if strategy = "hash" then
    some (.string ("hash:" ++ hashText value))
  else
    some (.string ("[MASKED:" ++ strategy ++ "]"))

/-- A masked child; the walk over the children is the one of `descend_children`. -/
def maskLeaf (strategy : String) (value : JsonValue) (segment basePath : String) : Rewritten :=
  descendChildren value segment basePath fun current path =>
    match maskedValue hashText current strategy with
    | some masked => ⟨masked, [some path]⟩
    | none => ⟨current, [none]⟩

def applyMaskRule (strategy : String) : List String → JsonValue → String → Rewritten :=
  applyRule (maskLeaf hashText strategy)

/-! ## Sanitizing -/

structure DecisionLogArtifact where
  policyVersion : Option PolicyVersion
  maskedFields : List String
  droppedFields : List String
  appliedMaskRuleIds : List String
  appliedDropRuleIds : List String
  deriving DecidableEq, Repr

structure DecisionLogSanitizeOutcome where
  payload : JsonValue
  artifact : Option DecisionLogArtifact

/-- The rules of a policy in the order in which they apply. -/
inductive LogRule where
  | drop (rule : DropRule)
  | mask (rule : MaskRule)
  deriving DecidableEq, Repr

def DecisionLogPolicy.rules (policy : DecisionLogPolicy) : List LogRule :=
  policy.dropRules.map .drop ++ policy.maskRules.map .mask

def LogRule.selector : LogRule → List String
  | .drop rule => parseSelector rule.selector
  | .mask rule => parseSelector rule.selector

def LogRule.apply (value : JsonValue) : LogRule → Rewritten
  | .drop rule => applyDropRule (parseSelector rule.selector) value ""
  | .mask rule => applyMaskRule hashText rule.strategy (parseSelector rule.selector) value ""

def LogRule.note (hits : List String) (artifact : DecisionLogArtifact) :
    LogRule → DecisionLogArtifact
  | .drop rule =>
    { artifact with
      appliedDropRuleIds := artifact.appliedDropRuleIds ++ [rule.id]
      droppedFields := artifact.droppedFields ++ hits }
  | .mask rule =>
    { artifact with
      appliedMaskRuleIds := artifact.appliedMaskRuleIds ++ [rule.id]
      maskedFields := artifact.maskedFields ++ hits }

/-- One round of the loops over the rules; none if it panics. -/
def ruleStep (state : JsonValue × DecisionLogArtifact) (rule : LogRule) :
    Option (JsonValue × DecisionLogArtifact) :=
  let rewritten := rule.apply hashText state.1
  if none ∈ rewritten.hits then none
  else
    let hits := rewritten.hits.filterMap id
    some (rewritten.value, if hits = [] then state.2 else rule.note hits state.2)

/-- `sort` and `dedup`. -/
def sortDedup (texts : List String) : List String :=
  (texts.insertionSort (· ≤ ·)).destutter (· ≠ ·)

section
variable (artifact : DecisionLogArtifact)

def DecisionLogArtifact.sorted : DecisionLogArtifact where
  policyVersion := artifact.policyVersion
  maskedFields := sortDedup artifact.maskedFields
  droppedFields := sortDedup artifact.droppedFields
  appliedMaskRuleIds := sortDedup artifact.appliedMaskRuleIds
  appliedDropRuleIds := sortDedup artifact.appliedDropRuleIds

def DecisionLogArtifact.toValue : JsonValue :=
  let texts (fields : List String) : JsonValue := .array (fields.map .string)
  .object [("applied_drop_rule_ids", texts artifact.appliedDropRuleIds),
    ("applied_mask_rule_ids", texts artifact.appliedMaskRuleIds),
    ("dropped_fields", texts artifact.droppedFields),
    ("masked_fields", texts artifact.maskedFields),
    ("policy_version", match artifact.policyVersion with
      | some version => .object [("id", .string version.id),
          ("revision", .number (.posInt version.revision))]
      | none => .null)]

def insertArtifact : JsonValue → JsonValue
  | .object members =>
    .object (JsonValue.insertMember "decision_log_artifact" artifact.toValue members)
  | value => value

end

def sanitizeDecisionPayload (payload : JsonValue) : Option DecisionLogSanitizeOutcome :=
  match detectPolicy payload with
  | none => some ⟨payload, none⟩
  | some policy => do
      let (sanitized, collected) ← policy.rules.foldlM (ruleStep hashText)
        (payload, ⟨policy.policyVersion, [], [], [], []⟩)
      let artifact := collected.sorted
      if artifact.maskedFields = [] ∧ artifact.droppedFields = [] then
        return ⟨sanitized, none⟩
      else
        return ⟨insertArtifact artifact sanitized, some artifact⟩

end Masks

end AutoLoop.Security.PolicyHost
