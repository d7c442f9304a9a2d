import AutoLoop.Foundation.JsonValue

/-!
# Policy decisions

The records of `contracts::policy_pdp` and their derived `Deserialize` from a JSON value.
A record comes from an object with its fields, or from an array of them in their order.
-/

namespace AutoLoop.Contracts

/-! ## Fields -/

section Fields

variable {α : Type}

/-- The values of the fields of a record; what is not there may have a default. -/
def structFields (names : List String) : JsonValue → Option (List (Option JsonValue))
  | .object members => some (names.map fun name => members.lookup name)
  | .array items =>
    if items.length ≤ names.length then
      some ((List.range names.length).map (items[·]?))
    else
      none
  | .scalar _ => none

/-- A field of `Option` type, `None` when it is not there. -/
def optionalField (decode : JsonValue → Option α) : Option JsonValue → Option (Option α)
  | none => some none
  | some .null => some none
  | some value => (decode value).map some

/-- A field of `Vec` type, empty when it is not there. -/
def listField (decode : JsonValue → Option α) : Option JsonValue → Option (List α)
  | none => some []
  | some (.array items) => items.mapM decode
  | some _ => none

def u64Value : JsonValue → Option UInt64
  | .number (.posInt value) => some value
  | _ => none

end Fields

/-! ## Records -/

inductive PolicyMode where
  | off
  | shadow
  | enforced
  deriving DecidableEq, Repr

structure PolicyVersion where
  id : String
  revision : UInt64
  deriving DecidableEq, Repr

structure DecisionReason where
  code : String
  message : String
  ruleId : Option String
  deriving DecidableEq, Repr

structure MaskRule where
  id : String
  selector : String
  strategy : String
  reason : Option String
  deriving DecidableEq, Repr

structure DropRule where
  id : String
  selector : String
  reason : Option String
  deriving DecidableEq, Repr

structure PolicyDecision where
  allowed : Bool
  mode : PolicyMode
  version : PolicyVersion
  reasons : List DecisionReason
  maskRules : List MaskRule
  dropRules : List DropRule
  deriving DecidableEq, Repr

/-! ## Reading -/

def PolicyMode.fromValue : JsonValue → Option PolicyMode
  | .string name => ofName name
  | .object [(name, .null)] => ofName name
  | _ => none
where
  ofName : String → Option PolicyMode
    | "off" => some .off
    | "shadow" => some .shadow
    | "enforced" => some .enforced
    | _ => none

section
variable (value : JsonValue)

def PolicyVersion.fromValue : Option PolicyVersion :=
  match structFields ["id", "revision"] value with
  | some [some id, some revision] => return ⟨← id.asString, ← u64Value revision⟩
  | _ => none

def DecisionReason.fromValue : Option DecisionReason :=
  match structFields ["code", "message", "rule_id"] value with
  | some [some code, some message, ruleId] =>
    return ⟨← code.asString, ← message.asString, ← optionalField JsonValue.asString ruleId⟩
  | _ => none

def MaskRule.fromValue : Option MaskRule :=
  match structFields ["id", "selector", "strategy", "reason"] value with
  | some [some id, some selector, some strategy, reason] =>
    return ⟨← id.asString, ← selector.asString, ← strategy.asString,
      ← optionalField JsonValue.asString reason⟩
  | _ => none

def DropRule.fromValue : Option DropRule :=
  match structFields ["id", "selector", "reason"] value with
  | some [some id, some selector, reason] =>
    return ⟨← id.asString, ← selector.asString, ← optionalField JsonValue.asString reason⟩
  | _ => none

end

def PolicyDecision.fromValue (value : JsonValue) : Option PolicyDecision :=
  match structFields ["allowed", "mode", "version", "reasons", "mask_rules", "drop_rules"]
    value with
  | some [some allowed, some mode, some version, reasons, maskRules, dropRules] =>
    return ⟨← allowed.asBool, ← PolicyMode.fromValue mode, ← PolicyVersion.fromValue version,
      ← listField DecisionReason.fromValue reasons, ← listField MaskRule.fromValue maskRules,
      ← listField DropRule.fromValue dropRules⟩
  | _ => none

/-! ## Writing -/

open JsonValue (bool string unsigned optional)

def PolicyMode.name : PolicyMode → String
  | .off => "off"
  | .shadow => "shadow"
  | .enforced => "enforced"

def DecisionReason.toValue (reason : DecisionReason) : JsonValue :=
  .object [("code", string reason.code), ("message", string reason.message),
    ("rule_id", optional string reason.ruleId)]

def MaskRule.toValue (rule : MaskRule) : JsonValue :=
  .object [("id", string rule.id), ("reason", optional string rule.reason),
    ("selector", string rule.selector), ("strategy", string rule.strategy)]

def DropRule.toValue (rule : DropRule) : JsonValue :=
  .object [("id", string rule.id), ("reason", optional string rule.reason),
    ("selector", string rule.selector)]

def PolicyDecision.toValue (decision : PolicyDecision) : JsonValue :=
  .object [("allowed", bool decision.allowed),
    ("drop_rules", .array (decision.dropRules.map DropRule.toValue)),
    ("mask_rules", .array (decision.maskRules.map MaskRule.toValue)),
    ("mode", string decision.mode.name),
    ("reasons", .array (decision.reasons.map DecisionReason.toValue)),
    ("version", .object [("id", string decision.version.id),
      ("revision", unsigned decision.version.revision)])]

structure PolicyInput where
  tenantId : String
  subject : String
  action : String
  resource : Option String
  labels : List String
  contextHash : Option String
  deriving DecidableEq, Repr

def PolicyInput.toValue (input : PolicyInput) : JsonValue :=
  .object [("action", string input.action), ("context_hash", optional string input.contextHash),
    ("labels", .array (input.labels.map string)), ("resource", optional string input.resource),
    ("subject", string input.subject), ("tenant_id", string input.tenantId)]

end AutoLoop.Contracts
