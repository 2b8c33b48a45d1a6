import PgidSso.Alert.Orchestration.Proof
import PgidSso.Library.Comparator

/-! What the evaluator collects of its sources. -/

open checked comparator

namespace pgid.alert.orchestration

section order

/-- The code points of a text; an unpaired surrogate is one by itself. -/
def codePoints : Text → List Nat
  | high :: low :: rest =>
    if Text.IsHigh high ∧ Text.IsLow low then
      (0x10000 + (high.toNat - 0xD800) * 0x400 + (low.toNat - 0xDC00)) :: codePoints rest
    else high.toNat :: codePoints (low :: rest)
  | [code] => [code.toNat]
  | [] => []

/-- The comparison of `compareCodePoints`, point by point. -/
def comparePoints : List Nat → List Nat → Int
  | [], [] => 0
  | [], _ :: _ => -1
  | _ :: _, [] => 1
  | left :: lefts, right :: rights =>
    let difference : Int := left - right
    if difference ≠ 0 then difference else comparePoints lefts rights

def compareCodePoints (left right : Text) : Int :=
  comparePoints (codePoints left) (codePoints right)

def RULE_ORDER (ruleId : AlertRuleId) : Nat :=
  ALERT_RULE_IDS.idxOf ruleId

def DIMENSION_ORDER : AlertDimensionKind → Nat
  | .global => 0
  | .hashed .subjectHmac => 1
  | .hashed .actorHmac => 2
  | .hashed .clientHmac => 3
  | .queue => 4

def dimensionValue : AlertDimension → Text
  | .global => []
  | .queue queue => Text.of queue.text
  | .hashed _ reference => json.integer reference.keyVersion ++ Text.of ":" ++ Text.of reference.value

def compareObservations (left right : AlertRuleObservation) : Int :=
  let rule : Int := RULE_ORDER left.ruleId - RULE_ORDER right.ruleId
  if rule ≠ 0 then rule
  else
    let dimension : Int := DIMENSION_ORDER left.dimension.kind - DIMENSION_ORDER right.dimension.kind
    if dimension ≠ 0 then dimension
    else compareCodePoints (dimensionValue left.dimension) (dimensionValue right.dimension)

end order

section rules

/-- The rules of the audit source. -/
def AUDIT_ALERT_RULE_IDS : List AlertRuleId :=
  [.registrationRateLimited, .registrationDenied, .registrationChallengeUnavailable,
    .registrationRestrictedCreated, .restrictedSensitiveDenied, .recoveryEntryAbuse, .recoveryPasskeyFailure,
    .passkeyStepUpFailure, .adminSensitiveActivity, .adminDirectoryVolume]

/-- The queue that a source samples. -/
def sourceQueue : AlertEvaluatorSourceId → Option AlertQueueName
  | .queueSecurityEventsDlq => some .securityEventsDlq
  | .queueLogoutDeliveriesDlq => some .logoutDeliveriesDlq
  | .queueAlertDeliveriesDlq => some .alertDeliveriesDlq
  | .queueAuditArchiveDlq => some .auditArchiveDlq
  | _ => none

def sourceAllowsRule (sourceId : AlertEvaluatorSourceId) (ruleId : AlertRuleId) : Bool :=
  match sourceId with
  | .d1Audit => ruleId ∈ AUDIT_ALERT_RULE_IDS
  | .d1OauthClientReport => ruleId = .oauthClientReport
  | .d1SecurityFanoutGap => ruleId = .securityFanoutGap
  | .d1LogoutDelivery => ruleId = .logoutDeliveryHealth
  | .d1AlertRuntime => ruleId = .alertRuntimeHealth
  | _ => ruleId = .queueDlqApproximate

def sourceAllowsObservation (sourceId : AlertEvaluatorSourceId) (observation : AlertRuleObservation) : Bool :=
  if sourceAllowsRule sourceId observation.ruleId = false then false
  else
    match sourceQueue sourceId with
    | none => true
    | some queue => observation.dimension = .queue queue

end rules

section sources

structure SourceIncompleteIdentity where
  dimensionKind : AlertDimensionKind
  ruleId : AlertRuleId
  deriving DecidableEq

/-- What a reader of a source returns. -/
structure SourceReaderResult where
  incomplete : List SourceIncompleteIdentity
  observations : List AlertObservationInput

structure CollectedSource where
  forcePartial : Bool
  incomplete : List SourceIncompleteIdentity
  observations : List AlertRuleObservation
  planningObservations : List AlertRuleObservation
  proof : AlertEvaluatorSourceProofValue
  sourceId : AlertEvaluatorSourceId

def INVALID_ALERT_SOURCE_RESULT : String := "invalid alert source result"

/-- The observations of a source, by their identities. -/
abbrev Observations := Dictionary Text AlertRuleObservation

/-- The loop of `normalizeSourceResult` over the observations. -/
def normalizeObservations (sourceId : AlertEvaluatorSourceId) (asOf : Timestamp) :
    List AlertObservationInput → Observations → Except String Observations
  | [], observations => .ok observations
  | candidate :: candidates, observations => do
    let observation ← parseAlertObservation candidate
    throwIf (observation.asOf ≠ asOf ∨ sourceAllowsObservation sourceId observation = false)
      INVALID_ALERT_SOURCE_RESULT
    match observations.get (semanticIdentity observation) with
    | none =>
      normalizeObservations sourceId asOf candidates (observations.set (semanticIdentity observation) observation)
    | some existing =>
      -- The source keeps the canonical text beside the observation it is made of.
      throwIf (observationText existing ≠ observationText observation) INVALID_ALERT_SOURCE_RESULT
      normalizeObservations sourceId asOf candidates observations

/-- The key that `normalizeSourceResult` keeps an incomplete part under. -/
def incompleteKey (identity : SourceIncompleteIdentity) : Text :=
  Text.of identity.ruleId.text ++ [0] ++ Text.of identity.dimensionKind.text

/-- Its loop over the incomplete parts; a dimension has one of the known kinds. -/
def normalizeIncomplete (sourceId : AlertEvaluatorSourceId) :
    List SourceIncompleteIdentity → Dictionary Text SourceIncompleteIdentity →
      Except String (Dictionary Text SourceIncompleteIdentity)
  | [], incomplete => .ok incomplete
  | candidate :: candidates, incomplete => do
    throwIf (sourceAllowsRule sourceId candidate.ruleId = false) INVALID_ALERT_SOURCE_RESULT
    normalizeIncomplete sourceId candidates (incomplete.set (incompleteKey candidate) candidate)

def compareIncomplete (left right : SourceIncompleteIdentity) : Int :=
  let rule := compareCodePoints (Text.of left.ruleId.text) (Text.of right.ruleId.text)
  if rule ≠ 0 then rule
  else compareCodePoints (Text.of left.dimensionKind.text) (Text.of right.dimensionKind.text)

def normalizeSourceResult (sourceId : AlertEvaluatorSourceId) (result : SourceReaderResult) (asOf : Timestamp) :
    Except String (List SourceIncompleteIdentity × List AlertRuleObservation) := do
  let observations ← normalizeObservations sourceId asOf result.observations Dictionary.empty
  let incomplete ← normalizeIncomplete sourceId result.incomplete Dictionary.empty
  return (sortedBy compareIncomplete incomplete.values, sortedBy compareObservations observations.values)

/-- The failure of a reader: a known error of a repository with its code, or any other. -/
inductive SourceError where
  | invalidInput
  | sourceInvalid
  | sourceUnavailable
  | writeFailed
  | unknown
  deriving DecidableEq

def sourceErrorStatus : SourceError → EvaluatorSourceStatus
  | .invalidInput => .invalid
  | .sourceInvalid => .invalid
  | _ => .unavailable

def incompleteText (identity : SourceIncompleteIdentity) : Text :=
  json.object [("dimensionKind", quoted identity.dimensionKind.text), ("ruleId", quoted identity.ruleId.text)]

variable (sha256 : Sha256)

def failedSource (sourceId : AlertEvaluatorSourceId) (status : EvaluatorSourceStatus) : CollectedSource where
  forcePartial := false
  incomplete := []
  observations := []
  planningObservations := []
  proof := {
    incompleteCount := 0
    observationCount := 0
    proofSha256 := canonicalAlertEvaluatorProofDigest sha256 .source
      (json.object [("sourceId", quoted sourceId.text), ("status", quoted status.text)])
    sourceId
    status }
  sourceId

/-- The source of a result that was normalized. -/
def normalizedSource (sourceId : AlertEvaluatorSourceId) (incomplete : List SourceIncompleteIdentity)
    (observations : List AlertRuleObservation) : CollectedSource :=
  let status := if incomplete.length = 0 then EvaluatorSourceStatus.complete else .partly
  { forcePartial := false
    incomplete
    observations
    planningObservations := observations
    proof := {
      incompleteCount := incomplete.length
      observationCount := observations.length
      proofSha256 := canonicalAlertEvaluatorProofDigest sha256 .source
        (json.object
          [("incomplete", json.array (incomplete.map incompleteText)),
            ("observations", json.array (observations.map observationText)),
            ("sourceId", quoted sourceId.text), ("status", quoted status.text)])
      sourceId
      status }
    sourceId }

def completedSource (sourceId : AlertEvaluatorSourceId) (result : SourceReaderResult) (asOf : Timestamp) :
    CollectedSource :=
  match normalizeSourceResult sourceId result asOf with
  | .ok (incomplete, observations) => normalizedSource sha256 sourceId incomplete observations
  | .error _ => failedSource sha256 sourceId .invalid

def collectSource (sourceId : AlertEvaluatorSourceId) (reader : Except SourceError SourceReaderResult)
    (asOf : Timestamp) : CollectedSource :=
  match reader with
  | .ok result => completedSource sha256 sourceId result asOf
  | .error error => failedSource sha256 sourceId (sourceErrorStatus error)

end sources

end pgid.alert.orchestration
