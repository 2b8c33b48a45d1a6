import PgidSso.Alert.Orchestration.Order
import PgidSso.Library.Reserve

/-! The bound on the observations that one run plans. -/

open checked comparator

namespace pgid.alert.orchestration

section conflicts

/-- What has been seen under an identity: the canonical texts, and the sources they are of. -/
structure Seen where
  canonicals : List Text
  sources : List AlertEvaluatorSourceId

/-- The loop of `invalidateConflictingSources` over the observations of a source. -/
def planObservations (sourceId : AlertEvaluatorSourceId) :
    Dictionary Text Seen → List AlertRuleObservation → Dictionary Text Seen × List AlertRuleObservation
  | seen, [] => (seen, [])
  | seen, observation :: observations =>
    match seen.get (semanticIdentity observation) with
    | none =>
      let rest := planObservations sourceId
        (seen.set (semanticIdentity observation)
          { canonicals := [observationText observation], sources := [sourceId] }) observations
      (rest.1, observation :: rest.2)
    | some prior =>
      planObservations sourceId
        (seen.set (semanticIdentity observation)
          { canonicals := reserve.add prior.canonicals (observationText observation)
            sources := reserve.add prior.sources sourceId }) observations

/-- Its loop over the sources. -/
def planSources : Dictionary Text Seen → List CollectedSource → Dictionary Text Seen × List CollectedSource
  | seen, [] => (seen, [])
  | seen, source :: sources =>
    if isFailed source.proof.status then
      let rest := planSources seen sources
      (rest.1, source :: rest.2)
    else
      let planned := planObservations source.sourceId seen source.observations
      let rest := planSources planned.1 sources
      (rest.1, { source with planningObservations := planned.2 } :: rest.2)

/-- The sources of the identities that have been seen with different texts. -/
def conflictingSources (seen : Dictionary Text Seen) : List AlertEvaluatorSourceId :=
  seen.values.flatMap fun entry => if entry.canonicals.length < 2 then [] else entry.sources

def invalidateConflictingSources (sha256 : Sha256) (sources : List CollectedSource) : List CollectedSource :=
  let planned := planSources Dictionary.empty sources
  planned.2.map fun source =>
    if source.sourceId ∈ conflictingSources planned.1 then failedSource sha256 source.sourceId .invalid else source

end conflicts

section cap

/-- The sum of the fixed budget for database queries. -/
def ALERT_EVALUATOR_FIXED_D1_QUERY_BUDGET : Nat :=
  8 + (15 + 4 + 2 + 9 + 2) + 4 * 3 + 9 * 3 + 4 + 5 * 2 + (9 + 8)

def ALERT_EVALUATOR_PER_WORK_ITEM_D1_QUERY_BUDGET : Nat :=
  2 + 2 + 15 + 2 + 15

def ALERT_EVALUATOR_MAX_WORK_ITEMS : Nat :=
  (1000 - 150 - ALERT_EVALUATOR_FIXED_D1_QUERY_BUDGET) / ALERT_EVALUATOR_PER_WORK_ITEM_D1_QUERY_BUDGET

/-- The observations to be planned, of all sources in their order. -/
def workOf (sources : List CollectedSource) : List AlertRuleObservation :=
  sources.flatMap fun source => if isFailed source.proof.status then [] else source.planningObservations

/-- The first observation of every source that has one. -/
def reservedObservations (sources : List CollectedSource) : List AlertRuleObservation :=
  (sources.filterMap fun source => source.planningObservations.head?).foldl reserve.add []

def retainedObservations (sources : List CollectedSource) : List AlertRuleObservation :=
  reserve.fill ALERT_EVALUATOR_MAX_WORK_ITEMS (reservedObservations sources)
    (sortedBy compareObservations (workOf sources))

def keptObservations (retained : List AlertRuleObservation) (source : CollectedSource) : List AlertRuleObservation :=
  source.planningObservations.filter fun observation => observation ∈ retained

def droppedCount (retained : List AlertRuleObservation) (source : CollectedSource) : Nat :=
  source.planningObservations.length - (keptObservations retained source).length

def INCOMPLETE_COUNT_EXCEEDS_BOUND : String := "alert evaluator incomplete count exceeds proof bound"

/-- The last loop of `applyWorkCap`, for one source. -/
def capSource (sha256 : Sha256) (retained : List AlertRuleObservation) (source : CollectedSource) :
    Except String CollectedSource :=
  if isFailed source.proof.status then .ok source
  else if droppedCount retained source = 0 then
    .ok { source with planningObservations := keptObservations retained source }
  else do
    let dropped := droppedCount retained source
    throwIf (source.incomplete.length + dropped > 10000) INCOMPLETE_COUNT_EXCEEDS_BOUND
    return {
      source with
      forcePartial := true
      planningObservations := keptObservations retained source
      proof := {
        incompleteCount := source.incomplete.length + dropped
        observationCount := source.observations.length
        proofSha256 := canonicalAlertEvaluatorProofDigest sha256 .source
          (json.object
            [("droppedByWorkCap", json.integer dropped),
              ("incomplete", json.array (source.incomplete.map incompleteText)),
              ("observations", json.array (source.observations.map observationText)),
              ("sourceId", quoted source.sourceId.text), ("status", quoted EvaluatorSourceStatus.partly.text)])
        sourceId := source.sourceId
        status := .partly } }

def WORK_CAP_CANNOT_REPRESENT_ALL_SOURCES : String := "alert evaluator work cap cannot represent all sources"

def applyWorkCap (sha256 : Sha256) (sources : List CollectedSource) : Except String (List CollectedSource) := do
  throwIf (ALERT_EVALUATOR_MAX_WORK_ITEMS < ALERT_EVALUATOR_SOURCE_IDS.length) WORK_CAP_CANNOT_REPRESENT_ALL_SOURCES
  sources.mapM (capSource sha256 (retainedObservations sources))

end cap

end pgid.alert.orchestration
