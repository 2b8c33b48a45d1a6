import PgidSso.Alert.Orchestration.Canonical
import PgidSso.Library.Dictionary

open checked

namespace pgid.alert.orchestration

def ALERT_EVALUATOR_SOURCE_IDS : List AlertEvaluatorSourceId :=
  [.queueSecurityEventsDlq, .queueLogoutDeliveriesDlq, .queueAlertDeliveriesDlq, .queueAuditArchiveDlq,
    .d1Audit, .d1OauthClientReport, .d1SecurityFanoutGap, .d1LogoutDelivery, .d1AlertRuntime]

structure AlertEvaluatorSourceProofValue where
  incompleteCount : Int
  observationCount : Int
  proofSha256 : Text
  sourceId : AlertEvaluatorSourceId
  status : EvaluatorSourceStatus
  deriving DecidableEq

structure AlertEvaluatorDecisionProofValue where
  decisionSha256 : Text
  disposition : EvaluatorDisposition
  evaluationSha256 : Text
  identitySha256 : Text
  ordinal : Int
  sourceId : AlertEvaluatorSourceId
  deriving DecidableEq

/-- `/^[A-Za-z0-9_-]{42}[AEIMQUYcgkosw048]$/`. -/
def BASE64URL_SHA256 (value : Text) : Bool :=
  Text.fits (List.replicate 42 base64.isCharacter ++ [base64.isFinal]) value

def INVALID_ALERT_RUN_PROOF : String := "invalid alert run proof"

section parsers

def boundedInteger (value maximum : Int) : Except String Int := do
  throwIf (value < 0 ∨ value > maximum) INVALID_ALERT_RUN_PROOF
  return value

def parseAlertEvaluatorDigest (value : Text) : Except String Text := do
  throwIf (BASE64URL_SHA256 value = false) INVALID_ALERT_RUN_PROOF
  return value

/-- Whether the source could not be read, or what it read is invalid. -/
def isFailed (status : EvaluatorSourceStatus) : Bool :=
  status = .invalid ∨ status = .unavailable

def parseAlertEvaluatorSourceProofValue (value : AlertEvaluatorSourceProofValue) :
    Except String AlertEvaluatorSourceProofValue := do
  let observationCount ← boundedInteger value.observationCount 10000
  let incompleteCount ← boundedInteger value.incompleteCount 10000
  throwIf
    ((value.status = .complete ∧ incompleteCount ≠ 0) ∨ (value.status = .partly ∧ incompleteCount = 0) ∨
      (isFailed value.status = true ∧ (observationCount ≠ 0 ∨ incompleteCount ≠ 0)))
    INVALID_ALERT_RUN_PROOF
  let proofSha256 ← parseAlertEvaluatorDigest value.proofSha256
  return { incompleteCount, observationCount, proofSha256, sourceId := value.sourceId, status := value.status }

def parseAlertEvaluatorDecisionProofValue (value : AlertEvaluatorDecisionProofValue) :
    Except String AlertEvaluatorDecisionProofValue := do
  let decisionSha256 ← parseAlertEvaluatorDigest value.decisionSha256
  let evaluationSha256 ← parseAlertEvaluatorDigest value.evaluationSha256
  let identitySha256 ← parseAlertEvaluatorDigest value.identitySha256
  let ordinal ← boundedInteger value.ordinal 9999
  return { decisionSha256, disposition := value.disposition, evaluationSha256, identitySha256, ordinal,
           sourceId := value.sourceId }

theorem boundedInteger_eq_ok_iff {value maximum result : Int} :
    boundedInteger value maximum = .ok result ↔ result = value ∧ 0 ≤ value ∧ value ≤ maximum := by
  rw [boundedInteger, throwIf_bind_eq_ok_iff, pure_eq_ok_iff]
  omega

theorem parseAlertEvaluatorDigest_eq_ok_iff {value result : Text} :
    parseAlertEvaluatorDigest value = .ok result ↔ result = value ∧ BASE64URL_SHA256 value = true := by
  rw [parseAlertEvaluatorDigest, throwIf_bind_eq_ok_iff, pure_eq_ok_iff, Bool.not_eq_false, eq_comm (a := value)]
  exact and_comm

theorem parseAlertEvaluatorSourceProofValue_returns : Returns parseAlertEvaluatorSourceProofValue := by
  intro value result hresult
  rw [parseAlertEvaluatorSourceProofValue, bind_eq_ok_iff] at hresult
  obtain ⟨observationCount, hobservation, hresult⟩ := hresult
  rw [bind_eq_ok_iff] at hresult
  obtain ⟨incompleteCount, hincomplete, hresult⟩ := hresult
  rw [throwIf_bind_eq_ok_iff, bind_eq_ok_iff] at hresult
  obtain ⟨_, proofSha256, hdigest, hresult⟩ := hresult
  obtain ⟨rfl, _⟩ := boundedInteger_eq_ok_iff.mp hobservation
  obtain ⟨rfl, _⟩ := boundedInteger_eq_ok_iff.mp hincomplete
  obtain ⟨rfl, _⟩ := parseAlertEvaluatorDigest_eq_ok_iff.mp hdigest
  rw [pure_eq_ok_iff] at hresult
  exact hresult.symm

/-- A decision's proof is accepted for its digests and its ordinal. -/
theorem parseAlertEvaluatorDecisionProofValue_eq_ok_iff {value result : AlertEvaluatorDecisionProofValue} :
    parseAlertEvaluatorDecisionProofValue value = .ok result ↔
      result = value ∧ BASE64URL_SHA256 value.decisionSha256 = true ∧
        BASE64URL_SHA256 value.evaluationSha256 = true ∧ BASE64URL_SHA256 value.identitySha256 = true ∧
        0 ≤ value.ordinal ∧ value.ordinal ≤ 9999 := by
  simp only [parseAlertEvaluatorDecisionProofValue, bind_eq_ok_iff, parseAlertEvaluatorDigest_eq_ok_iff,
    boundedInteger_eq_ok_iff, pure_eq_ok_iff]
  constructor
  · rintro ⟨_, ⟨rfl, hdecision⟩, _, ⟨rfl, hevaluation⟩, _, ⟨rfl, hidentity⟩, _, ⟨rfl, hlow, hhigh⟩, rfl⟩
    exact ⟨rfl, hdecision, hevaluation, hidentity, hlow, hhigh⟩
  · rintro ⟨rfl, hdecision, hevaluation, hidentity, hlow, hhigh⟩
    exact ⟨_, ⟨rfl, hdecision⟩, _, ⟨rfl, hevaluation⟩, _, ⟨rfl, hidentity⟩, _, ⟨rfl, hlow, hhigh⟩, rfl⟩

theorem parseAlertEvaluatorDecisionProofValue_returns : Returns parseAlertEvaluatorDecisionProofValue :=
  fun _ _ hresult => (parseAlertEvaluatorDecisionProofValue_eq_ok_iff.mp hresult).1

end parsers

section manifests

/-- The digest of `JSON.stringify(value)`. -/
def canonicalDigest (sha256 : Sha256) (text : Text) : Text :=
  bytesToBase64url (sha256 text.encode).toList

def sourceManifestEntry (value : AlertEvaluatorSourceProofValue) : Text :=
  json.object
    [("sourceId", quoted value.sourceId.text), ("status", quoted value.status.text),
      ("observationCount", json.integer value.observationCount),
      ("incompleteCount", json.integer value.incompleteCount), ("proofSha256", json.string value.proofSha256)]

def alertEvaluatorSourceManifestDigest (sha256 : Sha256) (values : List AlertEvaluatorSourceProofValue) :
    Except String Text := do
  throwIf (values.length ≠ ALERT_EVALUATOR_SOURCE_IDS.length) INVALID_ALERT_RUN_PROOF
  let parsed ← values.mapM parseAlertEvaluatorSourceProofValue
  let bySource := Dictionary.ofEntries (parsed.map fun value => (value.sourceId, value))
  throwIf (bySource.entries.length ≠ ALERT_EVALUATOR_SOURCE_IDS.length) INVALID_ALERT_RUN_PROOF
  let entries ← ALERT_EVALUATOR_SOURCE_IDS.mapM fun sourceId =>
    required (bySource.get sourceId) INVALID_ALERT_RUN_PROOF fun value => .ok (sourceManifestEntry value)
  return canonicalDigest sha256
    (json.array (quoted "pgid.alert.evaluator.source-manifest.v1" :: entries))

def decisionManifestEntry (value : AlertEvaluatorDecisionProofValue) : Text :=
  json.object
    [("ordinal", json.integer value.ordinal), ("sourceId", quoted value.sourceId.text),
      ("identitySha256", json.string value.identitySha256),
      ("evaluationSha256", json.string value.evaluationSha256),
      ("decisionSha256", json.string value.decisionSha256), ("disposition", quoted value.disposition.text)]

/-- The loop over the parsed values, from an ordinal on and after some identities. -/
def checkDecisions : Int → List Text → List AlertEvaluatorDecisionProofValue → Except String Unit
  | _, _, [] => .ok ()
  | ordinal, identities, value :: values => do
    throwIf (value.ordinal ≠ ordinal ∨ value.identitySha256 ∈ identities) INVALID_ALERT_RUN_PROOF
    checkDecisions (ordinal + 1) (identities ++ [value.identitySha256]) values

def alertEvaluatorDecisionManifestDigest (sha256 : Sha256) (values : List AlertEvaluatorDecisionProofValue) :
    Except String Text := do
  throwIf (values.length > 10000) INVALID_ALERT_RUN_PROOF
  let parsed ← values.mapM parseAlertEvaluatorDecisionProofValue
  checkDecisions 0 [] parsed
  return canonicalDigest sha256
    (json.array (quoted "pgid.alert.evaluator.decision-manifest.v1" :: parsed.map decisionManifestEntry))

/-- The loop accepts values that count on from the ordinal, with new and distinct identities. -/
theorem checkDecisions_eq_ok_iff {ordinal : Int} {identities : List Text}
    {values : List AlertEvaluatorDecisionProofValue} (hidentities : identities.Nodup) :
    checkDecisions ordinal identities values = .ok () ↔
      values.map (·.ordinal) = (List.range values.length).map (fun index : Nat => ordinal + index) ∧
        (identities ++ values.map (·.identitySha256)).Nodup := by
  induction values generalizing ordinal identities with
  | nil => simp [checkDecisions, hidentities]
  | cons value values ih =>
    have hshift : (fun index : Nat => ordinal + (index : Int)) ∘ Nat.succ = fun index : Nat => ordinal + 1 + index := by
      funext index
      simp only [Function.comp_apply, Nat.succ_eq_add_one, Nat.cast_add, Nat.cast_one]
      omega
    rw [checkDecisions, throwIf_bind_eq_ok_iff, not_or, Decidable.not_not, List.map_cons, List.map_cons,
      List.length_cons, List.range_succ_eq_map, List.map_cons, List.map_map, hshift, List.cons.injEq,
      List.append_cons identities value.identitySha256 (values.map _)]
    constructor
    · rintro ⟨⟨hordinal, hfresh⟩, hrest⟩
      have hnodup : (identities ++ [value.identitySha256]).Nodup := by
        apply List.nodup_append.mpr
        refine ⟨hidentities, List.nodup_singleton _, ?_⟩
        rintro first hfirst last hlast rfl
        obtain rfl := List.mem_singleton.mp hlast
        exact hfresh hfirst
      obtain ⟨hordinals, hdistinct⟩ := (ih hnodup).mp hrest
      exact ⟨⟨by rw [hordinal]; omega, hordinals⟩, hdistinct⟩
    · rintro ⟨⟨hordinal, hordinals⟩, hdistinct⟩
      have hnodup : (identities ++ [value.identitySha256]).Nodup := (List.nodup_append.mp hdistinct).1
      refine ⟨⟨by rw [hordinal]; omega, ?_⟩, (ih hnodup).mpr ⟨hordinals, hdistinct⟩⟩
      intro hmem
      exact (List.nodup_append.mp hnodup).2.2 _ hmem _ (List.mem_singleton_self _) rfl

/-- The manifest of decisions is accepted when each of them is, their ordinals are their places and
their identities are distinct. -/
theorem alertEvaluatorDecisionManifestDigest_of_valid {sha256 : Sha256}
    {values : List AlertEvaluatorDecisionProofValue} (hlength : values.length ≤ 10000)
    (hparsed : ∀ value ∈ values, parseAlertEvaluatorDecisionProofValue value = .ok value)
    (hordinals : values.map (·.ordinal) = (List.range values.length).map (fun index : Nat => (index : Int)))
    (hidentities : (values.map (·.identitySha256)).Nodup) :
    ∃ digest, alertEvaluatorDecisionManifestDigest sha256 values = .ok digest := by
  have hchecked : checkDecisions 0 [] values = .ok () := by
    rw [checkDecisions_eq_ok_iff List.nodup_nil, List.nil_append]
    simp only [Int.zero_add]
    exact ⟨hordinals, hidentities⟩
  have hmapped := (mapM_eq_ok_iff_of_returns parseAlertEvaluatorDecisionProofValue_returns).mpr ⟨rfl, hparsed⟩
  rw [alertEvaluatorDecisionManifestDigest, throwIf_bind_of_not (by omega), hmapped, ok_bind, hchecked, ok_bind]
  exact ⟨_, rfl⟩

/-- The manifest of sources is accepted when there is one valid proof of each of them. -/
theorem alertEvaluatorSourceManifestDigest_of_valid {sha256 : Sha256}
    {values : List AlertEvaluatorSourceProofValue}
    (hsources : values.map (·.sourceId) = ALERT_EVALUATOR_SOURCE_IDS)
    (hparsed : ∀ value ∈ values, parseAlertEvaluatorSourceProofValue value = .ok value) :
    ∃ digest, alertEvaluatorSourceManifestDigest sha256 values = .ok digest := by
  have hlength : values.length = ALERT_EVALUATOR_SOURCE_IDS.length := by
    rw [← hsources, List.length_map]
  have hmapped := (mapM_eq_ok_iff_of_returns parseAlertEvaluatorSourceProofValue_returns).mpr ⟨rfl, hparsed⟩
  have hkeys : (values.map fun value => (value.sourceId, value)).map Prod.fst = ALERT_EVALUATOR_SOURCE_IDS := by
    rw [List.map_map, ← hsources]
    rfl
  have hdistinct : ((values.map fun value => (value.sourceId, value)).map Prod.fst).Nodup := by
    rw [hkeys]
    decide
  have hentries := Dictionary.entries_ofEntries hdistinct
  have hfound : ∀ sourceId ∈ ALERT_EVALUATOR_SOURCE_IDS, ∃ entry,
      (required ((Dictionary.ofEntries (values.map fun value => (value.sourceId, value))).get sourceId)
        INVALID_ALERT_RUN_PROOF fun value => .ok (sourceManifestEntry value)) = .ok entry := by
    intro sourceId hmem
    rw [← hsources] at hmem
    obtain ⟨value, hvalue, rfl⟩ := List.mem_map.mp hmem
    refine ⟨_, required_eq_ok_iff.mpr ⟨value, Dictionary.get_eq_some_iff.mpr ?_, rfl⟩⟩
    rw [hentries]
    exact List.mem_map_of_mem hvalue
  obtain ⟨entries, hmanifest⟩ := exists_mapM_eq_ok hfound
  rw [alertEvaluatorSourceManifestDigest, throwIf_bind_of_not (by omega), hmapped, ok_bind]
  dsimp only
  rw [throwIf_bind_of_not (by rw [hentries, List.length_map]; omega), hmanifest, ok_bind]
  exact ⟨_, rfl⟩

end manifests

end pgid.alert.orchestration
