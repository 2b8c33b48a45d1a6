import PgidSso.Alert.Orchestration.Planned
import PgidSso.Alert.Orchestration.Unsuppressed

/-! What a run plans can be sealed, and calms no alert over incomplete data. -/

open checked

namespace pgid.alert.orchestration

/-- Decision proofs that the rows of the sources admit: numbered from zero, of distinct identities, and suppressed
only for a source that is recorded as partial. -/
structure Sealable (rows : List EvaluatorSourceRow) (proofs : List AlertEvaluatorDecisionProofValue) : Prop where
  ordinals : proofs.map (·.ordinal) = (List.range proofs.length).map fun index : Nat => (index : Int)
  identities : (proofs.map (·.identitySha256)).Nodup
  suppressed : ∀ proof ∈ proofs, proof.disposition = .suppressedPartial →
    ∃ row ∈ rows, row.sourceId = proof.sourceId ∧ row.status = .partly

section sealable

variable {Expectation : Type} {sha256 : Sha256} {environment : AlertEnvironment}
  {readLifecycleSnapshot : Nat → AlertLifecycleIdentity → Except String (AlertLifecycleSnapshot Expectation)}
  {asOf : Timestamp} {sources : List CollectedSource} {plans : List (PlannedDecision Expectation)}

/-- Every plan of the collected sources passes the checks of the seal, for the sources that were recorded of the same
collection; and what it has decided over incomplete data is suppressed, or its alert stands no lower than before and
resolves nothing. -/
theorem planDecisions_sealable
    {readers : List (AlertEvaluatorSourceId × Except SourceError SourceReaderResult)} {ledger : Ledger}
    {runId : String} (hreaders : readers.map Prod.fst = ALERT_EVALUATOR_SOURCE_IDS)
    (hcapped : applyWorkCap sha256 (sourcesOf sha256 asOf readers) = .ok sources)
    (hcollision : Set.InjOn sha256 (identityInputs environment sources))
    (hplans : planDecisions sha256 environment readLifecycleSnapshot asOf sources = .ok plans)
    (hrecorded : Recorded asOf sources (ledger.sourcesOf runId)) :
    Sealable (ledger.sourcesOf runId) (plans.map (·.proof)) ∧
      (∃ plan, evaluator.sealedPlan sha256 ledger runId (plans.map (·.proof)) = .ok plan) ∧
      ∀ plan ∈ plans, ∃ source ∈ sources, source.sourceId = plan.sourceId ∧
        plan.observation ∈ source.planningObservations ∧
        (observationIsPartial source plan.observation = true →
          plan.proof.disposition = .suppressedPartial ∨ NeverCalms plan) := by
  have hdistinct : (readers.map Prod.fst).Nodup := by
    rw [hreaders]
    decide
  obtain ⟨hprepared, hids⟩ := applyWorkCap_prepared hdistinct hcapped
  refine ⟨⟨planDecisions_ordinals hplans, planDecisions_identities hprepared hcollision hplans, ?_⟩, ?_, ?_⟩
  · intro proof hproof hsuppressed
    obtain ⟨source, hsource, hsourceId, hpartly⟩ := planDecisions_suppressed hprepared hplans proof hproof hsuppressed
    obtain ⟨row, hrow, -, recorder, recordedAt, rfl⟩ := table.related_of_mem_left hrecorded hsource
    exact ⟨_, hrow, (hprepared.attested source hsource).sourceId.trans hsourceId, hpartly⟩
  · obtain ⟨plan, hplan, -⟩ :=
      sealedPlan_planDecisions hprepared (hids.trans hreaders) hcollision hplans hrecorded
    exact ⟨plan, hplan⟩
  · intro plan hplan
    obtain ⟨item, hsource, hobservation, hplanned⟩ := planDecisions_item hplans hplan
    refine ⟨item.1.source, hsource, hplanned.sourceId.symm, by rw [hplanned.observation]; exact hobservation, ?_⟩
    intro hpartly
    rw [hplanned.observation, ← hplanned.sourcePartial] at hpartly
    by_cases hsuppressed : plan.proof.disposition = .suppressedPartial
    · exact .inl hsuppressed
    · exact .inr (hplanned.decides.neverCalms hpartly hsuppressed)

/-- A gap of the fanout, read by a source that reports its rule as incomplete; the others have read nothing. -/
def gapReaders (asOf : Timestamp) : List (AlertEvaluatorSourceId × Except SourceError SourceReaderResult) :=
  ALERT_EVALUATOR_SOURCE_IDS.map fun sourceId =>
    (sourceId, .ok (if sourceId = .d1SecurityFanoutGap then
      { incomplete := [{ dimensionKind := .global, ruleId := .securityFanoutGap }]
        observations := [{ fanoutGap with asOf }] }
      else { incomplete := [], observations := [] }))

/-- The gap of two runs, a minute apart. -/
def gapAsOf : Bool → Timestamp
  | false => plannedAsOf
  | true => ⟨180120, by decide⟩

theorem gapReaders_capped (later : Bool) :
    (applyWorkCap sha2.sha256 (sourcesOf sha2.sha256 (gapAsOf later) (gapReaders (gapAsOf later)))).toOption.isSome =
      true := by
  cases later <;> decide +kernel

def gapSources (later : Bool) : List CollectedSource :=
  (applyWorkCap sha2.sha256 (sourcesOf sha2.sha256 (gapAsOf later) (gapReaders (gapAsOf later)))).toOption.get
    (gapReaders_capped later)

/-- The decision over a state that has been written before, or over none. -/
def gapDecisions (previous : AlertLifecycleState) (later : Bool) : Except String (List (PlannedDecision Unit)) :=
  planDecisions sha2.sha256 .production (fun _ _ => .ok { expected := none, previous }) (gapAsOf later)
    (gapSources later)

theorem gapDecisions_planned : (gapDecisions inactiveAlertState false).toOption.isSome = true := by decide +kernel

/-- The rows of the sources that were recorded of the first collection. -/
def gapLedger : Ledger :=
  { acquiredDatabase.ledger with
    sources := (gapSources false).map fun source =>
      evaluator.sourceRow earlierFence (gapAsOf false) source.proof (gapAsOf false) }

/-- The gap is written over no state, and stands higher than it; its plan can be sealed. -/
theorem planDecisions_sealable_gap :
    ∃ plans, gapDecisions inactiveAlertState false = .ok plans ∧
      Sealable (gapLedger.sourcesOf earlierFence.runId) (plans.map (·.proof)) ∧
      (∃ plan, evaluator.sealedPlan sha2.sha256 gapLedger earlierFence.runId (plans.map (·.proof)) = .ok plan) ∧
      ∃ plan ∈ plans, plan.proof.disposition = .applied ∧ NeverCalms plan := by
  have hreaders : (gapReaders (gapAsOf false)).map Prod.fst = ALERT_EVALUATOR_SOURCE_IDS := by decide
  have hdistinct : ((gapReaders (gapAsOf false)).map Prod.fst).Nodup := by decide
  have hcapped : applyWorkCap sha2.sha256 (sourcesOf sha2.sha256 (gapAsOf false) (gapReaders (gapAsOf false))) =
      .ok (gapSources false) := eq_ok_get (gapReaders_capped false)
  obtain ⟨hprepared, -⟩ := applyWorkCap_prepared hdistinct hcapped
  have hone : ∃ observation, allPlanned (gapSources false) = [observation] :=
    List.length_eq_one_iff.mp (by decide +kernel)
  obtain ⟨observation, hone⟩ := hone
  have hcollision : Set.InjOn sha2.sha256 (identityInputs .production (gapSources false)) :=
    injOn_identityInputs_of_one hone
  have hrecorded : Recorded (gapAsOf false) (gapSources false) (gapLedger.sourcesOf earlierFence.runId) :=
    recorded_of_rows rfl hprepared (by decide +kernel)
  obtain ⟨hsealable, hsealed, hcalms⟩ :=
    planDecisions_sealable hreaders hcapped hcollision (eq_ok_get gapDecisions_planned) hrecorded
  refine ⟨_, eq_ok_get gapDecisions_planned, hsealable, hsealed, ?_⟩
  have happlied : ∃ plan ∈ (gapDecisions inactiveAlertState false).toOption.get gapDecisions_planned,
      plan.proof.disposition = .applied ∧
        ∀ source ∈ gapSources false, source.sourceId = plan.sourceId →
          observationIsPartial source plan.observation = true := by
    decide +kernel
  obtain ⟨plan, hplan, hdisposition, hpartly⟩ := happlied
  obtain ⟨source, hsource, hsourceId, -, hnever⟩ := hcalms plan hplan
  refine ⟨plan, hplan, hdisposition, (hnever (hpartly source hsource hsourceId)).resolve_left ?_⟩
  rw [hdisposition]
  decide

/-- The state that the first decision leaves: a warning that waits to be confirmed. -/
def pendingGap : AlertLifecycleState :=
  (((gapDecisions inactiveAlertState false).toOption.get gapDecisions_planned).head (by decide +kernel)).decision.state

theorem pendingGap_planned : (gapDecisions pendingGap true).toOption.isSome = true := by decide +kernel

/-- The gap is seen again: the warning is confirmed, and no breach is pending any more. -/
theorem planDecisions_confirmed :
    ∃ plans, gapDecisions pendingGap true = .ok plans ∧ ∃ plan ∈ plans,
      plan.sourcePartial = true ∧ plan.proof.disposition = .applied ∧
        severityRank (plan.decision.state.breachSeverity.map (·.severity)) <
          severityRank (plan.snapshot.previous.breachSeverity.map (·.severity)) :=
  ⟨_, eq_ok_get pendingGap_planned, by decide +kernel⟩

end sealable

end pgid.alert.orchestration
