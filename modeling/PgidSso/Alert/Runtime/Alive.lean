import PgidSso.Alert.Queue.Sustained
import PgidSso.Alert.Runtime.Evaluator

open checked transition

namespace pgid.alert

section evaluation

variable {observation : AlertRuleObservation} {metrics : Windowed MetricBag} {evaluation : AlertRuleEvaluation}

theorem selectedEvidence_mem {components : List AlertMetricEvidence} {severity : ActiveAlertSeverity}
    {window : AlertWindowKey} {evidence : AlertSelectedEvidence}
    (hselected : selectedEvidence components severity window = .ok evidence) :
    evidence.toAlertMetricEvidence ∈ components := by
  unfold selectedEvidence at hselected
  split at hselected
  · cases hselected
    exact List.mem_cons_self
  · cases hselected
    exact List.mem_cons_self
  · cases hselected

/-- What an evaluation selects is a component of a breached threshold of its rule. -/
theorem evaluateThresholds_component (heval : evaluateThresholds observation metrics = .ok evaluation)
    {evidence : AlertSelectedEvidence} (hselected : evaluation.selectedEvidence = some evidence) :
    ∃ severity window, ∃ expression ∈ thresholdFor observation.ruleId window severity, ∃ components,
      evaluateExpression expression (metrics.at window) = .ok (.breached components) ∧
      evidence.toAlertMetricEvidence ∈ components := by
  obtain ⟨critical, hcritical, hcriticalSound⟩ :=
    evaluateWindowThresholds_sound observation.ruleId metrics .critical
  obtain ⟨warning, hwarning, hwarningSound⟩ :=
    evaluateWindowThresholds_sound observation.ruleId metrics .warning
  simp only [evaluateThresholds, hcritical, hwarning, ok_bind] at heval
  cases hfound : critical.found with
  | cons first rest =>
    simp only [hfound] at heval
    obtain ⟨chosen, hchosen, heq⟩ := bind_eq_ok_iff.mp heval
    cases heq
    cases hselected
    have hfirst : first ∈ first :: rest := List.mem_cons_self
    obtain ⟨hmem, -⟩ := find_getD (p := fun found =>
      isImmediateCriticalEvidence observation.ruleId found.components) hfirst
    have hsound := hcriticalSound.1
    rw [hfound] at hsound
    obtain ⟨expression, hexpression, hbreached⟩ := hsound _ hmem
    exact ⟨.critical, _, expression, hexpression, _, hbreached, selectedEvidence_mem hchosen⟩
  | nil =>
    simp only [hfound] at heval
    cases hmatches : warning.found with
    | cons first rest =>
      simp only [hmatches] at heval
      obtain ⟨chosen, hchosen, heq⟩ := bind_eq_ok_iff.mp heval
      cases heq
      cases hselected
      obtain ⟨expression, hexpression, hbreached⟩ := hwarningSound.1 first (hmatches ▸ List.mem_cons_self)
      exact ⟨.warning, _, expression, hexpression, _, hbreached, selectedEvidence_mem hchosen⟩
    | nil =>
      rw [hmatches] at heval
      cases heval
      cases hselected

/-- The rule takes a missing evaluator from one on. -/
theorem runtimeContract_missing {window : AlertWindowKey} {severity : ActiveAlertSeverity}
    {expression : ThresholdExpression} (hexpression : expression ∈ thresholdFor .alertRuntimeHealth window severity)
    {contract : List AlertEvidenceContractComponent} (hcontract : contract ∈ evidenceContractsFor expression)
    {component : AlertEvidenceContractComponent} (hmem : component ∈ contract)
    (hmissing : component.metricName = .evaluatorMissing) : 1 ≤ component.threshold := by
  have hall : ∀ expression ∈ thresholdFor .alertRuntimeHealth window severity,
      ∀ contract ∈ evidenceContractsFor expression, ∀ component ∈ contract,
        component.metricName = .evaluatorMissing → 1 ≤ component.threshold := by
    cases window <;> cases severity <;> decide
  exact hall expression hexpression contract hcontract component hmem hmissing

theorem ProvesSome.component {bag : MetricBag} {components : List AlertMetricEvidence}
    {contracts : List (List AlertEvidenceContractComponent)} (hproves : ProvesSome bag components contracts)
    {component : AlertMetricEvidence} (hmem : component ∈ components) :
    ∃ contract ∈ contracts, ∃ required ∈ contract, ComponentProves bag component required := by
  obtain ⟨contract, hcontract, hall⟩ := hproves
  refine ⟨contract, hcontract, ?_⟩
  clear hcontract
  induction hall with
  | nil => exact absurd hmem List.not_mem_nil
  | cons hhead htail ih =>
    rcases List.mem_cons.mp hmem with rfl | hmem
    · exact ⟨_, List.mem_cons_self, hhead⟩
    · obtain ⟨required, hrequired, hproved⟩ := ih hmem
      exact ⟨required, List.mem_cons_of_mem _ hrequired, hproved⟩

theorem ComponentProves.missing {bag : MetricBag} {component : AlertMetricEvidence}
    {required : AlertEvidenceContractComponent} (hproves : ComponentProves bag component required)
    (hname : component.metricName = .evaluatorMissing) :
    ∃ observed, bag .evaluatorMissing = some observed ∧ required.threshold ≤ observed := by
  cases hproves with
  | @gte metric value observed hobserved hvalue =>
    obtain rfl : metric = .evaluatorMissing := METRIC_NAMES_eq_evaluatorMissing hname
    exact ⟨observed, hobserved, hvalue⟩
  | ratio => cases hname

/-- An evaluator whose age is known is not reported missing. -/
theorem evaluateAlertRule_alive {asOf : Timestamp} {snapshot : AlertRuntimeSnapshot}
    (hparse : parseAlertObservation (runtimeObservation asOf snapshot).input = .ok (runtimeObservation asOf snapshot))
    (hwindows : -Timestamp.maximumMs + 3600000 ≤ asOf.ms) (hknown : snapshot.evaluatorAgeSeconds ≠ none) :
    ∃ evaluation, evaluateAlertRule (runtimeObservation asOf snapshot).input = .ok evaluation ∧
      ∀ evidence ∈ evaluation.selectedEvidence, evidence.metricName ≠ .evaluatorMissing := by
  obtain ⟨evaluation, heval, -⟩ := evaluateAlertRule_returns hparse hwindows
  refine ⟨evaluation, heval, ?_⟩
  intro evidence hselected hmissing
  obtain ⟨windows, hwindows⟩ := alertWindowsAt_ok_iff.mpr hwindows
  simp only [evaluateAlertRule, hparse, ok_bind] at heval
  simp only [runtimeObservation, hwindows, ok_bind] at heval
  obtain ⟨severity, window, expression, hexpression, components, hbreached, hmem⟩ :=
    evaluateThresholds_component heval hselected
  obtain ⟨contract, hcontract, component, hcomponent, hproved⟩ :=
    (evaluateExpression_breached expression hbreached).component hmem
  have hrequired := runtimeContract_missing hexpression hcontract hcomponent (hproved.metricName_eq.symm.trans hmissing)
  obtain ⟨observed, hobserved, hthreshold⟩ := hproved.missing hmissing
  have hbag : ((metricsForObservation (runtimeObservation asOf snapshot) none).at window) .evaluatorMissing =
      some 0 := by
    have hzero : runtimeBag snapshot .evaluatorMissing = some (if snapshot.evaluatorAgeSeconds = none then 1 else 0) := rfl
    rw [if_neg hknown] at hzero
    cases window <;> exact hzero
  obtain rfl : 0 = observed := Option.some.inj (hbag.symm.trans hobserved)
  omega

end evaluation

/-- What the repository keeps of a ledger, whether its statements arrive or not. -/
structure Ledger.KeptAs (ledger next : Ledger) : Prop where
  sound : next.Sound
  bootstrap : next.bootstrap = ledger.bootstrap

namespace evaluator

variable {ledger next : Ledger} {fence : AlertEvaluatorRunFence} {delivery : sql.Delivery}

/-- The evaluator's row is there, and was last written by an instant. -/
def WrittenBy (ledger : Ledger) (limit : Int) : Prop :=
  ∃ row, ledger.runtime = some row ∧ row.updatedAt.ms ≤ limit

theorem WrittenBy.mono {limit later : Int} (hwritten : WrittenBy ledger limit) (hle : limit ≤ later) :
    WrittenBy ledger later := by
  obtain ⟨row, hrow, hupdated⟩ := hwritten
  exact ⟨row, hrow, Int.le_trans hupdated hle⟩

theorem WrittenBy.congr {limit : Int} (hwritten : WrittenBy ledger limit) (hsame : ledger.SameRuntime next) :
    WrittenBy next limit := by
  obtain ⟨row, hrow, hupdated⟩ := hwritten
  exact ⟨row, hsame.1.trans hrow, hupdated⟩

theorem canonicalTimestamp_eq_ok {value result : Timestamp} (hcanonical : canonicalTimestamp value = .ok result) :
    result = value := by
  rw [canonicalTimestamp, throwIf_bind_eq_ok_iff] at hcanonical
  cases hcanonical.2
  rfl

/-- Nothing is acquired before the insert, and a run that is offered starts after the last
write of the row. -/
theorem acquisition_eq_ok {scheduledAt startedAt : Timestamp} {duration : Int} {runId leaseId : String}
    {answer : AcquireAlertEvaluatorRunResult ⊕ RuntimeStatusRow × EvaluatorRunRow}
    (hanswer : acquisition ledger scheduledAt startedAt duration runId leaseId = .ok answer) :
    (∀ fence run, answer ≠ .inl (.acquired fence run)) ∧
      ∀ runtime run, answer = .inr (runtime, run) →
        ledger.runtime = some runtime ∧ runtime.updatedAt < startedAt ∧ run.leaseUpdatedAt = startedAt := by
  unfold acquisition at hanswer
  obtain ⟨scheduled, -, hanswer⟩ := bind_eq_ok_iff.mp hanswer
  obtain ⟨started, hstarted, hanswer⟩ := bind_eq_ok_iff.mp hanswer
  have hinstant : started = startedAt := canonicalTimestamp_eq_ok hstarted
  obtain ⟨seconds, -, hanswer⟩ := bind_eq_ok_iff.mp hanswer
  rw [throwIf_bind_eq_ok_iff] at hanswer
  obtain ⟨-, hanswer⟩ := hanswer
  split at hanswer
  · cases hanswer
    constructor
    · rintro fence run ⟨⟩
    · rintro runtime run ⟨⟩
  · split at hanswer
    · cases hanswer
    · rename_i found hfound
      rw [throwIf_bind_eq_ok_iff] at hanswer
      obtain ⟨-, hanswer⟩ := hanswer
      split at hanswer
      · cases hanswer
        constructor
        · rintro fence run ⟨⟩
        · rintro runtime run ⟨⟩
      · rename_i hfree
        obtain ⟨expiresAt, -, heq⟩ := bind_eq_ok_iff.mp hanswer
        cases heq
        rw [not_or, hinstant] at hfree
        constructor
        · rintro fence run ⟨⟩
        rintro runtime run ⟨⟩
        exact ⟨hfound, Int.not_le.mp hfree.1, hinstant⟩

/-- After an acquisition the row was last written when the run started, or before. -/
theorem acquireAlertEvaluatorRun_kept {scheduledAt startedAt : Timestamp} {duration : Int} {runId leaseId : String}
    {result : Except AlertRunRepositoryErrorCode AcquireAlertEvaluatorRunResult} (hsound : ledger.Sound)
    (hacquire : acquireAlertEvaluatorRun ledger scheduledAt startedAt duration runId leaseId delivery =
      (result, next)) :
    ledger.KeptAs next ∧
      ∀ fence run, result = .ok (.acquired fence run) → WrittenBy next startedAt.ms := by
  unfold acquireAlertEvaluatorRun at hacquire
  split at hacquire
  · obtain ⟨rfl, rfl⟩ := Prod.mk.inj hacquire
    exact ⟨⟨hsound, rfl⟩, fun fence run hresult => by cases hresult⟩
  · rename_i answered hanswered
    obtain ⟨rfl, rfl⟩ := Prod.mk.inj hacquire
    refine ⟨⟨hsound, rfl⟩, ?_⟩
    intro fence run hresult
    cases hresult
    exact absurd rfl ((acquisition_eq_ok hanswered).1 fence run)
  · rename_i runtime run hoffer
    obtain ⟨hruntime, hbefore, hlease⟩ := (acquisition_eq_ok hoffer).2 runtime run rfl
    have hsent : ledger.KeptAs (delivery.send (Ledger.insertRun run) ledger).2 ∧
        WrittenBy (delivery.send (Ledger.insertRun run) ledger).2 startedAt.ms := by
      rcases delivery.send_effect (Ledger.insertRun run) ledger with heq | ⟨changes, hinsert⟩
      · rw [heq]
        exact ⟨⟨hsound, rfl⟩, runtime, hruntime, Int.le_of_lt hbefore⟩
      · obtain ⟨row, -, -, hnext, hbootstrap, -⟩ := Ledger.insertRun_acquires hinsert
        exact ⟨⟨hsound.insertRun hinsert, hbootstrap⟩, _, hnext, Int.le_of_eq (congrArg Timestamp.ms hlease)⟩
    cases hsend : delivery.send (Ledger.insertRun run) ledger with
    | mk answer last =>
      rw [hsend] at hacquire hsent
      cases answer <;> obtain ⟨-, rfl⟩ := Prod.mk.inj hacquire <;> exact ⟨hsent.1, fun _ _ _ => hsent.2⟩

/-- The binding of a run leaves the runtime row. -/
theorem bindAlertEvaluatorRunAsOf_same {asOf boundAt : Timestamp}
    {result : Except AlertRunRepositoryErrorCode AlertEvaluatorRunMutationResult}
    (hbind : bindAlertEvaluatorRunAsOf ledger fence asOf boundAt delivery = (result, next)) :
    ledger.SameRuntime next := by
  unfold bindAlertEvaluatorRunAsOf at hbind
  split at hbind
  · obtain ⟨-, rfl⟩ := Prod.mk.inj hbind
    exact ⟨rfl, rfl⟩
  · rename_i parsed hparsed
    have hnext : (delivery.send (bindStatement parsed asOf boundAt) ledger).2 = next := congrArg Prod.snd hbind
    rw [← hnext]
    rcases delivery.send_effect (bindStatement parsed asOf boundAt) ledger with heq | ⟨changes, hupdate⟩
    · rw [heq]
      exact ⟨rfl, rfl⟩
    · refine Ledger.updateRun_same (fun run hrenews => ?_) hupdate
      have hrevision : run.leaseRevision = run.leaseRevision + 1 := hrenews.2.2
      omega

theorem initializeRuntime_kept (startedAt : Timestamp) (initialization : sql.Delivery) (hsound : ledger.Sound) :
    ledger.KeptAs (initialization.send (Ledger.initializeRuntime startedAt) ledger).2 := by
  rcases initialization.send_effect (Ledger.initializeRuntime startedAt) ledger with heq | ⟨changes, hinserted⟩
  · rw [heq]
    exact ⟨hsound, rfl⟩
  · exact ⟨hsound.initializeRuntime hinserted, Ledger.initializeRuntime_bootstrap hinserted⟩

section invariant

/-- What a worker that is between two steps relies on in its ledger. -/
def Relies (ledger : Ledger) : EvaluatorWorker → Prop
  | .idle => True
  | .started sentinel clock _ startedAt =>
    (sentinel = true → ledger.bootstrap ≠ none) ∧ clock.lastLogical = some startedAt.ms
  | .acquired sentinel clock _ =>
    (sentinel = true → ledger.bootstrap ≠ none) ∧ ∃ last, clock.lastLogical = some last ∧ WrittenBy ledger last
  | .settled sentinel _ _ asOf => (sentinel = true → ledger.bootstrap ≠ none) ∧ WrittenBy ledger asOf.ms
  | .bound sentinel _ _ asOf => (sentinel = true → ledger.bootstrap ≠ none) ∧ WrittenBy ledger asOf.ms
  | .renewed sentinel _ _ asOf => (sentinel = true → ledger.bootstrap ≠ none) ∧ WrittenBy ledger asOf.ms
  | .finishing _ => True

end invariant

end evaluator

/-- Once the sentinel exists, a complete source has one observation: of the age of the last
success, and not of a missing evaluator. -/
def RuntimeSourceRead.Alive (read : RuntimeSourceRead) : Prop :=
  read.sentinel = true → read.source.status = .complete →
    ∃ row lastSuccessAt snapshot, read.runtime = some row ∧ row.lastSuccessAt = some lastSuccessAt ∧
      read.source.observations = [runtimeObservation read.asOf snapshot] ∧
      ((read.asOf.ms - lastSuccessAt.ms) / 1000 ≤ MAX_EVIDENCE_VALUE →
        snapshot.evaluatorAgeSeconds = some ((read.asOf.ms - lastSuccessAt.ms) / 1000) ∧
        ∃ evaluation, evaluateAlertRule (runtimeObservation read.asOf snapshot).input = .ok evaluation ∧
          ∀ evidence ∈ evaluation.selectedEvidence, evidence.metricName ≠ .evaluatorMissing)

/-- The first check of the lease finds more than the renewal threshold left of it. -/
def EvaluatorSystem.LeaseLeft (system : EvaluatorSystem) (action : EvaluatorAction) : Prop :=
  match system.worker, action with
  | .bound _ clock fence _, .maybeRenew reading _ =>
    fence.leaseExpiresAt.ms - clock.logicalTime reading > RENEWAL_THRESHOLD_MILLISECONDS
  | _, _ => True

namespace evaluator

/-- What the runs keep of the system. -/
structure EvaluatorInvariant (system : EvaluatorSystem) : Prop where
  sound : system.ledger.Sound
  relies : Relies system.ledger system.worker
  reads : ∀ read ∈ system.reads, read.Alive

variable {system next : EvaluatorSystem} {action : EvaluatorAction}

theorem initial_invariant (hinitial : Initial system) : EvaluatorInvariant system := by
  rw [Initial] at hinitial
  subst hinitial
  refine ⟨⟨?_, ?_⟩, trivial, fun read hread => absurd hread List.not_mem_nil⟩
  · rintro row ⟨⟩
  · rintro bootstrap ⟨⟩

theorem startedWorker_relies (ledger : Ledger) (scheduledTime : Int) (reading : Timestamp) :
    Relies ledger (startedWorker scheduledTime reading ledger) := by
  unfold startedWorker
  split
  · rename_i scheduledAt startedAt clock hstart
    unfold runStart at hstart
    obtain ⟨scheduled, -, hstart⟩ := bind_eq_ok_iff.mp hstart
    obtain ⟨⟨started, found⟩, hstarted, hstart⟩ := bind_eq_ok_iff.mp hstart
    rw [throwIf_bind_eq_ok_iff] at hstart
    cases hstart.2
    obtain ⟨-, rfl⟩ := nextTime_eq_ok hstarted
    refine ⟨fun hsentinel => ?_, rfl⟩
    rw [Option.isSome_iff_ne_none] at hsentinel
    exact hsentinel
  · trivial

theorem acquireRun_relies {ledger : Ledger} {sentinel : Bool} {clock : MonotonicClock}
    {scheduledAt startedAt : Timestamp} (runId leaseId : String) (initialization delivery : sql.Delivery)
    (hsound : ledger.Sound) (hrelies : Relies ledger (.started sentinel clock scheduledAt startedAt)) :
    (acquireRun sentinel clock scheduledAt startedAt runId leaseId initialization delivery ledger).2.Sound ∧
      Relies (acquireRun sentinel clock scheduledAt startedAt runId leaseId initialization delivery ledger).2
        (acquireRun sentinel clock scheduledAt startedAt runId leaseId initialization delivery ledger).1 := by
  obtain ⟨hsentinel, hclock⟩ := hrelies
  have hinitialized := initializeRuntime_kept startedAt initialization hsound
  unfold acquireRun
  split
  · rename_i initialized hsend
    rw [hsend] at hinitialized
    split
    · rename_i fence run last hacquire
      obtain ⟨hkept, hwritten⟩ := acquireAlertEvaluatorRun_kept hinitialized.sound hacquire
      refine ⟨hkept.sound, ?_, startedAt.ms, hclock, hwritten fence run rfl⟩
      intro hsome
      rw [hkept.bootstrap, hinitialized.bootstrap]
      exact hsentinel hsome
    · rename_i result last hnot hacquire
      exact ⟨(acquireAlertEvaluatorRun_kept hinitialized.sound hacquire).1.sound, trivial⟩
  · rename_i answer initialized hnot hsend
    rw [hsend] at hinitialized
    exact ⟨hinitialized.sound, trivial⟩

/-- The metrics settle after the run has started. -/
theorem settleMetrics_relies {ledger : Ledger} {sentinel : Bool} {clock : MonotonicClock}
    {fence : AlertEvaluatorRunFence} (reading : Timestamp)
    (hrelies : Relies ledger (.acquired sentinel clock fence)) :
    Relies ledger (settleMetrics sentinel clock fence reading) := by
  obtain ⟨hsentinel, last, hclock, hwritten⟩ := hrelies
  unfold settleMetrics
  split
  · rename_i asOf later hnext
    have hlogical := (nextTime_eq_ok hnext).1
    simp only [MonotonicClock.logicalTime, hclock] at hlogical
    refine ⟨hsentinel, hwritten.mono ?_⟩
    split at hlogical <;> omega
  · trivial

theorem bindRun_relies {ledger : Ledger} {sentinel : Bool} {clock : MonotonicClock}
    {fence : AlertEvaluatorRunFence} {asOf : Timestamp} (reading : Timestamp) (delivery : sql.Delivery)
    (hsound : ledger.Sound) (hrelies : Relies ledger (.settled sentinel clock fence asOf)) :
    (bindRun sentinel clock fence asOf reading delivery ledger).2.Sound ∧
      Relies (bindRun sentinel clock fence asOf reading delivery ledger).2
        (bindRun sentinel clock fence asOf reading delivery ledger).1 := by
  obtain ⟨hsentinel, hwritten⟩ := hrelies
  unfold bindRun
  split
  · exact ⟨hsound, trivial⟩
  · split
    · rename_i result last hbind
      have hsame := bindAlertEvaluatorRunAsOf_same hbind
      split
      · refine ⟨hsound.congr hsame, ?_, hwritten.congr hsame⟩
        rw [hsame.2]
        exact hsentinel
      · exact ⟨hsound.congr hsame, trivial⟩
    · rename_i code last hbind
      exact ⟨hsound.congr (bindAlertEvaluatorRunAsOf_same hbind), trivial⟩

/-- A run that has enough of its lease left goes on without a write. -/
theorem maybeRenew_relies {ledger : Ledger} {sentinel : Bool} {clock : MonotonicClock}
    {fence : AlertEvaluatorRunFence} {asOf reading : Timestamp} (delivery : sql.Delivery)
    (hsound : ledger.Sound) (hrelies : Relies ledger (.bound sentinel clock fence asOf))
    (hleft : fence.leaseExpiresAt.ms - clock.logicalTime reading > RENEWAL_THRESHOLD_MILLISECONDS) :
    (maybeRenew sentinel clock fence asOf reading delivery ledger).2.Sound ∧
      Relies (maybeRenew sentinel clock fence asOf reading delivery ledger).2
        (maybeRenew sentinel clock fence asOf reading delivery ledger).1 := by
  unfold maybeRenew
  split
  · exact ⟨hsound, trivial⟩
  · rename_i checkedAt later hnext
    rw [if_pos ((nextTime_eq_ok hnext).1 ▸ hleft)]
    exact ⟨hsound, hrelies⟩

/-- What a run reads from a sound ledger that was last written by its `asOf`. -/
theorem readRuntime_alive {ledger : Ledger} {sentinel : Bool} {asOf : Timestamp}
    (outbox : Option OutboxProjection) (hsound : ledger.Sound) (hsentinel : sentinel = true → ledger.bootstrap ≠ none)
    (hwritten : WrittenBy ledger asOf.ms) : (readRuntime sentinel asOf outbox ledger).Alive := by
  intro hstarted hcomplete
  obtain ⟨bootstrap, hbootstrap⟩ := Option.ne_none_iff_exists'.mp (hsentinel hstarted)
  obtain ⟨row, hrow, hupdated⟩ := hwritten
  obtain ⟨lastSuccessAt, hsuccess, hage⟩ := hsound.evaluatorAge hbootstrap hrow hupdated
  rcases collectRuntimeSource_complete hcomplete with ⟨hnone, -⟩ | ⟨-, snapshot, hsnapshot, hobserved, hparse, hwindows⟩
  · exact absurd hnone (hsentinel hstarted)
  · refine ⟨row, lastSuccessAt, snapshot, hrow, hsuccess, hobserved, ?_⟩
    intro hbound
    rw [show (readRuntime sentinel asOf outbox ledger).asOf = asOf from rfl] at hbound ⊢
    have hknown := hsnapshot.trans (hage.trans (if_pos hbound))
    exact ⟨hknown, evaluateAlertRule_alive hparse hwindows (hknown ▸ Option.some_ne_none _)⟩

theorem perform_invariant (hinv : EvaluatorInvariant system) (hleft : system.LeaseLeft action)
    (hperform : perform system action = some next) : EvaluatorInvariant next := by
  obtain ⟨hsound, hrelies, hreads⟩ := hinv
  obtain ⟨ledger, worker, reads⟩ := system
  unfold perform at hperform
  split at hperform
  · cases hperform
    exact ⟨hsound, startedWorker_relies ledger _ _, hreads⟩
  · rename_i runId leaseId initialization delivery sentinel clock scheduledAt startedAt hworker
    cases hperform
    simp only at hworker
    subst hworker
    obtain ⟨hnext, hworker⟩ := acquireRun_relies runId leaseId initialization delivery hsound hrelies
    exact ⟨hnext, hworker, hreads⟩
  · rename_i reading sentinel clock fence hworker
    cases hperform
    simp only at hworker
    subst hworker
    exact ⟨hsound, settleMetrics_relies reading hrelies, hreads⟩
  · rename_i reading delivery sentinel clock fence asOf hworker
    cases hperform
    simp only at hworker
    subst hworker
    obtain ⟨hnext, hworker⟩ := bindRun_relies reading delivery hsound hrelies
    exact ⟨hnext, hworker, hreads⟩
  · rename_i reading delivery sentinel clock fence asOf hworker
    cases hperform
    simp only at hworker
    subst hworker
    obtain ⟨hnext, hworker⟩ := maybeRenew_relies delivery hsound hrelies hleft
    exact ⟨hnext, hworker, hreads⟩
  · rename_i outbox sentinel clock fence asOf hworker
    cases hperform
    simp only at hworker
    subst hworker
    refine ⟨hsound, trivial, ?_⟩
    intro read hread
    rcases List.mem_append.mp hread with hearlier | hlast
    · exact hreads read hearlier
    · obtain rfl := List.mem_singleton.mp hlast
      exact readRuntime_alive outbox hsound hrelies.1 hrelies.2
  · rename_i found
    obtain ⟨fence, -, rfl⟩ := Option.map_eq_some_iff.mp hperform
    exact ⟨hsound, trivial, hreads⟩
  · rename_i statement delivery fence hworker
    cases hperform
    refine ⟨delivery.send_invariant hsound fun hrun => EvaluatorStatement.run_sound hsound hrun, ?_, hreads⟩
    simp only at hworker
    rw [show worker = _ from hworker]
    trivial
  · cases hperform

end evaluator

/-- In runs that find enough of their lease left when they first check it, a running evaluator
never reports itself missing. -/
theorem runAlertEvaluator_alive {past : List EvaluatorAction} {system : EvaluatorSystem}
    (htrace : Trace evaluator.Initial
      (fun system action next => system.LeaseLeft action ∧ evaluator.perform system action = some next) past system) :
    ∀ read ∈ system.reads, read.Alive := by
  have hinv : evaluator.EvaluatorInvariant system := by
    induction htrace with
    | start hstart => exact evaluator.initial_invariant hstart
    | step _ hstep ih => exact evaluator.perform_invariant ih hstep.1 hstep.2
  exact hinv.reads

section schedule

/-- What the clock shows at an action. -/
def EvaluatorAction.reading : EvaluatorAction → Option Timestamp
  | .start _ reading => some reading
  | .settle reading => some reading
  | .bind reading _ => some reading
  | .maybeRenew reading _ => some reading
  | _ => none

/-- The clock shows an instant before the lease of the run expires. -/
def EvaluatorSystem.WithinLease (system : EvaluatorSystem) (action : EvaluatorAction) : Prop :=
  ∀ fence ∈ evaluator.workerFence system.worker, ∀ reading ∈ action.reading, reading < fence.leaseExpiresAt

instance (system : EvaluatorSystem) (action : EvaluatorAction) : Decidable (system.WithinLease action) :=
  inferInstanceAs (Decidable (∀ fence ∈ evaluator.workerFence system.worker, ∀ reading ∈ action.reading,
    reading < fence.leaseExpiresAt))

instance (system : EvaluatorSystem) (action : EvaluatorAction) : Decidable (system.LeaseLeft action) := by
  unfold EvaluatorSystem.LeaseLeft
  split
  · exact inferInstance
  · exact inferInstance

/-- The steps of a system that meet a condition. -/
def performIf (condition : EvaluatorSystem → EvaluatorAction → Prop)
    [∀ system action, Decidable (condition system action)] (system : EvaluatorSystem) (action : EvaluatorAction) :
    Option EvaluatorSystem :=
  if condition system action then evaluator.perform system action else none

def beforeRuns : EvaluatorSystem :=
  ⟨⟨none, [], [], [], none, []⟩, .idle, []⟩

theorem performIf_trace {condition : EvaluatorSystem → EvaluatorAction → Prop}
    [∀ system action, Decidable (condition system action)] (actions : List EvaluatorAction) :
    Trace evaluator.Initial
      (fun system action next => condition system action ∧ evaluator.perform system action = some next)
      (replay (labelled (performIf condition)) beforeRuns actions).1
      (replay (labelled (performIf condition)) beforeRuns actions).2 := by
  have hinitial : evaluator.Initial beforeRuns := rfl
  refine Trace.mono ?_ (replay_labelled_trace hinitial actions)
  intro system action next hstep
  unfold performIf at hstep
  split at hstep
  · rename_i hcondition
    exact ⟨hcondition, hstep⟩
  · cases hstep

def quietOutbox : OutboxProjection :=
  ⟨0, 0, none, none, 0, none, none⟩

/-- The sources of the first run, all complete and recorded at one instant. -/
def completeSources : List EvaluatorAction :=
  [.queueSecurityEventsDlq, .queueLogoutDeliveriesDlq, .queueAlertDeliveriesDlq, .queueAuditArchiveDlq, .d1Audit,
    .d1OauthClientReport, .d1SecurityFanoutGap, .d1LogoutDelivery, .d1AlertRuntime].map fun sourceId =>
      .write (.recordSource
        { runId := "first", sourceId, asOf := ⟨60020, by decide⟩, status := .complete, observationCount := 0,
          incompleteCount := 0, proofSha256 := "proof", runtimeGeneration := 1, runtimeRevision := 1,
          recordedAt := ⟨60055, by decide⟩ }) .answered

def firstFence : AlertEvaluatorRunFence where
  leaseExpiresAt := ⟨300012, by decide⟩
  leaseId := "lease"
  leaseRevision := 1
  leaseUpdatedAt := ⟨60012, by decide⟩
  runId := "first"
  runtimeGeneration := 1
  startedAt := ⟨60012, by decide⟩

/-- A run that initializes the evaluator, and one that succeeds and leaves the sentinel. -/
def firstRuns : List EvaluatorAction :=
  [.start 0 ⟨12, by decide⟩, .acquire "none" "none" .answered .answered,
    .start 60000 ⟨60012, by decide⟩, .acquire "first" "lease" .answered .answered,
    .settle ⟨60020, by decide⟩, .bind ⟨60030, by decide⟩ .answered, .maybeRenew ⟨60040, by decide⟩ .answered,
    .readRuntime (some quietOutbox)] ++ completeSources ++
  [.write (.sealPlan firstFence ⟨60020, by decide⟩ ⟨60030, by decide⟩ ⟨60060, by decide⟩ 0 0 "sources"
      "decisions") .answered,
    .write (.recordSuccess firstFence ⟨60070, by decide⟩ ⟨60020, by decide⟩) .answered]

/-- A run whose queue metrics settle at an instant, up to its reading of the runtime source. -/
def runSettlingAt (settled bound checked : Timestamp) : List EvaluatorAction :=
  [.start 120000 ⟨120010, by decide⟩, .acquire "second" "later" .answered .answered, .settle settled,
    .bind bound .answered, .maybeRenew checked .answered, .readRuntime (some quietOutbox)]

/-- The metrics settle ten milliseconds after the start. -/
def promptActions : List EvaluatorAction :=
  firstRuns ++ runSettlingAt ⟨120020, by decide⟩ ⟨120030, by decide⟩ ⟨120040, by decide⟩

/-- The metrics settle two minutes and ten seconds after the start, within the lease. -/
def slowActions : List EvaluatorAction :=
  firstRuns ++ runSettlingAt ⟨250000, by decide⟩ ⟨250010, by decide⟩ ⟨250020, by decide⟩

/-- A complete source of an evaluator that is not known to have succeeded, though it has. -/
def RuntimeSourceRead.ReportsMissing (read : RuntimeSourceRead) : Prop :=
  read.sentinel = true ∧ read.source.status = .complete ∧
    read.source.observations = [runtimeObservation read.asOf ⟨0, none, none⟩] ∧
    ∀ row ∈ read.runtime, ∀ lastSuccessAt ∈ row.lastSuccessAt,
      (read.asOf.ms - lastSuccessAt.ms) / 1000 ≤ MAX_EVIDENCE_VALUE

instance (read : RuntimeSourceRead) : Decidable read.ReportsMissing :=
  inferInstanceAs (Decidable (_ ∧ _ ∧ _ ∧ ∀ row ∈ read.runtime, ∀ lastSuccessAt ∈ row.lastSuccessAt,
    (read.asOf.ms - lastSuccessAt.ms) / 1000 ≤ MAX_EVIDENCE_VALUE))

theorem RuntimeSourceRead.ReportsMissing.not_alive {read : RuntimeSourceRead} (hmissing : read.ReportsMissing) :
    ¬ read.Alive := by
  intro halive
  obtain ⟨hsentinel, hcomplete, hobserved, hbound⟩ := hmissing
  obtain ⟨row, lastSuccessAt, snapshot, hrow, hsuccess, hone, hknown⟩ := halive hsentinel hcomplete
  obtain ⟨hage, -⟩ := hknown (hbound row hrow lastSuccessAt hsuccess)
  rw [hobserved, List.cons.injEq] at hone
  have hsnapshot : (.runtime ⟨0, none, none⟩ : AlertMeasures QueueDepthSnapshot) = .runtime snapshot :=
    congrArg AlertObservation.measures hone.1
  cases hsnapshot
  cases hage

/-- After a success, a prompt run reports its age. -/
theorem runAlertEvaluator_alive_prompt :
    (replay (labelled (performIf EvaluatorSystem.LeaseLeft)) beforeRuns promptActions).2.reads.length = 2 ∧
      ∀ read ∈ (replay (labelled (performIf EvaluatorSystem.LeaseLeft)) beforeRuns promptActions).2.reads,
        read.Alive :=
  ⟨by set_option maxRecDepth 20000 in decide, runAlertEvaluator_alive (performIf_trace promptActions)⟩

/-- After a success, a run that waits for its metrics and then renews its lease reports itself
missing. -/
theorem runAlertEvaluator_missing :
    ¬ ∀ (past : List EvaluatorAction) (system : EvaluatorSystem),
      Trace evaluator.Initial
        (fun system action next => system.WithinLease action ∧ evaluator.perform system action = some next)
        past system →
      (past.filterMap EvaluatorAction.reading).IsChain (· ≤ ·) → ∀ read ∈ system.reads, read.Alive := by
  intro hclaim
  have hreadings : ((replay (labelled (performIf EvaluatorSystem.WithinLease)) beforeRuns
      slowActions).1.filterMap EvaluatorAction.reading).IsChain (· ≤ ·) := by decide +kernel
  have hmissing : ∃ read ∈ (replay (labelled (performIf EvaluatorSystem.WithinLease)) beforeRuns
      slowActions).2.reads, read.ReportsMissing := by decide +kernel
  obtain ⟨read, hread, hreports⟩ := hmissing
  exact hreports.not_alive (hclaim _ _ (performIf_trace slowActions) hreadings read hread)

end schedule

end pgid.alert
