import PgidSso.Alert.Runtime.Fence
import PgidSso.Alert.Runtime.Source

open checked

namespace pgid.alert

namespace RuntimeStatusRow

variable {old new : RuntimeStatusRow}

theorem le_of_not_regresses {before after : Option Timestamp} {earlier : Timestamp}
    (hnot : ¬ sql.Holds (regresses before after)) (hbefore : before = some earlier) :
    ∃ later, after = some later ∧ earlier ≤ later := by
  subst hbefore
  cases after with
  | none => exact absurd (by simp [regresses]) hnot
  | some later =>
    refine ⟨later, rfl, ?_⟩
    have hle : ¬ later < earlier := by simpa [regresses] using hnot
    exact Int.not_lt.mp hle

/-- What an update of the row that its trigger lets through does to the counters and instants. -/
theorem transition_le (hguard : ¬ sql.Holds (transitionGuard old new)) :
    new.component = old.component ∧ new.revision = old.revision + 1 ∧ old.updatedAt < new.updatedAt ∧
      old.generation ≤ new.generation := by
  simp only [transitionGuard, sql.holds_any_cons, sql.holds_any_nil, or_false, not_or] at hguard
  obtain ⟨hcomponent, hrevision, hupdated, hlease, -⟩ := hguard
  have hlater : ¬ new.updatedAt ≤ old.updatedAt := by simpa using hupdated
  refine ⟨by simpa using hcomponent, by simpa using hrevision, Int.not_le.mp hlater, ?_⟩
  rw [sql.holds_not, not_not] at hlease
  simp only [leaseTransition, sql.passes_any_cons, sql.passes_any_nil, sql.passes_all_cons, sql.passes_eq,
    Option.mem_def, Option.some.injEq, forall_eq', or_false] at hlease
  omega

theorem started_of_transition (hguard : ¬ sql.Holds (transitionGuard old new))
    {earlier : Timestamp} (hstarted : old.lastStartedAt = some earlier) :
    ∃ later, new.lastStartedAt = some later ∧ earlier ≤ later := by
  simp only [transitionGuard, sql.holds_any_cons, sql.holds_any_nil, or_false, not_or] at hguard
  exact le_of_not_regresses hguard.2.2.2.2.1 hstarted

theorem success_of_transition (hguard : ¬ sql.Holds (transitionGuard old new))
    {earlier : Timestamp} (hsuccess : old.lastSuccessAt = some earlier) :
    ∃ later, new.lastSuccessAt = some later ∧ earlier ≤ later := by
  simp only [transitionGuard, sql.holds_any_cons, sql.holds_any_nil, or_false, not_or] at hguard
  exact le_of_not_regresses hguard.2.2.2.2.2.1 hsuccess

/-- The order of the instants of a row, as its `CHECK`s have it. -/
structure Chronology (row : RuntimeStatusRow) : Prop where
  counters : (0 ≤ row.generation ∧ row.generation ≤ MAX_SAFE_INTEGER) ∧
    0 ≤ row.revision ∧ row.revision ≤ MAX_SAFE_INTEGER
  errors : row.lastErrorAt.isNone = row.lastErrorCode.isNone
  started : ∀ instant, row.lastStartedAt = some instant → instant ≤ row.updatedAt
  success : ∀ instant, row.lastSuccessAt = some instant → instant ≤ row.updatedAt
  error : ∀ instant, row.lastErrorAt = some instant → instant ≤ row.updatedAt

theorem Checked.chronology {row : RuntimeStatusRow} (hchecked : row.Checked) : row.Chronology := by
  have hbefore : ∀ {instant : Option Timestamp},
      sql.any [sql.isNull instant, sql.le instant (some row.updatedAt)] ∈ row.checks →
      ∀ at', instant = some at' → at' ≤ row.updatedAt := by
    rintro instant hmem at' rfl
    simpa using hchecked _ hmem
  refine ⟨⟨?_, ?_⟩, ?_, hbefore ?_, hbefore ?_, hbefore ?_⟩
  · simpa using hchecked (sql.between (some row.generation) 0 MAX_SAFE_INTEGER) (by simp [checks])
  · simpa using hchecked (sql.between (some row.revision) 0 MAX_SAFE_INTEGER) (by simp [checks])
  · have hpaired := hchecked (sql.is (some row.lastErrorAt.isNone) (some row.lastErrorCode.isNone)) (by simp [checks])
    rw [sql.passes_is, Option.some.injEq] at hpaired
    exact hpaired
  all_goals simp [checks]

end RuntimeStatusRow

/-- The runtime row proves the success that the sentinel names. -/
structure RuntimeStatusRow.Proves (row : RuntimeStatusRow) (bootstrap : EvaluatorBootstrapRow) : Prop where
  checked : Ledger.EvaluatorBootstrapChecked bootstrap
  started : row.lastStartedAt ≠ none
  success : ∃ instant, row.lastSuccessAt = some instant ∧ bootstrap.firstSuccessAt ≤ instant
  generation : bootstrap.sourceGeneration ≤ row.generation
  revision : bootstrap.sourceRevision ≤ row.revision

theorem RuntimeStatusRow.Proves.transition {old new : RuntimeStatusRow} {bootstrap : EvaluatorBootstrapRow}
    (hproves : old.Proves bootstrap) (hguard : ¬ sql.Holds (transitionGuard old new)) : new.Proves bootstrap := by
  obtain ⟨-, hrevision, -, hgeneration⟩ := transition_le hguard
  have hfirst := hproves.generation
  have hsource := hproves.revision
  refine ⟨hproves.checked, ?_, ?_, by omega, by omega⟩
  · obtain ⟨earlier, hearlier⟩ := Option.ne_none_iff_exists'.mp hproves.started
    obtain ⟨later, hlater, -⟩ := started_of_transition hguard hearlier
    rw [hlater]
    exact Option.some_ne_none later
  · obtain ⟨earlier, hearlier, hle⟩ := hproves.success
    obtain ⟨later, hlater, hnext⟩ := success_of_transition hguard hearlier
    exact ⟨later, hlater, Int.le_trans hle hnext⟩

namespace Ledger

/-- The runtime row is well formed, and proves what the sentinel says. -/
structure Sound (ledger : Ledger) : Prop where
  row : ∀ row, ledger.runtime = some row → row.component = .evaluator ∧ row.Checked
  sentinel : ∀ bootstrap, ledger.bootstrap = some bootstrap →
    ∃ row, ledger.runtime = some row ∧ row.Proves bootstrap

section statements

variable {ledger next : Ledger}

/-- A statement that leaves the runtime row and the sentinel. -/
def SameRuntime (ledger next : Ledger) : Prop :=
  next.runtime = ledger.runtime ∧ next.bootstrap = ledger.bootstrap

theorem SameRuntime.trans {last : Ledger} (hfirst : ledger.SameRuntime next) (hsecond : next.SameRuntime last) :
    ledger.SameRuntime last :=
  ⟨hsecond.1.trans hfirst.1, hsecond.2.trans hfirst.2⟩

theorem Sound.congr (hsound : ledger.Sound) (hsame : ledger.SameRuntime next) : next.Sound := by
  constructor
  · intro row hrow
    exact hsound.row row (hsame.1 ▸ hrow)
  · intro bootstrap hbootstrap
    rw [hsame.1]
    exact hsound.sentinel bootstrap (hsame.2 ▸ hbootstrap)

theorem writeRun_same {old new : EvaluatorRunRow} (hwrite : ledger.writeRun old new = .ok next) :
    ledger.SameRuntime next := by
  rw [writeRun, throwIf_bind_eq_ok_iff, throwIf_bind_eq_ok_iff] at hwrite
  cases hwrite.2.2
  exact ⟨rfl, rfl⟩

theorem terminalize_same {old new : RuntimeStatusRow} (hterminalize : ledger.terminalize old new = .ok next) :
    ledger.SameRuntime next := by
  unfold terminalize at hterminalize
  split at hterminalize
  · cases hterminalize
  · exact writeRun_same hterminalize

theorem writeRuntime_eq {old new : RuntimeStatusRow} (hwrite : ledger.writeRuntime old new = .ok next) :
    ¬ sql.Holds (RuntimeStatusRow.transitionGuard old new) ∧ new.Checked ∧ next.runtime = some new ∧
      next.bootstrap = ledger.bootstrap := by
  simp only [writeRuntime, throwIf_bind_eq_ok_iff, not_not] at hwrite
  obtain ⟨hguard, -, -, -, hchecked, hwrite⟩ := hwrite
  refine ⟨hguard, hchecked, ?_⟩
  split at hwrite
  · exact terminalize_same hwrite
  · cases hwrite
    exact ⟨rfl, rfl⟩

theorem Sound.writeRuntime {old new : RuntimeStatusRow} (hsound : ledger.Sound)
    (hold : ledger.runtime = some old) (hwrite : ledger.writeRuntime old new = .ok next) : next.Sound := by
  obtain ⟨hguard, hchecked, hrow, hbootstrap⟩ := writeRuntime_eq hwrite
  constructor
  · intro row hfound
    rw [hrow, Option.some.injEq] at hfound
    subst hfound
    exact ⟨(RuntimeStatusRow.transition_le hguard).1.trans (hsound.row old hold).1, hchecked⟩
  · intro bootstrap hfound
    obtain ⟨row, hfoundRow, hproves⟩ := hsound.sentinel bootstrap (hbootstrap ▸ hfound)
    rw [hold, Option.some.injEq] at hfoundRow
    subst hfoundRow
    exact ⟨new, hrow, hproves.transition hguard⟩

theorem abandonPredecessor_same {new : EvaluatorRunRow} {changes : Nat}
    (habandon : ledger.abandonPredecessor new = .ok (next, changes)) : ledger.SameRuntime next := by
  unfold abandonPredecessor at habandon
  split at habandon
  · cases habandon
    exact ⟨rfl, rfl⟩
  · obtain ⟨written, hwritten, heq⟩ := bind_eq_ok_iff.mp habandon
    cases heq
    exact writeRun_same hwritten

/-- A run that is inserted has acquired the runtime row. -/
theorem insertRun_acquires {new : EvaluatorRunRow} {changes : Nat}
    (hinsert : insertRun new ledger = .ok (next, changes)) :
    ∃ row, ledger.runtime = some row ∧ Acquirable row new ∧ next.runtime = some (acquiredRuntime row new) ∧
      next.bootstrap = ledger.bootstrap ∧ ¬ sql.Holds (RuntimeStatusRow.transitionGuard row (acquiredRuntime row new)) ∧
      (acquiredRuntime row new).Checked ∧ ¬ ShapeGuard new := by
  simp only [insertRun, throwIf_bind_eq_ok_iff] at hinsert
  obtain ⟨hshape, -, -, hinsert⟩ := hinsert
  obtain ⟨⟨freed, abandoned⟩, habandon, hinsert⟩ := bind_eq_ok_iff.mp hinsert
  obtain ⟨acquired, hacquire, heq⟩ := bind_eq_ok_iff.mp hinsert
  cases heq
  obtain ⟨hruntime, hbootstrap⟩ := abandonPredecessor_same habandon
  unfold acquireRuntime at hacquire
  cases hrow : freed.runtime with
  | none =>
    rw [hrow] at hacquire
    cases hacquire
  | some row =>
    simp only [hrow] at hacquire
    split at hacquire
    · rename_i hacquirable
      obtain ⟨hguard, hchecked, hnext, hsame⟩ := writeRuntime_eq hacquire
      exact ⟨row, hruntime ▸ hrow, hacquirable, hnext, hsame.trans hbootstrap, hguard, hchecked, hshape⟩
    · cases hacquire

theorem Sound.insertRun {new : EvaluatorRunRow} {changes : Nat} (hsound : ledger.Sound)
    (hinsert : Ledger.insertRun new ledger = .ok (next, changes)) : next.Sound := by
  obtain ⟨row, hrow, -, hnext, hbootstrap, hguard, hchecked, -⟩ := insertRun_acquires hinsert
  constructor
  · intro found hfound
    rw [hnext, Option.some.injEq] at hfound
    subst hfound
    exact ⟨(hsound.row row hrow).1, hchecked⟩
  · intro bootstrap hfound
    obtain ⟨old, hold, hproves⟩ := hsound.sentinel bootstrap (hbootstrap ▸ hfound)
    rw [hrow, Option.some.injEq] at hold
    subst hold
    exact ⟨_, hnext, hproves.transition hguard⟩

/-- An update that does not renew its run leaves the runtime row. -/
theorem updateRun_same {matching : EvaluatorRunRow → Bool} {change : EvaluatorRunRow → EvaluatorRunRow}
    {changes : Nat} (hkeeps : ∀ run, ¬ Renews run (change run))
    (hupdate : updateRun matching change ledger = .ok (next, changes)) : ledger.SameRuntime next := by
  unfold updateRun at hupdate
  split at hupdate
  · cases hupdate
    exact ⟨rfl, rfl⟩
  · rename_i old hfound
    obtain ⟨written, hwritten, hupdate⟩ := bind_eq_ok_iff.mp hupdate
    rw [if_neg (hkeeps old), throwIf_bind_eq_ok_iff] at hupdate
    cases hupdate.2
    exact writeRun_same hwritten

theorem Sound.updateRun {matching : EvaluatorRunRow → Bool} {change : EvaluatorRunRow → EvaluatorRunRow}
    {changes : Nat} (hsound : ledger.Sound)
    (hupdate : Ledger.updateRun matching change ledger = .ok (next, changes)) : next.Sound := by
  unfold Ledger.updateRun at hupdate
  split at hupdate
  · cases hupdate
    exact hsound
  · rename_i old hfound
    obtain ⟨written, hwritten, hupdate⟩ := bind_eq_ok_iff.mp hupdate
    have hbetween := hsound.congr (writeRun_same hwritten)
    split at hupdate
    · obtain ⟨renewed, hrenewed, hupdate⟩ := bind_eq_ok_iff.mp hupdate
      rw [throwIf_bind_eq_ok_iff] at hupdate
      cases hupdate.2
      unfold renewRuntime at hrenewed
      cases hrow : written.runtime with
      | none =>
        rw [hrow] at hrenewed
        cases hrenewed
      | some row =>
        simp only [hrow] at hrenewed
        split at hrenewed
        · exact hbetween.writeRuntime hrow hrenewed
        · cases hrenewed
    · rw [throwIf_bind_eq_ok_iff] at hupdate
      cases hupdate.2
      exact hbetween

theorem insertSource_same {source : EvaluatorSourceRow} (hinsert : insertSource source ledger = .ok next) :
    ledger.SameRuntime next := by
  simp only [insertSource, throwIf_bind_eq_ok_iff] at hinsert
  cases hinsert.2.2.2
  exact ⟨rfl, rfl⟩

theorem insertDecision_same {decision : EvaluatorDecisionRow}
    (hinsert : insertDecision decision ledger = .ok next) : ledger.SameRuntime next := by
  simp only [insertDecision, throwIf_bind_eq_ok_iff] at hinsert
  cases hinsert.2.2.2.2
  exact ⟨rfl, rfl⟩

/-- The sentinel that is inserted is proved by the runtime row. -/
theorem Sound.insertBootstrap {row : EvaluatorBootstrapRow} (hsound : ledger.Sound)
    (hinsert : Ledger.insertBootstrap row ledger = .ok next) : next.Sound := by
  simp only [Ledger.insertBootstrap, throwIf_bind_eq_ok_iff, not_not] at hinsert
  obtain ⟨hguard, hchecked, heq⟩ := hinsert
  cases heq
  refine ⟨hsound.row, ?_⟩
  intro bootstrap hbootstrap
  obtain rfl : row = bootstrap := Option.some.inj hbootstrap
  unfold BootstrapGuard at hguard
  rw [not_or, not_not, not_not] at hguard
  obtain ⟨-, runtime, hruntime, -, hstarted, hsuccess, hgeneration, hrevision⟩ := hguard
  exact ⟨runtime, hruntime, hchecked, hstarted, ⟨_, hsuccess, Int.le_refl _⟩, hgeneration ▸ Int.le_refl _,
    hrevision ▸ Int.le_refl _⟩

theorem initializeRuntime_bootstrap {initializedAt : Timestamp} {changes : Nat}
    (hinserted : initializeRuntime initializedAt ledger = .ok (next, changes)) :
    next.bootstrap = ledger.bootstrap := by
  unfold initializeRuntime at hinserted
  split at hinserted
  · cases hinserted
    rfl
  · simp only [throwIf_bind_eq_ok_iff] at hinserted
    cases hinserted.2.2
    rfl

theorem Sound.initializeRuntime {initializedAt : Timestamp} {changes : Nat} (hsound : ledger.Sound)
    (hinserted : Ledger.initializeRuntime initializedAt ledger = .ok (next, changes)) : next.Sound := by
  unfold Ledger.initializeRuntime at hinserted
  cases hrow : ledger.runtime with
  | some row =>
    rw [hrow] at hinserted
    cases hinserted
    exact hsound
  | none =>
    simp only [hrow, throwIf_bind_eq_ok_iff, not_not] at hinserted
    obtain ⟨-, hchecked, heq⟩ := hinserted
    cases heq
    constructor
    · intro row hfound
      obtain rfl := Option.some.inj hfound
      exact ⟨rfl, hchecked⟩
    · intro bootstrap hbootstrap
      obtain ⟨row, hfound, -⟩ := hsound.sentinel bootstrap hbootstrap
      rw [hrow] at hfound
      cases hfound

end statements

end Ledger

namespace evaluator

variable {ledger next : Ledger} {changes : Nat}

theorem terminalStatement_sound {fence : AlertEvaluatorRunFence} {change : RuntimeStatusRow → RuntimeStatusRow}
    (hsound : ledger.Sound) (hterminal : terminalStatement fence change ledger = .ok (next, changes)) :
    next.Sound := by
  unfold terminalStatement at hterminal
  cases hrow : ledger.runtime with
  | none =>
    rw [hrow] at hterminal
    cases hterminal
    exact hsound
  | some row =>
    simp only [hrow] at hterminal
    split at hterminal
    · obtain ⟨written, hwritten, heq⟩ := bind_eq_ok_iff.mp hterminal
      cases heq
      exact hsound.writeRuntime hrow hwritten
    · cases hterminal
      exact hsound

theorem bootstrapStatement_sound {fence : AlertEvaluatorRunFence} {completedAt asOf : Timestamp}
    {terminalChanges : Nat} (hsound : ledger.Sound)
    (hbootstrap : bootstrapStatement fence completedAt asOf terminalChanges ledger = .ok next) : next.Sound := by
  unfold bootstrapStatement at hbootstrap
  split at hbootstrap
  · cases hbootstrap
    exact hsound
  · split at hbootstrap
    · exact hsound.insertBootstrap hbootstrap
    · cases hbootstrap
      exact hsound

/-- Every statement of a run keeps the ledger sound. -/
theorem EvaluatorStatement.run_sound {statement : EvaluatorStatement} (hsound : ledger.Sound)
    (hrun : statement.run ledger = .ok (next, changes)) : next.Sound := by
  cases statement with
  | recordSource source =>
    obtain ⟨inserted, hinserted, heq⟩ := bind_eq_ok_iff.mp hrun
    cases heq
    exact hsound.congr (Ledger.insertSource_same hinserted)
  | renew fence renewedAt expiresAt => exact hsound.updateRun hrun
  | sealPlan fence asOf updatedAt sealedAt partialSourceCount decisionCount sourceDigest decisionDigest =>
    exact hsound.updateRun hrun
  | recordDecision states decision =>
    obtain ⟨inserted, hinserted, heq⟩ := bind_eq_ok_iff.mp hrun
    cases heq
    have hstates : ledger.SameRuntime { ledger with states } := ⟨rfl, rfl⟩
    exact hsound.congr (hstates.trans (Ledger.insertDecision_same hinserted))
  | recordSuccess fence completedAt asOf =>
    obtain ⟨⟨terminal, terminalChanges⟩, hterminal, hrun⟩ := bind_eq_ok_iff.mp hrun
    obtain ⟨inserted, hinserted, heq⟩ := bind_eq_ok_iff.mp hrun
    cases heq
    exact bootstrapStatement_sound (terminalStatement_sound hsound hterminal) hinserted
  | recordFailure fence completedAt status errorCode => exact terminalStatement_sound hsound hrun

end evaluator

section age

variable {ledger : Ledger} {row : RuntimeStatusRow} {bootstrap : EvaluatorBootstrapRow} {asOf : Timestamp}

theorem runtimeSourceInteger_some {value minimum maximum : Int} (hlow : minimum ≤ value) (hhigh : value ≤ maximum) :
    runtimeSourceInteger (some value) minimum maximum = some value := by
  simp [runtimeSourceInteger, hlow, hhigh]

theorem guard_bind {α : Type} {condition : Prop} [Decidable condition] {next : Unit → Option α}
    (hcondition : condition) : (guard condition : Option Unit).bind next = next () := by
  rw [guard, if_pos hcondition]
  rfl

theorem guard_bind_of_not {α : Type} {condition : Prop} [Decidable condition] {next : Unit → Option α}
    (hnot : ¬ condition) : (guard condition : Option Unit).bind next = none := by
  rw [guard, if_neg hnot]
  rfl

/-- The age of a projection that is complete by `asOf`. -/
theorem evaluatorAge_of_complete {record : AlertRuntimeSourceProjection}
    {firstSuccessAt lastStartedAt lastSuccessAt updatedAt : Timestamp}
    {sourceGeneration sourceRevision runtimeGeneration runtimeRevision : Int}
    (hfirst : record.firstSuccessAt = some firstSuccessAt)
    (hsourceGeneration : runtimeSourceInteger record.sourceGeneration 1 MAX_SAFE_INTEGER = some sourceGeneration)
    (hsourceRevision : runtimeSourceInteger record.sourceRevision 1 MAX_SAFE_INTEGER = some sourceRevision)
    (hgeneration : runtimeSourceInteger record.runtimeGeneration 0 MAX_SAFE_INTEGER = some runtimeGeneration)
    (hrevision : runtimeSourceInteger record.runtimeRevision 0 MAX_SAFE_INTEGER = some runtimeRevision)
    (hstarted : record.runtimeLastStartedAt = some lastStartedAt)
    (hsuccess : record.runtimeLastSuccessAt = some lastSuccessAt)
    (hupdated : record.runtimeUpdatedAt = some updatedAt)
    (hbootstrap : record.bootstrapComponent = some .evaluator ∧ firstSuccessAt ≤ asOf)
    (hruntime : record.runtimeComponent = some .evaluator ∧ record.runtimeStatus ≠ none ∧
      sourceGeneration ≤ runtimeGeneration ∧ sourceRevision ≤ runtimeRevision)
    (hchronology : firstSuccessAt ≤ updatedAt ∧ lastStartedAt ≤ updatedAt ∧ firstSuccessAt ≤ lastSuccessAt ∧
      lastSuccessAt ≤ updatedAt ∧ updatedAt ≤ asOf)
    (herrors : errorComplete record updatedAt) :
    evaluatorAge record asOf =
      if (asOf.ms - lastSuccessAt.ms) / 1000 ≤ MAX_EVIDENCE_VALUE then
        some ((asOf.ms - lastSuccessAt.ms) / 1000) else none := by
  rw [evaluatorAge, hfirst, hsourceGeneration, hsourceRevision, hgeneration, hrevision, hstarted, hsuccess,
    hupdated]
  refine (guard_bind hbootstrap).trans ((guard_bind hruntime).trans
    ((guard_bind hchronology).trans ((guard_bind herrors).trans ?_)))
  by_cases hage : (asOf.ms - lastSuccessAt.ms) / 1000 ≤ MAX_EVIDENCE_VALUE
  · rw [if_pos hage]
    exact guard_bind hage
  · rw [if_neg hage]
    exact guard_bind_of_not hage

/-- The evaluator is alive in a sound ledger if the runtime row was last written by `asOf`. -/
theorem Ledger.Sound.evaluatorAge (hsound : ledger.Sound) (hbootstrap : ledger.bootstrap = some bootstrap)
    (hrow : ledger.runtime = some row) (hupdated : row.updatedAt ≤ asOf) :
    ∃ lastSuccessAt, row.lastSuccessAt = some lastSuccessAt ∧
      pgid.alert.evaluatorAge (ALERT_RUNTIME_SOURCE_QUERY ledger) asOf =
        if (asOf.ms - lastSuccessAt.ms) / 1000 ≤ MAX_EVIDENCE_VALUE then
          some ((asOf.ms - lastSuccessAt.ms) / 1000) else none := by
  obtain ⟨found, hfound, hproves⟩ := hsound.sentinel bootstrap hbootstrap
  rw [hrow, Option.some.injEq] at hfound
  subst hfound
  obtain ⟨hcomponent, hchecked⟩ := hsound.row row hrow
  have hchronology := hchecked.chronology
  obtain ⟨⟨-, ⟨hsourceLow, hsourceHigh⟩, hrevisionLow, hrevisionHigh⟩, hstarted, ⟨success, hsuccess, hfirst⟩,
    hgeneration, hrevision⟩ := hproves
  obtain ⟨started, hstarted⟩ := Option.ne_none_iff_exists'.mp hstarted
  obtain ⟨⟨hgenerationLow, hgenerationHigh⟩, hcountLow, hcountHigh⟩ := hchronology.counters
  have hstartedBefore := hchronology.started started hstarted
  have hsuccessBefore := hchronology.success success hsuccess
  have hfirstBefore : bootstrap.firstSuccessAt ≤ row.updatedAt := Int.le_trans hfirst hsuccessBefore
  have hfirstAsOf : bootstrap.firstSuccessAt ≤ asOf := Int.le_trans hfirstBefore hupdated
  have herrors : errorComplete (ALERT_RUNTIME_SOURCE_QUERY ledger) row.updatedAt := by
    have hpaired := hchronology.errors
    simp only [errorComplete, ALERT_RUNTIME_SOURCE_QUERY, hrow, Option.bind_some]
    refine ⟨?_, hchronology.error⟩
    cases herror : row.lastErrorAt <;> cases hcode : row.lastErrorCode <;> simp [herror, hcode] at hpaired ⊢
  refine ⟨success, hsuccess, evaluatorAge_of_complete ?_ ?_ ?_ ?_ ?_ ?_ ?_ ?_ ⟨?_, hfirstAsOf⟩
    ⟨?_, ?_, hgeneration, hrevision⟩ ⟨hfirstBefore, hstartedBefore, hfirst, hsuccessBefore, hupdated⟩ herrors⟩
  all_goals
    simp only [ALERT_RUNTIME_SOURCE_QUERY, hbootstrap, hrow, Option.map_some, Option.bind_some, hstarted, hsuccess,
      hcomponent, runtimeSourceInteger_some hsourceLow hsourceHigh,
      runtimeSourceInteger_some hrevisionLow hrevisionHigh,
      runtimeSourceInteger_some hgenerationLow hgenerationHigh, runtimeSourceInteger_some hcountLow hcountHigh,
      ne_eq, Option.some_ne_none, not_false_eq_true]

end age

end pgid.alert
