import PgidSso.Alert.Runtime.Protocol

open checked

namespace pgid.alert

open orchestration (AlertEvaluatorSourceProofValue AlertEvaluatorDecisionProofValue Sha256
  parseAlertEvaluatorDecisionProofValue parseAlertEvaluatorDecisionProofValue_returns
  parseAlertEvaluatorSourceProofValue parseAlertEvaluatorSourceProofValue_returns)

/-- A call that has written: its answer, where it arrives, and the answer of the call that only reads what
was written. In the later databases it reads the same, and writes nothing. -/
structure Repeats {δ A : Type} (perform : δ → sql.Delivery → Except AlertRunRepositoryErrorCode A × δ)
    (database next : δ) (delivery : sql.Delivery) (Later : δ → Prop) (first again : A) : Prop where
  answered : perform database .answered = (.ok first, next)
  delivered : perform database delivery = (.ok first, next) ∨ perform database delivery = (.ok again, next)
  repeated : ∀ later, Later later → ∀ delivery, perform later delivery = (.ok again, later)

namespace evaluator

open Ledger

variable {ledger next : Ledger} {fence : AlertEvaluatorRunFence} {delivery : sql.Delivery}

theorem parseFence_returns : Returns parseFence := by
  intro value result hparse
  unfold parseFence at hparse
  obtain ⟨startedAt, hstarted, hparse⟩ := bind_eq_ok_iff.mp hparse
  obtain ⟨leaseUpdatedAt, hupdated, hparse⟩ := bind_eq_ok_iff.mp hparse
  obtain ⟨leaseExpiresAt, hexpires, hparse⟩ := bind_eq_ok_iff.mp hparse
  rw [throwIf_bind_eq_ok_iff] at hparse
  obtain ⟨leaseRevision, hrevision, hparse⟩ := bind_eq_ok_iff.mp hparse.2
  obtain ⟨runtimeGeneration, hgeneration, hparse⟩ := bind_eq_ok_iff.mp hparse
  simp only [canonicalTimestamp, throwIf_bind_eq_ok_iff, pure_eq_ok_iff] at hstarted hupdated hexpires
  simp only [boundedInteger, throwIf_bind_eq_ok_iff, pure_eq_ok_iff] at hrevision hgeneration
  cases hparse
  rw [← hstarted.2, ← hupdated.2, ← hexpires.2, ← hrevision.2, ← hgeneration.2]

theorem canonicalTimestamp_returns : Returns canonicalTimestamp := by
  intro value result hcanonical
  rw [canonicalTimestamp, throwIf_bind_eq_ok_iff] at hcanonical
  cases hcanonical.2
  rfl

section updates

variable {matching : EvaluatorRunRow → Bool} {change : EvaluatorRunRow → EvaluatorRunRow}

/-- An update that changes the ledger has replaced the run that it matches. -/
theorem updateRun_changed {changes : Nat} (hdistinct : ledger.Distinct)
    (hupdate : updateRun matching change ledger = .ok (next, changes)) (hchanged : next ≠ ledger) :
    ∃ old run, run = change old ∧ matching old = true ∧ readRunById ledger old.id = some old ∧
      readRunById next old.id = some run ∧ changes = (if Renews old run then 2 else 1) ∧
      next.sources = ledger.sources := by
  obtain ⟨rfl, -⟩ | ⟨old, hfound, hid, -, hchanges, hnext⟩ := updateRun_cases hupdate
  · exact absurd rfl hchanged
  · have hold := List.mem_of_find?_eq_some hfound
    have hread := hdistinct.readRunById_replaceRun hold hid
    refine ⟨old, change old, rfl, List.find?_some hfound, hdistinct.readRunById hold, ?_, hchanges, ?_⟩
    · obtain rfl | ⟨row, -, rfl⟩ := hnext
      · exact hread
      · exact hread
    · obtain rfl | ⟨row, -, rfl⟩ := hnext
      · rfl
      · rfl

/-- An update changes nothing where it does not match the run that its condition names. -/
theorem updateRun_idle {run : EvaluatorRunRow} {runId : String} (hdistinct : ledger.Distinct)
    (hread : readRunById ledger runId = some run) (hnames : ∀ other, matching other = true → other.id = runId)
    (hnot : matching run ≠ true) : updateRun matching change ledger = .ok (ledger, 0) := by
  have hnone : ledger.runs.find? matching = none := by
    apply List.find?_eq_none.mpr
    intro other hother hmatch
    have hsame := hdistinct.readRunById hother
    rw [hnames other hmatch, hread, Option.some.injEq] at hsame
    exact hnot (hsame ▸ hmatch)
  rw [updateRun, hnone]
  rfl

end updates

section renew

variable {renewedAt expiresAt : Timestamp} {duration : Int}

theorem renewal_fence {parsed : AlertEvaluatorRunFence}
    (hinput : renewal fence renewedAt duration = .ok (parsed, expiresAt)) : parsed = fence := by
  unfold renewal at hinput
  obtain ⟨checked, hparse, hinput⟩ := bind_eq_ok_iff.mp hinput
  obtain ⟨_, -, hinput⟩ := bind_eq_ok_iff.mp hinput
  obtain ⟨_, -, hinput⟩ := bind_eq_ok_iff.mp hinput
  obtain ⟨_, -, hinput⟩ := bind_eq_ok_iff.mp hinput
  rw [throwIf_bind_eq_ok_iff] at hinput
  cases hinput.2
  exact parseFence_returns _ _ hparse

theorem renew_of_send {run : EvaluatorRunRow} {answer : Option Nat}
    (hinput : renewal fence renewedAt duration = .ok (fence, expiresAt))
    (hsend : delivery.send (renewStatement fence renewedAt expiresAt) ledger = (answer, next))
    (hanswer : ∀ changes ∈ answer, changes = 0 ∨ changes = 2) (hread : readRunById next fence.runId = some run)
    (hrenewed : isRenewed fence renewedAt expiresAt run) :
    renewAlertEvaluatorRun ledger fence renewedAt duration delivery =
      (.ok (if answer = some 2 then .committed (fenceFromRun run) run else .replayed (fenceFromRun run) run),
        next) := by
  have hchanges : ¬ ∃ changes ∈ answer, changes ≠ 0 ∧ changes ≠ 2 := by
    rintro ⟨changes, hmem, hzero, htwo⟩
    exact (hanswer changes hmem).elim hzero htwo
  unfold renewAlertEvaluatorRun
  simp only [hinput, hsend, hread, Option.filter_some, decide_eq_true hrenewed, if_true]
  rw [throwIf_bind_of_not hchanges]
  rfl

/-- A renewal that has been written is found again by its new lease. -/
theorem renewAlertEvaluatorRun_repeats (hdistinct : ledger.Distinct)
    (hchanged : (renewAlertEvaluatorRun ledger fence renewedAt duration delivery).2 ≠ ledger) :
    ∃ lease run, Repeats (fun ledger => renewAlertEvaluatorRun ledger fence renewedAt duration) ledger
      (renewAlertEvaluatorRun ledger fence renewedAt duration delivery).2 delivery
      (fun later => later.Distinct ∧ readRunById later fence.runId = readRunById
        (renewAlertEvaluatorRun ledger fence renewedAt duration delivery).2 fence.runId)
      (.committed lease run) (.replayed lease run) := by
  cases hinput : renewal fence renewedAt duration with
  | error code =>
    rw [renewAlertEvaluatorRun, hinput] at hchanged
    exact absurd rfl hchanged
  | ok input =>
    obtain ⟨parsed, expiresAt⟩ := input
    obtain rfl := renewal_fence hinput
    have hsent : (renewAlertEvaluatorRun ledger parsed renewedAt duration delivery).2 =
        (delivery.send (renewStatement parsed renewedAt expiresAt) ledger).2 := by
      simp only [renewAlertEvaluatorRun, hinput]
    rw [hsent] at hchanged ⊢
    obtain ⟨next, changes, hnext, hstatement, hanswered, hdelivered⟩ := sql.Delivery.send_changed hchanged
    rw [hnext] at hchanged ⊢
    obtain ⟨old, run, hrun, hmatch, -, hread, hchanges, -⟩ := updateRun_changed hdistinct hstatement hchanged
    obtain ⟨⟨hid, hgeneration, hrevision, hlease, hstarted, -, -⟩, hlive⟩ := of_decide_eq_true hmatch
    have hrenewed : isRenewed parsed renewedAt expiresAt run := by
      rw [hrun]
      exact ⟨hgeneration, hlease, hstarted, rfl, rfl, rfl, hlive⟩
    have hrenews : Renews old run := by
      rw [hrun]
      exact ⟨rfl, hlive, congrArg (· + 1) hrevision.symm⟩
    rw [if_pos hrenews] at hchanges
    subst hchanges
    rw [hid] at hread
    refine ⟨fenceFromRun run, run, ?_, ?_, ?_⟩
    · exact renew_of_send hinput hanswered (by simp) hread hrenewed
    · obtain hsend | hsend := hdelivered
      · exact .inl (renew_of_send hinput hsend (by simp) hread hrenewed)
      · exact .inr (renew_of_send hinput hsend (by simp) hread hrenewed)
    · rintro later ⟨hlater, hsame⟩ again
      rw [hread] at hsame
      have hidle : renewStatement parsed renewedAt expiresAt later = .ok (later, 0) := by
        apply updateRun_idle hlater hsame
        · intro other hother
          exact (of_decide_eq_true hother).1.1
        · intro hother
          have hrevised := hrenewed.2.2.2.1
          have hfirst := (of_decide_eq_true hother).1.2.2.1
          omega
      obtain ⟨answer, hsend, hzero⟩ := again.send_idle hidle
      have hnot : answer ≠ some 2 := fun htwo => absurd (hzero 2 htwo) (by decide)
      rw [renew_of_send hinput hsend (fun changes hmem => .inl (hzero changes hmem)) hsame hrenewed, if_neg hnot]

end renew

section bind

variable {asOf boundAt : Timestamp}

theorem binding_fence {parsed : AlertEvaluatorRunFence} (hinput : binding fence asOf boundAt = .ok parsed) :
    parsed = fence := by
  unfold binding at hinput
  obtain ⟨checked, hparse, hinput⟩ := bind_eq_ok_iff.mp hinput
  obtain ⟨_, -, hinput⟩ := bind_eq_ok_iff.mp hinput
  obtain ⟨_, -, hinput⟩ := bind_eq_ok_iff.mp hinput
  rw [throwIf_bind_eq_ok_iff] at hinput
  cases hinput.2
  exact parseFence_returns _ _ hparse

theorem bind_of_send {run : EvaluatorRunRow} {answer : Option Nat} (hinput : binding fence asOf boundAt = .ok fence)
    (hsend : delivery.send (bindStatement fence asOf boundAt) ledger = (answer, next))
    (hanswer : ∀ changes ∈ answer, changes = 0 ∨ changes = 1) (hread : readRunById next fence.runId = some run)
    (hbound : isBound fence asOf boundAt run) :
    bindAlertEvaluatorRunAsOf ledger fence asOf boundAt delivery =
      (.ok (if answer = some 1 then .committed fence run else .replayed fence run), next) := by
  have hchanges : ¬ ∃ changes ∈ answer, changes ≠ 0 ∧ changes ≠ 1 := by
    rintro ⟨changes, hmem, hzero, hone⟩
    exact (hanswer changes hmem).elim hzero hone
  unfold bindAlertEvaluatorRunAsOf
  simp only [hinput, hsend, hread, Option.filter_some, decide_eq_true hbound, if_true]
  rw [throwIf_bind_of_not hchanges]
  rfl

/-- A binding that has been written is found again by its instants, if the fence has the start of the run:
the update does not ask for it, but the reading back does. -/
theorem bindAlertEvaluatorRunAsOf_repeats (hdistinct : ledger.Distinct)
    (hstarted : ∀ run, readRunById ledger fence.runId = some run → run.startedAt = fence.startedAt)
    (hchanged : (bindAlertEvaluatorRunAsOf ledger fence asOf boundAt delivery).2 ≠ ledger) :
    ∃ run, Repeats (fun ledger => bindAlertEvaluatorRunAsOf ledger fence asOf boundAt) ledger
      (bindAlertEvaluatorRunAsOf ledger fence asOf boundAt delivery).2 delivery
      (fun later => later.Distinct ∧ readRunById later fence.runId = readRunById
        (bindAlertEvaluatorRunAsOf ledger fence asOf boundAt delivery).2 fence.runId)
      (.committed fence run) (.replayed fence run) := by
  cases hinput : binding fence asOf boundAt with
  | error code =>
    rw [bindAlertEvaluatorRunAsOf, hinput] at hchanged
    exact absurd rfl hchanged
  | ok parsed =>
    obtain rfl := binding_fence hinput
    have hsent : (bindAlertEvaluatorRunAsOf ledger parsed asOf boundAt delivery).2 =
        (delivery.send (bindStatement parsed asOf boundAt) ledger).2 := by
      simp only [bindAlertEvaluatorRunAsOf, hinput]
    rw [hsent] at hchanged ⊢
    obtain ⟨next, changes, hnext, hstatement, hanswered, hdelivered⟩ := sql.Delivery.send_changed hchanged
    rw [hnext] at hchanged ⊢
    obtain ⟨old, run, hrun, hmatch, hold, hread, hchanges, -⟩ := updateRun_changed hdistinct hstatement hchanged
    obtain ⟨hid, hgeneration, hrevision, hlease, hupdated, hexpires, hrunning, -⟩ := of_decide_eq_true hmatch
    rw [hid] at hold hread
    have hbound : isBound parsed asOf boundAt run := by
      rw [hrun]
      exact ⟨⟨hid, hgeneration, hrevision, hlease, hstarted old hold, hupdated, hexpires⟩, hrunning, rfl, rfl⟩
    have hrenews : ¬ Renews old run := by
      rw [hrun]
      intro hrenews
      have hsame : old.leaseRevision = old.leaseRevision + 1 := hrenews.2.2
      omega
    rw [if_neg hrenews] at hchanges
    subst hchanges
    refine ⟨run, ?_, ?_, ?_⟩
    · exact bind_of_send hinput hanswered (by simp) hread hbound
    · obtain hsend | hsend := hdelivered
      · exact .inl (bind_of_send hinput hsend (by simp) hread hbound)
      · exact .inr (bind_of_send hinput hsend (by simp) hread hbound)
    · rintro later ⟨hlater, hsame⟩ again
      rw [hread] at hsame
      have hidle : bindStatement parsed asOf boundAt later = .ok (later, 0) := by
        apply updateRun_idle hlater hsame
        · intro other hother
          exact (of_decide_eq_true hother).1
        · intro hother
          have hunbound := (of_decide_eq_true hother).2.2.2.2.2.2.2
          rw [hbound.2.2.1] at hunbound
          cases hunbound
      obtain ⟨answer, hsend, hzero⟩ := again.send_idle hidle
      have hnot : answer ≠ some 1 := fun hone => absurd (hzero 1 hone) (by decide)
      rw [bind_of_send hinput hsend (fun changes hmem => .inl (hzero changes hmem)) hsame hbound, if_neg hnot]

end bind

section source

variable {asOf recordedAt : Timestamp} {proof : AlertEvaluatorSourceProofValue}

theorem orFail_eq_ok_iff {ε A : Type} {code : AlertRunRepositoryErrorCode} {computation : Except ε A} {value : A} :
    orFail code computation = .ok value ↔ computation = .ok value := by
  cases computation <;> simp [orFail]

theorem sourceInput_returns {parsed : AlertEvaluatorRunFence} {value : AlertEvaluatorSourceProofValue}
    (hinput : sourceInput fence asOf proof recordedAt = .ok (parsed, value)) : parsed = fence ∧ value = proof := by
  unfold sourceInput at hinput
  obtain ⟨checked, hparse, hinput⟩ := bind_eq_ok_iff.mp hinput
  obtain ⟨_, -, hinput⟩ := bind_eq_ok_iff.mp hinput
  obtain ⟨_, -, hinput⟩ := bind_eq_ok_iff.mp hinput
  obtain ⟨accepted, hproof, hinput⟩ := bind_eq_ok_iff.mp hinput
  cases hinput
  exact ⟨parseFence_returns _ _ hparse, parseAlertEvaluatorSourceProofValue_returns _ _ (orFail_eq_ok_iff.mp hproof)⟩

theorem sameSource_sourceRow : sameSource (sourceRow fence asOf proof recordedAt) fence asOf proof recordedAt :=
  ⟨rfl, rfl, rfl, rfl, rfl, rfl, rfl, rfl, rfl, rfl⟩

/-- A source that is inserted is the one that is read for its run and its id. -/
theorem readSource_insertSource (hfree : readSource ledger fence.runId proof.sourceId = none)
    (hinsert : insertSource (sourceRow fence asOf proof recordedAt) ledger = .ok next) :
    readSource next fence.runId proof.sourceId = some (sourceRow fence asOf proof recordedAt) := by
  simp only [insertSource, throwIf_bind_eq_ok_iff] at hinsert
  cases hinsert.2.2.2
  rw [readSource, sourcesOf] at hfree ⊢
  rw [List.filter_append, List.find?_append, hfree, Option.none_or]
  simp [sourceRow]

/-- A source that has been recorded is found again, whole. -/
theorem recordAlertEvaluatorRunSource_repeats
    (hchanged : (recordAlertEvaluatorRunSource ledger fence asOf proof recordedAt delivery).2 ≠ ledger) :
    Repeats (fun ledger => recordAlertEvaluatorRunSource ledger fence asOf proof recordedAt) ledger
      (recordAlertEvaluatorRunSource ledger fence asOf proof recordedAt delivery).2 delivery
      (fun later => later.sourcesOf fence.runId =
        (recordAlertEvaluatorRunSource ledger fence asOf proof recordedAt delivery).2.sourcesOf fence.runId)
      .recorded .replayed := by
  cases hinput : sourceInput fence asOf proof recordedAt with
  | error code =>
    rw [recordAlertEvaluatorRunSource, hinput] at hchanged
    exact absurd rfl hchanged
  | ok input =>
    obtain ⟨parsed, value⟩ := input
    obtain ⟨rfl, rfl⟩ := sourceInput_returns hinput
    cases hfree : readSource ledger parsed.runId value.sourceId with
    | some existing =>
      simp only [recordAlertEvaluatorRunSource, hinput, hfree] at hchanged
      exact absurd rfl hchanged
    | none =>
      have hsent : (recordAlertEvaluatorRunSource ledger parsed asOf value recordedAt delivery).2 =
          (delivery.send (EvaluatorStatement.run (.recordSource (sourceRow parsed asOf value recordedAt))) ledger).2 := by
        cases hsend : delivery.send (EvaluatorStatement.run
            (.recordSource (sourceRow parsed asOf value recordedAt))) ledger with
        | mk answer next =>
          simp only [recordAlertEvaluatorRunSource, hinput, hfree, hsend]
          cases answer with
          | none =>
            dsimp only
            split <;> rfl
          | some changes => rfl
      rw [hsent] at hchanged ⊢
      obtain ⟨next, changes, hnext, hstatement, hanswered, hdelivered⟩ := sql.Delivery.send_changed hchanged
      rw [hnext]
      obtain ⟨inserted, hinsert, heq⟩ := bind_eq_ok_iff.mp hstatement
      cases heq
      have hread := readSource_insertSource hfree hinsert
      have hfound : ∀ {delivery : sql.Delivery}, delivery.send (EvaluatorStatement.run
          (.recordSource (sourceRow parsed asOf value recordedAt))) ledger = (some 1, next) →
          recordAlertEvaluatorRunSource ledger parsed asOf value recordedAt delivery = (.ok .recorded, next) := by
        intro delivery hsend
        simp only [recordAlertEvaluatorRunSource, hinput, hfree, hsend]
        rfl
      refine ⟨hfound hanswered, ?_, ?_⟩
      · obtain hsend | hsend := hdelivered
        · exact .inl (hfound hsend)
        · right
          simp only [recordAlertEvaluatorRunSource, hinput, hfree, hsend, hread, if_pos sameSource_sourceRow]
      · intro later hsame again
        have hagain : readSource later parsed.runId value.sourceId = some (sourceRow parsed asOf value recordedAt) := by
          rw [readSource, hsame]
          exact hread
        simp only [recordAlertEvaluatorRunSource, hinput, hagain, if_pos sameSource_sourceRow]

end source

section decision

variable {database : RunDatabase} {absence : Option AlertEvaluatorNoStateAbsence} {asOf recordedAt : Timestamp}
  {proof : AlertEvaluatorDecisionProofValue} {expectedDisposition : EvaluatorDisposition}

theorem decisionInput_returns {parsed : AlertEvaluatorRunFence} {value : AlertEvaluatorDecisionProofValue}
    (hinput : decisionInput fence asOf proof recordedAt expectedDisposition = .ok (parsed, value)) :
    parsed = fence ∧ value = proof := by
  unfold decisionInput at hinput
  obtain ⟨checked, hparse, hinput⟩ := bind_eq_ok_iff.mp hinput
  obtain ⟨_, -, hinput⟩ := bind_eq_ok_iff.mp hinput
  obtain ⟨_, -, hinput⟩ := bind_eq_ok_iff.mp hinput
  obtain ⟨accepted, hproof, hinput⟩ := bind_eq_ok_iff.mp hinput
  rw [throwIf_bind_eq_ok_iff] at hinput
  cases hinput.2
  exact ⟨parseFence_returns _ _ hparse,
    parseAlertEvaluatorDecisionProofValue_returns _ _ (orFail_eq_ok_iff.mp hproof)⟩

theorem sameDecision_decisionRow :
    sameDecision (decisionRow fence asOf proof recordedAt) fence proof asOf recordedAt :=
  ⟨rfl, rfl, rfl, rfl, rfl, rfl, rfl, rfl, rfl, rfl, rfl, rfl, rfl, rfl⟩

theorem readDecision_eq_none {runId : String} {ordinal : Int} (hfree : readDecision ledger runId ordinal = none) :
    ∀ row ∈ ledger.decisionsOf runId, row.ordinal ≠ ordinal := by
  intro row hrow hordinal
  have hsorted : row ∈ readDecisions ledger runId := List.mem_mergeSort.mpr hrow
  exact List.find?_eq_none.mp hfree row hsorted (decide_eq_true hordinal)

/-- A decision that is inserted is the one that is read for its run and its ordinal. -/
theorem readDecision_insertDecision (hfree : readDecision ledger fence.runId proof.ordinal = none)
    (hinsert : insertDecision (decisionRow fence asOf proof recordedAt) ledger = .ok next) :
    readDecision next fence.runId proof.ordinal = some (decisionRow fence asOf proof recordedAt) := by
  simp only [insertDecision, throwIf_bind_eq_ok_iff] at hinsert
  cases hinsert.2.2.2.2
  have hrows : Ledger.decisionsOf { ledger with decisions :=
      ledger.decisions ++ [decisionRow fence asOf proof recordedAt] } fence.runId =
        ledger.decisionsOf fence.runId ++ [decisionRow fence asOf proof recordedAt] := by
    rw [decisionsOf, List.filter_append]
    simp [decisionsOf, decisionRow]
  rw [readDecision]
  cases hfound : (readDecisions _ fence.runId).find? fun row => decide (row.ordinal = proof.ordinal) with
  | none =>
    have hmem : decisionRow fence asOf proof recordedAt ∈ readDecisions { ledger with decisions :=
        ledger.decisions ++ [decisionRow fence asOf proof recordedAt] } fence.runId := by
      rw [readDecisions, List.mem_mergeSort, hrows]
      exact List.mem_append_right _ (List.mem_singleton_self _)
    exact absurd (decide_eq_true rfl) (List.find?_eq_none.mp hfound _ hmem)
  | some found =>
    have hordinal : found.ordinal = proof.ordinal := by simpa using List.find?_some hfound
    have hmem := List.mem_of_find?_eq_some hfound
    rw [readDecisions, List.mem_mergeSort, hrows, List.mem_append, List.mem_singleton] at hmem
    obtain hearlier | rfl := hmem
    · exact absurd hordinal (readDecision_eq_none hfree found hearlier)
    · rfl

/-- A decision that has been recorded is found again, whole, while the state that it says is absent is. -/
theorem recordStatelessAlertEvaluatorDecision_repeats
    (hchanged : (recordStatelessAlertEvaluatorDecision database fence absence asOf proof recordedAt
      expectedDisposition delivery).2 ≠ database) :
    Repeats (fun database => recordStatelessAlertEvaluatorDecision database fence absence asOf proof recordedAt
        expectedDisposition) database
      (recordStatelessAlertEvaluatorDecision database fence absence asOf proof recordedAt expectedDisposition
        delivery).2 delivery
      (fun later => later.ledger.decisionsOf fence.runId = (recordStatelessAlertEvaluatorDecision database fence
          absence asOf proof recordedAt expectedDisposition delivery).2.ledger.decisionsOf fence.runId ∧
        (stateAbsent absence (recordStatelessAlertEvaluatorDecision database fence absence asOf proof recordedAt
          expectedDisposition delivery).2 → stateAbsent absence later))
      .recorded .replayed := by
  cases hinput : decisionInput fence asOf proof recordedAt expectedDisposition with
  | error code =>
    rw [recordStatelessAlertEvaluatorDecision, hinput] at hchanged
    exact absurd rfl hchanged
  | ok input =>
    obtain ⟨parsed, value⟩ := input
    obtain ⟨rfl, rfl⟩ := decisionInput_returns hinput
    cases hfree : readDecision database.ledger parsed.runId value.ordinal with
    | some existing =>
      simp only [recordStatelessAlertEvaluatorDecision, hinput, hfree] at hchanged
      exact absurd rfl hchanged
    | none =>
      have hsent : (recordStatelessAlertEvaluatorDecision database parsed absence asOf value recordedAt
          expectedDisposition delivery).2 =
          (delivery.send (decisionStatement absence (decisionRow parsed asOf value recordedAt)) database).2 := by
        cases hsend : delivery.send (decisionStatement absence (decisionRow parsed asOf value recordedAt))
            database with
        | mk answer next =>
          simp only [recordStatelessAlertEvaluatorDecision, hinput, hfree, hsend]
          cases answer with
          | none =>
            dsimp only
            split <;> rfl
          | some changes => rfl
      rw [hsent] at hchanged ⊢
      obtain ⟨next, changes, hnext, hstatement, hanswered, hdelivered⟩ := sql.Delivery.send_changed hchanged
      rw [hnext] at hchanged ⊢
      unfold decisionStatement at hstatement
      split at hstatement
      · rename_i habsent
        obtain ⟨inserted, hinsert, heq⟩ := bind_eq_ok_iff.mp hstatement
        cases heq
        have hread := readDecision_insertDecision hfree hinsert
        have habsent : stateAbsent absence { database with ledger := inserted } := habsent
        have hstands : ∀ {later : RunDatabase}, stateAbsent absence later → decisionStands later parsed absence value
            asOf recordedAt (decisionRow parsed asOf value recordedAt) :=
          fun hlater => ⟨sameDecision_decisionRow, hlater⟩
        have hfound : ∀ {delivery : sql.Delivery}, delivery.send (decisionStatement absence
            (decisionRow parsed asOf value recordedAt)) database = (some 1, { database with ledger := inserted }) →
            recordStatelessAlertEvaluatorDecision database parsed absence asOf value recordedAt expectedDisposition
              delivery = (.ok .recorded, { database with ledger := inserted }) := by
          intro delivery hsend
          simp only [recordStatelessAlertEvaluatorDecision, hinput, hfree, hsend]
          rfl
        refine ⟨hfound hanswered, ?_, ?_⟩
        · obtain hsend | hsend := hdelivered
          · exact .inl (hfound hsend)
          · right
            simp only [recordStatelessAlertEvaluatorDecision, hinput, hfree, hsend, hread, if_pos (hstands habsent)]
        · rintro later ⟨hsame, hkept⟩ again
          have hagain : readDecision later.ledger parsed.runId value.ordinal =
              some (decisionRow parsed asOf value recordedAt) := by
            rw [readDecision, readDecisions, hsame]
            exact hread
          simp only [recordStatelessAlertEvaluatorDecision, hinput, hagain, if_pos (hstands (hkept habsent))]
      · cases hstatement
        exact absurd rfl hchanged

end decision

section plan

variable {sha256 : Sha256} {decisions : List AlertEvaluatorDecisionProofValue} {sealedAt asOf updatedAt : Timestamp}
  {plan : SealedPlan}

/-- What is offered for a bound run. -/
theorem sealing_offers {parsed : AlertEvaluatorRunFence}
    (hoffer : sealing sha256 ledger fence decisions sealedAt = .ok (.inr (parsed, plan, asOf, updatedAt))) :
    parsed = fence ∧ parseFence fence = .ok fence ∧ canonicalTimestamp sealedAt = .ok sealedAt ∧
      decisions.mapM parseAlertEvaluatorDecisionProofValue = .ok decisions ∧
      sealedPlan sha256 ledger fence.runId decisions = .ok plan ∧
      ∃ run, readRunById ledger fence.runId = some run ∧ runMatchesFence run fence := by
  unfold sealing at hoffer
  obtain ⟨checked, hparse, hchecked⟩ := bind_eq_ok_iff.mp hoffer
  clear hoffer
  have hfence : checked = fence := parseFence_returns _ _ hparse
  rw [hfence] at hparse hchecked
  obtain ⟨instant, hinstant, hbound⟩ := bind_eq_ok_iff.mp hchecked
  have hsame : instant = sealedAt := canonicalTimestamp_returns _ _ hinstant
  rw [hsame] at hinstant hbound
  obtain ⟨accepted, haccepted, hfound⟩ := bind_eq_ok_iff.mp hbound
  rw [orFail_eq_ok_iff] at haccepted
  have hvalues : accepted = decisions :=
    ((mapM_eq_ok_iff_of_returns parseAlertEvaluatorDecisionProofValue_returns).mp haccepted).1
  rw [hvalues] at haccepted hfound
  clear hchecked hbound hfence hsame hvalues
  split at hfound
  · cases hfound
  · rename_i run hread
    split at hfound
    · cases hfound
    · rename_i hmatch
      obtain ⟨sealed, hplan, hplanned⟩ := bind_eq_ok_iff.mp hfound
      split at hplanned
      · cases hplanned
      · split at hplanned
        · cases hplanned
        · split at hplanned
          · cases hplanned
          · cases hplanned
            exact ⟨rfl, hparse, hinstant, haccepted, hplan, run, hread, not_not.mp hmatch⟩

/-- A run that is sealed with the plan is answered as it stands. -/
theorem sealing_replays {run : EvaluatorRunRow} (hparse : parseFence fence = .ok fence)
    (hinstant : canonicalTimestamp sealedAt = .ok sealedAt)
    (hdecisions : decisions.mapM parseAlertEvaluatorDecisionProofValue = .ok decisions)
    (hread : readRunById ledger fence.runId = some run) (hmatch : runMatchesFence run fence)
    (hplan : sealedPlan sha256 ledger fence.runId decisions = .ok plan) (hsealed : isSealedWith plan sealedAt run)
    (hcount : run.sourceCount = some 9) :
    sealing sha256 ledger fence decisions sealedAt = .ok (.inl (.replayed fence run)) := by
  unfold sealing
  rw [hparse, ok_bind, hinstant, ok_bind, orFail_eq_ok_iff.mpr hdecisions, ok_bind, hread]
  dsimp only
  rw [if_neg (not_not.mpr hmatch), hplan, ok_bind, if_pos ⟨hsealed, hcount⟩]
  rfl

/-- A plan of a bound run is offered between its last write and the end of its lease. -/
theorem sealing_of_plan {run : EvaluatorRunRow} (hparse : parseFence fence = .ok fence)
    (hinstant : canonicalTimestamp sealedAt = .ok sealedAt)
    (hdecisions : decisions.mapM parseAlertEvaluatorDecisionProofValue = .ok decisions)
    (hread : readRunById ledger fence.runId = some run) (hmatch : runMatchesFence run fence)
    (hplan : sealedPlan sha256 ledger fence.runId decisions = .ok plan) (hstatus : run.status = .running)
    (hasOf : run.asOf = some asOf) (htime : run.updatedAt < sealedAt ∧ sealedAt < run.leaseExpiresAt) :
    sealing sha256 ledger fence decisions sealedAt = .ok (.inr (fence, plan, asOf, run.updatedAt)) := by
  have hopen : ¬ (isSealedWith plan sealedAt run ∧ run.sourceCount = some 9) := by
    rintro ⟨⟨hsealed, -⟩, -⟩
    rw [hstatus] at hsealed
    cases hsealed
  have hwithin : ¬ (run.status ≠ .running ∨ sealedAt ≤ run.updatedAt ∨ run.leaseExpiresAt ≤ sealedAt) := by
    rintro (hother | hearly | hlate)
    · exact hother hstatus
    · exact absurd htime.1 (Int.not_lt.mpr hearly)
    · exact absurd htime.2 (Int.not_lt.mpr hlate)
  unfold sealing
  rw [hparse, ok_bind, hinstant, ok_bind, orFail_eq_ok_iff.mpr hdecisions, ok_bind, hread]
  dsimp only
  rw [if_neg (not_not.mpr hmatch), hplan, ok_bind, if_neg hopen, hasOf]
  dsimp only
  rw [if_neg hwithin]
  rfl

theorem seal_of_send {run : EvaluatorRunRow} {answer : Option Nat}
    (hoffer : sealing sha256 ledger fence decisions sealedAt = .ok (.inr (fence, plan, asOf, updatedAt)))
    (hsend : delivery.send (EvaluatorStatement.run (.sealPlan fence asOf updatedAt sealedAt plan.partialCount
      plan.decisionCount plan.sourceDigest plan.decisionDigest)) ledger = (answer, next))
    (hanswer : ∀ changes ∈ answer, changes = 0 ∨ changes = 1) (hread : readRunById next fence.runId = some run)
    (hmatch : runMatchesFence run fence) (hsealed : isSealedWith plan sealedAt run) :
    sealAlertEvaluatorRunPlan sha256 ledger fence decisions sealedAt delivery =
      (.ok (if answer = some 1 then .committed fence run else .replayed fence run), next) := by
  have hchanges : ¬ ∃ changes ∈ answer, changes ≠ 0 ∧ changes ≠ 1 := by
    rintro ⟨changes, hmem, hzero, hone⟩
    exact (hanswer changes hmem).elim hzero hone
  have hfound : decide (runMatchesFence run fence ∧ isSealedWith plan sealedAt run) = true :=
    decide_eq_true ⟨hmatch, hsealed⟩
  unfold sealAlertEvaluatorRunPlan
  simp only [hoffer, hsend, hread, Option.filter_some, hfound, if_true]
  rw [throwIf_bind_of_not hchanges]
  rfl

/-- A plan that has been sealed is found again by its manifests, from the same sources. -/
theorem sealAlertEvaluatorRunPlan_repeats (hdistinct : ledger.Distinct)
    (hchanged : (sealAlertEvaluatorRunPlan sha256 ledger fence decisions sealedAt delivery).2 ≠ ledger) :
    ∃ run, Repeats (fun ledger => sealAlertEvaluatorRunPlan sha256 ledger fence decisions sealedAt) ledger
      (sealAlertEvaluatorRunPlan sha256 ledger fence decisions sealedAt delivery).2 delivery
      (fun later => readRunById later fence.runId = readRunById
          (sealAlertEvaluatorRunPlan sha256 ledger fence decisions sealedAt delivery).2 fence.runId ∧
        later.sourcesOf fence.runId =
          (sealAlertEvaluatorRunPlan sha256 ledger fence decisions sealedAt delivery).2.sourcesOf fence.runId)
      (.committed fence run) (.replayed fence run) := by
  cases hoffer : sealing sha256 ledger fence decisions sealedAt with
  | error code =>
    rw [sealAlertEvaluatorRunPlan, hoffer] at hchanged
    exact absurd rfl hchanged
  | ok offer =>
    cases offer with
    | inl result =>
      rw [sealAlertEvaluatorRunPlan, hoffer] at hchanged
      exact absurd rfl hchanged
    | inr offer =>
      obtain ⟨parsed, plan, asOf, updatedAt⟩ := offer
      obtain ⟨rfl, hparse, hinstant, hdecisions, hplan, before, hbefore, hmatches⟩ := sealing_offers hoffer
      have hsent : (sealAlertEvaluatorRunPlan sha256 ledger parsed decisions sealedAt delivery).2 =
          (delivery.send (EvaluatorStatement.run (.sealPlan parsed asOf updatedAt sealedAt plan.partialCount
            plan.decisionCount plan.sourceDigest plan.decisionDigest)) ledger).2 := by
        simp only [sealAlertEvaluatorRunPlan, hoffer]
      rw [hsent] at hchanged ⊢
      obtain ⟨next, changes, hnext, hstatement, hanswered, hdelivered⟩ := sql.Delivery.send_changed hchanged
      rw [hnext] at hchanged ⊢
      obtain ⟨old, run, hrun, hmatch, hold, hread, hchanges, hsources⟩ :=
        updateRun_changed hdistinct hstatement hchanged
      have hid : old.id = parsed.runId := (of_decide_eq_true hmatch).1
      rw [hid] at hold hread
      obtain rfl : before = old := Option.some.inj (hbefore.symm.trans hold)
      have hfence : runMatchesFence run parsed := by
        rw [hrun]
        exact hmatches
      have hsealed : isSealedWith plan sealedAt run := by
        rw [hrun]
        exact ⟨rfl, rfl, rfl, rfl, rfl, rfl⟩
      have hcount : run.sourceCount = some 9 := by rw [hrun]
      have hrenews : ¬ Renews before run := by
        rw [hrun]
        intro hrenews
        have hsame : before.leaseRevision = before.leaseRevision + 1 := hrenews.2.2
        omega
      rw [if_neg hrenews] at hchanges
      subst hchanges
      refine ⟨run, ?_, ?_, ?_⟩
      · exact seal_of_send hoffer hanswered (by simp) hread hfence hsealed
      · obtain hsend | hsend := hdelivered
        · exact .inl (seal_of_send hoffer hsend (by simp) hread hfence hsealed)
        · exact .inr (seal_of_send hoffer hsend (by simp) hread hfence hsealed)
      · rintro later ⟨hsame, hproofs⟩ again
        rw [hread] at hsame
        have hagain : sealedPlan sha256 later parsed.runId decisions = .ok plan := by
          rw [← hplan, sealedPlan, sealedPlan, hproofs, sourcesOf, sourcesOf, hsources]
        have hreplays := sealing_replays hparse hinstant hdecisions hsame hfence hagain hsealed hcount
        rw [sealAlertEvaluatorRunPlan, hreplays]

end plan

end evaluator

end pgid.alert
