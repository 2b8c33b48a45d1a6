import Mathlib.Order.Interval.Finset.Nat
import PgidSso.Logout.Worker

open checked transition

namespace pgid.logout

/-- The running attempt of a delivery. -/
def LogoutDeliveryAttempt.RunsOn (attempt : LogoutDeliveryAttempt) (row : LogoutDelivery) : Prop :=
  attempt.deliveryId = row.id ∧ attempt.replayCount = row.replayCount ∧ attempt.attemptNumber = row.attempts ∧
    row.leaseId = some attempt.leaseId ∧ attempt.outcome = .inFlight

instance (attempt : LogoutDeliveryAttempt) (row : LogoutDelivery) : Decidable (attempt.RunsOn row) := by
  unfold LogoutDeliveryAttempt.RunsOn
  infer_instance

/-- Running attempts and processing deliveries belong together. -/
structure Tables.Consistent (tables : Tables) : Prop where
  constraints : tables.Constraints
  running : ∀ attempt ∈ tables.attempts, attempt.outcome = .inFlight →
    ∃ row ∈ tables.deliveries, row.status = .processing ∧ attempt.RunsOn row
  processing : ∀ row ∈ tables.deliveries, row.status = .processing →
    ∃ attempt ∈ tables.attempts, attempt.RunsOn row

theorem commit_eq_ok_iff {tables next : Tables} :
    commit tables = .ok next ↔ next = tables ∧ tables.Constraints := by
  rw [commit, throwIf_bind_eq_ok_iff, pure_eq_ok_iff, Decidable.not_not]
  constructor
  · rintro ⟨hchecks, rfl⟩
    exact ⟨rfl, hchecks⟩
  · rintro ⟨rfl, hchecks⟩
    exact ⟨hchecks, rfl⟩

namespace Tables.Consistent

variable {tables : Tables}

/-- The delivery of a running attempt is the one that it runs on. -/
theorem row_unique (hconsistent : tables.Consistent) {left right : LogoutDelivery}
    (hleft : left ∈ tables.deliveries) (hright : right ∈ tables.deliveries) (hid : left.id = right.id) :
    left = right :=
  table.eq_of_key hconsistent.constraints.ids hleft hright hid

theorem runsOn_status (hconsistent : tables.Consistent) {attempt : LogoutDeliveryAttempt}
    {row : LogoutDelivery} (hattempt : attempt ∈ tables.attempts) (hrow : row ∈ tables.deliveries)
    (hruns : attempt.RunsOn row) : row.status = .processing := by
  obtain ⟨other, hother, hstatus, hotherRuns⟩ := hconsistent.running attempt hattempt hruns.2.2.2.2
  have hsame : other = row := hconsistent.row_unique hother hrow (hotherRuns.1.symm.trans hruns.1)
  exact hsame ▸ hstatus

/-- A pair of updates that ends the attempts of exactly the deliveries that it ends. -/
theorem settle (hconsistent : tables.Consistent) {running : LogoutDeliveryAttempt → Prop}
    [DecidablePred running] {endAttempt : LogoutDeliveryAttempt → LogoutDeliveryAttempt}
    {held : LogoutDelivery → Prop} [DecidablePred held] {endDelivery : LogoutDelivery → LogoutDelivery}
    (hconstraints : Tables.Constraints
      { deliveries := table.update held endDelivery tables.deliveries
        attempts := table.update running endAttempt tables.attempts })
    (hattempt : ∀ attempt, running attempt → (endAttempt attempt).outcome ≠ .inFlight)
    (hdelivery : ∀ row, held row → (endDelivery row).status ≠ .processing)
    (hpair : ∀ attempt ∈ tables.attempts, ∀ row ∈ tables.deliveries, attempt.RunsOn row →
      (running attempt ↔ held row)) :
    Tables.Consistent
      { deliveries := table.update held endDelivery tables.deliveries
        attempts := table.update running endAttempt tables.attempts } := by
  refine ⟨hconstraints, ?_, ?_⟩
  · intro attempt hmem hinFlight
    rcases table.mem_update.mp hmem with ⟨old, -, hrunning, rfl⟩ | ⟨hold, hnot⟩
    · exact absurd hinFlight (hattempt old hrunning)
    · obtain ⟨row, hrow, hstatus, hruns⟩ := hconsistent.running attempt hold hinFlight
      have hkept : ¬ held row := fun hheld => hnot ((hpair attempt hold row hrow hruns).mpr hheld)
      exact ⟨row, table.mem_update_of_not hrow hkept, hstatus, hruns⟩
  · intro row hmem hstatus
    rcases table.mem_update.mp hmem with ⟨old, -, hheld, rfl⟩ | ⟨hold, hnot⟩
    · exact absurd hstatus (hdelivery old hheld)
    · obtain ⟨attempt, hattempt, hruns⟩ := hconsistent.processing row hold hstatus
      have hkept : ¬ running attempt := fun hrunning => hnot ((hpair attempt hattempt row hold hruns).mp hrunning)
      exact ⟨attempt, table.mem_update_of_not hattempt hkept, hruns⟩

end Tables.Consistent

section statements

variable {tables next : Tables} {changes : Nat × Nat}

theorem ExpiredLeaseDisposition.status_ne (disposition : ExpiredLeaseDisposition) :
    disposition.status ≠ .processing := by
  cases disposition <;> exact nofun

theorem DeliveryDisposition.status_ne (disposition : DeliveryDisposition) :
    disposition.status ≠ .processing := by
  cases disposition <;> exact nofun

theorem DeliveryDisposition.outcome_ne (disposition : DeliveryDisposition) :
    disposition.outcome ≠ .inFlight := by
  cases disposition <;> exact nofun

/-- A lease that was read as expired is expired for good: its delivery and its attempt
stay, and no other lease has its id. -/
structure ExpiredLease.Known (expired : ExpiredLease) (deliveryKey : Text) (now : Int) (tables : Tables) :
    Prop where
  delivery : ∃ row ∈ tables.deliveries, row.id = expired.id ∧ row.deliveryKey = deliveryKey
  attempt : ∃ attempt ∈ tables.attempts, attempt.leaseId = expired.leaseId
  due : ∀ row ∈ tables.deliveries, row.id = expired.id → row.leaseId = some expired.leaseId →
    dueBy row.leaseExpiresAt now = true

theorem readExpired_known (hconsistent : tables.Consistent) {deliveryKey : Text} {now : Int}
    {expired : ExpiredLease} (hread : readExpired deliveryKey now tables = some expired) :
    expired.Known deliveryKey now tables := by
  simp only [readExpired, Option.bind_eq_bind, Option.bind_eq_some_iff, Option.pure_def,
    Option.some.injEq] at hread
  obtain ⟨row, hfind, leaseId, hlease, rfl⟩ := hread
  have hmem := List.mem_of_find?_eq_some hfind
  have hfound := List.find?_some hfind
  rw [decide_eq_true_eq] at hfound
  obtain ⟨hkey, hstatus, hdue⟩ := hfound
  obtain ⟨attempt, hattempt, hruns⟩ := hconsistent.processing row hmem hstatus
  refine ⟨⟨row, hmem, rfl, hkey⟩, ⟨attempt, hattempt, ?_⟩, ?_⟩
  · exact Option.some.inj (hruns.2.2.2.1.symm.trans hlease)
  · intro other hother hid _
    rw [hconsistent.row_unique hother hmem hid]
    exact hdue

/-- What every statement leaves alone: delivered rows, the rows and their keys, the
leases of the attempts, and the expiry of a lease that is known. -/
structure Tables.Follows (tables next : Tables) : Prop where
  delivered : ∀ row ∈ tables.deliveries, row.status = .delivered → row ∈ next.deliveries
  deliveries : ∀ row ∈ tables.deliveries, ∃ later ∈ next.deliveries,
    later.id = row.id ∧ later.deliveryKey = row.deliveryKey
  attempts : ∀ attempt ∈ tables.attempts, ∃ later ∈ next.attempts, later.leaseId = attempt.leaseId
  leases : ∀ later ∈ next.deliveries, later.leaseId = none ∨
    (∀ attempt ∈ tables.attempts, later.leaseId ≠ some attempt.leaseId) ∨
    ∃ row ∈ tables.deliveries, row.id = later.id ∧ row.leaseId = later.leaseId ∧
      row.leaseExpiresAt = later.leaseExpiresAt

theorem Tables.Follows.refl (tables : Tables) : tables.Follows tables :=
  ⟨fun _ hrow _ => hrow, fun row hrow => ⟨row, hrow, rfl, rfl⟩, fun attempt h => ⟨attempt, h, rfl⟩,
    fun row hrow => .inr (.inr ⟨row, hrow, rfl, rfl, rfl⟩)⟩

theorem ExpiredLease.Known.follow {expired : ExpiredLease} {deliveryKey : Text} {now : Int}
    (hknown : expired.Known deliveryKey now tables) (hfollows : tables.Follows next) :
    expired.Known deliveryKey now next := by
  obtain ⟨⟨row, hrow, hid, hkey⟩, ⟨attempt, hattempt, hlease⟩, hdue⟩ := hknown
  refine ⟨?_, ?_, ?_⟩
  · obtain ⟨later, hlater, hlaterId, hlaterKey⟩ := hfollows.deliveries row hrow
    exact ⟨later, hlater, hlaterId.trans hid, hlaterKey.trans hkey⟩
  · obtain ⟨later, hlater, hlaterLease⟩ := hfollows.attempts attempt hattempt
    exact ⟨later, hlater, hlaterLease.trans hlease⟩
  · intro later hlater hlaterId hlaterLease
    rcases hfollows.leases later hlater with hnone | hnew | ⟨old, hold, holdId, holdLease, hexpiry⟩
    · rw [hnone] at hlaterLease
      cases hlaterLease
    · exact absurd (hlease ▸ hlaterLease) (hnew attempt hattempt)
    · rw [← hexpiry]
      exact hdue old hold (holdId.trans hlaterId) (holdLease.trans hlaterLease)

/-- A change of deliveries that are not delivered, which drops their lease or takes a
new one, and of attempts that keep theirs. -/
theorem Tables.Follows.of_update {held : LogoutDelivery → Prop} [DecidablePred held]
    {change : LogoutDelivery → LogoutDelivery} {attempts : List LogoutDeliveryAttempt}
    (hdelivered : ∀ row ∈ tables.deliveries, held row → row.status ≠ .delivered)
    (hkeys : ∀ row, (change row).id = row.id ∧ (change row).deliveryKey = row.deliveryKey)
    (hleases : ∀ row ∈ tables.deliveries, held row → (change row).leaseId = none ∨
      ∀ attempt ∈ tables.attempts, (change row).leaseId ≠ some attempt.leaseId)
    (hattempts : ∀ attempt ∈ tables.attempts, ∃ later ∈ attempts, later.leaseId = attempt.leaseId) :
    tables.Follows { deliveries := table.update held change tables.deliveries, attempts } := by
  refine ⟨?_, ?_, hattempts, ?_⟩
  · intro row hrow hstatus
    exact table.mem_update_of_not hrow fun hheld => hdelivered row hrow hheld hstatus
  · intro row hrow
    by_cases hheld : held row
    · exact ⟨change row, table.change_mem_update hrow hheld, hkeys row⟩
    · exact ⟨row, table.mem_update_of_not hrow hheld, rfl, rfl⟩
  · intro later hlater
    rcases table.mem_update.mp hlater with ⟨old, hold, hheld, rfl⟩ | ⟨hold, -⟩
    · rcases hleases old hold hheld with hnone | hnew
      · exact .inl hnone
      · exact .inr (.inl hnew)
    · exact .inr (.inr ⟨later, hold, rfl, rfl, rfl⟩)

theorem exists_lease_of_update {running : LogoutDeliveryAttempt → Prop} [DecidablePred running]
    {endAttempt : LogoutDeliveryAttempt → LogoutDeliveryAttempt}
    (hlease : ∀ attempt, (endAttempt attempt).leaseId = attempt.leaseId)
    {attempts : List LogoutDeliveryAttempt} :
    ∀ attempt ∈ attempts, ∃ later ∈ table.update running endAttempt attempts,
      later.leaseId = attempt.leaseId := by
  intro attempt hattempt
  by_cases hrunning : running attempt
  · exact ⟨endAttempt attempt, table.change_mem_update hattempt hrunning, hlease attempt⟩
  · exact ⟨attempt, table.mem_update_of_not hattempt hrunning, rfl⟩

theorem recover_ok (hconsistent : tables.Consistent) {deliveryKey : Text} {expired : ExpiredLease} {now : Int}
    (hknown : expired.Known deliveryKey now tables)
    (hrecover : recoverExpiredLogoutDelivery deliveryKey expired now tables = .ok (changes, next)) :
    next.Consistent ∧ tables.Follows next := by
  simp only [recoverExpiredLogoutDelivery, bind_eq_ok_iff, commit_eq_ok_iff, pure_eq_ok_iff,
    Prod.mk.injEq] at hrecover
  obtain ⟨rows, ⟨rfl, hconstraints⟩, -, rfl⟩ := hrecover
  constructor
  · refine hconsistent.settle hconstraints ?_ ?_ ?_
    · intro attempt _ hsame
      cases hsame
    · intro row _
      exact ExpiredLeaseDisposition.status_ne _
    · intro attempt hattempt row hrow hruns
      constructor
      · intro hrunning
        obtain ⟨hid, hreplay, hnumber, hlease, -⟩ := hrunning
        have hrowId : row.id = expired.id := hruns.1.symm.trans hid
        have hrowLease : row.leaseId = some expired.leaseId := hlease ▸ hruns.2.2.2.1
        obtain ⟨known, hknownRow, hknownId, hknownKey⟩ := hknown.delivery
        have hsame : known = row := hconsistent.row_unique hknownRow hrow (hknownId.trans hrowId.symm)
        refine ⟨⟨hrowId, hconsistent.runsOn_status hattempt hrow hruns, hrowLease,
          hruns.2.2.1.symm.trans hnumber, hruns.2.1.symm.trans hreplay⟩, hsame ▸ hknownKey,
          hknown.due row hrow hrowId hrowLease, ?_⟩
        refine ⟨_, table.change_mem_update hattempt ⟨hid, hreplay, hnumber, hlease, hruns.2.2.2.2⟩, hid, hreplay, hnumber, hlease, rfl, rfl, rfl⟩
      · rintro ⟨⟨hid, -, hlease, hnumber, hreplay⟩, -⟩
        exact ⟨hruns.1.trans hid, hruns.2.1.trans hreplay, hruns.2.2.1.trans hnumber,
          Option.some.inj (hruns.2.2.2.1.symm.trans hlease), hruns.2.2.2.2⟩
  · apply Tables.Follows.of_update
    · rintro row - ⟨⟨-, hstatus, -⟩, -⟩ hdelivered
      rw [hstatus] at hdelivered
      cases hdelivered
    · exact fun _ => ⟨rfl, rfl⟩
    · exact fun _ _ _ => .inl rfl
    · apply exists_lease_of_update
      intro attempt
      rfl

theorem persist_ok (hconsistent : tables.Consistent) {delivery : ClaimedLogoutDelivery}
    {result : DeliveryAttemptResult} {now : Int}
    (hpersist : persistAttemptResult delivery result now tables = .ok (changes, next)) :
    next.Consistent ∧ tables.Follows next ∧
      (next = tables ∨ ((∃ row ∈ tables.deliveries,
          row.HeldBy delivery.id delivery.replayCount delivery.attempts delivery.leaseId) ∧
        next.deliveries ≠ tables.deliveries ∧ next.attempts ≠ tables.attempts)) := by
  simp only [persistAttemptResult, bind_eq_ok_iff, commit_eq_ok_iff, pure_eq_ok_iff,
    Prod.mk.injEq] at hpersist
  obtain ⟨rows, ⟨rfl, hconstraints⟩, -, rfl⟩ := hpersist
  refine ⟨?_, ?_, ?_⟩
  · refine hconsistent.settle hconstraints ?_ ?_ ?_
    · intro attempt _
      exact DeliveryDisposition.outcome_ne _
    · intro row _
      exact DeliveryDisposition.status_ne _
    · intro attempt hattempt row hrow hruns
      constructor
      · rintro ⟨⟨hid, hreplay, hnumber, hlease, -⟩, hheld⟩
        have hrowId : row.id = delivery.id := hruns.1.symm.trans hid
        refine ⟨⟨hrowId, hconsistent.runsOn_status hattempt hrow hruns, hlease ▸ hruns.2.2.2.1,
          hruns.2.2.1.symm.trans hnumber, hruns.2.1.symm.trans hreplay⟩, ?_⟩
        exact ⟨_, table.mem_update.mpr (.inl ⟨attempt, hattempt, ⟨⟨hid, hreplay, hnumber, hlease,
          hruns.2.2.2.2⟩, hheld⟩, rfl⟩), hid, hreplay, hnumber, hlease, rfl, rfl, rfl⟩
      · rintro ⟨hheld, -⟩
        obtain ⟨hid, -, hlease, hnumber, hreplay⟩ := hheld
        refine ⟨⟨hruns.1.trans hid, hruns.2.1.trans hreplay, hruns.2.2.1.trans hnumber,
          Option.some.inj (hruns.2.2.2.1.symm.trans hlease), hruns.2.2.2.2⟩, row, hrow, ?_⟩
        exact ⟨hid, hconsistent.runsOn_status hattempt hrow hruns, hlease, hnumber, hreplay⟩
  · apply Tables.Follows.of_update
    · rintro row - ⟨⟨-, hstatus, -⟩, -⟩ hdelivered
      rw [hstatus] at hdelivered
      cases hdelivered
    · exact fun _ => ⟨rfl, rfl⟩
    · exact fun _ _ _ => .inl rfl
    · apply exists_lease_of_update
      intro attempt
      rfl
  · by_cases hheld : ∃ row ∈ tables.deliveries,
        row.HeldBy delivery.id delivery.replayCount delivery.attempts delivery.leaseId
    · refine .inr ⟨hheld, ?_⟩
      obtain ⟨row, hrow, hrowHeld⟩ := hheld
      obtain ⟨attempt, hattempt, hruns⟩ := hconsistent.processing row hrow hrowHeld.2.1
      obtain ⟨hid, hstatus, hlease, hnumber, hreplay⟩ := hrowHeld
      have hrunning : attempt.Runs delivery.id delivery.replayCount delivery.attempts delivery.leaseId :=
        ⟨hruns.1.trans hid, hruns.2.1.trans hreplay, hruns.2.2.1.trans hnumber,
          Option.some.inj (hruns.2.2.2.1.symm.trans hlease), hruns.2.2.2.2⟩
      have hrowHeld : row.HeldBy delivery.id delivery.replayCount delivery.attempts delivery.leaseId :=
        ⟨hid, hstatus, hlease, hnumber, hreplay⟩
      constructor
      · apply table.update_ne_self hconsistent.constraints.ids hrow
        · exact ⟨hrowHeld, _, table.change_mem_update hattempt ⟨hrunning, row, hrow, hrowHeld⟩,
            hrunning.1, hrunning.2.1, hrunning.2.2.1, hrunning.2.2.2.1, rfl, rfl, rfl⟩
        · rfl
        · intro hsame
          exact DeliveryDisposition.status_ne _ ((congrArg LogoutDelivery.status hsame).trans hstatus)
      · apply table.update_ne_self hconsistent.constraints.leases hattempt
        · exact ⟨hrunning, row, hrow, hrowHeld⟩
        · rfl
        · intro hsame
          exact DeliveryDisposition.outcome_ne _
            ((congrArg LogoutDeliveryAttempt.outcome hsame).trans hruns.2.2.2.2)
    · refine .inl ?_
      congr 1
      · exact table.update_of_none fun row hrow hmatch => hheld ⟨row, hrow, hmatch.1⟩
      · exact table.update_of_none fun attempt _ hmatch => hheld hmatch.2

theorem claim_ok (hconsistent : tables.Consistent) {deliveryKey leaseId jti attemptId : Text} {now : Int}
    (hclaim : claimLogoutDelivery deliveryKey leaseId jti attemptId now tables = .ok (changes, next)) :
    next.Consistent ∧ tables.Follows next := by
  simp only [claimLogoutDelivery, bind_eq_ok_iff, commit_eq_ok_iff, pure_eq_ok_iff,
    Prod.mk.injEq] at hclaim
  obtain ⟨rows, ⟨rfl, hconstraints⟩, -, rfl⟩ := hclaim
  refine ⟨⟨hconstraints, ?_, ?_⟩, ?_⟩
  · intro attempt hattempt hinFlight
    rcases List.mem_append.mp hattempt with hold | hnew
    · obtain ⟨row, hrow, hstatus, hruns⟩ := hconsistent.running attempt hold hinFlight
      refine ⟨row, table.mem_update_of_not hrow ?_, hstatus, hruns⟩
      rintro ⟨-, -, -, hpending | hretry, -⟩
      · rw [hpending] at hstatus
        cases hstatus
      · rw [hretry] at hstatus
        cases hstatus
    · obtain ⟨row, hrow, rfl⟩ := List.mem_map.mp hnew
      obtain ⟨hmem, -, hstatus, hlease, -⟩ := table.mem_matched.mp hrow
      exact ⟨row, hmem, hstatus, rfl, rfl, rfl, hlease, rfl⟩
  · intro row hrow hstatus
    rcases table.mem_update.mp hrow with ⟨old, hold, hclaimable, rfl⟩ | ⟨hold, -⟩
    · refine ⟨_, List.mem_append_right _ (List.mem_map.mpr ⟨_, table.mem_matched.mpr ⟨hrow, ?_⟩, rfl⟩), ?_⟩
      · exact ⟨hclaimable.1, rfl, rfl, rfl⟩
      · exact ⟨rfl, rfl, rfl, rfl, rfl⟩
    · obtain ⟨attempt, hattempt, hruns⟩ := hconsistent.processing row hold hstatus
      exact ⟨attempt, List.mem_append_left _ hattempt, hruns⟩
  · apply Tables.Follows.of_update
    · rintro row - ⟨-, -, -, hpending | hretry, -⟩ hdelivered
      · rw [hpending] at hdelivered
        cases hdelivered
      · rw [hretry] at hdelivered
        cases hdelivered
    · exact fun _ => ⟨rfl, rfl⟩
    · intro row hrow hclaimable
      refine .inr ?_
      intro attempt hattempt heq
      have hleases := hconstraints.leases
      rw [List.map_append, List.nodup_append] at hleases
      refine hleases.2.2 attempt.leaseId (List.mem_map_of_mem hattempt) leaseId ?_
        (Option.some.inj heq).symm
      rw [List.map_map]
      refine List.mem_map.mpr ⟨_, table.mem_matched.mpr ⟨table.change_mem_update hrow hclaimable, ?_⟩, rfl⟩
      exact ⟨hclaimable.1, rfl, rfl, rfl⟩
    · exact fun attempt hattempt => ⟨attempt, List.mem_append_left _ hattempt, rfl⟩

theorem replay_ok (hconsistent : tables.Consistent) {row : ReplayRow} {endpoint : Text} {now : Int}
    {changed : Nat} (hreplay : replayLogoutDelivery row endpoint now tables = .ok (changed, next)) :
    next.Consistent ∧ tables.Follows next := by
  simp only [replayLogoutDelivery, bind_eq_ok_iff, commit_eq_ok_iff, pure_eq_ok_iff,
    Prod.mk.injEq] at hreplay
  obtain ⟨rows, ⟨rfl, hconstraints⟩, -, rfl⟩ := hreplay
  refine ⟨⟨hconstraints, ?_, ?_⟩, ?_⟩
  · intro attempt hattempt hinFlight
    obtain ⟨delivery, hmem, hstatus, hruns⟩ := hconsistent.running attempt hattempt hinFlight
    refine ⟨delivery, table.mem_update_of_not hmem ?_, hstatus, hruns⟩
    rintro ⟨-, hdead | hretry, -⟩
    · rw [hdead] at hstatus
      cases hstatus
    · rw [hretry] at hstatus
      cases hstatus
  · intro delivery hmem hstatus
    rcases table.mem_update.mp hmem with ⟨old, -, -, rfl⟩ | ⟨hold, -⟩
    · cases hstatus
    · exact hconsistent.processing delivery hold hstatus
  · apply Tables.Follows.of_update
    · rintro delivery - ⟨-, hdead | hretry, -⟩ hdelivered
      · rw [hdead] at hdelivered
        cases hdelivered
      · rw [hretry] at hdelivered
        cases hdelivered
    · exact fun _ => ⟨rfl, rfl⟩
    · exact fun _ _ _ => .inl rfl
    · exact fun attempt hattempt => ⟨attempt, hattempt, rfl⟩

theorem outboxDelivery_status_ne {deliveryKeyPrefix eventId : Text} {reason : LogoutReason} {now : Int}
    {id number : Nat} {visit : OutboxVisit} :
    (outboxDelivery deliveryKeyPrefix eventId reason now id number visit).status ≠ .processing := by
  rw [outboxDelivery]
  split <;> exact nofun

theorem insertDelivery_eq (delivery : LogoutDelivery) (deliveries : List LogoutDelivery) :
    insertDelivery delivery deliveries = deliveries ∨
      insertDelivery delivery deliveries = deliveries ++ [delivery] := by
  rw [insertDelivery]
  split
  · exact .inl rfl
  · exact .inr rfl

/-- An outbox only adds rows, without a lease and not processing. -/
theorem insertOutbox_eq_append (deliveryKeyPrefix eventId : Text) (reason : LogoutReason) (now : Int)
    (visits : List OutboxVisit) (deliveries : List LogoutDelivery) :
    ∃ added, insertOutbox deliveryKeyPrefix eventId reason now visits deliveries = deliveries ++ added ∧
      ∀ row ∈ added, row.leaseId = none ∧ row.status ≠ .processing := by
  rw [insertOutbox]
  induction visits.zipIdx generalizing deliveries with
  | nil => exact ⟨[], (List.append_nil _).symm, fun _ hrow => absurd hrow List.not_mem_nil⟩
  | cons numbered rest ih =>
    let delivery := outboxDelivery deliveryKeyPrefix eventId reason now (deliveries.length + 1)
      (numbered.2 + 1) numbered.1
    rw [List.foldl_cons]
    rcases insertDelivery_eq delivery deliveries with hkept | hinserted
    · rw [hkept]
      exact ih deliveries
    · rw [hinserted]
      obtain ⟨added, heq, hadded⟩ := ih (deliveries ++ [delivery])
      refine ⟨delivery :: added, ?_, ?_⟩
      · rw [heq, List.append_assoc]
        rfl
      · intro row hrow
        rcases List.mem_cons.mp hrow with rfl | hrow
        · exact ⟨rfl, outboxDelivery_status_ne⟩
        · exact hadded row hrow

theorem enqueue_ok (hconsistent : tables.Consistent) {deliveryKeyPrefix eventId : Text}
    {reason : LogoutReason} {now : Int} {visits : List OutboxVisit}
    (henqueue : commit { tables with
      deliveries := insertOutbox deliveryKeyPrefix eventId reason now visits tables.deliveries } =
        .ok next) : next.Consistent ∧ tables.Follows next := by
  obtain ⟨rfl, hconstraints⟩ := commit_eq_ok_iff.mp henqueue
  obtain ⟨added, heq, hadded⟩ :=
    insertOutbox_eq_append deliveryKeyPrefix eventId reason now visits tables.deliveries
  rw [heq] at hconstraints ⊢
  refine ⟨⟨hconstraints, ?_, ?_⟩, ?_, ?_, ?_, ?_⟩
  · intro attempt hattempt hinFlight
    obtain ⟨row, hrow, hrest⟩ := hconsistent.running attempt hattempt hinFlight
    exact ⟨row, List.mem_append_left _ hrow, hrest⟩
  · intro row hrow hstatus
    rcases List.mem_append.mp hrow with hold | hnew
    · exact hconsistent.processing row hold hstatus
    · exact absurd hstatus (hadded row hnew).2
  · exact fun row hrow _ => List.mem_append_left _ hrow
  · exact fun row hrow => ⟨row, List.mem_append_left _ hrow, rfl, rfl⟩
  · exact fun attempt hattempt => ⟨attempt, hattempt, rfl⟩
  · intro later hlater
    rcases List.mem_append.mp hlater with hold | hnew
    · exact .inr (.inr ⟨later, hold, rfl, rfl, rfl⟩)
    · exact .inl (hadded later hnew).1

end statements

/-- What holds of the tables and of the calls that recover, in every history. -/
structure System.Sound (system : System) : Prop where
  consistent : system.toTables.Consistent
  recovering : ∀ call deliveryKey expired now,
    system.calls call = some (.recovering deliveryKey expired now) →
      expired.Known deliveryKey now system.toTables

theorem System.Sound.start {system : System} (hstart : system.Start) : system.Sound := by
  obtain ⟨hdeliveries, hattempts, hcalls⟩ := hstart
  refine ⟨⟨⟨?_, ?_, ?_, ?_, ?_, ?_, ?_, ?_, ?_⟩, ?_, ?_⟩, ?_⟩
  all_goals
    simp [hdeliveries, hattempts, hcalls]

theorem System.Sound.setCall {system : System} {tables : Tables} {call : Nat} {phase : Call}
    (hsound : system.Sound) (hconsistent : tables.Consistent) (hfollows : system.toTables.Follows tables)
    (hphase : ∀ deliveryKey expired now, phase = .recovering deliveryKey expired now →
      expired.Known deliveryKey now tables) :
    ({ system with toTables := tables }.setCall call phase).Sound := by
  refine ⟨hconsistent, ?_⟩
  intro other deliveryKey expired now hfound
  rcases setCall_calls hfound with ⟨-, heq⟩ | ⟨-, hfound⟩
  · exact hphase deliveryKey expired now heq.symm
  · exact (hsound.recovering other deliveryKey expired now hfound).follow hfollows

/-- A step that leaves the tables alone. -/
theorem System.Sound.keep {system : System} {call : Nat} {phase : Call} (hsound : system.Sound)
    (hphase : ∀ deliveryKey expired now, phase = .recovering deliveryKey expired now →
      expired.Known deliveryKey now system.toTables) : (system.setCall call phase).Sound :=
  hsound.setCall hsound.consistent (.refl _) hphase

/-- A step keeps the tables consistent, and changes no delivered row. -/
theorem System.Sound.step {system next : System} {action : Action} (hsound : system.Sound)
    (hstep : Step system action next) : next.Sound ∧ system.toTables.Follows next.toTables := by
  cases action with
  | enqueue deliveryKeyPrefix eventId reason visits now =>
    simp only [Step, perform] at hstep
    split at hstep
    · cases hstep
      exact ⟨hsound, .refl _⟩
    · rename_i tables henqueue
      cases hstep
      obtain ⟨hconsistent, hfollows⟩ := enqueue_ok hsound.consistent henqueue
      refine ⟨⟨hconsistent, ?_⟩, hfollows⟩
      intro call deliveryKey expired now hcall
      exact (hsound.recovering call deliveryKey expired now hcall).follow hfollows
  | readExpired call deliveryKey now =>
    simp only [Step, perform] at hstep
    split at hstep
    · cases hstep
    · split at hstep
      · cases hstep
        exact ⟨hsound.keep nofun, .refl _⟩
      · rename_i expired hread
        cases hstep
        refine ⟨hsound.keep ?_, .refl _⟩
        rintro _ _ _ ⟨⟩
        exact readExpired_known hsound.consistent hread
  | recover call =>
    simp only [Step, perform] at hstep
    split at hstep
    · rename_i deliveryKey expired now hcall
      split at hstep
      · cases hstep
        exact ⟨hsound.keep nofun, .refl _⟩
      · rename_i changes tables hrecover
        cases hstep
        obtain ⟨hconsistent, hfollows⟩ :=
          recover_ok hsound.consistent (hsound.recovering call deliveryKey expired now hcall) hrecover
        refine ⟨hsound.setCall hconsistent hfollows ?_, hfollows⟩
        split <;> exact nofun
    · cases hstep
  | recheck call =>
    simp only [Step, perform] at hstep
    split at hstep
    · split at hstep
      · cases hstep
        exact ⟨hsound.keep nofun, .refl _⟩
      · cases hstep
        exact ⟨hsound.keep nofun, .refl _⟩
    · cases hstep
  | claim call leaseId jti attemptId now =>
    simp only [Step, perform] at hstep
    split at hstep
    · split at hstep
      · cases hstep
        exact ⟨hsound.keep nofun, .refl _⟩
      · rename_i changes tables hclaim
        cases hstep
        obtain ⟨hconsistent, hfollows⟩ := claim_ok hsound.consistent hclaim
        refine ⟨hsound.setCall hconsistent hfollows ?_, hfollows⟩
        split <;> exact nofun
    · cases hstep
  | readClaimed call =>
    simp only [Step, perform] at hstep
    split at hstep
    · split at hstep
      · cases hstep
        exact ⟨hsound.keep nofun, .refl _⟩
      · cases hstep
        exact ⟨hsound.keep nofun, .refl _⟩
    · cases hstep
  | persist call response now =>
    simp only [Step, perform] at hstep
    split at hstep
    · split at hstep
      · cases hstep
        exact ⟨hsound.keep nofun, .refl _⟩
      · rename_i changes tables hpersist
        cases hstep
        obtain ⟨hconsistent, hfollows, -⟩ := persist_ok hsound.consistent hpersist
        exact ⟨hsound.setCall hconsistent hfollows nofun, hfollows⟩
    · cases hstep
  | readReplay call deliveryKey currentBackchannelLogoutUri =>
    simp only [Step, perform] at hstep
    split at hstep
    · cases hstep
    · split at hstep
      · cases hstep
        exact ⟨hsound.keep nofun, .refl _⟩
      · split at hstep
        · cases hstep
          exact ⟨hsound.keep nofun, .refl _⟩
        · cases hstep
          exact ⟨hsound.keep nofun, .refl _⟩
  | replay call now =>
    simp only [Step, perform] at hstep
    split at hstep
    · split at hstep
      · cases hstep
        exact ⟨hsound.keep nofun, .refl _⟩
      · rename_i changed tables hreplay
        cases hstep
        obtain ⟨hconsistent, hfollows⟩ := replay_ok hsound.consistent hreplay
        exact ⟨hsound.setCall hconsistent hfollows nofun, hfollows⟩
    · cases hstep

theorem sound_of_history {past : List Action} {system : System} (hhistory : History past system) :
    system.Sound := by
  induction hhistory with
  | start hstart => exact .start hstart
  | step _ hstep ih => exact (ih.step hstep).1

/-- The running attempts of a processing delivery, one and no more. -/
theorem Tables.Consistent.processing_iff {tables : Tables} (hconsistent : tables.Consistent)
    {row : LogoutDelivery} (hrow : row ∈ tables.deliveries) :
    row.status = .processing ↔
      (table.matched (fun attempt : LogoutDeliveryAttempt => attempt.RunsOn row) tables.attempts).length = 1 := by
  constructor
  · intro hstatus
    obtain ⟨attempt, hattempt, hruns⟩ := hconsistent.processing row hrow hstatus
    have hsingle : table.matched (fun attempt : LogoutDeliveryAttempt => attempt.RunsOn row)
        tables.attempts = [attempt] := by
      apply table.matched_eq_singleton hconsistent.constraints.leases hattempt hruns
      intro other _ hother
      exact Option.some.inj (hother.2.2.2.1.symm.trans hruns.2.2.2.1)
    rw [hsingle]
    rfl
  · intro hlength
    obtain ⟨attempt, hsingle⟩ := List.length_eq_one_iff.mp hlength
    have hmem : attempt ∈ table.matched (fun attempt : LogoutDeliveryAttempt => attempt.RunsOn row)
        tables.attempts := by
      rw [hsingle]
      exact List.mem_cons_self
    obtain ⟨hattempt, hruns⟩ := table.mem_matched.mp hmem
    exact hconsistent.runsOn_status hattempt hrow hruns

/-- The numbers of the attempts under one replay are different, and from one to five. -/
theorem Tables.Constraints.attempts_length_le {tables : Tables} (hconstraints : tables.Constraints)
    (deliveryId replayCount : Nat) :
    (table.matched (fun attempt : LogoutDeliveryAttempt =>
      attempt.deliveryId = deliveryId ∧ attempt.replayCount = replayCount) tables.attempts).length ≤
        LOGOUT_DELIVERY_MAX_ATTEMPTS := by
  let found := table.matched (fun attempt : LogoutDeliveryAttempt =>
    attempt.deliveryId = deliveryId ∧ attempt.replayCount = replayCount) tables.attempts
  have hkeys : (found.map fun attempt =>
      (attempt.deliveryId, attempt.replayCount, attempt.attemptNumber)).Nodup :=
    hconstraints.numbers.sublist (List.filter_sublist.map _)
  have hnumbers : found.map (fun attempt =>
      (attempt.deliveryId, attempt.replayCount, attempt.attemptNumber)) =
        (found.map (·.attemptNumber)).map fun number => (deliveryId, replayCount, number) := by
    rw [List.map_map]
    apply List.map_congr_left
    intro attempt hattempt
    obtain ⟨-, hdelivery, hreplay⟩ := table.mem_matched.mp hattempt
    rw [Function.comp_apply, hdelivery, hreplay]
  rw [hnumbers] at hkeys
  have hnodup := List.Nodup.of_map _ hkeys
  have hrange : (found.map (·.attemptNumber)).toFinset ⊆ Finset.Icc 1 5 := by
    intro number hnumber
    obtain ⟨attempt, hattempt, rfl⟩ := List.mem_map.mp (List.mem_toFinset.mp hnumber)
    obtain ⟨hmem, -⟩ := table.mem_matched.mp hattempt
    exact Finset.mem_Icc.mpr (hconstraints.attemptChecks attempt hmem).1
  calc found.length = (found.map (·.attemptNumber)).length := List.length_map _ |>.symm
    _ = (found.map (·.attemptNumber)).toFinset.card := (List.toFinset_card_of_nodup hnodup).symm
    _ ≤ (Finset.Icc 1 5).card := Finset.card_le_card hrange
    _ = LOGOUT_DELIVERY_MAX_ATTEMPTS := by rw [Nat.card_Icc, LOGOUT_DELIVERY_MAX_ATTEMPTS]

/-- A worker persists its result in both tables under its lease, or in neither. -/
theorem persist_both {system next : System} (hsound : system.Sound) {call : Nat}
    {response : LogoutResponse} {now : Int} {delivery : ClaimedLogoutDelivery}
    (hcall : system.calls call = some (.delivering delivery))
    (hstep : Step system (.persist call response now) next) :
    next.toTables = system.toTables ∨
      ((∃ row ∈ system.deliveries,
          row.HeldBy delivery.id delivery.replayCount delivery.attempts delivery.leaseId) ∧
        next.deliveries ≠ system.deliveries ∧ next.attempts ≠ system.attempts) := by
  simp only [Step, perform, hcall] at hstep
  split at hstep
  · cases hstep
    exact .inl rfl
  · rename_i changes tables hpersist
    cases hstep
    obtain ⟨-, -, hboth⟩ := persist_ok hsound.consistent hpersist
    exact hboth

/-- The state machine of the deliveries, in every history: a delivery is processing
exactly with its one running attempt, attempts are bounded and recorded once, delivered
rows stay, and a worker without its lease changes nothing. -/
theorem logoutDelivery_safe {past : List Action} {system : System} (hhistory : History past system) :
    (∀ row ∈ system.deliveries, row.status = .processing ↔
        (table.matched (fun attempt : LogoutDeliveryAttempt => attempt.RunsOn row) system.attempts).length = 1) ∧
      (∀ row ∈ system.deliveries, row.attempts ≤ LOGOUT_DELIVERY_MAX_ATTEMPTS) ∧
      (∀ deliveryId replayCount, (table.matched (fun attempt : LogoutDeliveryAttempt =>
        attempt.deliveryId = deliveryId ∧ attempt.replayCount = replayCount) system.attempts).length ≤
          LOGOUT_DELIVERY_MAX_ATTEMPTS) ∧
      (system.attempts.map fun attempt =>
        (attempt.deliveryId, attempt.replayCount, attempt.attemptNumber)).Nodup ∧
      (∀ action next, Step system action next → ∀ row ∈ system.deliveries, row.status = .delivered →
        row ∈ next.deliveries) ∧
      ∀ call response now delivery next, system.calls call = some (.delivering delivery) →
        Step system (.persist call response now) next →
          next.toTables = system.toTables ∨
            ((∃ row ∈ system.deliveries,
                row.HeldBy delivery.id delivery.replayCount delivery.attempts delivery.leaseId) ∧
              next.deliveries ≠ system.deliveries ∧ next.attempts ≠ system.attempts) := by
  have hsound := sound_of_history hhistory
  have hconstraints := hsound.consistent.constraints
  refine ⟨fun row hrow => hsound.consistent.processing_iff hrow, ?_, hconstraints.attempts_length_le,
    hconstraints.numbers, ?_, ?_⟩
  · intro row hrow
    exact (hconstraints.deliveryChecks row hrow).2.1
  · intro action next hstep row hrow hstatus
    exact (hsound.step hstep).2.delivered row hrow hstatus
  · intro call response now delivery next hcall hstep
    exact persist_both hsound hcall hstep

/-- A delivery of one visit, claimed and delivered. -/
def deliveredRun : List Action :=
  [ .enqueue (List.replicate 36 (Text.unit 'k')) (Text.of "event") .signOut
      [{ sessionId := Text.of "session", userId := Text.of "user", clientId := Text.of "client"
         backchannelLogoutUri := some (Text.of "https://client.example/logout") }] 0,
    .readExpired 0 (List.replicate 36 (Text.unit 'k') ++ Text.of "-00000001") 10,
    .claim 0 (Text.of "lease") (Text.of "jti") (Text.of "attempt") 20,
    .readClaimed 0,
    .persist 0 (.status 200) 30 ]

theorem logoutDelivery_safe_delivered :
    ∃ past system, History past system ∧ (∃ row ∈ system.deliveries, row.status = .delivered) ∧
      (∀ row ∈ system.deliveries, row.status = .processing ↔
        (table.matched (fun attempt : LogoutDeliveryAttempt => attempt.RunsOn row) system.attempts).length = 1) := by
  have hhistory : History _ _ := replay_labelled_trace System.empty_start deliveredRun
  exact ⟨_, _, hhistory, by decide, (logoutDelivery_safe hhistory).1⟩

end pgid.logout
