import PgidSso.Session.Visits

open pgid.logout transition

namespace pgid.revocation

section outbox

variable {eventId : Text}

/-- A delivery is the one that a revocation queues for a visit. -/
def Notifies (eventId : Text) (row : LogoutDelivery) (visit : OutboxVisit) : Prop :=
  row.eventId = eventId ∧ row.sessionId = visit.sessionId ∧ row.clientId = visit.clientId ∧
    row.userId = visit.userId ∧ row.backchannelLogoutUri = visit.backchannelLogoutUri ∧
    row.status = if visit.backchannelLogoutUri = none then .dead else .pending

theorem outboxDelivery_notifies {deliveryKeyPrefix : Text} {reason : LogoutReason} {now : Int}
    {id number : Nat} {visit : OutboxVisit} :
    Notifies eventId (outboxDelivery deliveryKeyPrefix eventId reason now id number visit) visit :=
  ⟨rfl, rfl, rfl, rfl, rfl, rfl⟩

/-- Visits of different pairs, none of them queued for this event, are queued one by one. -/
theorem insertOutbox_notifies (deliveryKeyPrefix : Text) (reason : LogoutReason) (now : Int)
    {visits : List OutboxVisit} {deliveries : List LogoutDelivery}
    (hunique : (visits.map fun visit => (visit.sessionId, visit.clientId)).Nodup)
    (hfresh : ∀ row ∈ deliveries, row.eventId ≠ eventId) :
    ∃ added, insertOutbox deliveryKeyPrefix eventId reason now visits deliveries = deliveries ++ added ∧
      List.Forall₂ (Notifies eventId) added visits := by
  have hqueue : ∀ (numbered : List (OutboxVisit × Nat)) (deliveries : List LogoutDelivery),
      (numbered.map fun visit => (visit.1.sessionId, visit.1.clientId)).Nodup →
      (∀ row ∈ deliveries, row.eventId = eventId → ∀ visit ∈ numbered,
        ¬ (row.sessionId = visit.1.sessionId ∧ row.clientId = visit.1.clientId)) →
      ∃ added,
        numbered.foldl
          (fun rows visit =>
            insertDelivery (outboxDelivery deliveryKeyPrefix eventId reason now (rows.length + 1)
              (visit.2 + 1) visit.1) rows) deliveries = deliveries ++ added ∧
        List.Forall₂ (Notifies eventId) added (numbered.map Prod.fst) := by
    intro numbered
    induction numbered with
    | nil => exact fun deliveries _ _ => ⟨[], (List.append_nil _).symm, .nil⟩
    | cons first rest ih =>
      intro deliveries hnodup hnew
      rw [List.map_cons, List.nodup_cons] at hnodup
      let delivery := outboxDelivery deliveryKeyPrefix eventId reason now (deliveries.length + 1)
        (first.2 + 1) first.1
      have hinserted : insertDelivery delivery deliveries = deliveries ++ [delivery] := by
        rw [insertDelivery, if_neg]
        rintro ⟨row, hrow, hevent, hpair⟩
        exact hnew row hrow hevent first List.mem_cons_self hpair
      obtain ⟨added, heq, hadded⟩ := ih (deliveries ++ [delivery]) hnodup.2 (by
        intro row hrow hevent visit hvisit hpair
        rcases List.mem_append.mp hrow with hold | hlast
        · exact hnew row hold hevent visit (List.mem_cons_of_mem first hvisit) hpair
        · rw [List.mem_singleton.mp hlast] at hpair
          apply hnodup.1
          rw [show (first.1.sessionId, first.1.clientId) = (visit.1.sessionId, visit.1.clientId) from
            Prod.ext hpair.1 hpair.2]
          exact List.mem_map_of_mem hvisit)
      refine ⟨delivery :: added, ?_, .cons outboxDelivery_notifies hadded⟩
      rw [List.foldl_cons, hinserted, heq, List.append_assoc, List.singleton_append]
  have hfst : visits.zipIdx.map Prod.fst = visits := List.zipIdx_map_fst 0 visits
  have hkeys : (visits.zipIdx.map fun visit => (visit.1.sessionId, visit.1.clientId)).Nodup := by
    have hmap : visits.zipIdx.map (fun visit => (visit.1.sessionId, visit.1.clientId)) =
        visits.map fun visit => (visit.sessionId, visit.clientId) := by
      conv_rhs => rw [← hfst, List.map_map]
      rfl
    rw [hmap]
    exact hunique
  obtain ⟨added, heq, hadded⟩ := hqueue visits.zipIdx deliveries hkeys
    fun row hrow hevent => absurd hevent (hfresh row hrow)
  exact ⟨added, heq, hfst ▸ hadded⟩

/-- A visit is queued once. -/
theorem insertOutbox_matched (deliveryKeyPrefix : Text) (reason : LogoutReason) (now : Int)
    {visits : List OutboxVisit} {deliveries : List LogoutDelivery}
    (hunique : (visits.map fun visit => (visit.sessionId, visit.clientId)).Nodup)
    (hfresh : ∀ row ∈ deliveries, row.eventId ≠ eventId) {visit : OutboxVisit} (hvisit : visit ∈ visits) :
    ∃ row, Notifies eventId row visit ∧
      table.matched (fun row : LogoutDelivery => row.eventId = eventId ∧ row.sessionId = visit.sessionId ∧
          row.clientId = visit.clientId)
        (insertOutbox deliveryKeyPrefix eventId reason now visits deliveries) = [row] := by
  obtain ⟨added, hdeliveries, hadded⟩ := insertOutbox_notifies deliveryKeyPrefix reason now hunique hfresh
  have hkeys : added.map (fun row => (row.sessionId, row.clientId)) =
      visits.map fun visit => (visit.sessionId, visit.clientId) :=
    table.map_eq_of_related (fun row visit h => Prod.ext h.2.1 h.2.2.1) hadded
  obtain ⟨row, hrow, hnotifies⟩ := table.related_of_mem_right hadded hvisit
  refine ⟨row, hnotifies, ?_⟩
  rw [hdeliveries, table.matched_append, table.matched_of_none fun other hother h => hfresh other hother h.1,
    List.nil_append]
  apply table.matched_eq_singleton (hkeys ▸ hunique) hrow ⟨hnotifies.1, hnotifies.2.1, hnotifies.2.2.1⟩
  intro other _ hother
  exact Prod.ext (hother.2.1.trans hnotifies.2.1.symm) (hother.2.2.trans hnotifies.2.2.1.symm)

end outbox

section selected

variable {selector : SessionSelector} {tables : Tables}

theorem mem_selectedVisits {found : OutboxVisit} : found ∈ selectedVisits selector tables ↔
    ∃ visit ∈ tables.visits, ∃ session ∈ tables.sessions, ∃ client ∈ tables.clients,
      selector.Selects session ∧ session.id = visit.sessionId ∧ client.clientId = visit.clientId ∧
      found = { sessionId := session.id, userId := session.userId, clientId := client.clientId
                backchannelLogoutUri := client.backchannelLogoutUri } := by
  rw [selectedVisits, List.mem_flatMap]
  constructor
  · rintro ⟨visit, hvisit, hfound⟩
    obtain ⟨session, hsession, hfound⟩ := List.mem_flatMap.mp hfound
    obtain ⟨client, hclient, rfl⟩ := List.mem_map.mp hfound
    obtain ⟨hsession, hid, hselects⟩ := table.mem_matched.mp hsession
    obtain ⟨hclient, hclientId⟩ := table.mem_matched.mp hclient
    refine ⟨visit, hvisit, session, hsession, client, hclient, hselects, hid, hclientId, ?_⟩
    rw [hid, hclientId]
  · rintro ⟨visit, hvisit, session, hsession, client, hclient, hselects, hid, hclientId, rfl⟩
    refine ⟨visit, hvisit, List.mem_flatMap.mpr
      ⟨session, table.mem_matched.mpr ⟨hsession, hid, hselects⟩, List.mem_map.mpr
        ⟨client, table.mem_matched.mpr ⟨hclient, hclientId⟩, ?_⟩⟩⟩
    rw [hid, hclientId]

/-- A visit joins one session and one client at most. -/
theorem selectedVisits_sublist (hsessions : (tables.sessions.map (·.id)).Nodup)
    (hclients : (tables.clients.map (·.clientId)).Nodup) :
    ((selectedVisits selector tables).map fun visit => (visit.sessionId, visit.clientId)).Sublist
      (tables.visits.map fun visit => (visit.sessionId, visit.clientId)) := by
  rw [selectedVisits]
  induction tables.visits with
  | nil => exact .slnil
  | cons visit visits ih =>
    rw [List.flatMap_cons, List.map_append, List.map_cons]
    have hsession : table.matched (fun row : SessionRow => row.id = visit.sessionId ∧ selector.Selects row)
        tables.sessions = [] ∨ ∃ session,
          table.matched (fun row : SessionRow => row.id = visit.sessionId ∧ selector.Selects row)
            tables.sessions = [session] := by
      by_cases hnone : ∀ row ∈ tables.sessions, ¬ (row.id = visit.sessionId ∧ selector.Selects row)
      · exact .inl (table.matched_of_none hnone)
      · push Not at hnone
        obtain ⟨session, hmem, hid, hselects⟩ := hnone
        exact .inr ⟨session, table.matched_eq_singleton hsessions hmem ⟨hid, hselects⟩
          fun other _ hother => hother.1.trans hid.symm⟩
    have hclient : table.matched (fun row : ClientRow => row.clientId = visit.clientId) tables.clients = [] ∨
        ∃ client, table.matched (fun row : ClientRow => row.clientId = visit.clientId) tables.clients =
          [client] := by
      by_cases hnone : ∀ row ∈ tables.clients, ¬ row.clientId = visit.clientId
      · exact .inl (table.matched_of_none hnone)
      · push Not at hnone
        obtain ⟨client, hmem, hid⟩ := hnone
        exact .inr ⟨client, table.matched_eq_singleton hclients hmem hid
          fun other _ hother => hother.trans hid.symm⟩
    rcases hsession with hsession | ⟨session, hsession⟩
    · rw [hsession, List.flatMap_nil, List.map_nil, List.nil_append]
      exact ih.cons _
    · rw [hsession, List.flatMap_singleton]
      rcases hclient with hclient | ⟨client, hclient⟩
      · rw [hclient, List.map_nil, List.map_nil, List.nil_append]
        exact ih.cons _
      · rw [hclient, List.map_singleton, List.map_singleton, List.singleton_append]
        exact ih.cons_cons _

theorem sortedVisits_nodup (selector : SessionSelector) (hsessions : (tables.sessions.map (·.id)).Nodup)
    (hclients : (tables.clients.map (·.clientId)).Nodup)
    (hvisits : (tables.visits.map fun visit => (visit.sessionId, visit.clientId)).Nodup) :
    (((selectedVisits selector tables).mergeSort visitOrder).map
      fun visit => (visit.sessionId, visit.clientId)).Nodup := by
  have hperm := (List.mergeSort_perm (selectedVisits selector tables) visitOrder).map
    fun visit => (visit.sessionId, visit.clientId)
  rw [hperm.nodup_iff]
  exact hvisits.sublist (selectedVisits_sublist hsessions hclients)

end selected

section steps

variable {past : List Event} {system next : System} {event : Event}

/-- A new session has no visit yet, and no token has named it. -/
theorem Visits.signIn (hvisits : Visits past system) {session : SessionRow}
    (hfresh : session.id ∉ system.generated) :
    Visits (past ++ [.other])
      { system with sessions := system.sessions ++ [session], generated := session.id :: system.generated } := by
  have hother : ∀ token registered, Event.other ≠ .tokenInserted token registered := by
    intro token registered h
    cases h
  have hsub : system.generated ⊆ session.id :: system.generated := List.subset_cons_self _ _
  refine ⟨?_, ?_, hvisits.clientIds, hvisits.registrations, ?_, ?_, ?_, hvisits.tokens_snoc hsub hother,
    hvisits.visitKeys, ?_, hvisits.visitClients, ?_⟩
  · apply table.nodup_map_append hvisits.sessionIds
    intro other hmem hid
    exact hfresh (hid ▸ hvisits.sessionsGenerated other hmem)
  · intro row hrow
    rcases List.mem_append.mp hrow with hold | hlast
    · exact hsub (hvisits.sessionsGenerated row hold)
    · rw [List.mem_singleton.mp hlast]
      exact List.mem_cons_self
  · exact fun row hrow => hsub (hvisits.clientsGenerated row hrow)
  · exact fun row hrow => hsub (hvisits.auditsGenerated row hrow)
  · exact fun row hrow => hsub (hvisits.deliveriesGenerated row hrow)
  · intro visit hvisit
    obtain ⟨row, hrow, hid⟩ := hvisits.visitSessions visit hvisit
    exact ⟨row, List.mem_append_left _ hrow, hid⟩
  · intro row hrow client hclient
    rw [visited_snoc hother]
    rcases List.mem_append.mp hrow with hold | hlast
    · exact hvisits.visited row hold client hclient
    · rw [List.mem_singleton.mp hlast]
      constructor
      · rintro ⟨visit, hvisit, hid, -⟩
        obtain ⟨old, hold, holdId⟩ := hvisits.visitSessions visit hvisit
        exact absurd (holdId.trans hid ▸ hvisits.sessionsGenerated old hold) hfresh
      · rintro ⟨token, registered, hmem, hsession, -⟩
        exact absurd ((hvisits.tokens token registered hmem).2 session.id hsession) hfresh

/-- A new client has no visit yet, and no token was inserted under its registration. -/
theorem Visits.registerClient (hvisits : Visits past system) {client : ClientRow}
    (hfresh : client.id ∉ system.generated) (hunused : ∀ row ∈ system.clients, row.clientId ≠ client.clientId) :
    Visits (past ++ [.other])
      { system with clients := system.clients ++ [client], generated := client.id :: system.generated } := by
  have hother : ∀ token registered, Event.other ≠ .tokenInserted token registered := by
    intro token registered h
    cases h
  have hsub : system.generated ⊆ client.id :: system.generated := List.subset_cons_self _ _
  refine ⟨hvisits.sessionIds, ?_, table.nodup_map_append hvisits.clientIds hunused, ?_, ?_, ?_, ?_,
    hvisits.tokens_snoc hsub hother, hvisits.visitKeys, hvisits.visitSessions, ?_, ?_⟩
  · exact fun row hrow => hsub (hvisits.sessionsGenerated row hrow)
  · apply table.nodup_map_append hvisits.registrations
    intro other hmem hid
    exact hfresh (hid ▸ hvisits.clientsGenerated other hmem)
  · intro row hrow
    rcases List.mem_append.mp hrow with hold | hlast
    · exact hsub (hvisits.clientsGenerated row hold)
    · rw [List.mem_singleton.mp hlast]
      exact List.mem_cons_self
  · exact fun row hrow => hsub (hvisits.auditsGenerated row hrow)
  · exact fun row hrow => hsub (hvisits.deliveriesGenerated row hrow)
  · intro visit hvisit
    obtain ⟨row, hrow, hid⟩ := hvisits.visitClients visit hvisit
    exact ⟨row, List.mem_append_left _ hrow, hid⟩
  · intro session hsession row hrow
    rw [visited_snoc hother]
    rcases List.mem_append.mp hrow with hold | hlast
    · exact hvisits.visited session hsession row hold
    · rw [List.mem_singleton.mp hlast]
      constructor
      · rintro ⟨visit, hvisit, -, hid⟩
        obtain ⟨old, hold, holdId⟩ := hvisits.visitClients visit hvisit
        exact absurd (holdId.trans hid) (hunused old hold)
      · rintro ⟨token, registered, hmem, -, -, hid⟩
        exact absurd (hid ▸ (hvisits.tokens token registered hmem).1) hfresh

/-- A client that goes takes its own visits with it. -/
theorem Visits.deleteClient (hvisits : Visits past system) (clientId : Text) :
    Visits (past ++ [.other]) { system with toTables := deleteClient clientId system.toTables } := by
  have hother : ∀ token registered, Event.other ≠ .tokenInserted token registered := by
    intro token registered h
    cases h
  refine ⟨hvisits.sessionIds, hvisits.sessionsGenerated, table.nodup_map_delete hvisits.clientIds,
    table.nodup_map_delete hvisits.registrations, ?_, hvisits.auditsGenerated, hvisits.deliveriesGenerated,
    hvisits.tokens_snoc (List.Subset.refl _) hother, table.nodup_map_delete hvisits.visitKeys, ?_, ?_, ?_⟩
  · exact fun row hrow => hvisits.clientsGenerated row (table.mem_delete.mp hrow).1
  · exact fun visit hvisit => hvisits.visitSessions visit (table.mem_delete.mp hvisit).1
  · intro visit hvisit
    obtain ⟨hold, hnot⟩ := table.mem_delete.mp hvisit
    obtain ⟨row, hrow, hid⟩ := hvisits.visitClients visit hold
    exact ⟨row, table.mem_delete.mpr ⟨hrow, fun h => hnot (hid ▸ h)⟩, hid⟩
  · intro session hsession client hclient
    obtain ⟨hold, hnot⟩ := table.mem_delete.mp hclient
    rw [visited_snoc hother, ← hvisits.visited session hsession client hold]
    constructor
    · rintro ⟨visit, hvisit, hrest⟩
      exact ⟨visit, (table.mem_delete.mp hvisit).1, hrest⟩
    · rintro ⟨visit, hvisit, hid, hclientId⟩
      exact ⟨visit, table.mem_delete.mpr ⟨hvisit, fun h => hnot (hclientId ▸ h)⟩, hid, hclientId⟩

/-- A new token is a visit of its session and its client, when it is of the user of the
session. -/
theorem Visits.insertAccessToken (hvisits : Visits past system) {token : AccessTokenRow}
    {registered : ClientRow} (hregistered : registered ∈ system.clients)
    (hclientId : registered.clientId = token.clientId)
    (hbound : ∀ sessionId ∈ token.sessionId, ∃ row ∈ system.sessions, row.id = sessionId) :
    Visits (past ++ [.tokenInserted token registered])
      { system with toTables := insertAccessToken token system.toTables } := by
  refine ⟨hvisits.sessionIds, hvisits.sessionsGenerated, hvisits.clientIds, hvisits.registrations,
    hvisits.clientsGenerated, hvisits.auditsGenerated, hvisits.deliveriesGenerated, ?_,
    recordVisit_nodup hvisits.visitKeys, ?_, ?_, ?_⟩
  · intro other found hmem
    rcases List.mem_append.mp hmem with hold | hlast
    · exact hvisits.tokens other found hold
    · cases List.mem_singleton.mp hlast
      refine ⟨hvisits.clientsGenerated registered hregistered, fun sessionId hsession => ?_⟩
      obtain ⟨row, hrow, rfl⟩ := hbound sessionId hsession
      exact hvisits.sessionsGenerated row hrow
  · intro visit hvisit
    have hhas : HasVisit (recordVisit token system.toTables) visit.sessionId visit.clientId :=
      ⟨visit, hvisit, rfl, rfl⟩
    rcases hasVisit_recordVisit.mp hhas with ⟨old, hold, hid, -⟩ | ⟨-, -, -, -, row, hrow, hid, -⟩
    · exact hid ▸ hvisits.visitSessions old hold
    · exact ⟨row, hrow, hid⟩
  · intro visit hvisit
    have hhas : HasVisit (recordVisit token system.toTables) visit.sessionId visit.clientId :=
      ⟨visit, hvisit, rfl, rfl⟩
    rcases hasVisit_recordVisit.mp hhas with ⟨old, hold, -, hid⟩ | ⟨-, hid, -⟩
    · exact hid ▸ hvisits.visitClients old hold
    · exact ⟨registered, hregistered, hclientId.trans hid⟩
  · intro session hsession client hclient
    change HasVisit (recordVisit token system.toTables) session.id client.clientId ↔ _
    have hclients : token.clientId = client.clientId ↔ registered.id = client.id := by
      constructor
      · intro heq
        rw [table.eq_of_key hvisits.clientIds hregistered hclient (hclientId.trans heq)]
      · intro heq
        rw [← hclientId, table.eq_of_key hvisits.registrations hregistered hclient heq]
    have howner : (∃ userId, token.userId = some userId ∧
        ∃ row ∈ system.sessions, row.id = session.id ∧ row.userId = userId) ↔
          token.userId = some session.userId := by
      constructor
      · rintro ⟨userId, huser, row, hrow, hid, hrowUser⟩
        rw [huser, ← hrowUser, table.eq_of_key hvisits.sessionIds hrow hsession hid]
      · exact fun huser => ⟨session.userId, huser, session, hsession, rfl, rfl⟩
    have hold : HasVisit system.visits session.id client.clientId ↔ Visited past session client :=
      hvisits.visited session hsession client hclient
    rw [hasVisit_recordVisit, hold, hclients, howner]
    constructor
    · rintro (⟨other, found, hmem, hrest⟩ | ⟨hid, hregisteredId, huser⟩)
      · exact ⟨other, found, List.mem_append_left _ hmem, hrest⟩
      · exact ⟨token, registered, List.mem_append_right _ List.mem_cons_self, hid, huser, hregisteredId⟩
    · rintro ⟨other, found, hmem, hid, huser, hfound⟩
      rcases List.mem_append.mp hmem with hold | hlast
      · exact .inl ⟨other, found, hold, hid, huser, hfound⟩
      · cases List.mem_singleton.mp hlast
        exact .inr ⟨hid, hfound, huser⟩

theorem Visits.deliveries_ne (hvisits : Visits past system) {eventId : Text}
    (hfresh : eventId ∉ system.generated) : ∀ row ∈ system.deliveries, row.eventId ≠ eventId := by
  rintro row hrow rfl
  exact hfresh (hvisits.deliveriesGenerated row hrow)

theorem Visits.audits_ne (hvisits : Visits past system) {eventId : Text}
    (hfresh : eventId ∉ system.generated) : ∀ row ∈ system.auditEvents, row.id ≠ eventId := by
  rintro row hrow rfl
  exact hfresh (hvisits.auditsGenerated row hrow)

theorem Visits.revoke (hvisits : Visits past system) {input : CentralSessionRevocationInput}
    {eventId deliveryKeyPrefix : Text} {now : Int} (hfresh : eventId ∉ system.generated) :
    Visits
      (past ++ [.revoked input eventId
        (revokeCentralSessions input eventId deliveryKeyPrefix now system.toTables).1])
      { toTables := (revokeCentralSessions input eventId deliveryKeyPrefix now system.toTables).2
        generated := eventId :: system.generated } := by
  have hevent : ∀ committed token registered,
      Event.revoked input eventId committed ≠ .tokenInserted token registered := by
    intro committed token registered h
    cases h
  have hsub : system.generated ⊆ eventId :: system.generated := List.subset_cons_self _ _
  by_cases heligible : Eligible input now system.toTables
  · rw [revoke_of_eligible heligible]
    refine hvisits.deleteSessions input.selector.Selects hsub ?_ ?_ (hevent _)
    · intro row hrow
      rcases List.mem_append.mp hrow with hold | hlast
      · exact hsub (hvisits.auditsGenerated row hold)
      · rw [List.mem_singleton.mp hlast]
        exact List.mem_cons_self
    · obtain ⟨added, heq, hadded⟩ := insertOutbox_notifies deliveryKeyPrefix input.reason now
        (sortedVisits_nodup input.selector hvisits.sessionIds hvisits.clientIds hvisits.visitKeys)
        (hvisits.deliveries_ne hfresh)
      rw [heq]
      intro row hrow
      rcases List.mem_append.mp hrow with hold | hnew
      · exact hsub (hvisits.deliveriesGenerated row hold)
      · obtain ⟨visit, -, hnotifies⟩ := table.related_of_mem_left hadded hnew
        rw [hnotifies.1]
        exact List.mem_cons_self
  · rw [revoke_of_not_eligible (hvisits.audits_ne hfresh) heligible]
    refine hvisits.keep rfl rfl rfl hsub ?_ ?_ (hevent _)
    · exact fun row hrow => hsub (hvisits.auditsGenerated row hrow)
    · exact fun row hrow => hsub (hvisits.deliveriesGenerated row hrow)

theorem Visits.step (hvisits : Visits past system) (hstep : Step system event next) :
    Visits (past ++ [event]) next := by
  obtain ⟨action, hperform⟩ := hstep
  have hother : ∀ token registered, Event.other ≠ .tokenInserted token registered := by
    intro token registered h
    cases h
  have hself : system.generated ⊆ system.generated := List.Subset.refl _
  cases action with
  | signIn session =>
    rw [perform] at hperform
    split at hperform
    · cases hperform
    · rename_i hfresh
      cases hperform
      exact hvisits.signIn hfresh
  | refreshSession sessionId expiresAt =>
    cases hperform
    refine hvisits.keep ?_ rfl rfl hself hvisits.auditsGenerated hvisits.deliveriesGenerated hother
    exact table.map_update fun _ _ _ => rfl
  | deleteSession sessionId =>
    cases hperform
    exact hvisits.deleteSessions _ hself hvisits.auditsGenerated hvisits.deliveriesGenerated hother
  | registerClient client =>
    rw [perform] at hperform
    split at hperform
    · cases hperform
    · rename_i hnew
      cases hperform
      push Not at hnew
      exact hvisits.registerClient hnew.1 hnew.2
  | changeBackchannelLogoutUri clientId backchannelLogoutUri =>
    cases hperform
    refine hvisits.keep rfl ?_ rfl hself hvisits.auditsGenerated hvisits.deliveriesGenerated hother
    exact table.map_update fun _ _ _ => rfl
  | deleteClient clientId =>
    cases hperform
    exact hvisits.deleteClient clientId
  | insertAccessToken token =>
    rw [perform] at hperform
    split at hperform
    · cases hperform
    · rename_i registered hfound
      split at hperform
      · rename_i hbound
        cases hperform
        have hclientId := List.find?_some hfound
        exact hvisits.insertAccessToken (List.mem_of_find?_eq_some hfound) (of_decide_eq_true hclientId) hbound
      · cases hperform
  | deleteAccessTokens ids =>
    cases hperform
    exact hvisits.keep rfl rfl rfl hself hvisits.auditsGenerated hvisits.deliveriesGenerated hother
  | writeRefreshTokens refreshTokens =>
    cases hperform
    exact hvisits.keep rfl rfl rfl hself hvisits.auditsGenerated hvisits.deliveriesGenerated hother
  | writeDeliveries change =>
    cases hperform
    refine hvisits.keep rfl rfl rfl hself hvisits.auditsGenerated ?_ hother
    intro row hrow
    obtain ⟨old, hold, rfl⟩ := List.mem_map.mp hrow
    exact hvisits.deliveriesGenerated old hold
  | audit audited deliveries =>
    rw [perform] at hperform
    split at hperform
    · cases hperform
    · cases hperform
      refine hvisits.keep rfl rfl rfl (List.subset_cons_self _ _) ?_ ?_ hother
      · intro row hrow
        rcases List.mem_append.mp hrow with hold | hlast
        · exact List.mem_cons_of_mem _ (hvisits.auditsGenerated row hold)
        · rw [List.mem_singleton.mp hlast]
          exact List.mem_cons_self
      · intro row hrow
        rcases List.mem_append.mp hrow with hold | hnew
        · exact List.mem_cons_of_mem _ (hvisits.deliveriesGenerated row hold)
        · obtain ⟨queued, -, rfl⟩ := List.mem_map.mp hnew
          exact List.mem_cons_self
  | revoke input eventId deliveryKeyPrefix now =>
    rw [perform] at hperform
    split at hperform
    · cases hperform
    · rename_i hfresh
      cases hperform
      exact hvisits.revoke hfresh

theorem visits_of_history (hhistory : History past system) : Visits past system :=
  hhistory.invariant Visits.start Visits.step

end steps

end pgid.revocation
