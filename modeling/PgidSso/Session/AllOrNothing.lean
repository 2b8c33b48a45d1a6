import PgidSso.Session.Notified

open pgid.logout transition

namespace pgid.revocation

/-- The delivery of an event to a session's relying party. -/
abbrev queued (eventId : Text) (session : SessionRow) (client : ClientRow) (row : LogoutDelivery) : Prop :=
  row.eventId = eventId ∧ row.sessionId = session.id ∧ row.clientId = client.clientId

/-- All that a revocation is for, in the tables before and after it. A client is the one
that a token was inserted for as long as it is the same registration. -/
structure Complete (past : List Event) (input : CentralSessionRevocationInput) (eventId : Text) (now : Int)
    (before after : Tables) : Prop where
  audited : after.auditEvents = before.auditEvents ++ [revocationEvent input eventId now]
  sessions : ∀ row, row ∈ after.sessions ↔ row ∈ before.sessions ∧ ¬ input.selector.Selects row
  refreshTokens : List.Forall₂
    (fun token later : RefreshTokenRow => later.id = token.id ∧
      (BoundToSelected input.selector before token.sessionId → later.revoked ≠ none) ∧
      (¬ BoundToSelected input.selector before token.sessionId → later = token))
    before.refreshTokens after.refreshTokens
  accessTokens : ∀ token, token ∈ after.accessTokens ↔
    token ∈ before.accessTokens ∧ ¬ BoundToSelected input.selector before token.sessionId
  notified : ∀ session ∈ before.sessions, input.selector.Selects session → ∀ client ∈ before.clients,
    Visited past session client →
      ∃ row, table.matched (queued eventId session client) after.deliveries = [row] ∧
        row.userId = session.userId ∧ row.backchannelLogoutUri = client.backchannelLogoutUri ∧
        row.status = if client.backchannelLogoutUri = none then .dead else .pending
  others : ∀ row ∈ after.deliveries, row.eventId = eventId →
    ∃ session ∈ before.sessions, ∃ client ∈ before.clients, input.selector.Selects session ∧
      Visited past session client ∧ queued eventId session client row
  earlier : ∀ row, row ∈ after.deliveries → row.eventId ≠ eventId → row ∈ before.deliveries

section complete

variable {past : List Event} {system : System} {input : CentralSessionRevocationInput} {eventId : Text}

/-- The rows of the outbox are those of the visited pairs. -/
theorem mem_selectedVisits_iff_visited (hvisits : Visits past system) {selector : SessionSelector}
    {found : OutboxVisit} : found ∈ selectedVisits selector system.toTables ↔
      ∃ session ∈ system.sessions, ∃ client ∈ system.clients, selector.Selects session ∧
        Visited past session client ∧
        found = { sessionId := session.id, userId := session.userId, clientId := client.clientId
                  backchannelLogoutUri := client.backchannelLogoutUri } := by
  rw [mem_selectedVisits]
  constructor
  · rintro ⟨visit, hvisit, session, hsession, client, hclient, hselects, hid, hclientId, rfl⟩
    have hvisited := (hvisits.visited session hsession client hclient).mp
      ⟨visit, hvisit, hid.symm, hclientId.symm⟩
    exact ⟨session, hsession, client, hclient, hselects, hvisited, rfl⟩
  · rintro ⟨session, hsession, client, hclient, hselects, hvisited, rfl⟩
    obtain ⟨visit, hvisit, hid, hclientId⟩ := (hvisits.visited session hsession client hclient).mpr hvisited
    exact ⟨visit, hvisit, session, hsession, client, hclient, hselects, hid.symm, hclientId.symm, rfl⟩

theorem boundToSelected_iff_gone {selector : SessionSelector} {tables : Tables} {bound : Option Text} :
    BoundToSelected selector tables bound ↔
      ∃ sessionId ∈ bound, ∃ row ∈ tables.sessions, row.id = sessionId ∧ selector.Selects row := by
  constructor
  · rintro ⟨row, hrow, hselects, rfl⟩
    exact ⟨row.id, rfl, row, hrow, rfl, hselects⟩
  · rintro ⟨sessionId, hbound, row, hrow, rfl, hselects⟩
    exact ⟨row, hrow, hselects, hbound⟩

/-- The tokens that are bound are revoked, then lose their session. -/
theorem revoked_of_bound {bound revoking gone : RefreshTokenRow → Prop} [DecidablePred revoking]
    [DecidablePred gone] {now : Int} (tokens : List RefreshTokenRow)
    (hrevoking : ∀ token, revoking token ↔ token.revoked = none ∧ bound token)
    (hgone : ∀ token revoked, gone { token with revoked } ↔ bound token) :
    List.Forall₂
      (fun token later : RefreshTokenRow => later.id = token.id ∧ (bound token → later.revoked ≠ none) ∧
        (¬ bound token → later = token))
      tokens
      (table.update gone (fun token => { token with sessionId := none })
        (table.update revoking (fun token => { token with revoked := some now }) tokens)) := by
  rw [table.update, table.update, List.map_map, List.forall₂_map_right_iff, List.forall₂_same]
  intro token _
  rw [Function.comp_apply]
  have hgoneToken : gone token ↔ bound token := hgone token token.revoked
  by_cases hbound : bound token
  · by_cases hlive : token.revoked = none
    · rw [if_pos ((hrevoking token).mpr ⟨hlive, hbound⟩), if_pos ((hgone token (some now)).mpr hbound)]
      exact ⟨rfl, fun _ => Option.some_ne_none now, fun h => absurd hbound h⟩
    · rw [if_neg fun h => hlive ((hrevoking token).mp h).1, if_pos (hgoneToken.mpr hbound)]
      exact ⟨rfl, fun _ => hlive, fun h => absurd hbound h⟩
  · rw [if_neg fun h => hbound ((hrevoking token).mp h).2, if_neg fun h => hbound (hgoneToken.mp h)]
    exact ⟨rfl, fun h => absurd h hbound, fun _ => rfl⟩

theorem complete_of_eligible (hvisits : Visits past system) (hfresh : eventId ∉ system.generated)
    {deliveryKeyPrefix : Text} {now : Int} (heligible : Eligible input now system.toTables) :
    Complete past input eventId now system.toTables
      (revokeCentralSessions input eventId deliveryKeyPrefix now system.toTables).2 := by
  rw [revoke_of_eligible heligible]
  have hunique := sortedVisits_nodup input.selector hvisits.sessionIds hvisits.clientIds hvisits.visitKeys
  obtain ⟨added, hdeliveries, hadded⟩ :=
    insertOutbox_notifies deliveryKeyPrefix input.reason now hunique (hvisits.deliveries_ne hfresh)
  have hkeys : added.map (fun row => (row.sessionId, row.clientId)) =
      ((selectedVisits input.selector system.toTables).mergeSort visitOrder).map
        fun visit => (visit.sessionId, visit.clientId) :=
    table.map_eq_of_related (fun row visit h => Prod.ext h.2.1 h.2.2.1) hadded
  have hadd : ∀ row ∈ added, ∃ visit ∈ selectedVisits input.selector system.toTables,
      Notifies eventId row visit := by
    intro row hrow
    obtain ⟨visit, hvisit, hnotifies⟩ := table.related_of_mem_left hadded hrow
    exact ⟨visit, List.mem_mergeSort.mp hvisit, hnotifies⟩
  refine ⟨rfl, fun row => table.mem_delete, ?_, ?_, ?_, ?_, ?_⟩
  · exact revoked_of_bound system.refreshTokens (fun token => Iff.rfl)
      fun token revoked => boundToSelected_iff_gone.symm
  · intro token
    have hkept : table.update
        (fun token : AccessTokenRow => ∃ sessionId ∈ token.sessionId, ∃ row ∈ system.sessions,
          row.id = sessionId ∧ input.selector.Selects row)
        (fun token => { token with sessionId := none })
        (table.delete (fun token : AccessTokenRow => BoundToSelected input.selector system.toTables token.sessionId)
          system.accessTokens) =
        table.delete (fun token : AccessTokenRow => BoundToSelected input.selector system.toTables token.sessionId)
          system.accessTokens := by
      apply table.update_of_none
      intro token htoken hgone
      exact (table.mem_delete.mp htoken).2 (boundToSelected_iff_gone.mpr hgone)
    exact (congrArg (token ∈ ·) hkept).to_iff.trans table.mem_delete
  · intro session hsession hselects client hclient hvisited
    let visit : OutboxVisit :=
      { sessionId := session.id, userId := session.userId, clientId := client.clientId
        backchannelLogoutUri := client.backchannelLogoutUri }
    have hvisit : visit ∈ (selectedVisits input.selector system.toTables).mergeSort visitOrder :=
      List.mem_mergeSort.mpr ((mem_selectedVisits_iff_visited hvisits).mpr
        ⟨session, hsession, client, hclient, hselects, hvisited, rfl⟩)
    obtain ⟨row, hrow, hevent, hsessionId, hclientId, huser, huri, hstatus⟩ :=
      table.related_of_mem_right hadded hvisit
    refine ⟨row, ?_, huser, huri, hstatus⟩
    change table.matched (queued eventId session client) (insertOutbox _ _ _ _ _ system.deliveries) = [row]
    rw [hdeliveries, table.matched_append,
      table.matched_of_none fun other hother h => hvisits.deliveries_ne hfresh other hother h.1, List.nil_append]
    apply table.matched_eq_singleton (hkeys ▸ hunique) hrow ⟨hevent, hsessionId, hclientId⟩
    intro other _ hother
    exact Prod.ext (hother.2.1.trans hsessionId.symm) (hother.2.2.trans hclientId.symm)
  · intro row hrow hevent
    change row ∈ insertOutbox _ _ _ _ _ system.deliveries at hrow
    rw [hdeliveries] at hrow
    rcases List.mem_append.mp hrow with hold | hnew
    · exact absurd hevent (hvisits.deliveries_ne hfresh row hold)
    · obtain ⟨visit, hvisit, hnotifies⟩ := hadd row hnew
      obtain ⟨session, hsession, client, hclient, hselects, hvisited, rfl⟩ :=
        (mem_selectedVisits_iff_visited hvisits).mp hvisit
      exact ⟨session, hsession, client, hclient, hselects, hvisited, hevent, hnotifies.2.1, hnotifies.2.2.1⟩
  · intro row hrow hother
    change row ∈ insertOutbox _ _ _ _ _ system.deliveries at hrow
    rw [hdeliveries] at hrow
    rcases List.mem_append.mp hrow with hold | hnew
    · exact hold
    · obtain ⟨visit, -, hnotifies⟩ := hadd row hnew
      exact absurd hnotifies.1 hother

end complete

/-- A central logout is all or nothing and misses no relying party: with its audit it ends
the selected sessions, revokes their tokens and queues one delivery for each client that
they visited; without it nothing changes. -/
theorem revokeCentralSessions_all_or_nothing {past : List Event} {system : System}
    (hhistory : History past system) (input : CentralSessionRevocationInput) (eventId deliveryKeyPrefix : Text)
    (now : Int) (hfresh : eventId ∉ system.generated) :
    (Eligible input now system.toTables ∧
      (revokeCentralSessions input eventId deliveryKeyPrefix now system.toTables).1 = true ∧
      Complete past input eventId now system.toTables
        (revokeCentralSessions input eventId deliveryKeyPrefix now system.toTables).2) ∨
    (¬ Eligible input now system.toTables ∧
      revokeCentralSessions input eventId deliveryKeyPrefix now system.toTables =
        (false, system.toTables)) := by
  have hvisits := visits_of_history hhistory
  by_cases heligible : Eligible input now system.toTables
  · refine .inl ⟨heligible, ?_, complete_of_eligible hvisits hfresh heligible⟩
    rw [revoke_of_eligible heligible]
  · exact .inr ⟨heligible, revoke_of_not_eligible (hvisits.audits_ne hfresh) heligible⟩

/-- A session of a user with tokens of two clients, one of them without an endpoint. -/
def visit : List Action :=
  [ .signIn
      { id := Text.of "session", userId := Text.of "user", token := Text.of "token", expiresAt := 1000
        createdAt := 0 },
    .registerClient
      { id := Text.of "row", clientId := Text.of "client"
        backchannelLogoutUri := some (Text.of "https://rp.example/logout") },
    .registerClient { id := Text.of "other row", clientId := Text.of "other", backchannelLogoutUri := none },
    .insertAccessToken
      { id := Text.of "access", clientId := Text.of "client", sessionId := some (Text.of "session")
        userId := some (Text.of "user"), createdAt := 10 },
    .insertAccessToken
      { id := Text.of "later", clientId := Text.of "other", sessionId := some (Text.of "session")
        userId := some (Text.of "user"), createdAt := 20 } ]

def signOut : CentralSessionRevocationInput :=
  { actorSessionId := some (Text.of "session"), actorUserId := some (Text.of "user"), clientId := none
    eventType := Text.of "session.revoked", freshAfter := none, reason := .signOut
    selector := .session (Text.of "session") (Text.of "user") none, subjectUserId := Text.of "user" }

theorem revokeCentralSessions_all_or_nothing_signOut :
    ∃ past system, History past system ∧ system.visits.length = 2 ∧
      Complete past signOut (Text.of "event") 30 system.toTables
        (revokeCentralSessions signOut (Text.of "event") (Text.of "key") 30 system.toTables).2 := by
  have hhistory : History _ _ := replay_trace System.empty_start visit
  refine ⟨_, _, hhistory, by decide, ?_⟩
  have hresult := revokeCentralSessions_all_or_nothing hhistory signOut (Text.of "event") (Text.of "key") 30
    (by decide)
  rcases hresult with ⟨-, -, hcomplete⟩ | ⟨hnot, -⟩
  · exact hcomplete
  · exact absurd (by decide) hnot

end pgid.revocation
