import PgidSso.Library.Transition
import PgidSso.Session.Revocation

open pgid.logout transition

namespace pgid.revocation

/-- The tables, and the ids generated so far. -/
structure System extends Tables where
  generated : List Text

inductive Event where
  /-- A token for a client under its registration at that time. -/
  | tokenInserted (token : AccessTokenRow) (registered : ClientRow)
  | revoked (input : CentralSessionRevocationInput) (eventId : Text) (committed : Bool)
  | other

/-- One transaction on the tables. -/
inductive Action where
  | signIn (session : SessionRow)
  | refreshSession (sessionId : Text) (expiresAt : Int)
  | deleteSession (sessionId : Text)
  | registerClient (client : ClientRow)
  | changeBackchannelLogoutUri (clientId : Text) (backchannelLogoutUri : Option Text)
  | deleteClient (clientId : Text)
  | insertAccessToken (token : AccessTokenRow)
  /-- Tokens that expire, or go with their refresh token. -/
  | deleteAccessTokens (ids : List Text)
  /-- Refresh tokens that are issued, rotated or revoked. -/
  | writeRefreshTokens (refreshTokens : List RefreshTokenRow)
  /-- Deliveries that workers and administrators move on. -/
  | writeDeliveries (change : LogoutDelivery → LogoutDelivery)
  /-- Audits of other transactions, with the deliveries that these queue. -/
  | audit (event : AuditRow) (deliveries : List LogoutDelivery)
  | revoke (input : CentralSessionRevocationInput) (eventId deliveryKeyPrefix : Text) (now : Int)

/-- What a transaction records and where it leads; no result stands for one that cannot
be taken: an id that is not new, or a key or a foreign key that fails. -/
def perform (system : System) : Action → Option (Event × System)
  | .signIn session =>
    if session.id ∈ system.generated then none
    else
      some (.other,
        { system with sessions := system.sessions ++ [session], generated := session.id :: system.generated })
  | .refreshSession sessionId expiresAt =>
    some (.other,
      { system with
        sessions := table.update (fun row : SessionRow => row.id = sessionId)
          (fun row => { row with expiresAt }) system.sessions })
  | .deleteSession sessionId =>
    some (.other, { system with toTables := deleteSessions (fun row => row.id = sessionId) system.toTables })
  | .registerClient client =>
    if client.id ∈ system.generated ∨ ∃ row ∈ system.clients, row.clientId = client.clientId then none
    else
      some (.other,
        { system with clients := system.clients ++ [client], generated := client.id :: system.generated })
  | .changeBackchannelLogoutUri clientId backchannelLogoutUri =>
    some (.other,
      { system with
        clients := table.update (fun row : ClientRow => row.clientId = clientId)
          (fun row => { row with backchannelLogoutUri }) system.clients })
  | .deleteClient clientId => some (.other, { system with toTables := deleteClient clientId system.toTables })
  | .insertAccessToken token =>
    match system.clients.find? fun row => row.clientId = token.clientId with
    | none => none
    | some registered =>
      if ∀ sessionId ∈ token.sessionId, ∃ row ∈ system.sessions, row.id = sessionId then
        some (.tokenInserted token registered,
          { system with toTables := insertAccessToken token system.toTables })
      else none
  | .deleteAccessTokens ids =>
    some (.other,
      { system with
        accessTokens := table.delete (fun token : AccessTokenRow => token.id ∈ ids) system.accessTokens })
  | .writeRefreshTokens refreshTokens => some (.other, { system with refreshTokens })
  | .writeDeliveries change =>
    some (.other,
      { system with
        deliveries := system.deliveries.map fun row => { change row with eventId := row.eventId } })
  | .audit event deliveries =>
    if event.id ∈ system.generated then none
    else
      some (.other,
        { system with
          auditEvents := system.auditEvents ++ [event]
          deliveries := system.deliveries ++ deliveries.map fun row => { row with eventId := event.id }
          generated := event.id :: system.generated })
  | .revoke input eventId deliveryKeyPrefix now =>
    if eventId ∈ system.generated then none
    else
      let (committed, tables) :=
        revokeCentralSessions input eventId deliveryKeyPrefix now system.toTables
      some (.revoked input eventId committed,
        { system with toTables := tables, generated := eventId :: system.generated })

def System.Start (system : System) : Prop :=
  system.sessions = [] ∧ system.clients = [] ∧ system.visits = [] ∧ system.auditEvents = [] ∧
    system.deliveries = []

def System.empty : System :=
  { sessions := [], clients := [], refreshTokens := [], accessTokens := [], visits := [], auditEvents := []
    deliveries := [], generated := [] }

theorem System.empty_start : System.empty.Start :=
  ⟨rfl, rfl, rfl, rfl, rfl⟩

def Step (system : System) (event : Event) (next : System) : Prop :=
  ∃ action, perform system action = some (event, next)

abbrev History (past : List Event) (system : System) : Prop :=
  Trace System.Start Step past system

/-- A token of the user of the session was inserted for it and for the client, under the
registration that the client still has. -/
def Visited (past : List Event) (session : SessionRow) (client : ClientRow) : Prop :=
  ∃ token registered, .tokenInserted token registered ∈ past ∧ token.sessionId = some session.id ∧
    token.userId = some session.userId ∧ registered.id = client.id

/-- The visits of the database are those of the history. -/
structure Visits (past : List Event) (system : System) : Prop where
  sessionIds : (system.sessions.map (·.id)).Nodup
  sessionsGenerated : ∀ row ∈ system.sessions, row.id ∈ system.generated
  clientIds : (system.clients.map (·.clientId)).Nodup
  registrations : (system.clients.map (·.id)).Nodup
  clientsGenerated : ∀ row ∈ system.clients, row.id ∈ system.generated
  auditsGenerated : ∀ row ∈ system.auditEvents, row.id ∈ system.generated
  deliveriesGenerated : ∀ row ∈ system.deliveries, row.eventId ∈ system.generated
  tokens : ∀ token registered, .tokenInserted token registered ∈ past →
    registered.id ∈ system.generated ∧ (∀ sessionId ∈ token.sessionId, sessionId ∈ system.generated)
  visitKeys : (system.visits.map fun visit => (visit.sessionId, visit.clientId)).Nodup
  visitSessions : ∀ visit ∈ system.visits, ∃ row ∈ system.sessions, row.id = visit.sessionId
  visitClients : ∀ visit ∈ system.visits, ∃ row ∈ system.clients, row.clientId = visit.clientId
  visited : ∀ session ∈ system.sessions, ∀ client ∈ system.clients,
    (∃ visit ∈ system.visits, visit.sessionId = session.id ∧ visit.clientId = client.clientId) ↔
      Visited past session client

theorem Visits.start {system : System} (hstart : system.Start) : Visits [] system := by
  obtain ⟨hsessions, hclients, hvisits, haudits, hdeliveries⟩ := hstart
  refine ⟨?_, ?_, ?_, ?_, ?_, ?_, ?_, ?_, ?_, ?_, ?_, ?_⟩
  all_goals
    simp [hsessions, hclients, hvisits, haudits, hdeliveries]

theorem visited_snoc {past : List Event} {event : Event} {session : SessionRow} {client : ClientRow}
    (hevent : ∀ token registered, event ≠ .tokenInserted token registered) :
    Visited (past ++ [event]) session client ↔ Visited past session client := by
  constructor
  · rintro ⟨token, registered, hmem, hrest⟩
    rcases List.mem_append.mp hmem with hmem | hmem
    · exact ⟨token, registered, hmem, hrest⟩
    · exact absurd (List.mem_singleton.mp hmem).symm (hevent token registered)
  · rintro ⟨token, registered, hmem, hrest⟩
    exact ⟨token, registered, List.mem_append_left _ hmem, hrest⟩

/-- An event without a token leaves what the tables know. -/
theorem Visits.tokens_snoc {past : List Event} {system : System} {event : Event} {generated : List Text}
    (hvisits : Visits past system) (hgenerated : system.generated ⊆ generated)
    (hevent : ∀ token registered, event ≠ .tokenInserted token registered) :
    ∀ token registered, .tokenInserted token registered ∈ past ++ [event] →
      registered.id ∈ generated ∧ (∀ sessionId ∈ token.sessionId, sessionId ∈ generated) := by
  intro token registered hmem
  rcases List.mem_append.mp hmem with hmem | hmem
  · obtain ⟨hregistered, hsession⟩ := hvisits.tokens token registered hmem
    exact ⟨hgenerated hregistered, fun sessionId h => hgenerated (hsession sessionId h)⟩
  · exact absurd (List.mem_singleton.mp hmem).symm (hevent token registered)

/-- Sessions that end take exactly their visits with them. -/
theorem Visits.deleteSessions {past : List Event} {system : System} {event : Event}
    (hvisits : Visits past system) (matching : SessionRow → Prop) [DecidablePred matching]
    {auditEvents : List AuditRow} {deliveries : List LogoutDelivery} {generated : List Text}
    {refreshTokens : List RefreshTokenRow} {accessTokens : List AccessTokenRow}
    (hgenerated : system.generated ⊆ generated)
    (haudits : ∀ row ∈ auditEvents, row.id ∈ generated)
    (hdeliveries : ∀ row ∈ deliveries, row.eventId ∈ generated)
    (hevent : ∀ token registered, event ≠ .tokenInserted token registered) :
    Visits (past ++ [event])
      { toTables := deleteSessions matching
          { system.toTables with auditEvents, deliveries, refreshTokens, accessTokens }
        generated } := by
  have hkept : ∀ visit ∈ system.visits, ∀ session ∈ system.sessions, ¬ matching session →
      visit.sessionId = session.id →
        ¬ ∃ row ∈ system.sessions, row.id = visit.sessionId ∧ matching row := by
    rintro visit - session hsession hnot hid ⟨row, hrow, hrowId, hmatch⟩
    exact hnot (table.eq_of_key hvisits.sessionIds hrow hsession (hrowId.trans hid) ▸ hmatch)
  refine ⟨table.nodup_map_delete hvisits.sessionIds, ?_, hvisits.clientIds, hvisits.registrations, ?_, haudits,
    hdeliveries, hvisits.tokens_snoc hgenerated hevent, table.nodup_map_delete hvisits.visitKeys, ?_, ?_, ?_⟩
  · exact fun row hrow => hgenerated (hvisits.sessionsGenerated row (table.mem_delete.mp hrow).1)
  · exact fun row hrow => hgenerated (hvisits.clientsGenerated row hrow)
  · intro visit hvisit
    obtain ⟨hold, hnot⟩ := table.mem_delete.mp hvisit
    obtain ⟨row, hrow, hid⟩ := hvisits.visitSessions visit hold
    exact ⟨row, table.mem_delete.mpr ⟨hrow, fun hmatch => hnot ⟨row, hrow, hid, hmatch⟩⟩, hid⟩
  · exact fun visit hvisit => hvisits.visitClients visit (table.mem_delete.mp hvisit).1
  · intro session hsession client hclient
    obtain ⟨hold, hnot⟩ := table.mem_delete.mp hsession
    rw [visited_snoc hevent, ← hvisits.visited session hold client hclient]
    constructor
    · rintro ⟨visit, hvisit, hrest⟩
      exact ⟨visit, (table.mem_delete.mp hvisit).1, hrest⟩
    · rintro ⟨visit, hvisit, hid, hclientId⟩
      exact ⟨visit, table.mem_delete.mpr ⟨hvisit, hkept visit hvisit session hold hnot hid⟩, hid, hclientId⟩

section batch

variable {input : CentralSessionRevocationInput} {eventId deliveryKeyPrefix : Text} {now : Int}
  {tables : Tables}

theorem deleteSessions_of_none {matching : SessionRow → Prop} [DecidablePred matching]
    (hnone : ∀ row ∈ tables.sessions, ¬ matching row) : deleteSessions matching tables = tables := by
  have hgone : ∀ sessionId, ¬ ∃ row ∈ tables.sessions, row.id = sessionId ∧ matching row := by
    rintro sessionId ⟨row, hrow, -, hmatch⟩
    exact hnone row hrow hmatch
  have hvisits : table.delete (fun visit : VisitRow => ∃ row ∈ tables.sessions, row.id = visit.sessionId ∧
      matching row) tables.visits = tables.visits :=
    table.delete_of_none fun visit _ => hgone visit.sessionId
  simp only [deleteSessions, table.delete_of_none hnone, hvisits]
  rw [table.update_of_none fun token _ ⟨sessionId, _, h⟩ => hgone sessionId h,
    table.update_of_none fun token _ ⟨sessionId, _, h⟩ => hgone sessionId h]

theorem deleteSessions_congr {matching other : SessionRow → Prop} [DecidablePred matching]
    [DecidablePred other] (hiff : ∀ row, matching row ↔ other row) :
    deleteSessions matching tables = deleteSessions other tables := by
  have hgone : ∀ sessionId, (∃ row ∈ tables.sessions, row.id = sessionId ∧ matching row) ↔
      ∃ row ∈ tables.sessions, row.id = sessionId ∧ other row :=
    fun sessionId => by simp only [hiff]
  have hbound : ∀ bound : Option Text,
      (∃ sessionId ∈ bound, ∃ row ∈ tables.sessions, row.id = sessionId ∧ matching row) ↔
        ∃ sessionId ∈ bound, ∃ row ∈ tables.sessions, row.id = sessionId ∧ other row :=
    fun bound => by simp only [hiff]
  simp only [deleteSessions, table.delete_congr fun row _ => hiff row,
    table.delete_congr fun visit : VisitRow => fun _ => hgone visit.sessionId,
    table.update_congr fun token : RefreshTokenRow => fun _ => hbound token.sessionId,
    table.update_congr fun token : AccessTokenRow => fun _ => hbound token.sessionId]

/-- Without its audit a revocation changes nothing. -/
theorem revoke_of_not_eligible (hfresh : ∀ event ∈ tables.auditEvents, event.id ≠ eventId)
    (hnot : ¬ Eligible input now tables) :
    revokeCentralSessions input eventId deliveryKeyPrefix now tables = (false, tables) := by
  have hmissing : ¬ tables.HasAudit eventId := fun ⟨event, hevent, hid⟩ => hfresh event hevent hid
  have hrefresh : refreshRevocationStatement eventId input.selector now tables = tables := by
    rw [refreshRevocationStatement, table.update_of_none fun token _ hmatch => hmissing hmatch.2.2]
  have haccess : accessTokenRevocationStatement eventId input.selector tables = tables := by
    rw [accessTokenRevocationStatement, table.delete_of_none fun token _ hmatch => hmissing hmatch.2]
  have hsession : sessionRevocationStatement eventId input.selector tables = tables :=
    deleteSessions_of_none fun row _ hmatch => hmissing hmatch.2
  rw [revokeCentralSessions, auditForRevocationStatement, if_neg hnot]
  simp only [logoutOutboxStatement, if_neg hmissing, hrefresh, haccess, hsession, decide_eq_false hnot]

/-- With its audit a revocation queues the visits of the selected sessions, revokes their
tokens and deletes them. -/
theorem revoke_of_eligible (heligible : Eligible input now tables) :
    revokeCentralSessions input eventId deliveryKeyPrefix now tables =
      (true, deleteSessions input.selector.Selects
        { tables with
          auditEvents := tables.auditEvents ++ [revocationEvent input eventId now]
          deliveries := insertOutbox deliveryKeyPrefix eventId input.reason now
            ((selectedVisits input.selector tables).mergeSort visitOrder) tables.deliveries
          refreshTokens := table.update
            (fun token : RefreshTokenRow =>
              token.revoked = none ∧ BoundToSelected input.selector tables token.sessionId)
            (fun token => { token with revoked := some now }) tables.refreshTokens
          accessTokens := table.delete
            (fun token : AccessTokenRow => BoundToSelected input.selector tables token.sessionId)
            tables.accessTokens }) := by
  let audited := { tables with auditEvents := tables.auditEvents ++ [revocationEvent input eventId now] }
  have haudit : audited.HasAudit eventId :=
    ⟨revocationEvent input eventId now, List.mem_append_right _ List.mem_cons_self, rfl⟩
  rw [revokeCentralSessions, auditForRevocationStatement, if_pos heligible]
  simp only [logoutOutboxStatement]
  rw [if_pos haudit, decide_eq_true heligible, Prod.mk.injEq]
  refine ⟨rfl, ?_⟩
  refine (deleteSessions_congr fun row => and_iff_left haudit).trans ?_
  congr 1
  rw [accessTokenRevocationStatement, refreshRevocationStatement]
  congr 1
  · apply table.update_congr
    intro token _
    exact ⟨fun h => ⟨h.1, h.2.1⟩, fun h => ⟨h.1, h.2, haudit⟩⟩
  · apply table.delete_congr
    intro token _
    exact and_iff_left haudit

end batch

section visits

variable {token : AccessTokenRow} {tables : Tables}

/-- The pairs of session and client that have a visit. -/
def HasVisit (visits : List VisitRow) (sessionId clientId : Text) : Prop :=
  ∃ visit ∈ visits, visit.sessionId = sessionId ∧ visit.clientId = clientId

theorem hasVisit_iff_mem {visits : List VisitRow} {sessionId clientId : Text} :
    HasVisit visits sessionId clientId ↔
      (sessionId, clientId) ∈ visits.map fun visit => (visit.sessionId, visit.clientId) := by
  simp only [HasVisit, List.mem_map, Prod.mk.injEq]

/-- A new token adds the pair of its session and its client, or no pair. -/
theorem recordVisit_keys (token : AccessTokenRow) (tables : Tables) :
    (recordVisit token tables).map (fun visit => (visit.sessionId, visit.clientId)) =
        tables.visits.map (fun visit => (visit.sessionId, visit.clientId)) ∧
        (∀ sessionId userId, token.sessionId = some sessionId → token.userId = some userId →
          (∃ row ∈ tables.sessions, row.id = sessionId ∧ row.userId = userId) →
            HasVisit tables.visits sessionId token.clientId) ∨
      ∃ sessionId userId, token.sessionId = some sessionId ∧ token.userId = some userId ∧
        (∃ row ∈ tables.sessions, row.id = sessionId ∧ row.userId = userId) ∧
        ¬ HasVisit tables.visits sessionId token.clientId ∧
        (recordVisit token tables).map (fun visit => (visit.sessionId, visit.clientId)) =
          tables.visits.map (fun visit => (visit.sessionId, visit.clientId)) ++
            [(sessionId, token.clientId)] := by
  unfold recordVisit
  split
  · rename_i sessionId userId hsession huser
    split
    · rename_i hlives
      split
      · rename_i hvisit
        refine .inl ⟨table.map_update fun _ _ _ => rfl, ?_⟩
        intro otherSession otherUser hotherSession _ _
        rw [hsession, Option.some.injEq] at hotherSession
        exact hotherSession ▸ hvisit
      · rename_i hvisit
        refine .inr ⟨sessionId, userId, hsession, huser, hlives, hvisit, ?_⟩
        rw [List.map_append, List.map_singleton]
    · rename_i hlives
      refine .inl ⟨rfl, ?_⟩
      intro otherSession otherUser hotherSession hotherUser hother
      rw [hsession, Option.some.injEq] at hotherSession
      rw [huser, Option.some.injEq] at hotherUser
      exact absurd (hotherSession ▸ hotherUser ▸ hother) hlives
  · rename_i hnone
    refine .inl ⟨rfl, ?_⟩
    intro sessionId userId hsession huser _
    exact absurd huser (hnone sessionId userId hsession)

theorem recordVisit_nodup
    (hunique : (tables.visits.map fun visit => (visit.sessionId, visit.clientId)).Nodup) :
    ((recordVisit token tables).map fun visit => (visit.sessionId, visit.clientId)).Nodup := by
  rcases recordVisit_keys token tables with ⟨hkeys, -⟩ | ⟨sessionId, -, -, -, -, hnot, hkeys⟩
  · rw [hkeys]
    exact hunique
  · rw [hkeys, List.nodup_append]
    refine ⟨hunique, List.nodup_singleton _, ?_⟩
    intro key hkey other hother heq
    rw [List.mem_singleton.mp hother] at heq
    exact hnot (hasVisit_iff_mem.mpr (heq ▸ hkey))

theorem hasVisit_recordVisit {sessionId clientId : Text} :
    HasVisit (recordVisit token tables) sessionId clientId ↔
      HasVisit tables.visits sessionId clientId ∨
        (token.sessionId = some sessionId ∧ token.clientId = clientId ∧
          ∃ userId, token.userId = some userId ∧
            ∃ row ∈ tables.sessions, row.id = sessionId ∧ row.userId = userId) := by
  rcases recordVisit_keys token tables with ⟨hkeys, hknown⟩ |
    ⟨newSession, userId, hsession, huser, hlives, -, hkeys⟩
  · rw [hasVisit_iff_mem, hkeys, ← hasVisit_iff_mem]
    refine ⟨.inl, ?_⟩
    rintro (hvisit | ⟨hsession, rfl, userId, huser, hlives⟩)
    · exact hvisit
    · exact hknown sessionId userId hsession huser hlives
  · rw [hasVisit_iff_mem, hkeys, List.mem_append, List.mem_singleton, ← hasVisit_iff_mem, Prod.mk.injEq]
    constructor
    · rintro (hvisit | ⟨rfl, rfl⟩)
      · exact .inl hvisit
      · exact .inr ⟨hsession, rfl, userId, huser, hlives⟩
    · rintro (hvisit | ⟨hother, rfl, -⟩)
      · exact .inl hvisit
      · rw [hsession, Option.some.injEq] at hother
        exact .inr ⟨hother.symm, rfl⟩

end visits

/-- A transaction that leaves alone which sessions, clients and visits there are. -/
theorem Visits.keep {past : List Event} {system next : System} {event : Event}
    (hvisits : Visits past system)
    (hsessions : next.sessions.map (fun row => (row.id, row.userId)) =
      system.sessions.map fun row => (row.id, row.userId))
    (hclients : next.clients.map (fun row => (row.id, row.clientId)) =
      system.clients.map fun row => (row.id, row.clientId))
    (hrows : next.visits = system.visits) (hgenerated : system.generated ⊆ next.generated)
    (haudits : ∀ row ∈ next.auditEvents, row.id ∈ next.generated)
    (hdeliveries : ∀ row ∈ next.deliveries, row.eventId ∈ next.generated)
    (hevent : ∀ token registered, event ≠ .tokenInserted token registered) :
    Visits (past ++ [event]) next := by
  have hids : next.clients.map (·.id) = system.clients.map (·.id) := by
    have h := congrArg (List.map Prod.fst) hclients
    rwa [List.map_map, List.map_map] at h
  have hclientIds : next.clients.map (·.clientId) = system.clients.map (·.clientId) := by
    have h := congrArg (List.map Prod.snd) hclients
    rwa [List.map_map, List.map_map] at h
  have hsessionIds : next.sessions.map (·.id) = system.sessions.map (·.id) := by
    have h := congrArg (List.map Prod.fst) hsessions
    rwa [List.map_map, List.map_map] at h
  have hclient : ∀ row ∈ next.clients, ∃ old ∈ system.clients, old.id = row.id ∧ old.clientId = row.clientId := by
    intro row hrow
    have hmem : (row.id, row.clientId) ∈ system.clients.map fun row => (row.id, row.clientId) := by
      rw [← hclients]
      exact List.mem_map_of_mem hrow
    obtain ⟨old, hold, heq⟩ := List.mem_map.mp hmem
    rw [Prod.mk.injEq] at heq
    exact ⟨old, hold, heq⟩
  have hsession : ∀ row ∈ next.sessions, ∃ old ∈ system.sessions, old.id = row.id ∧ old.userId = row.userId := by
    intro row hrow
    have hmem : (row.id, row.userId) ∈ system.sessions.map fun row => (row.id, row.userId) := by
      rw [← hsessions]
      exact List.mem_map_of_mem hrow
    obtain ⟨old, hold, heq⟩ := List.mem_map.mp hmem
    rw [Prod.mk.injEq] at heq
    exact ⟨old, hold, heq⟩
  refine ⟨hsessionIds ▸ hvisits.sessionIds, ?_, hclientIds ▸ hvisits.clientIds, hids ▸ hvisits.registrations, ?_,
    haudits, hdeliveries, hvisits.tokens_snoc hgenerated hevent, hrows ▸ hvisits.visitKeys, ?_, ?_, ?_⟩
  · intro row hrow
    obtain ⟨old, hold, hid, -⟩ := hsession row hrow
    rw [← hid]
    exact hgenerated (hvisits.sessionsGenerated old hold)
  · intro row hrow
    obtain ⟨old, hold, hid, -⟩ := hclient row hrow
    rw [← hid]
    exact hgenerated (hvisits.clientsGenerated old hold)
  · intro visit hvisit
    obtain ⟨old, hold, hid⟩ := hvisits.visitSessions visit (hrows ▸ hvisit)
    have hmem : old.id ∈ next.sessions.map (·.id) := by
      rw [hsessionIds]
      exact List.mem_map_of_mem hold
    obtain ⟨row, hrow, hrowId⟩ := List.mem_map.mp hmem
    exact ⟨row, hrow, hrowId.trans hid⟩
  · intro visit hvisit
    obtain ⟨old, hold, hid⟩ := hvisits.visitClients visit (hrows ▸ hvisit)
    have hmem : old.clientId ∈ next.clients.map (·.clientId) := by
      rw [hclientIds]
      exact List.mem_map_of_mem hold
    obtain ⟨row, hrow, hrowId⟩ := List.mem_map.mp hmem
    exact ⟨row, hrow, hrowId.trans hid⟩
  · intro session hmem client hrow
    obtain ⟨old, hold, hid, hclientId⟩ := hclient client hrow
    obtain ⟨before, hbefore, hsessionId, huserId⟩ := hsession session hmem
    rw [hrows, ← hclientId, ← hsessionId, hvisits.visited before hbefore old hold, visited_snoc hevent,
      Visited, Visited, hid, hsessionId, huserId]

end pgid.revocation
