import Mathlib.Data.List.Sort
import PgidSso.Logout.Delivery

open pgid.logout

namespace pgid.revocation

/-- What revocation reads of a row of `session`; the instants are in milliseconds. -/
structure SessionRow where
  id : Text
  userId : Text
  token : Text
  expiresAt : Int
  createdAt : Int
  deriving DecidableEq

/-- What revocation reads of a row of `oauthClient`. -/
structure ClientRow where
  id : Text
  clientId : Text
  backchannelLogoutUri : Option Text
  deriving DecidableEq

structure RefreshTokenRow where
  id : Text
  clientId : Text
  sessionId : Option Text
  userId : Text
  revoked : Option Int
  deriving DecidableEq

structure AccessTokenRow where
  id : Text
  clientId : Text
  sessionId : Option Text
  userId : Option Text
  createdAt : Int
  deriving DecidableEq

/-- A row of `rp_session_client`. -/
structure VisitRow where
  sessionId : Text
  clientId : Text
  firstSeenAt : Int
  lastSeenAt : Int
  deriving DecidableEq

/-- What a revocation writes to `audit_event`. -/
structure AuditRow where
  id : Text
  eventType : Text
  actorUserId : Option Text
  clientId : Option Text
  subjectId : Text
  reason : LogoutReason
  occurredAt : Int
  deriving DecidableEq

structure Tables where
  sessions : List SessionRow
  clients : List ClientRow
  refreshTokens : List RefreshTokenRow
  accessTokens : List AccessTokenRow
  visits : List VisitRow
  auditEvents : List AuditRow
  deliveries : List LogoutDelivery
  deriving DecidableEq

inductive SessionSelector where
  | session (sessionId userId : Text) (token : Option Text)
  | userAll (userId : Text)
  | userOthers (exceptSessionId userId : Text)
  deriving DecidableEq

/-- `selectorSql`. -/
def SessionSelector.Selects : SessionSelector → SessionRow → Prop
  | .userAll userId, row => row.userId = userId
  | .userOthers exceptSessionId userId, row => row.userId = userId ∧ row.id ≠ exceptSessionId
  | .session sessionId userId token, row =>
    row.id = sessionId ∧ row.userId = userId ∧ ∀ expected ∈ token, row.token = expected

instance (selector : SessionSelector) (row : SessionRow) : Decidable (selector.Selects row) := by
  cases selector <;> unfold SessionSelector.Selects <;> infer_instance

structure CentralSessionRevocationInput where
  actorSessionId : Option Text
  actorUserId : Option Text
  clientId : Option Text
  eventType : Text
  freshAfter : Option Int
  reason : LogoutReason
  selector : SessionSelector
  subjectUserId : Text
  deriving DecidableEq

/-- The session that acts, when both its ids are given and not empty. -/
def CentralSessionRevocationInput.actor? (input : CentralSessionRevocationInput) : Option (Text × Text) :=
  match input.actorSessionId, input.actorUserId with
  | some sessionId, some userId => if sessionId = [] ∨ userId = [] then none else some (sessionId, userId)
  | _, _ => none

/-- The guard of the audit: the session that acts lives and is fresh, or without one a
selected session exists. -/
def Eligible (input : CentralSessionRevocationInput) (now : Int) (tables : Tables) : Prop :=
  match input.actor? with
  | some (sessionId, userId) => ∃ row ∈ tables.sessions, row.id = sessionId ∧ row.userId = userId ∧
      now < row.expiresAt ∧ ∀ freshAfter ∈ input.freshAfter, freshAfter < row.createdAt
  | none => ∃ row ∈ tables.sessions, input.selector.Selects row

instance (input : CentralSessionRevocationInput) (now : Int) (tables : Tables) :
    Decidable (Eligible input now tables) := by
  unfold Eligible
  split <;> infer_instance

def revocationEvent (input : CentralSessionRevocationInput) (eventId : Text) (now : Int) : AuditRow :=
  { id := eventId, eventType := input.eventType, actorUserId := input.actorUserId
    clientId := input.clientId, subjectId := input.subjectUserId, reason := input.reason, occurredAt := now }

/-- The guarded insert of the audit. -/
def auditForRevocationStatement (event : AuditRow) (input : CentralSessionRevocationInput) (now : Int)
    (tables : Tables) : Tables :=
  if Eligible input now tables then { tables with auditEvents := tables.auditEvents ++ [event] } else tables

/-- `EXISTS (SELECT 1 FROM audit_event WHERE id = ?)`. -/
def Tables.HasAudit (tables : Tables) (eventId : Text) : Prop :=
  ∃ event ∈ tables.auditEvents, event.id = eventId

instance (tables : Tables) (eventId : Text) : Decidable (tables.HasAudit eventId) :=
  inferInstanceAs (Decidable (∃ event ∈ tables.auditEvents, event.id = eventId))

/-- The visits of the selected sessions, joined with their session and their client. -/
def selectedVisits (selector : SessionSelector) (tables : Tables) : List OutboxVisit :=
  tables.visits.flatMap fun visit =>
    (table.matched (fun row : SessionRow => row.id = visit.sessionId ∧ selector.Selects row)
      tables.sessions).flatMap fun session =>
        (table.matched (fun row : ClientRow => row.clientId = visit.clientId) tables.clients).map fun client =>
          { sessionId := visit.sessionId, userId := session.userId, clientId := visit.clientId
            backchannelLogoutUri := client.backchannelLogoutUri }

/-- `ORDER BY visit.session_id ASC, visit.client_id ASC`. -/
def visitOrder (left right : OutboxVisit) : Bool :=
  decide (left.sessionId < right.sessionId ∨
    (left.sessionId = right.sessionId ∧ ¬ right.clientId < left.clientId))

def logoutOutboxStatement (deliveryKeyPrefix eventId : Text) (selector : SessionSelector)
    (reason : LogoutReason) (now : Int) (tables : Tables) : Tables :=
  if tables.HasAudit eventId then
    { tables with
      deliveries := insertOutbox deliveryKeyPrefix eventId reason now
        ((selectedVisits selector tables).mergeSort visitOrder) tables.deliveries }
  else tables

/-- A token whose session is selected. -/
def BoundToSelected (selector : SessionSelector) (tables : Tables) (sessionId : Option Text) : Prop :=
  ∃ row ∈ tables.sessions, selector.Selects row ∧ sessionId = some row.id

instance (selector : SessionSelector) (tables : Tables) (sessionId : Option Text) :
    Decidable (BoundToSelected selector tables sessionId) :=
  inferInstanceAs (Decidable (∃ row ∈ tables.sessions, selector.Selects row ∧ sessionId = some row.id))

def refreshRevocationStatement (eventId : Text) (selector : SessionSelector) (now : Int)
    (tables : Tables) : Tables :=
  { tables with
    refreshTokens := table.update
      (fun token : RefreshTokenRow => token.revoked = none ∧ BoundToSelected selector tables token.sessionId ∧
        tables.HasAudit eventId)
      (fun token => { token with revoked := some now }) tables.refreshTokens }

def accessTokenRevocationStatement (eventId : Text) (selector : SessionSelector) (tables : Tables) : Tables :=
  { tables with
    accessTokens := table.delete
      (fun token : AccessTokenRow => BoundToSelected selector tables token.sessionId ∧ tables.HasAudit eventId)
      tables.accessTokens }

/-- `DELETE FROM session`: the visits of the sessions go with them, and their tokens
lose them. -/
def deleteSessions (matching : SessionRow → Prop) [DecidablePred matching] (tables : Tables) : Tables :=
  let gone := fun sessionId : Text => ∃ row ∈ tables.sessions, row.id = sessionId ∧ matching row
  { tables with
    sessions := table.delete matching tables.sessions
    visits := table.delete (fun visit : VisitRow => gone visit.sessionId) tables.visits
    refreshTokens := table.update (fun token : RefreshTokenRow => ∃ sessionId ∈ token.sessionId, gone sessionId)
      (fun token => { token with sessionId := none }) tables.refreshTokens
    accessTokens := table.update (fun token : AccessTokenRow => ∃ sessionId ∈ token.sessionId, gone sessionId)
      (fun token => { token with sessionId := none }) tables.accessTokens }

def sessionRevocationStatement (eventId : Text) (selector : SessionSelector) (tables : Tables) : Tables :=
  deleteSessions (fun row => selector.Selects row ∧ tables.HasAudit eventId) tables

/-- The batch of a revocation: whether its audit was committed, and the tables after. -/
def revokeCentralSessions (input : CentralSessionRevocationInput) (eventId deliveryKeyPrefix : Text)
    (now : Int) (tables : Tables) : Bool × Tables :=
  let audited := auditForRevocationStatement (revocationEvent input eventId now) input now tables
  let outbox := logoutOutboxStatement deliveryKeyPrefix eventId input.selector input.reason now audited
  let refreshed := refreshRevocationStatement eventId input.selector now outbox
  let revoked := accessTokenRevocationStatement eventId input.selector refreshed
  (decide (Eligible input now tables), sessionRevocationStatement eventId input.selector revoked)

/-- The trigger on a new access token: a token of the user of a live session is a visit of
its client. -/
def recordVisit (token : AccessTokenRow) (tables : Tables) : List VisitRow :=
  match token.sessionId, token.userId with
  | some sessionId, some userId =>
    if ∃ row ∈ tables.sessions, row.id = sessionId ∧ row.userId = userId then
      if ∃ visit ∈ tables.visits, visit.sessionId = sessionId ∧ visit.clientId = token.clientId then
        table.update
          (fun visit : VisitRow => visit.sessionId = sessionId ∧ visit.clientId = token.clientId ∧
            visit.lastSeenAt < token.createdAt)
          (fun visit => { visit with lastSeenAt := token.createdAt }) tables.visits
      else
        tables.visits ++
          [{ sessionId, clientId := token.clientId, firstSeenAt := token.createdAt
             lastSeenAt := token.createdAt }]
    else tables.visits
  | _, _ => tables.visits

def insertAccessToken (token : AccessTokenRow) (tables : Tables) : Tables :=
  { tables with accessTokens := tables.accessTokens ++ [token], visits := recordVisit token tables }

/-- `DELETE FROM oauthClient`: its tokens and its visits go with it. -/
def deleteClient (clientId : Text) (tables : Tables) : Tables :=
  { tables with
    clients := table.delete (fun row : ClientRow => row.clientId = clientId) tables.clients
    refreshTokens := table.delete (fun row : RefreshTokenRow => row.clientId = clientId) tables.refreshTokens
    accessTokens := table.delete (fun row : AccessTokenRow => row.clientId = clientId) tables.accessTokens
    visits := table.delete (fun row : VisitRow => row.clientId = clientId) tables.visits }

end pgid.revocation
