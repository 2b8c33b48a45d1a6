import PgidSso.Archive.Record

open checked

namespace pgid.audit

inductive AuditArchiveRepositoryErrorCode where
  | invalidInput
  | sourceInvalid
  deriving DecidableEq

def MAX_SEQUENCE : Int := 9007199254740991
def MAX_CHECKPOINT_REVISION : Int := MAX_SEQUENCE - 1

structure AuditArchiveCheckpoint where
  lastArchivedAt : Option Text
  lastBatchKey : Option Text
  lastSequence : Int
  revision : Int

structure AuditArchiveSourceSelection where
  checkpoint : AuditArchiveCheckpoint
  hasMore : Bool
  records : List AuditArchiveRecordV1

section rows

def boundedInteger (value minimum maximum : Int) : Except AuditArchiveRepositoryErrorCode Int := do
  throwIf (value < minimum ∨ maximum < value) .invalidInput
  return value

def canonicalReference (value : Text) : Except AuditArchiveRepositoryErrorCode Text := do
  throwIf (isCanonicalSha256Reference value = false) .invalidInput
  return value

/-- A check of the crypto contract that the repository makes too, under its own code. -/
def repositoryCheck {α : Type} (check : Except AuditArchiveCryptoErrorCode α) :
    Except AuditArchiveRepositoryErrorCode α :=
  check.mapError fun _ => .invalidInput

/-- The repository's own `safeHash`, which does not look for credentials. -/
def repositorySafeHash (value : Text) : Except AuditArchiveRepositoryErrorCode Text := do
  throwIf (isHash value = false) .invalidInput
  return value

def parseCheckpoint (row : AuditArchiveCheckpoint) :
    Except AuditArchiveRepositoryErrorCode AuditArchiveCheckpoint := do
  let revision ← boundedInteger row.revision 0 MAX_CHECKPOINT_REVISION
  let lastSequence ← boundedInteger row.lastSequence 0 MAX_SEQUENCE
  let lastBatchKey ← nullable canonicalReference row.lastBatchKey
  let lastArchivedAt ← nullable (fun value => repositoryCheck (canonicalTimestamp value)) row.lastArchivedAt
  throwIf ((revision = 0 ∧ (lastSequence ≠ 0 ∨ lastBatchKey ≠ none ∨ lastArchivedAt ≠ none)) ∨
    (0 < revision ∧ (lastSequence = 0 ∨ lastBatchKey = none ∨ lastArchivedAt = none))) .invalidInput
  return { lastArchivedAt, lastBatchKey, lastSequence, revision }

def parseSourceRow (row : AuditArchiveRecordV1) :
    Except AuditArchiveRepositoryErrorCode AuditArchiveRecordV1 := do
  throwIf (128 < row.eventType.length ∨ isEventType row.eventType = false) .sourceInvalid
  let actorRef ← nullable canonicalReference row.actorRef
  throwIf ((actorRef = none ∧ row.actorRefHashVersion ≠ none) ∨
    (actorRef ≠ none ∧ row.actorRefHashVersion ≠ some 1)) .sourceInvalid
  let identifier := fun value => repositoryCheck (safeIdentifier value)
  let actorUserId ← nullable identifier row.actorUserId
  let clientId ← nullable identifier row.clientId
  let eventId ← identifier row.eventId
  let ipHash ← nullable repositorySafeHash row.ipHash
  let occurredAt ← repositoryCheck (canonicalTimestamp row.occurredAt)
  let sequence ← boundedInteger row.sequence 1 MAX_SEQUENCE
  let sessionId ← nullable identifier row.sessionId
  let subjectId ← nullable identifier row.subjectId
  let userAgentHash ← nullable repositorySafeHash row.userAgentHash
  return { actorRef, actorRefHashVersion := actorRef.map fun _ => 1, actorUserId, clientId, eventId,
           eventType := row.eventType, ipHash, metadataJson := row.metadataJson, occurredAt,
           outcome := row.outcome, sequence, sessionId, subjectId, userAgentHash }

end rows

/-- `encodeCanonicalAuditRecordsV1` under one error code of the repository. -/
def validateRecordSet (records : List AuditArchiveRecordV1)
    (invalidCode : AuditArchiveRepositoryErrorCode) :
    Except AuditArchiveRepositoryErrorCode CanonicalRecordSet := do
  throwIf (records = [] ∨ AUDIT_ARCHIVE_MAX_RECORDS < records.length) invalidCode
  (canonicalRecordSet records).mapError fun _ => invalidCode

/-- Every available record rises above the one before and is valid by itself. -/
def checkAvailable (previousSequence : Int) :
    List AuditArchiveRecordV1 → Except AuditArchiveRepositoryErrorCode Unit
  | [] => pure ()
  | record :: available => do
    throwIf (record.sequence ≤ previousSequence) .sourceInvalid
    let _ ← validateRecordSet [record] .sourceInvalid
    checkAvailable record.sequence available

/-- The records taken so far, extended by the available ones as long as they make a
valid set together. -/
def takeRecords (records : List AuditArchiveRecordV1) :
    List AuditArchiveRecordV1 → Except AuditArchiveRepositoryErrorCode (List AuditArchiveRecordV1)
  | [] => pure records
  | record :: available =>
    match validateRecordSet (records ++ [record]) .sourceInvalid with
    | .ok canonical =>
      if AUDIT_ARCHIVE_MAX_PLAINTEXT_BYTES < canonical.bytes.length then pure records
      else takeRecords (records ++ [record]) available
    | .error error => if records = [] then throw error else pure records

/-- The selection from the rows of one read: the checkpoint and at most 101 sources
after it, in order. -/
def selectAuditArchiveSource (checkpointRow : AuditArchiveCheckpoint)
    (sourceRows : List AuditArchiveRecordV1) :
    Except AuditArchiveRepositoryErrorCode AuditArchiveSourceSelection := do
  let checkpoint ← (parseCheckpoint checkpointRow).mapError fun _ => .sourceInvalid
  let available ← (sourceRows.mapM parseSourceRow).mapError fun _ => .sourceInvalid
  checkAvailable checkpoint.lastSequence available
  let records ← takeRecords [] (available.take AUDIT_ARCHIVE_MAX_RECORDS)
  throwIf (0 < available.length ∧ records.length = 0) .sourceInvalid
  return { checkpoint, hasMore := records.length < available.length, records }

/-- The records taken so far are none, or a canonical set. -/
theorem takeRecords_canonical {records available taken : List AuditArchiveRecordV1}
    (htake : takeRecords records available = .ok taken)
    (hrecords : records ≠ [] → ∃ canonical, canonicalRecordSet records = .ok canonical) :
    taken ≠ [] → ∃ canonical, canonicalRecordSet taken = .ok canonical := by
  induction available generalizing records with
  | nil =>
    rw [takeRecords, pure_eq_ok_iff] at htake
    rw [← htake]
    exact hrecords
  | cons record available ih =>
    rw [takeRecords] at htake
    cases hset : validateRecordSet (records ++ [record]) .sourceInvalid with
    | error error =>
      simp only [hset] at htake
      split at htake
      · exact absurd htake throw_ne_ok
      · rw [pure_eq_ok_iff] at htake
        rw [← htake]
        exact hrecords
    | ok canonical =>
      simp only [hset] at htake
      split at htake
      · rw [pure_eq_ok_iff] at htake
        rw [← htake]
        exact hrecords
      · apply ih htake
        intro _
        simp only [validateRecordSet, throwIf_bind_eq_ok_iff] at hset
        cases hcanonical : canonicalRecordSet (records ++ [record]) with
        | error error => simp [hcanonical, Except.mapError] at hset
        | ok canonical => exact ⟨canonical, rfl⟩

/-- Every nonempty selection is a canonical record set. -/
theorem selectAuditArchiveSource_canonical {checkpointRow : AuditArchiveCheckpoint}
    {sourceRows : List AuditArchiveRecordV1} {selection : AuditArchiveSourceSelection}
    (hselect : selectAuditArchiveSource checkpointRow sourceRows = .ok selection)
    (hnonempty : selection.records ≠ []) :
    ∃ canonical, canonicalRecordSet selection.records = .ok canonical := by
  simp only [selectAuditArchiveSource, bind_eq_ok_iff, pure_eq_ok_iff] at hselect
  obtain ⟨checkpoint, -, available, -, -, -, records, hrecords, -, -, rfl⟩ := hselect
  exact takeRecords_canonical hrecords (fun hnone => absurd rfl hnone) hnonempty

end pgid.audit
