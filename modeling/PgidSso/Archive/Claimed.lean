import PgidSso.Archive.Manifest
import PgidSso.Library.Timestamp

open checked

namespace pgid.audit

def MAX_DISPATCH_GENERATION : Int := 1000000
def MAX_ATTEMPTS : Int := 5

/-- The claim of a batch by an attempt to write it. -/
structure AuditArchiveLease where
  attemptNumber : Int
  batchKey : Text
  dispatchGeneration : Int
  leaseExpiresAt : Timestamp
  leaseId : Text
  startedAt : Timestamp
  updatedAt : Timestamp
  deriving DecidableEq

/-- A row that the statement for a claimed batch returns: the columns of the batch, its
lease and the outcome of its attempt. -/
structure ClaimedBatchRow where
  lease : AuditArchiveLease
  outcome : Text
  manifestJson : Text
  contract : Text
  schemaVersion : Int
  contentType : Text
  batchGeneration : Int
  checkpointRevision : Int
  checkpointFromSequence : Int
  createdAt : Text
  eventCount : Int
  firstSequence : Int
  lastSequence : Int
  plaintextSha256 : Text
  keyVersion : Text
  objectKey : Text
  objectBytes : Int
  objectSha256 : Text
  encryptedEnvelope : List UInt8
  envelopeBytes : Int

structure AuditArchiveClaimedBatch where
  batchKey : Text
  checkpointFromSequence : Int
  checkpointRevision : Int
  contentType : Text
  encryptedEnvelope : List UInt8
  keyVersion : Text
  manifest : AuditArchiveManifestV1
  objectBytes : Int
  objectKey : Text
  objectSha256 : Text

def parseLease (row : AuditArchiveLease) : Except AuditArchiveRepositoryErrorCode AuditArchiveLease := do
  throwIf (row.updatedAt < row.startedAt ∨ row.leaseExpiresAt ≤ row.updatedAt) .invalidInput
  let attemptNumber ← boundedInteger row.attemptNumber 1 MAX_ATTEMPTS
  let batchKey ← canonicalReference row.batchKey
  let dispatchGeneration ← boundedInteger row.dispatchGeneration 1 MAX_DISPATCH_GENERATION
  let leaseId ← canonicalReference row.leaseId
  return { row with attemptNumber, batchKey, dispatchGeneration, leaseId }

def persistedBytesValue (value : List UInt8) : Except AuditArchiveRepositoryErrorCode (List UInt8) := do
  throwIf (value.length = 0 ∨ AUDIT_ARCHIVE_MAX_OBJECT_BYTES < value.length) .sourceInvalid
  return value

/-- The batch of the row, with every column checked against its manifest. -/
def claimedBatch (crypto : WebCrypto) (lease : AuditArchiveLease) (row : ClaimedBatchRow) :
    Except AuditArchiveRepositoryErrorCode AuditArchiveClaimedBatch := do
  throwIf (row.outcome ≠ Text.of "in_flight") .sourceInvalid
  let projectedLease ← parseLease row.lease
  throwIf (projectedLease ≠ lease) .sourceInvalid
  required (json.parse row.manifestJson) .sourceInvalid fun parsedManifest => do
    let manifest ← parseManifest parsedManifest
    let checkpointRevision ← boundedInteger row.checkpointRevision 0 MAX_CHECKPOINT_REVISION
    let checkpointFromSequence ← boundedInteger row.checkpointFromSequence 0 MAX_SEQUENCE
    let objectBytes ← boundedInteger row.objectBytes 1 AUDIT_ARCHIVE_MAX_OBJECT_BYTES
    let envelope ← persistedBytesValue row.encryptedEnvelope
    throwIf (row.contract ≠ AUDIT_ARCHIVE_ENVELOPE_CONTRACT ∨ row.schemaVersion ≠ 1 ∨
      row.contentType ≠ AUDIT_ARCHIVE_CONTENT_TYPE ∨ manifest.text ≠ row.manifestJson) .sourceInvalid
    let batchGeneration ← boundedInteger row.batchGeneration 1 MAX_SEQUENCE
    let createdAt ← repositoryTimestamp row.createdAt
    let eventCount ← boundedInteger row.eventCount 1 AUDIT_ARCHIVE_MAX_RECORDS
    let firstSequence ← boundedInteger row.firstSequence 1 MAX_SEQUENCE
    let lastSequence ← boundedInteger row.lastSequence manifest.firstSequence MAX_SEQUENCE
    let plaintextSha256 ← sha256HexValue row.plaintextSha256
    let keyVersion ← keyVersion row.keyVersion
    let objectSha256 ← sha256HexValue row.objectSha256
    let envelopeBytes ← boundedInteger row.envelopeBytes 1 AUDIT_ARCHIVE_MAX_OBJECT_BYTES
    throwIf (manifest.batchGeneration ≠ batchGeneration ∨ manifest.batchGeneration ≠ checkpointRevision + 1 ∨
      manifest.checkpointFromSequence ≠ checkpointFromSequence ∨ manifest.createdAt ≠ createdAt ∨
      (manifest.eventCount : Int) ≠ eventCount ∨ manifest.firstSequence ≠ firstSequence ∨
      manifest.lastSequence ≠ lastSequence ∨ manifest.plaintextSha256 ≠ plaintextSha256 ∨
      manifest.keyVersion ≠ keyVersion ∨ manifest.contentType ≠ row.contentType ∨
      manifest.objectKey ≠ row.objectKey ∨
      manifest.objectKey ≠ expectedObjectKey manifest.firstSequence manifest.lastSequence manifest.objectSha256 ∨
      (manifest.objectBytes : Int) ≠ objectBytes ∨ manifest.objectSha256 ≠ objectSha256 ∨
      envelopeBytes ≠ objectBytes ∨ (envelope.length : Int) ≠ objectBytes ∨
      bytesToHex (crypto.digest envelope) ≠ manifest.objectSha256) .sourceInvalid
    return { batchKey := lease.batchKey, checkpointFromSequence, checkpointRevision,
             contentType := AUDIT_ARCHIVE_CONTENT_TYPE, encryptedEnvelope := envelope,
             keyVersion := manifest.keyVersion, manifest, objectBytes, objectKey := manifest.objectKey,
             objectSha256 := manifest.objectSha256 }

/-- The claimed batch, from the rows that its statement returns. -/
def readClaimedAuditArchiveBatch (crypto : WebCrypto) (lease : AuditArchiveLease) (rows : List ClaimedBatchRow) :
    Except AuditArchiveRepositoryErrorCode (Option AuditArchiveClaimedBatch) := do
  let lease ← parseLease lease
  match rows with
  | [] => return none
  | [row] => return some (← (claimedBatch crypto lease row).mapError fun _ => .sourceInvalid)
  | _ => throw .sourceInvalid

/-- What the writer relies on of a claimed batch. -/
structure AuditArchiveClaimedBatch.Sound (crypto : WebCrypto) (claimed : AuditArchiveClaimedBatch) : Prop where
  parsed : ∃ value, parseManifest value = .ok claimed.manifest
  keyVersion : claimed.keyVersion = claimed.manifest.keyVersion
  objectKey : claimed.objectKey = claimed.manifest.objectKey
  objectSha256 : claimed.objectSha256 = claimed.manifest.objectSha256
  expectedKey : claimed.manifest.objectKey =
    expectedObjectKey claimed.manifest.firstSequence claimed.manifest.lastSequence claimed.manifest.objectSha256
  length : claimed.encryptedEnvelope.length = claimed.manifest.objectBytes
  digest : bytesToHex (crypto.digest claimed.encryptedEnvelope) = claimed.manifest.objectSha256

theorem claimedBatch_sound {crypto : WebCrypto} {lease : AuditArchiveLease} {row : ClaimedBatchRow}
    {claimed : AuditArchiveClaimedBatch} (hclaimed : claimedBatch crypto lease row = .ok claimed) :
    claimed.Sound crypto := by
  simp only [claimedBatch, bind_eq_ok_iff, required_eq_ok_iff, throwIf_eq_ok_iff, exists_const, pure_eq_ok_iff,
    not_or, not_not] at hclaimed
  obtain ⟨-, projected, -, -, value, -, manifest, hmanifest, revision, -, checkpoint, -, bytes, -, envelope, -, -,
    _, -, _, -, _, -, _, -, _, -, _, -, _, -, _, -, _, -,
    ⟨-, -, -, -, -, -, -, -, -, -, -, hexpected, hbytes, -, -, hlength, hdigest⟩, rfl⟩ := hclaimed
  have henvelope : envelope.length = manifest.objectBytes := by omega
  exact ⟨⟨value, hmanifest⟩, rfl, rfl, rfl, hexpected, henvelope, hdigest⟩

theorem readClaimedAuditArchiveBatch_sound {crypto : WebCrypto} {lease : AuditArchiveLease}
    {rows : List ClaimedBatchRow} {claimed : AuditArchiveClaimedBatch}
    (hread : readClaimedAuditArchiveBatch crypto lease rows = .ok (some claimed)) : claimed.Sound crypto := by
  simp only [readClaimedAuditArchiveBatch, bind_eq_ok_iff] at hread
  obtain ⟨parsed, -, hrows⟩ := hread
  split at hrows
  · cases hrows
  · rename_i row
    cases hclaimed : claimedBatch crypto parsed row with
    | error code =>
      rw [hclaimed] at hrows
      cases hrows
    | ok batch =>
      rw [hclaimed] at hrows
      cases hrows
      exact claimedBatch_sound hclaimed
  · cases hrows

end pgid.audit
