import PgidSso.Archive.Seal
import PgidSso.Archive.Selection
import PgidSso.Library.JsonText

open checked

namespace pgid.audit

def MANIFEST_KEYS : List Text :=
  ["batchGeneration", "checkpointFromSequence", "contentType", "contract", "createdAt", "eventCount",
    "firstSequence", "keyVersion", "lastSequence", "objectBytes", "objectKey", "objectSha256", "plaintextSha256",
    "schemaVersion"].map Text.of

/-- The manifest as a value: objects stand for their own data properties. -/
def AuditArchiveManifestV1.value (manifest : AuditArchiveManifestV1) : json.Value :=
  .object
    [(Text.of "batchGeneration", .number (.ofInt manifest.batchGeneration)),
      (Text.of "checkpointFromSequence", .number (.ofInt manifest.checkpointFromSequence)),
      (Text.of "contentType", .string manifest.contentType),
      (Text.of "contract", .string manifest.contract),
      (Text.of "createdAt", .string manifest.createdAt),
      (Text.of "eventCount", .number (.ofInt manifest.eventCount)),
      (Text.of "firstSequence", .number (.ofInt manifest.firstSequence)),
      (Text.of "keyVersion", .string manifest.keyVersion),
      (Text.of "lastSequence", .number (.ofInt manifest.lastSequence)),
      (Text.of "objectBytes", .number (.ofInt manifest.objectBytes)),
      (Text.of "objectKey", .string manifest.objectKey),
      (Text.of "objectSha256", .string manifest.objectSha256),
      (Text.of "plaintextSha256", .string manifest.plaintextSha256),
      (Text.of "schemaVersion", .number (.ofInt manifest.schemaVersion))]

/-- `JSON.stringify(manifest)`. -/
def AuditArchiveManifestV1.text (manifest : AuditArchiveManifestV1) : Text :=
  json.object
    [("batchGeneration", json.integer manifest.batchGeneration),
      ("checkpointFromSequence", json.integer manifest.checkpointFromSequence),
      ("contentType", json.string manifest.contentType),
      ("contract", json.string manifest.contract),
      ("createdAt", json.string manifest.createdAt),
      ("eventCount", json.integer manifest.eventCount),
      ("firstSequence", json.integer manifest.firstSequence),
      ("keyVersion", json.string manifest.keyVersion),
      ("lastSequence", json.integer manifest.lastSequence),
      ("objectBytes", json.integer manifest.objectBytes),
      ("objectKey", json.string manifest.objectKey),
      ("objectSha256", json.string manifest.objectSha256),
      ("plaintextSha256", json.string manifest.plaintextSha256),
      ("schemaVersion", json.integer manifest.schemaVersion)]

section crypto

/-- The members of an object with exactly these keys. -/
def exactObject (value : json.Value) (keys : List Text) :
    Except AuditArchiveCryptoErrorCode (List (Text × json.Value)) :=
  match value with
  | .object members => do
    throwIf (Text.sorted (members.map Prod.fst) ≠ Text.sorted keys) .invalidInput
    return members
  | _ => throw .invalidInput

def safeIntegerValue (value : Option json.Value) (minimum : Int) : Except AuditArchiveCryptoErrorCode Int :=
  required (json.safeInteger? value) .invalidInput (safeInteger · minimum)

def canonicalTimestampValue (value : Option json.Value) : Except AuditArchiveCryptoErrorCode Text :=
  required (json.text? value) .invalidInput canonicalTimestamp

def validatedKeyVersionValue (value : Option json.Value) : Except AuditArchiveCryptoErrorCode Text :=
  required (json.text? value) .invalidInput validatedKeyVersion

/-- A string that `SHA256_HEX_PATTERN` takes. -/
def sha256HexText (value : Option json.Value) : Option Text :=
  (json.text? value).filter isSha256Hex

/-- The manifest that the crypto module reads. -/
def validatedManifest (value : json.Value) : Except AuditArchiveCryptoErrorCode AuditArchiveManifestV1 := do
  let members ← exactObject value MANIFEST_KEYS
  let manifest := json.member members
  throwIf (json.text? (manifest "contract") ≠ some AUDIT_ARCHIVE_ENVELOPE_CONTRACT ∨
    json.safeInteger? (manifest "schemaVersion") ≠ some 1 ∨
    json.text? (manifest "contentType") ≠ some AUDIT_ARCHIVE_CONTENT_TYPE) .invalidInput
  required (sha256HexText (manifest "objectSha256")) .invalidInput fun objectSha256 =>
  required (sha256HexText (manifest "plaintextSha256")) .invalidInput fun plaintextSha256 =>
  required (json.text? (manifest "objectKey")) .invalidInput fun objectKey => do
    let firstSequence ← safeIntegerValue (manifest "firstSequence") 1
    let lastSequence ← safeIntegerValue (manifest "lastSequence") 1
    let eventCount ← safeIntegerValue (manifest "eventCount") 1
    let objectBytes ← safeIntegerValue (manifest "objectBytes") 1
    let checkpointFromSequence ← safeIntegerValue (manifest "checkpointFromSequence") 0
    throwIf (firstSequence ≤ checkpointFromSequence ∨ lastSequence < firstSequence ∨
      AUDIT_ARCHIVE_MAX_RECORDS < eventCount ∨ AUDIT_ARCHIVE_MAX_OBJECT_BYTES < objectBytes) .invalidInput
    let batchGeneration ← safeIntegerValue (manifest "batchGeneration") 1
    let createdAt ← canonicalTimestampValue (manifest "createdAt")
    let keyVersion ← validatedKeyVersionValue (manifest "keyVersion")
    return { batchGeneration, checkpointFromSequence, contentType := AUDIT_ARCHIVE_CONTENT_TYPE,
             contract := AUDIT_ARCHIVE_ENVELOPE_CONTRACT, createdAt, eventCount := eventCount.toNat,
             firstSequence, keyVersion, lastSequence, objectBytes := objectBytes.toNat, objectKey, objectSha256,
             plaintextSha256, schemaVersion := 1 }

end crypto

section repository

/-- The members of an object with so many keys, each of these among them. -/
def exactRecord (value : json.Value) (keys : List Text) :
    Except AuditArchiveRepositoryErrorCode (List (Text × json.Value)) :=
  match value with
  | .object members => do
    throwIf (members.length ≠ keys.length ∨ ∃ key ∈ keys, key ∉ members.map Prod.fst) .invalidInput
    return members
  | _ => throw .invalidInput

def boundedIntegerValue (value : Option json.Value) (minimum maximum : Int) :
    Except AuditArchiveRepositoryErrorCode Int :=
  required (json.safeInteger? value) .invalidInput (boundedInteger · minimum maximum)

def repositoryTimestamp (value : Text) : Except AuditArchiveRepositoryErrorCode Text :=
  repositoryCheck (canonicalTimestamp value)

def keyVersion (value : Text) : Except AuditArchiveRepositoryErrorCode Text := do
  throwIf (isKeyVersion value = false) .invalidInput
  return value

def sha256HexValue (value : Text) : Except AuditArchiveRepositoryErrorCode Text := do
  throwIf (isSha256Hex value = false) .invalidInput
  return value

/-- The manifest that the repository reads. -/
def parseManifest (value : json.Value) : Except AuditArchiveRepositoryErrorCode AuditArchiveManifestV1 := do
  let members ← exactRecord value MANIFEST_KEYS
  let row := json.member members
  throwIf (json.text? (row "contentType") ≠ some AUDIT_ARCHIVE_CONTENT_TYPE ∨
    json.text? (row "contract") ≠ some AUDIT_ARCHIVE_ENVELOPE_CONTRACT ∨
    json.safeInteger? (row "schemaVersion") ≠ some 1) .invalidInput
  let firstSequence ← boundedIntegerValue (row "firstSequence") 1 MAX_SEQUENCE
  let lastSequence ← boundedIntegerValue (row "lastSequence") firstSequence MAX_SEQUENCE
  let checkpointFromSequence ← boundedIntegerValue (row "checkpointFromSequence") 0 MAX_SEQUENCE
  let eventCount ← boundedIntegerValue (row "eventCount") 1 AUDIT_ARCHIVE_MAX_RECORDS
  let objectBytes ← boundedIntegerValue (row "objectBytes") 1 AUDIT_ARCHIVE_MAX_OBJECT_BYTES
  throwIf (firstSequence ≤ checkpointFromSequence) .invalidInput
  required (json.text? (row "objectKey")) .invalidInput fun objectKey => do
    let batchGeneration ← boundedIntegerValue (row "batchGeneration") 1 MAX_SEQUENCE
    let createdAt ← required (json.text? (row "createdAt")) .invalidInput repositoryTimestamp
    let keyVersion ← required (json.text? (row "keyVersion")) .invalidInput keyVersion
    let objectSha256 ← required (json.text? (row "objectSha256")) .invalidInput sha256HexValue
    let plaintextSha256 ← required (json.text? (row "plaintextSha256")) .invalidInput sha256HexValue
    return { batchGeneration, checkpointFromSequence, contentType := AUDIT_ARCHIVE_CONTENT_TYPE,
             contract := AUDIT_ARCHIVE_ENVELOPE_CONTRACT, createdAt, eventCount := eventCount.toNat,
             firstSequence, keyVersion, lastSequence, objectBytes := objectBytes.toNat, objectKey, objectSha256,
             plaintextSha256, schemaVersion := 1 }

def expectedObjectKey (firstSequence lastSequence : Int) (digest : Text) : Text :=
  Text.of "audit/v1/" ++ (json.integer firstSequence).padStart 16 ++ Text.of "-" ++
    (json.integer lastSequence).padStart 16 ++ Text.of "/" ++ digest ++ Text.of ".pgid-audit"

end repository

end pgid.audit

namespace pgid.audit.restore

inductive AuditArchiveRestoreErrorCode where
  | boundsExceeded
  | checksumMismatch
  | cryptoIntegrity
  | custodyUnavailable
  | internalError
  | invalidInput
  | metadataMismatch
  | objectIdentityMismatch
  | objectMissing
  | objectUnavailable
  | recordMismatch
  | sizeMismatch
  | streamFailed
  deriving DecidableEq

/-- The values of an object with exactly these keys, in their order. -/
def exactDataValues (value : json.Value) (keys : List Text) : Option (List json.Value) :=
  match value with
  | .object members =>
    if members.length ≠ keys.length then none else keys.mapM fun key => List.lookup key members
  | _ => none

def boundedInteger (value : Option json.Value) (minimum maximum : Int) :
    Except AuditArchiveRestoreErrorCode Int :=
  required (json.safeInteger? value) .invalidInput fun value => do
    throwIf (value < minimum ∨ maximum < value) .invalidInput
    return value

def canonicalTimestamp (value : Option json.Value) : Except AuditArchiveRestoreErrorCode Text :=
  required (json.text? value) .invalidInput fun value => do
    throwIf (isCanonicalTimestamp value = false) .invalidInput
    return value

def sha256HexValue (value : Option json.Value) : Except AuditArchiveRestoreErrorCode Text :=
  required (json.text? value) .invalidInput fun value => do
    throwIf (isSha256Hex value = false) .invalidInput
    return value

def keyVersion (value : Option json.Value) : Except AuditArchiveRestoreErrorCode Text :=
  required (json.text? value) .invalidInput fun value => do
    throwIf (isKeyVersion value = false) .invalidInput
    return value

def paddedSequence (value : Int) : Text :=
  (json.integer value).padStart 16

def expectedObjectKey (firstSequence lastSequence : Int) (digest : Text) : Text :=
  Text.of "audit/v1/" ++ paddedSequence firstSequence ++ Text.of "-" ++ paddedSequence lastSequence ++
    Text.of "/" ++ digest ++ Text.of ".pgid-audit"

/-- The manifest that the restore path reads. -/
def canonicalManifest (value : json.Value) : Except AuditArchiveRestoreErrorCode AuditArchiveManifestV1 :=
  required (exactDataValues value MANIFEST_KEYS) .invalidInput fun values => do
    throwIf (json.text? values[2]? ≠ some AUDIT_ARCHIVE_CONTENT_TYPE ∨
      json.text? values[3]? ≠ some AUDIT_ARCHIVE_ENVELOPE_CONTRACT ∨
      json.safeInteger? values[13]? ≠ some 1) .invalidInput
    let firstSequence ← boundedInteger values[6]? 1 MAX_SAFE_INTEGER
    let lastSequence ← boundedInteger values[8]? firstSequence MAX_SAFE_INTEGER
    let checkpointFromSequence ← boundedInteger values[1]? 0 MAX_SAFE_INTEGER
    let objectBytes ← boundedInteger values[9]? 1 AUDIT_ARCHIVE_MAX_OBJECT_BYTES
    let objectSha256 ← sha256HexValue values[11]?
    required (json.text? values[10]?) .invalidInput fun objectKey => do
      throwIf (firstSequence ≤ checkpointFromSequence ∨
        objectKey ≠ expectedObjectKey firstSequence lastSequence objectSha256) .invalidInput
      let batchGeneration ← boundedInteger values[0]? 1 MAX_SAFE_INTEGER
      let createdAt ← canonicalTimestamp values[4]?
      let eventCount ← boundedInteger values[5]? 1 AUDIT_ARCHIVE_MAX_RECORDS
      let keyVersion ← keyVersion values[7]?
      let plaintextSha256 ← sha256HexValue values[12]?
      return { batchGeneration, checkpointFromSequence, contentType := AUDIT_ARCHIVE_CONTENT_TYPE,
               contract := AUDIT_ARCHIVE_ENVELOPE_CONTRACT, createdAt, eventCount := eventCount.toNat,
               firstSequence, keyVersion, lastSequence, objectBytes := objectBytes.toNat, objectKey,
               objectSha256, plaintextSha256, schemaVersion := 1 }

end pgid.audit.restore
