import PgidSso.Archive.Record

open checked

namespace pgid.audit

def AUDIT_ARCHIVE_CONTENT_TYPE : Text := Text.of "application/vnd.pg72.pgid-audit-archive+json"
def AES_256_BYTES : Nat := 32
def AES_GCM_NONCE_BYTES : Nat := 12
def AES_KW_WRAPPED_256_BYTES : Nat := 40

/-- The platform's cryptography: SHA-256, AES-KW and AES-GCM with a tag of 128 bits,
as far as the lengths of their results go. -/
structure WebCrypto where
  digest : List UInt8 → List UInt8
  wrapKey : (kek key : List UInt8) → List UInt8
  encrypt : (key iv additionalData plaintext : List UInt8) → List UInt8
  digest_length : ∀ data, (digest data).length = 32
  wrapKey_length : ∀ kek key, (wrapKey kek key).length = key.length + 8
  encrypt_length : ∀ key iv additionalData plaintext,
    (encrypt key iv additionalData plaintext).length = plaintext.length + 16

/-- Results of zeros, of the lengths of real ones. -/
def WebCrypto.zeros : WebCrypto :=
  { digest := fun _ => List.replicate 32 0
    wrapKey := fun _ key => List.replicate (key.length + 8) 0
    encrypt := fun _ _ _ plaintext => List.replicate (plaintext.length + 16) 0
    digest_length := fun _ => List.length_replicate
    wrapKey_length := fun _ _ => List.length_replicate
    encrypt_length := fun _ _ _ _ => List.length_replicate }

structure AuditArchiveSealInputV1 where
  batchGeneration : Int
  checkpointFromSequence : Int
  createdAt : Text
  kek : Text
  keyVersion : Text
  records : List AuditArchiveRecordV1

structure AuditArchiveManifestV1 where
  batchGeneration : Int
  checkpointFromSequence : Int
  contentType : Text
  contract : Text
  createdAt : Text
  eventCount : Nat
  firstSequence : Int
  keyVersion : Text
  lastSequence : Int
  objectBytes : Nat
  objectKey : Text
  objectSha256 : Text
  plaintextSha256 : Text
  schemaVersion : Int

structure SealedAuditArchiveV1 where
  manifest : AuditArchiveManifestV1
  objectBytes : List UInt8

/-- The header; its contract, encryption, key wrap and schema version are fixed. -/
structure ArchiveHeaderV1 where
  batchGeneration : Int
  checkpointFromSequence : Int
  createdAt : Text
  eventCount : Nat
  firstSequence : Int
  keyVersion : Text
  lastSequence : Int
  plaintextSha256 : Text

/-- `JSON.stringify(header)`. -/
def ArchiveHeaderV1.text (header : ArchiveHeaderV1) : Text :=
  json.object
    [("batchGeneration", json.integer header.batchGeneration),
      ("checkpointFromSequence", json.integer header.checkpointFromSequence),
      ("contract", json.string AUDIT_ARCHIVE_ENVELOPE_CONTRACT),
      ("createdAt", json.string header.createdAt),
      ("encryption", json.string (Text.of "A256GCM")),
      ("eventCount", json.integer header.eventCount),
      ("firstSequence", json.integer header.firstSequence),
      ("keyVersion", json.string header.keyVersion),
      ("keyWrap", json.string (Text.of "A256KW")),
      ("lastSequence", json.integer header.lastSequence),
      ("plaintextSha256", json.string header.plaintextSha256),
      ("schemaVersion", json.integer 1)]

def headerBytes (header : ArchiveHeaderV1) : List UInt8 :=
  header.text.encode

/-- `JSON.stringify(envelope)`. -/
def envelopeText (ciphertext : Text) (header : ArchiveHeaderV1) (nonce wrappedDek : Text) : Text :=
  json.object
    [("ciphertext", json.string ciphertext), ("header", header.text), ("nonce", json.string nonce),
      ("wrappedDek", json.string wrappedDek)]

def canonicalEnvelopeBytes (ciphertext : Text) (header : ArchiveHeaderV1) (nonce wrappedDek : Text) :
    List UInt8 :=
  (envelopeText ciphertext header nonce wrappedDek).encode

def bytesToBase64Url (bytes : List UInt8) : Text :=
  base64.encode bytes

def base64UrlToBytes (value : Text) (expectedLength : Option Nat) :
    Except AuditArchiveCryptoErrorCode (List UInt8) := do
  throwIf (value = [] ∨ value.all isBase64Url = false) .invalidInput
  match base64.decode value with
  | none => throw .invalidInput
  | some bytes => do
    throwIf ((∃ length ∈ expectedLength, bytes.length ≠ length) ∨ bytesToBase64Url bytes ≠ value)
      .invalidInput
    return bytes

def parseKek (value : Text) : Except AuditArchiveCryptoErrorCode (List UInt8) := do
  throwIf (consistsOf isBase64Url 43 43 value = false) .invalidKek
  (base64UrlToBytes value (some AES_256_BYTES)).mapError fun _ => .invalidKek

def validatedKeyVersion (value : Text) : Except AuditArchiveCryptoErrorCode Text := do
  throwIf (isKeyVersion value = false) .invalidInput
  return value

def bytesToHex (bytes : List UInt8) : Text :=
  bytes.flatMap fun byte => [json.hexDigit (byte.toNat / 16), json.hexDigit (byte.toNat % 16)]

/-- `SHA256_HEX_PATTERN`. -/
def isSha256Hex (text : Text) : Bool :=
  consistsOf (fun code => json.isDigit code || code ∈ Text.of "abcdef") 64 64 text

def objectKey (firstSequence lastSequence : Int) (digest : Text) :
    Except AuditArchiveCryptoErrorCode Text := do
  throwIf (isSha256Hex digest = false) .integrityMismatch
  return Text.of "audit/v1/" ++ (json.integer firstSequence).padStart 16 ++ Text.of "-" ++
    (json.integer lastSequence).padStart 16 ++ Text.of "/" ++ digest ++ Text.of ".pgid-audit"

/-- The seal of a batch, from the data key and the nonce that were drawn for it. -/
def sealAuditArchiveV1 (crypto : WebCrypto) (dekBytes : Vector UInt8 AES_256_BYTES)
    (nonceBytes : Vector UInt8 AES_GCM_NONCE_BYTES) (input : AuditArchiveSealInputV1) :
    Except AuditArchiveCryptoErrorCode SealedAuditArchiveV1 := do
  let batchGeneration ← safeInteger input.batchGeneration 1
  let checkpointFromSequence ← safeInteger input.checkpointFromSequence 0
  let createdAt ← canonicalTimestamp input.createdAt
  let keyVersion ← validatedKeyVersion input.keyVersion
  let kekBytes ← parseKek input.kek
  let canonical ← canonicalRecordSet input.records
  match canonical.records.head?, canonical.records.getLast? with
  | some first, some last => do
    let firstSequence := first.sequence
    let lastSequence := last.sequence
    throwIf (firstSequence ≤ checkpointFromSequence) .invalidInput
    let plaintextSha256 := bytesToHex (crypto.digest canonical.bytes)
    let header : ArchiveHeaderV1 :=
      { batchGeneration, checkpointFromSequence, createdAt, eventCount := canonical.records.length,
        firstSequence, keyVersion, lastSequence, plaintextSha256 }
    let aadBytes := headerBytes header
    let wrappedDekBytes := crypto.wrapKey kekBytes dekBytes.toList
    throwIf (wrappedDekBytes.length ≠ AES_KW_WRAPPED_256_BYTES) .integrityMismatch
    let ciphertextBytes := crypto.encrypt dekBytes.toList nonceBytes.toList aadBytes canonical.bytes
    let objectBytes := canonicalEnvelopeBytes (bytesToBase64Url ciphertextBytes) header
      (bytesToBase64Url nonceBytes.toList) (bytesToBase64Url wrappedDekBytes)
    throwIf (AUDIT_ARCHIVE_MAX_OBJECT_BYTES < objectBytes.length) .boundsExceeded
    let objectSha256 := bytesToHex (crypto.digest objectBytes)
    let key ← objectKey firstSequence lastSequence objectSha256
    return {
      manifest :=
        { batchGeneration, checkpointFromSequence, contentType := AUDIT_ARCHIVE_CONTENT_TYPE,
          contract := AUDIT_ARCHIVE_ENVELOPE_CONTRACT, createdAt,
          eventCount := canonical.records.length, firstSequence, keyVersion, lastSequence,
          objectBytes := objectBytes.length, objectKey := key, objectSha256, plaintextSha256,
          schemaVersion := 1 }
      objectBytes }
  | _, _ => throw .invalidInput

end pgid.audit
