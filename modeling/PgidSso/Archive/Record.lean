import PgidSso.Library.Base64
import PgidSso.Library.Checked
import PgidSso.Library.Json

open checked

namespace pgid.audit

def AUDIT_ARCHIVE_ENVELOPE_CONTRACT : Text := Text.of "pgid-audit-archive-v1"
def AUDIT_ARCHIVE_RECORDS_CONTRACT : Text := Text.of "pgid-audit-records-v1"
def AUDIT_ARCHIVE_MAX_RECORDS : Nat := 100
def AUDIT_ARCHIVE_MAX_RECORD_BYTES : Nat := 64 * 1024
def AUDIT_ARCHIVE_MAX_OBJECT_BYTES : Nat := 512 * 1024
def AUDIT_ARCHIVE_MAX_PLAINTEXT_BYTES : Nat := 384 * 1024
def AUDIT_ARCHIVE_MAX_METADATA_BYTES : Nat := 16 * 1024
def MAX_SAFE_INTEGER : Int := 9007199254740991

inductive AuditArchiveCryptoErrorCode where
  | boundsExceeded
  | decryptionFailed
  | encryptionFailed
  | integrityMismatch
  | invalidInput
  | invalidKek
  deriving DecidableEq

inductive AuditArchiveOutcome where
  | success
  | denied
  | failure
  deriving DecidableEq

def AuditArchiveOutcome.text : AuditArchiveOutcome → Text
  | .success => Text.of "success"
  | .denied => Text.of "denied"
  | .failure => Text.of "failure"

/-- A record of the archive. -/
structure AuditArchiveRecordV1 where
  actorRef : Option Text
  actorRefHashVersion : Option Int
  actorUserId : Option Text
  clientId : Option Text
  eventId : Text
  eventType : Text
  ipHash : Option Text
  metadataJson : Option Text
  occurredAt : Text
  outcome : AuditArchiveOutcome
  sequence : Int
  sessionId : Option Text
  subjectId : Option Text
  userAgentHash : Option Text
  deriving DecidableEq

section characters

def isUpper (code : UInt16) : Bool :=
  Text.unit 'A' ≤ code ∧ code ≤ Text.unit 'Z'

def isLower (code : UInt16) : Bool :=
  Text.unit 'a' ≤ code ∧ code ≤ Text.unit 'z'

def isAlphanumeric (code : UInt16) : Bool :=
  isUpper code || isLower code || json.isDigit code

/-- `[A-Za-z0-9_-]`. -/
def isBase64Url (code : UInt16) : Bool :=
  isAlphanumeric code || code ∈ Text.of "_-"

/-- `/^[class]{low,high}$/`. -/
def consistsOf (characters : UInt16 → Bool) (low high : Nat) (text : Text) : Bool :=
  text.all characters && low ≤ text.length && text.length ≤ high

/-- The text begins with a run of one or more characters of the class, after which the
test holds. -/
def afterRun (characters : UInt16 → Bool) (test : Text → Bool) : Text → Bool
  | [] => false
  | code :: rest => characters code && (test rest || afterRun characters test rest)

end characters

/-- `SAFE_IDENTIFIER_PATTERN`. -/
def isSafeIdentifier (text : Text) : Bool :=
  consistsOf (fun code => isAlphanumeric code || code ∈ Text.of "._:-") 1 256 text

/-- The rest of an event type after a character of a word (`true`) or of a separator. -/
def eventTypeRest : Bool → Text → Bool
  | inWord, [] => inWord
  | inWord, code :: rest =>
    if isLower code || json.isDigit code then eventTypeRest true rest
    else inWord && code ∈ Text.of "._-" && eventTypeRest false rest

/-- `EVENT_TYPE_PATTERN`. -/
def isEventType (text : Text) : Bool :=
  eventTypeRest false text

/-- `HASH_PATTERN`. -/
def isHash (text : Text) : Bool :=
  consistsOf isBase64Url 16 128 text

/-- `CANONICAL_SHA256_REFERENCE_PATTERN`. -/
def isCanonicalSha256Reference (text : Text) : Bool :=
  consistsOf isBase64Url 43 43 text && text.getLastD 0 ∈ Text.of "AEIMQUYcgkosw048"

/-- `KEY_VERSION_PATTERN`. -/
def isKeyVersion (text : Text) : Bool :=
  match text with
  | letter :: first :: rest =>
    letter = Text.unit 'v' && json.isDigit first && first ≠ Text.unit '0' &&
      consistsOf json.isDigit 0 5 rest
  | _ => false

def FORBIDDEN_CREDENTIAL_MARKERS : List Text :=
  [Text.of "pg72_at_", Text.of "pg72_rt_", Text.of "pg72_cs_", Text.of "PGIDR1"]

def containsCredentialMaterial (value : Text) : Bool :=
  FORBIDDEN_CREDENTIAL_MARKERS.any value.includes

/-- The number that some digits of the text write. -/
def number? (text : Text) : Option Nat :=
  if text.all json.isDigit then some (json.digitsValue text) else none

def isLeapYear (year : Nat) : Bool :=
  year % 4 = 0 && (year % 100 ≠ 0 || year % 400 = 0)

def daysInMonth (year month : Nat) : Nat :=
  if month = 2 then if isLeapYear year then 29 else 28
  else if month ∈ [4, 6, 9, 11] then 30 else 31

/-- A text that `ISO_TIMESTAMP_PATTERN` takes and `Date` writes back unchanged. -/
def isCanonicalTimestamp (text : Text) : Bool :=
  let part := fun start size => (text.drop start).take size
  text.length = 24 && part 4 1 = Text.of "-" && part 7 1 = Text.of "-" && part 10 1 = Text.of "T" &&
    part 13 1 = Text.of ":" && part 16 1 = Text.of ":" && part 19 1 = Text.of "." &&
    part 23 1 = Text.of "Z" &&
    match number? (part 0 4), number? (part 5 2), number? (part 8 2), number? (part 11 2),
      number? (part 14 2), number? (part 17 2), number? (part 20 3) with
    | some year, some month, some day, some hour, some minute, some second, some _ =>
      1 ≤ month && month ≤ 12 && 1 ≤ day && day ≤ daysInMonth year month && hour ≤ 23 &&
        minute ≤ 59 && second ≤ 59
    | _, _, _, _, _, _, _ => false

def canonicalTimestamp (value : Text) : Except AuditArchiveCryptoErrorCode Text := do
  throwIf (isCanonicalTimestamp value = false) .invalidInput
  return value

/-- `Number.isSafeInteger(value) && value >= minimum`. -/
def safeInteger (value minimum : Int) : Except AuditArchiveCryptoErrorCode Int := do
  throwIf (value < -MAX_SAFE_INTEGER ∨ MAX_SAFE_INTEGER < value ∨ value < minimum) .invalidInput
  return value

def safeIdentifier (value : Text) : Except AuditArchiveCryptoErrorCode Text := do
  throwIf (isSafeIdentifier value = false ∨ containsCredentialMaterial value = true) .invalidInput
  return value

def safeHash (value : Text) : Except AuditArchiveCryptoErrorCode Text := do
  throwIf (isHash value = false ∨ containsCredentialMaterial value = true) .invalidInput
  return value

def safeActorRef (value : Text) : Except AuditArchiveCryptoErrorCode Text := do
  throwIf (isCanonicalSha256Reference value = false) .invalidInput
  return value

def safeActorRefHashVersion (value : Int) : Except AuditArchiveCryptoErrorCode Int := do
  throwIf (value ≠ 1) .invalidInput
  return value

/-- `(?:\d{1,3}\.){3}\d{1,3}(?:\D|$)` at the head of the text; `more` numbers with a dot
are still to come. -/
def dottedNumbers : Nat → Text → Bool
  | more, text =>
    [1, 2, 3].any fun size =>
      (text.take size).length = size && (text.take size).all json.isDigit &&
        match more, text.drop size with
        | 0, [] => true
        | 0, next :: _ => !json.isDigit next
        | _ + 1, [] => false
        | more + 1, next :: rest => next = Text.unit '.' && dottedNumbers more rest

/-- `/(?:^|\D)(?:\d{1,3}\.){3}\d{1,3}(?:\D|$)/`. -/
def containsAddress (text : Text) : Bool :=
  dottedNumbers 3 text || text.tails.any fun
    | [] => false
    | before :: rest => !json.isDigit before && dottedNumbers 3 rest

/-- `/eyJ[A-Za-z0-9_-]+\.[A-Za-z0-9_-]+\.[A-Za-z0-9_-]+/`. -/
def containsToken (text : Text) : Bool :=
  let dot := fun (next : Text → Bool) (text : Text) =>
    text.head? = some (Text.unit '.') && next (text.drop 1)
  text.tails.any fun tail =>
    (Text.of "eyJ").isPrefixOf tail &&
      afterRun isBase64Url (dot (afterRun isBase64Url (dot (afterRun isBase64Url fun _ => true))))
        (tail.drop 3)

/-- `/-----BEGIN [A-Z0-9 ]*PRIVATE KEY-----/`. -/
def containsPrivateKey (text : Text) : Bool :=
  let header := fun code => isUpper code || json.isDigit code || code = Text.unit ' '
  text.tails.any fun tail =>
    (Text.of "-----BEGIN ").isPrefixOf tail &&
      ((Text.of "PRIVATE KEY-----").isPrefixOf (tail.drop 11) ||
        afterRun header (Text.of "PRIVATE KEY-----").isPrefixOf (tail.drop 11))

def safeRedactedText (value : Text) : Bool :=
  value.length ≤ 256 && value.all (fun code => 0x20 ≤ code && code ≠ 0x7F) &&
    Text.unit '@' ∉ value && !value.includes (Text.of "://") && !containsCredentialMaterial value &&
    !containsAddress value && !containsToken value && !containsPrivateKey value

/-- `/^(\d{1,3})\.(\d{1,3})\.x\.x$/` with both numbers at most 255. -/
def isMaskedV4 (value : Text) : Bool :=
  let octet := fun (text : Text) => consistsOf json.isDigit 1 3 text && json.digitsValue text ≤ 255
  let first := value.takeWhile json.isDigit
  let rest := value.drop (first.length + 1)
  let second := rest.takeWhile json.isDigit
  octet first && octet second && value = first ++ Text.of "." ++ second ++ Text.of ".x.x"

def isCurrentMaskedIpPrefix (value : Text) : Bool :=
  value = Text.of "local" || isMaskedV4 value ||
    (consistsOf (fun code => (json.hexValue? code).isSome) 1 4 (value.take (value.length - 2)) &&
      value.drop (value.length - 2) = Text.of "::")

/-- The check of one member of the metadata. -/
def metadataMember (member : Text × json.Value) : Except AuditArchiveCryptoErrorCode Unit := do
  let (key, child) := member
  let firstLetter := key.head?.any fun code => isUpper code || isLower code
  let characters := fun code => isAlphanumeric code || code = Text.unit '_'
  throwIf (firstLetter = false ∨ consistsOf characters 1 64 key = false ∨
    containsCredentialMaterial key = true) .invalidInput
  if key = Text.of "ipPrefix" then
    match child with
    | .string value => throwIf (isCurrentMaskedIpPrefix value = false) .invalidInput
    | _ => throw .invalidInput
  else
    match child with
    | .string value => throwIf (safeRedactedText value = false) .invalidInput
    | .number literal => throwIf (literal.isSafeInteger = false) .invalidInput
    | .bool _ => pure ()
    | _ => throw .invalidInput

def validateMetadataJson (value : Text) : Except AuditArchiveCryptoErrorCode Text := do
  throwIf (AUDIT_ARCHIVE_MAX_METADATA_BYTES < value.encode.length) .boundsExceeded
  match json.parse value with
  | some (.object metadata) => do
    throwIf (32 < metadata.length) .invalidInput
    metadata.forM metadataMember
    return value
  | _ => throw .invalidInput

def validatedRecord (record : AuditArchiveRecordV1) :
    Except AuditArchiveCryptoErrorCode AuditArchiveRecordV1 := do
  throwIf (128 < record.eventType.length ∨ isEventType record.eventType = false ∨
    containsCredentialMaterial record.eventType = true) .invalidInput
  let actorRef ← nullable safeActorRef record.actorRef
  let actorRefHashVersion ← nullable safeActorRefHashVersion record.actorRefHashVersion
  throwIf (actorRef.isNone ≠ actorRefHashVersion.isNone) .invalidInput
  let actorUserId ← nullable safeIdentifier record.actorUserId
  let clientId ← nullable safeIdentifier record.clientId
  let eventId ← safeIdentifier record.eventId
  let ipHash ← nullable safeHash record.ipHash
  let metadataJson ← nullable validateMetadataJson record.metadataJson
  let occurredAt ← canonicalTimestamp record.occurredAt
  let sequence ← safeInteger record.sequence 1
  let sessionId ← nullable safeIdentifier record.sessionId
  let subjectId ← nullable safeIdentifier record.subjectId
  let userAgentHash ← nullable safeHash record.userAgentHash
  return { actorRef, actorRefHashVersion, actorUserId, clientId, eventId,
           eventType := record.eventType, ipHash, metadataJson, occurredAt,
           outcome := record.outcome, sequence, sessionId, subjectId, userAgentHash }

/-- `JSON.stringify(record)`. -/
def AuditArchiveRecordV1.text (record : AuditArchiveRecordV1) : Text :=
  json.object
    [("actorRef", json.nullable json.string record.actorRef),
      ("actorRefHashVersion", json.nullable json.integer record.actorRefHashVersion),
      ("actorUserId", json.nullable json.string record.actorUserId),
      ("clientId", json.nullable json.string record.clientId),
      ("eventId", json.string record.eventId),
      ("eventType", json.string record.eventType),
      ("ipHash", json.nullable json.string record.ipHash),
      ("metadataJson", json.nullable json.string record.metadataJson),
      ("occurredAt", json.string record.occurredAt),
      ("outcome", json.string record.outcome.text),
      ("sequence", json.integer record.sequence),
      ("sessionId", json.nullable json.string record.sessionId),
      ("subjectId", json.nullable json.string record.subjectId),
      ("userAgentHash", json.nullable json.string record.userAgentHash)]

/-- `JSON.stringify({ contract, records, schemaVersion })`. -/
def recordSetText (records : List AuditArchiveRecordV1) : Text :=
  json.object
    [("contract", json.string AUDIT_ARCHIVE_RECORDS_CONTRACT),
      ("records", json.array (records.map AuditArchiveRecordV1.text)),
      ("schemaVersion", json.integer 1)]

structure CanonicalRecordSet where
  bytes : List UInt8
  records : List AuditArchiveRecordV1

/-- The loop over the records: the sequences rise, no event is twice there and the
bytes stay within the limits. -/
def checkRecordSet (previousSequence : Int) (eventIds : List Text) (cumulativeBytes : Nat) :
    List AuditArchiveRecordV1 → Except AuditArchiveCryptoErrorCode Unit
  | [] => pure ()
  | record :: records => do
    throwIf (record.sequence ≤ previousSequence ∨ record.eventId ∈ eventIds) .invalidInput
    let recordBytes := record.text.encode.length
    throwIf (AUDIT_ARCHIVE_MAX_RECORD_BYTES < recordBytes) .boundsExceeded
    throwIf (AUDIT_ARCHIVE_MAX_PLAINTEXT_BYTES < cumulativeBytes + recordBytes) .boundsExceeded
    checkRecordSet record.sequence (record.eventId :: eventIds) (cumulativeBytes + recordBytes) records

def canonicalRecordSet (value : List AuditArchiveRecordV1) :
    Except AuditArchiveCryptoErrorCode CanonicalRecordSet := do
  throwIf (value = []) .invalidInput
  throwIf (AUDIT_ARCHIVE_MAX_RECORDS < value.length) .boundsExceeded
  let records ← value.mapM validatedRecord
  checkRecordSet 0 [] 0 records
  let bytes := (recordSetText records).encode
  throwIf (AUDIT_ARCHIVE_MAX_PLAINTEXT_BYTES < bytes.length) .boundsExceeded
  return { bytes, records }

end pgid.audit
