import PgidSso.Archive.Envelope
import PgidSso.Archive.RecordSet
import PgidSso.Archive.Selection

open checked

namespace pgid.audit

namespace AuditArchiveSealInputV1

def firstSequence (input : AuditArchiveSealInputV1) : Int :=
  (input.records.head?.map (·.sequence)).getD 0

def lastSequence (input : AuditArchiveSealInputV1) : Int :=
  (input.records.getLast?.map (·.sequence)).getD 0

/-- An input whose parts other than the records are valid. -/
structure Valid (input : AuditArchiveSealInputV1) : Prop where
  batchGeneration : 1 ≤ input.batchGeneration ∧ input.batchGeneration ≤ MAX_SAFE_INTEGER
  checkpointFromSequence :
    0 ≤ input.checkpointFromSequence ∧ input.checkpointFromSequence ≤ MAX_SAFE_INTEGER
  before : input.checkpointFromSequence < input.firstSequence
  createdAt : isCanonicalTimestamp input.createdAt = true
  keyVersion : isKeyVersion input.keyVersion = true
  kek : ∃ bytes, parseKek input.kek = .ok bytes

/-- The header under which the input's records are sealed. -/
def header (input : AuditArchiveSealInputV1) (crypto : WebCrypto) : ArchiveHeaderV1 :=
  { batchGeneration := input.batchGeneration
    checkpointFromSequence := input.checkpointFromSequence
    createdAt := input.createdAt
    eventCount := input.records.length
    firstSequence := input.firstSequence
    keyVersion := input.keyVersion
    lastSequence := input.lastSequence
    plaintextSha256 := bytesToHex (crypto.digest (recordSetText input.records).encode) }

/-- The characters of the numbers and of the key version that the header writes. -/
def fieldBytes (input : AuditArchiveSealInputV1) : Nat :=
  (json.integer input.batchGeneration).length + (json.integer input.checkpointFromSequence).length +
    (json.integer input.records.length).length + (json.integer input.firstSequence).length +
    input.keyVersion.length + (json.integer input.lastSequence).length

/-- Three quarters of what the object limit leaves beside the envelope's own text hold
the plaintext and the tag. -/
def Sealable (input : AuditArchiveSealInputV1) : Prop :=
  4 * (plaintextBytes input.records + 16) ≤
    3 * (AUDIT_ARCHIVE_MAX_OBJECT_BYTES - envelopeOverheadBytes input.fieldBytes)

instance (input : AuditArchiveSealInputV1) : Decidable input.Sealable :=
  inferInstanceAs (Decidable (4 * (plaintextBytes input.records + 16) ≤
    3 * (AUDIT_ARCHIVE_MAX_OBJECT_BYTES - envelopeOverheadBytes input.fieldBytes)))

/-- The seal of the input is an object within its limit. -/
def Sealed (input : AuditArchiveSealInputV1) (crypto : WebCrypto) (dekBytes : Vector UInt8 AES_256_BYTES)
    (nonceBytes : Vector UInt8 AES_GCM_NONCE_BYTES) : Prop :=
  ∃ result, sealAuditArchiveV1 crypto dekBytes nonceBytes input = .ok result ∧
    result.objectBytes.length ≤ AUDIT_ARCHIVE_MAX_OBJECT_BYTES

end AuditArchiveSealInputV1

variable {crypto : WebCrypto} {dekBytes : Vector UInt8 AES_256_BYTES}
  {nonceBytes : Vector UInt8 AES_GCM_NONCE_BYTES} {input : AuditArchiveSealInputV1}

theorem header_canonical (hvalid : input.Valid) : (input.header crypto).Canonical :=
  ⟨hvalid.createdAt, hvalid.keyVersion, _, crypto.digest_length _, rfl⟩

/-- The bytes of the envelope that the seal builds. -/
def sealedObjectBytes (crypto : WebCrypto) (dekBytes : Vector UInt8 AES_256_BYTES)
    (nonceBytes : Vector UInt8 AES_GCM_NONCE_BYTES) (input : AuditArchiveSealInputV1)
    (kekBytes : List UInt8) : List UInt8 :=
  canonicalEnvelopeBytes
    (bytesToBase64Url (crypto.encrypt dekBytes.toList nonceBytes.toList
      (headerBytes (input.header crypto)) (recordSetText input.records).encode))
    (input.header crypto) (bytesToBase64Url nonceBytes.toList)
    (bytesToBase64Url (crypto.wrapKey kekBytes dekBytes.toList))

/-- The archive that the seal returns when the envelope fits. -/
def sealedArchive (crypto : WebCrypto) (dekBytes : Vector UInt8 AES_256_BYTES)
    (nonceBytes : Vector UInt8 AES_GCM_NONCE_BYTES) (input : AuditArchiveSealInputV1)
    (kekBytes : List UInt8) : SealedAuditArchiveV1 :=
  let objectBytes := sealedObjectBytes crypto dekBytes nonceBytes input kekBytes
  let objectSha256 := bytesToHex (crypto.digest objectBytes)
  { manifest :=
      { batchGeneration := input.batchGeneration
        checkpointFromSequence := input.checkpointFromSequence
        contentType := AUDIT_ARCHIVE_CONTENT_TYPE
        contract := AUDIT_ARCHIVE_ENVELOPE_CONTRACT
        createdAt := input.createdAt
        eventCount := input.records.length
        firstSequence := input.firstSequence
        keyVersion := input.keyVersion
        lastSequence := input.lastSequence
        objectBytes := objectBytes.length
        objectKey := Text.of "audit/v1/" ++ (json.integer input.firstSequence).padStart 16 ++
          Text.of "-" ++ (json.integer input.lastSequence).padStart 16 ++ Text.of "/" ++ objectSha256 ++
          Text.of ".pgid-audit"
        objectSha256
        plaintextSha256 := (input.header crypto).plaintextSha256
        schemaVersion := 1 }
    objectBytes }

theorem length_sealedObjectBytes (hvalid : input.Valid) (kekBytes : List UInt8) :
    (sealedObjectBytes crypto dekBytes nonceBytes input kekBytes).length =
      base64.encodedLength (plaintextBytes input.records + 16) + envelopeOverheadBytes input.fieldBytes := by
  have hnonce : nonceBytes.toList.length = AES_GCM_NONCE_BYTES := Vector.length_toList
  have hwrapped : (crypto.wrapKey kekBytes dekBytes.toList).length = AES_KW_WRAPPED_256_BYTES := by
    rw [crypto.wrapKey_length, Vector.length_toList]
    rfl
  rw [sealedObjectBytes, length_canonicalEnvelopeBytes (header_canonical hvalid) hnonce hwrapped,
    crypto.encrypt_length]
  rfl

theorem sealedObjectBytes_bounded_iff (hvalid : input.Valid) (kekBytes : List UInt8) :
    (sealedObjectBytes crypto dekBytes nonceBytes input kekBytes).length ≤ AUDIT_ARCHIVE_MAX_OBJECT_BYTES ↔
      input.Sealable := by
  rw [length_sealedObjectBytes hvalid, AuditArchiveSealInputV1.Sealable, base64.encodedLength]
  omega

/-- With a canonical record set and valid other parts, the size of the object decides. -/
theorem sealAuditArchiveV1_decides (hvalid : input.Valid) {canonical : CanonicalRecordSet}
    (hrecords : canonicalRecordSet input.records = .ok canonical) :
    ∃ kekBytes, sealAuditArchiveV1 crypto dekBytes nonceBytes input =
      if AUDIT_ARCHIVE_MAX_OBJECT_BYTES <
          (sealedObjectBytes crypto dekBytes nonceBytes input kekBytes).length
      then .error .boundsExceeded
      else .ok (sealedArchive crypto dekBytes nonceBytes input kekBytes) := by
  obtain ⟨kekBytes, hkek⟩ := hvalid.kek
  obtain ⟨⟨hnonempty, -⟩, rfl⟩ := canonicalRecordSet_eq_ok_iff.mp hrecords
  have hfirst : input.records.head? = some (input.records.head hnonempty) :=
    List.head?_eq_some_head hnonempty
  have hlast : input.records.getLast? = some (input.records.getLast hnonempty) :=
    List.getLast?_eq_some_getLast hnonempty
  have hfirstSequence : (input.records.head hnonempty).sequence = input.firstSequence := by
    rw [AuditArchiveSealInputV1.firstSequence, hfirst]
    rfl
  have hlastSequence : (input.records.getLast hnonempty).sequence = input.lastSequence := by
    rw [AuditArchiveSealInputV1.lastSequence, hlast]
    rfl
  have hgeneration : safeInteger input.batchGeneration 1 = .ok input.batchGeneration :=
    safeInteger_eq_ok_iff.mpr ⟨rfl, Int.le_trans (by decide) hvalid.batchGeneration.1,
      hvalid.batchGeneration.2, hvalid.batchGeneration.1⟩
  have hcheckpoint : safeInteger input.checkpointFromSequence 0 = .ok input.checkpointFromSequence :=
    safeInteger_eq_ok_iff.mpr ⟨rfl, Int.le_trans (by decide) hvalid.checkpointFromSequence.1,
      hvalid.checkpointFromSequence.2, hvalid.checkpointFromSequence.1⟩
  have hcreatedAt : canonicalTimestamp input.createdAt = .ok input.createdAt :=
    throwIf_bind_of_not (by simp [hvalid.createdAt])
  have hkeyVersion : validatedKeyVersion input.keyVersion = .ok input.keyVersion :=
    throwIf_bind_of_not (by simp [hvalid.keyVersion])
  have hbefore : ¬ input.firstSequence ≤ input.checkpointFromSequence :=
    Int.not_le.mpr hvalid.before
  have hwrapped : ¬ (crypto.wrapKey kekBytes dekBytes.toList).length ≠ AES_KW_WRAPPED_256_BYTES := by
    rw [crypto.wrapKey_length, Vector.length_toList]
    decide
  have hdigest : ∀ data, ¬ isSha256Hex (bytesToHex (crypto.digest data)) = false := by
    intro data
    rw [isSha256Hex_digest]
    decide
  refine ⟨kekBytes, ?_⟩
  rw [sealAuditArchiveV1]
  simp only [hgeneration, hcheckpoint, hcreatedAt, hkeyVersion, hkek, hrecords, ok_bind, hfirst, hlast,
    hfirstSequence, hlastSequence, throwIf_bind_of_not hbefore, throwIf_bind_of_not hwrapped]
  by_cases hsize : AUDIT_ARCHIVE_MAX_OBJECT_BYTES <
      (sealedObjectBytes crypto dekBytes nonceBytes input kekBytes).length
  · rw [if_pos hsize]
    exact throwIf_bind_of hsize
  · rw [if_neg hsize]
    refine (throwIf_bind_of_not hsize).trans ?_
    rw [objectKey, throwIf_bind_of_not (hdigest _)]
    rfl

/-- A canonical record set under valid other parts is sealed within the object limit
exactly when it leaves room for the tag, the expansion and the header; otherwise the seal
fails. -/
theorem sealAuditArchiveV1_sealed_iff (hvalid : input.Valid) {canonical : CanonicalRecordSet}
    (hrecords : canonicalRecordSet input.records = .ok canonical) :
    (input.Sealed crypto dekBytes nonceBytes ↔ input.Sealable) ∧
      (sealAuditArchiveV1 crypto dekBytes nonceBytes input = .error .boundsExceeded ↔ ¬ input.Sealable) := by
  obtain ⟨kekBytes, hseal⟩ := @sealAuditArchiveV1_decides crypto dekBytes nonceBytes _ hvalid _ hrecords
  have hsize := @sealedObjectBytes_bounded_iff crypto dekBytes nonceBytes _ hvalid kekBytes
  rw [AuditArchiveSealInputV1.Sealed, hseal, ← hsize]
  split
  · rename_i hexceeds
    simp [Nat.not_le.mpr hexceeds]
  · rename_i hfits
    simp [sealedArchive, Nat.not_lt.mp hfits]

/-- A short record with an empty metadata object. -/
def singleRecord : AuditArchiveRecordV1 :=
  { actorRef := none
    actorRefHashVersion := none
    actorUserId := none
    clientId := none
    eventId := Text.of "event-1"
    eventType := Text.of "passkey.step_up_succeeded"
    ipHash := none
    metadataJson := some (Text.of "\x7b\x7d")
    occurredAt := Text.of "2026-07-17T00:00:00.000Z"
    outcome := .success
    sequence := 1
    sessionId := none
    subjectId := none
    userAgentHash := none }

/-- The seal of that record under a key of zeros. -/
def singleInput : AuditArchiveSealInputV1 :=
  { batchGeneration := 1
    checkpointFromSequence := 0
    createdAt := Text.of "2026-07-17T00:00:00.000Z"
    kek := List.replicate 43 (Text.unit 'A')
    keyVersion := Text.of "v1"
    records := [singleRecord] }

set_option maxRecDepth 20000 in
theorem singleInput_valid : singleInput.Valid where
  batchGeneration := by decide
  checkpointFromSequence := by decide
  before := by decide
  createdAt := by decide
  keyVersion := by decide
  kek := ⟨(parseKek singleInput.kek).toOption.get (by decide), eq_ok_get _⟩

theorem canonicalRecordSet_single : canonicalRecordSet singleInput.records =
    .ok ((canonicalRecordSet singleInput.records).toOption.get (by set_option maxRecDepth 20000 in decide)) :=
  eq_ok_get _

/-- The seal of a canonical record set, and so of every nonempty selection, stays within
the object limit exactly when it is sealable; otherwise it fails. -/
theorem auditArchive_sealed_iff (hvalid : input.Valid)
    (haccepted : (∃ canonical, canonicalRecordSet input.records = .ok canonical) ∨
      ∃ checkpointRow sourceRows selection,
        selectAuditArchiveSource checkpointRow sourceRows = .ok selection ∧ selection.records ≠ [] ∧
          input.records = selection.records) :
    (input.Sealed crypto dekBytes nonceBytes ↔ input.Sealable) ∧
      (sealAuditArchiveV1 crypto dekBytes nonceBytes input = .error .boundsExceeded ↔ ¬ input.Sealable) := by
  rcases haccepted with ⟨canonical, hrecords⟩ | ⟨checkpointRow, sourceRows, selection, hselect, hnonempty, heq⟩
  · exact sealAuditArchiveV1_sealed_iff hvalid hrecords
  · obtain ⟨canonical, hrecords⟩ := selectAuditArchiveSource_canonical hselect hnonempty
    rw [← heq] at hrecords
    exact sealAuditArchiveV1_sealed_iff hvalid hrecords

/-- One record with an empty metadata object, under the first checkpoint. -/
theorem auditArchive_sealed_iff_single :
    (singleInput.Sealed WebCrypto.zeros (Vector.replicate _ 0) (Vector.replicate _ 0) ↔
        singleInput.Sealable) ∧
      (sealAuditArchiveV1 WebCrypto.zeros (Vector.replicate _ 0) (Vector.replicate _ 0) singleInput =
        .error .boundsExceeded ↔ ¬ singleInput.Sealable) :=
  auditArchive_sealed_iff singleInput_valid (.inl ⟨_, canonicalRecordSet_single⟩)

section boundary

/-- An empty metadata object with so many blanks between its braces. -/
def paddedMetadata (padding : Nat) : Text :=
  Text.of "\x7b" ++ List.replicate padding (Text.unit ' ') ++ Text.of "\x7d"

/-- A record with little but its metadata. -/
def paddedRecord (padding index : Nat) : AuditArchiveRecordV1 :=
  { actorRef := none
    actorRefHashVersion := none
    actorUserId := none
    clientId := none
    eventId := Text.decimal index
    eventType := Text.of "a"
    ipHash := none
    metadataJson := some (paddedMetadata padding)
    occurredAt := Text.of "2026-07-17T00:00:00.000Z"
    outcome := .success
    sequence := index
    sessionId := none
    subjectId := none
    userAgentHash := none }

def BOUNDARY_PADDING : Nat := 16107

/-- Records 10 to 33, whose plaintext ends six bytes below its limit. -/
def boundaryRecords : List AuditArchiveRecordV1 :=
  (List.range' 10 24).map (paddedRecord BOUNDARY_PADDING)

/-- The seal of the boundary records under a key of zeros. -/
def boundaryInput : AuditArchiveSealInputV1 :=
  { batchGeneration := 1
    checkpointFromSequence := 0
    createdAt := Text.of "2026-07-17T00:00:00.000Z"
    kek := List.replicate 43 (Text.unit 'A')
    keyVersion := Text.of "v1"
    records := boundaryRecords }

theorem paddedMetadata_plain (padding : Nat) : json.Plain (paddedMetadata padding) := by
  rw [paddedMetadata, json.plain_append, json.plain_append]
  exact ⟨⟨by decide, json.plain_replicate (by decide)⟩, by decide⟩

theorem length_paddedMetadata (padding : Nat) : (paddedMetadata padding).length = padding + 2 := by
  have hbraces : (Text.of "\x7b").length = 1 ∧ (Text.of "\x7d").length = 1 := by decide
  rw [paddedMetadata, List.length_append, List.length_append, List.length_replicate]
  omega

theorem parse_paddedMetadata (padding : Nat) :
    json.parse (paddedMetadata padding) = some (.object []) := by
  have hskip : json.skipWhitespace (List.replicate padding (Text.unit ' ') ++ Text.of "\x7d") =
      Text.of "\x7d" := by
    rw [json.skipWhitespace, List.dropWhile_append_of_pos]
    · rfl
    · intro code hmem
      rw [List.eq_of_mem_replicate hmem]
      rfl
  have hopen : paddedMetadata padding =
      Text.unit '\x7b' :: (List.replicate padding (Text.unit ' ') ++ Text.of "\x7d") := by
    rw [paddedMetadata, List.append_assoc]
    rfl
  have hstart : json.skipWhitespace (paddedMetadata padding) = paddedMetadata padding := by
    rw [hopen]
    rfl
  have hvalue : ∀ fuel, json.parseValue (fuel + 1) (paddedMetadata padding) = some (.object [], []) := by
    intro fuel
    rw [hopen, json.parseValue]
    simp only [hskip]
    rfl
  rw [json.parse, hstart, hvalue]
  rfl

theorem validateMetadataJson_padded {padding : Nat} (hpadding : padding ≤ 16382) :
    validateMetadataJson (paddedMetadata padding) = .ok (paddedMetadata padding) := by
  have hsize : ¬ AUDIT_ARCHIVE_MAX_METADATA_BYTES < (paddedMetadata padding).encode.length := by
    rw [Text.length_encode_of_ascii (paddedMetadata_plain padding).ascii, length_paddedMetadata]
    exact Nat.not_lt.mpr (by simp only [AUDIT_ARCHIVE_MAX_METADATA_BYTES]; omega)
  rw [validateMetadataJson, throwIf_bind_of_not hsize, parse_paddedMetadata]
  rfl

/-- The indices of the boundary records are safe identifiers of two characters. -/
theorem boundary_decimal : ∀ index ∈ List.range' 10 24,
    isSafeIdentifier (Text.decimal index) = true ∧
      containsCredentialMaterial (Text.decimal index) = false ∧ json.Plain (Text.decimal index) ∧
      (Text.decimal index).length = 2 := by
  set_option maxRecDepth 20000 in decide

theorem validatedRecord_boundary {record : AuditArchiveRecordV1} (hmem : record ∈ boundaryRecords) :
    validatedRecord record = .ok record := by
  obtain ⟨index, hindex, rfl⟩ := List.mem_map.mp hmem
  obtain ⟨hsafe, hclean, -, -⟩ := boundary_decimal index hindex
  have heventType : ¬ (128 < (Text.of "a").length ∨ isEventType (Text.of "a") = false ∨
      containsCredentialMaterial (Text.of "a") = true) := by decide
  have hidentifier : safeIdentifier (Text.decimal index) = .ok (Text.decimal index) :=
    throwIf_bind_of_not (by simp [hsafe, hclean])
  have hoccurredAt : canonicalTimestamp (Text.of "2026-07-17T00:00:00.000Z") =
      .ok (Text.of "2026-07-17T00:00:00.000Z") :=
    throwIf_bind_of_not (by set_option maxRecDepth 20000 in decide)
  have hpadding : BOUNDARY_PADDING ≤ 16382 := by decide
  have hbounds := List.mem_range'_1.mp hindex
  have hsequence : safeInteger (index : Int) 1 = .ok (index : Int) :=
    safeInteger_eq_ok_iff.mpr ⟨rfl, by simp only [MAX_SAFE_INTEGER]; omega⟩
  refine validatedRecord_eq_ok heventType rfl rfl rfl ?_ hidentifier ?_ ?_ hoccurredAt hsequence
  · simp [paddedRecord]
  · simp [paddedRecord]
  · exact nullable_some_eq_ok_iff.mpr ⟨_, validateMetadataJson_padded hpadding, rfl⟩

set_option maxRecDepth 20000 in
/-- The text of such a record: each field but the metadata is short. -/
theorem length_text_padded (padding : Nat) {index : Nat} (hindex : index ∈ List.range' 10 24) :
    (paddedRecord padding index).text.length = padding + 273 := by
  obtain ⟨-, -, hplain, hlength⟩ := boundary_decimal index hindex
  have hkeys : ∀ key ∈ ["actorRef", "actorRefHashVersion", "actorUserId", "clientId", "eventId", "eventType",
      "ipHash", "metadataJson", "occurredAt", "outcome", "sequence", "sessionId", "subjectId",
      "userAgentHash"], json.Plain (Text.of key) := by decide
  have hnull : (Text.of "null").length = 4 := by decide
  have heventType : (json.string (Text.of "a")).length = 3 := by decide
  have hoccurredAt : (json.string (Text.of "2026-07-17T00:00:00.000Z")).length = 26 := by decide
  have houtcome : (json.string AuditArchiveOutcome.success.text).length = 9 := by decide
  have hsequence : (json.integer (index : Int)).length = 2 := hlength
  have hlengths : ["actorRef", "actorRefHashVersion", "actorUserId", "clientId", "eventId", "eventType",
      "ipHash", "metadataJson", "occurredAt", "outcome", "sequence", "sessionId", "subjectId",
      "userAgentHash"].map (fun key => (Text.of key).length) =
      [8, 19, 11, 8, 7, 9, 6, 12, 10, 7, 8, 9, 9, 13] := by decide
  simp only [List.map_cons, List.map_nil, List.cons.injEq, and_true] at hlengths
  rw [paddedRecord, AuditArchiveRecordV1.text, json.length_object]
  · simp only [List.map_cons, List.map_nil, json.separatedLength, json.nullable, hnull, heventType,
      hoccurredAt, houtcome, hsequence, json.length_string_of_plain hplain, hlength,
      json.length_string_of_plain (paddedMetadata_plain _), length_paddedMetadata, hlengths]
    omega
  · simpa using hkeys

theorem text_ascii_padded (padding : Nat) {index : Nat} (hindex : index ∈ List.range' 10 24) :
    (paddedRecord padding index).text.Ascii := by
  obtain ⟨-, -, hplain, -⟩ := boundary_decimal index hindex
  apply json.object_ascii
  simp only [paddedRecord, json.nullable, List.forall_mem_cons, List.not_mem_nil, false_imp_iff,
    implies_true, and_true, json.integer_ascii, json.string_ascii_of_plain hplain,
    json.string_ascii_of_plain (paddedMetadata_plain _)]
  set_option maxRecDepth 20000 in decide

theorem recordBytes_boundary {record : AuditArchiveRecordV1} (hmem : record ∈ boundaryRecords) :
    recordBytes record = 16380 := by
  obtain ⟨index, hindex, rfl⟩ := List.mem_map.mp hmem
  rw [recordBytes, Text.length_encode_of_ascii (text_ascii_padded _ hindex), length_text_padded _ hindex]
  rfl

set_option maxRecDepth 20000 in
theorem plaintextBytes_boundary : plaintextBytes boundaryRecords = 393210 := by
  have htexts : (boundaryRecords.map AuditArchiveRecordV1.text).map List.length = List.replicate 24 16380 := by
    rw [boundaryRecords, List.map_map, List.map_map, List.eq_replicate_iff]
    refine ⟨rfl, ?_⟩
    intro length hmem
    obtain ⟨index, hindex, rfl⟩ := List.mem_map.mp hmem
    exact length_text_padded _ hindex
  have hrecords : (json.array (boundaryRecords.map AuditArchiveRecordV1.text)).Ascii := by
    rw [json.array, Text.ascii_append, Text.ascii_append]
    refine ⟨⟨by decide, json.commaSeparated_ascii ?_⟩, by decide⟩
    intro text hmem
    obtain ⟨record, hrecord, rfl⟩ := List.mem_map.mp hmem
    obtain ⟨index, hindex, rfl⟩ := List.mem_map.mp hrecord
    exact text_ascii_padded _ hindex
  have hkeys : ∀ key ∈ ["contract", "records", "schemaVersion"], json.Plain (Text.of key) := by
    decide
  have hascii : (recordSetText boundaryRecords).Ascii := by
    apply json.object_ascii
    simp only [List.forall_mem_cons, List.not_mem_nil, false_imp_iff, implies_true, and_true, hrecords]
    decide
  have hcontract : (json.string AUDIT_ARCHIVE_RECORDS_CONTRACT).length = 23 := by decide
  have hversion : (json.integer 1).length = 1 := by decide
  have hlengths : (Text.of "contract").length = 8 ∧ (Text.of "records").length = 7 ∧
      (Text.of "schemaVersion").length = 13 := by decide
  rw [plaintextBytes, Text.length_encode_of_ascii hascii, recordSetText, json.length_object]
  · simp only [List.map_cons, List.map_nil, json.separatedLength, json.length_array, htexts, hcontract,
      hversion, hlengths]
    rfl
  · simpa using hkeys

theorem boundaryRecords_checked : CheckedRecordSet 0 [] 0 boundaryRecords := by
  have hrange : ∀ index ∈ List.range' 10 24, 10 ≤ index := fun index hmem => (List.mem_range'_1.mp hmem).1
  refine ⟨?_, ?_, fun record _ => List.not_mem_nil, ?_, ?_, ?_⟩
  · intro record hmem
    obtain ⟨index, hindex, rfl⟩ := List.mem_map.mp hmem
    have hlow := hrange index hindex
    simp only [paddedRecord]
    omega
  · rw [boundaryRecords, List.pairwise_map]
    refine (List.pairwise_lt_range' 1).imp ?_
    intro left right hlt
    simpa [paddedRecord] using hlt
  · rw [boundaryRecords, List.pairwise_map]
    simp only [paddedRecord]
    set_option maxRecDepth 20000 in decide
  · intro record hmem
    rw [recordBytes_boundary hmem]
    decide
  · have hsizes : boundaryRecords.map recordBytes = List.replicate 24 16380 := by
      rw [List.eq_replicate_iff, List.length_map, boundaryRecords, List.length_map, List.length_range']
      refine ⟨rfl, ?_⟩
      intro size hmem
      obtain ⟨record, hrecord, rfl⟩ := List.mem_map.mp hmem
      exact recordBytes_boundary hrecord
    rw [hsizes]
    decide

theorem canonicalRecordSet_boundary : canonicalRecordSet boundaryRecords =
    .ok { bytes := (recordSetText boundaryRecords).encode, records := boundaryRecords } := by
  refine canonicalRecordSet_eq_ok_iff.mpr ⟨⟨?_, ?_, ?_, boundaryRecords_checked, ?_⟩, rfl⟩
  · simp [boundaryRecords]
  · simp [boundaryRecords, AUDIT_ARCHIVE_MAX_RECORDS]
  · exact fun record hmem => validatedRecord_boundary hmem
  · rw [plaintextBytes_boundary]
    decide

set_option maxRecDepth 20000 in
theorem boundaryInput_valid : boundaryInput.Valid where
  batchGeneration := by decide
  checkpointFromSequence := by decide
  before := by decide
  createdAt := by decide
  keyVersion := by decide
  kek := ⟨(parseKek boundaryInput.kek).toOption.get (by decide), eq_ok_get _⟩

theorem boundaryInput_not_sealable : ¬ boundaryInput.Sealable := by
  have hfields : boundaryInput.fieldBytes = 10 := by set_option maxRecDepth 20000 in decide
  have hbytes : plaintextBytes boundaryInput.records = 393210 := plaintextBytes_boundary
  rw [AuditArchiveSealInputV1.Sealable, hbytes, hfields]
  decide

/-- The boundary records are accepted and their input is valid, yet no key and no nonce
seal them: the envelope exceeds the object limit. -/
theorem sealAuditArchiveV1_boundary_exceeds :
    ¬ ∀ (crypto : WebCrypto) (dekBytes : Vector UInt8 AES_256_BYTES)
      (nonceBytes : Vector UInt8 AES_GCM_NONCE_BYTES) (input : AuditArchiveSealInputV1),
      input.Valid → (∃ canonical, canonicalRecordSet input.records = .ok canonical) →
        input.Sealed crypto dekBytes nonceBytes ∧
          sealAuditArchiveV1 crypto dekBytes nonceBytes input ≠ .error .boundsExceeded := by
  intro hall
  obtain ⟨hsealed, -⟩ := hall WebCrypto.zeros (Vector.replicate _ 0) (Vector.replicate _ 0) boundaryInput
    boundaryInput_valid ⟨_, canonicalRecordSet_boundary⟩
  exact boundaryInput_not_sealable
    ((sealAuditArchiveV1_sealed_iff boundaryInput_valid canonicalRecordSet_boundary).1.mp hsealed)

end boundary

end pgid.audit
