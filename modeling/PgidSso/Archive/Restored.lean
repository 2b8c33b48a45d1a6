import PgidSso.Archive.Agreement
import PgidSso.Archive.Claimed
import PgidSso.Archive.Envelope
import PgidSso.Archive.StoredObject
import PgidSso.Library.Sha256

open checked

namespace pgid.audit

namespace restore

structure AuditArchiveCustodyOpenInput where
  keyVersion : Text
  manifest : AuditArchiveManifestV1
  objectBytes : List UInt8

/-- What the opener settles with; `foreign` is any value that is no result of it. -/
inductive AuditArchiveCustodyOpenResponse where
  | failure
  | foreign
  | cryptoIntegrity
  | keyUnavailable
  | opened (records : List AuditArchiveRecordV1)

/-- The checks of an object, up to what is handed to the opener. -/
def verifiedObject (crypto : WebCrypto) (get : Text → R2GetResponse) (expected : json.Value) :
    Except AuditArchiveRestoreErrorCode AuditArchiveCustodyOpenInput := do
  let manifest ← canonicalManifest expected
  let manifestJson := manifest.text
  throwIf (ARCHIVE_MAX_CUSTOM_METADATA_BYTES < manifestJson.encode.length) .boundsExceeded
  match get manifest.objectKey with
  | .failure => throw .objectUnavailable
  | .missing => throw .objectMissing
  | .unreadable => throw .objectUnavailable
  | .object object => do
    throwIf (object.key ≠ manifest.objectKey) .objectIdentityMismatch
    required object.size .boundsExceeded fun size => do
      throwIf (size < 1 ∨ AUDIT_ARCHIVE_MAX_OBJECT_BYTES < size) .boundsExceeded
      throwIf (size ≠ manifest.objectBytes) .sizeMismatch
      throwIf (exactMetadata object.httpMetadata object.customMetadata manifestJson = false) .metadataMismatch
      throwIf (storedSha256 object.checksum ≠ some manifest.objectSha256) .checksumMismatch
      let objectBytes ← (boundedObjectRead object size.toNat).result
      throwIf (objectBytes.length ≠ manifest.objectBytes) .sizeMismatch
      throwIf (bytesToHex (crypto.digest objectBytes) ≠ manifest.objectSha256) .checksumMismatch
      return { keyVersion := manifest.keyVersion, manifest, objectBytes }

/-- The opened records, which are canonical and those of the manifest. -/
def detachedCanonicalRecords (crypto : WebCrypto) (value : List AuditArchiveRecordV1)
    (manifest : AuditArchiveManifestV1) : Except AuditArchiveRestoreErrorCode (List AuditArchiveRecordV1) := do
  let canonical ← (canonicalRecordSet value).mapError fun _ => .recordMismatch
  throwIf (bytesToHex (crypto.digest canonical.bytes) ≠ manifest.plaintextSha256) .recordMismatch
  throwIf (canonical.records.length ≠ manifest.eventCount ∨
    canonical.records.head?.map (·.sequence) ≠ some manifest.firstSequence ∨
    canonical.records.getLast?.map (·.sequence) ≠ some manifest.lastSequence) .recordMismatch
  return canonical.records

def openedRecords (crypto : WebCrypto) (manifest : AuditArchiveManifestV1) :
    AuditArchiveCustodyOpenResponse → Except AuditArchiveRestoreErrorCode (List AuditArchiveRecordV1)
  | .failure => throw .internalError
  | .foreign => throw .internalError
  | .keyUnavailable => throw .custodyUnavailable
  | .cryptoIntegrity => throw .cryptoIntegrity
  | .opened records => detachedCanonicalRecords crypto records manifest

def verifyAndOpenAuditArchiveObjectV1 (crypto : WebCrypto) (get : Text → R2GetResponse)
    (opener : AuditArchiveCustodyOpenInput → AuditArchiveCustodyOpenResponse) (expected : json.Value) :
    Except AuditArchiveRestoreErrorCode (List AuditArchiveRecordV1) := do
  let input ← verifiedObject crypto get expected
  openedRecords crypto input.manifest (opener input)

end restore

section manifest

variable {manifest : AuditArchiveManifestV1}

theorem AuditArchiveManifestV1.Valid.describedBy (hvalid : manifest.Valid) :
    ∃ members, manifest.value = .object members ∧ manifest.DescribedBy members := by
  obtain ⟨hgeneration, hcheckpoint, -, -, -, hcount, -, hlast, hbytes, -, -, hversion⟩ := hvalid
  have hlimits : (AUDIT_ARCHIVE_MAX_RECORDS : Int) ≤ 9007199254740991 ∧
      (AUDIT_ARCHIVE_MAX_OBJECT_BYTES : Int) ≤ 9007199254740991 ∧ MAX_SAFE_INTEGER = 9007199254740991 := by decide
  have hinteger : ∀ {value : Int}, 0 ≤ value → value ≤ 9007199254740991 →
      (json.Literal.ofInt value).safeInteger? = some value := fun hlow hhigh =>
    json.safeInteger?_ofInt (by omega) hhigh
  refine ⟨_, rfl, ⟨List.Perm.refl _, ?_, ?_, rfl, rfl, rfl, ?_, ?_, rfl, ?_, ?_, rfl, rfl, rfl, ?_⟩⟩
  · exact hinteger (by omega) (by omega)
  · exact hinteger (by omega) (by omega)
  · exact hinteger (by omega) (by omega)
  · exact hinteger (by omega) (by omega)
  · exact hinteger (by omega) (by omega)
  · exact hinteger (by omega) (by omega)
  · exact hinteger (by omega) (by omega)

theorem sha256Hex_plain {digest : Text} (hdigest : isSha256Hex digest = true) :
    json.Plain digest ∧ digest.length = 64 := by
  simp only [isSha256Hex, consistsOf, Bool.and_eq_true, decide_eq_true_eq, List.all_eq_true] at hdigest
  obtain ⟨⟨hcharacters, hlow⟩, hhigh⟩ := hdigest
  refine ⟨?_, by omega⟩
  intro code hmem
  have hcode := hcharacters code hmem
  rw [Bool.or_eq_true, decide_eq_true_eq] at hcode
  rcases hcode with hdigit | hletter
  · exact plain_of_isDigit hdigit code List.mem_cons_self
  · have hplain : json.Plain (Text.of "abcdef") := by decide
    exact hplain code hletter

theorem length_integer_le {value : Int} (hlow : 0 ≤ value) (hhigh : value ≤ MAX_SAFE_INTEGER) :
    (json.integer value).length ≤ 16 := by
  obtain ⟨value, rfl⟩ := Int.eq_ofNat_of_zero_le hlow
  have hmax : MAX_SAFE_INTEGER = 9007199254740991 := rfl
  rw [show json.integer (value : Int) = Text.decimal value from rfl, Text.length_decimal,
    Nat.length_toDigits_le_iff (by decide) (by decide)]
  omega

theorem integer_plain {value : Int} (hlow : 0 ≤ value) : json.Plain (json.integer value) := by
  obtain ⟨value, rfl⟩ := Int.eq_ofNat_of_zero_le hlow
  exact plain_of_digits (List.all_eq_true.mpr (json.decimal_digits value))

/-- A sequence is padded to sixteen digits. -/
theorem padStart_integer {value : Int} (hlow : 0 ≤ value) (hhigh : value ≤ MAX_SAFE_INTEGER) :
    json.Plain ((json.integer value).padStart 16) ∧ ((json.integer value).padStart 16).length = 16 := by
  have hlength := length_integer_le hlow hhigh
  constructor
  · rw [Text.padStart, json.plain_append]
    exact ⟨json.plain_replicate (by decide), integer_plain hlow⟩
  · rw [Text.padStart, List.length_append, List.length_replicate]
    omega

theorem length_keyVersion_le {value : Text} (hversion : isKeyVersion value = true) : value.length ≤ 7 := by
  unfold isKeyVersion at hversion
  split at hversion
  · simp only [Bool.and_eq_true, decide_eq_true_eq, consistsOf] at hversion
    simp only [List.length_cons]
    omega
  · cases hversion

theorem expectedObjectKey_plain {first last : Int} {digest : Text} (hfirst : 0 ≤ first ∧ first ≤ MAX_SAFE_INTEGER)
    (hlast : 0 ≤ last ∧ last ≤ MAX_SAFE_INTEGER) (hdigest : isSha256Hex digest = true) :
    json.Plain (expectedObjectKey first last digest) ∧ (expectedObjectKey first last digest).length = 118 := by
  obtain ⟨hfirstPlain, hfirstLength⟩ := padStart_integer hfirst.1 hfirst.2
  obtain ⟨hlastPlain, hlastLength⟩ := padStart_integer hlast.1 hlast.2
  obtain ⟨hdigestPlain, hdigestLength⟩ := sha256Hex_plain hdigest
  have hlengths : (Text.of "audit/v1/").length = 9 ∧ (Text.of "-").length = 1 ∧ (Text.of "/").length = 1 ∧
      (Text.of ".pgid-audit").length = 11 := by decide
  constructor
  · simp only [expectedObjectKey, json.plain_append]
    exact ⟨⟨⟨⟨⟨⟨by decide, hfirstPlain⟩, by decide⟩, hlastPlain⟩, by decide⟩, hdigestPlain⟩, by decide⟩
  · simp only [expectedObjectKey, List.length_append]
    omega

/-- The text of a manifest fits into the metadata of its object. -/
theorem AuditArchiveManifestV1.Valid.text_fits (hvalid : manifest.Valid)
    (hkey : manifest.objectKey =
      expectedObjectKey manifest.firstSequence manifest.lastSequence manifest.objectSha256) :
    manifest.text.encode.length ≤ ARCHIVE_MAX_CUSTOM_METADATA_BYTES := by
  obtain ⟨hgeneration, hcheckpoint, htype, hcontract, hcanonical, hcount, hpattern, hlast, hbytes, hobjectHex,
    hplainHex, hversion⟩ := hvalid
  have hlimits : (AUDIT_ARCHIVE_MAX_RECORDS : Int) ≤ MAX_SAFE_INTEGER ∧
      (AUDIT_ARCHIVE_MAX_OBJECT_BYTES : Int) ≤ MAX_SAFE_INTEGER := by decide
  have hfirstBounds : 0 ≤ manifest.firstSequence ∧ manifest.firstSequence ≤ MAX_SAFE_INTEGER := by omega
  have hlastBounds : 0 ≤ manifest.lastSequence ∧ manifest.lastSequence ≤ MAX_SAFE_INTEGER := by omega
  obtain ⟨hkeyPlain, hkeyLength⟩ := expectedObjectKey_plain hfirstBounds hlastBounds hobjectHex
  rw [← hkey] at hkeyPlain hkeyLength
  obtain ⟨hobjectPlain, hobjectLength⟩ := sha256Hex_plain hobjectHex
  obtain ⟨hdigestPlain, hdigestLength⟩ := sha256Hex_plain hplainHex
  have hcreatedPlain := canonicalTimestamp_plain hcanonical
  have hcreatedLength := canonicalTimestamp_length hcanonical
  have hkeyVersionPlain := keyVersion_plain hpattern
  have hkeyVersionLength := length_keyVersion_le hpattern
  have htypePlain : json.Plain AUDIT_ARCHIVE_CONTENT_TYPE ∧ AUDIT_ARCHIVE_CONTENT_TYPE.length = 44 := by decide
  have hcontractPlain : json.Plain AUDIT_ARCHIVE_ENVELOPE_CONTRACT ∧
      AUDIT_ARCHIVE_ENVELOPE_CONTRACT.length = 21 := by decide
  have hkeys : ∀ key ∈ ["batchGeneration", "checkpointFromSequence", "contentType", "contract", "createdAt",
      "eventCount", "firstSequence", "keyVersion", "lastSequence", "objectBytes", "objectKey", "objectSha256",
      "plaintextSha256", "schemaVersion"], json.Plain (Text.of key) := by decide +kernel
  have hascii : manifest.text.Ascii := by
    apply json.object_ascii
    simp only [List.forall_mem_cons, List.not_mem_nil, false_imp_iff, implies_true, and_true, json.integer_ascii,
      htype, hcontract, json.string_ascii_of_plain hkeyPlain, json.string_ascii_of_plain hobjectPlain,
      json.string_ascii_of_plain hdigestPlain, json.string_ascii_of_plain hcreatedPlain,
      json.string_ascii_of_plain hkeyVersionPlain, json.string_ascii_of_plain htypePlain.1,
      json.string_ascii_of_plain hcontractPlain.1]
    simpa using hkeys
  have hgenerationDigits := length_integer_le (show 0 ≤ manifest.batchGeneration by omega) hgeneration.2
  have hcheckpointDigits := length_integer_le hcheckpoint.1 (by omega)
  have hcountDigits := length_integer_le (show 0 ≤ (manifest.eventCount : Int) by omega) (by omega)
  have hfirstDigits := length_integer_le hfirstBounds.1 hfirstBounds.2
  have hlastDigits := length_integer_le hlastBounds.1 hlastBounds.2
  have hbytesDigits := length_integer_le (show 0 ≤ (manifest.objectBytes : Int) by omega) (by omega)
  have hversionDigits : (json.integer 1).length = 1 := by decide
  rw [Text.length_encode_of_ascii hascii, AuditArchiveManifestV1.text, json.length_object]
  · simp only [List.map_cons, List.map_nil, json.separatedLength, htype, hcontract, hversion, hversionDigits,
      json.length_string_of_plain hkeyPlain, json.length_string_of_plain hobjectPlain,
      json.length_string_of_plain hdigestPlain, json.length_string_of_plain hcreatedPlain,
      json.length_string_of_plain hkeyVersionPlain, json.length_string_of_plain htypePlain.1,
      json.length_string_of_plain hcontractPlain.1, hkeyLength, hobjectLength, hdigestLength, hcreatedLength,
      htypePlain.2, hcontractPlain.2]
    have hlengths : (Text.of "batchGeneration").length = 15 ∧ (Text.of "checkpointFromSequence").length = 22 ∧
        (Text.of "contentType").length = 11 ∧ (Text.of "contract").length = 8 ∧
        (Text.of "createdAt").length = 9 ∧ (Text.of "eventCount").length = 10 ∧
        (Text.of "firstSequence").length = 13 ∧ (Text.of "keyVersion").length = 10 ∧
        (Text.of "lastSequence").length = 12 ∧ (Text.of "objectBytes").length = 11 ∧
        (Text.of "objectKey").length = 9 ∧ (Text.of "objectSha256").length = 12 ∧
        (Text.of "plaintextSha256").length = 15 ∧ (Text.of "schemaVersion").length = 13 := by decide
    rw [ARCHIVE_MAX_CUSTOM_METADATA_BYTES]
    omega
  · simpa using hkeys

/-- The restore path takes the manifest of a claimed batch. -/
theorem AuditArchiveClaimedBatch.Sound.canonicalManifest {crypto : WebCrypto} {claimed : AuditArchiveClaimedBatch}
    (hsound : claimed.Sound crypto) :
    claimed.manifest.Valid ∧ restore.canonicalManifest claimed.manifest.value = .ok claimed.manifest := by
  obtain ⟨value, hparsed⟩ := hsound.parsed
  obtain ⟨_, -, -, hvalid⟩ := parseManifest_eq_ok_iff.mp hparsed
  obtain ⟨members, hvalue, hdescribed⟩ := hvalid.describedBy
  exact ⟨hvalid,
    restore.canonicalManifest_eq_ok_iff.mpr ⟨⟨members, hvalue, hdescribed, hvalid⟩, hsound.expectedKey⟩⟩

end manifest

section readback

variable {object : R2ObjectBody} {digestStream : AuditArchiveDigestStream} {reads : List StreamRead}

/-- A body that the writer reads to its end the restore path reads too. -/
theorem readLoop_complete {size : Nat} {output bytes : List UInt8} {sha256 : Text}
    (hread : writer.readLoop digestStream size output reads = .complete bytes sha256) :
    (restore.readLoop size output reads).result = .ok bytes ∧ bytes.length = size := by
  induction reads generalizing output with
  | nil =>
    rw [writer.readLoop] at hread
    split at hread
    · cases hread
    · rename_i hlength
      have hsize : output.length = size := by omega
      split at hread
      · split at hread
        · cases hread
        · cases hread
          rw [restore.readLoop, if_neg (not_not.mpr hsize)]
          exact ⟨rfl, hsize⟩
      · cases hread
  | cons read reads ih =>
    cases read with
    | foreign => cases hread
    | failure => cases hread
    | chunk chunk =>
      rw [writer.readLoop] at hread
      split at hread
      · cases hread
      · rename_i hnonempty
        split at hread
        · cases hread
        · rename_i hfits
          rw [List.length_append] at hfits
          split at hread
          · cases hread
          · rw [restore.readLoop, if_neg hnonempty, if_neg (by omega)]
            exact ih hread

/-- What a full observation says of the object. -/
structure Observed (object : R2ObjectBody) (manifest : AuditArchiveManifestV1) (observation : FullR2Observation) :
    Prop where
  size : ∃ size : Nat, object.size = some (size : Int) ∧ 1 ≤ size ∧ size ≤ AUDIT_ARCHIVE_MAX_OBJECT_BYTES ∧
    observation.evidence.observedBytes = size ∧
    (restore.boundedObjectRead object size).result = .ok observation.body ∧ observation.body.length = size
  storedSha256 : ∀ digest, observation.evidence.storedSha256 = some digest →
    restore.storedSha256 object.checksum = some digest
  metadata : observation.metadataMatches = true →
    object.key = manifest.objectKey ∧ object.size = some (manifest.objectBytes : Int) ∧
      restore.exactMetadata object.httpMetadata object.customMetadata manifest.text = true

theorem storedSha256_agree {checksum : R2Checksum} {digest : Text}
    (hstored : (writer.storedSha256 checksum).2 = some digest) : restore.storedSha256 checksum = some digest := by
  cases checksum with
  | undefined => cases hstored
  | foreign => cases hstored
  | buffer bytes =>
    rw [writer.storedSha256] at hstored
    rw [restore.storedSha256]
    split at hstored
    · rename_i hlength
      rw [if_pos hlength]
      exact hstored
    · cases hstored

theorem boundedRead_complete {size : Nat} {bytes : List UInt8} {sha256 : Text}
    (hread : writer.boundedRead object size digestStream = .complete bytes sha256) :
    (restore.boundedObjectRead object size).result = .ok bytes ∧ bytes.length = size := by
  rw [writer.boundedRead] at hread
  split at hread
  · cases hread
  · rename_i hunused
    split at hread
    · cases hread
    · split at hread
      · cases hread
      · rename_i hunlocked
        obtain ⟨hloop, hlength⟩ := readLoop_complete hread
        rw [restore.boundedObjectRead, if_neg (by tauto)]
        exact ⟨hloop, hlength⟩

theorem observeR2Object_full {manifest : AuditArchiveManifestV1} {observation : FullR2Observation}
    (hobserved : writer.observeR2Object object manifest manifest.text digestStream = some (.full observation)) :
    Observed object manifest observation := by
  rcases hstored : writer.storedSha256 object.checksum with ⟨valid, stored⟩
  rw [writer.observeR2Object, hstored] at hobserved
  dsimp only at hobserved
  split at hobserved
  · rename_i etag version size hetag hversion hsize
    split at hobserved
    · cases hobserved
    · split at hobserved
      · cases hobserved
      · rename_i hpositive hbounds
        obtain ⟨size, rfl⟩ := Int.eq_ofNat_of_zero_le (Int.not_lt.mp hpositive)
        split at hobserved
        · rename_i bytes sha256 hread
          rw [Option.some.injEq, R2Observation.full.injEq] at hobserved
          obtain ⟨hloop, hlength⟩ := boundedRead_complete hread
          subst hobserved
          refine ⟨⟨size, hsize, by omega, by omega, rfl, hloop, hlength⟩, ?_, ?_⟩
          · intro digest hdigest
            exact storedSha256_agree (by rw [hstored]; exact hdigest)
          · intro hmatches
            simp only [writer.metadataMatches, Bool.and_eq_true, decide_eq_true_eq, exactMetadata_agree] at hmatches
            exact ⟨hmatches.1.1, hmatches.1.2, hmatches.2⟩
        · cases hobserved
        · cases hobserved
        · cases hobserved
  · cases hobserved

/-- What the writer takes as its own object the restore path takes too, and hands to the
opener. -/
theorem verifiedObject_of_exactReadback {crypto : WebCrypto} {claimed : AuditArchiveClaimedBatch}
    {observation : FullR2Observation} {get : Text → R2GetResponse} (hsound : claimed.Sound crypto)
    (hobserved : Observed object claimed.manifest observation)
    (hreadback : writer.exactReadback observation claimed.encryptedEnvelope claimed.manifest = true)
    (hget : get claimed.manifest.objectKey = .object object) :
    restore.verifiedObject crypto get claimed.manifest.value =
      .ok ⟨claimed.keyVersion, claimed.manifest, claimed.encryptedEnvelope⟩ := by
  obtain ⟨hvalid, hmanifest⟩ := hsound.canonicalManifest
  simp only [writer.exactReadback, Bool.and_eq_true, decide_eq_true_eq] at hreadback
  obtain ⟨⟨⟨⟨hmatches, hbytes⟩, -⟩, hstored⟩, hbody⟩ := hreadback
  obtain ⟨size, hsize, hlow, hhigh, hevidence, hread, hlength⟩ := hobserved.size
  obtain ⟨hkey, -, hmetadata⟩ := hobserved.metadata hmatches
  have hexpected : size = claimed.manifest.objectBytes := by omega
  have hfits := hvalid.text_fits hsound.expectedKey
  rw [hbody] at hread hlength
  rw [restore.verifiedObject, hmanifest, ok_bind, throwIf_bind_of_not (Nat.not_lt.mpr hfits), hget]
  simp only
  rw [throwIf_bind_of_not (not_not.mpr hkey), hsize, required,
    throwIf_bind_of_not (by omega), throwIf_bind_of_not (by omega),
    throwIf_bind_of_not (by rw [hmetadata]; decide),
    throwIf_bind_of_not (not_not.mpr (hobserved.storedSha256 _ hstored)), Int.toNat_natCast, hread, ok_bind,
    throwIf_bind_of_not (by omega), throwIf_bind_of_not (not_not.mpr hsound.digest), hsound.keyVersion]
  rfl

end readback

/-- Exact metadata have the values that the writer puts, and no others. -/
theorem HttpMetadataExact.defined {http : Dictionary HttpMetadataValue} (hexact : HttpMetadataExact http)
    (key : Text) : (http.get key).filter (· ≠ .undefined) = writer.putHttpMetadata.get key := by
  by_cases hrequired : key ∈ restore.HTTP_METADATA_REQUIRED_KEYS
  · rcases mem_requiredKeys.mp hrequired with rfl | rfl
    · rw [hexact.cacheControl]
      rfl
    · rw [hexact.contentType]
      rfl
  · have hput : writer.putHttpMetadata.get key = none := by
      rw [mem_requiredKeys, not_or] at hrequired
      have hcache : (key == Text.of "cacheControl") = false := by simpa using hrequired.1
      have htype : (key == Text.of "contentType") = false := by simpa using hrequired.2
      simp only [Dictionary.get, writer.putHttpMetadata, List.lookup_cons, hcache, htype, List.lookup_nil]
    rw [hput, Option.filter_eq_none_iff]
    intro value hvalue
    have hmem := Dictionary.get_eq_some_iff.mp hvalue
    rcases hexact.others _ hmem with hname | ⟨-, hundefined⟩
    · exact absurd hname hrequired
    · simp [show value = .undefined from hundefined]

theorem putMetadata_exact (manifestJson : Text) :
    writer.exactMetadata (some writer.putHttpMetadata) (some (writer.putCustomMetadata manifestJson)) manifestJson =
      true := by
  refine writer.exactMetadata_iff.mpr ⟨⟨by decide, by decide, ?_⟩, rfl⟩
  have hkeys : ∀ entry ∈ writer.putHttpMetadata.entries, entry.1 ∈ restore.HTTP_METADATA_REQUIRED_KEYS := by decide
  exact fun entry hmem => .inl (hkeys entry hmem)

/-- The object of a claimed batch as a store keeps it that does what it is told. -/
def storedObject (crypto : WebCrypto) (claimed : AuditArchiveClaimedBatch) (etag version : Text) : R2ObjectBody where
  bodyUsed := false
  checksum := .buffer (crypto.digest claimed.encryptedEnvelope)
  customMetadata := some (writer.putCustomMetadata claimed.manifest.text)
  etag := etag
  httpMetadata := some writer.putHttpMetadata
  key := claimed.objectKey
  locked := false
  reads := [.chunk claimed.encryptedEnvelope]
  size := some claimed.encryptedEnvelope.length
  version := version

/-- The writer takes that object as its own. -/
theorem exactReadback_stored {crypto : WebCrypto} {claimed : AuditArchiveClaimedBatch} {etag version : Text}
    (hsound : claimed.Sound crypto) (hetag : writer.safeR2Text etag = some etag)
    (hversion : writer.safeR2Text version = some version) :
    ∃ observation, writer.observeR2Object (storedObject crypto claimed etag version) claimed.manifest
        claimed.manifest.text crypto.digestStream = some (.full observation) ∧
      writer.exactReadback observation claimed.encryptedEnvelope claimed.manifest = true := by
  obtain ⟨hvalid, -⟩ := hsound.canonicalManifest
  have hbounds := hvalid.objectBytes
  have hlength := hsound.length
  have hdigest := crypto.digest_length claimed.encryptedEnvelope
  have hnonempty : claimed.encryptedEnvelope ≠ [] := by
    intro hempty
    rw [hempty] at hlength
    simp only [List.length_nil] at hlength
    omega
  have hchecksum : writer.storedSha256 (storedObject crypto claimed etag version).checksum =
      (true, some (bytesToHex (crypto.digest claimed.encryptedEnvelope))) := by
    rw [storedObject, writer.storedSha256, if_pos hdigest]
  have hloop : writer.readLoop crypto.digestStream claimed.encryptedEnvelope.length []
      [.chunk claimed.encryptedEnvelope] =
        .complete claimed.encryptedEnvelope (bytesToHex (crypto.digest claimed.encryptedEnvelope)) := by
    rw [writer.readLoop, if_neg hnonempty, List.nil_append, if_neg (by omega), if_neg (by simp [WebCrypto.digestStream]),
      writer.readLoop, if_neg (not_not.mpr rfl)]
    simp only [WebCrypto.digestStream, hdigest, ne_eq, not_true_eq_false, if_false]
  have hread : writer.boundedRead (storedObject crypto claimed etag version) claimed.encryptedEnvelope.length
      crypto.digestStream =
        .complete claimed.encryptedEnvelope (bytesToHex (crypto.digest claimed.encryptedEnvelope)) := by
    have hunused : ¬ ((claimed.encryptedEnvelope.length : Int) < 1 ∨
        (AUDIT_ARCHIVE_MAX_OBJECT_BYTES : Int) < claimed.encryptedEnvelope.length ∨
        (storedObject crypto claimed etag version).bodyUsed = true) := by
      rintro (h | h | h)
      · omega
      · omega
      · cases h
    rw [writer.boundedRead, if_neg hunused]
    exact hloop
  have hsize : ¬ ((claimed.encryptedEnvelope.length : Int) < 1 ∨
      (AUDIT_ARCHIVE_MAX_OBJECT_BYTES : Int) < claimed.encryptedEnvelope.length ∨ true = false) := by
    rintro (h | h | h)
    · omega
    · omega
    · cases h
  have hmatches : writer.metadataMatches (storedObject crypto claimed etag version) claimed.manifest
      claimed.manifest.text = true := by
    simp only [writer.metadataMatches, storedObject, putMetadata_exact, hsound.objectKey, hlength, decide_true,
      Bool.and_self]
  refine ⟨⟨claimed.encryptedEnvelope,
    ⟨etag, claimed.encryptedEnvelope.length, some (bytesToHex (crypto.digest claimed.encryptedEnvelope)),
      some (bytesToHex (crypto.digest claimed.encryptedEnvelope)), version⟩, true⟩, ?_, ?_⟩
  · rw [writer.observeR2Object, hchecksum, hmatches]
    simp only [storedObject, hetag, hversion] at hread ⊢
    rw [if_neg (by omega), if_neg hsize, hread]
  · simp only [writer.exactReadback, hsound.digest, hlength, decide_true, Bool.and_self]

/-- The writer and the restore path agree: an object that the writer takes as its own passes
every check of the restore path, whose metadata are those that the writer puts, and the three
modules take the same manifests, apart from the object key. -/
theorem restore_accepts_archived (crypto : WebCrypto) :
    (∀ (lease : AuditArchiveLease) (rows : List ClaimedBatchRow) (claimed : AuditArchiveClaimedBatch)
        (object : R2ObjectBody) (digestStream : AuditArchiveDigestStream) (observation : FullR2Observation)
        (get : Text → R2GetResponse)
        (opener : restore.AuditArchiveCustodyOpenInput → restore.AuditArchiveCustodyOpenResponse),
      readClaimedAuditArchiveBatch crypto lease rows = .ok (some claimed) →
      writer.observeR2Object object claimed.manifest claimed.manifest.text digestStream = some (.full observation) →
      writer.exactReadback observation claimed.encryptedEnvelope claimed.manifest = true →
      get claimed.manifest.objectKey = .object object →
      restore.verifyAndOpenAuditArchiveObjectV1 crypto get opener claimed.manifest.value =
        restore.openedRecords crypto claimed.manifest
          (opener ⟨claimed.keyVersion, claimed.manifest, claimed.encryptedEnvelope⟩)) ∧
    (∀ (httpMetadata : Option (Dictionary HttpMetadataValue)) (customMetadata : Option (Dictionary Text))
        (manifestJson : Text), restore.exactMetadata httpMetadata customMetadata manifestJson = true →
      ∃ http custom, httpMetadata = some http ∧ customMetadata = some custom ∧
        (∀ key, (http.get key).filter (· ≠ .undefined) = writer.putHttpMetadata.get key) ∧
        custom.entries = (writer.putCustomMetadata manifestJson).entries) ∧
    ∀ (value : json.Value) (manifest : AuditArchiveManifestV1),
      (parseManifest value = .ok manifest ↔ validatedManifest value = .ok manifest) ∧
        (restore.canonicalManifest value = .ok manifest ↔
          validatedManifest value = .ok manifest ∧
            manifest.objectKey =
              expectedObjectKey manifest.firstSequence manifest.lastSequence manifest.objectSha256) := by
  refine ⟨?_, ?_, manifests_agree⟩
  · intro lease rows claimed object digestStream observation get opener hclaimed hobserved hreadback hget
    have hsound := readClaimedAuditArchiveBatch_sound hclaimed
    rw [restore.verifyAndOpenAuditArchiveObjectV1,
      verifiedObject_of_exactReadback hsound (observeR2Object_full hobserved) hreadback hget, ok_bind]
  · intro httpMetadata customMetadata manifestJson haccepted
    cases httpMetadata with
    | none => cases haccepted
    | some http =>
      cases customMetadata with
      | none => cases haccepted
      | some custom =>
        obtain ⟨hexact, hcustom⟩ := restore.exactMetadata_iff.mp haccepted
        exact ⟨http, custom, rfl, rfl, hexact.defined, hcustom⟩

/-- The digest SHA-256 of the bytes 1, 2 and 3. -/
def smallDigest : Text :=
  Text.of "039058c6f2c0cb492c533b0a4d14ef77cc0f78abccced5287d84a1a2011cfb81"

/-- The manifest of an object of these three bytes. -/
def smallManifest : AuditArchiveManifestV1 where
  batchGeneration := 1
  checkpointFromSequence := 0
  contentType := AUDIT_ARCHIVE_CONTENT_TYPE
  contract := AUDIT_ARCHIVE_ENVELOPE_CONTRACT
  createdAt := Text.of "2026-01-01T00:00:00.000Z"
  eventCount := 1
  firstSequence := 1
  keyVersion := Text.of "v1"
  lastSequence := 1
  objectBytes := 3
  objectKey := expectedObjectKey 1 1 smallDigest
  objectSha256 := smallDigest
  plaintextSha256 := List.replicate 64 (Text.unit '0')
  schemaVersion := 1

def smallLease : AuditArchiveLease where
  attemptNumber := 1
  batchKey := List.replicate 43 (Text.unit 'A')
  dispatchGeneration := 1
  leaseExpiresAt := ⟨301000, by decide⟩
  leaseId := List.replicate 43 (Text.unit 'E')
  startedAt := ⟨1000, by decide⟩
  updatedAt := ⟨1000, by decide⟩

def smallRow : ClaimedBatchRow where
  lease := smallLease
  outcome := Text.of "in_flight"
  manifestJson := smallManifest.text
  contract := AUDIT_ARCHIVE_ENVELOPE_CONTRACT
  schemaVersion := 1
  contentType := AUDIT_ARCHIVE_CONTENT_TYPE
  batchGeneration := 1
  checkpointRevision := 0
  checkpointFromSequence := 0
  createdAt := smallManifest.createdAt
  eventCount := 1
  firstSequence := 1
  lastSequence := 1
  plaintextSha256 := smallManifest.plaintextSha256
  keyVersion := smallManifest.keyVersion
  objectKey := smallManifest.objectKey
  objectBytes := 3
  objectSha256 := smallManifest.objectSha256
  encryptedEnvelope := [1, 2, 3]
  envelopeBytes := 3

/-- The platform, as far as it is asked for digests. -/
def digestCrypto : WebCrypto :=
  { WebCrypto.zeros with
    digest := fun data => (sha2.sha256 data).toList
    digest_length := fun _ => Vector.length_toList }

theorem smallRow_claimed :
    ∃ claimed, readClaimedAuditArchiveBatch digestCrypto smallLease [smallRow] = .ok (some claimed) := by
  have hread : ((readClaimedAuditArchiveBatch digestCrypto smallLease [smallRow]).toOption.bind id).isSome =
      true := by decide +kernel
  cases hresult : readClaimedAuditArchiveBatch digestCrypto smallLease [smallRow] with
  | error code =>
    rw [hresult] at hread
    cases hread
  | ok claimed =>
    rw [hresult] at hread
    cases claimed with
    | none => cases hread
    | some claimed => exact ⟨claimed, rfl⟩

/-- A batch whose object is stored as it was put is handed to the opener. -/
theorem restore_accepts_archived_small :
    ∃ claimed, readClaimedAuditArchiveBatch digestCrypto smallLease [smallRow] = .ok (some claimed) ∧
      restore.verifyAndOpenAuditArchiveObjectV1 digestCrypto
          (fun _ => .object (storedObject digestCrypto claimed (Text.of "etag") (Text.of "version")))
          (fun _ => .keyUnavailable) claimed.manifest.value = .error .custodyUnavailable ∧
      (∃ http custom, some writer.putHttpMetadata = some http ∧
        some (writer.putCustomMetadata claimed.manifest.text) = some custom ∧
        (∀ key, (http.get key).filter (· ≠ .undefined) = writer.putHttpMetadata.get key) ∧
        custom.entries = (writer.putCustomMetadata claimed.manifest.text).entries) := by
  obtain ⟨claimed, hclaimed⟩ := smallRow_claimed
  obtain ⟨observation, hobserved, hreadback⟩ :=
    exactReadback_stored (readClaimedAuditArchiveBatch_sound hclaimed)
      (show writer.safeR2Text (Text.of "etag") = some (Text.of "etag") by decide)
      (show writer.safeR2Text (Text.of "version") = some (Text.of "version") by decide)
  obtain ⟨haccepts, hmetadata, -⟩ := restore_accepts_archived digestCrypto
  refine ⟨claimed, hclaimed, ?_, hmetadata _ _ _ ?_⟩
  · exact haccepts smallLease [smallRow] claimed _ _ observation _ _ hclaimed hobserved hreadback rfl
  · rw [← exactMetadata_agree, putMetadata_exact]

end pgid.audit
