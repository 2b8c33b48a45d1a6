import Mathlib.Data.List.Perm.Subperm
import PgidSso.Archive.Manifest
import PgidSso.Archive.RecordSet

open checked

namespace pgid.audit

/-- The members of an object say what the manifest says. -/
structure AuditArchiveManifestV1.DescribedBy (manifest : AuditArchiveManifestV1)
    (members : List (Text × json.Value)) : Prop where
  keys : (members.map Prod.fst).Perm MANIFEST_KEYS
  batchGeneration : json.safeInteger? (json.member members "batchGeneration") = some manifest.batchGeneration
  checkpointFromSequence :
    json.safeInteger? (json.member members "checkpointFromSequence") = some manifest.checkpointFromSequence
  contentType : json.text? (json.member members "contentType") = some manifest.contentType
  contract : json.text? (json.member members "contract") = some manifest.contract
  createdAt : json.text? (json.member members "createdAt") = some manifest.createdAt
  eventCount : json.safeInteger? (json.member members "eventCount") = some (manifest.eventCount : Int)
  firstSequence : json.safeInteger? (json.member members "firstSequence") = some manifest.firstSequence
  keyVersion : json.text? (json.member members "keyVersion") = some manifest.keyVersion
  lastSequence : json.safeInteger? (json.member members "lastSequence") = some manifest.lastSequence
  objectBytes : json.safeInteger? (json.member members "objectBytes") = some (manifest.objectBytes : Int)
  objectKey : json.text? (json.member members "objectKey") = some manifest.objectKey
  objectSha256 : json.text? (json.member members "objectSha256") = some manifest.objectSha256
  plaintextSha256 : json.text? (json.member members "plaintextSha256") = some manifest.plaintextSha256
  schemaVersion : json.safeInteger? (json.member members "schemaVersion") = some manifest.schemaVersion

/-- A manifest that the three modules take. -/
structure AuditArchiveManifestV1.Valid (manifest : AuditArchiveManifestV1) : Prop where
  batchGeneration : 1 ≤ manifest.batchGeneration ∧ manifest.batchGeneration ≤ MAX_SAFE_INTEGER
  checkpointFromSequence :
    0 ≤ manifest.checkpointFromSequence ∧ manifest.checkpointFromSequence < manifest.firstSequence
  contentType : manifest.contentType = AUDIT_ARCHIVE_CONTENT_TYPE
  contract : manifest.contract = AUDIT_ARCHIVE_ENVELOPE_CONTRACT
  createdAt : isCanonicalTimestamp manifest.createdAt = true
  eventCount : 1 ≤ manifest.eventCount ∧ manifest.eventCount ≤ AUDIT_ARCHIVE_MAX_RECORDS
  keyVersion : isKeyVersion manifest.keyVersion = true
  lastSequence : manifest.firstSequence ≤ manifest.lastSequence ∧ manifest.lastSequence ≤ MAX_SAFE_INTEGER
  objectBytes : 1 ≤ manifest.objectBytes ∧ manifest.objectBytes ≤ AUDIT_ARCHIVE_MAX_OBJECT_BYTES
  objectSha256 : isSha256Hex manifest.objectSha256 = true
  plaintextSha256 : isSha256Hex manifest.plaintextSha256 = true
  schemaVersion : manifest.schemaVersion = 1

section keys

variable {value : json.Value} {keys : List Text} {members : List (Text × json.Value)}

/-- An object with as many keys as there are, each of them among its own, has just these. -/
theorem perm_keys_iff (hkeys : keys.Nodup) :
    (members.map Prod.fst).Perm keys ↔
      members.length = keys.length ∧ ∀ key ∈ keys, key ∈ members.map Prod.fst := by
  constructor
  · intro hperm
    exact ⟨by rw [← hperm.length_eq, List.length_map], fun key hmem => hperm.mem_iff.mpr hmem⟩
  · rintro ⟨hlength, hsubset⟩
    have hsubperm := List.subperm_of_subset hkeys hsubset
    exact (hsubperm.perm_of_length_le (by rw [List.length_map, hlength])).symm

theorem exactObject_eq_ok_iff :
    exactObject value keys = .ok members ↔ value = .object members ∧ (members.map Prod.fst).Perm keys := by
  cases value with
  | object found =>
    simp only [exactObject, throwIf_bind_eq_ok_iff, pure_eq_ok_iff, not_not, Text.sorted_eq_iff,
      json.Value.object.injEq]
    constructor
    · rintro ⟨hperm, rfl⟩
      exact ⟨rfl, hperm⟩
    · rintro ⟨rfl, hperm⟩
      exact ⟨hperm, rfl⟩
  | _ => simp [exactObject]

theorem exactRecord_eq_ok_iff (hkeys : keys.Nodup) :
    exactRecord value keys = .ok members ↔ value = .object members ∧ (members.map Prod.fst).Perm keys := by
  cases value with
  | object found =>
    simp only [exactRecord, throwIf_bind_eq_ok_iff, pure_eq_ok_iff, not_or, not_not, not_exists, not_and,
      json.Value.object.injEq, perm_keys_iff hkeys]
    constructor
    · rintro ⟨hexact, rfl⟩
      exact ⟨rfl, hexact⟩
    · rintro ⟨rfl, hexact⟩
      exact ⟨hexact, rfl⟩
  | _ => simp [exactRecord]

theorem lookup_isSome_iff {key : Text} : (List.lookup key members).isSome = true ↔ key ∈ members.map Prod.fst := by
  induction members with
  | nil => simp
  | cons member members ih =>
    obtain ⟨name, value⟩ := member
    by_cases heq : key = name
    · subst heq
      simp
    · have hne : (key == name) = false := by simpa using heq
      simp only [List.lookup_cons, hne, ih, List.map_cons, List.mem_cons, heq, false_or]

/-- The values of an object in the order of the keys. -/
theorem exactDataValues_eq_some_iff {values : List json.Value} (hkeys : keys.Nodup) :
    restore.exactDataValues value keys = some values ↔
      ∃ members, value = .object members ∧ (members.map Prod.fst).Perm keys ∧
        values.map some = keys.map fun key => List.lookup key members := by
  cases value with
  | object found =>
    have hmapM : ∀ (keys : List Text) (values : List json.Value),
        keys.mapM (fun key => List.lookup key found) = some values ↔
          values.map some = keys.map fun key => List.lookup key found := by
      intro keys
      induction keys with
      | nil =>
        intro values
        rw [List.mapM_nil, List.map_nil, List.map_eq_nil_iff, Option.pure_def, Option.some.injEq]
        exact eq_comm
      | cons key keys ih =>
        intro values
        rw [List.mapM_cons]
        cases hlookup : List.lookup key found with
        | none => cases values <;> simp [hlookup]
        | some first =>
          cases values with
          | nil => simp [hlookup, Option.bind_eq_some_iff]
          | cons value values =>
            simp only [Option.bind_eq_bind, Option.bind_some, Option.bind_eq_some_iff, Option.pure_def,
              Option.some.injEq, List.cons.injEq, List.map_cons, hlookup, ih]
            constructor
            · rintro ⟨rest, hrest, rfl, rfl⟩
              exact ⟨rfl, hrest⟩
            · rintro ⟨rfl, hrest⟩
              exact ⟨values, hrest, rfl, rfl⟩
    simp only [restore.exactDataValues, ne_eq, json.Value.object.injEq, exists_eq_left', perm_keys_iff hkeys]
    split
    · rename_i hlength
      simp [hlength]
    · rename_i hlength
      rw [hmapM, not_not] at *
      constructor
      · intro hvalues
        refine ⟨⟨hlength, ?_⟩, hvalues⟩
        intro key hmem
        have hsome : List.lookup key found ∈ values.map some := hvalues ▸ List.mem_map_of_mem hmem
        obtain ⟨value, -, hvalue⟩ := List.mem_map.mp hsome
        rw [← lookup_isSome_iff, ← hvalue]
        rfl
      · rintro ⟨-, hvalues⟩
        exact hvalues
  | _ => simp [restore.exactDataValues]

end keys

section validators

variable {value : json.Value} {manifest : AuditArchiveManifestV1}

theorem manifestKeys_nodup : MANIFEST_KEYS.Nodup := by
  set_option maxRecDepth 20000 in decide

theorem sha256HexText_eq_some_iff {value : Option json.Value} {digest : Text} :
    sha256HexText value = some digest ↔ json.text? value = some digest ∧ isSha256Hex digest = true := by
  rw [sha256HexText, Option.filter_eq_some_iff]

theorem safeIntegerValue_eq_ok_iff {value : Option json.Value} {minimum result : Int} :
    safeIntegerValue value minimum = .ok result ↔
      json.safeInteger? value = some result ∧ -MAX_SAFE_INTEGER ≤ result ∧ result ≤ MAX_SAFE_INTEGER ∧
        minimum ≤ result := by
  simp only [safeIntegerValue, required_eq_ok_iff, safeInteger_eq_ok_iff]
  constructor
  · rintro ⟨found, hfound, rfl, hbounds⟩
    exact ⟨hfound, hbounds⟩
  · rintro ⟨hfound, hbounds⟩
    exact ⟨result, hfound, rfl, hbounds⟩

theorem boundedIntegerValue_eq_ok_iff {value : Option json.Value} {minimum maximum result : Int} :
    boundedIntegerValue value minimum maximum = .ok result ↔
      json.safeInteger? value = some result ∧ minimum ≤ result ∧ result ≤ maximum := by
  simp only [boundedIntegerValue, required_eq_ok_iff, boundedInteger, throwIf_bind_eq_ok_iff, pure_eq_ok_iff,
    not_or, Int.not_lt]
  constructor
  · rintro ⟨found, hfound, hbounds, rfl⟩
    exact ⟨hfound, hbounds⟩
  · rintro ⟨hfound, hbounds⟩
    exact ⟨result, hfound, hbounds, rfl⟩

theorem restore.boundedInteger_eq_ok_iff {value : Option json.Value} {minimum maximum result : Int} :
    restore.boundedInteger value minimum maximum = .ok result ↔
      json.safeInteger? value = some result ∧ minimum ≤ result ∧ result ≤ maximum := by
  simp only [restore.boundedInteger, required_eq_ok_iff, throwIf_bind_eq_ok_iff, pure_eq_ok_iff, not_or, Int.not_lt]
  constructor
  · rintro ⟨found, hfound, hbounds, rfl⟩
    exact ⟨hfound, hbounds⟩
  · rintro ⟨hfound, hbounds⟩
    exact ⟨result, hfound, hbounds, rfl⟩

theorem repositoryTimestamp_eq_ok_iff {value result : Text} :
    repositoryTimestamp value = .ok result ↔ result = value ∧ isCanonicalTimestamp value = true := by
  unfold repositoryTimestamp repositoryCheck canonicalTimestamp
  cases hvalid : isCanonicalTimestamp value <;> simp [throwIf, Except.mapError, Bind.bind, Except.bind, Pure.pure,
    Except.pure, eq_comm]

/-- What a valid manifest has fixed. -/
theorem AuditArchiveManifestV1.Valid.eq_self (hvalid : manifest.Valid) :
    { manifest with
      contentType := AUDIT_ARCHIVE_CONTENT_TYPE, contract := AUDIT_ARCHIVE_ENVELOPE_CONTRACT,
      eventCount := (manifest.eventCount : Int).toNat, objectBytes := (manifest.objectBytes : Int).toNat,
      schemaVersion := 1 } = manifest := by
  rw [← hvalid.contentType, ← hvalid.contract, ← hvalid.schemaVersion, Int.toNat_natCast, Int.toNat_natCast]

/-- The manifests that the crypto module takes. -/
theorem validatedManifest_eq_ok_iff :
    validatedManifest value = .ok manifest ↔
      ∃ members, value = .object members ∧ manifest.DescribedBy members ∧ manifest.Valid := by
  simp only [validatedManifest, bind_eq_ok_iff, exactObject_eq_ok_iff, throwIf_eq_ok_iff, required_eq_ok_iff,
    sha256HexText_eq_some_iff, safeIntegerValue_eq_ok_iff, pure_eq_ok_iff, exists_const, not_or, not_not,
    Int.not_le, Int.not_lt, canonicalTimestampValue, canonicalTimestamp, validatedKeyVersionValue,
    validatedKeyVersion, Bool.not_eq_false]
  constructor
  · rintro ⟨members, ⟨rfl, hkeys⟩, ⟨hcontract, hversion, htype⟩, objectSha256, ⟨hobjectSha, hobjectHex⟩,
      plaintextSha256, ⟨hplainSha, hplainHex⟩, objectKey, hobjectKey, first, ⟨hfirst, -, hfirstMax, hfirstMin⟩,
      last, ⟨hlast, -, hlastMax, hlastMin⟩, count, ⟨hcount, -, -, hcountMin⟩, bytes, ⟨hbytes, -, -, hbytesMin⟩,
      checkpoint, ⟨hcheckpoint, -, -, hcheckpointMin⟩, ⟨hbelow, horder, hcountMax, hbytesMax⟩, generation,
      ⟨hgeneration, -, hgenerationMax, hgenerationMin⟩, createdAt, ⟨_, hcreated, hcanonical, rfl⟩, version,
      ⟨_, hkeyVersion, hpattern, rfl⟩, rfl⟩
    have hcountNat : (count.toNat : Int) = count := by omega
    have hbytesNat : (bytes.toNat : Int) = bytes := by omega
    have hcountBounds : 1 ≤ count.toNat ∧ count.toNat ≤ AUDIT_ARCHIVE_MAX_RECORDS := by omega
    have hbytesBounds : 1 ≤ bytes.toNat ∧ bytes.toNat ≤ AUDIT_ARCHIVE_MAX_OBJECT_BYTES := by omega
    exact ⟨members, rfl,
      ⟨hkeys, hgeneration, hcheckpoint, htype, hcontract, hcreated, by rw [hcountNat, hcount], hfirst, hkeyVersion,
        hlast, by rw [hbytesNat, hbytes], hobjectKey, hobjectSha, hplainSha, hversion⟩,
      ⟨⟨hgenerationMin, hgenerationMax⟩, ⟨hcheckpointMin, hbelow⟩, rfl, rfl, hcanonical, hcountBounds, hpattern,
        ⟨horder, hlastMax⟩, hbytesBounds, hobjectHex, hplainHex, rfl⟩⟩
  · rintro ⟨members, rfl, hdescribed, hvalid⟩
    have hself := hvalid.eq_self
    obtain ⟨hgeneration, hcheckpoint, htype, hcontract, hcanonical, hcount, hpattern, hlast, hbytes, hobjectHex,
      hplainHex, hversion⟩ := hvalid
    have hlimits : (AUDIT_ARCHIVE_MAX_RECORDS : Int) ≤ MAX_SAFE_INTEGER ∧
        (AUDIT_ARCHIVE_MAX_OBJECT_BYTES : Int) ≤ MAX_SAFE_INTEGER ∧ 0 ≤ MAX_SAFE_INTEGER := by decide
    exact ⟨members, ⟨rfl, hdescribed.keys⟩,
      ⟨hcontract ▸ hdescribed.contract, hversion ▸ hdescribed.schemaVersion, htype ▸ hdescribed.contentType⟩,
      manifest.objectSha256, ⟨hdescribed.objectSha256, hobjectHex⟩,
      manifest.plaintextSha256, ⟨hdescribed.plaintextSha256, hplainHex⟩, manifest.objectKey, hdescribed.objectKey,
      manifest.firstSequence, ⟨hdescribed.firstSequence, by omega⟩,
      manifest.lastSequence, ⟨hdescribed.lastSequence, by omega⟩,
      manifest.eventCount, ⟨hdescribed.eventCount, by omega⟩,
      manifest.objectBytes, ⟨hdescribed.objectBytes, by omega⟩,
      manifest.checkpointFromSequence, ⟨hdescribed.checkpointFromSequence, by omega⟩, by omega,
      manifest.batchGeneration, ⟨hdescribed.batchGeneration, by omega⟩,
      manifest.createdAt, ⟨_, hdescribed.createdAt, hcanonical, rfl⟩,
      manifest.keyVersion, ⟨_, hdescribed.keyVersion, hpattern, rfl⟩, hself⟩

/-- The repository takes the same ones. -/
theorem parseManifest_eq_ok_iff :
    parseManifest value = .ok manifest ↔
      ∃ members, value = .object members ∧ manifest.DescribedBy members ∧ manifest.Valid := by
  simp only [parseManifest, bind_eq_ok_iff, exactRecord_eq_ok_iff manifestKeys_nodup, throwIf_eq_ok_iff,
    required_eq_ok_iff, boundedIntegerValue_eq_ok_iff, pure_eq_ok_iff, exists_const, not_or, not_not, Int.not_le,
    repositoryTimestamp_eq_ok_iff, keyVersion, sha256HexValue, Bool.not_eq_false]
  constructor
  · rintro ⟨members, ⟨rfl, hkeys⟩, ⟨htype, hcontract, hversion⟩, first, ⟨hfirst, hfirstMin, hfirstMax⟩, last,
      ⟨hlast, horder, hlastMax⟩, checkpoint, ⟨hcheckpoint, hcheckpointMin, -⟩, count, ⟨hcount, hcountMin, hcountMax⟩,
      bytes, ⟨hbytes, hbytesMin, hbytesMax⟩, hbelow, objectKey, hobjectKey, generation,
      ⟨hgeneration, hgenerationMin, hgenerationMax⟩, createdAt, ⟨_, hcreated, rfl, hcanonical⟩, version,
      ⟨_, hkeyVersion, hpattern, rfl⟩, objectSha256, ⟨_, hobjectSha, hobjectHex, rfl⟩, plaintextSha256,
      ⟨_, hplainSha, hplainHex, rfl⟩, rfl⟩
    have hcountNat : (count.toNat : Int) = count := by omega
    have hbytesNat : (bytes.toNat : Int) = bytes := by omega
    have hcountBounds : 1 ≤ count.toNat ∧ count.toNat ≤ AUDIT_ARCHIVE_MAX_RECORDS := by omega
    have hbytesBounds : 1 ≤ bytes.toNat ∧ bytes.toNat ≤ AUDIT_ARCHIVE_MAX_OBJECT_BYTES := by omega
    exact ⟨members, rfl,
      ⟨hkeys, hgeneration, hcheckpoint, htype, hcontract, hcreated, by rw [hcountNat, hcount], hfirst, hkeyVersion,
        hlast, by rw [hbytesNat, hbytes], hobjectKey, hobjectSha, hplainSha, hversion⟩,
      ⟨⟨hgenerationMin, hgenerationMax⟩, ⟨hcheckpointMin, hbelow⟩, rfl, rfl, hcanonical, hcountBounds, hpattern,
        ⟨horder, hlastMax⟩, hbytesBounds, hobjectHex, hplainHex, rfl⟩⟩
  · rintro ⟨members, rfl, hdescribed, hvalid⟩
    have hself := hvalid.eq_self
    obtain ⟨hgeneration, hcheckpoint, htype, hcontract, hcanonical, hcount, hpattern, hlast, hbytes, hobjectHex,
      hplainHex, hversion⟩ := hvalid
    have hmax : MAX_SEQUENCE = MAX_SAFE_INTEGER := rfl
    exact ⟨members, ⟨rfl, hdescribed.keys⟩,
      ⟨htype ▸ hdescribed.contentType, hcontract ▸ hdescribed.contract, hversion ▸ hdescribed.schemaVersion⟩,
      manifest.firstSequence, ⟨hdescribed.firstSequence, by omega⟩,
      manifest.lastSequence, ⟨hdescribed.lastSequence, by omega⟩,
      manifest.checkpointFromSequence, ⟨hdescribed.checkpointFromSequence, by omega⟩,
      manifest.eventCount, ⟨hdescribed.eventCount, by omega⟩,
      manifest.objectBytes, ⟨hdescribed.objectBytes, by omega⟩, by omega,
      manifest.objectKey, hdescribed.objectKey,
      manifest.batchGeneration, ⟨hdescribed.batchGeneration, by omega⟩,
      manifest.createdAt, ⟨_, hdescribed.createdAt, rfl, hcanonical⟩,
      manifest.keyVersion, ⟨_, hdescribed.keyVersion, hpattern, rfl⟩,
      manifest.objectSha256, ⟨_, hdescribed.objectSha256, hobjectHex, rfl⟩,
      manifest.plaintextSha256, ⟨_, hdescribed.plaintextSha256, hplainHex, rfl⟩, hself⟩

/-- The values in the order of the keys, one by one. -/
theorem getElem?_of_map_some {keys : List Text} {values : List json.Value} {find : Text → Option json.Value}
    (hvalues : values.map some = keys.map find) {index : Nat} {key : Text} (hkey : keys[index]? = some key) :
    values[index]? = find key := by
  have hat : (values.map some)[index]? = some (find key) := by
    rw [hvalues, List.getElem?_map, hkey]
    rfl
  rw [List.getElem?_map, Option.map_eq_some_iff] at hat
  obtain ⟨value, hvalue, heq⟩ := hat
  rw [hvalue, heq]

/-- An object with these keys has a value for each. -/
theorem exists_values {keys : List Text} {members : List (Text × json.Value)}
    (hkeys : (members.map Prod.fst).Perm keys) :
    ∃ values : List json.Value, values.map some = keys.map fun key => List.lookup key members := by
  have hfound : ∀ key ∈ keys, (List.lookup key members).isSome = true := fun key hmem =>
    lookup_isSome_iff.mpr (hkeys.mem_iff.mpr hmem)
  clear hkeys
  induction keys with
  | nil => exact ⟨[], rfl⟩
  | cons key keys ih =>
    obtain ⟨values, hvalues⟩ := ih fun other hmem => hfound other (List.mem_cons_of_mem key hmem)
    obtain ⟨value, hvalue⟩ := Option.isSome_iff_exists.mp (hfound key List.mem_cons_self)
    exact ⟨value :: values, by rw [List.map_cons, List.map_cons, hvalue, hvalues]⟩

theorem manifestValues {members : List (Text × json.Value)} {values : List json.Value}
    (hvalues : values.map some = MANIFEST_KEYS.map fun key => List.lookup key members) (index : Nat) {key : String}
    (hkey : MANIFEST_KEYS[index]? = some (Text.of key)) : values[index]? = json.member members key :=
  getElem?_of_map_some hvalues hkey

/-- The restore path takes those of them whose object key is the expected one. -/
theorem restore.canonicalManifest_eq_ok_iff :
    restore.canonicalManifest value = .ok manifest ↔
      (∃ members, value = .object members ∧ manifest.DescribedBy members ∧ manifest.Valid) ∧
        manifest.objectKey =
          restore.expectedObjectKey manifest.firstSequence manifest.lastSequence manifest.objectSha256 := by
  simp only [restore.canonicalManifest, bind_eq_ok_iff, exactDataValues_eq_some_iff manifestKeys_nodup,
    throwIf_eq_ok_iff, required_eq_ok_iff, restore.boundedInteger_eq_ok_iff, pure_eq_ok_iff, exists_const, not_or,
    not_not, Int.not_le, restore.canonicalTimestamp, restore.keyVersion, restore.sha256HexValue,
    Bool.not_eq_false]
  constructor
  · rintro ⟨values, ⟨members, rfl, hkeys, hvalues⟩, hrest⟩
    rw [manifestValues hvalues 0 rfl, manifestValues hvalues 1 rfl, manifestValues hvalues 2 rfl,
      manifestValues hvalues 3 rfl, manifestValues hvalues 4 rfl, manifestValues hvalues 5 rfl,
      manifestValues hvalues 6 rfl, manifestValues hvalues 7 rfl, manifestValues hvalues 8 rfl,
      manifestValues hvalues 9 rfl, manifestValues hvalues 10 rfl, manifestValues hvalues 11 rfl,
      manifestValues hvalues 12 rfl, manifestValues hvalues 13 rfl] at hrest
    obtain ⟨⟨htype, hcontract, hversion⟩, first, ⟨hfirst, hfirstMin, hfirstMax⟩, last,
      ⟨hlast, horder, hlastMax⟩, checkpoint, ⟨hcheckpoint, hcheckpointMin, -⟩, bytes, ⟨hbytes, hbytesMin, hbytesMax⟩,
      objectSha256, ⟨_, hobjectSha, hobjectHex, rfl⟩, objectKey, hobjectKey, ⟨hbelow, hexpected⟩, generation,
      ⟨hgeneration, hgenerationMin, hgenerationMax⟩, createdAt, ⟨_, hcreated, hcanonical, rfl⟩, count,
      ⟨hcount, hcountMin, hcountMax⟩, version, ⟨_, hkeyVersion, hpattern, rfl⟩, plaintextSha256,
      ⟨_, hplainSha, hplainHex, rfl⟩, rfl⟩ := hrest
    have hcountNat : (count.toNat : Int) = count := by omega
    have hbytesNat : (bytes.toNat : Int) = bytes := by omega
    have hcountBounds : 1 ≤ count.toNat ∧ count.toNat ≤ AUDIT_ARCHIVE_MAX_RECORDS := by omega
    have hbytesBounds : 1 ≤ bytes.toNat ∧ bytes.toNat ≤ AUDIT_ARCHIVE_MAX_OBJECT_BYTES := by omega
    exact ⟨⟨members, rfl,
      ⟨hkeys, hgeneration, hcheckpoint, htype, hcontract, hcreated, by rw [hcountNat, hcount], hfirst, hkeyVersion,
        hlast, by rw [hbytesNat, hbytes], hobjectKey, hobjectSha, hplainSha, hversion⟩,
      ⟨⟨hgenerationMin, hgenerationMax⟩, ⟨hcheckpointMin, hbelow⟩, rfl, rfl, hcanonical, hcountBounds, hpattern,
        ⟨horder, hlastMax⟩, hbytesBounds, hobjectHex, hplainHex, rfl⟩⟩, hexpected⟩
  · rintro ⟨⟨members, rfl, hdescribed, hvalid⟩, hexpected⟩
    have hself := hvalid.eq_self
    obtain ⟨hgeneration, hcheckpoint, htype, hcontract, hcanonical, hcount, hpattern, hlast, hbytes, hobjectHex,
      hplainHex, hversion⟩ := hvalid
    obtain ⟨values, hvalues⟩ := exists_values hdescribed.keys
    refine ⟨values, ⟨members, rfl, hdescribed.keys, hvalues⟩, ?_⟩
    rw [manifestValues hvalues 0 rfl, manifestValues hvalues 1 rfl, manifestValues hvalues 2 rfl,
      manifestValues hvalues 3 rfl, manifestValues hvalues 4 rfl, manifestValues hvalues 5 rfl,
      manifestValues hvalues 6 rfl, manifestValues hvalues 7 rfl, manifestValues hvalues 8 rfl,
      manifestValues hvalues 9 rfl, manifestValues hvalues 10 rfl, manifestValues hvalues 11 rfl,
      manifestValues hvalues 12 rfl, manifestValues hvalues 13 rfl]
    exact ⟨⟨htype ▸ hdescribed.contentType, hcontract ▸ hdescribed.contract, hversion ▸ hdescribed.schemaVersion⟩,
      manifest.firstSequence, ⟨hdescribed.firstSequence, by omega⟩,
      manifest.lastSequence, ⟨hdescribed.lastSequence, by omega⟩,
      manifest.checkpointFromSequence, ⟨hdescribed.checkpointFromSequence, by omega⟩,
      manifest.objectBytes, ⟨hdescribed.objectBytes, by omega⟩,
      manifest.objectSha256, ⟨_, hdescribed.objectSha256, hobjectHex, rfl⟩,
      manifest.objectKey, hdescribed.objectKey, ⟨by omega, hexpected⟩,
      manifest.batchGeneration, ⟨hdescribed.batchGeneration, by omega⟩,
      manifest.createdAt, ⟨_, hdescribed.createdAt, hcanonical, rfl⟩,
      manifest.eventCount, ⟨hdescribed.eventCount, by omega⟩,
      manifest.keyVersion, ⟨_, hdescribed.keyVersion, hpattern, rfl⟩,
      manifest.plaintextSha256, ⟨_, hdescribed.plaintextSha256, hplainHex, rfl⟩, hself⟩

/-- The three modules take the same manifests, apart from the object key. -/
theorem manifests_agree (value : json.Value) (manifest : AuditArchiveManifestV1) :
    (parseManifest value = .ok manifest ↔ validatedManifest value = .ok manifest) ∧
      (restore.canonicalManifest value = .ok manifest ↔
        validatedManifest value = .ok manifest ∧
          manifest.objectKey =
            restore.expectedObjectKey manifest.firstSequence manifest.lastSequence manifest.objectSha256) := by
  rw [parseManifest_eq_ok_iff, restore.canonicalManifest_eq_ok_iff, validatedManifest_eq_ok_iff]
  exact ⟨Iff.rfl, Iff.rfl⟩

end validators

end pgid.audit
