import Mathlib.Data.List.Perm.Subperm
import PgidSso.Archive.Manifest

open checked

namespace pgid.audit

def ARCHIVE_MANIFEST_METADATA_KEY : String := "pgid-manifest-v1"
def ARCHIVE_MAX_CUSTOM_METADATA_BYTES : Nat := 2 * 1024

/-- The own data properties of an object, each under a name of its own. -/
structure Dictionary (α : Type) where
  entries : List (Text × α)
  distinct : (entries.map Prod.fst).Nodup

namespace Dictionary

variable {α : Type}

def keys (dictionary : Dictionary α) : List Text :=
  dictionary.entries.map Prod.fst

/-- `dictionary[key]`. -/
def get (dictionary : Dictionary α) (key : Text) : Option α :=
  List.lookup key dictionary.entries

end Dictionary

/-- A value of the HTTP metadata; `cacheExpiry` is an instant. -/
inductive HttpMetadataValue where
  | undefined
  | text (value : Text)
  | date (time : Int)
  deriving DecidableEq

/-- `checksums.sha256`. -/
inductive R2Checksum where
  | undefined
  | buffer (bytes : List UInt8)
  | foreign

/-- A settled read of a stream that is not done. -/
inductive StreamRead where
  | chunk (bytes : List UInt8)
  | foreign
  | failure

/-- An object of the store with its body: the stream is done after its reads. The size is
there when it is a safe integer. -/
structure R2ObjectBody where
  bodyUsed : Bool
  checksum : R2Checksum
  customMetadata : Option (Dictionary Text)
  etag : Text
  httpMetadata : Option (Dictionary HttpMetadataValue)
  key : Text
  locked : Bool
  reads : List StreamRead
  size : Option Int
  version : Text

/-- What the binding's `get` settles with; an object may throw when it is looked at. -/
inductive R2GetResponse where
  | failure
  | missing
  | unreadable
  | object (value : R2ObjectBody)

/-- `crypto.DigestStream`, or what a factory gives in its place: whether it opens, which
writes it takes after those before them, and its digest if it closes. -/
structure AuditArchiveDigestStream where
  opens : Bool
  accepts : List UInt8 → Bool
  digest : List UInt8 → Option (List UInt8)

/-- The digest stream of the platform. -/
def WebCrypto.digestStream (crypto : WebCrypto) : AuditArchiveDigestStream where
  opens := true
  accepts := fun _ => true
  digest := fun bytes => some (crypto.digest bytes)

/-- What the writer has seen of an object, but for the time; without the digest of its body
if that was not read to its end. -/
structure R2EvidenceWithoutTime where
  etag : Text
  observedBytes : Int
  readbackSha256 : Option Text
  storedSha256 : Option Text
  version : Text
  deriving DecidableEq

structure FullR2Observation where
  body : List UInt8
  evidence : R2EvidenceWithoutTime
  metadataMatches : Bool

inductive R2Observation where
  | full (value : FullR2Observation)
  | incomplete (evidence : R2EvidenceWithoutTime)
  | transient

namespace writer

/-- `SAFE_R2_TEXT_PATTERN`. -/
def safeR2Text (value : Text) : Option Text :=
  if consistsOf (fun code => code ≠ 0 && code ≠ 0x0A && code ≠ 0x0D) 1 256 value then some value else none

/-- Whether the checksum is one, and its text. -/
def storedSha256 : R2Checksum → Bool × Option Text
  | .undefined => (true, none)
  | .buffer bytes => if bytes.length = 32 then (true, some (bytesToHex bytes)) else (false, none)
  | .foreign => (false, none)

def exactMetadata (httpMetadata : Option (Dictionary HttpMetadataValue)) (customMetadata : Option (Dictionary Text))
    (manifestJson : Text) : Bool :=
  match httpMetadata, customMetadata with
  | some httpMetadata, some customMetadata =>
    let allowedHttpKeys := ["cacheControl", "cacheExpiry", "contentDisposition", "contentEncoding",
      "contentLanguage", "contentType"].map Text.of
    let customKeys := Text.sorted customMetadata.keys
    httpMetadata.keys.all (fun key => key ∈ allowedHttpKeys) &&
      httpMetadata.keys.all (fun key => key = Text.of "cacheControl" || key = Text.of "contentType" ||
        httpMetadata.get key = some .undefined) &&
      httpMetadata.get (Text.of "cacheControl") = some (.text (Text.of "no-store")) &&
      httpMetadata.get (Text.of "contentType") = some (.text AUDIT_ARCHIVE_CONTENT_TYPE) &&
      customKeys.length = 1 && customKeys[0]? = some (Text.of ARCHIVE_MANIFEST_METADATA_KEY) &&
      customMetadata.get (Text.of ARCHIVE_MANIFEST_METADATA_KEY) = some manifestJson
  | _, _ => false

/-- How the reading of a body ends; the setup that fails is that of the digest. -/
inductive BoundedRead where
  | complete (bytes : List UInt8) (sha256 : Text)
  | incomplete
  | transient
  | setupFailed
  deriving DecidableEq

/-- The loop over the reads, after `output`. -/
def readLoop (digestStream : AuditArchiveDigestStream) (size : Int) (output : List UInt8) :
    List StreamRead → BoundedRead
  | [] =>
    if (output.length : Int) ≠ size then .transient
    else
      match digestStream.digest output with
      | some digest => if digest.length ≠ 32 then .setupFailed else .complete output (bytesToHex digest)
      | none => .setupFailed
  | .chunk bytes :: reads =>
    if bytes = [] then .transient
    else if size < (output ++ bytes).length ∨ AUDIT_ARCHIVE_MAX_OBJECT_BYTES < (output ++ bytes).length then
      .incomplete
    else if digestStream.accepts (output ++ bytes) = false then .setupFailed
    else readLoop digestStream size (output ++ bytes) reads
  | .foreign :: _ => .transient
  | .failure :: _ => .transient

def boundedRead (object : R2ObjectBody) (size : Int) (digestStream : AuditArchiveDigestStream) : BoundedRead :=
  if size < 1 ∨ AUDIT_ARCHIVE_MAX_OBJECT_BYTES < size ∨ object.bodyUsed = true then .incomplete
  else if digestStream.opens = false then .setupFailed
  else if object.locked = true then .transient
  else readLoop digestStream size [] object.reads

def metadataMatches (object : R2ObjectBody) (manifest : AuditArchiveManifestV1) (manifestJson : Text) : Bool :=
  decide (object.key = manifest.objectKey) && object.size = some (manifest.objectBytes : Int) &&
    exactMetadata object.httpMetadata object.customMetadata manifestJson

/-- What the writer makes of an object, unless the setup of its reading fails. -/
def observeR2Object (object : R2ObjectBody) (manifest : AuditArchiveManifestV1) (manifestJson : Text)
    (digestStream : AuditArchiveDigestStream) : Option R2Observation :=
  let (valid, storedSha256) := storedSha256 object.checksum
  let metadataMatches := metadataMatches object manifest manifestJson
  match safeR2Text object.etag, safeR2Text object.version, object.size with
  | some etag, some version, some size =>
    let evidence := fun readbackSha256 : Option Text =>
      { etag, observedBytes := size, readbackSha256, storedSha256, version : R2EvidenceWithoutTime }
    if size < 0 then some .transient
    else if size < 1 ∨ AUDIT_ARCHIVE_MAX_OBJECT_BYTES < size ∨ valid = false then some (.incomplete (evidence none))
    else
      match boundedRead object size digestStream with
      | .complete bytes sha256 => some (.full { body := bytes, evidence := evidence (some sha256), metadataMatches })
      | .incomplete => some (.incomplete (evidence none))
      | .transient => some .transient
      | .setupFailed => none
  | _, _, _ => some .transient

def exactReadback (observation : FullR2Observation) (expected : List UInt8) (manifest : AuditArchiveManifestV1) :
    Bool :=
  observation.metadataMatches && observation.evidence.observedBytes = (manifest.objectBytes : Int) &&
    observation.evidence.readbackSha256 = some manifest.objectSha256 &&
    observation.evidence.storedSha256 = some manifest.objectSha256 && observation.body = expected

/-- The options of the writer's put. -/
def putHttpMetadata : Dictionary HttpMetadataValue where
  entries := [(Text.of "cacheControl", .text (Text.of "no-store")),
    (Text.of "contentType", .text AUDIT_ARCHIVE_CONTENT_TYPE)]
  distinct := by decide

def putCustomMetadata (manifestJson : Text) : Dictionary Text where
  entries := [(Text.of ARCHIVE_MANIFEST_METADATA_KEY, manifestJson)]
  distinct := List.pairwise_singleton _ _

end writer

namespace restore

def HTTP_METADATA_REQUIRED_KEYS : List Text :=
  ["cacheControl", "contentType"].map Text.of

def HTTP_METADATA_OPTIONAL_KEYS : List Text :=
  ["cacheExpiry", "contentDisposition", "contentEncoding", "contentLanguage"].map Text.of

def storedSha256 : R2Checksum → Option Text
  | .buffer bytes => if bytes.length = 32 then some (bytesToHex bytes) else none
  | _ => none

def exactMetadata (httpMetadata : Option (Dictionary HttpMetadataValue)) (customMetadata : Option (Dictionary Text))
    (manifestJson : Text) : Bool :=
  match httpMetadata, customMetadata with
  | some httpMetadata, some customMetadata =>
    customMetadata.entries.length = 1 &&
      customMetadata.get (Text.of ARCHIVE_MANIFEST_METADATA_KEY) = some manifestJson &&
      HTTP_METADATA_REQUIRED_KEYS.length ≤ httpMetadata.keys.length &&
      httpMetadata.keys.length ≤ HTTP_METADATA_REQUIRED_KEYS.length + HTTP_METADATA_OPTIONAL_KEYS.length &&
      httpMetadata.entries.all (fun entry =>
        let required := entry.1 ∈ HTTP_METADATA_REQUIRED_KEYS
        let optional := entry.1 ∈ HTTP_METADATA_OPTIONAL_KEYS
        (required ∨ optional) ∧ ¬ (optional ∧ entry.2 ≠ .undefined)) &&
      httpMetadata.get (Text.of "cacheControl") = some (.text (Text.of "no-store")) &&
      httpMetadata.get (Text.of "contentType") = some (.text AUDIT_ARCHIVE_CONTENT_TYPE)
  | _, _ => false

/-- What a read holds at once: the bytes that it has copied, and the chunk in hand. -/
structure Held where
  output : List UInt8
  chunk : List UInt8
  deriving DecidableEq

/-- How a read ends, and what it has held from step to step. -/
structure BoundedRead where
  result : Except AuditArchiveRestoreErrorCode (List UInt8)
  held : List Held

/-- The loop over the reads, after `output`: a chunk is held when it has been read, and once more
when it has been copied. -/
def readLoop (expectedBytes : Nat) (output : List UInt8) : List StreamRead → BoundedRead
  | [] =>
    if output.length ≠ expectedBytes then { result := .error .sizeMismatch, held := [] }
    else { result := .ok output, held := [] }
  | .chunk bytes :: reads =>
    if bytes = [] then { result := .error .streamFailed, held := [⟨output, bytes⟩] }
    else if expectedBytes - output.length < bytes.length then
      { result := .error .boundsExceeded, held := [⟨output, bytes⟩] }
    else
      let rest := readLoop expectedBytes (output ++ bytes) reads
      { rest with held := ⟨output, bytes⟩ :: ⟨output ++ bytes, bytes⟩ :: rest.held }
  | .foreign :: _ => { result := .error .streamFailed, held := [] }
  | .failure :: _ => { result := .error .streamFailed, held := [] }

def boundedObjectRead (object : R2ObjectBody) (expectedBytes : Nat) : BoundedRead :=
  if object.bodyUsed = true ∨ object.locked = true then { result := .error .streamFailed, held := [] }
  else readLoop expectedBytes [] object.reads

end restore

section metadata

variable {α : Type} {dictionary : Dictionary α} {key : Text} {value : α}

theorem Dictionary.get_eq_some_iff : dictionary.get key = some value ↔ (key, value) ∈ dictionary.entries := by
  obtain ⟨entries, hdistinct⟩ := dictionary
  simp only [Dictionary.get]
  induction entries with
  | nil => simp
  | cons entry entries ih =>
    obtain ⟨name, found⟩ := entry
    rw [List.map_cons, List.nodup_cons] at hdistinct
    by_cases heq : key = name
    · subst heq
      have hother : (key, value) ∉ entries := fun hmem => hdistinct.1 (List.mem_map.mpr ⟨(key, value), hmem, rfl⟩)
      simp [hother, eq_comm]
    · have hne : (key == name) = false := by simpa using heq
      simp only [List.lookup_cons, hne, ih hdistinct.2, List.mem_cons, Prod.mk.injEq, heq, false_and, false_or]

theorem Dictionary.mem_keys_of_get (hget : dictionary.get key = some value) : key ∈ dictionary.keys :=
  List.mem_map.mpr ⟨(key, value), Dictionary.get_eq_some_iff.mp hget, rfl⟩

/-- The names of a dictionary are no more than those allowed. -/
theorem Dictionary.length_keys_le {allowed : List Text} (hallowed : ∀ key ∈ dictionary.keys, key ∈ allowed) :
    dictionary.keys.length ≤ allowed.length :=
  (List.subperm_of_subset dictionary.distinct hallowed).length_le

theorem Dictionary.le_length_keys {required : List Text} (hdistinct : required.Nodup)
    (hrequired : ∀ key ∈ required, key ∈ dictionary.keys) : required.length ≤ dictionary.keys.length :=
  (List.subperm_of_subset hdistinct hrequired).length_le

/-- One member under a name: that name is the only key. -/
theorem Dictionary.single_iff :
    (dictionary.entries.length = 1 ∧ dictionary.get key = some value) ↔ dictionary.entries = [(key, value)] := by
  rw [Dictionary.get_eq_some_iff]
  constructor
  · rintro ⟨hlength, hmem⟩
    obtain ⟨entry, hentry⟩ := List.length_eq_one_iff.mp hlength
    rw [hentry, List.mem_singleton] at hmem
    rw [hentry, hmem]
  · intro hentries
    rw [hentries]
    exact ⟨rfl, List.mem_singleton.mpr rfl⟩

/-- The HTTP metadata that the writer puts; what it does not put may stand there undefined. -/
structure HttpMetadataExact (http : Dictionary HttpMetadataValue) : Prop where
  cacheControl : http.get (Text.of "cacheControl") = some (.text (Text.of "no-store"))
  contentType : http.get (Text.of "contentType") = some (.text AUDIT_ARCHIVE_CONTENT_TYPE)
  others : ∀ entry ∈ http.entries, entry.1 ∈ restore.HTTP_METADATA_REQUIRED_KEYS ∨
    (entry.1 ∈ restore.HTTP_METADATA_OPTIONAL_KEYS ∧ entry.2 = .undefined)

theorem requiredKeys_not_optional :
    ∀ key ∈ restore.HTTP_METADATA_REQUIRED_KEYS, key ∉ restore.HTTP_METADATA_OPTIONAL_KEYS := by
  decide

theorem mem_requiredKeys {key : Text} : key ∈ restore.HTTP_METADATA_REQUIRED_KEYS ↔
    key = Text.of "cacheControl" ∨ key = Text.of "contentType" := by
  simp [restore.HTTP_METADATA_REQUIRED_KEYS]

/-- The writer's set of keys. -/
theorem mem_allowedKeys {key : Text} :
    key ∈ ["cacheControl", "cacheExpiry", "contentDisposition", "contentEncoding", "contentLanguage",
        "contentType"].map Text.of ↔
      key ∈ restore.HTTP_METADATA_REQUIRED_KEYS ∨ key ∈ restore.HTTP_METADATA_OPTIONAL_KEYS := by
  have hperm : (["cacheControl", "cacheExpiry", "contentDisposition", "contentEncoding", "contentLanguage",
      "contentType"].map Text.of).Perm
        (restore.HTTP_METADATA_REQUIRED_KEYS ++ restore.HTTP_METADATA_OPTIONAL_KEYS) := by decide
  rw [hperm.mem_iff, List.mem_append]

theorem sortedKeys_single_iff {custom : Dictionary Text} {key : Text} :
    ((Text.sorted custom.keys).length = 1 ∧ (Text.sorted custom.keys)[0]? = some key) ↔ custom.keys = [key] := by
  rw [Text.sorted, List.length_mergeSort]
  constructor
  · rintro ⟨hlength, hfirst⟩
    obtain ⟨only, honly⟩ := List.length_eq_one_iff.mp hlength
    rw [honly, List.mergeSort_singleton] at hfirst
    rw [honly, Option.some.inj hfirst]
  · intro hkeys
    rw [hkeys, List.mergeSort_singleton]
    exact ⟨rfl, rfl⟩

theorem writer.exactMetadata_iff {http : Dictionary HttpMetadataValue} {custom : Dictionary Text}
    {manifestJson : Text} : writer.exactMetadata (some http) (some custom) manifestJson = true ↔
      HttpMetadataExact http ∧ custom.entries = [(Text.of ARCHIVE_MANIFEST_METADATA_KEY, manifestJson)] := by
  simp only [writer.exactMetadata, Bool.and_eq_true, List.all_eq_true, decide_eq_true_eq, Bool.or_eq_true,
    mem_allowedKeys]
  constructor
  · rintro ⟨⟨⟨⟨⟨⟨hallowed, hundefined⟩, hcache⟩, htype⟩, hlength⟩, hfirst⟩, hmanifest⟩
    have hentries : custom.entries.length = 1 := by
      rw [← List.length_map (f := Prod.fst)]
      exact congrArg List.length (sortedKeys_single_iff.mp ⟨hlength, hfirst⟩)
    refine ⟨⟨hcache, htype, ?_⟩, Dictionary.single_iff.mp ⟨hentries, hmanifest⟩⟩
    intro entry hmem
    have hkey : entry.1 ∈ http.keys := List.mem_map.mpr ⟨entry, hmem, rfl⟩
    rcases hallowed entry.1 hkey with hrequired | hoptional
    · exact .inl hrequired
    · rcases hundefined entry.1 hkey with (hname | hname) | hvalue
      · exact .inl (mem_requiredKeys.mpr (.inl hname))
      · exact .inl (mem_requiredKeys.mpr (.inr hname))
      · rw [Dictionary.get_eq_some_iff.mpr (show (entry.1, entry.2) ∈ http.entries from hmem),
          Option.some.injEq] at hvalue
        exact .inr ⟨hoptional, hvalue⟩
  · rintro ⟨⟨hcache, htype, hothers⟩, hentries⟩
    have hkeys : custom.keys = [Text.of ARCHIVE_MANIFEST_METADATA_KEY] := by
      rw [Dictionary.keys, hentries]
      rfl
    obtain ⟨hlength, hfirst⟩ := sortedKeys_single_iff.mpr hkeys
    refine ⟨⟨⟨⟨⟨⟨?_, ?_⟩, hcache⟩, htype⟩, hlength⟩, hfirst⟩, (Dictionary.single_iff.mpr hentries).2⟩
    · intro key hkey
      obtain ⟨entry, hmem, rfl⟩ := List.mem_map.mp hkey
      rcases hothers entry hmem with hrequired | ⟨hoptional, -⟩
      · exact .inl hrequired
      · exact .inr hoptional
    · intro key hkey
      obtain ⟨entry, hmem, rfl⟩ := List.mem_map.mp hkey
      rcases hothers entry hmem with hrequired | ⟨-, hvalue⟩
      · exact .inl (mem_requiredKeys.mp hrequired)
      · refine .inr (Dictionary.get_eq_some_iff.mpr ?_)
        rw [← hvalue]
        exact hmem

theorem restore.exactMetadata_iff {http : Dictionary HttpMetadataValue} {custom : Dictionary Text}
    {manifestJson : Text} : restore.exactMetadata (some http) (some custom) manifestJson = true ↔
      HttpMetadataExact http ∧ custom.entries = [(Text.of ARCHIVE_MANIFEST_METADATA_KEY, manifestJson)] := by
  simp only [restore.exactMetadata, Bool.and_eq_true, List.all_eq_true, decide_eq_true_eq]
  constructor
  · rintro ⟨⟨⟨⟨⟨⟨hlength, hmanifest⟩, -⟩, -⟩, hothers⟩, hcache⟩, htype⟩
    refine ⟨⟨hcache, htype, ?_⟩, Dictionary.single_iff.mp ⟨hlength, hmanifest⟩⟩
    intro entry hmem
    obtain ⟨hknown, hundefined⟩ := hothers entry hmem
    rcases hknown with hrequired | hoptional
    · exact .inl hrequired
    · refine .inr ⟨hoptional, ?_⟩
      by_contra hvalue
      exact hundefined ⟨hoptional, hvalue⟩
  · rintro ⟨⟨hcache, htype, hothers⟩, hentries⟩
    obtain ⟨hlength, hmanifest⟩ := Dictionary.single_iff.mpr hentries
    refine ⟨⟨⟨⟨⟨⟨hlength, hmanifest⟩, ?_⟩, ?_⟩, ?_⟩, hcache⟩, htype⟩
    · apply Dictionary.le_length_keys (by decide)
      intro key hkey
      rcases mem_requiredKeys.mp hkey with rfl | rfl
      · exact Dictionary.mem_keys_of_get hcache
      · exact Dictionary.mem_keys_of_get htype
    · have hallowed : ∀ key ∈ http.keys,
          key ∈ restore.HTTP_METADATA_REQUIRED_KEYS ++ restore.HTTP_METADATA_OPTIONAL_KEYS := by
        intro key hkey
        obtain ⟨entry, hmem, rfl⟩ := List.mem_map.mp hkey
        rcases hothers entry hmem with hrequired | ⟨hoptional, -⟩
        · exact List.mem_append_left _ hrequired
        · exact List.mem_append_right _ hoptional
      exact Dictionary.length_keys_le hallowed
    · intro entry hmem
      rcases hothers entry hmem with hrequired | ⟨hoptional, hvalue⟩
      · exact ⟨.inl hrequired, fun hnot => requiredKeys_not_optional entry.1 hrequired hnot.1⟩
      · exact ⟨.inr hoptional, fun hnot => hnot.2 hvalue⟩

/-- The two modules take the same metadata. -/
theorem exactMetadata_agree (httpMetadata : Option (Dictionary HttpMetadataValue))
    (customMetadata : Option (Dictionary Text)) (manifestJson : Text) :
    writer.exactMetadata httpMetadata customMetadata manifestJson =
      restore.exactMetadata httpMetadata customMetadata manifestJson := by
  cases httpMetadata with
  | none => rfl
  | some http =>
    cases customMetadata with
    | none => rfl
    | some custom => rw [Bool.eq_iff_iff, writer.exactMetadata_iff, restore.exactMetadata_iff]

end metadata

end pgid.audit
