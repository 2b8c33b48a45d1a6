import PgidSso.Archive.Seal

open checked

namespace pgid.audit

section plain

theorem encode_plain (bytes : List UInt8) : json.Plain (base64.encode bytes) := by
  have hsextet : ∀ value, json.Plain [base64.sextet value] := by
    intro value
    have hall : ∀ index < 64, json.Plain [base64.alphabet.getD index 0] := by set_option maxRecDepth 20000 in decide
    exact hall (value % 64) (Nat.mod_lt value (by decide))
  intro code hmem
  have hcharacter : ∃ value, code = base64.sextet value := by
    induction bytes using base64.encode.induct with
    | case1 first second third rest ih =>
      simp only [base64.encode, List.mem_cons] at hmem
      rcases hmem with rfl | rfl | rfl | rfl | hmem
      · exact ⟨_, rfl⟩
      · exact ⟨_, rfl⟩
      · exact ⟨_, rfl⟩
      · exact ⟨_, rfl⟩
      · exact ih hmem
    | case2 first second =>
      simp only [base64.encode, List.mem_cons, List.not_mem_nil, or_false] at hmem
      rcases hmem with rfl | rfl | rfl <;> exact ⟨_, rfl⟩
    | case3 first =>
      simp only [base64.encode, List.mem_cons, List.not_mem_nil, or_false] at hmem
      rcases hmem with rfl | rfl <;> exact ⟨_, rfl⟩
    | case4 => exact absurd hmem List.not_mem_nil
  obtain ⟨value, rfl⟩ := hcharacter
  exact hsextet value _ List.mem_cons_self

theorem hexDigit_mem {value : Nat} (hvalue : value < 16) :
    json.hexDigit value ∈ Text.of "0123456789abcdef" := by
  have hall : ∀ digit < 16, json.hexDigit digit ∈ Text.of "0123456789abcdef" := by decide
  exact hall value hvalue

theorem bytesToHex_mem {bytes : List UInt8} {code : UInt16} (hmem : code ∈ bytesToHex bytes) :
    code ∈ Text.of "0123456789abcdef" := by
  rw [bytesToHex, List.mem_flatMap] at hmem
  obtain ⟨byte, -, hmem⟩ := hmem
  have hbyte := byte.toNat_lt
  rw [List.mem_cons, List.mem_singleton] at hmem
  rcases hmem with rfl | rfl
  · exact hexDigit_mem (by omega)
  · exact hexDigit_mem (by omega)

theorem length_bytesToHex (bytes : List UInt8) : (bytesToHex bytes).length = 2 * bytes.length := by
  induction bytes with
  | nil => rfl
  | cons byte bytes ih =>
    rw [bytesToHex, List.flatMap_cons, List.length_append, ← bytesToHex, ih]
    simp only [List.length_cons, List.length_nil]
    omega

theorem bytesToHex_plain (bytes : List UInt8) : json.Plain (bytesToHex bytes) := by
  intro code hmem
  have hplain : json.Plain (Text.of "0123456789abcdef") := by decide
  exact hplain code (bytesToHex_mem hmem)

/-- A digest has the form that object keys require. -/
theorem isSha256Hex_digest (crypto : WebCrypto) (data : List UInt8) :
    isSha256Hex (bytesToHex (crypto.digest data)) = true := by
  have hlength : (bytesToHex (crypto.digest data)).length = 64 := by
    rw [length_bytesToHex, crypto.digest_length]
  have hdigits : (Text.of "0123456789abcdef").all
      (fun code => json.isDigit code || code ∈ Text.of "abcdef") = true := by decide
  simp only [isSha256Hex, consistsOf, hlength, le_refl, decide_true, Bool.and_true, List.all_eq_true]
  intro code hmem
  exact List.all_eq_true.mp hdigits code (bytesToHex_mem hmem)

theorem plain_of_isDigit {code : UInt16} (hdigit : json.isDigit code = true) : json.Plain [code] := by
  simp only [json.isDigit, Bool.decide_and, Bool.and_eq_true, decide_eq_true_eq] at hdigit
  obtain ⟨hlow, hhigh⟩ := hdigit
  have hone : 0x20 ≤ code ∧ code < 0x80 :=
    ⟨UInt16.le_trans (by decide) hlow, UInt16.lt_of_le_of_lt hhigh (by decide)⟩
  intro other hmem
  rw [List.mem_singleton] at hmem
  subst hmem
  refine ⟨hone.1, hone.2, ?_, ?_⟩
  · rintro rfl
    exact absurd hlow (by decide)
  · rintro rfl
    exact absurd hhigh (by decide)

theorem plain_of_digits {text : Text} (hdigits : text.all json.isDigit = true) : json.Plain text := by
  intro code hmem
  rw [List.all_eq_true] at hdigits
  exact plain_of_isDigit (hdigits code hmem) code List.mem_cons_self

theorem keyVersion_plain {value : Text} (hversion : isKeyVersion value = true) : json.Plain value := by
  unfold isKeyVersion at hversion
  split at hversion
  · rename_i letter first rest
    simp only [Bool.and_eq_true, decide_eq_true_eq, consistsOf] at hversion
    obtain ⟨⟨⟨rfl, hfirst⟩, -⟩, ⟨hrest, -⟩, -⟩ := hversion
    intro code hmem
    rcases List.mem_cons.mp hmem with rfl | hmem
    · decide
    · rcases List.mem_cons.mp hmem with rfl | hmem
      · exact plain_of_isDigit hfirst _ List.mem_cons_self
      · exact plain_of_digits hrest code hmem
  · exact absurd hversion Bool.false_ne_true

theorem number?_isSome {text : Text} (hnumber : (number? text).isSome = true) :
    text.all json.isDigit = true := by
  unfold number? at hnumber
  split at hnumber
  · assumption
  · exact absurd hnumber Bool.false_ne_true

theorem canonicalTimestamp_length {value : Text} (hvalue : isCanonicalTimestamp value = true) :
    value.length = 24 := by
  simp only [isCanonicalTimestamp, Bool.and_eq_true, decide_eq_true_eq] at hvalue
  exact hvalue.1.1.1.1.1.1.1.1

/-- Every character of a canonical timestamp is a digit or a separator. -/
theorem canonicalTimestamp_plain {value : Text} (hvalue : isCanonicalTimestamp value = true) :
    json.Plain value := by
  have hlength := canonicalTimestamp_length hvalue
  simp only [isCanonicalTimestamp, Bool.and_eq_true, decide_eq_true_eq] at hvalue
  obtain ⟨⟨⟨⟨⟨⟨⟨⟨-, h4⟩, h7⟩, h10⟩, h13⟩, h16⟩, h19⟩, h23⟩, hnumbers⟩ := hvalue
  split at hnumbers
  · rename_i hyear hmonth hday hhour hminute hsecond hmillisecond
    have hdigits : ∀ {part : Text} {number : Nat}, number? part = some number → json.Plain part :=
      fun hnumber => plain_of_digits (number?_isSome (by rw [hnumber]; rfl))
    have hsplit : value = (value.drop 0).take 4 ++ ((value.drop 4).take 1 ++ ((value.drop 5).take 2 ++
        ((value.drop 7).take 1 ++ ((value.drop 8).take 2 ++ ((value.drop 10).take 1 ++
        ((value.drop 11).take 2 ++ ((value.drop 13).take 1 ++ ((value.drop 14).take 2 ++
        ((value.drop 16).take 1 ++ ((value.drop 17).take 2 ++ ((value.drop 19).take 1 ++
        ((value.drop 20).take 3 ++ (value.drop 23).take 1)))))))))))) := by
      have hstep : ∀ start size, value.drop start = (value.drop start).take size ++ value.drop (start + size) := by
        intro start size
        rw [← List.drop_drop]
        exact (List.take_append_drop size (value.drop start)).symm
      have hlast : (value.drop 23).take 1 = value.drop 23 := by
        apply List.take_of_length_le
        rw [List.length_drop, hlength]
      rw [hlast, ← hstep 20 3, ← hstep 19 1, ← hstep 17 2, ← hstep 16 1, ← hstep 14 2, ← hstep 13 1,
        ← hstep 11 2, ← hstep 10 1, ← hstep 8 2, ← hstep 7 1, ← hstep 5 2, ← hstep 4 1, ← hstep 0 4,
        List.drop_zero]
    rw [hsplit, h4, h7, h10, h13, h16, h19, h23]
    simp only [json.plain_append]
    exact ⟨hdigits hyear, by decide, hdigits hmonth, by decide, hdigits hday, by decide, hdigits hhour,
      by decide, hdigits hminute, by decide, hdigits hsecond, by decide, hdigits hmillisecond, by decide⟩
  · exact absurd hnumbers Bool.false_ne_true

end plain

namespace ArchiveHeaderV1

/-- The characters of the header's numbers and of its key version. -/
def fieldBytes (header : ArchiveHeaderV1) : Nat :=
  (json.integer header.batchGeneration).length + (json.integer header.checkpointFromSequence).length +
    (json.integer header.eventCount).length + (json.integer header.firstSequence).length +
    header.keyVersion.length + (json.integer header.lastSequence).length

/-- What the seal puts into the texts of its header. -/
structure Canonical (header : ArchiveHeaderV1) : Prop where
  createdAt : isCanonicalTimestamp header.createdAt = true
  keyVersion : isKeyVersion header.keyVersion = true
  plaintextSha256 : ∃ bytes : List UInt8, bytes.length = 32 ∧ header.plaintextSha256 = bytesToHex bytes

variable {header : ArchiveHeaderV1}

theorem Canonical.sha256_plain (hheader : header.Canonical) :
    json.Plain header.plaintextSha256 ∧ header.plaintextSha256.length = 64 := by
  obtain ⟨bytes, hlength, hsha256⟩ := hheader.plaintextSha256
  rw [hsha256, length_bytesToHex, hlength]
  exact ⟨bytesToHex_plain bytes, rfl⟩

theorem length_text (hheader : header.Canonical) : header.text.length = 328 + header.fieldBytes := by
  obtain ⟨hsha256, hsha256Length⟩ := hheader.sha256_plain
  have hcreatedAt := canonicalTimestamp_plain hheader.createdAt
  have hcreatedAtLength := canonicalTimestamp_length hheader.createdAt
  have hkeyVersion := keyVersion_plain hheader.keyVersion
  have hcontract : (json.string AUDIT_ARCHIVE_ENVELOPE_CONTRACT).length = 23 := by decide
  have hencryption : (json.string (Text.of "A256GCM")).length = 9 := by decide
  have hkeyWrap : (json.string (Text.of "A256KW")).length = 8 := by decide
  have hversion : (json.integer 1).length = 1 := by decide
  have hkeys : ∀ key ∈ ["batchGeneration", "checkpointFromSequence", "contract", "createdAt", "encryption",
      "eventCount", "firstSequence", "keyVersion", "keyWrap", "lastSequence", "plaintextSha256",
      "schemaVersion"], json.Plain (Text.of key) := by set_option maxRecDepth 20000 in decide
  rw [text, json.length_object]
  · simp only [List.map_cons, List.map_nil, json.separatedLength, hcontract, hencryption, hkeyWrap, hversion,
      json.length_string_of_plain hsha256, hsha256Length, json.length_string_of_plain hcreatedAt,
      hcreatedAtLength, json.length_string_of_plain hkeyVersion]
    have hlengths : (Text.of "batchGeneration").length = 15 ∧ (Text.of "checkpointFromSequence").length = 22 ∧
        (Text.of "contract").length = 8 ∧ (Text.of "createdAt").length = 9 ∧
        (Text.of "encryption").length = 10 ∧ (Text.of "eventCount").length = 10 ∧
        (Text.of "firstSequence").length = 13 ∧ (Text.of "keyVersion").length = 10 ∧
        (Text.of "keyWrap").length = 7 ∧ (Text.of "lastSequence").length = 12 ∧
        (Text.of "plaintextSha256").length = 15 ∧ (Text.of "schemaVersion").length = 13 := by decide
    rw [fieldBytes]
    omega
  · simpa using hkeys

theorem text_ascii (hheader : header.Canonical) : header.text.Ascii := by
  obtain ⟨hsha256, -⟩ := hheader.sha256_plain
  have hcreatedAt := canonicalTimestamp_plain hheader.createdAt
  have hkeyVersion := keyVersion_plain hheader.keyVersion
  apply json.object_ascii
  simp only [List.forall_mem_cons, List.not_mem_nil, false_imp_iff, implies_true, and_true,
    json.integer_ascii, json.string_ascii_of_plain hsha256, json.string_ascii_of_plain hcreatedAt,
    json.string_ascii_of_plain hkeyVersion]
  set_option maxRecDepth 20000 in decide

end ArchiveHeaderV1

/-- The bytes of an envelope apart from the text of its ciphertext. -/
def envelopeOverheadBytes (fieldBytes : Nat) : Nat :=
  452 + fieldBytes

theorem length_canonicalEnvelopeBytes {header : ArchiveHeaderV1} {ciphertext nonce wrappedDek : List UInt8}
    (hheader : header.Canonical) (hnonce : nonce.length = AES_GCM_NONCE_BYTES)
    (hwrapped : wrappedDek.length = AES_KW_WRAPPED_256_BYTES) :
    (canonicalEnvelopeBytes (bytesToBase64Url ciphertext) header (bytesToBase64Url nonce)
      (bytesToBase64Url wrappedDek)).length =
        base64.encodedLength ciphertext.length + envelopeOverheadBytes header.fieldBytes := by
  have hplain := encode_plain
  have hkeys : ∀ key ∈ ["ciphertext", "header", "nonce", "wrappedDek"], json.Plain (Text.of key) := by
    set_option maxRecDepth 20000 in decide
  have hascii : (envelopeText (bytesToBase64Url ciphertext) header (bytesToBase64Url nonce)
      (bytesToBase64Url wrappedDek)).Ascii := by
    apply json.object_ascii
    simp only [List.forall_mem_cons, List.not_mem_nil, false_imp_iff, implies_true, and_true,
      bytesToBase64Url, json.string_ascii_of_plain (hplain _), header.text_ascii hheader]
    simpa using hkeys
  rw [canonicalEnvelopeBytes, Text.length_encode_of_ascii hascii, envelopeText, json.length_object]
  · simp only [List.map_cons, List.map_nil, json.separatedLength, bytesToBase64Url,
      json.length_string_of_plain (hplain _), base64.length_encode, hnonce, hwrapped,
      ArchiveHeaderV1.length_text hheader]
    have hlengths : (Text.of "ciphertext").length = 10 ∧ (Text.of "header").length = 6 ∧
        (Text.of "nonce").length = 5 ∧ (Text.of "wrappedDek").length = 10 := by decide
    simp only [base64.encodedLength, AES_GCM_NONCE_BYTES, AES_KW_WRAPPED_256_BYTES, envelopeOverheadBytes]
    omega
  · simpa using hkeys

end pgid.audit
