import PgidSso.Archive.Seal
import PgidSso.Library.Btoa

open checked

namespace pgid.audit.codec

/-- What the functions of the codec throw: their own errors, and that of `btoa`. -/
inductive Thrown where
  | failed (code : AuditArchiveCryptoErrorCode)
  | invalidCharacter
  deriving DecidableEq

/-- The bytes that one call of `String.fromCharCode` gets. -/
def chunkBytes : Nat := 0x8000

/-- The loop of `bytesToBase64Url` from an offset on. -/
def binaryFrom (bytes : List UInt8) (offset : Nat) (binary : Text) : Text :=
  if offset < bytes.length then
    binaryFrom bytes (offset + chunkBytes) (binary ++ Text.latin1 ((bytes.drop offset).take chunkBytes))
  else binary
termination_by bytes.length - offset
decreasing_by
  have hpos : 0 < chunkBytes := Nat.two_pow_pos 15
  omega

def bytesToBase64Url (bytes : List UInt8) : Except Thrown Text :=
  match base64.btoa (binaryFrom bytes 0 []) with
  | none => throw .invalidCharacter
  | some encoded => return base64.toUrl encoded

/-- `BASE64URL_PATTERN`. -/
def isBase64UrlText (value : Text) : Bool :=
  value ≠ [] && value.all isBase64Url

/-- A value that is no text has no characters to decode. -/
def base64UrlToBytes (value : json.Value) (expectedLength : Option Nat) : Except Thrown (List UInt8) := do
  match value with
  | .string value =>
    throwIf (value.length = 0 ∨ isBase64UrlText value = false) (.failed .invalidInput)
    match base64.atob (base64.fromUrl value) with
    | none => throw (.failed .invalidInput)
    | some binary =>
      let bytes := binary.charCodes
      throwIf (∃ length ∈ expectedLength, bytes.length ≠ length) (.failed .invalidInput)
      let encoded ← bytesToBase64Url bytes
      throwIf (encoded ≠ value) (.failed .invalidInput)
      return bytes
  | _ => throw (.failed .invalidInput)

section codec

variable {bytes : List UInt8} {value : Text} {expectedLength : Option Nat}

/-- The chunks of the loop make up all the bytes. -/
theorem binaryFrom_eq (offset : Nat) (binary : Text) :
    binaryFrom bytes offset binary = binary ++ Text.latin1 (bytes.drop offset) := by
  induction offset, binary using binaryFrom.induct bytes with
  | case1 offset binary hmore ih =>
    rw [binaryFrom, if_pos hmore, ih, List.append_assoc, ← Text.latin1_append, ← List.drop_drop, List.take_append_drop]
  | case2 offset binary hdone =>
    rw [binaryFrom, if_neg hdone, List.drop_eq_nil_of_le (Nat.not_lt.mp hdone)]
    exact (List.append_nil binary).symm

/-- The codec writes unpadded base64url, however long the bytes are. -/
theorem bytesToBase64Url_eq (bytes : List UInt8) : bytesToBase64Url bytes = .ok (pgid.audit.bytesToBase64Url bytes) := by
  have hbinary : binaryFrom bytes 0 [] = Text.latin1 bytes := by
    rw [binaryFrom_eq, List.drop_zero, List.nil_append]
  rw [bytesToBase64Url, hbinary, base64.btoa, if_pos (Text.binary_latin1 bytes), Text.charCodes_latin1]
  exact congrArg Except.ok base64.toUrl_encodePadded

set_option maxRecDepth 20000 in
theorem isBase64Url_eq (code : UInt16) : isBase64Url code = base64.isCharacter code := by
  by_cases hascii : code < 0x80
  · exact Text.forall_ascii (P := fun code => isBase64Url code = base64.isCharacter code) (by decide) hascii
  · have halphabet : base64.alphabet.Ascii := by decide
    have hforeign : ¬ base64.isCharacter code = true := fun hcode => hascii (halphabet code (of_decide_eq_true hcode))
    rw [Bool.eq_false_iff.mpr hforeign, Bool.eq_false_iff]
    intro hcode
    apply hascii
    simp only [isBase64Url, isAlphanumeric, isUpper, isLower, json.isDigit, Bool.or_eq_true, decide_eq_true_eq] at hcode
    obtain ((⟨_, hhigh⟩ | ⟨_, hhigh⟩) | ⟨_, hhigh⟩) | hmem := hcode
    · exact UInt16.lt_of_le_of_lt hhigh (by decide)
    · exact UInt16.lt_of_le_of_lt hhigh (by decide)
    · exact UInt16.lt_of_le_of_lt hhigh (by decide)
    · have hothers : Text.Ascii (Text.of "_-") := by decide
      exact hothers code hmem

theorem isBase64UrlText_iff :
    isBase64UrlText value = true ↔ value ≠ [] ∧ ∀ code ∈ value, base64.isCharacter code = true := by
  simp only [isBase64UrlText, Bool.and_eq_true, decide_eq_true_eq, List.all_eq_true, isBase64Url_eq]

/-- Accepted is what the bytes are written as, if there are bytes and as many as expected. -/
theorem base64UrlToBytes_eq_ok_iff : base64UrlToBytes (.string value) expectedLength = .ok bytes ↔
    value = pgid.audit.bytesToBase64Url bytes ∧ bytes ≠ [] ∧ ∀ length ∈ expectedLength, bytes.length = length := by
  have hunexpected : ∀ read : List UInt8, (¬ ∃ length ∈ expectedLength, read.length ≠ length) ↔
      ∀ length ∈ expectedLength, read.length = length := by
    intro read
    simp only [not_exists, not_and, Decidable.not_not]
  rw [base64UrlToBytes, throwIf_bind_eq_ok_iff, not_or, Bool.not_eq_false, isBase64UrlText_iff]
  constructor
  · rintro ⟨⟨-, hne, hcharacters⟩, hread⟩
    rw [base64.atob_fromUrl hcharacters] at hread
    cases hdecode : base64.decode value with
    | none =>
      rw [hdecode] at hread
      cases hread
    | some read =>
      simp only [hdecode, Option.map_some, Text.charCodes_latin1, bytesToBase64Url_eq, ok_bind] at hread
      rw [throwIf_bind_eq_ok_iff, throwIf_bind_eq_ok_iff, pure_eq_ok_iff, hunexpected, Decidable.not_not] at hread
      obtain ⟨hexpected, hsame, rfl⟩ := hread
      refine ⟨hsame.symm, ?_, hexpected⟩
      rintro rfl
      exact hne hsame.symm
  · rintro ⟨rfl, hne, hexpected⟩
    have hcharacters := base64.isCharacter_encode bytes
    have hlength : (pgid.audit.bytesToBase64Url bytes).length ≠ 0 := by
      have hpos := List.length_pos_iff.mpr hne
      rw [pgid.audit.bytesToBase64Url, base64.length_encode, base64.encodedLength]
      omega
    refine ⟨⟨hlength, fun hempty => hlength (List.length_eq_zero_iff.mpr hempty), hcharacters⟩, ?_⟩
    have hatob : base64.atob (base64.fromUrl (pgid.audit.bytesToBase64Url bytes)) = some (Text.latin1 bytes) := by
      rw [pgid.audit.bytesToBase64Url, base64.atob_fromUrl hcharacters, base64.decode_encode, Option.map_some]
    simp only [hatob, Text.charCodes_latin1, bytesToBase64Url_eq, ok_bind]
    rw [throwIf_bind_eq_ok_iff, throwIf_bind_eq_ok_iff, pure_eq_ok_iff, hunexpected, Decidable.not_not]
    exact ⟨hexpected, rfl, rfl⟩

end codec

/-- The shape of what the codec writes: characters of base64url without padding, no single
character at the end, and no bits set that a shorter last group has too many. -/
structure Canonical (text : Text) : Prop where
  characters : ∀ code ∈ text, isBase64Url code = true
  unpadded : base64.padding ∉ text
  length : text.length % 4 ≠ 1
  trailing : ∀ last ∈ text.getLast?, ∀ value ∈ base64.value? last,
    (text.length % 4 = 2 → value % 16 = 0) ∧ (text.length % 4 = 3 → value % 4 = 0)

theorem canonical_bytesToBase64Url (bytes : List UInt8) : Canonical (pgid.audit.bytesToBase64Url bytes) where
  characters := by
    intro code hcode
    rw [isBase64Url_eq]
    exact base64.isCharacter_encode bytes code hcode
  unpadded := fun hpadding => base64.encode_ne_padding base64.padding hpadding rfl
  length := by
    rw [pgid.audit.bytesToBase64Url, base64.length_encode, base64.encodedLength]
    omega
  trailing := base64.trailing_encode

/-- What is written is read back, unless it is empty or not of the expected length, and read is only
what is written so. -/
theorem base64Url_bijective (bytes : List UInt8) (value : json.Value) (expectedLength : Option Nat) :
    ((∃ text, bytesToBase64Url bytes = .ok text ∧ base64UrlToBytes (.string text) expectedLength = .ok bytes) ↔
      bytes ≠ [] ∧ ∀ length ∈ expectedLength, bytes.length = length) ∧
    (base64UrlToBytes value expectedLength = .ok bytes →
      ∃ text, value = .string text ∧ bytesToBase64Url bytes = .ok text ∧ Canonical text) := by
  constructor
  · constructor
    · rintro ⟨text, -, hread⟩
      exact (base64UrlToBytes_eq_ok_iff.mp hread).2
    · intro hlimits
      exact ⟨_, bytesToBase64Url_eq bytes, base64UrlToBytes_eq_ok_iff.mpr ⟨rfl, hlimits⟩⟩
  · intro hread
    cases value with
    | string text =>
      obtain ⟨rfl, -⟩ := base64UrlToBytes_eq_ok_iff.mp hread
      exact ⟨_, rfl, bytesToBase64Url_eq bytes, canonical_bytesToBase64Url bytes⟩
    | null => cases hread
    | bool value => cases hread
    | number literal => cases hread
    | array elements => cases hread
    | object members => cases hread

end pgid.audit.codec
