import PgidSso.Recovery.Payload

open checked

namespace pgid.recovery

section canonical

def isUpper (code : UInt16) : Bool :=
  Text.unit 'A' ≤ code ∧ code ≤ Text.unit 'Z'

def isLower (code : UInt16) : Bool :=
  Text.unit 'a' ≤ code ∧ code ≤ Text.unit 'z'

def isDigit (code : UInt16) : Bool :=
  Text.unit '0' ≤ code ∧ code ≤ Text.unit '9'

def isSeparator (code : UInt16) : Bool :=
  code = Text.unit ' ' ∨ code = Text.unit '-'

/-- The characters of `RECOVERY_INPUT_PATTERN`. -/
def isInputCharacter (code : UInt16) : Bool :=
  isUpper code || isLower code || isDigit code || isSeparator code

/-- `[0-9A-HJKMNP-TV-Z]`. -/
def isPayloadCharacter (code : UInt16) : Bool :=
  isDigit code || (Text.unit 'A' ≤ code && code ≤ Text.unit 'H') || code = Text.unit 'J' || code = Text.unit 'K' ||
    code = Text.unit 'M' || code = Text.unit 'N' || (Text.unit 'P' ≤ code && code ≤ Text.unit 'T') ||
    (Text.unit 'V' ≤ code && code ≤ Text.unit 'Z')

/-- `/^[0-9A-HJKMNP-TV-Z]{32}$/`. -/
def RECOVERY_PAYLOAD_PATTERN (text : Text) : Bool :=
  text.length = 32 && text.all isPayloadCharacter

/-- `toUpperCase` of a character that `RECOVERY_INPUT_PATTERN` lets through. -/
def toUpper (code : UInt16) : UInt16 :=
  if isLower code then code - 0x20 else code

/-- `value.replaceAll("-", "").replaceAll(" ", "").toUpperCase()`. -/
def compact (value : Text) : Text :=
  ((value.filter fun code => code ≠ Text.unit '-').filter fun code => code ≠ Text.unit ' ').map toUpper

/-- `PGIDR${RECOVERY_FORMAT_VERSION}`. -/
def CODE_PREFIX : Text := Text.of "PGIDR1"

def canonicalRecoveryCode (value : Text) : Option Text :=
  if value.length = 0 ∨ 128 < value.length ∨ value.all isInputCharacter = false then none
  else if CODE_PREFIX.isPrefixOf (compact value) = false then none
  else if RECOVERY_PAYLOAD_PATTERN ((compact value).drop 6) then some (compact value)
  else none

/-- The matches of `/.{4}/g`, where `.` is no line terminator. -/
def groupsOfFour : Text → List Text
  | first :: second :: third :: fourth :: rest =>
    if [first, second, third, fourth].all fun code => code ∉ [0x0A, 0x0D, 0x2028, 0x2029] then
      [first, second, third, fourth] :: groupsOfFour rest
    else groupsOfFour (second :: third :: fourth :: rest)
  | _ => []

def displayRecoveryCode (payload : Text) : Text :=
  Text.of "PGID-R1-" ++
    if groupsOfFour payload = [] then payload else (Text.of "-").intercalate (groupsOfFour payload)

/-- The text that is hashed for a payload. -/
def canonicalCode (payload : Text) : Text :=
  CODE_PREFIX ++ payload

end canonical

section characters

variable {code : UInt16}

theorem ascii_of_input (hinput : isInputCharacter code = true) : code < 0x80 := by
  simp only [isInputCharacter, isUpper, isLower, isDigit, isSeparator, Bool.or_eq_true, decide_eq_true_eq] at hinput
  rcases hinput with ((⟨_, hhigh⟩ | ⟨_, hhigh⟩) | ⟨_, hhigh⟩) | hequal | hequal
  · exact UInt16.lt_of_le_of_lt hhigh (by decide)
  · exact UInt16.lt_of_le_of_lt hhigh (by decide)
  · exact UInt16.lt_of_le_of_lt hhigh (by decide)
  · rw [hequal]
    decide
  · rw [hequal]
    decide

theorem isInputCharacter_toUpper : isInputCharacter (toUpper code) = isInputCharacter code := by
  by_cases hlower : isLower code = true
  · have hinput : isInputCharacter code = true := by simp [isInputCharacter, hlower]
    have hupper := Text.forall_ascii (P := fun code => isLower code = true → isInputCharacter (toUpper code) = true)
      (by set_option maxRecDepth 20000 in decide) (ascii_of_input hinput)
    rw [hinput]
    exact hupper hlower
  · rw [toUpper, if_neg hlower]

theorem isPayloadCharacter_iff : isPayloadCharacter code = true ↔ code ∈ RECOVERY_ALPHABET := by
  by_cases hascii : code < 0x80
  · exact Text.forall_ascii (P := fun code => isPayloadCharacter code = true ↔ code ∈ RECOVERY_ALPHABET)
      (by set_option maxRecDepth 20000 in decide) hascii
  · have halphabet : RECOVERY_ALPHABET.Ascii := by decide
    refine iff_of_false (fun hcharacter => hascii ?_) fun hmem => hascii (halphabet code hmem)
    simp only [isPayloadCharacter, isDigit, Bool.or_eq_true, Bool.and_eq_true, decide_eq_true_eq] at hcharacter
    rcases hcharacter with ((((((⟨_, hhigh⟩ | ⟨_, hhigh⟩) | hequal) | hequal) | hequal) | hequal) | ⟨_, hhigh⟩) | ⟨_, hhigh⟩
    · exact UInt16.lt_of_le_of_lt hhigh (by decide)
    · exact UInt16.lt_of_le_of_lt hhigh (by decide)
    · exact hequal ▸ by decide
    · exact hequal ▸ by decide
    · exact hequal ▸ by decide
    · exact hequal ▸ by decide
    · exact UInt16.lt_of_le_of_lt hhigh (by decide)
    · exact UInt16.lt_of_le_of_lt hhigh (by decide)

/-- What holds of a canonical code's characters: they are typed as they are. -/
structure IsCanonical (code : UInt16) : Prop where
  input : isInputCharacter code = true
  upper : toUpper code = code
  dash : code ≠ Text.unit '-'
  space : code ≠ Text.unit ' '
  terminator : code ∉ ([0x0A, 0x0D, 0x2028, 0x2029] : Text)

theorem isCanonical_of_class (hcode : (isUpper code || isDigit code) = true) : IsCanonical code := by
  have hinput : isInputCharacter code = true := by
    rw [Bool.or_eq_true] at hcode
    rcases hcode with hupper | hdigit
    · simp [isInputCharacter, hupper]
    · simp [isInputCharacter, hdigit]
  have hall : toUpper code = code ∧ code ≠ Text.unit '-' ∧ code ≠ Text.unit ' ' ∧
      code ∉ ([0x0A, 0x0D, 0x2028, 0x2029] : Text) :=
    Text.forall_ascii (P := fun code => (isUpper code || isDigit code) = true → toUpper code = code ∧
      code ≠ Text.unit '-' ∧ code ≠ Text.unit ' ' ∧ code ∉ ([0x0A, 0x0D, 0x2028, 0x2029] : Text))
      (by set_option maxRecDepth 20000 in decide) (ascii_of_input hinput) hcode
  obtain ⟨hupper, hdash, hspace, hterminator⟩ := hall
  exact ⟨hinput, hupper, hdash, hspace, hterminator⟩

theorem isCanonical_of_payload {payload : Text} (hpayload : IsPayload payload) (hcode : code ∈ payload) :
    IsCanonical code := by
  have hclass : RECOVERY_ALPHABET.all (fun code => isUpper code || isDigit code) = true := by decide
  exact isCanonical_of_class (List.all_eq_true.mp hclass code (hpayload.2 code hcode))

theorem isCanonical_of_prefix (hcode : code ∈ CODE_PREFIX) : IsCanonical code := by
  have hclass : CODE_PREFIX.all (fun code => isUpper code || isDigit code) = true := by decide
  exact isCanonical_of_class (List.all_eq_true.mp hclass code hcode)

end characters

section compact

variable {value left right payload code : Text}

theorem compact_append : compact (left ++ right) = compact left ++ compact right := by
  simp only [compact, List.filter_append, List.map_append]

/-- Canonical characters stay. -/
theorem compact_of_canonical (hcanonical : ∀ code ∈ value, IsCanonical code) : compact value = value := by
  have hdash : (value.filter fun code => code ≠ Text.unit '-') = value := by
    apply List.filter_eq_self.mpr
    intro code hcode
    exact decide_eq_true (hcanonical code hcode).dash
  have hspace : (value.filter fun code => code ≠ Text.unit ' ') = value := by
    apply List.filter_eq_self.mpr
    intro code hcode
    exact decide_eq_true (hcanonical code hcode).space
  rw [compact, hdash, hspace]
  exact (List.map_congr_left fun code hcode => (hcanonical code hcode).upper).trans (List.map_id value)

/-- Whether a text has only input characters can be seen when it is compact. -/
theorem all_compact : (compact value).all isInputCharacter = value.all isInputCharacter := by
  induction value with
  | nil => rfl
  | cons code rest ih =>
    have hcons : compact (code :: rest) = compact [code] ++ compact rest := by
      rw [← compact_append, List.singleton_append]
    rw [hcons, List.all_append, ih, List.all_cons]
    by_cases hseparator : isSeparator code = true
    · have hinput : isInputCharacter code = true := by simp [isInputCharacter, hseparator]
      have hdropped : compact [code] = [] := by
        rw [isSeparator, decide_eq_true_eq] at hseparator
        rcases hseparator with rfl | rfl <;> rfl
      rw [hdropped, hinput, List.all_nil]
    · have hkept : compact [code] = [toUpper code] := by
        rw [isSeparator, decide_eq_true_eq, not_or] at hseparator
        simp [compact, hseparator]
      rw [hkept, List.all_cons, List.all_nil, Bool.and_true, isInputCharacter_toUpper]

/-- A code that is accepted is the prefix and a payload, without separators and in upper case. -/
theorem canonicalRecoveryCode_eq_some_iff :
    canonicalRecoveryCode value = some code ↔
      value.length ≠ 0 ∧ value.length ≤ 128 ∧ value.all isInputCharacter = true ∧ compact value = code ∧
        ∃ payload, IsPayload payload ∧ code = canonicalCode payload := by
  have hpattern : ∀ payload, RECOVERY_PAYLOAD_PATTERN payload = true ↔ IsPayload payload := by
    intro payload
    simp only [RECOVERY_PAYLOAD_PATTERN, Bool.and_eq_true, decide_eq_true_eq, List.all_eq_true,
      isPayloadCharacter_iff, IsPayload]
  rw [canonicalRecoveryCode]
  by_cases hinput : value.length = 0 ∨ 128 < value.length ∨ value.all isInputCharacter = false
  · rw [if_pos hinput]
    refine iff_of_false (by simp) ?_
    rintro ⟨hnonempty, hlength, hall, _⟩
    rcases hinput with hempty | hlong | hforeign
    · exact hnonempty hempty
    · omega
    · rw [hall] at hforeign
      cases hforeign
  rw [if_neg hinput]
  obtain ⟨hnonempty, hlength, hall⟩ : value.length ≠ 0 ∧ value.length ≤ 128 ∧ value.all isInputCharacter = true := by
    rw [not_or, not_or, Bool.not_eq_false] at hinput
    exact ⟨hinput.1, Nat.le_of_not_lt hinput.2.1, hinput.2.2⟩
  constructor
  · intro hcode
    split at hcode
    · cases hcode
    rename_i hbegins
    split at hcode
    · rename_i hpayload
      obtain rfl := Option.some.inj hcode
      obtain ⟨rest, hrest⟩ := List.isPrefixOf_iff_prefix.mp (Bool.not_eq_false _ |>.mp hbegins)
      rw [← hrest] at hpayload ⊢
      exact ⟨hnonempty, hlength, hall, rfl, rest, (hpattern rest).mp hpayload, rfl⟩
    · cases hcode
  · rintro ⟨_, _, _, hcompact, payload, hpayload, rfl⟩
    have hbegins : CODE_PREFIX.isPrefixOf (canonicalCode payload) = true :=
      List.isPrefixOf_iff_prefix.mpr (List.prefix_append _ _)
    have hdrop : (canonicalCode payload).drop 6 = payload := rfl
    rw [hcompact, if_neg (by rw [hbegins]; decide), hdrop, if_pos ((hpattern payload).mpr hpayload)]

end compact

section display

variable {payload : Text}

/-- Characters other than line terminators are matched in groups of four. -/
theorem flatten_groupsOfFour {groups : Nat} (hlength : payload.length = 4 * groups)
    (hplain : ∀ code ∈ payload, code ∉ ([0x0A, 0x0D, 0x2028, 0x2029] : Text)) :
    (groupsOfFour payload).flatten = payload ∧ (groupsOfFour payload).length = groups := by
  induction groups generalizing payload with
  | zero =>
    obtain rfl := List.length_eq_zero_iff.mp hlength
    exact ⟨rfl, rfl⟩
  | succ groups ih =>
    match payload, hlength with
    | first :: second :: third :: fourth :: rest, hlength =>
      have hmatched : ([first, second, third, fourth].all fun code =>
          decide (code ∉ ([0x0A, 0x0D, 0x2028, 0x2029] : Text))) = true := by
        rw [List.all_eq_true]
        intro code hcode
        exact decide_eq_true (hplain code (List.mem_append_left rest hcode))
      have hrest : rest.length = 4 * groups := by
        simp only [List.length_cons] at hlength
        omega
      obtain ⟨hflatten, hcount⟩ := ih hrest fun code hcode =>
        hplain code (List.mem_append_right [first, second, third, fourth] hcode)
      rw [groupsOfFour, if_pos hmatched, List.flatten_cons, hflatten, List.length_cons, hcount]
      exact ⟨rfl, rfl⟩

/-- Dashes between groups are dropped again. -/
theorem compact_intercalate (groups : List Text) :
    compact ((Text.of "-").intercalate groups) = compact groups.flatten := by
  induction groups with
  | nil => rfl
  | cons group groups ih =>
    cases groups with
    | nil => rw [List.intercalate_singleton, List.flatten_singleton]
    | cons next groups =>
      have hdash : compact (Text.of "-") = [] := rfl
      rw [List.intercalate_cons_cons, compact_append, compact_append, ih, hdash, List.append_nil, ← compact_append]
      rfl

theorem length_intercalate (groups : List Text) :
    ((Text.of "-").intercalate groups).length ≤ groups.flatten.length + groups.length := by
  induction groups with
  | nil => exact Nat.le_refl 0
  | cons group groups ih =>
    cases groups with
    | nil =>
      rw [List.intercalate_singleton, List.flatten_singleton]
      omega
    | cons next groups =>
      have hdash : (Text.of "-").length = 1 := rfl
      rw [List.intercalate_cons_cons, List.length_append, List.length_append, hdash, List.flatten_cons,
        List.length_append, List.length_cons]
      omega

theorem isCanonical_canonicalCode (hpayload : IsPayload payload) :
    ∀ code ∈ canonicalCode payload, IsCanonical code := by
  intro code hcode
  rcases List.mem_append.mp hcode with hbegins | hmem
  · exact isCanonical_of_prefix hbegins
  · exact isCanonical_of_payload hpayload hmem

/-- What is shown for a payload is accepted as its canonical code. -/
theorem canonicalRecoveryCode_display (hpayload : IsPayload payload) :
    canonicalRecoveryCode (displayRecoveryCode payload) = some (canonicalCode payload) := by
  have hcompact : compact payload = payload :=
    compact_of_canonical fun code hcode => isCanonical_of_payload hpayload hcode
  obtain ⟨hflatten, hcount⟩ := flatten_groupsOfFour (show payload.length = 4 * 8 from hpayload.1) fun code hcode =>
    (isCanonical_of_payload hpayload hcode).terminator
  have hgroups : groupsOfFour payload ≠ [] := by
    intro hnil
    rw [hnil] at hcount
    cases hcount
  have hdisplay : compact (displayRecoveryCode payload) = canonicalCode payload := by
    rw [displayRecoveryCode, if_neg hgroups, compact_append, compact_intercalate, hflatten, hcompact]
    rfl
  have hlength := length_intercalate (groupsOfFour payload)
  rw [hflatten, hcount, hpayload.1] at hlength
  have hlong : (displayRecoveryCode payload).length =
      8 + ((Text.of "-").intercalate (groupsOfFour payload)).length := by
    rw [displayRecoveryCode, if_neg hgroups, List.length_append]
    rfl
  refine canonicalRecoveryCode_eq_some_iff.mpr ⟨by omega, by omega, ?_, hdisplay, payload, hpayload, rfl⟩
  rw [← all_compact, hdisplay, List.all_eq_true]
  exact fun code hcode => (isCanonical_canonicalCode hpayload code hcode).input

end display

/-- A canonical code is its own canonical code. -/
theorem canonicalRecoveryCode_idempotent {value code : Text} (hcode : canonicalRecoveryCode value = some code) :
    canonicalRecoveryCode code = some code := by
  obtain ⟨_, _, _, _, payload, hpayload, rfl⟩ := canonicalRecoveryCode_eq_some_iff.mp hcode
  have hcanonical := isCanonical_canonicalCode hpayload
  have hlength : (canonicalCode payload).length = 38 := by
    rw [canonicalCode, List.length_append, hpayload.1]
    rfl
  refine canonicalRecoveryCode_eq_some_iff.mpr ⟨by omega, by omega, ?_, compact_of_canonical hcanonical, payload,
    hpayload, rfl⟩
  rw [List.all_eq_true]
  exact fun character hmem => (hcanonical character hmem).input

/-- Texts of an accepted length that are the same without separators and without regard to case are accepted
as the same code, or not at all. -/
theorem canonicalRecoveryCode_congr {left right : Text} (hleft : 1 ≤ left.length ∧ left.length ≤ 128)
    (hright : 1 ≤ right.length ∧ right.length ≤ 128) (hcompact : compact left = compact right) :
    canonicalRecoveryCode left = canonicalRecoveryCode right := by
  have hall : left.all isInputCharacter = right.all isInputCharacter := by
    rw [← all_compact, hcompact, all_compact]
  ext code
  rw [canonicalRecoveryCode_eq_some_iff, canonicalRecoveryCode_eq_some_iff, hall, hcompact]
  constructor
  · rintro ⟨_, _, hrest⟩
    exact ⟨by omega, hright.2, hrest⟩
  · rintro ⟨_, _, hrest⟩
    exact ⟨by omega, hleft.2, hrest⟩

theorem canonicalCode_injective {left right : Text} (hcode : canonicalCode left = canonicalCode right) :
    left = right :=
  List.append_cancel_left hcode

/-- Recovery codes are encoded and read back without a loss: the payloads of twenty bytes are all payloads
there are, each of one entropy; a displayed code is read as its canonical code, which is its own; two texts
are read alike exactly when they are the same but for separators and case; and no spelling is that of two
payloads. -/
theorem recovery_codes_lossless :
    (∀ bytes : List UInt8, bytes.length = 20 →
      ∃ payload, encodeRecoveryPayload bytes = .ok payload ∧ IsPayload payload) ∧
    (∀ payload, IsPayload payload →
      ∃ bytes : List UInt8, bytes.length = 20 ∧ encodeRecoveryPayload bytes = .ok payload) ∧
    (∀ (bytes others : List UInt8) (payload : Text), encodeRecoveryPayload bytes = .ok payload →
      encodeRecoveryPayload others = .ok payload → bytes = others) ∧
    (∀ payload, IsPayload payload →
      canonicalRecoveryCode (displayRecoveryCode payload) = some (canonicalCode payload)) ∧
    (∀ value code, canonicalRecoveryCode value = some code → canonicalRecoveryCode code = some code) ∧
    (∀ left right : Text, 1 ≤ left.length ∧ left.length ≤ 128 → 1 ≤ right.length ∧ right.length ≤ 128 →
      compact left = compact right → canonicalRecoveryCode left = canonicalRecoveryCode right) ∧
    (∀ left right code, canonicalRecoveryCode left = some code → canonicalRecoveryCode right = some code →
      compact left = compact right) ∧
    ∀ (bytes others : List UInt8) (payload other value : Text), encodeRecoveryPayload bytes = .ok payload →
      encodeRecoveryPayload others = .ok other → canonicalRecoveryCode value = some (canonicalCode payload) →
      canonicalRecoveryCode value = some (canonicalCode other) → bytes = others := by
  have hinjective : ∀ (bytes others : List UInt8) (payload : Text), encodeRecoveryPayload bytes = .ok payload →
      encodeRecoveryPayload others = .ok payload → bytes = others := by
    intro bytes others payload hbytes hothers
    obtain ⟨hlength, _, hnumber⟩ := encodeRecoveryPayload_eq_ok_iff.mp hbytes
    obtain ⟨hothersLength, _, hothersNumber⟩ := encodeRecoveryPayload_eq_ok_iff.mp hothers
    exact entropyNumber_injective (by omega) (hnumber.symm.trans hothersNumber)
  refine ⟨?_, ?_, hinjective, fun payload hpayload => canonicalRecoveryCode_display hpayload,
    fun value code hcode => canonicalRecoveryCode_idempotent hcode,
    fun left right hleft hright hcompact => canonicalRecoveryCode_congr hleft hright hcompact, ?_, ?_⟩
  · intro bytes hlength
    obtain ⟨payload, hpayload⟩ := exists_payload hlength
    exact ⟨payload, hpayload, (encodeRecoveryPayload_eq_ok_iff.mp hpayload).2.1⟩
  · intro payload hpayload
    obtain ⟨bytes, hbytes⟩ := exists_entropy hpayload
    exact ⟨bytes, (encodeRecoveryPayload_eq_ok_iff.mp hbytes).1, hbytes⟩
  · intro left right code hleft hright
    obtain ⟨_, _, _, hcompactLeft, _⟩ := canonicalRecoveryCode_eq_some_iff.mp hleft
    obtain ⟨_, _, _, hcompactRight, _⟩ := canonicalRecoveryCode_eq_some_iff.mp hright
    rw [hcompactLeft, hcompactRight]
  · intro bytes others payload other value hbytes hothers hpayload hother
    have hsame : canonicalCode payload = canonicalCode other := Option.some.inj (hpayload.symm.trans hother)
    obtain rfl := canonicalCode_injective hsame
    exact hinjective bytes others payload hbytes hothers

end pgid.recovery
