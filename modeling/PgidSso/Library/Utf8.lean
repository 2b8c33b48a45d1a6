import PgidSso.Library.Text

/-! Reading UTF-8. -/

namespace Text

/-- The low six bits of a continuation byte. -/
def continuation? (byte : UInt8) : Option Nat :=
  if 0x80 ≤ byte.toNat ∧ byte.toNat < 0xC0 then some (byte.toNat - 0x80) else none

/-- The code units of the bytes, none of which may be ill-formed. -/
def decodeBytes : List UInt8 → Option Text
  | [] => some []
  | first :: rest =>
    if first.toNat < 0x80 then do
      return UInt16.ofNat first.toNat :: (← decodeBytes rest)
    else
      match rest with
      | [] => none
      | second :: rest =>
        if first.toNat < 0xE0 then do
          let second ← continuation? second
          let value := (first.toNat - 0xC0) * 64 + second
          if 0xC2 ≤ first.toNat then return UInt16.ofNat value :: (← decodeBytes rest) else none
        else
          match rest with
          | [] => none
          | third :: rest =>
            if first.toNat < 0xF0 then do
              let second ← continuation? second
              let third ← continuation? third
              let value := (first.toNat - 0xE0) * 4096 + second * 64 + third
              if 0x800 ≤ value ∧ ¬ (0xD800 ≤ value ∧ value ≤ 0xDFFF) then
                return UInt16.ofNat value :: (← decodeBytes rest)
              else none
            else
              match rest with
              | [] => none
              | fourth :: rest => do
                let second ← continuation? second
                let third ← continuation? third
                let fourth ← continuation? fourth
                let value := (first.toNat - 0xF0) * 262144 + second * 4096 + third * 64 + fourth
                if 0x10000 ≤ value ∧ value ≤ 0x10FFFF then
                  return UInt16.ofNat (0xD800 + (value - 0x10000) / 0x400) ::
                    UInt16.ofNat (0xDC00 + (value - 0x10000) % 0x400) :: (← decodeBytes rest)
                else none

/-- Every surrogate stands in a pair. -/
def Paired : Text → Prop
  | high :: low :: rest =>
    if IsHigh high ∧ IsLow low then Paired rest
    else ¬ IsHigh high ∧ ¬ IsLow high ∧ Paired (low :: rest)
  | [code] => ¬ IsHigh code ∧ ¬ IsLow code
  | [] => True

section roundtrip

variable {tail : List UInt8}

theorem continuation?_ofNat {value : Nat} (hvalue : value < 64) :
    continuation? (UInt8.ofNat (0x80 + value)) = some value := by
  have hbyte : (UInt8.ofNat (0x80 + value)).toNat = 0x80 + value := by
    rw [UInt8.toNat_ofNat']
    omega
  rw [continuation?, hbyte, if_pos (by omega)]
  simp

theorem toNat_ofNat_byte {value : Nat} (hvalue : value < 256) : (UInt8.ofNat value).toNat = value := by
  rw [UInt8.toNat_ofNat']
  omega

theorem decodeBytes_encodeUnit {code : UInt16} (hhigh : ¬ IsHigh code) (hlow : ¬ IsLow code) :
    decodeBytes (encodeUnit code ++ tail) = (decodeBytes tail).map (code :: ·) := by
  have hbound : code.toNat < 65536 := code.toNat_lt
  rw [encodeUnit]
  by_cases hone : code.toNat < 0x80
  · have hfirst := toNat_ofNat_byte (show code.toNat < 256 by omega)
    simp only [if_pos hone, List.cons_append, List.nil_append]
    rw [decodeBytes.eq_def]
    simp only [hfirst, if_pos hone, UInt16.ofNat_toNat]
    cases decodeBytes tail <;> rfl
  · by_cases htwo : code.toNat < 0x800
    · have hfirst := toNat_ofNat_byte (show 0xC0 + code.toNat / 64 < 256 by omega)
      have hvalue : (0xC0 + code.toNat / 64 - 0xC0) * 64 + code.toNat % 64 = code.toNat := by omega
      simp only [if_neg hone, if_pos htwo, List.cons_append, List.nil_append]
      rw [decodeBytes.eq_def]
      simp only
      rw [hfirst, if_neg (by omega)]
      rw [if_pos (by omega), continuation?_ofNat (by omega)]
      simp only [Option.bind_eq_bind, Option.bind_some, hvalue, UInt16.ofNat_toNat]
      rw [if_pos (by omega)]
      cases decodeBytes tail <;> rfl
    · have hsurrogate : ¬ (0xD800 ≤ code.toNat ∧ code.toNat ≤ 0xDFFF) := by
        rintro ⟨hmin, hmax⟩
        rw [IsHigh, UInt16.le_iff_toNat_le, UInt16.le_iff_toNat_le] at hhigh
        rw [IsLow, UInt16.le_iff_toNat_le, UInt16.le_iff_toNat_le] at hlow
        have hconstants : (0xD800 : UInt16).toNat = 0xD800 ∧ (0xDBFF : UInt16).toNat = 0xDBFF ∧
            (0xDC00 : UInt16).toNat = 0xDC00 ∧ (0xDFFF : UInt16).toNat = 0xDFFF := by decide
        omega
      have hfirst := toNat_ofNat_byte (show 0xE0 + code.toNat / 4096 < 256 by omega)
      have hvalue : (0xE0 + code.toNat / 4096 - 0xE0) * 4096 + code.toNat / 64 % 64 * 64 + code.toNat % 64 =
          code.toNat := by omega
      simp only [if_neg hone, if_neg htwo, if_neg (not_or.mpr ⟨hhigh, hlow⟩), List.cons_append, List.nil_append]
      rw [decodeBytes.eq_def]
      simp only
      rw [hfirst, if_neg (by omega)]
      rw [if_neg (by omega), if_pos (by omega), continuation?_ofNat (by omega), continuation?_ofNat (by omega)]
      simp only [Option.bind_eq_bind, Option.bind_some, hvalue, UInt16.ofNat_toNat]
      rw [if_pos ⟨by omega, hsurrogate⟩]
      cases decodeBytes tail <;> rfl

theorem decodeBytes_encodePair {high low : UInt16} (hhigh : IsHigh high) (hlow : IsLow low) :
    decodeBytes (encodePair high low ++ tail) = (decodeBytes tail).map (high :: low :: ·) := by
  rw [IsHigh, UInt16.le_iff_toNat_le, UInt16.le_iff_toNat_le] at hhigh
  rw [IsLow, UInt16.le_iff_toNat_le, UInt16.le_iff_toNat_le] at hlow
  have hconstants : (0xD800 : UInt16).toNat = 0xD800 ∧ (0xDBFF : UInt16).toNat = 0xDBFF ∧
      (0xDC00 : UInt16).toNat = 0xDC00 ∧ (0xDFFF : UInt16).toNat = 0xDFFF := by decide
  obtain ⟨value, hvalue⟩ : ∃ value, value = 0x10000 + (high.toNat - 0xD800) * 0x400 + (low.toNat - 0xDC00) := ⟨_, rfl⟩
  have hrange : 0x10000 ≤ value ∧ value ≤ 0x10FFFF := by omega
  have hfirst := toNat_ofNat_byte (show 0xF0 + value / 262144 < 256 by omega)
  have hread : (0xF0 + value / 262144 - 0xF0) * 262144 + value / 4096 % 64 * 4096 + value / 64 % 64 * 64 +
      value % 64 = value := by omega
  have hhighUnit : UInt16.ofNat (0xD800 + (value - 0x10000) / 0x400) = high := by
    rw [show 0xD800 + (value - 0x10000) / 0x400 = high.toNat by omega, UInt16.ofNat_toNat]
  have hlowUnit : UInt16.ofNat (0xDC00 + (value - 0x10000) % 0x400) = low := by
    rw [show 0xDC00 + (value - 0x10000) % 0x400 = low.toNat by omega, UInt16.ofNat_toNat]
  rw [encodePair, ← hvalue]
  simp only [List.cons_append, List.nil_append]
  rw [decodeBytes.eq_def]
  simp only
  rw [hfirst, if_neg (by omega)]
  rw [if_neg (by omega), if_neg (by omega), continuation?_ofNat (by omega), continuation?_ofNat (by omega),
    continuation?_ofNat (by omega)]
  simp only [Option.bind_eq_bind, Option.bind_some, hread, if_pos hrange, hhighUnit, hlowUnit]
  cases decodeBytes tail <;> rfl

/-- Well-formed texts are read back from their bytes. -/
theorem decodeBytes_encode {text : Text} (hpaired : text.Paired) : decodeBytes text.encode = some text := by
  induction text using encode.induct with
  | case1 high low rest hpair ih =>
    rw [Paired, if_pos hpair] at hpaired
    rw [encode, if_pos hpair, decodeBytes_encodePair hpair.1 hpair.2, ih hpaired]
    rfl
  | case2 high low rest hpair ih =>
    rw [Paired, if_neg hpair] at hpaired
    obtain ⟨hhigh, hlow, hrest⟩ := hpaired
    rw [encode, if_neg hpair, decodeBytes_encodeUnit hhigh hlow, ih hrest]
    rfl
  | case3 code =>
    have hunit : decodeBytes (encodeUnit code ++ []) = (decodeBytes []).map (code :: ·) :=
      decodeBytes_encodeUnit hpaired.1 hpaired.2
    rw [List.append_nil] at hunit
    rw [encode, hunit]
    rfl
  | case4 => rfl

end roundtrip

section paired

variable {text left right : Text}

theorem not_isLow_of_ascii {code : UInt16} (hcode : code < 0x80) : ¬ IsLow code := by
  rintro ⟨hmin, -⟩
  exact absurd (UInt16.lt_of_le_of_lt hmin hcode) (by decide)

theorem Ascii.paired (hascii : text.Ascii) : text.Paired := by
  induction text with
  | nil => trivial
  | cons code rest ih =>
    obtain ⟨hcode, hrest⟩ := ascii_cons.mp hascii
    cases rest with
    | nil => exact ⟨not_isHigh_of_ascii hcode, not_isLow_of_ascii hcode⟩
    | cons next rest =>
      rw [Paired, if_neg fun hpair => not_isHigh_of_ascii hcode hpair.1]
      exact ⟨not_isHigh_of_ascii hcode, not_isLow_of_ascii hcode, ih hrest⟩

theorem Paired.append (hleft : left.Paired) (hright : right.Paired) : (left ++ right).Paired := by
  induction left using encode.induct with
  | case1 high low rest hpair ih =>
    rw [Paired, if_pos hpair] at hleft
    rw [List.cons_append, List.cons_append, Paired, if_pos hpair]
    exact ih hleft
  | case2 high low rest hpair ih =>
    rw [Paired, if_neg hpair] at hleft
    obtain ⟨hhigh, hlow, hrest⟩ := hleft
    rw [List.cons_append, List.cons_append, Paired, if_neg hpair]
    exact ⟨hhigh, hlow, ih hrest⟩
  | case3 code =>
    obtain ⟨hhigh, hlow⟩ := hleft
    cases right with
    | nil => exact ⟨hhigh, hlow⟩
    | cons next right =>
      rw [List.cons_append, List.nil_append, Paired, if_neg fun hpair => hhigh hpair.1]
      exact ⟨hhigh, hlow, hright⟩
  | case4 => exact hright

theorem encode_cons_of_ascii {code : UInt16} (hcode : code < 0x80) :
    encode (code :: text) = encodeUnit code ++ encode text := by
  cases text with
  | nil => rw [encode, encode, List.append_nil]
  | cons next rest => rw [encode, if_neg fun hpair => not_isHigh_of_ascii hcode hpair.1]

/-- A text is encoded apart from one that begins with an ASCII character. -/
theorem encode_append_of_ascii {code : UInt16} (hcode : code < 0x80) :
    encode (left ++ code :: right) = encode left ++ encode (code :: right) := by
  induction left using encode.induct with
  | case1 high low rest hpair ih =>
    rw [List.cons_append, List.cons_append, encode, if_pos hpair, encode, if_pos hpair, ih, List.append_assoc]
  | case2 high low rest hpair ih =>
    rw [List.cons_append] at ih
    rw [List.cons_append, List.cons_append, encode, if_neg hpair, encode, if_neg hpair, ih, List.append_assoc]
  | case3 unit =>
    rw [List.cons_append, List.nil_append, encode, if_neg fun hpair => not_isLow_of_ascii hcode hpair.2, encode]
  | case4 => rfl

end paired

end Text
