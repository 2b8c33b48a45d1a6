import PgidSso.Library.Binary
import PgidSso.Library.RegexLocal
import PgidSso.Library.Utf16

/-! Reading UTF-8 with U+FFFD for what is ill-formed. -/

namespace Text

/-- A character under way: how many bytes are missing, what the bytes before them are worth, and the
range of the next one. -/
structure Sequence where
  missing : Nat
  value : Nat
  lower : Nat
  upper : Nat

/-- The code units of a code point. -/
def codePointUnits (value : Nat) : Text :=
  if value < 0x10000 then [UInt16.ofNat value]
  else
    [UInt16.ofNat (0xD800 + (value - 0x10000) / 0x400), UInt16.ofNat (0xDC00 + (value - 0x10000) % 0x400)]

/-- The first byte of a character: what is known of the text, and the character under way. -/
def startByte (byte : UInt8) : Text × Option Sequence :=
  let value := byte.toNat
  if value < 0x80 then ([byte.toUInt16], none)
  else if 0xC2 ≤ value ∧ value ≤ 0xDF then
    ([], some { missing := 1, value := value - 0xC0, lower := 0x80, upper := 0xBF })
  else if 0xE0 ≤ value ∧ value ≤ 0xEF then
    let lower := if value = 0xE0 then 0xA0 else 0x80
    let upper := if value = 0xED then 0x9F else 0xBF
    ([], some { missing := 2, value := value - 0xE0, lower, upper })
  else if 0xF0 ≤ value ∧ value ≤ 0xF4 then
    let lower := if value = 0xF0 then 0x90 else 0x80
    let upper := if value = 0xF4 then 0x8F else 0xBF
    ([], some { missing := 3, value := value - 0xF0, lower, upper })
  else ([replacement], none)

/-- A byte that does not fit ends the character under way and is read again by itself. -/
def stepByte (sequence : Sequence) (byte : UInt8) : Text × Option Sequence :=
  if sequence.lower ≤ byte.toNat ∧ byte.toNat ≤ sequence.upper then
    let value := sequence.value * 64 + (byte.toNat - 0x80)
    if sequence.missing ≤ 1 then (codePointUnits value, none)
    else ([], some { missing := sequence.missing - 1, value, lower := 0x80, upper := 0xBF })
  else
    let (units, next) := startByte byte
    (replacement :: units, next)

def decodeFrom : Option Sequence → List UInt8 → Text
  | none, [] => []
  | some _, [] => [replacement]
  | none, byte :: rest =>
    let (units, next) := startByte byte
    units ++ decodeFrom next rest
  | some sequence, byte :: rest =>
    let (units, next) := stepByte sequence byte
    units ++ decodeFrom next rest

/-- `bytes.toString("utf8")`. -/
def decodeLossy (bytes : List UInt8) : Text :=
  decodeFrom none bytes

/-- The character under way becomes a code point beyond ASCII, whatever bytes follow. -/
structure Sequence.Sound (sequence : Sequence) : Prop where
  lower : 0x80 ≤ sequence.lower
  upper : sequence.upper ≤ 0xBF
  least : 0x80 ≤ (sequence.value * 64 + (sequence.lower - 0x80)) * 64 ^ (sequence.missing - 1)
  most : (sequence.value * 64 + (sequence.upper - 0x80) + 1) * 64 ^ (sequence.missing - 1) ≤ 0x110000

section lossy

variable {sequence next : Sequence} {byte : UInt8} {bytes : List UInt8} {units : Text}

theorem startByte_sound (hstart : startByte byte = (units, some next)) : units = [] ∧ 0x80 ≤ byte.toNat ∧ next.Sound := by
  rw [startByte] at hstart
  by_cases hascii : byte.toNat < 0x80
  · rw [if_pos hascii] at hstart
    cases hstart
  · rw [if_neg hascii] at hstart
    split at hstart
    · next htwo =>
      obtain ⟨rfl, hnext⟩ := Prod.mk.inj hstart
      cases hnext
      exact ⟨rfl, by omega, by constructor <;> dsimp only <;> omega⟩
    · split at hstart
      · next hthree =>
        obtain ⟨rfl, hnext⟩ := Prod.mk.inj hstart
        cases hnext
        refine ⟨rfl, by omega, ?_⟩
        constructor <;> (dsimp only; split <;> omega)
      · split at hstart
        · next hfour =>
          obtain ⟨rfl, hnext⟩ := Prod.mk.inj hstart
          cases hnext
          refine ⟨rfl, by omega, ?_⟩
          constructor <;> (dsimp only; split <;> omega)
        · cases hstart

/-- A first byte is ASCII and stands for itself, begins a longer character, or is ill-formed. -/
theorem startByte_cases (byte : UInt8) :
    (byte.toNat < 0x80 ∧ startByte byte = ([byte.toUInt16], none)) ∨
    (0x80 ≤ byte.toNat ∧ ∃ next : Sequence, startByte byte = ([], some next) ∧ next.Sound) ∨
    (0x80 ≤ byte.toNat ∧ startByte byte = ([replacement], none)) := by
  by_cases hascii : byte.toNat < 0x80
  · exact .inl ⟨hascii, by rw [startByte, if_pos hascii]⟩
  · rw [Nat.not_lt] at hascii
    cases hstart : startByte byte with
    | mk units state =>
      cases state with
      | some next =>
        obtain ⟨rfl, -, hsound⟩ := startByte_sound hstart
        exact .inr (.inl ⟨hascii, next, rfl, hsound⟩)
      | none =>
        refine .inr (.inr ⟨hascii, ?_⟩)
        rw [startByte, if_neg (Nat.not_lt.mpr hascii)] at hstart
        split at hstart
        · cases hstart
        · split at hstart
          · cases hstart
          · split at hstart
            · cases hstart
            · exact hstart.symm

/-- Code units beyond ASCII, at least one. -/
def Beyond (units : Text) : Prop :=
  units ≠ [] ∧ ∀ code ∈ units, 0x80 ≤ code.toNat

theorem codePointUnits_beyond {value : Nat} (hleast : 0x80 ≤ value) (hmost : value < 0x110000) :
    Beyond (codePointUnits value) := by
  rw [codePointUnits]
  split
  · refine ⟨List.cons_ne_nil _ _, List.forall_mem_singleton.mpr ?_⟩
    rw [UInt16.toNat_ofNat']
    omega
  · refine ⟨List.cons_ne_nil _ _, List.forall_mem_cons.mpr ⟨?_, List.forall_mem_singleton.mpr ?_⟩⟩
    · rw [UInt16.toNat_ofNat']
      omega
    · rw [UInt16.toNat_ofNat']
      omega

theorem beyond_replacement : Beyond [replacement] :=
  ⟨List.cons_ne_nil _ _, List.forall_mem_singleton.mpr (by decide)⟩

/-- A later byte ends the character under way, carries it on, or is read again. -/
theorem stepByte_cases (hsound : sequence.Sound) (byte : UInt8) :
    (0x80 ≤ byte.toNat ∧ ∃ units, stepByte sequence byte = (units, none) ∧ Beyond units) ∨
    (0x80 ≤ byte.toNat ∧ ∃ next : Sequence, stepByte sequence byte = ([], some next) ∧ next.Sound) ∨
    stepByte sequence byte = (replacement :: (startByte byte).1, (startByte byte).2) := by
  obtain ⟨hlower, hupper, hleast, hmost⟩ := hsound
  rw [stepByte]
  by_cases hrange : sequence.lower ≤ byte.toNat ∧ byte.toNat ≤ sequence.upper
  · rw [if_pos hrange]
    obtain ⟨value, hvalue⟩ : ∃ value, value = sequence.value * 64 + (byte.toNat - 0x80) := ⟨_, rfl⟩
    have hover : sequence.value * 64 + (sequence.lower - 0x80) ≤ value := by omega
    have hunder : value + 1 ≤ sequence.value * 64 + (sequence.upper - 0x80) + 1 := by omega
    have hfrom := Nat.le_trans hleast (Nat.mul_le_mul_right (64 ^ (sequence.missing - 1)) hover)
    have hto := Nat.le_trans (Nat.mul_le_mul_right (64 ^ (sequence.missing - 1)) hunder) hmost
    simp only [← hvalue]
    by_cases hlast : sequence.missing ≤ 1
    · rw [if_pos hlast]
      rw [show sequence.missing - 1 = 0 by omega, Nat.pow_zero, Nat.mul_one] at hfrom hto
      exact .inl ⟨by omega, codePointUnits value, rfl, codePointUnits_beyond hfrom hto⟩
    · rw [if_neg hlast]
      rw [show sequence.missing - 1 = sequence.missing - 1 - 1 + 1 by omega, Nat.pow_succ, Nat.mul_comm (64 ^ _),
        ← Nat.mul_assoc] at hfrom hto
      rw [Nat.add_mul, Nat.one_mul] at hto
      refine .inr (.inl ⟨by omega, _, rfl, ?_⟩)
      constructor
      · exact Nat.le_of_eq rfl
      · exact Nat.le_of_eq rfl
      · rwa [Nat.sub_self, Nat.add_zero]
      · dsimp only
        omega
  · rw [if_neg hrange]
    exact .inr (.inr rfl)

variable {class_ : UInt16 → Bool} {least : Nat} {current : Text}

section runs

variable (hpos : 0 < least) (hclass : ∀ code, class_ code = true → code.toNat < 0x80)
include hpos hclass

theorem runsFrom_append_beyond (current text : Text) (hunits : Beyond units) :
    runsFrom class_ least current (units ++ text) = closeRun least current ++ runs class_ least text := by
  refine runsFrom_append_gap hpos hunits.1 fun code hcode => ?_
  rw [Bool.eq_false_iff]
  intro hin
  exact absurd (hclass code hin) (Nat.not_lt.mpr (hunits.2 code hcode))

/-- Reading the bytes as UTF-8 keeps the runs of ASCII characters, whether or not a character is under
way. -/
theorem runsFrom_decodeFrom (bytes : List UInt8) :
    (∀ current, runsFrom class_ least current (decodeFrom none bytes) = runsFrom class_ least current (latin1 bytes)) ∧
    ∀ sequence : Sequence, sequence.Sound → ∀ current,
      runsFrom class_ least current (decodeFrom (some sequence) bytes) =
        closeRun least current ++ runs class_ least (latin1 bytes) := by
  induction bytes with
  | nil =>
    refine ⟨fun current => rfl, fun sequence hsound current => ?_⟩
    have hend := runsFrom_append_beyond hpos hclass current [] beyond_replacement
    exact hend
  | cons byte bytes ih =>
    obtain ⟨hground, hunderway⟩ := ih
    have hlatin : 0x80 ≤ byte.toNat → ∀ current, runsFrom class_ least current (latin1 (byte :: bytes)) =
        closeRun least current ++ runs class_ least (latin1 bytes) := by
      intro hbyte current
      have hbeyond : Beyond [byte.toUInt16] :=
        ⟨List.cons_ne_nil _ _, List.forall_mem_singleton.mpr (by rwa [UInt8.toNat_toUInt16])⟩
      exact runsFrom_append_beyond hpos hclass _ _ hbeyond
    have hstart : ∀ current,
        runsFrom class_ least current ((startByte byte).1 ++ decodeFrom (startByte byte).2 bytes) =
          runsFrom class_ least current (latin1 (byte :: bytes)) := by
      intro current
      obtain ⟨hascii, hfirst⟩ | ⟨hbyte, next, hfirst, hsound⟩ | ⟨hbyte, hfirst⟩ := startByte_cases byte
      · rw [hfirst]
        simp only [latin1, List.map_cons, List.cons_append, List.nil_append, runsFrom]
        rw [hground, hground]
        rfl
      · rw [hfirst, hlatin hbyte]
        exact hunderway next hsound current
      · rw [hfirst, hlatin hbyte, runsFrom_append_beyond hpos hclass _ _ beyond_replacement, runs, hground]
        rfl
    refine ⟨hstart, fun sequence hsound current => ?_⟩
    obtain ⟨hbyte, units, hstep, hbeyond⟩ | ⟨hbyte, next, hstep, hnext⟩ | hstep := stepByte_cases hsound byte
    · rw [decodeFrom, hstep, runsFrom_append_beyond hpos hclass _ _ hbeyond, runs, runs, hground, hlatin hbyte,
        closeRun_nil hpos]
      rfl
    · rw [decodeFrom, hstep, runs, hlatin hbyte, closeRun_nil hpos]
      exact hunderway next hnext current
    · rw [decodeFrom, hstep]
      have hgap := runsFrom_append_beyond hpos hclass current ((startByte byte).1 ++ decodeFrom (startByte byte).2 bytes)
        beyond_replacement
      rw [runs, hstart] at hgap
      exact hgap

/-- The runs of ASCII characters are the same in the bytes and in the text that they are read as. -/
theorem runs_decodeLossy (bytes : List UInt8) :
    runs class_ least (decodeLossy bytes) = runs class_ least (latin1 bytes) :=
  (runsFrom_decodeFrom hpos hclass bytes).1 []

end runs

end lossy

section encode

variable {text : Text} {class_ : UInt16 → Bool} {least : Nat}

theorem beyond_latin1 {bytes : List UInt8} (hne : bytes ≠ []) (hbytes : ∀ byte ∈ bytes, 0x80 ≤ byte.toNat) :
    Beyond (latin1 bytes) := by
  refine ⟨fun hempty => hne (List.map_eq_nil_iff.mp hempty), fun code hcode => ?_⟩
  obtain ⟨byte, hbyte, rfl⟩ := List.mem_map.mp hcode
  rw [UInt8.toNat_toUInt16]
  exact hbytes byte hbyte

/-- A code unit is a byte for itself, or bytes beyond ASCII. -/
theorem encodeUnit_cases (code : UInt16) :
    (code.toNat < 0x80 ∧ encodeUnit code = [UInt8.ofNat code.toNat]) ∨
    (0x80 ≤ code.toNat ∧ encodeUnit code ≠ [] ∧ ∀ byte ∈ encodeUnit code, 0x80 ≤ byte.toNat) := by
  have hbound : code.toNat < 65536 := code.toNat_lt
  by_cases hone : code.toNat < 0x80
  · exact .inl ⟨hone, by rw [encodeUnit]; exact if_pos hone⟩
  · refine .inr ⟨Nat.not_lt.mp hone, ?_⟩
    simp only [encodeUnit, if_neg hone]
    split
    · refine ⟨List.cons_ne_nil _ _, ?_⟩
      simp only [List.forall_mem_cons, UInt8.toNat_ofNat']
      exact ⟨by omega, by omega, List.forall_mem_nil _⟩
    · split
      · refine ⟨List.cons_ne_nil _ _, ?_⟩
        simp only [List.forall_mem_cons, List.not_mem_nil, false_imp_iff, implies_true, and_true]
        decide
      · refine ⟨List.cons_ne_nil _ _, ?_⟩
        simp only [List.forall_mem_cons, UInt8.toNat_ofNat']
        exact ⟨by omega, by omega, by omega, List.forall_mem_nil _⟩

theorem encodePair_beyond {high low : UInt16} (hhigh : IsHigh high) (hlow : IsLow low) :
    encodePair high low ≠ [] ∧ ∀ byte ∈ encodePair high low, 0x80 ≤ byte.toNat := by
  have hlowest := UInt16.le_iff_toNat_le.mp hlow.2
  have hhighest := UInt16.le_iff_toNat_le.mp hhigh.2
  have hconstants : (0xDBFF : UInt16).toNat = 0xDBFF ∧ (0xDFFF : UInt16).toNat = 0xDFFF := by decide
  refine ⟨List.cons_ne_nil _ _, ?_⟩
  simp only [encodePair, List.forall_mem_cons, UInt8.toNat_ofNat']
  exact ⟨by omega, by omega, by omega, by omega, List.forall_mem_nil _⟩

/-- Encoding a text keeps the runs of its ASCII characters. -/
theorem runsFrom_latin1_encode (hpos : 0 < least) (hclass : ∀ code, class_ code = true → code.toNat < 0x80)
    (current : Text) : runsFrom class_ least current (latin1 (encode text)) = runsFrom class_ least current text := by
  have hunit : ∀ (code : UInt16) (rest : Text) (bytes : List UInt8) (current : Text),
      (∀ current, runsFrom class_ least current (latin1 bytes) = runsFrom class_ least current rest) →
      runsFrom class_ least current (latin1 (encodeUnit code ++ bytes)) =
        runsFrom class_ least current (code :: rest) := by
    intro code rest bytes current hrest
    rw [latin1_append]
    obtain ⟨hascii, hunit⟩ | ⟨hbeyond, hne, hbytes⟩ := encodeUnit_cases code
    · have hcode : (UInt8.ofNat code.toNat).toUInt16 = code := by
        rw [← UInt16.toNat_inj, UInt8.toNat_toUInt16, UInt8.toNat_ofNat']
        omega
      rw [hunit]
      simp only [latin1, List.map_cons, List.map_nil, List.cons_append, List.nil_append, hcode, runsFrom] at hrest ⊢
      rw [hrest, hrest]
    · have hcode : Beyond [code] := ⟨List.cons_ne_nil _ _, List.forall_mem_singleton.mpr hbeyond⟩
      have hgap := runsFrom_append_beyond hpos hclass current rest hcode
      rw [runsFrom_append_beyond hpos hclass _ _ (beyond_latin1 hne hbytes), runs, hrest]
      exact hgap.symm
  induction text using encode.induct generalizing current with
  | case1 high low rest hpair ih =>
    have hbeyond := encodePair_beyond hpair.1 hpair.2
    have hcodes : Beyond [high, low] := by
      have hhigh := UInt16.le_iff_toNat_le.mp hpair.1.1
      have hlow := UInt16.le_iff_toNat_le.mp hpair.2.1
      refine ⟨List.cons_ne_nil _ _, List.forall_mem_cons.mpr ⟨?_, List.forall_mem_singleton.mpr ?_⟩⟩
      · exact Nat.le_trans (by decide) hhigh
      · exact Nat.le_trans (by decide) hlow
    have hgap := runsFrom_append_beyond hpos hclass current rest hcodes
    rw [encode, if_pos hpair, latin1_append, runsFrom_append_beyond hpos hclass _ _ (beyond_latin1 hbeyond.1 hbeyond.2),
      runs, ih]
    exact hgap.symm
  | case2 high low rest hpair ih =>
    rw [encode, if_neg hpair]
    exact hunit high (low :: rest) _ current ih
  | case3 code =>
    rw [encode, ← List.append_nil (encodeUnit code)]
    exact hunit code [] [] current fun current => rfl
  | case4 => rfl

theorem forall_mem_encode {P : UInt8 → Prop} (hbeyond : ∀ byte : UInt8, 0x80 ≤ byte.toNat → P byte)
    (hascii : ∀ code ∈ text, code.toNat < 0x80 → P (UInt8.ofNat code.toNat)) : ∀ byte ∈ encode text, P byte := by
  have hunit : ∀ code ∈ text, ∀ byte ∈ encodeUnit code, P byte := by
    intro code hcode byte hbyte
    obtain ⟨hone, hunit⟩ | ⟨-, -, hbytes⟩ := encodeUnit_cases code
    · rw [hunit] at hbyte
      rw [List.mem_singleton.mp hbyte]
      exact hascii code hcode hone
    · exact hbeyond byte (hbytes byte hbyte)
  clear hascii
  induction text using encode.induct with
  | case1 high low rest hpair ih =>
    rw [encode, if_pos hpair, List.forall_mem_append]
    refine ⟨fun byte hbyte => hbeyond byte ((encodePair_beyond hpair.1 hpair.2).2 byte hbyte), ih fun code hcode => ?_⟩
    exact hunit code (List.mem_cons_of_mem _ (List.mem_cons_of_mem _ hcode))
  | case2 high low rest hpair ih =>
    rw [encode, if_neg hpair, List.forall_mem_append]
    exact ⟨hunit high List.mem_cons_self, ih fun code hcode => hunit code (List.mem_cons_of_mem _ hcode)⟩
  | case3 code => exact hunit code (List.mem_singleton_self code)
  | case4 => exact fun byte hbyte => absurd hbyte List.not_mem_nil

theorem length_encode_le (text : Text) : (encode text).length ≤ 3 * text.length := by
  have hunit : ∀ code, (encodeUnit code).length ≤ 3 := by
    intro code
    rw [encodeUnit]
    split
    · exact Nat.le_of_ble_eq_true rfl
    · split
      · exact Nat.le_of_ble_eq_true rfl
      · split
        · exact Nat.le_of_ble_eq_true rfl
        · exact Nat.le_of_ble_eq_true rfl
  induction text using encode.induct with
  | case1 high low rest hpair ih =>
    have hpairLength : (encodePair high low).length = 4 := rfl
    rw [encode, if_pos hpair, List.length_append, hpairLength]
    simp only [List.length_cons]
    omega
  | case2 high low rest hpair ih =>
    have hone := hunit high
    rw [encode, if_neg hpair, List.length_append]
    simp only [List.length_cons] at ih ⊢
    omega
  | case3 code => exact hunit code
  | case4 => exact Nat.zero_le _

end encode

end Text
