import PgidSso.Library.Checked
import PgidSso.Library.Radix
import PgidSso.Library.Text

open checked

namespace pgid.recovery

def RECOVERY_ALPHABET : Text := Text.of "0123456789ABCDEFGHJKMNPQRSTVWXYZ"

section encoding

/-- The inner loop: a character for the five highest of the pending bits of `value`. -/
def emit (value : BitVec 32) : Nat → Text → Nat × Text
  | bits + 5, output => emit value bits (output ++ [RECOVERY_ALPHABET.getD ((value >>> bits) &&& 31).toNat 0])
  | bits, output => (bits, output)

/-- The loop over the bytes, with its three variables. -/
def encodeBytes : List UInt8 → Nat → BitVec 32 → Text → Nat × Text
  | [], bits, _, output => (bits, output)
  | byte :: bytes, bits, value, output =>
    let shifted := value <<< 8 ||| byte.toBitVec.setWidth 32
    let (left, longer) := emit shifted (bits + 8) output
    encodeBytes bytes left shifted longer

def encodeRecoveryPayload (bytes : List UInt8) : Except String Text := do
  throwIf (bytes.length ≠ 20) "Recovery entropy must be 20 bytes"
  let (bits, output) := encodeBytes bytes 0 0 []
  throwIf (bits ≠ 0 ∨ output.length ≠ 32) "Recovery entropy encoding failed"
  return output

end encoding

/-- Thirty-two characters of the alphabet. -/
def IsPayload (payload : Text) : Prop :=
  payload.length = 32 ∧ ∀ code ∈ payload, code ∈ RECOVERY_ALPHABET

instance (payload : Text) : Decidable (IsPayload payload) :=
  @instDecidableAnd _ _ inferInstance (List.decidableBAll _ _)

section packing

/-- The number that characters of the alphabet write. -/
def payloadNumber (payload : Text) : Nat :=
  radix.number 32 (payload.map RECOVERY_ALPHABET.idxOf)

def entropyNumber (bytes : List UInt8) : Nat :=
  radix.number 256 (bytes.map UInt8.toNat)

/-- The characters and the pending bits are the bytes so far; higher bits of `value` are spent or lost. -/
structure Packed (bytes : List UInt8) (bits : Nat) (value : BitVec 32) (output : Text) : Prop where
  number : entropyNumber bytes = payloadNumber output * 2 ^ bits + value.toNat % 2 ^ bits
  length : 8 * bytes.length = 5 * output.length + bits
  alphabet : ∀ code ∈ output, code ∈ RECOVERY_ALPHABET

variable {bytes : List UInt8} {bits : Nat} {value : BitVec 32} {output : Text}

theorem mem_alphabet {digit : Nat} (hdigit : digit < 32) : RECOVERY_ALPHABET.getD digit 0 ∈ RECOVERY_ALPHABET := by
  have hall : ∀ index < 32, RECOVERY_ALPHABET.getD index 0 ∈ RECOVERY_ALPHABET := by decide
  exact hall digit hdigit

theorem idxOf_alphabet {digit : Nat} (hdigit : digit < 32) :
    RECOVERY_ALPHABET.idxOf (RECOVERY_ALPHABET.getD digit 0) = digit := by
  have hall : ∀ index < 32, RECOVERY_ALPHABET.idxOf (RECOVERY_ALPHABET.getD index 0) = index := by decide
  exact hall digit hdigit

theorem idxOf_lt {code : UInt16} (hcode : code ∈ RECOVERY_ALPHABET) : RECOVERY_ALPHABET.idxOf code < 32 :=
  List.idxOf_lt_length_of_mem hcode

theorem toNat_digit : ((value >>> bits) &&& 31).toNat = value.toNat / 2 ^ bits % 32 := by
  have hmask : (31 : BitVec 32).toNat = 2 ^ 5 - 1 := rfl
  rw [BitVec.toNat_and, BitVec.toNat_ushiftRight, hmask, Nat.and_two_pow_sub_one_eq_mod, Nat.shiftRight_eq_div_pow]

theorem toNat_shifted (value : BitVec 32) (byte : UInt8) :
    (value <<< 8 ||| byte.toBitVec.setWidth 32).toNat = (value.toNat * 256 + byte.toNat) % 2 ^ 32 := by
  have hbyte : (byte.toBitVec.setWidth 32).toNat = byte.toNat := by
    rw [BitVec.toNat_setWidth]
    exact Nat.mod_eq_of_lt (by have := byte.toNat_lt; simp only [UInt8.toNat_toBitVec]; omega)
  have hkept : value.toNat * 256 % 2 ^ 32 = (value.toNat % 2 ^ 24) * 2 ^ 8 := by omega
  have hlt := byte.toNat_lt
  rw [BitVec.toNat_or, BitVec.toNat_shiftLeft, hbyte, Nat.shiftLeft_eq, hkept, ← Nat.shiftLeft_eq,
    ← Nat.shiftLeft_add_eq_or_of_lt (by omega), Nat.shiftLeft_eq]
  omega

theorem emit_of_lt (hfew : bits < 5) : emit value bits output = (bits, output) := by
  match bits, hfew with
  | 0, _ | 1, _ | 2, _ | 3, _ | 4, _ => rfl

theorem emit_add : emit value (bits + 5) output =
    emit value bits (output ++ [RECOVERY_ALPHABET.getD ((value >>> bits) &&& 31).toNat 0]) := rfl

/-- A character takes the five highest of the pending bits. -/
theorem Packed.emit_one (hpacked : Packed bytes (bits + 5) value output) :
    Packed bytes bits value (output ++ [RECOVERY_ALPHABET.getD ((value >>> bits) &&& 31).toNat 0]) := by
  have hdigit : value.toNat / 2 ^ bits % 32 < 32 := Nat.mod_lt _ (by decide)
  rw [toNat_digit]
  refine ⟨?_, ?_, ?_⟩
  · have hsplit : value.toNat % 2 ^ (bits + 5) =
        (value.toNat / 2 ^ bits % 32) * 2 ^ bits + value.toNat % 2 ^ bits := by
      rw [Nat.pow_add, Nat.mod_mul, Nat.mul_comm, Nat.add_comm]
    rw [hpacked.number, hsplit, payloadNumber, payloadNumber, List.map_append, List.map_singleton,
      radix.number_append, idxOf_alphabet hdigit, Nat.pow_add]
    ring
  · have hlength := hpacked.length
    rw [List.length_append, List.length_singleton]
    omega
  · intro code hmem
    rcases List.mem_append.mp hmem with hbefore | hlast
    · exact hpacked.alphabet code hbefore
    · rw [List.mem_singleton.mp hlast]
      exact mem_alphabet hdigit

/-- The inner loop leaves fewer than five bits. -/
theorem Packed.emit (hpacked : Packed bytes bits value output) :
    Packed bytes (emit value bits output).1 value (emit value bits output).2 ∧ (emit value bits output).1 < 5 := by
  induction bits using Nat.strongRecOn generalizing output with
  | ind bits ih =>
    by_cases hfew : bits < 5
    · rw [emit_of_lt hfew]
      exact ⟨hpacked, hfew⟩
    · obtain ⟨fewer, rfl⟩ : ∃ fewer, bits = fewer + 5 := ⟨bits - 5, by omega⟩
      rw [emit_add]
      exact ih fewer (by omega) hpacked.emit_one

/-- Eight more bits are pending after a byte is shifted in. -/
theorem Packed.shift (hpacked : Packed bytes bits value output) (hfew : bits < 5) (byte : UInt8) :
    Packed (bytes ++ [byte]) (bits + 8) (value <<< 8 ||| byte.toBitVec.setWidth 32) output := by
  refine ⟨?_, ?_, hpacked.alphabet⟩
  · have hlt := byte.toNat_lt
    have hpending : ((value <<< 8 ||| byte.toBitVec.setWidth 32).toNat) % 2 ^ (bits + 8) =
        value.toNat % 2 ^ bits * 256 + byte.toNat := by
      have hquotient : (value.toNat * 256 + byte.toNat) / 2 ^ 8 = value.toNat := by omega
      rw [toNat_shifted, Nat.mod_mod_of_dvd _ (Nat.pow_dvd_pow 2 (by omega)), Nat.pow_add, Nat.mul_comm (2 ^ bits),
        Nat.mod_mul, hquotient]
      omega
    rw [hpending, entropyNumber, List.map_append, List.map_singleton, radix.number_append, ← entropyNumber,
      hpacked.number, Nat.pow_add]
    ring
  · have hlength := hpacked.length
    rw [List.length_append, List.length_singleton]
    omega

theorem Packed.encodeBytes {more : List UInt8} (hpacked : Packed bytes bits value output) (hfew : bits < 5) :
    ∃ last, Packed (bytes ++ more) (encodeBytes more bits value output).1 last
      (encodeBytes more bits value output).2 ∧ (encodeBytes more bits value output).1 < 5 := by
  induction more generalizing bytes bits value output with
  | nil => exact ⟨value, by rw [List.append_nil]; exact hpacked, hfew⟩
  | cons byte more ih =>
    obtain ⟨hemitted, hleft⟩ := (hpacked.shift hfew byte).emit
    obtain ⟨last, hlast⟩ := ih hemitted hleft
    rw [List.append_assoc, List.singleton_append] at hlast
    exact ⟨last, hlast⟩

theorem getD_idxOf {code : UInt16} (hcode : code ∈ RECOVERY_ALPHABET) :
    RECOVERY_ALPHABET.getD (RECOVERY_ALPHABET.idxOf code) 0 = code := by
  rw [List.getD_eq_getElem?_getD, List.getElem?_eq_getElem (List.idxOf_lt_length_of_mem hcode), Option.getD_some,
    List.getElem_idxOf]

/-- Payloads are told apart by their numbers. -/
theorem payloadNumber_injective {left right : Text} (hleft : IsPayload left) (hright : IsPayload right)
    (hnumber : payloadNumber left = payloadNumber right) : left = right := by
  have hback : ∀ payload : Text, IsPayload payload →
      (payload.map RECOVERY_ALPHABET.idxOf).map (RECOVERY_ALPHABET.getD · 0) = payload := by
    intro payload hpayload
    rw [List.map_map]
    exact (List.map_congr_left fun code hcode => getD_idxOf (hpayload.2 code hcode)).trans (List.map_id payload)
  have hdigits : ∀ payload : Text, IsPayload payload → ∀ digit ∈ payload.map RECOVERY_ALPHABET.idxOf, digit < 32 := by
    intro payload hpayload digit hmem
    obtain ⟨code, hcode, rfl⟩ := List.mem_map.mp hmem
    exact idxOf_lt (hpayload.2 code hcode)
  have hsame := radix.number_injective (by decide) (hdigits left hleft) (hdigits right hright)
    (by rw [List.length_map, List.length_map, hleft.1, hright.1]) hnumber
  rw [← hback left hleft, hsame, hback right hright]

theorem entropyNumber_lt (bytes : List UInt8) : entropyNumber bytes < 256 ^ bytes.length := by
  have hbytes : ∀ digit ∈ bytes.map UInt8.toNat, digit < 256 := by
    intro digit hmem
    obtain ⟨byte, _, rfl⟩ := List.mem_map.mp hmem
    exact byte.toNat_lt
  have hlt := radix.number_lt (by decide) hbytes
  rwa [List.length_map] at hlt

theorem entropyNumber_injective {left right : List UInt8} (hlength : left.length = right.length)
    (hnumber : entropyNumber left = entropyNumber right) : left = right := by
  have hbytes : ∀ bytes : List UInt8, ∀ digit ∈ bytes.map UInt8.toNat, digit < 256 := by
    intro bytes digit hmem
    obtain ⟨byte, _, rfl⟩ := List.mem_map.mp hmem
    exact byte.toNat_lt
  have hsame := radix.number_injective (by decide) (hbytes left) (hbytes right)
    (by rw [List.length_map, List.length_map, hlength]) hnumber
  exact List.map_injective_iff.mpr (fun _ _ htoNat => UInt8.toNat_inj.mp htoNat) hsame

/-- Twenty bytes are encoded as the payload of the same number. -/
theorem encodeRecoveryPayload_eq_ok_iff {payload : Text} :
    encodeRecoveryPayload bytes = .ok payload ↔
      bytes.length = 20 ∧ IsPayload payload ∧ payloadNumber payload = entropyNumber bytes := by
  rw [encodeRecoveryPayload, throwIf_bind_eq_ok_iff, Decidable.not_not]
  refine and_congr_right fun hlength => ?_
  have hstart : Packed [] 0 0 [] := ⟨rfl, rfl, fun code hmem => absurd hmem List.not_mem_nil⟩
  have hencoded : ∃ last, Packed ([] ++ bytes) (encodeBytes bytes 0 0 []).1 last (encodeBytes bytes 0 0 []).2 ∧
      (encodeBytes bytes 0 0 []).1 < 5 := hstart.encodeBytes (by decide)
  obtain ⟨last, hpacked, hfew⟩ := hencoded
  generalize encodeBytes bytes 0 0 [] = result at hpacked hfew ⊢
  obtain ⟨left, output⟩ := result
  have hcount := hpacked.length
  rw [List.nil_append, hlength] at hcount
  -- A hundred and sixty bits are thirty-two groups of five.
  obtain ⟨rfl, hthirtytwo⟩ : left = 0 ∧ output.length = 32 := by
    dsimp only at hfew hcount
    omega
  have hnumber := hpacked.number
  rw [List.nil_append, Nat.pow_zero, Nat.mod_one, Nat.mul_one, Nat.add_zero] at hnumber
  have houtput : IsPayload output := ⟨hthirtytwo, hpacked.alphabet⟩
  simp only [throwIf_bind_eq_ok_iff, pure_eq_ok_iff]
  constructor
  · rintro ⟨_, rfl⟩
    exact ⟨houtput, hnumber.symm⟩
  · rintro ⟨hpayload, hsame⟩
    refine ⟨by omega, payloadNumber_injective houtput hpayload ?_⟩
    rw [hsame, hnumber]

/-- Every payload encodes bytes. -/
theorem exists_entropy {payload : Text} (hpayload : IsPayload payload) :
    ∃ bytes, encodeRecoveryPayload bytes = .ok payload := by
  have hdigits : ∀ digit ∈ payload.map RECOVERY_ALPHABET.idxOf, digit < 32 := by
    intro digit hmem
    obtain ⟨code, hcode, rfl⟩ := List.mem_map.mp hmem
    exact idxOf_lt (hpayload.2 code hcode)
  have hlt := radix.number_lt (by decide) hdigits
  rw [List.length_map, hpayload.1] at hlt
  have hlt : radix.number 32 (payload.map RECOVERY_ALPHABET.idxOf) < 256 ^ 20 := hlt
  obtain ⟨digits, hlength, hbytes, hnumber⟩ := radix.exists_digits (by decide) hlt
  refine ⟨digits.map UInt8.ofNat, encodeRecoveryPayload_eq_ok_iff.mpr ⟨by rw [List.length_map, hlength], hpayload, ?_⟩⟩
  have hround : (digits.map UInt8.ofNat).map UInt8.toNat = digits := by
    rw [List.map_map]
    refine (List.map_congr_left fun digit hmem => ?_).trans (List.map_id digits)
    rw [Function.comp_apply, UInt8.toNat_ofNat', Nat.mod_eq_of_lt (hbytes digit hmem), id]
  rw [entropyNumber, hround, hnumber]
  rfl

theorem exists_payload (hlength : bytes.length = 20) : ∃ payload, encodeRecoveryPayload bytes = .ok payload := by
  have hlt := entropyNumber_lt bytes
  rw [hlength] at hlt
  have hlt : entropyNumber bytes < 32 ^ 32 := hlt
  obtain ⟨digits, hcount, hdigits, hnumber⟩ := radix.exists_digits (by decide) hlt
  refine ⟨digits.map (RECOVERY_ALPHABET.getD · 0), encodeRecoveryPayload_eq_ok_iff.mpr ⟨hlength, ⟨?_, ?_⟩, ?_⟩⟩
  · rw [List.length_map, hcount]
  · intro code hmem
    obtain ⟨digit, hdigit, rfl⟩ := List.mem_map.mp hmem
    exact mem_alphabet (hdigits digit hdigit)
  · have hround : (digits.map (RECOVERY_ALPHABET.getD · 0)).map RECOVERY_ALPHABET.idxOf = digits := by
      rw [List.map_map]
      exact (List.map_congr_left fun digit hmem => idxOf_alphabet (hdigits digit hmem)).trans (List.map_id digits)
    rw [payloadNumber, hround, hnumber]

end packing

end pgid.recovery
