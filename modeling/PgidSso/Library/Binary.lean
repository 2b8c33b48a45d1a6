import PgidSso.Library.Text

/-! Bytes as texts with one code unit for each byte. -/

namespace Text

/-- `bytes.toString("latin1")`, and `String.fromCharCode(...bytes)`. -/
def latin1 (bytes : List UInt8) : Text :=
  bytes.map UInt8.toUInt16

/-- The bytes `text.charCodeAt(index)`. -/
def charCodes (text : Text) : List UInt8 :=
  text.map UInt16.toUInt8

/-- A text of code units below 256. -/
def Binary (text : Text) : Prop :=
  ∀ code ∈ text, code.toNat < 256

instance (text : Text) : Decidable text.Binary :=
  List.decidableBAll (fun code : UInt16 => code.toNat < 256) text

theorem binary_latin1 (bytes : List UInt8) : (latin1 bytes).Binary := by
  intro code hcode
  obtain ⟨byte, -, rfl⟩ := List.mem_map.mp hcode
  rw [UInt8.toNat_toUInt16]
  exact byte.toNat_lt

theorem charCodes_latin1 (bytes : List UInt8) : charCodes (latin1 bytes) = bytes := by
  rw [charCodes, latin1, List.map_map]
  have hid : UInt16.toUInt8 ∘ UInt8.toUInt16 = id := by
    funext byte
    exact UInt8.toUInt8_toUInt16 byte
  rw [hid, List.map_id]

theorem latin1_append (left right : List UInt8) : latin1 (left ++ right) = latin1 left ++ latin1 right :=
  List.map_append

end Text
