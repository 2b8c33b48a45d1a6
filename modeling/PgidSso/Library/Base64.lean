import PgidSso.Library.Pattern

/-! The unpadded base64url codec. -/

namespace base64

/-- The 64 characters, by their value. -/
def alphabet : Text :=
  Text.of "ABCDEFGHIJKLMNOPQRSTUVWXYZabcdefghijklmnopqrstuvwxyz0123456789-_"

/-- The character of a group of six bits. -/
def sextet (value : Nat) : UInt16 :=
  alphabet.getD (value % 64) 0

/-- Three bytes are four characters; the last group may be shorter. -/
def encode : List UInt8 → Text
  | first :: second :: third :: rest =>
    sextet (first.toNat / 4) :: sextet (first.toNat * 16 + second.toNat / 16) ::
      sextet (second.toNat * 4 + third.toNat / 64) :: sextet third.toNat :: encode rest
  | [first, second] =>
    [sextet (first.toNat / 4), sextet (first.toNat * 16 + second.toNat / 16),
      sextet (second.toNat * 4)]
  | [first] => [sextet (first.toNat / 4), sextet (first.toNat * 16)]
  | [] => []

/-- `[A-Za-z0-9_-]`. -/
def isCharacter (code : UInt16) : Bool :=
  code ∈ alphabet

/-- `[AEIMQUYcgkosw048]`: the two low bits of the character's value are zero. -/
def isFinal (code : UInt16) : Bool :=
  code ∈ Text.of "AEIMQUYcgkosw048"

/-- The value of a character. -/
def value? (code : UInt16) : Option Nat :=
  let index := alphabet.idxOf code
  if index < 64 then some index else none

/-- Four characters are three bytes. The bits that a shorter last group has too many
are dropped, and a last group of one character is no base64. -/
def decode : Text → Option (List UInt8)
  | first :: second :: third :: fourth :: rest => do
    let a ← value? first
    let b ← value? second
    let c ← value? third
    let d ← value? fourth
    let bytes ← decode rest
    return UInt8.ofNat (a * 4 + b / 16) :: UInt8.ofNat (b * 16 + c / 4) ::
      UInt8.ofNat (c * 64 + d) :: bytes
  | [first, second, third] => do
    let a ← value? first
    let b ← value? second
    let c ← value? third
    return [UInt8.ofNat (a * 4 + b / 16), UInt8.ofNat (b * 16 + c / 4)]
  | [first, second] => do
    let a ← value? first
    let b ← value? second
    return [UInt8.ofNat (a * 4 + b / 16)]
  | [_] => none
  | [] => some []

/-- The number of characters that encode so many bytes. -/
def encodedLength (bytes : Nat) : Nat :=
  (4 * bytes + 2) / 3

theorem length_encode (bytes : List UInt8) : (encode bytes).length = encodedLength bytes.length := by
  induction bytes using encode.induct with
  | case1 first second third rest ih =>
    simp only [encode, List.length_cons, ih, encodedLength]
    omega
  | case2 first second => simp [encode, encodedLength]
  | case3 first => simp [encode, encodedLength]
  | case4 => rfl

theorem isCharacter_sextet (value : Nat) : isCharacter (sextet value) = true := by
  have hall : ∀ index < 64, isCharacter (alphabet.getD index 0) = true := by set_option maxRecDepth 20000 in decide
  exact hall (value % 64) (Nat.mod_lt value (by decide))

theorem isFinal_sextet (value : Nat) : isFinal (sextet (value * 4)) = true := by
  have hall : ∀ index < 16, isFinal (alphabet.getD (4 * index) 0) = true := by set_option maxRecDepth 20000 in decide
  have hindex : value * 4 % 64 = 4 * (value % 16) := by omega
  rw [sextet, hindex]
  exact hall (value % 16) (Nat.mod_lt value (by decide))

/-- Bytes of which the last two are no group of three leave two bits over. -/
theorem fits_encode {bytes : List UInt8} {groups : Nat} (hlength : bytes.length = 3 * groups + 2) :
    Text.fits (List.replicate (4 * groups + 2) isCharacter ++ [isFinal]) (encode bytes) = true := by
  induction groups generalizing bytes with
  | zero =>
    obtain ⟨first, second, rfl⟩ := List.length_eq_two.mp hlength
    simp [encode, Text.fits, List.replicate, isCharacter_sextet, isFinal_sextet]
  | succ groups ih =>
    obtain ⟨first, second, third, htake⟩ := List.length_eq_three.mp (show (bytes.take 3).length = 3 by
      rw [List.length_take]
      omega)
    have hdrop : (bytes.drop 3).length = 3 * groups + 2 := by
      rw [List.length_drop]
      omega
    have hcount : 4 * (groups + 1) + 2 = 4 * groups + 2 + 1 + 1 + 1 + 1 := by omega
    rw [hcount, ← List.take_append_drop 3 bytes, htake]
    simp only [List.replicate_succ, List.cons_append, List.nil_append, encode, Text.fits, isCharacter_sextet,
      Bool.true_and]
    exact ih hdrop

theorem value?_sextet (value : Nat) : value? (sextet value) = some (value % 64) := by
  have hall : ∀ index < 64, value? (alphabet.getD index 0) = some index := by set_option maxRecDepth 20000 in decide
  exact hall (value % 64) (Nat.mod_lt value (by decide))

theorem ofNat_of_mod {byte : UInt8} {value : Nat} (hvalue : value % 256 = byte.toNat) :
    UInt8.ofNat value = byte := by
  apply UInt8.toNat_inj.mp
  rw [UInt8.toNat_ofNat']
  exact hvalue

/-- What is encoded is decoded. -/
theorem decode_encode (bytes : List UInt8) : decode (encode bytes) = some bytes := by
  induction bytes using encode.induct with
  | case1 first second third rest ih =>
    have hfirst := first.toNat_lt
    have hsecond := second.toNat_lt
    have hthird := third.toNat_lt
    simp only [encode, decode, value?_sextet, ih, Option.bind_eq_bind, Option.bind_some, Option.pure_def,
      Option.some.injEq, List.cons.injEq, and_true]
    exact ⟨ofNat_of_mod (by omega), ofNat_of_mod (by omega), ofNat_of_mod (by omega)⟩
  | case2 first second =>
    have hfirst := first.toNat_lt
    have hsecond := second.toNat_lt
    simp only [encode, decode, value?_sextet, Option.bind_eq_bind, Option.bind_some, Option.pure_def,
      Option.some.injEq, List.cons.injEq, and_true]
    exact ⟨ofNat_of_mod (by omega), ofNat_of_mod (by omega)⟩
  | case3 first =>
    have hfirst := first.toNat_lt
    simp only [encode, decode, value?_sextet, Option.bind_eq_bind, Option.bind_some, Option.pure_def,
      Option.some.injEq, List.cons.injEq, and_true]
    exact ofNat_of_mod (by omega)
  | case4 => rfl

end base64
