import PgidSso.Library.Utf8

/-! Texts in the two byte orders of UTF-16. -/

inductive ByteOrder where
  | little
  | big
  deriving DecidableEq

namespace Text

/-- U+FEFF, the byte order mark. -/
def mark : UInt16 := 0xFEFF

/-- U+FFFD, which stands for what is ill-formed. -/
def replacement : UInt16 := 0xFFFD

/-- `text.replace(/^\uFEFF/, "")`. -/
def stripMark : Text → Text
  | [] => []
  | code :: rest => if code = mark then rest else code :: rest

def unitBytes (order : ByteOrder) (code : UInt16) : List UInt8 :=
  let low := UInt8.ofNat (code.toNat % 256)
  let high := UInt8.ofNat (code.toNat / 256)
  match order with
  | .little => [low, high]
  | .big => [high, low]

/-- The bytes of a text in UTF-16. -/
def encodeUtf16 (order : ByteOrder) (text : Text) : List UInt8 :=
  text.flatMap (unitBytes order)

def unitOf (order : ByteOrder) (first second : UInt8) : UInt16 :=
  match order with
  | .little => UInt16.ofNat (first.toNat + 256 * second.toNat)
  | .big => UInt16.ofNat (256 * first.toNat + second.toNat)

/-- The code units of the bytes, and whether a byte is left over. -/
def readUnits (order : ByteOrder) : List UInt8 → Text × Bool
  | first :: second :: rest =>
    let (units, odd) := readUnits order rest
    (unitOf order first second :: units, odd)
  | [_] => ([], true)
  | [] => ([], false)

/-- Replaces every surrogate that stands alone and a byte left over at the end, the two together
where the text ends with both. -/
def replaceLone (odd : Bool) : Text → Text
  | high :: low :: rest =>
    if IsHigh high ∧ IsLow low then high :: low :: replaceLone odd rest
    else if IsHigh high ∨ IsLow high then replacement :: replaceLone odd (low :: rest)
    else high :: replaceLone odd (low :: rest)
  | [code] =>
    if IsHigh code then [replacement]
    else (if IsLow code then replacement else code) :: replaceLone odd []
  | [] => if odd then [replacement] else []

/-- `new TextDecoder("utf-16le").decode(bytes)`, or `"utf-16be"`, which drops a byte order mark. -/
def decodeUtf16 (order : ByteOrder) (bytes : List UInt8) : Text :=
  let (units, odd) := readUnits order bytes
  stripMark (replaceLone odd units)

section roundtrip

variable {order : ByteOrder} {text : Text}

theorem readUnits_unitBytes {code : UInt16} {bytes : List UInt8} :
    readUnits order (unitBytes order code ++ bytes) = (code :: (readUnits order bytes).1, (readUnits order bytes).2) := by
  have hbound : code.toNat < 65536 := code.toNat_lt
  have hlow := toNat_ofNat_byte (show code.toNat % 256 < 256 by omega)
  have hhigh := toNat_ofNat_byte (show code.toNat / 256 < 256 by omega)
  cases order with
  | little =>
    have hunit : code.toNat % 256 + 256 * (code.toNat / 256) = code.toNat := by omega
    simp only [unitBytes, List.cons_append, List.nil_append, readUnits, unitOf, hlow, hhigh, hunit,
      UInt16.ofNat_toNat]
  | big =>
    have hunit : 256 * (code.toNat / 256) + code.toNat % 256 = code.toNat := by omega
    simp only [unitBytes, List.cons_append, List.nil_append, readUnits, unitOf, hlow, hhigh, hunit,
      UInt16.ofNat_toNat]

theorem readUnits_encodeUtf16 : readUnits order (encodeUtf16 order text) = (text, false) := by
  induction text with
  | nil => rfl
  | cons code text ih => rw [encodeUtf16, List.flatMap_cons, readUnits_unitBytes, ← encodeUtf16, ih]

/-- A well-formed text is read as it stands. -/
theorem replaceLone_of_paired (hpaired : text.Paired) : replaceLone false text = text := by
  induction text using encode.induct with
  | case1 high low rest hpair ih =>
    rw [Paired, if_pos hpair] at hpaired
    rw [replaceLone, if_pos hpair, ih hpaired]
  | case2 high low rest hpair ih =>
    rw [Paired, if_neg hpair] at hpaired
    obtain ⟨hhigh, hlow, hrest⟩ := hpaired
    rw [replaceLone, if_neg hpair, if_neg (not_or.mpr ⟨hhigh, hlow⟩), ih hrest]
  | case3 code =>
    obtain ⟨hhigh, hlow⟩ := hpaired
    rw [replaceLone, if_neg hhigh, if_neg hlow]
    rfl
  | case4 => rfl

/-- A well-formed text is read back from its bytes, less a byte order mark. -/
theorem decodeUtf16_encodeUtf16 (hpaired : text.Paired) : decodeUtf16 order (encodeUtf16 order text) = stripMark text := by
  rw [decodeUtf16, readUnits_encodeUtf16]
  exact congrArg stripMark (replaceLone_of_paired hpaired)

theorem paired_of_forall (htext : ∀ code ∈ text, ¬ IsHigh code ∧ ¬ IsLow code) : text.Paired := by
  induction text with
  | nil => trivial
  | cons code rest ih =>
    obtain ⟨hcode, hrest⟩ := List.forall_mem_cons.mp htext
    cases rest with
    | nil => exact hcode
    | cons next rest =>
      rw [Paired, if_neg fun hpair => hcode.1 hpair.1]
      exact ⟨hcode.1, hcode.2, ih hrest⟩

theorem length_encodeUtf16 : (encodeUtf16 order text).length = 2 * text.length := by
  induction text with
  | nil => rfl
  | cons code text ih =>
    have hunit : (unitBytes order code).length = 2 := by
      cases order <;> rfl
    rw [encodeUtf16, List.flatMap_cons, List.length_append, hunit, ← encodeUtf16, ih, List.length_cons]
    omega

theorem mem_of_mem_stripMark {code : UInt16} (hcode : code ∈ stripMark text) : code ∈ text := by
  cases text with
  | nil => exact hcode
  | cons first rest =>
    rw [stripMark] at hcode
    split at hcode
    · exact List.mem_cons_of_mem _ hcode
    · exact hcode

variable {P : UInt16 → Prop} (hreplacement : P replacement)
include hreplacement

theorem forall_mem_replaceLone {odd : Bool} (hunits : ∀ code ∈ text, P code) :
    ∀ code ∈ replaceLone odd text, P code := by
  have hend : ∀ code ∈ replaceLone odd [], P code := by
    cases odd with
    | false => exact fun code hmem => absurd hmem List.not_mem_nil
    | true => exact List.forall_mem_singleton.mpr hreplacement
  induction text using encode.induct with
  | case1 high low rest hpair ih =>
    obtain ⟨hhigh, hlater⟩ := List.forall_mem_cons.mp hunits
    obtain ⟨hlow, hlater⟩ := List.forall_mem_cons.mp hlater
    rw [replaceLone, if_pos hpair]
    exact List.forall_mem_cons.mpr ⟨hhigh, List.forall_mem_cons.mpr ⟨hlow, ih hlater⟩⟩
  | case2 high low rest hpair ih =>
    obtain ⟨hhigh, hlater⟩ := List.forall_mem_cons.mp hunits
    rw [replaceLone, if_neg hpair]
    split
    · exact List.forall_mem_cons.mpr ⟨hreplacement, ih hlater⟩
    · exact List.forall_mem_cons.mpr ⟨hhigh, ih hlater⟩
  | case3 code =>
    rw [replaceLone]
    split
    · exact List.forall_mem_singleton.mpr hreplacement
    · refine List.forall_mem_cons.mpr ⟨?_, hend⟩
      split
      · exact hreplacement
      · exact List.forall_mem_singleton.mp hunits
  | case4 => exact hend

/-- What is read consists of the code units of the bytes and of U+FFFD. -/
theorem forall_mem_decodeUtf16 {bytes : List UInt8} (hunits : ∀ code ∈ (readUnits order bytes).1, P code) :
    ∀ code ∈ decodeUtf16 order bytes, P code :=
  fun code hcode => forall_mem_replaceLone hreplacement hunits code (mem_of_mem_stripMark hcode)

end roundtrip

/-! ### Texts read in the other byte order, or from a byte in the middle of a character -/

section misreading

def firstByte (order : ByteOrder) (code : UInt16) : UInt8 :=
  match order with
  | .little => UInt8.ofNat (code.toNat % 256)
  | .big => UInt8.ofNat (code.toNat / 256)

def secondByte (order : ByteOrder) (code : UInt16) : UInt8 :=
  match order with
  | .little => UInt8.ofNat (code.toNat / 256)
  | .big => UInt8.ofNat (code.toNat % 256)

/-- The character with its two bytes exchanged. -/
def exchanged (code : UInt16) : UInt16 :=
  unitOf .little (firstByte .big code) (secondByte .big code)

/-- Every byte with the one after it, where `before` stands in front of a text in the order. -/
def joinedFrom (reading order : ByteOrder) (before : UInt8) : Text → Text
  | [] => []
  | code :: rest => unitOf reading before (firstByte order code) :: joinedFrom reading order (secondByte order code) rest

/-- The second byte of every character with the first one of the next; a byte before the text is
with the first one of all. -/
def joined (reading order : ByteOrder) : Option UInt8 → Text → Text
  | some byte, text => joinedFrom reading order byte text
  | none, code :: rest => joinedFrom reading order (secondByte order code) rest
  | none, [] => []

variable {order reading : ByteOrder} {text : Text}

theorem unitBytes_eq (code : UInt16) : unitBytes order code = [firstByte order code, secondByte order code] := by
  cases order <;> rfl

theorem readUnits_exchanged (hother : reading ≠ order) :
    readUnits reading (encodeUtf16 order text) = (text.map exchanged, false) := by
  have hunit : ∀ code, unitOf reading (firstByte order code) (secondByte order code) = exchanged code := by
    intro code
    cases reading with
    | little =>
      cases order with
      | little => exact absurd rfl hother
      | big => rfl
    | big =>
      cases order with
      | little =>
        rw [exchanged, unitOf, unitOf, Nat.add_comm]
        rfl
      | big => exact absurd rfl hother
  induction text with
  | nil => rfl
  | cons code text ih =>
    rw [encodeUtf16, List.flatMap_cons, unitBytes_eq, List.cons_append, List.singleton_append, readUnits,
      ← encodeUtf16, ih, hunit]
    rfl

theorem readUnits_joinedFrom {before : UInt8} :
    readUnits reading (before :: encodeUtf16 order text) = (joinedFrom reading order before text, true) := by
  induction text generalizing before with
  | nil => rfl
  | cons code text ih =>
    rw [encodeUtf16, List.flatMap_cons, unitBytes_eq, List.cons_append, List.singleton_append, readUnits,
      ← encodeUtf16, ih]
    rfl

/-- A text that is read from a byte in the middle of a character. -/
theorem readUnits_joined (extra : Option UInt8) (hne : text ≠ []) :
    readUnits reading ((extra.toList ++ encodeUtf16 order text).drop (1 - extra.toList.length)) =
      (joined reading order extra text, true) := by
  cases extra with
  | some byte => exact readUnits_joinedFrom
  | none =>
    cases text with
    | nil => exact absurd rfl hne
    | cons code text =>
      rw [encodeUtf16, List.flatMap_cons, unitBytes_eq, ← encodeUtf16]
      exact readUnits_joinedFrom

end misreading

end Text
