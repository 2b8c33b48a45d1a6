import PgidSso.Library.Lines

/-! Lists of names and values, and the form encoding that writes them without loss. -/

namespace form

/-- A name and a value; neither has an unpaired surrogate. -/
structure Param where
  name : Text
  value : Text
  namePaired : name.Paired
  valuePaired : value.Paired

theorem Param.ext_texts {left right : Param} (hname : left.name = right.name) (hvalue : left.value = right.value) :
    left = right := by
  cases left
  cases right
  simp only at hname hvalue
  subst hname hvalue
  rfl

instance : DecidableEq Param := fun left right =>
  decidable_of_iff (left.name = right.name ∧ left.value = right.value)
    ⟨fun hsame => Param.ext_texts hsame.1 hsame.2, fun hsame => hsame ▸ ⟨rfl, rfl⟩⟩

/-- The bytes that stand for themselves: `*-.0-9A-Z_a-z`. -/
def isPlainByte (byte : Nat) : Bool :=
  byte = 0x2A ∨ byte = 0x2D ∨ byte = 0x2E ∨ byte = 0x5F ∨ (0x30 ≤ byte ∧ byte ≤ 0x39) ∨
    (0x41 ≤ byte ∧ byte ≤ 0x5A) ∨ (0x61 ≤ byte ∧ byte ≤ 0x7A)

/-- An uppercase hexadecimal digit. -/
def hexDigit (value : Nat) : UInt16 :=
  UInt16.ofNat (if value < 10 then 0x30 + value else 0x37 + value)

/-- What is written for a byte: itself, `+` for a space, or its hexadecimal digits. -/
def encodeByte (byte : UInt8) : Text :=
  if isPlainByte byte.toNat then [UInt16.ofNat byte.toNat]
  else if byte.toNat = 0x20 then [Text.unit '+']
  else [Text.unit '%', hexDigit (byte.toNat / 16), hexDigit (byte.toNat % 16)]

def encodeBytes (bytes : List UInt8) : Text :=
  bytes.flatMap encodeByte

/-- `name=value`. -/
def encodeParam (param : Param) : Text :=
  encodeBytes param.name.encode ++ Text.unit '=' :: encodeBytes param.value.encode

/-- `params.toString()`. -/
def serialize : List Param → Text
  | [] => []
  | [param] => encodeParam param
  | param :: next :: rest => encodeParam param ++ Text.unit '&' :: serialize (next :: rest)

section injective

/-- What is written for a byte is three characters if it begins with `%`, else one, it has no
separator, and no other byte is written so. -/
theorem encodeByte_shape : ∀ value < 256,
    (encodeByte (UInt8.ofNat value)).length =
        (if (encodeByte (UInt8.ofNat value)).head? = some (Text.unit '%') then 3 else 1) ∧
      Text.unit '&' ∉ encodeByte (UInt8.ofNat value) ∧ Text.unit '=' ∉ encodeByte (UInt8.ofNat value) := by
  set_option maxRecDepth 20000 in decide

/-- The byte that a written one stands for. -/
def decodeByte (text : Text) : Nat :=
  match text with
  | [code] => if code = Text.unit '+' then 0x20 else code.toNat
  | [_, high, low] =>
    let digit := fun code : UInt16 => if code.toNat < 0x41 then code.toNat - 0x30 else code.toNat - 0x37
    digit high * 16 + digit low
  | _ => 0

theorem decodeByte_encodeByte : ∀ value < 256, decodeByte (encodeByte (UInt8.ofNat value)) = value := by
  set_option maxRecDepth 20000 in decide

theorem ofNat_toNat_byte (byte : UInt8) : UInt8.ofNat byte.toNat = byte :=
  UInt8.ofNat_toNat

theorem encodeByte_append_inj {left right : UInt8} {after rest : Text}
    (hsame : encodeByte left ++ after = encodeByte right ++ rest) : left = right ∧ after = rest := by
  obtain ⟨hleft, -⟩ := encodeByte_shape left.toNat left.toNat_lt
  obtain ⟨hright, -⟩ := encodeByte_shape right.toNat right.toNat_lt
  rw [ofNat_toNat_byte] at hleft hright
  have hhead : (encodeByte left).head? = (encodeByte right).head? := by
    have hnonempty : ∀ byte, encodeByte byte ≠ [] := by
      intro byte hempty
      rw [encodeByte] at hempty
      split at hempty
      · cases hempty
      · split at hempty <;> cases hempty
    have hheads := congrArg List.head? hsame
    rwa [List.head?_append_of_ne_nil _ (hnonempty left), List.head?_append_of_ne_nil _ (hnonempty right)] at hheads
  have hlength : (encodeByte left).length = (encodeByte right).length := by
    rw [hleft, hright, hhead]
  obtain ⟨hcode, hrest⟩ := List.append_inj hsame hlength
  refine ⟨?_, hrest⟩
  have hdecoded := congrArg decodeByte hcode
  rw [← ofNat_toNat_byte left, ← ofNat_toNat_byte right, decodeByte_encodeByte _ left.toNat_lt,
    decodeByte_encodeByte _ right.toNat_lt] at hdecoded
  exact UInt8.toNat_inj.mp hdecoded

theorem encodeBytes_inj {left right : List UInt8} (hsame : encodeBytes left = encodeBytes right) : left = right := by
  have hnonempty : ∀ byte bytes, encodeBytes (byte :: bytes) ≠ [] := by
    intro byte bytes hempty
    rw [encodeBytes, List.flatMap_cons, List.append_eq_nil_iff, encodeByte] at hempty
    obtain ⟨hfirst, -⟩ := hempty
    split at hfirst
    · cases hfirst
    · split at hfirst <;> cases hfirst
  induction left generalizing right with
  | nil =>
    cases right with
    | nil => rfl
    | cons byte right => exact absurd hsame.symm (hnonempty byte right)
  | cons byte left ih =>
    cases right with
    | nil => exact absurd hsame (hnonempty byte left)
    | cons other right =>
      rw [encodeBytes, encodeBytes, List.flatMap_cons, List.flatMap_cons] at hsame
      obtain ⟨rfl, hrest⟩ := encodeByte_append_inj hsame
      rw [ih hrest]

theorem separator_not_mem_encodeBytes (bytes : List UInt8) :
    Text.unit '&' ∉ encodeBytes bytes ∧ Text.unit '=' ∉ encodeBytes bytes := by
  have hbyte : ∀ byte, Text.unit '&' ∉ encodeByte byte ∧ Text.unit '=' ∉ encodeByte byte := by
    intro byte
    obtain ⟨-, hshape⟩ := encodeByte_shape byte.toNat byte.toNat_lt
    rwa [ofNat_toNat_byte] at hshape
  constructor
  · intro hmem
    obtain ⟨byte, -, hcode⟩ := List.mem_flatMap.mp hmem
    exact (hbyte byte).1 hcode
  · intro hmem
    obtain ⟨byte, -, hcode⟩ := List.mem_flatMap.mp hmem
    exact (hbyte byte).2 hcode

/-- Texts without unpaired surrogates have different bytes. -/
theorem encode_inj {left right : Text} (hleft : left.Paired) (hright : right.Paired)
    (hsame : left.encode = right.encode) : left = right := by
  have hdecoded := Text.decodeBytes_encode hleft
  rw [hsame, Text.decodeBytes_encode hright] at hdecoded
  exact (Option.some.inj hdecoded).symm

theorem encodeParam_inj {left right : Param} (hsame : encodeParam left = encodeParam right) : left = right := by
  obtain ⟨hname, hvalue⟩ := Text.append_separator_inj (separator_not_mem_encodeBytes _).2
    (separator_not_mem_encodeBytes _).2 hsame
  exact Param.ext_texts (encode_inj left.namePaired right.namePaired (encodeBytes_inj hname))
    (encode_inj left.valuePaired right.valuePaired (encodeBytes_inj hvalue))

theorem separator_not_mem_encodeParam (param : Param) : Text.unit '&' ∉ encodeParam param := by
  rw [encodeParam, List.mem_append, List.mem_cons, not_or, not_or]
  exact ⟨(separator_not_mem_encodeBytes _).1, by decide, (separator_not_mem_encodeBytes _).1⟩

theorem encodeParam_ne_nil (param : Param) : encodeParam param ≠ [] :=
  List.append_ne_nil_of_right_ne_nil _ (List.cons_ne_nil _ _)

theorem serialize_cons_ne_nil (param : Param) (rest : List Param) : serialize (param :: rest) ≠ [] := by
  cases rest with
  | nil => exact encodeParam_ne_nil param
  | cons next rest => exact List.append_ne_nil_of_right_ne_nil _ (List.cons_ne_nil _ _)

/-- Different lists are written differently. -/
theorem serialize_inj {left right : List Param} (hsame : serialize left = serialize right) : left = right := by
  induction left generalizing right with
  | nil =>
    cases right with
    | nil => rfl
    | cons param right => exact absurd hsame.symm (serialize_cons_ne_nil param right)
  | cons param left ih =>
    cases right with
    | nil => exact absurd hsame (serialize_cons_ne_nil param left)
    | cons other right =>
      cases left with
      | nil =>
        cases right with
        | nil => rw [encodeParam_inj hsame]
        | cons next right =>
          have hmem : Text.unit '&' ∈ encodeParam param := by
            rw [serialize] at hsame
            rw [hsame]
            exact List.mem_append_right _ List.mem_cons_self
          exact absurd hmem (separator_not_mem_encodeParam param)
      | cons next left =>
        cases right with
        | nil =>
          have hmem : Text.unit '&' ∈ encodeParam other := by
            rw [serialize, serialize] at hsame
            rw [← hsame]
            exact List.mem_append_right _ List.mem_cons_self
          exact absurd hmem (separator_not_mem_encodeParam other)
        | cons later right =>
          obtain ⟨hparam, hrest⟩ := Text.append_separator_inj (separator_not_mem_encodeParam param)
            (separator_not_mem_encodeParam other) hsame
          rw [encodeParam_inj hparam, ih hrest]

end injective

end form
