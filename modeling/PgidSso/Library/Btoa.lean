import PgidSso.Library.Base64
import PgidSso.Library.Binary

/-! Base64 with padding, as `btoa` writes it and `atob` reads it, beside the unpadded base64url. -/

namespace base64

/-- The 64 characters of base64, by their value. -/
def standardAlphabet : Text :=
  Text.of "ABCDEFGHIJKLMNOPQRSTUVWXYZabcdefghijklmnopqrstuvwxyz0123456789+/"

def padding : UInt16 := Text.unit '='

def standardSextet (value : Nat) : UInt16 :=
  standardAlphabet.getD (value % 64) 0

/-- Three bytes are four characters; a shorter last group is padded. -/
def encodePadded : List UInt8 → Text
  | first :: second :: third :: rest =>
    standardSextet (first.toNat / 4) :: standardSextet (first.toNat * 16 + second.toNat / 16) ::
      standardSextet (second.toNat * 4 + third.toNat / 64) :: standardSextet third.toNat :: encodePadded rest
  | [first, second] =>
    [standardSextet (first.toNat / 4), standardSextet (first.toNat * 16 + second.toNat / 16),
      standardSextet (second.toNat * 4), padding]
  | [first] => [standardSextet (first.toNat / 4), standardSextet (first.toNat * 16), padding, padding]
  | [] => []

/-- `btoa(binary)`, which throws if a code unit is no byte. -/
def btoa (binary : Text) : Option Text :=
  if binary.Binary then some (encodePadded binary.charCodes) else none

/-- The value of a character of base64. -/
def standardValue? (code : UInt16) : Option Nat :=
  let index := standardAlphabet.idxOf code
  if index < 64 then some index else none

/-- The white space of ASCII. -/
def isBlank (code : UInt16) : Bool :=
  code ∈ [0x0009, 0x000A, 0x000C, 0x000D, 0x0020]

/-- Drops one padding character, or two, at the end. -/
def dropPadding (text : Text) : Text :=
  match text.reverse with
  | last :: previous :: rest =>
    if last = padding then if previous = padding then rest.reverse else (previous :: rest).reverse else text
  | _ => text

/-- Four characters are three bytes; the bits that a shorter last group has too many are dropped. -/
def decodeStandard : Text → Option (List UInt8)
  | first :: second :: third :: fourth :: rest => do
    let a ← standardValue? first
    let b ← standardValue? second
    let c ← standardValue? third
    let d ← standardValue? fourth
    let bytes ← decodeStandard rest
    return UInt8.ofNat (a * 4 + b / 16) :: UInt8.ofNat (b * 16 + c / 4) :: UInt8.ofNat (c * 64 + d) :: bytes
  | [first, second, third] => do
    let a ← standardValue? first
    let b ← standardValue? second
    let c ← standardValue? third
    return [UInt8.ofNat (a * 4 + b / 16), UInt8.ofNat (b * 16 + c / 4)]
  | [first, second] => do
    let a ← standardValue? first
    let b ← standardValue? second
    return [UInt8.ofNat (a * 4 + b / 16)]
  | [_] => none
  | [] => some []

/-- `atob(text)`, which throws if what is left of the text without blanks and padding is no base64. -/
def atob (text : Text) : Option Text :=
  let data := text.filter fun code => isBlank code = false
  let data := if data.length % 4 = 0 then dropPadding data else data
  (decodeStandard data).map Text.latin1

/-- `text.replaceAll(old, new)`, for two characters. -/
def replaceAll (old new : Char) (text : Text) : Text :=
  text.map fun code => if code = Text.unit old then Text.unit new else code

/-- `text.replaceAll("+", "-").replaceAll("/", "_").replace(/=+$/, "")`. -/
def toUrl (text : Text) : Text :=
  ((replaceAll '/' '_' (replaceAll '+' '-' text)).reverse.dropWhile fun code => code = padding).reverse

/-- `text.replaceAll("-", "+").replaceAll("_", "/")`, padded to groups of four. -/
def fromUrl (text : Text) : Text :=
  let normalized := replaceAll '_' '/' (replaceAll '-' '+' text)
  normalized ++ List.replicate ((4 - normalized.length % 4) % 4) padding

section url

variable {text : Text} {bytes : List UInt8} {code : UInt16}

theorem sextet_ne_padding (value : Nat) : sextet value ≠ padding := by
  have hall : ∀ index < 64, alphabet.getD index 0 ≠ padding := by set_option maxRecDepth 20000 in decide
  exact hall (value % 64) (Nat.mod_lt value (by decide))

/-- What every character of the alphabet has, the characters of what is encoded have. -/
theorem forall_mem_encode {P : UInt16 → Prop} (hsextet : ∀ value, P (sextet value)) : ∀ code ∈ encode bytes, P code := by
  induction bytes using encode.induct with
  | case1 first second third rest ih =>
    simp only [encode, List.forall_mem_cons, hsextet, true_and]
    exact ih
  | case2 first second =>
    simp only [encode, List.forall_mem_cons, hsextet, true_and]
    exact List.forall_mem_nil _
  | case3 first =>
    simp only [encode, List.forall_mem_cons, hsextet, true_and]
    exact List.forall_mem_nil _
  | case4 => exact List.forall_mem_nil _

theorem encode_ne_padding : ∀ code ∈ encode bytes, code ≠ padding :=
  forall_mem_encode sextet_ne_padding

/-- The two characters that differ are replaced. -/
theorem replaceAll_standardSextet (value : Nat) :
    replaceAll '/' '_' (replaceAll '+' '-' [standardSextet value]) = [sextet value] := by
  have hall : ∀ index < 64, replaceAll '/' '_' (replaceAll '+' '-' [standardAlphabet.getD index 0]) =
      [alphabet.getD index 0] := by set_option maxRecDepth 20000 in decide
  exact hall (value % 64) (Nat.mod_lt value (by decide))

theorem replaceAll_cons (old new : Char) :
    replaceAll old new (code :: text) = replaceAll old new [code] ++ replaceAll old new text :=
  rfl

theorem replaceAll_append (old new : Char) {left right : Text} :
    replaceAll old new (left ++ right) = replaceAll old new left ++ replaceAll old new right :=
  List.map_append

/-- With the characters replaced, base64 is base64url with padding. -/
theorem replaceAll_encodePadded (bytes : List UInt8) : ∃ count,
    replaceAll '/' '_' (replaceAll '+' '-' (encodePadded bytes)) = encode bytes ++ List.replicate count padding := by
  induction bytes using encode.induct with
  | case1 first second third rest ih =>
    obtain ⟨count, hrest⟩ := ih
    refine ⟨count, ?_⟩
    rw [encodePadded, encode]
    iterate 4
      rw [replaceAll_cons '+' '-', replaceAll_append, replaceAll_standardSextet]
    rw [hrest]
    rfl
  | case2 first second =>
    refine ⟨1, ?_⟩
    rw [encodePadded, encode]
    iterate 3
      rw [replaceAll_cons '+' '-', replaceAll_append, replaceAll_standardSextet]
    rfl
  | case3 first =>
    refine ⟨2, ?_⟩
    rw [encodePadded, encode]
    iterate 2
      rw [replaceAll_cons '+' '-', replaceAll_append, replaceAll_standardSextet]
    rfl
  | case4 => exact ⟨0, rfl⟩

theorem dropWhile_replicate_append {count : Nat} (htext : ∀ code ∈ text, code ≠ padding) :
    (List.replicate count padding ++ text).dropWhile (fun code => code = padding) = text := by
  induction count with
  | zero =>
    cases text with
    | nil => rfl
    | cons code text =>
      obtain ⟨hcode, -⟩ := List.forall_mem_cons.mp htext
      rw [List.replicate_zero, List.nil_append, List.dropWhile_cons_of_neg (by simpa using hcode)]
  | succ count ih =>
    rw [List.replicate_succ, List.cons_append, List.dropWhile_cons_of_pos (by simp)]
    exact ih

/-- Base64 becomes the unpadded base64url. -/
theorem toUrl_encodePadded : toUrl (encodePadded bytes) = encode bytes := by
  obtain ⟨count, hreplaced⟩ := replaceAll_encodePadded bytes
  have hreverse : ∀ code ∈ (encode bytes).reverse, code ≠ padding := by
    intro code hcode
    exact encode_ne_padding code (List.mem_reverse.mp hcode)
  rw [toUrl, hreplaced, List.reverse_append, List.reverse_replicate, dropWhile_replicate_append hreverse,
    List.reverse_reverse]

/-- A character of base64url in base64. -/
def standardOf (code : UInt16) : UInt16 :=
  if code = Text.unit '-' then Text.unit '+' else if code = Text.unit '_' then Text.unit '/' else code

theorem replaceAll_eq_map_standardOf : replaceAll '_' '/' (replaceAll '-' '+' text) = text.map standardOf := by
  have hcode : ∀ code : UInt16, (if (if code = Text.unit '-' then Text.unit '+' else code) = Text.unit '_'
      then Text.unit '/' else if code = Text.unit '-' then Text.unit '+' else code) = standardOf code := by
    intro code
    rw [standardOf]
    split
    · rw [if_neg (by decide)]
    · rfl
  rw [replaceAll, replaceAll, List.map_map]
  exact List.map_congr_left fun code _ => hcode code

theorem standard_of_isCharacter (hcode : isCharacter code = true) :
    standardValue? (standardOf code) = value? code ∧ isBlank (standardOf code) = false ∧ standardOf code ≠ padding := by
  have hall : alphabet.all fun code => standardValue? (standardOf code) = value? code ∧
      isBlank (standardOf code) = false ∧ standardOf code ≠ padding := by
    set_option maxRecDepth 20000 in decide
  exact of_decide_eq_true (List.all_eq_true.mp hall code (of_decide_eq_true hcode))

/-- Both alphabets have the same values. -/
theorem decodeStandard_map (htext : ∀ code ∈ text, isCharacter code = true) :
    decodeStandard (text.map standardOf) = decode text := by
  have hvalue : ∀ code ∈ text, standardValue? (standardOf code) = value? code :=
    fun code hcode => (standard_of_isCharacter (htext code hcode)).1
  clear htext
  induction text using decode.induct with
  | case1 first second third fourth rest ih =>
    simp only [List.forall_mem_cons] at hvalue
    obtain ⟨hfirst, hsecond, hthird, hfourth, hrest⟩ := hvalue
    simp only [List.map_cons, decodeStandard, decode, hfirst, hsecond, hthird, hfourth, ih hrest]
  | case2 first second third =>
    simp only [List.forall_mem_cons] at hvalue
    obtain ⟨hfirst, hsecond, hthird, -⟩ := hvalue
    simp only [List.map_cons, List.map_nil, decodeStandard, decode, hfirst, hsecond, hthird]
  | case3 first second =>
    simp only [List.forall_mem_cons] at hvalue
    obtain ⟨hfirst, hsecond, -⟩ := hvalue
    simp only [List.map_cons, List.map_nil, decodeStandard, decode, hfirst, hsecond]
  | case4 code => rfl
  | case5 => rfl

theorem decode_eq_none_of_length (hlength : text.length % 4 = 1) : decode text = none := by
  induction text using decode.induct with
  | case1 first second third fourth rest ih =>
    have hrest : rest.length % 4 = 1 := by
      simp only [List.length_cons] at hlength
      omega
    simp only [decode, ih hrest, Option.bind_eq_bind, Option.bind_none, Option.bind_fun_none]
  | case2 first second third => exact absurd hlength (by simp)
  | case3 first second => exact absurd hlength (by simp)
  | case4 code => rfl
  | case5 => exact absurd hlength (by simp)

/-- Padding is no base64. -/
theorem decodeStandard_eq_none_of_padding (hpadding : padding ∈ text) : decodeStandard text = none := by
  have hnone : standardValue? padding = none := by decide
  induction text using decodeStandard.induct with
  | case1 first second third fourth rest ih =>
    simp only [List.mem_cons] at hpadding
    obtain rfl | rfl | rfl | rfl | hrest := hpadding
    · simp only [decodeStandard, hnone, Option.bind_eq_bind, Option.bind_none]
    · simp only [decodeStandard, hnone, Option.bind_eq_bind, Option.bind_none, Option.bind_fun_none]
    · simp only [decodeStandard, hnone, Option.bind_eq_bind, Option.bind_none, Option.bind_fun_none]
    · simp only [decodeStandard, hnone, Option.bind_eq_bind, Option.bind_none, Option.bind_fun_none]
    · simp only [decodeStandard, ih hrest, Option.bind_eq_bind, Option.bind_none, Option.bind_fun_none]
  | case2 first second third =>
    simp only [List.mem_cons, List.not_mem_nil, or_false] at hpadding
    obtain rfl | rfl | rfl := hpadding
    · simp only [decodeStandard, hnone, Option.bind_eq_bind, Option.bind_none]
    · simp only [decodeStandard, hnone, Option.bind_eq_bind, Option.bind_none, Option.bind_fun_none]
    · simp only [decodeStandard, hnone, Option.bind_eq_bind, Option.bind_none, Option.bind_fun_none]
  | case3 first second =>
    simp only [List.mem_cons, List.not_mem_nil, or_false] at hpadding
    obtain rfl | rfl := hpadding
    · simp only [decodeStandard, hnone, Option.bind_eq_bind, Option.bind_none]
    · simp only [decodeStandard, hnone, Option.bind_eq_bind, Option.bind_none, Option.bind_fun_none]
  | case4 code => rfl
  | case5 => cases hpadding

theorem dropPadding_of_ne (htext : ∀ code ∈ text, code ≠ padding) : dropPadding text = text := by
  rw [dropPadding]
  split
  · next last previous rest hreverse =>
    have hlast : last ∈ text := List.mem_reverse.mp (hreverse ▸ List.mem_cons_self)
    rw [if_neg (htext last hlast)]
  · rfl

theorem dropPadding_append_one (htext : ∀ code ∈ text, code ≠ padding) (hne : text ≠ []) :
    dropPadding (text ++ [padding]) = text := by
  obtain ⟨start, last, rfl⟩ : ∃ start last, text = start ++ [last] :=
    ⟨_, _, (List.dropLast_append_getLast hne).symm⟩
  have hlast : last ≠ padding := htext last (List.mem_append_right _ (List.mem_singleton_self _))
  simp only [dropPadding, List.reverse_append, List.reverse_cons, List.reverse_nil, List.nil_append,
    List.cons_append, if_true, if_neg hlast, List.reverse_reverse]

theorem dropPadding_append_two : dropPadding (text ++ [padding, padding]) = text := by
  simp only [dropPadding, List.reverse_append, List.reverse_cons, List.reverse_nil, List.nil_append,
    List.cons_append, if_true, List.reverse_reverse]

/-- What `atob` reads of a text of base64url that is turned into base64: the bytes of the text. -/
theorem atob_fromUrl (htext : ∀ code ∈ text, isCharacter code = true) :
    atob (fromUrl text) = (decode text).map Text.latin1 := by
  obtain ⟨data, hdata⟩ : ∃ data, data = text.map standardOf := ⟨_, rfl⟩
  have hstandard : ∀ code ∈ data, isBlank code = false ∧ code ≠ padding := by
    intro code hcode
    rw [hdata] at hcode
    obtain ⟨other, hother, rfl⟩ := List.mem_map.mp hcode
    exact (standard_of_isCharacter (htext other hother)).2
  have hne : ∀ code ∈ data, code ≠ padding := fun code hcode => (hstandard code hcode).2
  have hlength : data.length = text.length := by
    rw [hdata, List.length_map]
  have hblank : ∀ count, (data ++ List.replicate count padding).filter (fun code => isBlank code = false) =
      data ++ List.replicate count padding := by
    intro count
    refine List.filter_eq_self.mpr fun code hcode => decide_eq_true ?_
    cases List.mem_append.mp hcode with
    | inl hin => exact (hstandard code hin).1
    | inr hin =>
      rw [List.eq_of_mem_replicate hin]
      rfl
  have hdecode : decodeStandard data = decode text := hdata ▸ decodeStandard_map htext
  rw [fromUrl, replaceAll_eq_map_standardOf, ← hdata, atob, hblank]
  have hcount : (data ++ List.replicate ((4 - data.length % 4) % 4) padding).length % 4 = 0 := by
    rw [List.length_append, List.length_replicate]
    omega
  rw [if_pos hcount, ← hdecode]
  obtain hzero | hone | htwo | hthree : data.length % 4 = 0 ∨ data.length % 4 = 1 ∨ data.length % 4 = 2 ∨
      data.length % 4 = 3 := by omega
  · rw [hzero, List.replicate_zero, List.append_nil, dropPadding_of_ne hne]
  · have hsplit : data ++ List.replicate ((4 - 1) % 4) padding = (data ++ [padding]) ++ [padding, padding] := by
      rw [List.append_assoc]
      rfl
    rw [hone, hsplit, dropPadding_append_two, hdecode, decode_eq_none_of_length (hlength ▸ hone),
      decodeStandard_eq_none_of_padding (List.mem_append_right _ (List.mem_singleton_self _))]
  · rw [htwo]
    exact congrArg (fun data => (decodeStandard data).map Text.latin1) dropPadding_append_two
  · have hnonempty : data ≠ [] := by
      rintro rfl
      simp at hthree
    rw [hthree]
    exact congrArg (fun data => (decodeStandard data).map Text.latin1) (dropPadding_append_one hne hnonempty)

/-- The bits that a shorter last group has too many are zero. -/
theorem trailing_encode : ∀ last ∈ (encode bytes).getLast?, ∀ value ∈ value? last,
    ((encode bytes).length % 4 = 2 → value % 16 = 0) ∧ ((encode bytes).length % 4 = 3 → value % 4 = 0) := by
  induction bytes using encode.induct with
  | case1 first second third rest ih =>
    rw [encode]
    cases hrest : encode rest with
    | nil =>
      intro last _ value _
      refine ⟨fun hlength => ?_, fun hlength => ?_⟩
      · exact absurd hlength (by simp)
      · exact absurd hlength (by simp)
    | cons next later =>
      rw [hrest] at ih
      intro last hlast value hvalue
      simp only [List.getLast?_cons_cons] at hlast
      have hlater := ih last hlast value hvalue
      simp only [List.length_cons] at hlater ⊢
      refine ⟨fun hlength => hlater.1 (by omega), fun hlength => hlater.2 (by omega)⟩
  | case2 first second =>
    intro last hlast value hvalue
    rw [encode, List.getLast?_cons_cons, List.getLast?_cons_cons, List.getLast?_singleton] at hlast
    rw [← Option.mem_some.mp hlast, value?_sextet] at hvalue
    have hbits := Option.mem_some.mp hvalue
    refine ⟨fun hlength => absurd hlength (by simp [encode]), fun _ => by omega⟩
  | case3 first =>
    intro last hlast value hvalue
    rw [encode, List.getLast?_cons_cons, List.getLast?_singleton] at hlast
    rw [← Option.mem_some.mp hlast, value?_sextet] at hvalue
    have hbits := Option.mem_some.mp hvalue
    refine ⟨fun _ => by omega, fun hlength => absurd hlength (by simp [encode])⟩
  | case4 => exact fun last hlast => absurd hlast (Option.not_mem_none last)

theorem isCharacter_encode (bytes : List UInt8) : ∀ code ∈ encode bytes, isCharacter code = true :=
  forall_mem_encode isCharacter_sextet

end url

end base64
