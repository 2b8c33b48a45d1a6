import Mathlib.Data.List.Forall2
import PgidSso.Library.Json
import PgidSso.Library.Utf8

/-! What `JSON.parse` reads of the texts that `JSON.stringify` writes. -/

namespace json

/-- The text after a value: nothing, or what may follow a value in an array or an object. -/
def Delimited (rest : Text) : Prop :=
  ∀ code ∈ rest.head?, code = Text.unit ',' ∨ code = Text.unit ']' ∨ code = Text.unit '\x7d'

/-- The text is read as the value wherever it stands in an array or an object. Every
character pays for two steps of the parser. -/
structure Reads (text : Text) (value : Value) : Prop where
  head : ∃ code rest, text = code :: rest ∧ isWhitespace code = false ∧ code ≠ Text.unit ']'
  read : ∀ {fuel : Nat} {rest : Text}, 2 * text.length ≤ fuel → Delimited rest →
    parseValue fuel (text ++ rest) = some (value, rest)

section strings

theorem hexValue?_hexDigit {value : Nat} (hvalue : value < 16) : hexValue? (hexDigit value) = some value := by
  have hall : ∀ digit < 16, hexValue? (hexDigit digit) = some digit := by decide
  exact hall value hvalue

theorem parseString_escapeUnicode (code : UInt16) (tail : Text) :
    parseString (escapeUnicode code ++ tail) =
      (parseString tail).map fun read => (code :: read.1, read.2) := by
  have hcode : code.toNat < 65536 := code.toNat_lt
  have hvalue : ((code.toNat / 4096 * 16 + code.toNat / 256 % 16) * 16 + code.toNat / 16 % 16) * 16 +
      code.toNat % 16 = code.toNat := by omega
  have htext : escapeUnicode code ++ tail = Text.unit '\\' :: Text.unit 'u' ::
      hexDigit (code.toNat / 4096) :: hexDigit (code.toNat / 256 % 16) ::
        hexDigit (code.toNat / 16 % 16) :: hexDigit (code.toNat % 16) :: tail := rfl
  rw [htext, parseString.eq_def]
  simp only [hexValue?_hexDigit (show code.toNat / 4096 < 16 by omega),
    hexValue?_hexDigit (Nat.mod_lt _ (show 0 < 16 by decide)), Option.bind_eq_bind, Option.bind_some, hvalue,
    UInt16.ofNat_toNat]
  cases parseString tail <;> rfl

/-- A string that begins with a plain character goes on after it. -/
theorem parseString_cons {code : UInt16} {tail : Text} (hquote : code ≠ Text.unit '"') (hcontrol : ¬ code < 0x20)
    (hbackslash : code ≠ Text.unit '\\') :
    parseString (code :: tail) = (parseString tail).map fun read => (code :: read.1, read.2) := by
  rw [parseString.eq_def]
  simp only [if_neg hquote, if_neg hcontrol, if_pos hbackslash]
  cases parseString tail <;> rfl

theorem parseString_unescape {kind code : UInt16} (hkind : kind ≠ Text.unit 'u')
    (hunescape : unescape? kind = some code) (tail : Text) :
    parseString (Text.unit '\\' :: kind :: tail) = (parseString tail).map fun read => (code :: read.1, read.2) := by
  have hescape : Text.unit '\\' ≠ Text.unit '"' ∧ ¬ Text.unit '\\' < 0x20 := by decide
  rw [parseString.eq_def]
  simp only [if_neg hescape.1, if_neg hescape.2, ne_eq, not_true_eq_false, if_false, if_neg hkind, hunescape,
    Option.bind_eq_bind, Option.bind_some]
  cases parseString tail <;> rfl

theorem parseString_escape (code : UInt16) (tail : Text) :
    parseString (escape code ++ tail) = (parseString tail).map fun read => (code :: read.1, read.2) := by
  unfold escape
  split
  · subst_vars
    exact parseString_unescape (by decide) (by decide) tail
  split
  · subst_vars
    exact parseString_unescape (by decide) (by decide) tail
  split
  · subst_vars
    exact parseString_unescape (by decide) (by decide) tail
  split
  · subst_vars
    exact parseString_unescape (by decide) (by decide) tail
  split
  · subst_vars
    exact parseString_unescape (by decide) (by decide) tail
  split
  · subst_vars
    exact parseString_unescape (by decide) (by decide) tail
  split
  · subst_vars
    exact parseString_unescape (by decide) (by decide) tail
  split
  · exact parseString_escapeUnicode code tail
  · rename_i hquote hbackslash _ _ _ _ _ hother
    exact parseString_cons hquote (fun hcontrol => hother (.inl hcontrol)) hbackslash

theorem parseString_quote (rest : Text) : parseString (Text.unit '"' :: rest) = some ([], rest) := by
  rw [parseString.eq_def]
  simp only [if_true]

theorem parseString_escapeAll (value rest : Text) :
    parseString (escapeAll value ++ Text.unit '"' :: rest) = some (value, rest) := by
  induction value using escapeAll.induct with
  | case1 high low tail hpair ih =>
    have hsurrogate : ∀ {code : UInt16}, 0xD800 ≤ code →
        code ≠ Text.unit '"' ∧ ¬ code < 0x20 ∧ code ≠ Text.unit '\\' := by
      intro code hcode
      refine ⟨?_, fun hcontrol => ?_, ?_⟩
      · rintro rfl
        exact absurd hcode (by decide)
      · exact absurd (UInt16.lt_of_le_of_lt hcode hcontrol) (by decide)
      · rintro rfl
        exact absurd hcode (by decide)
    obtain ⟨hquote, hcontrol, hbackslash⟩ := hsurrogate hpair.1.1
    obtain ⟨hquote', hcontrol', hbackslash'⟩ := hsurrogate (UInt16.le_trans (by decide) hpair.2.1)
    rw [escapeAll, if_pos hpair, List.cons_append, List.cons_append,
      parseString_cons hquote hcontrol hbackslash, parseString_cons hquote' hcontrol' hbackslash', ih]
    rfl
  | case2 high low tail hpair ih =>
    rw [escapeAll, if_neg hpair, List.append_assoc, parseString_escape, ih]
    rfl
  | case3 code =>
    rw [escapeAll, parseString_escape, parseString_quote]
    rfl
  | case4 => exact parseString_quote rest

end strings

section numbers

/-- The literal of an integer. -/
def Literal.ofInt (value : Int) : Literal :=
  { negative := decide (value < 0), mantissa := value.natAbs, exponent := 0 }

theorem unit_of_isDigit {char : Char} (hdigit : char.isDigit = true) :
    (Text.unit char).toNat = char.toNat ∧ isDigit (Text.unit char) = true := by
  simp only [Char.isDigit, ge_iff_le, Bool.and_eq_true, decide_eq_true_eq] at hdigit
  have hlow : 48 ≤ char.toNat := hdigit.1
  have hhigh : char.toNat ≤ 57 := hdigit.2
  have hunit : (Text.unit char).toNat = char.toNat := by
    rw [Text.unit, UInt16.toNat_ofNat']
    omega
  have hbounds : (Text.unit '0').toNat = 48 ∧ (Text.unit '9').toNat = 57 := by decide
  refine ⟨hunit, ?_⟩
  rw [isDigit, decide_eq_true_eq, UInt16.le_iff_toNat_le, UInt16.le_iff_toNat_le, hunit, hbounds.1, hbounds.2]
  exact ⟨hlow, hhigh⟩

theorem decimal_digits (value : Nat) : ∀ code ∈ Text.decimal value, isDigit code = true := by
  intro code hmem
  obtain ⟨char, hchar, rfl⟩ := List.mem_map.mp hmem
  exact (unit_of_isDigit (Nat.isDigit_of_mem_toDigits (by decide) (by decide) hchar)).2

theorem digitsValue_decimal (value : Nat) : digitsValue (Text.decimal value) = value := by
  have hfold : ∀ (chars : List Char) (start : Nat), (∀ char ∈ chars, char.isDigit = true) →
      (chars.map Text.unit).foldl (fun value digit => value * 10 + (digit.toNat - 48)) start =
        Nat.ofDigitChars 10 chars start := by
    intro chars
    induction chars with
    | nil => intro start _; rfl
    | cons char chars ih =>
      intro start hchars
      rw [List.map_cons, List.foldl_cons, Nat.ofDigitChars_cons,
        ih _ fun other hmem => hchars other (List.mem_cons_of_mem char hmem),
        (unit_of_isDigit (hchars char List.mem_cons_self)).1, Nat.mul_comm]
      rfl
  rw [digitsValue, Text.decimal,
    hfold _ 0 fun char hchar => Nat.isDigit_of_mem_toDigits (by decide) (by decide) hchar]
  exact Nat.ofDigitChars_ten_toDigits

theorem decimal_ne_nil (value : Nat) : Text.decimal value ≠ [] := by
  rw [Text.decimal, ne_eq, List.map_eq_nil_iff]
  exact Nat.toDigits_ne_nil

/-- A positive number does not begin with a zero. -/
theorem decimal_head {value : Nat} (hpositive : 0 < value) :
    (Text.decimal value).head? ≠ some (Text.unit '0') := by
  induction value using Nat.strongRecOn with
  | ind value ih =>
    by_cases hsmall : value < 10
    · have hall : ∀ digit < 10, 0 < digit → Text.unit digit.digitChar ≠ Text.unit '0' := by decide
      rw [Text.decimal, Nat.toDigits_of_lt_base hsmall]
      simpa using hall value hsmall hpositive
    · have hrest := ih (value / 10) (by omega) (by omega)
      have hne := decimal_ne_nil (value / 10)
      rw [Text.decimal] at hrest hne ⊢
      rw [Nat.toDigits_of_base_le (by decide) (by omega), List.map_append, List.head?_append_of_ne_nil _ hne]
      exact hrest

/-- What may follow a value does not go on with a number. -/
theorem Delimited.not_number {rest : Text} {code : UInt16} (hrest : Delimited (code :: rest)) :
    isDigit code = false ∧ code ≠ Text.unit '.' ∧ code ≠ Text.unit 'e' ∧ code ≠ Text.unit 'E' ∧
      isWhitespace code = false := by
  rcases hrest code rfl with rfl | rfl | rfl <;> decide

theorem takeWhile_digits {digits rest : Text} (hdigits : ∀ code ∈ digits, isDigit code = true)
    (hrest : Delimited rest) : (digits ++ rest).takeWhile isDigit = digits := by
  rw [List.takeWhile_append_of_pos hdigits]
  cases rest with
  | nil => simp
  | cons code rest => rw [List.takeWhile_cons_of_neg (by rw [hrest.not_number.1]; decide), List.append_nil]

theorem parseInteger_decimal (value : Nat) {rest : Text} (hrest : Delimited rest) :
    parseInteger (Text.decimal value ++ rest) = some (Text.decimal value, rest) := by
  have hzero : ¬ ((Text.decimal value).head? = some (Text.unit '0') ∧ 1 < (Text.decimal value).length) := by
    rintro ⟨hhead, hlength⟩
    rcases Nat.eq_zero_or_pos value with rfl | hpositive
    · exact absurd hlength (by decide)
    · exact decimal_head hpositive hhead
  rw [parseInteger]
  simp only [takeWhile_digits (decimal_digits value) hrest]
  rw [if_neg (not_or.mpr ⟨decimal_ne_nil value, hzero⟩), List.drop_left]

theorem parseFraction_delimited {rest : Text} (hrest : Delimited rest) : parseFraction rest = some ([], rest) := by
  cases rest with
  | nil => rfl
  | cons code rest => rw [parseFraction, if_neg hrest.not_number.2.1]

theorem parseExponent_delimited {rest : Text} (hrest : Delimited rest) : parseExponent rest = some (0, rest) := by
  cases rest with
  | nil => rfl
  | cons code rest =>
    obtain ⟨-, -, hlower, hupper, -⟩ := hrest.not_number
    rw [parseExponent, if_neg (not_or.mpr ⟨hlower, hupper⟩)]

theorem parseNumber_integer (value : Int) {rest : Text} (hrest : Delimited rest) :
    parseNumber (integer value ++ rest) = some (Literal.ofInt value, rest) := by
  cases value with
  | ofNat value =>
    have hhead : (Text.decimal value ++ rest).head? ≠ some (Text.unit '-') := by
      rw [List.head?_append_of_ne_nil _ (decimal_ne_nil value)]
      intro hminus
      have hdigit := decimal_digits value _ (List.mem_of_mem_head? hminus)
      exact absurd hdigit (by decide)
    rw [parseNumber, integer, decide_eq_false hhead]
    simp only [Bool.false_eq_true, if_false, parseInteger_decimal value hrest, parseFraction_delimited hrest,
      parseExponent_delimited hrest, Option.bind_eq_bind, Option.bind_some, List.append_nil,
      digitsValue_decimal, List.length_nil]
    rfl
  | negSucc value =>
    have hhead : (Text.of "-" ++ Text.decimal (value + 1) ++ rest).head? = some (Text.unit '-') := rfl
    have hdrop : (Text.of "-" ++ Text.decimal (value + 1) ++ rest).drop 1 = Text.decimal (value + 1) ++ rest := rfl
    rw [parseNumber, integer, decide_eq_true hhead]
    simp only [if_true, hdrop, parseInteger_decimal (value + 1) hrest, parseFraction_delimited hrest,
      parseExponent_delimited hrest, Option.bind_eq_bind, Option.bind_some, List.append_nil,
      digitsValue_decimal, List.length_nil]
    rw [Literal.ofInt, decide_eq_true (Int.negSucc_lt_zero value)]
    rfl

theorem roundHalfEven_one (value : Nat) : roundHalfEven value 1 = value := by
  have hrest : 2 * (value % 1) < 1 := by omega
  rw [roundHalfEven, if_pos (.inl hrest), Nat.div_one]

/-- An integer of at most 53 bits is read as it is. -/
theorem safeInteger?_ofInt {value : Int} (hlow : -9007199254740991 ≤ value) (hhigh : value ≤ 9007199254740991) :
    (Literal.ofInt value).safeInteger? = some value := by
  have hsafe : (Literal.ofInt value).isSafeInteger = true := by
    simp only [Literal.isSafeInteger, Literal.ofInt, Int.toNat_zero, Int.neg_zero, pow_zero, Nat.mul_one,
      roundHalfEven_one, Nat.mul_mod_left]
    split
    · rfl
    · rw [if_neg (by omega)]
      rfl
  simp only [Literal.safeInteger?, hsafe, Bool.true_eq_false, if_false]
  simp only [Literal.ofInt, Int.toNat_zero, Int.neg_zero, pow_zero, Nat.mul_one, roundHalfEven_one,
    Nat.mul_div_cancel _ (Nat.two_pow_pos _), decide_eq_true_eq, Option.some.injEq]
  split <;> omega

end numbers

section values

variable {text : Text} {value : Value}

theorem reads_string (value : Text) : Reads (string value) (.string value) := by
  refine ⟨⟨Text.unit '"', escapeAll value ++ Text.of "\"", rfl, by decide, by decide⟩, ?_⟩
  intro fuel rest hfuel _
  have htext : string value ++ rest = Text.unit '"' :: (escapeAll value ++ Text.unit '"' :: rest) := by
    simp [string, Text.of]
  cases fuel with
  | zero => simp [string, Text.of] at hfuel
  | succ fuel =>
    rw [htext, parseValue]
    simp only [if_true, parseString_escapeAll, Option.bind_eq_bind, Option.bind_some]
    rfl

theorem integer_head (value : Int) : ∃ code rest, integer value = code :: rest ∧
    (isDigit code = true ∨ code = Text.unit '-') := by
  cases value with
  | ofNat value =>
    obtain ⟨code, rest, htext⟩ := List.exists_cons_of_ne_nil (decimal_ne_nil value)
    exact ⟨code, rest, htext, .inl (decimal_digits value code (htext ▸ List.mem_cons_self))⟩
  | negSucc value => exact ⟨Text.unit '-', Text.decimal (value + 1), rfl, .inr rfl⟩

/-- The first character of a number begins no other value. -/
theorem number_head {code : UInt16} (hcode : isDigit code = true ∨ code = Text.unit '-') :
    isWhitespace code = false ∧ code ≠ Text.unit '"' ∧ code ≠ Text.unit '[' ∧ code ≠ Text.unit ']' ∧
      code ≠ Text.unit '\x7b' ∧ code ≠ Text.unit 't' ∧ code ≠ Text.unit 'f' ∧ code ≠ Text.unit 'n' := by
  rcases hcode with hdigit | rfl
  · have hne : ∀ other, isDigit other = false → code ≠ other := by
      rintro other hother rfl
      rw [hdigit] at hother
      cases hother
    have hspace : ¬ (code = 0x20 ∨ code = 0x09 ∨ code = 0x0A ∨ code = 0x0D) := by
      rintro (heq | heq | heq | heq)
      · exact hne _ (by decide) heq
      · exact hne _ (by decide) heq
      · exact hne _ (by decide) heq
      · exact hne _ (by decide) heq
    exact ⟨decide_eq_false hspace, hne _ (by decide), hne _ (by decide), hne _ (by decide), hne _ (by decide),
      hne _ (by decide), hne _ (by decide), hne _ (by decide)⟩
  · decide

theorem reads_integer (value : Int) : Reads (integer value) (.number (Literal.ofInt value)) := by
  obtain ⟨code, tail, htext, hcode⟩ := integer_head value
  obtain ⟨hspace, hquote, hopen, hclose, hbrace, htrue, hfalse, hnull⟩ := number_head hcode
  refine ⟨⟨code, tail, htext, hspace, hclose⟩, ?_⟩
  intro fuel rest hfuel hrest
  have hnumber := parseNumber_integer value hrest
  rw [htext] at hfuel hnumber ⊢
  cases fuel with
  | zero => simp at hfuel
  | succ fuel =>
    rw [List.cons_append] at hnumber ⊢
    rw [parseValue]
    simp only [if_neg hquote, if_neg hopen, if_neg hbrace, if_neg htrue, if_neg hfalse, if_neg hnull, hnumber,
      Option.bind_eq_bind, Option.bind_some]
    rfl

theorem delimited_cons {code : UInt16} (rest : Text)
    (hcode : code = Text.unit ',' ∨ code = Text.unit ']' ∨ code = Text.unit '\x7d') : Delimited (code :: rest) := by
  intro other hother
  cases hother
  exact hcode

/-- The text of a member. -/
def memberText (member : String × Text) : Text :=
  string (Text.of member.1) ++ Text.of ":" ++ member.2

end values

end json
