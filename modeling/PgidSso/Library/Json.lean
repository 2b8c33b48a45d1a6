import PgidSso.Library.Text

/-! The text that `JSON.stringify` writes and the values that `JSON.parse` reads. -/

namespace json

/-- The character of a number below sixteen. -/
def hexDigit (value : Nat) : UInt16 :=
  (Text.of "0123456789abcdef").getD value 0

/-- `\uXXXX`. -/
def escapeUnicode (code : UInt16) : Text :=
  let value := code.toNat
  Text.of "\\u" ++ [hexDigit (value / 4096), hexDigit (value / 256 % 16), hexDigit (value / 16 % 16),
    hexDigit (value % 16)]

/-- A code unit of a string that is no half of a surrogate pair. -/
def escape (code : UInt16) : Text :=
  if code = Text.unit '"' then Text.of "\\\""
  else if code = Text.unit '\\' then Text.of "\\\\"
  else if code = 0x08 then Text.of "\\b"
  else if code = 0x09 then Text.of "\\t"
  else if code = 0x0A then Text.of "\\n"
  else if code = 0x0C then Text.of "\\f"
  else if code = 0x0D then Text.of "\\r"
  else if code < 0x20 ∨ Text.IsHigh code ∨ Text.IsLow code then escapeUnicode code
  else [code]

def escapeAll : Text → Text
  | high :: low :: rest =>
    if Text.IsHigh high ∧ Text.IsLow low then high :: low :: escapeAll rest
    else escape high ++ escapeAll (low :: rest)
  | [code] => escape code
  | [] => []

/-- The text of a string. -/
def string (value : Text) : Text :=
  Text.of "\"" ++ escapeAll value ++ Text.of "\""

/-- The text of an integer. -/
def integer : Int → Text
  | .ofNat value => Text.decimal value
  | .negSucc value => Text.of "-" ++ Text.decimal (value + 1)

/-- The text of a value that may be `null`. -/
def nullable {α : Type} (text : α → Text) : Option α → Text
  | some value => text value
  | none => Text.of "null"

/-- Texts with commas between them. -/
def commaSeparated : List Text → Text
  | [] => []
  | [text] => text
  | text :: texts => text ++ Text.of "," ++ commaSeparated texts

/-- The text of an array, from the texts of its elements. -/
def array (elements : List Text) : Text :=
  Text.of "[" ++ commaSeparated elements ++ Text.of "]"

/-- The text of an object, from the texts of its members. -/
def object (members : List (String × Text)) : Text :=
  Text.of "\x7b" ++
    commaSeparated (members.map fun member =>
      string (Text.of member.1) ++ Text.of ":" ++ member.2) ++ Text.of "\x7d"

/-- A text that stands in a string as it is: printable ASCII without quotes and
backslashes. -/
def Plain (text : Text) : Prop :=
  ∀ code ∈ text, 0x20 ≤ code ∧ code < 0x80 ∧ code ≠ Text.unit '"' ∧ code ≠ Text.unit '\\'

instance (text : Text) : Decidable (Plain text) :=
  List.decidableBAll
    (fun code => 0x20 ≤ code ∧ code < 0x80 ∧ code ≠ Text.unit '"' ∧ code ≠ Text.unit '\\') text

section plain

variable {text left right : Text} {code : UInt16}

theorem plain_append : Plain (left ++ right) ↔ Plain left ∧ Plain right :=
  List.forall_mem_append

theorem Plain.ascii (hplain : Plain text) : text.Ascii :=
  fun code hmem => (hplain code hmem).2.1

theorem plain_replicate {count : Nat} (hcode : Plain [code]) : Plain (List.replicate count code) := by
  intro other hmem
  rw [List.eq_of_mem_replicate hmem]
  exact hcode code List.mem_cons_self

theorem escape_of_plain (hplain : Plain [code]) : escape code = [code] := by
  obtain ⟨hlow, hhigh, hquote, hbackslash⟩ := hplain code List.mem_cons_self
  have hcontrol : ∀ control : UInt16, control < 0x20 → code ≠ control := by
    rintro control hlt rfl
    exact absurd hlow (UInt16.not_le.mpr hlt)
  have hunpaired : ¬ (code < 0x20 ∨ Text.IsHigh code ∨ Text.IsLow code) := by
    rintro (hlt | hsurrogate | hsurrogate)
    · exact absurd hlow (UInt16.not_le.mpr hlt)
    · exact Text.not_isHigh_of_ascii hhigh hsurrogate
    · exact absurd (UInt16.lt_of_lt_of_le hhigh (UInt16.le_trans (by decide) hsurrogate.1))
        (UInt16.lt_irrefl code)
  rw [escape, if_neg hquote, if_neg hbackslash, if_neg (hcontrol _ (by decide)),
    if_neg (hcontrol _ (by decide)), if_neg (hcontrol _ (by decide)), if_neg (hcontrol _ (by decide)),
    if_neg (hcontrol _ (by decide)), if_neg hunpaired]

theorem escapeAll_of_plain (hplain : Plain text) : escapeAll text = text := by
  induction text with
  | nil => rfl
  | cons code rest ih =>
    have hcode : Plain [code] := fun other hmem => hplain other (by simp_all)
    have hrest : Plain rest := fun other hmem => hplain other (List.mem_cons_of_mem code hmem)
    cases rest with
    | nil => exact escape_of_plain hcode
    | cons next tail =>
      have hhigh := Text.not_isHigh_of_ascii (hcode code List.mem_cons_self).2.1
      rw [escapeAll, if_neg fun hpair => hhigh hpair.1, escape_of_plain hcode, ih hrest]
      rfl

theorem string_of_plain (hplain : Plain text) :
    string text = Text.of "\"" ++ text ++ Text.of "\"" := by
  rw [string, escapeAll_of_plain hplain]

theorem length_string_of_plain (hplain : Plain text) : (string text).length = text.length + 2 := by
  rw [string_of_plain hplain]
  simp [Text.of]

theorem string_ascii_of_plain (hplain : Plain text) : (string text).Ascii := by
  rw [string_of_plain hplain, Text.ascii_append, Text.ascii_append]
  exact ⟨⟨by decide, hplain.ascii⟩, by decide⟩

theorem integer_ascii (value : Int) : (integer value).Ascii := by
  cases value with
  | ofNat value => exact Text.decimal_ascii value
  | negSucc value =>
    rw [integer, Text.ascii_append]
    exact ⟨by decide, Text.decimal_ascii (value + 1)⟩

theorem commaSeparated_ascii {texts : List Text} (htexts : ∀ text ∈ texts, text.Ascii) :
    (commaSeparated texts).Ascii := by
  induction texts using commaSeparated.induct with
  | case1 => exact Text.ascii_nil
  | case2 text => exact htexts text List.mem_cons_self
  | case3 text texts _ ih =>
    rw [commaSeparated, Text.ascii_append, Text.ascii_append]
    · exact ⟨⟨htexts text List.mem_cons_self, by decide⟩,
        ih fun other hmem => htexts other (List.mem_cons_of_mem text hmem)⟩
    · assumption

/-- The text of an object with plain keys and ASCII members is ASCII. -/
theorem object_ascii {members : List (String × Text)}
    (hmembers : ∀ member ∈ members, Plain (Text.of member.1) ∧ member.2.Ascii) :
    (object members).Ascii := by
  rw [object, Text.ascii_append, Text.ascii_append]
  refine ⟨⟨by decide, commaSeparated_ascii ?_⟩, by decide⟩
  intro text hmem
  obtain ⟨member, hmember, rfl⟩ := List.mem_map.mp hmem
  obtain ⟨hkey, hvalue⟩ := hmembers member hmember
  rw [Text.ascii_append, Text.ascii_append]
  exact ⟨⟨string_ascii_of_plain hkey, by decide⟩, hvalue⟩

end plain

/-- The length of texts with commas between them. -/
def separatedLength : List Nat → Nat
  | [] => 0
  | [length] => length
  | length :: lengths => length + 1 + separatedLength lengths

theorem length_commaSeparated (texts : List Text) :
    (commaSeparated texts).length = separatedLength (texts.map List.length) := by
  induction texts using commaSeparated.induct with
  | case1 => rfl
  | case2 text => rfl
  | case3 text texts hnonempty ih =>
    cases texts with
    | nil => exact absurd rfl hnonempty
    | cons next tail =>
      simp only [commaSeparated, List.length_append, ih, List.map_cons, separatedLength]
      rfl

theorem length_array (elements : List Text) :
    (array elements).length = separatedLength (elements.map List.length) + 2 := by
  simp only [array, List.length_append, length_commaSeparated]
  have hone : (Text.of "[").length = 1 ∧ (Text.of "]").length = 1 := by decide
  omega

/-- The length of an object with plain keys, from those of its keys and its members. -/
theorem length_object {members : List (String × Text)}
    (hmembers : ∀ member ∈ members, Plain (Text.of member.1)) :
    (object members).length =
      separatedLength (members.map fun member => (Text.of member.1).length + 3 + member.2.length) + 2 := by
  have hlengths : (members.map fun member =>
      string (Text.of member.1) ++ Text.of ":" ++ member.2).map List.length =
        members.map fun member => (Text.of member.1).length + 3 + member.2.length := by
    rw [List.map_map]
    apply List.map_congr_left
    intro member hmem
    simp only [Function.comp_apply, List.length_append, length_string_of_plain (hmembers member hmem)]
    have hcolon : (Text.of ":").length = 1 := by decide
    omega
  have hbraces : (Text.of "\x7b").length = 1 ∧ (Text.of "\x7d").length = 1 := by decide
  simp only [object, List.length_append, length_commaSeparated, hlengths]
  omega

/-- A number as it is written: `mantissa * 10 ^ exponent`. -/
structure Literal where
  negative : Bool
  mantissa : Nat
  exponent : Int
  deriving DecidableEq

/-- The integer next to `numerator / denominator`, ties to the even one. -/
def roundHalfEven (numerator denominator : Nat) : Nat :=
  let quotient := numerator / denominator
  let twice := 2 * (numerator % denominator)
  if twice < denominator ∨ (twice = denominator ∧ quotient % 2 = 0) then quotient else quotient + 1

/-- The largest `e` with `2 ^ e ≤ numerator / denominator`. -/
def binaryExponent (numerator denominator : Nat) : Int :=
  if denominator ≤ numerator then Nat.log2 (numerator / denominator)
  else -((Nat.log2 ((denominator + numerator - 1) / numerator - 1) + 1 : Nat) : Int)

/-- Whether the double next to the literal is a safe integer. A double of this size is a
53-bit integer times a power of two that is no smaller than `2 ^ -1074`. -/
def Literal.isSafeInteger (literal : Literal) : Bool :=
  let numerator := literal.mantissa * 10 ^ literal.exponent.toNat
  let denominator := 10 ^ (-literal.exponent).toNat
  if numerator = 0 then true
  else if 2 * numerator ≥ (2 ^ 54 - 1) * denominator then false
  else
    let fractionBits := min 1074 (52 - binaryExponent numerator denominator)
    roundHalfEven (numerator * 2 ^ fractionBits.toNat) denominator % 2 ^ fractionBits.toNat = 0

/-- The safe integer that the double next to the literal is. -/
def Literal.safeInteger? (literal : Literal) : Option Int :=
  if literal.isSafeInteger = false then none
  else
    let numerator := literal.mantissa * 10 ^ literal.exponent.toNat
    let denominator := 10 ^ (-literal.exponent).toNat
    let fractionBits := (min 1074 (52 - binaryExponent numerator denominator)).toNat
    let magnitude := roundHalfEven (numerator * 2 ^ fractionBits) denominator / 2 ^ fractionBits
    some (if literal.negative then -magnitude else magnitude)

inductive Value where
  | null
  | bool (value : Bool)
  | number (literal : Literal)
  | string (value : Text)
  | array (elements : List Value)
  | object (members : List (Text × Value))

/-- `value.key`. -/
def member (members : List (Text × Value)) (key : String) : Option Value :=
  members.lookup (Text.of key)

/-- The string that a member is. -/
def text? : Option Value → Option Text
  | some (.string value) => some value
  | _ => none

/-- The safe integer that a member is. -/
def safeInteger? : Option Value → Option Int
  | some (.number literal) => literal.safeInteger?
  | _ => none

def isWhitespace (code : UInt16) : Bool :=
  code = 0x20 ∨ code = 0x09 ∨ code = 0x0A ∨ code = 0x0D

def skipWhitespace (text : Text) : Text :=
  text.dropWhile isWhitespace

def isDigit (code : UInt16) : Bool :=
  Text.unit '0' ≤ code ∧ code ≤ Text.unit '9'

/-- The number that decimal digits write. -/
def digitsValue (digits : Text) : Nat :=
  digits.foldl (fun value digit => value * 10 + (digit.toNat - 48)) 0

def hexValue? (code : UInt16) : Option Nat :=
  if isDigit code then some (code.toNat - 48)
  else if Text.unit 'a' ≤ code ∧ code ≤ Text.unit 'f' then some (code.toNat - 87)
  else if Text.unit 'A' ≤ code ∧ code ≤ Text.unit 'F' then some (code.toNat - 55)
  else none

/-- The code unit of a short escape. -/
def unescape? (code : UInt16) : Option UInt16 :=
  if code = Text.unit '"' ∨ code = Text.unit '\\' ∨ code = Text.unit '/' then some code
  else if code = Text.unit 'b' then some 0x08
  else if code = Text.unit 'f' then some 0x0C
  else if code = Text.unit 'n' then some 0x0A
  else if code = Text.unit 'r' then some 0x0D
  else if code = Text.unit 't' then some 0x09
  else none

/-- The rest of a string after its opening quote. -/
def parseString : Text → Option (Text × Text)
  | [] => none
  | code :: rest =>
    if code = Text.unit '"' then some ([], rest)
    else if code < 0x20 then none
    else if code ≠ Text.unit '\\' then do
      let (value, rest) ← parseString rest
      return (code :: value, rest)
    else
      match rest with
      | [] => none
      | kind :: rest =>
        if kind = Text.unit 'u' then
          match rest with
          | first :: second :: third :: fourth :: rest => do
            let a ← hexValue? first
            let b ← hexValue? second
            let c ← hexValue? third
            let d ← hexValue? fourth
            let (value, rest) ← parseString rest
            return (UInt16.ofNat (((a * 16 + b) * 16 + c) * 16 + d) :: value, rest)
          | _ => none
        else do
          let unescaped ← unescape? kind
          let (value, rest) ← parseString rest
          return (unescaped :: value, rest)

/-- `0` or digits that do not begin with it. -/
def parseInteger (text : Text) : Option (Text × Text) :=
  let digits := text.takeWhile isDigit
  if digits = [] ∨ (digits.head? = some (Text.unit '0') ∧ 1 < digits.length) then none
  else some (digits, text.drop digits.length)

/-- A fraction has at least one digit. -/
def parseFraction (text : Text) : Option (Text × Text) :=
  match text with
  | code :: rest =>
    if code = Text.unit '.' then
      let digits := rest.takeWhile isDigit
      if digits = [] then none else some (digits, rest.drop digits.length)
    else some ([], text)
  | [] => some ([], text)

def parseExponent (text : Text) : Option (Int × Text) :=
  match text with
  | code :: rest =>
    if code = Text.unit 'e' ∨ code = Text.unit 'E' then
      let negative := rest.head? = some (Text.unit '-')
      let signed := rest.head? = some (Text.unit '-') ∨ rest.head? = some (Text.unit '+')
      let unsigned := if signed then rest.drop 1 else rest
      let digits := unsigned.takeWhile isDigit
      if digits = [] then none
      else
        let size : Int := digitsValue digits
        some (if negative then -size else size, unsigned.drop digits.length)
    else some (0, text)
  | [] => some (0, text)

def parseNumber (text : Text) : Option (Literal × Text) := do
  let negative := decide (text.head? = some (Text.unit '-'))
  let (whole, text) ← parseInteger (if negative then text.drop 1 else text)
  let (fraction, text) ← parseFraction text
  let (exponent, text) ← parseExponent text
  return ({ negative, mantissa := digitsValue (whole ++ fraction),
            exponent := exponent - fraction.length }, text)

/-- A member written twice keeps its place and takes the later value. -/
def setMember (members : List (Text × Value)) (key : Text) (value : Value) : List (Text × Value) :=
  if members.any fun member => member.1 = key then
    members.map fun member => if member.1 = key then (key, value) else member
  else members ++ [(key, value)]

/-- A literal name at the head of a text. -/
def parseName (name : String) (value : Value) (text : Text) : Option (Value × Text) :=
  if (Text.of name).isPrefixOf text then some (value, text.drop (Text.of name).length) else none

mutual

/-- A value at the head of a text; the fuel bounds its nesting and its members. -/
def parseValue : Nat → Text → Option (Value × Text)
  | 0, _ => none
  | fuel + 1, text =>
    match text with
    | [] => none
    | code :: rest =>
      if code = Text.unit '"' then do
        let (value, rest) ← parseString rest
        return (.string value, rest)
      else if code = Text.unit '[' then
        match skipWhitespace rest with
        | [] => none
        | next :: tail =>
          if next = Text.unit ']' then some (.array [], tail)
          else do
            let (elements, rest) ← parseElements fuel (next :: tail) []
            return (.array elements, rest)
      else if code = Text.unit '\x7b' then
        match skipWhitespace rest with
        | [] => none
        | next :: tail =>
          if next = Text.unit '\x7d' then some (.object [], tail)
          else do
            let (members, rest) ← parseMembers fuel (next :: tail) []
            return (.object members, rest)
      else if code = Text.unit 't' then parseName "true" (.bool true) text
      else if code = Text.unit 'f' then parseName "false" (.bool false) text
      else if code = Text.unit 'n' then parseName "null" .null text
      else do
        let (literal, rest) ← parseNumber text
        return (.number literal, rest)

/-- The elements of an array from the next one on, after those already read. -/
def parseElements : Nat → Text → List Value → Option (List Value × Text)
  | 0, _, _ => none
  | fuel + 1, text, elements => do
    let (value, rest) ← parseValue fuel (skipWhitespace text)
    match skipWhitespace rest with
    | [] => none
    | code :: rest =>
      if code = Text.unit ',' then parseElements fuel rest (elements ++ [value])
      else if code = Text.unit ']' then some (elements ++ [value], rest)
      else none

/-- The members of an object from the next one on, after those already read. -/
def parseMembers : Nat → Text → List (Text × Value) → Option (List (Text × Value) × Text)
  | 0, _, _ => none
  | fuel + 1, text, members =>
    match skipWhitespace text with
    | [] => none
    | quote :: rest =>
      if quote ≠ Text.unit '"' then none
      else do
        let (key, rest) ← parseString rest
        match skipWhitespace rest with
        | [] => none
        | colon :: rest =>
          if colon ≠ Text.unit ':' then none
          else do
            let (value, rest) ← parseValue fuel (skipWhitespace rest)
            match skipWhitespace rest with
            | [] => none
            | code :: rest =>
              if code = Text.unit ',' then parseMembers fuel rest (setMember members key value)
              else if code = Text.unit '\x7d' then some (setMember members key value, rest)
              else none

end

/-- `JSON.parse(text)`: every value and member takes a character, so that the fuel
is enough. -/
def parse (text : Text) : Option Value := do
  let (value, rest) ← parseValue (2 * text.length + 2) (skipWhitespace text)
  if skipWhitespace rest = [] then some value else none

end json
