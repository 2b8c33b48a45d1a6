import PgidSso.Library.Json

/-! The numbers of ECMAScript, as far as their value goes, and the texts that write them. -/

/-- A number: a finite one has the value `± numerator / denominator`. -/
inductive Double where
  | nan
  | infinite (negative : Bool)
  | finite (negative : Bool) (numerator denominator : Nat)
  deriving DecidableEq

namespace Double

/-- The double next to a fraction, ties to even; from `2 ^ 1024` on it is infinite. -/
def nearest (negative : Bool) (numerator denominator : Nat) : Double :=
  if numerator = 0 then finite negative 0 1
  else
    let fractionBits := min 1074 (52 - json.binaryExponent numerator denominator)
    let rounded :=
      json.roundHalfEven (numerator * 2 ^ fractionBits.toNat) (denominator * 2 ^ (-fractionBits).toNat)
    let scaled := rounded * 2 ^ (-fractionBits).toNat
    if 2 ^ 1024 * 2 ^ fractionBits.toNat ≤ scaled then infinite negative
    else finite negative scaled (2 ^ fractionBits.toNat)

/-- `Number.isFinite(number)`. -/
def isFinite : Double → Bool
  | finite _ _ _ => true
  | _ => false

/-- `number * factor`, for a positive integer. -/
def times (factor : Nat) : Double → Double
  | finite negative numerator denominator => nearest negative (numerator * factor) denominator
  | number => number

def signed (negative : Bool) (numerator : Nat) : Int :=
  if negative then -numerator else numerator

/-- `number < value`, for an integer. -/
def less (number : Double) (value : Int) : Bool :=
  match number with
  | nan => false
  | infinite negative => negative
  | finite negative numerator denominator => signed negative numerator < value * denominator

/-- `number <= value`, for an integer. -/
def atMost (number : Double) (value : Int) : Bool :=
  match number with
  | nan => false
  | infinite negative => negative
  | finite negative numerator denominator => signed negative numerator ≤ value * denominator

/-- The digits of a number in another radix. -/
def radixDigits (radix : Nat) (digits : Text) : Double :=
  match digits.mapM fun code => (json.hexValue? code).filter fun value => value < radix with
  | none | some [] => nan
  | some values => nearest false (values.foldl (fun number value => number * radix + value) 0) 1

/-- An unsigned decimal literal or `Infinity`, and nothing after it. -/
def decimalLiteral (negative : Bool) (text : Text) : Double :=
  if text = Text.of "Infinity" then infinite negative
  else
    let whole := text.takeWhile json.isDigit
    let rest := text.drop whole.length
    let fraction := if rest.head? = some (Text.unit '.') then (rest.drop 1).takeWhile json.isDigit else []
    let rest := if rest.head? = some (Text.unit '.') then rest.drop (fraction.length + 1) else rest
    if whole ++ fraction = [] then nan
    else
      match json.parseExponent rest with
      | some (exponent, []) =>
        let power := exponent - fraction.length
        nearest negative (json.digitsValue (whole ++ fraction) * 10 ^ power.toNat) (10 ^ (-power).toNat)
      | _ => nan

/-- `Number(text)`. -/
def ofText (text : Text) : Double :=
  match text.trim with
  | [] => finite false 0 1
  | first :: rest =>
    if first = Text.unit '0' ∧ (rest.head? = some (Text.unit 'x') ∨ rest.head? = some (Text.unit 'X')) then
      radixDigits 16 (rest.drop 1)
    else if first = Text.unit '0' ∧ (rest.head? = some (Text.unit 'o') ∨ rest.head? = some (Text.unit 'O')) then
      radixDigits 8 (rest.drop 1)
    else if first = Text.unit '0' ∧ (rest.head? = some (Text.unit 'b') ∨ rest.head? = some (Text.unit 'B')) then
      radixDigits 2 (rest.drop 1)
    else if first = Text.unit '-' then decimalLiteral true rest
    else if first = Text.unit '+' then decimalLiteral false rest
    else decimalLiteral false (first :: rest)

/-- `Number(value)` of a text or `null`. -/
def ofText? : Option Text → Double
  | none => finite false 0 1
  | some text => ofText text

example : ofText (Text.of " 1700000000 ") = finite false (1700000000 * 2 ^ 22) (2 ^ 22) := by decide +kernel

example : (ofText (Text.of "1.5e3")).less 1501 = true ∧ (ofText (Text.of "1.5e3")).less 1500 = false := by
  decide +kernel

end Double
