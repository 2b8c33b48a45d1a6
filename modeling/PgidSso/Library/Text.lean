import Mathlib.Data.List.Basic
import Mathlib.Tactic.Ring

/-! Texts as ECMAScript keeps them, lists of UTF-16 code units, and their UTF-8 bytes. -/

/-- A text, by its UTF-16 code units. -/
abbrev Text := List UInt16

instance : LawfulBEq Text :=
  inferInstance

namespace Text

/-- The code unit of a character of the basic plane. -/
def unit (char : Char) : UInt16 :=
  UInt16.ofNat char.toNat

/-- A literal of characters of the basic plane. -/
def of (literal : String) : Text :=
  literal.toList.map unit

/-- The decimal digits of a number. -/
def decimal (value : Nat) : Text :=
  (Nat.toDigits 10 value).map unit

/-- The lowercase hexadecimal digits of a number. -/
def hexadecimal (value : Nat) : Text :=
  (Nat.toDigits 16 value).map unit

/-- `text.padStart(width, "0")`. -/
def padStart (width : Nat) (text : Text) : Text :=
  List.replicate (width - text.length) (unit '0') ++ text

/-- `text.includes(part)`. -/
def includes (text part : Text) : Bool :=
  text.tails.any part.isPrefixOf

/-- `left <= right`, by their code units. -/
def precedes : Text → Text → Bool
  | [], _ => true
  | _ :: _, [] => false
  | left :: lefts, right :: rights => left < right || (left = right && precedes lefts rights)

/-- `texts.sort()`. -/
def sorted (texts : List Text) : List Text :=
  texts.mergeSort precedes

/-- The white space and the line terminators of ECMAScript. -/
def isSpace (code : UInt16) : Bool :=
  (0x0009 ≤ code ∧ code ≤ 0x000D) ∨ (0x2000 ≤ code ∧ code ≤ 0x200A) ∨
    code ∈ [0x0020, 0x00A0, 0x1680, 0x2028, 0x2029, 0x202F, 0x205F, 0x3000, 0xFEFF]

/-- `text.trim()`. -/
def trim (text : Text) : Text :=
  ((text.dropWhile isSpace).reverse.dropWhile isSpace).reverse

def IsHigh (code : UInt16) : Prop :=
  0xD800 ≤ code ∧ code ≤ 0xDBFF

def IsLow (code : UInt16) : Prop :=
  0xDC00 ≤ code ∧ code ≤ 0xDFFF

instance (code : UInt16) : Decidable (IsHigh code) :=
  inferInstanceAs (Decidable (0xD800 ≤ code ∧ code ≤ 0xDBFF))

instance (code : UInt16) : Decidable (IsLow code) :=
  inferInstanceAs (Decidable (0xDC00 ≤ code ∧ code ≤ 0xDFFF))

/-- The bytes of a code unit by itself; an unpaired surrogate is replaced by U+FFFD. -/
def encodeUnit (code : UInt16) : List UInt8 :=
  let value := code.toNat
  if value < 0x80 then [UInt8.ofNat value]
  else if value < 0x800 then [UInt8.ofNat (0xC0 + value / 64), UInt8.ofNat (0x80 + value % 64)]
  else if IsHigh code ∨ IsLow code then [0xEF, 0xBF, 0xBD]
  else
    [UInt8.ofNat (0xE0 + value / 4096), UInt8.ofNat (0x80 + value / 64 % 64),
      UInt8.ofNat (0x80 + value % 64)]

def encodePair (high low : UInt16) : List UInt8 :=
  let value := 0x10000 + (high.toNat - 0xD800) * 0x400 + (low.toNat - 0xDC00)
  [UInt8.ofNat (0xF0 + value / 262144), UInt8.ofNat (0x80 + value / 4096 % 64),
    UInt8.ofNat (0x80 + value / 64 % 64), UInt8.ofNat (0x80 + value % 64)]

/-- `new TextEncoder().encode(text)`. -/
def encode : Text → List UInt8
  | high :: low :: rest =>
    if IsHigh high ∧ IsLow low then encodePair high low ++ encode rest
    else encodeUnit high ++ encode (low :: rest)
  | [code] => encodeUnit code
  | [] => []

section order

theorem precedes_total (left right : Text) : (precedes left right || precedes right left) = true := by
  induction left generalizing right with
  | nil => rfl
  | cons code left ih =>
    cases right with
    | nil => rfl
    | cons other right =>
      by_cases heq : code = other
      · subst heq
        simpa [precedes] using ih right
      · rcases UInt16.lt_or_lt_of_ne heq with hlt | hlt
        · simp [precedes, hlt]
        · simp [precedes, hlt]

theorem precedes_trans (first second third : Text) (hfirst : precedes first second = true)
    (hsecond : precedes second third = true) : precedes first third = true := by
  induction first generalizing second third with
  | nil => rfl
  | cons code first ih =>
    cases second with
    | nil => cases hfirst
    | cons next second =>
      cases third with
      | nil => cases hsecond
      | cons last third =>
        simp only [precedes, Bool.or_eq_true, Bool.and_eq_true, decide_eq_true_eq] at hfirst hsecond ⊢
        rcases hfirst with hlt | ⟨rfl, hfirst⟩
        · rcases hsecond with hlt' | ⟨rfl, -⟩
          · exact .inl (UInt16.lt_trans hlt hlt')
          · exact .inl hlt
        · rcases hsecond with hlt | ⟨rfl, hsecond⟩
          · exact .inl hlt
          · exact .inr ⟨rfl, ih second third hfirst hsecond⟩

theorem precedes_antisymm {left right : Text} (hleft : precedes left right = true)
    (hright : precedes right left = true) : left = right := by
  induction left generalizing right with
  | nil =>
    cases right with
    | nil => rfl
    | cons other right => cases hright
  | cons code left ih =>
    cases right with
    | nil => cases hleft
    | cons other right =>
      simp only [precedes, Bool.or_eq_true, Bool.and_eq_true, decide_eq_true_eq] at hleft hright
      rcases hleft with hlt | ⟨rfl, hleft⟩
      · rcases hright with hlt' | ⟨rfl, -⟩
        · exact absurd (UInt16.lt_trans hlt hlt') (UInt16.lt_irrefl code)
        · exact absurd hlt (UInt16.lt_irrefl other)
      · rcases hright with hlt | ⟨-, hright⟩
        · exact absurd hlt (UInt16.lt_irrefl code)
        · rw [ih hleft hright]

/-- Sorted alike are the lists with the same elements. -/
theorem sorted_eq_iff {left right : List Text} : sorted left = sorted right ↔ left.Perm right := by
  have hpairwise := fun texts : List Text => List.pairwise_mergeSort precedes_trans precedes_total texts
  constructor
  · intro heq
    have hsame : (sorted left).Perm (sorted right) := heq ▸ List.Perm.refl _
    exact (List.mergeSort_perm left precedes).symm.trans (hsame.trans (List.mergeSort_perm right precedes))
  · intro hperm
    apply List.Perm.eq_of_pairwise _ (hpairwise left) (hpairwise right)
    · exact (List.mergeSort_perm left precedes).trans (hperm.trans (List.mergeSort_perm right precedes).symm)
    · intro a b _ _ hab hba
      exact precedes_antisymm hab hba

end order

/-- A text of ASCII characters. -/
def Ascii (text : Text) : Prop :=
  ∀ code ∈ text, code < 0x80

instance (text : Text) : Decidable text.Ascii :=
  List.decidableBAll (fun code => code < 0x80) text

section ascii

variable {text left right : Text} {code : UInt16}

@[simp] theorem ascii_nil : Ascii [] :=
  List.forall_mem_nil _

@[simp] theorem ascii_cons : Ascii (code :: text) ↔ code < 0x80 ∧ text.Ascii :=
  List.forall_mem_cons

@[simp] theorem ascii_append : Ascii (left ++ right) ↔ left.Ascii ∧ right.Ascii :=
  List.forall_mem_append

/-- What is checked for every ASCII character one by one. -/
theorem forall_ascii {P : UInt16 → Prop} [DecidablePred P] (hall : ∀ value < 128, P (UInt16.ofNat value))
    (hcode : code < 0x80) : P code := by
  have hvalue := hall code.toNat (UInt16.lt_iff_toNat_lt.mp hcode)
  rwa [UInt16.ofNat_toNat] at hvalue

theorem length_encodeUnit_of_ascii (hcode : code < 0x80) : (encodeUnit code).length = 1 := by
  have hvalue : code.toNat < 0x80 := by
    rwa [UInt16.lt_iff_toNat_lt] at hcode
  simp [encodeUnit, hvalue]

theorem not_isHigh_of_ascii (hcode : code < 0x80) : ¬ IsHigh code := by
  rintro ⟨hlow, -⟩
  rw [UInt16.le_iff_toNat_le] at hlow
  rw [UInt16.lt_iff_toNat_lt] at hcode
  have hbound : (0xD800 : UInt16).toNat = 55296 := rfl
  have hlimit : (0x80 : UInt16).toNat = 128 := rfl
  omega

/-- An ASCII text has one byte for each code unit. -/
theorem length_encode_of_ascii (hascii : text.Ascii) : text.encode.length = text.length := by
  induction text with
  | nil => rfl
  | cons code rest ih =>
    obtain ⟨hcode, hrest⟩ := ascii_cons.mp hascii
    cases rest with
    | nil => exact length_encodeUnit_of_ascii hcode
    | cons next tail =>
      rw [encode, if_neg fun hpair => not_isHigh_of_ascii hcode hpair.1, List.length_append,
        length_encodeUnit_of_ascii hcode, ih hrest]
      simp only [List.length_cons]
      omega

theorem decimal_ascii (value : Nat) : (decimal value).Ascii := by
  intro code hmem
  obtain ⟨char, hchar, rfl⟩ := List.mem_map.mp hmem
  have hdigit := Nat.isDigit_of_mem_toDigits (by decide) (by decide) hchar
  simp only [Char.isDigit, ge_iff_le, Bool.and_eq_true, decide_eq_true_eq] at hdigit
  have hbound : char.toNat ≤ 57 := hdigit.2
  rw [UInt16.lt_iff_toNat_lt, unit, UInt16.toNat_ofNat']
  have hlimit : (0x80 : UInt16).toNat = 128 := rfl
  omega

end ascii

theorem length_decimal (value : Nat) : (decimal value).length = (Nat.toDigits 10 value).length :=
  List.length_map _

end Text
