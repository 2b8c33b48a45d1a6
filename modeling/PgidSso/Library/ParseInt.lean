import PgidSso.Library.Json
import PgidSso.Library.Lines
import PgidSso.Library.Pattern

/-! Reading an integer from the head of a text. -/

namespace Text

/-- The sign of a number and what follows it. -/
def splitSign : Text → Bool × Text
  | [] => (false, [])
  | code :: rest =>
    if code = unit '-' then (true, rest) else if code = unit '+' then (false, rest) else (false, code :: rest)

/-- The number that a text with a sign begins with. -/
def signedNumber (text : Text) : Option Int :=
  let digits := (splitSign text).2.takeWhile isDigit
  if digits = [] then none
  else some (if (splitSign text).1 then -(json.digitsValue digits : Int) else json.digitsValue digits)

/-- `Number.parseInt(text, 10)`; `NaN` is `none`. -/
def parseInt (text : Text) : Option Int :=
  signedNumber (text.dropWhile isSpace)

section parseInt

variable {left right text : Text}

theorem forall₂_dropWhile {α : Type} {R : α → α → Prop} {p : α → Bool} (hp : ∀ {a b}, R a b → p a = p b)
    {left right : List α} (hsimilar : List.Forall₂ R left right) :
    List.Forall₂ R (left.dropWhile p) (right.dropWhile p) := by
  induction hsimilar with
  | nil => exact .nil
  | @cons a b left right hhead htail ih =>
    rw [List.dropWhile_cons, List.dropWhile_cons, hp hhead]
    split
    · exact ih
    · exact .cons hhead htail

theorem Inert.not_space {code : UInt16} (hinert : Inert code) : isSpace code = false := by
  rw [isSpace, decide_eq_false_iff_not]
  simp only [Inert, IsHigh, IsLow, UInt16.le_iff_toNat_le, ← UInt16.toNat_inj, List.mem_cons, List.not_mem_nil,
    or_false] at hinert ⊢
  simp only [UInt16.reduceToNat] at hinert ⊢
  omega

theorem Inert.not_digit {code : UInt16} (hinert : Inert code) : isDigit code = false := by
  rw [isDigit, decide_eq_false_iff_not]
  rintro ⟨-, hmax⟩
  exact hinert.not_ascii (UInt16.lt_of_le_of_lt hmax (by decide))

theorem splitSign_similar (hsimilar : List.Forall₂ Similar left right) :
    (splitSign left).1 = (splitSign right).1 ∧ List.Forall₂ Similar (splitSign left).2 (splitSign right).2 := by
  have hsign : ∀ {code char}, Inert code → unit char < 0x80 → code ≠ unit char := by
    rintro code char hinert hascii rfl
    exact hinert.not_ascii hascii
  cases hsimilar with
  | nil => exact ⟨rfl, .nil⟩
  | cons hhead htail =>
    rw [splitSign, splitSign]
    obtain rfl | ⟨hleft, hright⟩ := hhead
    · split
      · exact ⟨rfl, htail⟩
      · split
        · exact ⟨rfl, htail⟩
        · exact ⟨rfl, .cons (.inl rfl) htail⟩
    · rw [if_neg (hsign hleft (by decide)), if_neg (hsign hleft (by decide)), if_neg (hsign hright (by decide)),
        if_neg (hsign hright (by decide))]
      exact ⟨rfl, .cons (.inr ⟨hleft, hright⟩) htail⟩

theorem digits_similar (hsimilar : List.Forall₂ Similar left right) :
    left.takeWhile isDigit = right.takeWhile isDigit := by
  induction hsimilar with
  | nil => rfl
  | cons hhead _ ih =>
    rw [List.takeWhile_cons, List.takeWhile_cons]
    obtain rfl | ⟨hleft, hright⟩ := hhead
    · rw [ih]
    · rw [hleft.not_digit, hright.not_digit]
      rfl

/-- The number that is read does not depend on unpaired surrogates. -/
theorem parseInt_similar (hsimilar : List.Forall₂ Similar left right) : parseInt left = parseInt right := by
  have hspaces : List.Forall₂ Similar (left.dropWhile isSpace) (right.dropWhile isSpace) := by
    apply forall₂_dropWhile _ hsimilar
    rintro a b (rfl | ⟨hleft, hright⟩)
    · rfl
    · rw [hleft.not_space, hright.not_space]
  obtain ⟨hsign, hrest⟩ := splitSign_similar hspaces
  rw [parseInt, parseInt, signedNumber, signedNumber, hsign, digits_similar hrest]

theorem digits_newline (left right : Text) :
    (left ++ newline :: right).takeWhile isDigit = left.takeWhile isDigit := by
  induction left with
  | nil => rfl
  | cons code left ih => rw [List.cons_append, List.takeWhile_cons, List.takeWhile_cons, ih]

theorem splitSign_newline (code : UInt16) (left right : Text) :
    (splitSign (code :: left ++ newline :: right)).1 = (splitSign (code :: left)).1 ∧
      (splitSign (code :: left ++ newline :: right)).2 = (splitSign (code :: left)).2 ++ newline :: right := by
  rw [List.cons_append, splitSign, splitSign]
  split
  · exact ⟨rfl, rfl⟩
  · split
    · exact ⟨rfl, rfl⟩
    · exact ⟨rfl, rfl⟩

/-- What a line feed follows is read up to it, unless it is white space; then the number is
looked for after it. -/
theorem parseInt_newline (left right : Text) :
    parseInt (left ++ newline :: right) = if left.dropWhile isSpace = [] then parseInt right else parseInt left := by
  rw [parseInt, parseInt, parseInt, List.dropWhile_append]
  cases hleft : left.dropWhile isSpace with
  | nil => rw [if_pos List.isEmpty_nil, if_pos rfl, List.dropWhile_cons_of_pos (by decide)]
  | cons code rest =>
    obtain ⟨hsign, hrest⟩ := splitSign_newline code rest right
    rw [if_neg (by simp), if_neg (List.cons_ne_nil code rest), signedNumber, signedNumber, hsign, hrest,
      digits_newline]

/-- A text that begins with another character has no number. -/
theorem parseInt_eq_none {code : UInt16} {rest : Text} (hspace : isSpace code = false) (hdigit : isDigit code = false)
    (hminus : code ≠ unit '-') (hplus : code ≠ unit '+') : parseInt (code :: rest) = none := by
  rw [parseInt, List.dropWhile_cons_of_neg (by simp [hspace]), signedNumber, splitSign, if_neg hminus, if_neg hplus,
    List.takeWhile_cons_of_neg (by simp [hdigit]), if_pos rfl]

theorem parseInt_spaces (hspaces : text.dropWhile isSpace = []) : parseInt text = none := by
  rw [parseInt, hspaces]
  rfl

end parseInt

end Text
