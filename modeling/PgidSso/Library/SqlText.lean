import PgidSso.Library.Utf8
import Mathlib.Data.List.Infix
import Mathlib.Data.List.TakeWhile

/-! The functions of SQLite on texts that CHECK constraints use. -/

namespace sql

/-- The part before the first NUL, where the text ends for most functions. -/
def cString (text : Text) : Text :=
  text.takeWhile fun code => code ≠ 0

/-- The number of characters; a surrogate pair is one. -/
def characters : Text → Nat
  | [] => 0
  | [_] => 1
  | high :: low :: rest =>
    if Text.IsHigh high ∧ Text.IsLow low then characters rest + 1 else characters (low :: rest) + 1

/-- `length(text)`. -/
def length (text : Text) : Nat :=
  characters (cString text)

/-- The first characters of a text. -/
def firstCharacters : Nat → Text → Text
  | 0, _ => []
  | _, [] => []
  | _, [code] => [code]
  | count + 1, high :: low :: rest =>
    if Text.IsHigh high ∧ Text.IsLow low then high :: low :: firstCharacters count rest
    else high :: firstCharacters count (low :: rest)

/-- `substr(text, 1, count)`. -/
def substr (text : Text) (count : Nat) : Text :=
  firstCharacters count (cString text)

/-- Where a part begins. -/
def indexOf (part : Text) : Text → Option Nat
  | [] => if part = [] then some 0 else none
  | code :: rest => if part.isPrefixOf (code :: rest) then some 0 else (indexOf part rest).map (· + 1)

/-- `instr(text, part)`. -/
def instr (text part : Text) : Nat :=
  match indexOf part text with
  | none => 0
  | some index => characters (text.take index) + 1

inductive GlobPart where
  | code (code : UInt16)
  | set (codes : Text)
  | any
  deriving DecidableEq

/-- The parts of a GLOB pattern, with the set that is being read; `none` is a pattern that is
not closed or has `?`, a range or a negated set. -/
def globParts : Option Text → Text → Option (List GlobPart)
  | none, [] => some []
  | some _, [] => none
  | none, code :: rest =>
    if code = Text.unit '*' then (globParts none rest).map (.any :: ·)
    else if code = Text.unit '?' then none
    else if code = Text.unit '[' then globParts (some []) rest
    else (globParts none rest).map (.code code :: ·)
  | some codes, code :: rest =>
    if codes ≠ [] ∧ code = Text.unit ']' then (globParts none rest).map (.set codes :: ·)
    else if code = Text.unit '^' ∨ code = Text.unit '-' then none
    else globParts (some (codes ++ [code])) rest

def globMatches : List GlobPart → Text → Bool
  | [], text => text.isEmpty
  | .code _ :: _, [] => false
  | .code code :: parts, first :: rest => code = first && globMatches parts rest
  | .set _ :: _, [] => false
  | .set codes :: parts, first :: rest => decide (first ∈ codes) && globMatches parts rest
  | .any :: parts, text => text.tails.any (globMatches parts)

/-- `text GLOB pattern`. -/
def glob (text pattern : Text) : Bool :=
  match globParts none pattern with
  | none => false
  | some parts => globMatches parts (cString text)

section plain

variable {text : Text}

/-- ASCII characters but NUL. -/
def Plain (text : Text) : Prop :=
  ∀ code ∈ text, code ≠ 0 ∧ code < 0x80

theorem Plain.of_cons {code : UInt16} (hplain : Plain (code :: text)) : (code ≠ 0 ∧ code < 0x80) ∧ Plain text :=
  List.forall_mem_cons.mp hplain

theorem cString_of_plain (hplain : Plain text) : cString text = text := by
  rw [cString, List.takeWhile_eq_self_iff]
  intro code hcode
  rw [decide_eq_true_eq]
  exact (hplain code hcode).1

theorem characters_of_plain (hplain : Plain text) : characters text = text.length := by
  induction text with
  | nil => rfl
  | cons code rest ih =>
    obtain ⟨⟨-, hascii⟩, hrest⟩ := hplain.of_cons
    cases rest with
    | nil => rfl
    | cons low rest =>
      rw [characters, if_neg, ih hrest, List.length_cons, List.length_cons, List.length_cons]
      exact fun hpair : Text.IsHigh code ∧ Text.IsLow low => Text.not_isHigh_of_ascii hascii hpair.1

theorem length_of_plain (hplain : Plain text) : length text = text.length := by
  rw [length, cString_of_plain hplain, characters_of_plain hplain]

theorem firstCharacters_of_plain (hplain : Plain text) (count : Nat) : firstCharacters count text = text.take count := by
  induction text generalizing count with
  | nil => cases count <;> rfl
  | cons code rest ih =>
    obtain ⟨⟨-, hascii⟩, hrest⟩ := hplain.of_cons
    cases count with
    | zero => rfl
    | succ count =>
      cases rest with
      | nil => simp [firstCharacters]
      | cons low rest =>
        rw [firstCharacters, if_neg, ih hrest, List.take_succ_cons]
        exact fun hpair : Text.IsHigh code ∧ Text.IsLow low => Text.not_isHigh_of_ascii hascii hpair.1

theorem substr_of_plain (hplain : Plain text) (count : Nat) : substr text count = text.take count := by
  rw [substr, cString_of_plain hplain, firstCharacters_of_plain hplain]

end plain

section instr

variable {text : Text} {code : UInt16}

theorem indexOf_singleton_eq_none_iff : indexOf [code] text = none ↔ code ∉ text := by
  induction text with
  | nil => simp [indexOf]
  | cons first rest ih =>
    rw [indexOf, List.mem_cons, not_or, ← ih]
    by_cases hfirst : code = first
    · simp [hfirst, List.isPrefixOf]
    · simp [hfirst, List.isPrefixOf]

/-- No character is found that is not there. -/
theorem instr_singleton_eq_zero_iff : instr text [code] = 0 ↔ code ∉ text := by
  rw [← indexOf_singleton_eq_none_iff, instr]
  cases indexOf [code] text with
  | none => simp
  | some index => simp

end instr

section glob

variable {parts : List GlobPart} {text rest : Text}

theorem globMatches_codes (codes : Text) (hrest : globMatches parts rest = true) :
    globMatches (codes.map .code ++ parts) (codes ++ rest) = true := by
  induction codes with
  | nil => exact hrest
  | cons code codes ih =>
    rw [List.map_cons, List.cons_append, List.cons_append, globMatches, Bool.and_eq_true]
    exact ⟨decide_eq_true rfl, ih⟩

theorem globMatches_set {codes : Text} {code : UInt16} (hcode : code ∈ codes) (hrest : globMatches parts rest = true) :
    globMatches (.set codes :: parts) (code :: rest) = true := by
  rw [globMatches, Bool.and_eq_true]
  exact ⟨decide_eq_true hcode, hrest⟩

/-- Any text may be skipped. -/
theorem globMatches_any (skipped : Text) (hrest : globMatches parts rest = true) :
    globMatches (.any :: parts) (skipped ++ rest) = true := by
  rw [globMatches, List.any_eq_true]
  exact ⟨rest, (List.mem_tails _ _).mpr (List.suffix_append skipped rest), hrest⟩

end glob

end sql
