import PgidSso.Library.Text

/-! Regular expressions of ECMAScript, without look-around, back references and flags, and the
words they match. -/

/-- A regular expression over code units. -/
inductive Regex where
  | empty
  /-- `\b` -/
  | boundary
  /-- A code unit of a class. -/
  | one (class_ : UInt16 → Bool)
  | both (first second : Regex)
  | either (first second : Regex)
  /-- Any number of code units of a class. -/
  | many (class_ : UInt16 → Bool)

namespace Regex

/-- `[A-Za-z0-9_]` -/
def isWord (code : UInt16) : Bool :=
  (Text.unit '0' ≤ code ∧ code ≤ Text.unit '9') ∨ (Text.unit 'A' ≤ code ∧ code ≤ Text.unit 'Z') ∨
    (Text.unit 'a' ≤ code ∧ code ≤ Text.unit 'z') ∨ code = Text.unit '_'

/-- One after the other. -/
def inOrder (parts : List Regex) : Regex :=
  parts.foldr both empty

/-- The characters of a literal. -/
@[irreducible] def literal (text : String) : Regex :=
  inOrder ((Text.of text).map fun code => one fun other => other = code)

/-- `{count}`, behind a class. -/
def times (class_ : UInt16 → Bool) : Nat → Regex
  | 0 => empty
  | count + 1 => both (one class_) (times class_ count)

/-- `{0,count}`, behind a class. -/
def atMost (class_ : UInt16 → Bool) : Nat → Regex
  | 0 => empty
  | count + 1 => either (both (one class_) (atMost class_ count)) empty

/-- `{least,}`, behind a class. -/
def atLeast (class_ : UInt16 → Bool) (least : Nat) : Regex :=
  both (times class_ least) (many class_)

/-- `{least,most}`, behind a class. -/
def between (class_ : UInt16 → Bool) (least most : Nat) : Regex :=
  both (times class_ least) (atMost class_ (most - least))

/-- Whether a word character comes first in a text, or after an empty one. -/
def startsWord (text : Text) (after : Bool) : Bool :=
  match text with
  | [] => after
  | code :: _ => isWord code

/-- Whether a word character comes last in a text, or before an empty one. -/
def endsWord (text : Text) (before : Bool) : Bool :=
  text.foldl (fun _ code => isWord code) before

/-- Reads code units of the class for as long as some rest of the text serves what comes next. -/
def runMany (class_ : UInt16 → Bool) (next : Bool → Text → Bool) (before : Bool) : Text → Bool
  | [] => next before []
  | code :: rest => next before (code :: rest) || (class_ code && runMany class_ next (isWord code) rest)

/-- Whether the expression matches at the beginning of the text and what comes next goes on from
there. `before` says whether a word character stands before the text. -/
def run : Regex → Bool → Text → (Bool → Text → Bool) → Bool
  | empty, before, text, next => next before text
  | boundary, before, text, next => (before != startsWord text false) && next before text
  | one class_, _, text, next =>
    match text with
    | [] => false
    | code :: rest => class_ code && next (isWord code) rest
  | both first second, before, text, next => first.run before text fun before text => second.run before text next
  | either first second, before, text, next => first.run before text next || second.run before text next
  | many class_, before, text, next => runMany class_ next before text

def search (regex : Regex) (before : Bool) : Text → Bool
  | [] => regex.run before [] fun _ _ => true
  | code :: rest => (regex.run before (code :: rest) fun _ _ => true) || regex.search (isWord code) rest

/-- `regex.test(text)`. -/
def test (regex : Regex) (text : Text) : Bool :=
  regex.search false text

/-- What the expression matches, between what is before the word and what is after it. -/
def Matches : Regex → Bool → Text → Bool → Prop
  | empty, _, word, _ => word = []
  | boundary, before, word, after => word = [] ∧ before ≠ after
  | one class_, _, word, _ => ∃ code, word = [code] ∧ class_ code = true
  | both first second, before, word, after =>
    ∃ left right, word = left ++ right ∧ first.Matches before left (startsWord right after) ∧
      second.Matches (endsWord left before) right after
  | either first second, before, word, after => first.Matches before word after ∨ second.Matches before word after
  | many class_, _, word, _ => ∀ code ∈ word, class_ code = true

section meaning

variable {regex : Regex} {class_ : UInt16 → Bool} {before after : Bool} {text left right : Text}
  {next : Bool → Text → Bool}

@[simp] theorem endsWord_nil : endsWord [] before = before :=
  rfl

theorem endsWord_cons {code : UInt16} : endsWord (code :: text) before = endsWord text (isWord code) :=
  rfl

theorem endsWord_append : endsWord (left ++ right) before = endsWord right (endsWord left before) :=
  List.foldl_append

theorem startsWord_append : startsWord (left ++ right) after = startsWord left (startsWord right after) := by
  cases left with
  | nil => rfl
  | cons code left => rfl

theorem runMany_iff : runMany class_ next before text = true ↔
    ∃ word rest, text = word ++ rest ∧ (∀ code ∈ word, class_ code = true) ∧
      next (endsWord word before) rest = true := by
  induction text generalizing before with
  | nil =>
    rw [runMany]
    constructor
    · intro hnext
      exact ⟨[], [], rfl, fun code hcode => absurd hcode List.not_mem_nil, hnext⟩
    · rintro ⟨word, rest, hsplit, -, hnext⟩
      obtain ⟨rfl, rfl⟩ := List.append_eq_nil_iff.mp hsplit.symm
      exact hnext
  | cons code text ih =>
    rw [runMany, Bool.or_eq_true, Bool.and_eq_true, ih]
    constructor
    · rintro (hnext | ⟨hcode, word, rest, rfl, hword, hnext⟩)
      · exact ⟨[], code :: text, rfl, fun code hcode => absurd hcode List.not_mem_nil, hnext⟩
      · exact ⟨code :: word, rest, rfl, List.forall_mem_cons.mpr ⟨hcode, hword⟩, hnext⟩
    · rintro ⟨word, rest, hsplit, hword, hnext⟩
      cases word with
      | nil =>
        rw [List.nil_append] at hsplit
        subst hsplit
        exact .inl hnext
      | cons first word =>
        obtain ⟨rfl, rfl⟩ := List.cons.inj hsplit
        obtain ⟨hcode, hword⟩ := List.forall_mem_cons.mp hword
        exact .inr ⟨hcode, word, rest, rfl, hword, hnext⟩

/-- The matcher goes on behind a word that the expression matches. -/
theorem run_iff : regex.run before text next = true ↔
    ∃ word rest, text = word ++ rest ∧ regex.Matches before word (startsWord rest false) ∧
      next (endsWord word before) rest = true := by
  induction regex generalizing before text next with
  | empty =>
    constructor
    · intro hnext
      exact ⟨[], text, rfl, rfl, hnext⟩
    · rintro ⟨word, rest, rfl, rfl, hnext⟩
      exact hnext
  | boundary =>
    rw [run, Bool.and_eq_true, bne_iff_ne]
    constructor
    · rintro ⟨hedge, hnext⟩
      exact ⟨[], text, rfl, ⟨rfl, hedge⟩, hnext⟩
    · rintro ⟨word, rest, rfl, ⟨rfl, hedge⟩, hnext⟩
      exact ⟨hedge, hnext⟩
  | one class_ =>
    cases text with
    | nil =>
      constructor
      · intro hfalse
        cases hfalse
      · rintro ⟨word, rest, hsplit, ⟨code, rfl, -⟩, -⟩
        cases hsplit
    | cons code text =>
      simp only [run, Bool.and_eq_true]
      constructor
      · rintro ⟨hcode, hnext⟩
        exact ⟨[code], text, rfl, ⟨code, rfl, hcode⟩, hnext⟩
      · rintro ⟨word, rest, hsplit, ⟨other, rfl, hcode⟩, hnext⟩
        obtain ⟨rfl, rfl⟩ := List.cons.inj hsplit
        exact ⟨hcode, hnext⟩
  | both first second ihfirst ihsecond =>
    simp only [run, ihfirst, ihsecond]
    constructor
    · rintro ⟨left, -, rfl, hleft, right, rest, rfl, hright, hnext⟩
      refine ⟨left ++ right, rest, (List.append_assoc ..).symm, ⟨left, right, rfl, ?_, hright⟩, ?_⟩
      · rwa [startsWord_append] at hleft
      · rwa [endsWord_append]
    · rintro ⟨-, rest, rfl, ⟨left, right, rfl, hleft, hright⟩, hnext⟩
      refine ⟨left, right ++ rest, List.append_assoc .., ?_, right, rest, rfl, hright, ?_⟩
      · rwa [startsWord_append]
      · rwa [endsWord_append] at hnext
  | either first second ihfirst ihsecond =>
    rw [run, Bool.or_eq_true, ihfirst, ihsecond]
    constructor
    · rintro (⟨word, rest, hsplit, hword, hnext⟩ | ⟨word, rest, hsplit, hword, hnext⟩)
      · exact ⟨word, rest, hsplit, .inl hword, hnext⟩
      · exact ⟨word, rest, hsplit, .inr hword, hnext⟩
    · rintro ⟨word, rest, hsplit, hword | hword, hnext⟩
      · exact .inl ⟨word, rest, hsplit, hword, hnext⟩
      · exact .inr ⟨word, rest, hsplit, hword, hnext⟩
  | many class_ => exact runMany_iff

/-- The text holds a word that the expression matches. -/
def Occurs (regex : Regex) (text : Text) : Prop :=
  ∃ left word right, text = left ++ word ++ right ∧
    regex.Matches (endsWord left false) word (startsWord right false)

theorem search_iff : regex.search before text = true ↔
    ∃ left word right, text = left ++ word ++ right ∧
      regex.Matches (endsWord left before) word (startsWord right false) := by
  induction text generalizing before with
  | nil =>
    rw [search, run_iff]
    constructor
    · rintro ⟨word, rest, hsplit, hword, -⟩
      exact ⟨[], word, rest, hsplit, hword⟩
    · rintro ⟨left, word, right, hsplit, hword⟩
      obtain ⟨hleft, rfl⟩ := List.append_eq_nil_iff.mp hsplit.symm
      obtain ⟨rfl, rfl⟩ := List.append_eq_nil_iff.mp hleft
      exact ⟨[], [], rfl, hword, rfl⟩
  | cons code text ih =>
    rw [search, Bool.or_eq_true, run_iff, ih]
    constructor
    · rintro (⟨word, rest, hsplit, hword, -⟩ | ⟨left, word, right, rfl, hword⟩)
      · exact ⟨[], word, rest, hsplit, hword⟩
      · exact ⟨code :: left, word, right, rfl, hword⟩
    · rintro ⟨left, word, right, hsplit, hword⟩
      cases left with
      | nil => exact .inl ⟨word, right, hsplit, hword, rfl⟩
      | cons first left =>
        obtain ⟨rfl, rfl⟩ := List.cons.inj hsplit
        exact .inr ⟨left, word, right, rfl, hword⟩

/-- The matcher finds an expression where it occurs. -/
theorem test_iff : regex.test text = true ↔ regex.Occurs text :=
  search_iff

end meaning

/-- The least length of what the expression matches. -/
def least : Regex → Nat
  | empty | boundary | many _ => 0
  | one _ => 1
  | both first second => first.least + second.least
  | either first second => min first.least second.least

/-- The expression matches code units of one class only. -/
def Within (allowed : UInt16 → Bool) : Regex → Prop
  | empty | boundary => True
  | one class_ | many class_ => ∀ code, class_ code = true → allowed code = true
  | both first second | either first second => first.Within allowed ∧ second.Within allowed

section bounds

variable {regex : Regex} {allowed class_ : UInt16 → Bool} {before after : Bool} {word : Text}

theorem Matches.least_le (hmatches : regex.Matches before word after) : regex.least ≤ word.length := by
  induction regex generalizing before word after with
  | empty | boundary | many _ => exact Nat.zero_le _
  | one class_ =>
    obtain ⟨code, rfl, -⟩ := hmatches
    exact Nat.le_refl 1
  | both first second ihfirst ihsecond =>
    obtain ⟨left, right, rfl, hleft, hright⟩ := hmatches
    rw [List.length_append]
    exact Nat.add_le_add (ihfirst hleft) (ihsecond hright)
  | either first second ihfirst ihsecond =>
    rw [least]
    cases hmatches with
    | inl hfirst => exact Nat.le_trans (Nat.min_le_left ..) (ihfirst hfirst)
    | inr hsecond => exact Nat.le_trans (Nat.min_le_right ..) (ihsecond hsecond)

theorem Within.forall_mem (hwithin : regex.Within allowed) (hmatches : regex.Matches before word after) :
    ∀ code ∈ word, allowed code = true := by
  induction regex generalizing before word after with
  | empty =>
    cases (hmatches : word = [])
    exact fun code hcode => absurd hcode List.not_mem_nil
  | boundary =>
    obtain ⟨rfl, -⟩ := hmatches
    exact fun code hcode => absurd hcode List.not_mem_nil
  | one class_ =>
    obtain ⟨code, rfl, hcode⟩ := hmatches
    exact List.forall_mem_singleton.mpr (hwithin code hcode)
  | both first second ihfirst ihsecond =>
    obtain ⟨left, right, rfl, hleft, hright⟩ := hmatches
    exact List.forall_mem_append.mpr ⟨ihfirst hwithin.1 hleft, ihsecond hwithin.2 hright⟩
  | either first second ihfirst ihsecond =>
    cases hmatches with
    | inl hfirst => exact ihfirst hwithin.1 hfirst
    | inr hsecond => exact ihsecond hwithin.2 hsecond
  | many class_ => exact fun code hcode => hwithin code (hmatches code hcode)

theorem Within.mono {wider : UInt16 → Bool} (hwithin : regex.Within allowed)
    (hwider : ∀ code, allowed code = true → wider code = true) : regex.Within wider := by
  induction regex with
  | empty | boundary => trivial
  | one class_ | many class_ => exact fun code hcode => hwider code (hwithin code hcode)
  | both first second ihfirst ihsecond | either first second ihfirst ihsecond =>
    exact ⟨ihfirst hwithin.1, ihsecond hwithin.2⟩

theorem within_times {count : Nat} (hclass : ∀ code, class_ code = true → allowed code = true) :
    (times class_ count).Within allowed := by
  induction count with
  | zero => trivial
  | succ count ih => exact ⟨hclass, ih⟩

theorem within_atMost {count : Nat} (hclass : ∀ code, class_ code = true → allowed code = true) :
    (atMost class_ count).Within allowed := by
  induction count with
  | zero => trivial
  | succ count ih => exact ⟨⟨hclass, ih⟩, trivial⟩

theorem within_inOrder {parts : List Regex} (hparts : ∀ part ∈ parts, part.Within allowed) :
    (inOrder parts).Within allowed := by
  induction parts with
  | nil => trivial
  | cons part parts ih =>
    obtain ⟨hpart, hparts⟩ := List.forall_mem_cons.mp hparts
    exact ⟨hpart, ih hparts⟩

theorem within_literal {text : String} (htext : (Text.of text).all allowed = true) :
    (literal text).Within allowed := by
  rw [literal]
  apply within_inOrder
  intro part hpart
  obtain ⟨code, hcode, rfl⟩ := List.mem_map.mp hpart
  intro other hother
  rw [of_decide_eq_true hother]
  exact List.all_eq_true.mp htext code hcode

end bounds

end Regex
