import PgidSso.Library.JsonText

/-! The values that a text of `JSON.stringify` can be written from. -/

namespace json

/-- Wherever the text stands in an array or an object, it determines the value it is written
from, and so what comes after it. -/
def Determined {α : Type} (text : α → Text) : Prop :=
  ∀ ⦃left right : α⦄ ⦃rest other : Text⦄, Delimited rest → Delimited other →
    text left ++ rest = text right ++ other → left = right ∧ rest = other

section values

variable {α β : Type} {text : α → Text}

/-- What is read of a text determines it. -/
theorem determined_of_reads {value : α → Value} (hreads : ∀ written, Reads (text written) (value written))
    (hvalue : ∀ left right, value left = value right → left = right) : Determined text := by
  intro left right rest other hrest hother hsame
  obtain ⟨fuel, hfuel⟩ : ∃ fuel, fuel = 2 * ((text left).length + (text right).length) := ⟨_, rfl⟩
  have hleft : parseValue fuel (text left ++ rest) = some (value left, rest) := (hreads left).read (by omega) hrest
  have hright : parseValue fuel (text right ++ other) = some (value right, other) :=
    (hreads right).read (by omega) hother
  rw [hsame, hright] at hleft
  obtain ⟨hread, hafter⟩ := Prod.mk.inj (Option.some.inj hleft)
  exact ⟨hvalue left right hread.symm, hafter.symm⟩

theorem determined_string : Determined string :=
  determined_of_reads reads_string fun _ _ hsame => Value.string.inj hsame

theorem determined_integer : Determined integer := by
  refine determined_of_reads reads_integer ?_
  intro left right hsame
  have hliteral := Value.number.inj hsame
  simp only [Literal.ofInt, Literal.mk.injEq, decide_eq_decide, and_true] at hliteral
  omega

theorem Determined.comp (htext : Determined text) {f : β → α} (hf : ∀ left right, f left = f right → left = right) :
    Determined fun written => text (f written) := by
  intro left right rest other hrest hother hsame
  obtain ⟨hwritten, hafter⟩ := htext hrest hother hsame
  exact ⟨hf left right hwritten, hafter⟩

/-- A text that may be `null` is determined where no value begins as `null` does. -/
theorem Determined.nullable (htext : Determined text)
    (hhead : ∀ written, (text written).head?.any (· != Text.unit 'n') = true) : Determined (json.nullable text) := by
  have hnull : ∀ {written : α} {rest other : Text}, text written ++ rest ≠ Text.of "null" ++ other := by
    intro written rest other hsame
    have hfirst := hhead written
    cases hwritten : text written with
    | nil =>
      rw [hwritten] at hfirst
      cases hfirst
    | cons code tail =>
      rw [hwritten] at hfirst hsame
      have hcode : code ≠ Text.unit 'n' := bne_iff_ne.mp hfirst
      exact hcode (List.cons.inj hsame).1
  intro left right rest other hrest hother hsame
  cases left with
  | none =>
    cases right with
    | none => exact ⟨rfl, List.append_cancel_left hsame⟩
    | some right => exact absurd hsame.symm hnull
  | some left =>
    cases right with
    | none => exact absurd hsame hnull
    | some right =>
      obtain ⟨rfl, hafter⟩ := htext hrest hother hsame
      exact ⟨rfl, hafter⟩

theorem head_string (value : Text) : (string value).head?.any (· != Text.unit 'n') = true := rfl

theorem head_integer (value : Int) : (integer value).head?.any (· != Text.unit 'n') = true := by
  obtain ⟨code, tail, htext, hcode⟩ := integer_head value
  obtain ⟨-, -, -, -, -, -, -, hnull⟩ := number_head hcode
  rw [htext]
  exact bne_iff_ne.mpr hnull

end values

section members

/-- The rest of an object after a member. -/
def afterMember : List (String × Text) → Text
  | [] => Text.of "\x7d"
  | member :: members => Text.of "," ++ memberText member ++ afterMember members

variable {α : Type} {text : α → Text} {key : String} {left right : α} {members others : List (String × Text)}
  {rest other : Text}

theorem commaSeparated_afterMember (member : String × Text) (members : List (String × Text)) :
    commaSeparated ((member :: members).map memberText) ++ Text.of "\x7d" = memberText member ++ afterMember members := by
  induction members generalizing member with
  | nil => rfl
  | cons next members ih =>
    have hstep : commaSeparated ((member :: next :: members).map memberText) =
        memberText member ++ Text.of "," ++ commaSeparated ((next :: members).map memberText) := rfl
    rw [hstep, List.append_assoc, ih next, afterMember, List.append_assoc, List.append_assoc]

theorem object_cons (member : String × Text) (members : List (String × Text)) :
    object (member :: members) = Text.of "\x7b" ++ (memberText member ++ afterMember members) := by
  rw [← commaSeparated_afterMember, ← List.append_assoc]
  rfl

theorem delimited_afterMember : Delimited (afterMember members ++ rest) := by
  cases members with
  | nil => exact delimited_cons rest (.inr (.inr rfl))
  | cons member members => exact delimited_cons _ (.inl rfl)

/-- Members with the same key, from their values on. -/
theorem member_cancel {first second after later : Text}
    (hsame : memberText (key, first) ++ after = memberText (key, second) ++ later) :
    first ++ after = second ++ later := by
  simp only [memberText, List.append_assoc] at hsame
  exact List.append_cancel_left (List.append_cancel_left hsame)

theorem first_cancel {first second : Text}
    (hsame : object ((key, first) :: members) ++ rest = object ((key, second) :: others) ++ other) :
    first ++ (afterMember members ++ rest) = second ++ (afterMember others ++ other) := by
  simp only [object_cons, List.append_assoc] at hsame
  exact member_cancel (List.append_cancel_left hsame)

theorem next_cancel {first second : Text}
    (hsame : afterMember ((key, first) :: members) ++ rest = afterMember ((key, second) :: others) ++ other) :
    first ++ (afterMember members ++ rest) = second ++ (afterMember others ++ other) := by
  simp only [afterMember, List.append_assoc] at hsame
  exact member_cancel (List.append_cancel_left hsame)

/-- The first member of an object. -/
theorem Determined.first (htext : Determined text)
    (hsame : object ((key, text left) :: members) ++ rest = object ((key, text right) :: others) ++ other) :
    left = right ∧ afterMember members ++ rest = afterMember others ++ other :=
  htext delimited_afterMember delimited_afterMember (first_cancel hsame)

/-- A later member of an object. -/
theorem Determined.next (htext : Determined text)
    (hsame : afterMember ((key, text left) :: members) ++ rest =
      afterMember ((key, text right) :: others) ++ other) :
    left = right ∧ afterMember members ++ rest = afterMember others ++ other :=
  htext delimited_afterMember delimited_afterMember (next_cancel hsame)

theorem afterMember_end (hsame : afterMember [] ++ rest = afterMember [] ++ other) : rest = other :=
  List.append_cancel_left hsame

end members

end json
