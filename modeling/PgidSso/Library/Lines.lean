import PgidSso.Library.Utf8

/-! The lines of a text, and what is left of a text in its UTF-8 bytes: unpaired surrogates
are all written as U+FFFD. -/

namespace Text

def newline : UInt16 := 0x000A

/-- `lines.join("\n")`. -/
def joinLines : List Text → Text
  | [] => []
  | [line] => line
  | line :: next :: rest => line ++ newline :: joinLines (next :: rest)

/-- `text.split("\n")`. -/
def lines : Text → List Text
  | [] => [[]]
  | code :: rest =>
    if code = newline then [] :: lines rest
    else
      match lines rest with
      | [] => [[code]]
      | first :: others => (code :: first) :: others

section lines

variable {text left right : Text}

/-- What stands before the first separator and after it. -/
theorem append_separator_inj {separator : UInt16} {before after other rest : Text} (hbefore : separator ∉ before)
    (hother : separator ∉ other) (hsame : before ++ separator :: after = other ++ separator :: rest) :
    before = other ∧ after = rest := by
  induction before generalizing other with
  | nil =>
    cases other with
    | nil => exact ⟨rfl, (List.cons.inj hsame).2⟩
    | cons code other => exact absurd (List.mem_cons.mpr (.inl (List.cons.inj hsame).1)) hother
  | cons code before ih =>
    cases other with
    | nil => exact absurd (List.mem_cons.mpr (.inl (List.cons.inj hsame).1.symm)) hbefore
    | cons first other =>
      obtain ⟨rfl, hrest⟩ := List.cons.inj hsame
      rw [List.mem_cons, not_or] at hbefore hother
      obtain ⟨rfl, rfl⟩ := ih hbefore.2 hother.2 hrest
      exact ⟨rfl, rfl⟩

theorem lines_cons (text : Text) : ∃ first others, lines text = first :: others := by
  induction text with
  | nil => exact ⟨[], [], rfl⟩
  | cons code rest ih =>
    obtain ⟨first, others, hlines⟩ := ih
    rw [lines]
    split
    · exact ⟨[], lines rest, rfl⟩
    · exact ⟨code :: first, others, by rw [hlines]⟩

/-- A line begins with what stands before the rest of it. -/
theorem lines_append (hleft : newline ∉ left) {first : Text} {others : List Text}
    (hright : lines right = first :: others) : lines (left ++ right) = (left ++ first) :: others := by
  induction left with
  | nil => exact hright
  | cons code left ih =>
    rw [List.mem_cons, not_or] at hleft
    rw [List.cons_append, lines, if_neg (Ne.symm hleft.1), ih hleft.2]
    rfl

theorem lines_of_free (htext : newline ∉ text) : lines text = [text] := by
  have hlines := lines_append htext (show lines [] = [] :: [] from rfl)
  rwa [List.append_nil] at hlines

theorem lines_append_newline (hleft : newline ∉ left) :
    lines (left ++ newline :: right) = left :: lines right := by
  have hbreak : lines (newline :: right) = [] :: lines right := by
    rw [lines, if_pos rfl]
  rw [lines_append hleft hbreak, List.append_nil]

/-- Every text is one line, or a line, a line feed and a text. -/
theorem split_newline (text : Text) :
    newline ∉ text ∨ ∃ line rest, text = line ++ newline :: rest ∧ newline ∉ line := by
  by_cases hmem : newline ∈ text
  · exact .inr (List.eq_append_cons_of_mem hmem)
  · exact .inl hmem

/-- A text begins as its first line does. -/
theorem head_of_lines {code : UInt16} {first : Text} {others : List Text} (hlines : lines text = (code :: first) :: others) :
    ∃ rest, text = code :: rest := by
  cases text with
  | nil => cases hlines
  | cons head rest =>
    rw [lines] at hlines
    split at hlines
    · cases hlines
    · obtain ⟨next, later, hrest⟩ := lines_cons rest
      rw [hrest] at hlines
      cases hlines
      exact ⟨rest, rfl⟩

theorem lines_join_append (left right : Text) : lines (left ++ newline :: right) = lines left ++ lines right := by
  induction hlength : left.length using Nat.strongRecOn generalizing left with
  | ind length ih =>
    obtain hfree | ⟨line, rest, rfl, hline⟩ := split_newline left
    · rw [lines_append_newline hfree, lines_of_free hfree]
      rfl
    · rw [List.append_assoc, List.cons_append, lines_append_newline hline, lines_append_newline hline]
      have hshorter : rest.length < length := by
        rw [← hlength, List.length_append, List.length_cons]
        omega
      rw [ih rest.length hshorter rest rfl]
      rfl

/-- The lines of joined texts are the lines of each. -/
theorem mem_lines_joinLines {texts : List Text} (hmem : text ∈ texts) {line : Text} (hline : line ∈ lines text) :
    line ∈ lines (joinLines texts) := by
  induction texts with
  | nil => cases hmem
  | cons first rest ih =>
    cases rest with
    | nil =>
      rw [List.mem_singleton] at hmem
      rwa [joinLines, ← hmem]
    | cons next rest =>
      rw [joinLines, lines_join_append, List.mem_append]
      obtain rfl | hlater := List.mem_cons.mp hmem
      · exact .inl hline
      · exact .inr (ih hlater)

/-- Texts without line feeds are the lines of what they are joined to. -/
theorem lines_joinLines {texts : List Text} (hne : texts ≠ []) (htexts : ∀ text ∈ texts, newline ∉ text) :
    lines (joinLines texts) = texts := by
  induction texts with
  | nil => exact absurd rfl hne
  | cons first rest ih =>
    obtain ⟨hfirst, hrest⟩ := List.forall_mem_cons.mp htexts
    cases rest with
    | nil => rw [joinLines, lines_of_free hfirst]
    | cons next rest =>
      rw [joinLines, lines_append_newline hfirst, ih (List.cons_ne_nil next rest) hrest]

end lines

/-- U+FFFD for a surrogate. -/
def replaced (code : UInt16) : UInt16 :=
  if IsHigh code ∨ IsLow code then 0xFFFD else code

/-- `text.toWellFormed()`: unpaired surrogates are replaced by U+FFFD. -/
def wellFormed : Text → Text
  | high :: low :: rest =>
    if IsHigh high ∧ IsLow low then high :: low :: wellFormed rest else replaced high :: wellFormed (low :: rest)
  | [code] => [replaced code]
  | [] => []

section wellFormed

variable {text left right : Text}

theorem encodeUnit_replaced (code : UInt16) : encodeUnit (replaced code) = encodeUnit code := by
  rw [replaced]
  split
  · rename_i hsurrogate
    have hvalue : 0xD800 ≤ code.toNat ∧ code.toNat ≤ 0xDFFF := by
      simp only [IsHigh, IsLow, UInt16.le_iff_toNat_le] at hsurrogate
      have hconstants : (0xD800 : UInt16).toNat = 0xD800 ∧ (0xDBFF : UInt16).toNat = 0xDBFF ∧
          (0xDC00 : UInt16).toNat = 0xDC00 ∧ (0xDFFF : UInt16).toNat = 0xDFFF := by decide
      omega
    have hmark : encodeUnit 0xFFFD = [0xEF, 0xBF, 0xBD] := by decide
    rw [hmark, encodeUnit, if_neg (show ¬ code.toNat < 0x80 by omega), if_neg (show ¬ code.toNat < 0x800 by omega),
      if_pos hsurrogate]
  · rfl

theorem replaced_not_surrogate (code : UInt16) : ¬ IsHigh (replaced code) ∧ ¬ IsLow (replaced code) := by
  rw [replaced]
  split
  · decide
  · rename_i hplain
    exact not_or.mp hplain

theorem wellFormed_head (code : UInt16) (rest : Text) :
    ∃ first others, wellFormed (code :: rest) = first :: others ∧ (IsLow first → IsLow code) := by
  cases rest with
  | nil => exact ⟨replaced code, [], rfl, fun hlow => absurd hlow (replaced_not_surrogate code).2⟩
  | cons next rest =>
    rw [wellFormed]
    split
    · exact ⟨code, _, rfl, id⟩
    · exact ⟨replaced code, _, rfl, fun hlow => absurd hlow (replaced_not_surrogate code).2⟩

theorem encode_cons_of_not_high {code : UInt16} {rest : Text} (hcode : ¬ IsHigh code) :
    encode (code :: rest) = encodeUnit code ++ encode rest := by
  cases rest with
  | nil => rw [encode, encode, List.append_nil]
  | cons next rest => rw [encode, if_neg fun hpair => hcode hpair.1]

/-- The bytes do not tell a text from its well-formed one. -/
theorem encode_wellFormed (text : Text) : (wellFormed text).encode = text.encode := by
  induction text using encode.induct with
  | case1 high low rest hpair ih => rw [wellFormed, if_pos hpair, encode, if_pos hpair, encode, if_pos hpair, ih]
  | case2 high low rest hpair ih =>
    rw [wellFormed, if_neg hpair, encode_cons_of_not_high (replaced_not_surrogate high).1, ih, encodeUnit_replaced,
      encode, if_neg hpair]
  | case3 code => rw [wellFormed, encode, encode, encodeUnit_replaced]
  | case4 => rfl

theorem wellFormed_paired (text : Text) : (wellFormed text).Paired := by
  induction text using encode.induct with
  | case1 high low rest hpair ih =>
    rw [wellFormed, if_pos hpair, Paired, if_pos hpair]
    exact ih
  | case2 high low rest hpair ih =>
    obtain ⟨hhigh, hlow⟩ := replaced_not_surrogate high
    obtain ⟨first, others, hfirst, -⟩ := wellFormed_head low rest
    rw [wellFormed, if_neg hpair, hfirst, Paired, if_neg fun hboth => hhigh hboth.1]
    exact ⟨hhigh, hlow, hfirst ▸ ih⟩
  | case3 code => exact replaced_not_surrogate code
  | case4 => trivial

/-- Texts of the same bytes have one well-formed text. -/
theorem wellFormed_eq_of_encode (hencode : left.encode = right.encode) : left.wellFormed = right.wellFormed := by
  rw [← encode_wellFormed left, ← encode_wellFormed right] at hencode
  have hleft := decodeBytes_encode (wellFormed_paired left)
  rw [hencode, decodeBytes_encode (wellFormed_paired right)] at hleft
  exact (Option.some.inj hleft).symm

theorem wellFormed_append {code : UInt16} (hcode : ¬ IsHigh code ∧ ¬ IsLow code) (left right : Text) :
    wellFormed (left ++ code :: right) = wellFormed left ++ code :: wellFormed right := by
  have hbreak : ∀ right, wellFormed (code :: right) = code :: wellFormed right := by
    intro right
    have hkept : replaced code = code := if_neg (not_or.mpr hcode)
    cases right with
    | nil => rw [wellFormed, wellFormed, hkept]
    | cons next right => rw [wellFormed, if_neg fun hpair => hcode.1 hpair.1, hkept]
  induction left using encode.induct with
  | case1 high low rest hpair ih =>
    rw [List.cons_append, List.cons_append, wellFormed, if_pos hpair, wellFormed, if_pos hpair, ih]
    rfl
  | case2 high low rest hpair ih =>
    rw [List.cons_append, List.cons_append, wellFormed, if_neg hpair, wellFormed, if_neg hpair, ← List.cons_append, ih]
    rfl
  | case3 first =>
    rw [List.singleton_append, wellFormed, if_neg fun hpair => hcode.2 hpair.2, hbreak, wellFormed]
    rfl
  | case4 => exact hbreak right

/-- No digit, no sign, no white space and no other ASCII character: the surrogates, and
what replaces them. -/
def Inert (code : UInt16) : Prop :=
  IsHigh code ∨ IsLow code ∨ code = 0xFFFD

/-- Two characters are one, or both stand for unpaired surrogates. -/
def Similar (left right : UInt16) : Prop :=
  left = right ∨ (Inert left ∧ Inert right)

theorem similar_wellFormed (text : Text) : List.Forall₂ Similar text (wellFormed text) := by
  have hreplaced : ∀ code, Similar code (replaced code) := by
    intro code
    rw [replaced]
    split
    · rename_i hsurrogate
      refine .inr ⟨?_, .inr (.inr rfl)⟩
      obtain hhigh | hlow := hsurrogate
      · exact .inl hhigh
      · exact .inr (.inl hlow)
    · exact .inl rfl
  induction text using encode.induct with
  | case1 high low rest hpair ih =>
    rw [wellFormed, if_pos hpair]
    exact .cons (.inl rfl) (.cons (.inl rfl) ih)
  | case2 high low rest hpair ih =>
    rw [wellFormed, if_neg hpair]
    exact .cons (hreplaced high) ih
  | case3 code => exact .cons (hreplaced code) .nil
  | case4 => exact .nil

theorem Inert.not_ascii {code : UInt16} (hinert : Inert code) : ¬ code < 0x80 := by
  rw [Inert, IsHigh, IsLow] at hinert
  obtain ⟨hmin, -⟩ | ⟨hmin, -⟩ | rfl := hinert
  · exact fun hcode => absurd (UInt16.lt_of_le_of_lt hmin hcode) (by decide)
  · exact fun hcode => absurd (UInt16.lt_of_le_of_lt hmin hcode) (by decide)
  · decide

/-- An ASCII text is similar to no other. -/
theorem eq_of_similar_ascii (hsimilar : List.Forall₂ Similar left right) (hright : right.Ascii) : left = right := by
  induction hsimilar with
  | nil => rfl
  | cons hhead _ ih =>
    obtain ⟨hcode, hrest⟩ := ascii_cons.mp hright
    obtain rfl | ⟨-, hinert⟩ := hhead
    · rw [ih hrest]
    · exact absurd hcode hinert.not_ascii

theorem wellFormed_of_ascii (htext : text.Ascii) : wellFormed text = text := by
  induction text with
  | nil => rfl
  | cons code rest ih =>
    obtain ⟨hcode, hrest⟩ := ascii_cons.mp htext
    have hplain : ¬ IsHigh code ∧ ¬ IsLow code := ⟨not_isHigh_of_ascii hcode, not_isLow_of_ascii hcode⟩
    have hsplit := wellFormed_append hplain [] rest
    rwa [List.nil_append, ih hrest] at hsplit

/-- A text whose well-formed text is ASCII is that text. -/
theorem eq_of_wellFormed_ascii (htext : wellFormed left = right) (hright : right.Ascii) : left = right :=
  eq_of_similar_ascii (htext ▸ similar_wellFormed left) hright

theorem mem_newline_of_similar (hsimilar : List.Forall₂ Similar left right) : newline ∈ right ↔ newline ∈ left := by
  have hnewline : ¬ Inert newline := fun hinert => hinert.not_ascii (by decide)
  induction hsimilar with
  | nil => rfl
  | cons hhead _ ih =>
    rw [List.mem_cons, List.mem_cons]
    obtain rfl | ⟨hleft, hright⟩ := hhead
    · exact or_congr Iff.rfl ih
    · exact or_congr ⟨fun heq => absurd (heq ▸ hright) hnewline, fun heq => absurd (heq ▸ hleft) hnewline⟩ ih

/-- The lines of the well-formed text are those of the text, well-formed. -/
theorem lines_wellFormed (text : Text) : lines (wellFormed text) = (lines text).map wellFormed := by
  induction hlength : text.length using Nat.strongRecOn generalizing text with
  | ind length ih =>
    obtain hfree | ⟨line, rest, rfl, hline⟩ := split_newline text
    · rw [lines_of_free hfree, lines_of_free fun hmem => hfree ((mem_newline_of_similar (similar_wellFormed _)).mp hmem)]
      rfl
    · have hshorter : rest.length < length := by
        rw [← hlength, List.length_append, List.length_cons]
        omega
      rw [wellFormed_append (by decide), lines_append_newline hline,
        lines_append_newline fun hmem => hline ((mem_newline_of_similar (similar_wellFormed _)).mp hmem), ih rest.length hshorter rest rfl]
      rfl

/-- Texts of the same bytes have lines of the same bytes. -/
theorem lines_of_encode (hencode : left.encode = right.encode) :
    (lines left).map wellFormed = (lines right).map wellFormed := by
  rw [← lines_wellFormed, ← lines_wellFormed, wellFormed_eq_of_encode hencode]

end wellFormed

end Text
