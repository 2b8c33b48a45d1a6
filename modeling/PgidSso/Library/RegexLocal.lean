import PgidSso.Library.Lines
import PgidSso.Library.Regex

/-! A regular expression occurs in a text where it occurs in one of the runs of its characters. -/

namespace Text

/-- The run that ends here, if it is long enough. -/
def closeRun (least : Nat) (current : Text) : List Text :=
  if least ≤ current.length then [current] else []

/-- The runs of code units of a class, the first of which begins with `current`. -/
def runsFrom (class_ : UInt16 → Bool) (least : Nat) (current : Text) : Text → List Text
  | [] => closeRun least current
  | code :: rest =>
    if class_ code then runsFrom class_ least (current ++ [code]) rest
    else closeRun least current ++ runsFrom class_ least [] rest

/-- The longest runs of code units of a class, with those below a least length left out. -/
def runs (class_ : UInt16 → Bool) (least : Nat) (text : Text) : List Text :=
  runsFrom class_ least [] text

section runs

variable {class_ : UInt16 → Bool} {least : Nat} {current left right text : Text}

theorem closeRun_nil (hpos : 0 < least) : closeRun least [] = [] :=
  if_neg (Nat.not_le.mpr hpos)

theorem runsFrom_append_of_class (htext : ∀ code ∈ text, class_ code = true) :
    runsFrom class_ least current (text ++ right) = runsFrom class_ least (current ++ text) right := by
  induction text generalizing current with
  | nil => rw [List.nil_append, List.append_nil]
  | cons code text ih =>
    obtain ⟨hcode, htext⟩ := List.forall_mem_cons.mp htext
    rw [List.cons_append, runsFrom, if_pos hcode, ih htext, List.append_assoc]
    rfl

/-- A gap between two runs ends the first of them. -/
theorem runsFrom_append_gap {gap : Text} (hpos : 0 < least) (hne : gap ≠ [])
    (hgap : ∀ code ∈ gap, class_ code = false) :
    runsFrom class_ least current (gap ++ text) = closeRun least current ++ runs class_ least text := by
  induction gap generalizing current with
  | nil => exact absurd rfl hne
  | cons code gap ih =>
    obtain ⟨hcode, hgap⟩ := List.forall_mem_cons.mp hgap
    rw [List.cons_append, runsFrom, if_neg (Bool.eq_false_iff.mp hcode)]
    cases gap with
    | nil => rfl
    | cons next gap => rw [ih (List.cons_ne_nil next gap) hgap, closeRun_nil hpos, List.nil_append]

theorem runsFrom_append_separator {separator : UInt16} (hseparator : class_ separator = false) :
    runsFrom class_ least current (left ++ separator :: right) =
      runsFrom class_ least current left ++ runs class_ least right := by
  induction left generalizing current with
  | nil =>
    simp only [List.nil_append, runsFrom, hseparator, Bool.false_eq_true, if_false]
    rfl
  | cons code left ih =>
    simp only [List.cons_append, runsFrom]
    split
    · exact ih
    · rw [ih, List.append_assoc]

/-- No run crosses the end of a line. -/
theorem runs_joinLines {texts : List Text} (hpos : 0 < least) (hnewline : class_ newline = false) :
    runs class_ least (joinLines texts) = texts.flatMap (runs class_ least) := by
  induction texts using joinLines.induct with
  | case1 => exact closeRun_nil hpos
  | case2 line => rw [joinLines, List.flatMap_singleton]
  | case3 line next rest ih =>
    rw [joinLines, runs, runsFrom_append_separator hnewline, ih]
    rfl

theorem mem_runsFrom_takeWhile (hlength : least ≤ current.length) :
    current ++ text.takeWhile class_ ∈ runsFrom class_ least current text := by
  induction text generalizing current with
  | nil =>
    rw [List.takeWhile_nil, List.append_nil, runsFrom, closeRun, if_pos hlength]
    exact List.mem_singleton_self _
  | cons code text ih =>
    rw [List.takeWhile_cons, runsFrom]
    split
    · have hlonger : least ≤ (current ++ [code]).length := by
        rw [List.length_append]
        omega
      have hmem := ih hlonger
      rwa [List.append_assoc] at hmem
    · rw [List.append_nil, closeRun, if_pos hlength]
      exact List.mem_append_left _ (List.mem_singleton_self _)

end runs

end Text

namespace Regex

open Text

variable {regex : Regex} {class_ : UInt16 → Bool} {least : Nat} {current left right text run : Text}

theorem mem_closeRun_split (hstarts : startsWord right false = false) (hrun : run ∈ closeRun least current) :
    ∃ before after, current ++ right = before ++ run ++ after ∧ endsWord before false = false ∧
      startsWord after false = false := by
  rw [closeRun] at hrun
  split at hrun
  · rw [List.mem_singleton.mp hrun]
    exact ⟨[], right, rfl, rfl, hstarts⟩
  · cases hrun

section runs

variable (hword : ∀ code, class_ code = false → isWord code = false)
include hword

/-- What the run under way has left behind does not end in a word character. -/
theorem runsFrom_append_left (least : Nat) (current left text : Text) :
    ∃ dropped kept, current ++ left = dropped ++ kept ∧ endsWord dropped false = false ∧
    ∀ run ∈ runsFrom class_ least kept text, run ∈ runsFrom class_ least current (left ++ text) := by
  induction left generalizing current with
  | nil => exact ⟨[], current, List.append_nil _, rfl, fun run hrun => hrun⟩
  | cons code left ih =>
    rw [List.cons_append, runsFrom]
    by_cases hcode : class_ code = true
    · obtain ⟨dropped, kept, hsplit, hends, hruns⟩ := ih (current ++ [code])
      rw [if_pos hcode]
      refine ⟨dropped, kept, ?_, hends, hruns⟩
      rw [← hsplit, List.append_assoc]
      rfl
    · obtain ⟨dropped, kept, hsplit, hends, hruns⟩ := ih []
      rw [if_neg hcode]
      refine ⟨current ++ code :: dropped, kept, ?_, ?_, fun run hrun => List.mem_append_right _ (hruns run hrun)⟩
      · rw [List.append_assoc, List.cons_append, ← hsplit]
        rfl
      · rw [endsWord_append, endsWord_cons, hword code (Bool.eq_false_iff.mpr hcode), hends]

/-- No word character stands on either side of a run. -/
theorem mem_runsFrom_split (hrun : run ∈ runsFrom class_ least current text) :
    ∃ left right, current ++ text = left ++ run ++ right ∧ endsWord left false = false ∧
      startsWord right false = false := by
  induction text generalizing current with
  | nil => exact mem_closeRun_split rfl hrun
  | cons code text ih =>
    rw [runsFrom] at hrun
    by_cases hcode : class_ code = true
    · rw [if_pos hcode] at hrun
      obtain ⟨left, right, hsplit, hends, hstarts⟩ := ih hrun
      refine ⟨left, right, ?_, hends, hstarts⟩
      rw [← hsplit, List.append_assoc]
      rfl
    · have hapart := hword code (Bool.eq_false_iff.mpr hcode)
      rw [if_neg hcode] at hrun
      cases List.mem_append.mp hrun with
      | inl hended => exact mem_closeRun_split hapart hended
      | inr hlater =>
        obtain ⟨left, right, hsplit, hends, hstarts⟩ := ih hlater
        refine ⟨current ++ code :: left, right, ?_, ?_, hstarts⟩
        · rw [← List.nil_append text, hsplit]
          simp only [List.append_assoc, List.cons_append]
        · rw [endsWord_append, endsWord_cons, hapart, hends]

theorem startsWord_takeWhile : startsWord (text.takeWhile class_) false = startsWord text false := by
  cases text with
  | nil => rfl
  | cons code text =>
    rw [List.takeWhile_cons]
    split
    · rfl
    · next hcode => exact (hword code (Bool.eq_false_iff.mpr hcode)).symm

/-- An expression of code units of the class occurs within the runs of the class only, and in each
run it occurs as in the whole text. -/
theorem occurs_iff_runs (hwithin : regex.Within class_) (hleast : least ≤ regex.least) :
    regex.Occurs text ↔ ∃ run ∈ runs class_ least text, regex.Occurs run := by
  constructor
  · rintro ⟨left, word, right, rfl, hmatches⟩
    obtain ⟨dropped, kept, hsplit, hends, hruns⟩ :=
      runsFrom_append_left hword least [] left (word ++ right)
    have hlength : least ≤ (kept ++ word).length := by
      have hshortest := hmatches.least_le
      rw [List.length_append]
      omega
    have hmem : kept ++ word ++ right.takeWhile class_ ∈ runsFrom class_ least kept (word ++ right) := by
      rw [runsFrom_append_of_class (hwithin.forall_mem hmatches)]
      exact mem_runsFrom_takeWhile hlength
    refine ⟨kept ++ word ++ right.takeWhile class_, ?_, kept, word, right.takeWhile class_, rfl, ?_⟩
    · rw [runs, List.append_assoc]
      exact hruns _ hmem
    · rw [List.nil_append] at hsplit
      rwa [hsplit, endsWord_append, hends, ← startsWord_takeWhile hword] at hmatches
  · rintro ⟨run, hrun, left, word, right, rfl, hmatches⟩
    obtain ⟨before, after, hsplit, hends, hstarts⟩ := mem_runsFrom_split hword hrun
    rw [List.nil_append] at hsplit
    refine ⟨before ++ left, word, right ++ after, ?_, ?_⟩
    · rw [hsplit]
      simp only [List.append_assoc]
    · rwa [endsWord_append, hends, startsWord_append, hstarts]

end runs

end Regex
