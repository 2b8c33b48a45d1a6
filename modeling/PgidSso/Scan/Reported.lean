import Mathlib.Data.List.Nodup
import PgidSso.Scan.Decode

/-! When a token is reported for a file, by the bytes of the file. -/

namespace pgid.scan

open Regex

section rules

/-- What ASCII prints. -/
def isVisible (code : UInt16) : Bool :=
  0x20 ≤ code ∧ code ≤ 0x7E

theorem isVisible_of_range {low high code : UInt16} (hlow : 0x20 ≤ low) (hhigh : high ≤ 0x7E)
    (hcode : low ≤ code ∧ code ≤ high) : isVisible code = true :=
  decide_eq_true ⟨UInt16.le_trans hlow hcode.1, UInt16.le_trans hcode.2 hhigh⟩

theorem isVisible_of_isDigit {code : UInt16} (hcode : Text.isDigit code = true) : isVisible code = true :=
  isVisible_of_range (by decide) (by decide) (of_decide_eq_true hcode)

theorem isVisible_of_isUpper {code : UInt16} (hcode : isUpper code = true) : isVisible code = true :=
  isVisible_of_range (by decide) (by decide) (of_decide_eq_true hcode)

theorem isVisible_of_isAlphanumeric {code : UInt16} (hcode : isAlphanumeric code = true) : isVisible code = true := by
  simp only [isAlphanumeric, Bool.or_eq_true] at hcode
  obtain (hupper | hlower) | hdigit := hcode
  · exact isVisible_of_isUpper hupper
  · exact isVisible_of_range (by decide) (by decide) (of_decide_eq_true hlower)
  · exact isVisible_of_isDigit hdigit

theorem isVisible_of_isWord {code : UInt16} (hcode : isWord code = true) : isVisible code = true := by
  obtain hdigit | hupper | hlower | rfl := of_decide_eq_true hcode
  · exact isVisible_of_range (by decide) (by decide) hdigit
  · exact isVisible_of_range (by decide) (by decide) hupper
  · exact isVisible_of_range (by decide) (by decide) hlower
  · decide

theorem isWord_eq_false_of_not_visible {code : UInt16} (hcode : isVisible code = false) : isWord code = false := by
  rw [Bool.eq_false_iff] at hcode ⊢
  exact fun hword => hcode (isVisible_of_isWord hword)

theorem isVisible_of_isCapitalOrDigit {code : UInt16} (hcode : isCapitalOrDigit code = true) :
    isVisible code = true := by
  rw [isCapitalOrDigit, Bool.or_eq_true] at hcode
  cases hcode with
  | inl hupper => exact isVisible_of_isUpper hupper
  | inr hdigit => exact isVisible_of_isDigit hdigit

theorem isVisible_of_isWordOrHyphen {code : UInt16} (hcode : isWordOrHyphen code = true) : isVisible code = true := by
  rw [isWordOrHyphen, Bool.or_eq_true] at hcode
  cases hcode with
  | inl hword => exact isVisible_of_isWord hword
  | inr hhyphen =>
    rw [of_decide_eq_true hhyphen]
    decide

set_option maxRecDepth 20000 in
/-- A token is made of characters that ASCII prints. -/
theorem tokenRules_within : ∀ rule ∈ tokenRules, rule.pattern.Within isVisible := by
  intro rule hrule
  simp only [tokenRules, List.mem_cons, List.not_mem_nil, or_false] at hrule
  have hnil : ∀ part ∈ ([] : List Regex), part.Within isVisible := List.forall_mem_nil _
  obtain rfl | rfl | rfl | rfl | rfl | rfl := hrule <;> refine within_inOrder ?_ <;>
    simp only [List.forall_mem_cons]
  · exact ⟨trivial, ⟨within_literal (by decide), within_literal (by decide)⟩,
      within_times fun code => isVisible_of_isCapitalOrDigit, trivial, hnil⟩
  · exact ⟨trivial, ⟨within_literal (by decide), within_literal (by decide)⟩,
      ⟨within_times fun code => isVisible_of_isWord, fun code => isVisible_of_isWord⟩, trivial, hnil⟩
  · exact ⟨trivial, within_literal (by decide),
      ⟨within_times fun code => isVisible_of_isWordOrHyphen, fun code => isVisible_of_isWordOrHyphen⟩, trivial, hnil⟩
  · have hletter : ∀ code, decide (code ∈ Text.of "baprs") = true → isVisible code = true := by
      intro code hcode
      have hall : (Text.of "baprs").all isVisible = true := by decide
      exact List.all_eq_true.mp hall code (of_decide_eq_true hcode)
    have hrest : ∀ code, (isAlphanumeric code || code = Text.unit '-') = true → isVisible code = true := by
      intro code hcode
      rw [Bool.or_eq_true] at hcode
      cases hcode with
      | inl halphanumeric => exact isVisible_of_isAlphanumeric halphanumeric
      | inr hhyphen =>
        rw [of_decide_eq_true hhyphen]
        decide
    exact ⟨trivial, within_literal (by decide), hletter, within_literal (by decide),
      ⟨within_times hrest, hrest⟩, trivial, hnil⟩
  · exact ⟨trivial,
      ⟨within_times fun code => isVisible_of_isDigit, within_atMost fun code => isVisible_of_isDigit⟩,
      within_literal (by decide), within_times fun code => isVisible_of_isWordOrHyphen, trivial, hnil⟩
  · have hlabel : ∀ code, (isCapitalOrDigit code || code = Text.unit ' ') = true → isVisible code = true := by
      intro code hcode
      rw [Bool.or_eq_true] at hcode
      cases hcode with
      | inl hcapital => exact isVisible_of_isCapitalOrDigit hcapital
      | inr hspace =>
        rw [of_decide_eq_true hspace]
        decide
    exact ⟨within_literal (by decide), hlabel, within_literal (by decide), hnil⟩

/-- No token is shorter than the runs of printable characters that are read. -/
theorem tokenRules_least : ∀ rule ∈ tokenRules, 4 ≤ rule.pattern.least := by
  decide +kernel

theorem tokenRules_names : (tokenRules.map TokenRule.name).Nodup := by
  set_option maxRecDepth 20000 in decide

end rules

section representations

variable {values : List Representation} {value : Representation} {text : Text} {bytes : List UInt8} {rule : TokenRule}
  {assignsSecret : Text → Bool}

theorem exists_mem_add_iff (hne : text ≠ []) : (∃ other ∈ add values value, other.text = text) ↔
    (∃ other ∈ values, other.text = text) ∨ Text.stripMark value.text = text := by
  rw [add]
  split
  · next hold =>
    constructor
    · exact .inl
    · rintro (hother | rfl)
      · exact hother
      · exact hold.resolve_left hne
  · constructor
    · rintro ⟨other, hother, rfl⟩
      cases List.mem_append.mp hother with
      | inl hbefore => exact .inl ⟨other, hbefore, rfl⟩
      | inr hnew =>
        rw [List.mem_singleton.mp hnew]
        exact .inr rfl
    · rintro (⟨other, hother, rfl⟩ | rfl)
      · exact ⟨other, List.mem_append_left _ hother, rfl⟩
      · exact ⟨_, List.mem_append_right _ (List.mem_singleton_self _), rfl⟩

theorem exists_mem_foldl_add_iff {start : List Representation} (hne : text ≠ []) :
    (∃ other ∈ values.foldl add start, other.text = text) ↔
      (∃ other ∈ start, other.text = text) ∨ ∃ value ∈ values, Text.stripMark value.text = text := by
  induction values generalizing start with
  | nil => simp only [List.foldl_nil, List.not_mem_nil, false_and, exists_false, or_false]
  | cons value values ih =>
    simp only [List.foldl_cons, ih, exists_mem_add_iff hne, List.mem_cons, exists_eq_or_imp, or_assoc]

theorem occurs_ne_nil (hrule : rule ∈ tokenRules) (hoccurs : rule.pattern.Occurs text) : text ≠ [] := by
  rintro rfl
  obtain ⟨left, word, right, hsplit, hmatches⟩ := hoccurs
  have hleast := Nat.le_trans (tokenRules_least rule hrule) hmatches.least_le
  have hlength := congrArg List.length hsplit
  simp only [List.length_nil, List.length_append] at hlength
  omega

/-- A token occurs in texts with the same runs of visible characters alike. -/
theorem occurs_congr (hrule : rule ∈ tokenRules) {other : Text}
    (hsame : Text.runs isVisible 4 text = Text.runs isVisible 4 other) :
    rule.pattern.Occurs text ↔ rule.pattern.Occurs other := by
  have hruns : ∀ text, rule.pattern.Occurs text ↔ ∃ run ∈ Text.runs isVisible 4 text, rule.pattern.Occurs run :=
    fun text => occurs_iff_runs (fun code => isWord_eq_false_of_not_visible) (tokenRules_within rule hrule)
      (tokenRules_least rule hrule)
  rw [hruns text, hruns other, hsame]

/-- A byte order mark is part of no token. -/
theorem occurs_stripMark (hrule : rule ∈ tokenRules) :
    rule.pattern.Occurs (Text.stripMark text) ↔ rule.pattern.Occurs text := by
  cases text with
  | nil => rfl
  | cons code rest =>
    rw [Text.stripMark]
    split
    · next hmark =>
      apply occurs_congr hrule
      have hgap : Text.runs isVisible 4 ([code] ++ rest) = Text.runs isVisible 4 rest :=
        Text.runsFrom_append_gap (by decide) (List.cons_ne_nil _ _) (List.forall_mem_singleton.mpr (hmark ▸ by decide))
      exact hgap.symm
    · rfl

theorem tokenRule_eq_of_name {other : TokenRule} (hrule : rule ∈ tokenRules) (hother : other ∈ tokenRules)
    (hname : other.name = rule.name) : other = rule :=
  List.inj_on_of_nodup_map tokenRules_names hother hrule hname

theorem mem_tokenFindings_iff (hrule : rule ∈ tokenRules) :
    rule.name ∈ tokenFindings values ↔ ∃ value ∈ values, rule.pattern.test value.text = true := by
  simp only [tokenFindings, List.mem_flatMap, List.mem_map, List.mem_filter]
  constructor
  · rintro ⟨value, hvalue, other, ⟨hother, htest⟩, hname⟩
    rw [tokenRule_eq_of_name hrule hother hname] at htest
    exact ⟨value, hvalue, htest⟩
  · rintro ⟨value, hvalue, htest⟩
    exact ⟨value, hvalue, rule, ⟨hrule, htest⟩, rfl⟩

set_option maxRecDepth 20000 in
/-- A token is reported if it occurs in one of the readings. -/
theorem mem_scanBufferForSecrets_iff (hrule : rule ∈ tokenRules) :
    rule.name ∈ scanBufferForSecrets assignsSecret bytes ↔
      ∃ reading ∈ readings (bytes.take DEFAULT_MAX_SCAN_BYTES), rule.pattern.Occurs reading.text := by
  have hrepresentations : (∃ value ∈ decodedRepresentations bytes, rule.pattern.test value.text = true) ↔
      ∃ reading ∈ readings (bytes.take DEFAULT_MAX_SCAN_BYTES), rule.pattern.Occurs reading.text := by
    constructor
    · rintro ⟨value, hvalue, htest⟩
      have hoccurs := test_iff.mp htest
      obtain hnone | ⟨reading, hreading, hsame⟩ :=
        (exists_mem_foldl_add_iff (occurs_ne_nil hrule hoccurs)).mp ⟨value, hvalue, rfl⟩
      · obtain ⟨other, hother, -⟩ := hnone
        exact absurd hother List.not_mem_nil
      · exact ⟨reading, hreading, (occurs_stripMark hrule).mp (hsame ▸ hoccurs)⟩
    · rintro ⟨reading, hreading, hoccurs⟩
      have hstripped := (occurs_stripMark hrule).mpr hoccurs
      obtain ⟨value, hvalue, hsame⟩ : ∃ value ∈ decodedRepresentations bytes, value.text = Text.stripMark reading.text :=
        (exists_mem_foldl_add_iff (occurs_ne_nil hrule hstripped)).mpr (.inr ⟨reading, hreading, rfl⟩)
      exact ⟨value, hvalue, test_iff.mpr (hsame ▸ hstripped)⟩
  have hother : rule.name ≠ Text.of "assigned-secret" := by
    have hall : ∀ rule ∈ tokenRules, rule.name ≠ Text.of "assigned-secret" := by decide
    exact hall rule hrule
  rw [← hrepresentations, ← mem_tokenFindings_iff hrule, scanBufferForSecrets]
  split
  · next hempty =>
    have hnone : decodedRepresentations [] = [] := rfl
    rw [hempty, hnone]
    exact Iff.rfl
  · rw [Text.sorted, List.mem_mergeSort, List.mem_eraseDups, List.mem_append]
    constructor
    · rintro (htoken | hassigned)
      · exact htoken
      · split at hassigned
        · exact absurd (List.mem_singleton.mp hassigned) hother
        · cases hassigned
    · exact .inl

end representations

variable {bytes : List UInt8} {rule : TokenRule} {assignsSecret : Text → Bool}

theorem toNat_lt_of_isVisible {code : UInt16} (hcode : isVisible code = true) : code.toNat < 0x80 := by
  have hhigh := (of_decide_eq_true hcode).2
  rw [UInt16.le_iff_toNat_le] at hhigh
  exact Nat.lt_of_le_of_lt hhigh (by decide)

section readings

/-- Read as UTF-8, bytes have the tokens that they have byte by byte. -/
theorem occurs_decodeLossy (hrule : rule ∈ tokenRules) :
    rule.pattern.Occurs (Text.decodeLossy bytes) ↔ rule.pattern.Occurs (Text.latin1 bytes) :=
  occurs_congr hrule (Text.runs_decodeLossy (by decide) (fun code => toNat_lt_of_isVisible) bytes)

theorem isPrintable_of_isVisible {code : UInt16} (hcode : isVisible code = true) : isPrintable code.toNat = true := by
  obtain ⟨hlow, hhigh⟩ := of_decide_eq_true hcode
  rw [UInt16.le_iff_toNat_le] at hlow hhigh
  have hrange : 32 ≤ code.toNat ∧ code.toNat ≤ 126 := ⟨hlow, hhigh⟩
  simp only [isPrintable, Bool.or_eq_true, Bool.and_eq_true, decide_eq_true_eq]
  exact .inr hrange

/-- So do their printable runs. -/
theorem occurs_printableRuns (hrule : rule ∈ tokenRules) :
    rule.pattern.Occurs (printableRuns bytes) ↔ rule.pattern.Occurs (Text.latin1 bytes) := by
  have hword : ∀ code, isVisible code = false → isWord code = false := fun code => isWord_eq_false_of_not_visible
  have hprintable : ∀ code : UInt16, isPrintable code.toNat = false → isWord code = false := by
    intro code hcode
    apply hword
    rw [Bool.eq_false_iff] at hcode ⊢
    exact fun hvisible => hcode (isPrintable_of_isVisible hvisible)
  have hwithin := tokenRules_within rule hrule
  have hleast := tokenRules_least rule hrule
  have hlines : Text.runs isVisible 4 (printableRuns bytes) =
      (Text.runs (fun code => isPrintable code.toNat) 4 (Text.latin1 bytes)).flatMap (Text.runs isVisible 4) :=
    Text.runs_joinLines (by decide) (by decide)
  have hwider : rule.pattern.Within fun code => isPrintable code.toNat :=
    hwithin.mono fun code => isPrintable_of_isVisible
  rw [occurs_iff_runs hword hwithin hleast, hlines, occurs_iff_runs hprintable hwider hleast]
  constructor
  · rintro ⟨run, hrun, hoccurs⟩
    obtain ⟨line, hline, hrun⟩ := List.mem_flatMap.mp hrun
    exact ⟨line, hline, (occurs_iff_runs hword hwithin hleast).mpr ⟨run, hrun, hoccurs⟩⟩
  · rintro ⟨line, hline, hoccurs⟩
    obtain ⟨run, hrun, hoccurs⟩ := (occurs_iff_runs hword hwithin hleast).mp hoccurs
    exact ⟨run, List.mem_flatMap.mpr ⟨line, hline, hrun⟩, hoccurs⟩

theorem exists_mem_readings_iff {P : Text → Prop} : (∃ reading ∈ readings bytes, P reading.text) ↔
    P (Text.decodeLossy bytes) ∨ P (printableRuns bytes) ∨ P (nulCollapsed bytes) ∨
      ∃ order offset, offset < 2 ∧ 4 ≤ bytes.length - offset ∧
        isLikelyDecodedText (Text.decodeUtf16 order (bytes.drop offset)) = true ∧
        P (Text.decodeUtf16 order (bytes.drop offset)) := by
  have hread : ∀ order offset reading, utf16Reading bytes order offset = some reading ↔
      4 ≤ bytes.length - offset ∧ isLikelyDecodedText (Text.decodeUtf16 order (bytes.drop offset)) = true ∧
        reading = ⟨.utf16 order offset, true, Text.decodeUtf16 order (bytes.drop offset)⟩ := by
    intro order offset reading
    rw [utf16Reading]
    split
    · next hshort =>
      refine iff_of_false (fun hnone => by cases hnone) fun hsome => ?_
      exact absurd hsome.1 (Nat.not_le.mpr hshort)
    · next hlong =>
      rw [Nat.not_lt] at hlong
      dsimp only
      split
      · next hlikely =>
        rw [Option.some.injEq, eq_comm]
        exact ⟨fun hsame => ⟨hlong, hlikely, hsame⟩, fun hsome => hsome.2.2⟩
      · next hunlikely => exact iff_of_false (fun hnone => by cases hnone) fun hsome => hunlikely hsome.2.1
  constructor
  · rintro ⟨reading, hreading, hholds⟩
    rw [readings, List.cons_append, List.mem_cons, List.mem_append] at hreading
    obtain rfl | hutf16 | hbytes := hreading
    · exact .inl hholds
    · obtain ⟨order, -, hreading⟩ := List.mem_flatMap.mp hutf16
      obtain ⟨offset, hoffset, hsome⟩ := List.mem_filterMap.mp hreading
      obtain ⟨hlong, hlikely, rfl⟩ := (hread order offset reading).mp hsome
      have hless : offset < 2 := by
        simp only [List.mem_cons, List.not_mem_nil, or_false] at hoffset
        omega
      exact .inr (.inr (.inr ⟨order, offset, hless, hlong, hlikely, hholds⟩))
    · simp only [List.mem_cons, List.not_mem_nil, or_false] at hbytes
      obtain rfl | rfl := hbytes
      · exact .inr (.inl hholds)
      · exact .inr (.inr (.inl hholds))
  · rw [readings, List.cons_append]
    rintro (hutf8 | hruns | hcollapsed | ⟨order, offset, hless, hlong, hlikely, hholds⟩)
    · exact ⟨_, List.mem_cons_self, hutf8⟩
    · exact ⟨_, List.mem_cons_of_mem _ (List.mem_append_right _ List.mem_cons_self), hruns⟩
    · refine ⟨_, List.mem_cons_of_mem _ (List.mem_append_right _ (List.mem_cons_of_mem _ List.mem_cons_self)), hcollapsed⟩
    · have horder : order ∈ [ByteOrder.little, ByteOrder.big] := by
        cases order <;> decide
      have hoffset : offset ∈ [0, 1] := by
        simp only [List.mem_cons, List.not_mem_nil, or_false]
        omega
      have hmem := List.mem_filterMap.mpr ⟨offset, hoffset, (hread order offset _).mpr ⟨hlong, hlikely, rfl⟩⟩
      exact ⟨_, List.mem_cons_of_mem _ (List.mem_append_left _ (List.mem_flatMap.mpr ⟨order, horder, hmem⟩)), hholds⟩

/-- A token is reported if the bytes have it, one by one or without the zeros between them, or if they are
likely text in UTF-16 that has it. -/
theorem reported_iff (hrule : rule ∈ tokenRules) (hlength : bytes.length ≤ DEFAULT_MAX_SCAN_BYTES) :
    rule.name ∈ scanBufferForSecrets assignsSecret bytes ↔
      rule.pattern.Occurs (Text.latin1 bytes) ∨ rule.pattern.Occurs (nulCollapsed bytes) ∨
      ∃ order offset, offset < 2 ∧ 4 ≤ bytes.length - offset ∧
        isLikelyDecodedText (Text.decodeUtf16 order (bytes.drop offset)) = true ∧
        rule.pattern.Occurs (Text.decodeUtf16 order (bytes.drop offset)) := by
  rw [mem_scanBufferForSecrets_iff hrule, List.take_of_length_le hlength, exists_mem_readings_iff,
    occurs_decodeLossy hrule, occurs_printableRuns hrule, or_self_left]

end readings

end pgid.scan
