import PgidSso.Library.Sha256
import PgidSso.Scan.Assignment
import PgidSso.Scan.Visible

namespace pgid.scan

variable {numbers : Numbers} (sha256 : Text → Text)

/-- Static evaluation sees enough of a constant that is a text: without its signs no part of it is
blind and its value is that text as well, or a part that is looked into exceeds the bounds. -/
def IsInSight (numbers : Numbers) (expression : Expression) (value : Text) : Prop :=
  isLarge numbers (unsigned expression) 0 = true ∨
    (isBlind numbers (unsigned expression) 0 = false ∧
      constantValue numbers (unsigned expression) = some (.string value))

/-- Without its signs a constant has no blind part, and it is a text that is long enough and that
was not audited; or a part that is looked into exceeds the bounds. -/
def IsSuspected (numbers : Numbers) (sha256 : Text → Text) (relativePath key : Text) (candidate : Candidate) : Prop :=
  isLarge numbers (unsigned candidate.expression) 0 = true ∨
    (isBlind numbers (unsigned candidate.expression) 0 = false ∧
      ∃ text, constantValue numbers (unsigned candidate.expression) = some (.string text) ∧
        MIN_ASSIGNMENT_VALUE_CHARS ≤ text.length ∧
        isAudited sha256 relativePath (normalizeAssignmentKey key) text candidate.assignmentKind candidate.keyKind
          ((staticValueForm candidate.expression).getD .other) = false)

/-- Static evaluation gives this very text, or reports an overflow. -/
def IsReported (value : Text) (evaluation : Evaluation numbers) : Prop :=
  (∃ segments, evaluation = .static (.string value) segments) ∨ evaluation = .overflow

theorem ne_nil_of_secret {key : Text} (hsecret : isSecretAssignmentKey (normalizeAssignmentKey key) = true) :
    key.isEmpty = false := by
  cases key with
  | nil => exact absurd hsecret (by decide)
  | cons code key => rfl

theorem staticPrimitive_reported_iff {expression : Expression} {value : Text} {constant : Primitive numbers}
    (hconstant : constantValue numbers expression = some constant) :
    IsReported value (staticPrimitive numbers expression 0) ↔ IsInSight numbers expression value := by
  obtain ⟨seen, hseen⟩ := constantValue_unsigned expression hconstant
  rw [IsInSight, IsReported, staticPrimitive_eq_sight expression 0 hseen, hseen]
  cases isLarge numbers (unsigned expression) 0 with
  | true => exact iff_of_true (.inr rfl) (.inl rfl)
  | false =>
    cases isBlind numbers (unsigned expression) 0 with
    | true => simp [sight_of_blind]
    | false => simp [sight_of_visible]

/-- The entry of an assignment whose key is secret. -/
theorem visit_of_secret {node : Node} {candidate : Candidate} {key : Text}
    (hassignment : assignment numbers node = some candidate) (hkey : candidate.key = some key)
    (hsecret : isSecretAssignmentKey (normalizeAssignmentKey key) = true) :
    visit numbers node = some (entry numbers candidate key) := by
  simp only [visit, hassignment, hkey, ne_nil_of_secret hsecret, Bool.false_eq_true, if_false]

/-- What an assignment of a constant adds to the findings. -/
theorem assignmentFindings_iff {relativePath key : Text} {candidate : Candidate} {constant : Primitive numbers}
    (hsecret : isSecretAssignmentKey (normalizeAssignmentKey key) = true)
    (hconstant : constantValue numbers candidate.expression = some constant) :
    .assignedSecret ∈ assignmentFindings sha256 relativePath (entry numbers candidate key) ↔
      IsSuspected numbers sha256 relativePath key candidate := by
  obtain ⟨seen, hseen⟩ := constantValue_unsigned candidate.expression hconstant
  have hevaluation := staticPrimitive_eq_sight candidate.expression 0 hseen
  have hkey : isSecretAssignmentKey (normalizeAssignmentKey (entry numbers candidate key).key) = true := hsecret
  rw [IsSuspected, hseen, assignmentFindings, hkey, if_neg (by decide)]
  simp only [entry, hevaluation]
  cases isLarge numbers (unsigned candidate.expression) 0 with
  | true => exact iff_of_true (List.mem_singleton_self _) (.inl rfl)
  | false =>
    cases isBlind numbers (unsigned candidate.expression) 0 with
    | true => simp [sight_of_blind]
    | false =>
      rw [sight_of_visible]
      cases seen with
      | string text =>
        dsimp only
        split
        · rename_i hshort
          simp [Nat.not_le.mpr hshort]
        · rename_i hlong
          split
          · rename_i haudited
            simp [haudited]
          · rename_i haudited
            simp [Nat.not_lt.mp hlong, haudited]
      | number _ => simp
      | boolean _ => simp
      | null => simp

theorem assignedSecret_mem_scanTypeScript_iff {relativePath : Text} {analysis : Analysis numbers} :
    Finding.assignedSecret ∈ scanTypeScript sha256 relativePath analysis ↔
      ∃ assigned ∈ analysis.assignments, Finding.assignedSecret ∈ assignmentFindings sha256 relativePath assigned := by
  rw [scanTypeScript, List.mem_append, List.mem_flatMap]
  refine or_iff_right ?_
  split
  · simp only [List.mem_singleton, reduceCtorEq, not_false_iff]
  · exact List.not_mem_nil

section node

variable {relativePath : Text} {node : Node} {candidate : Candidate} {key value : Text}

/-- Every file that contains an assignment has the finding exactly when the assignment adds it. -/
theorem scanTypeScript_found_iff {assigned : Assignment numbers} (hvisit : visit numbers node = some assigned) :
    (∀ nodes parseErrors, node ∈ nodes →
      .assignedSecret ∈ scanTypeScript sha256 relativePath
        (analyzeTypeScriptStaticValues numbers nodes parseErrors)) ↔
      .assignedSecret ∈ assignmentFindings sha256 relativePath assigned := by
  constructor
  · intro hfound
    -- A file of this node alone has the finding only through it.
    obtain ⟨only, honly, hmem⟩ :=
      (assignedSecret_mem_scanTypeScript_iff sha256).mp (hfound [node] 0 (List.mem_singleton_self node))
    obtain ⟨visited, hvisited, hentry⟩ := List.mem_filterMap.mp honly
    rw [List.mem_singleton.mp hvisited, hvisit] at hentry
    obtain rfl := Option.some.inj hentry
    exact hmem
  · intro hmem nodes parseErrors hnode
    exact (assignedSecret_mem_scanTypeScript_iff sha256).mpr ⟨assigned, List.mem_filterMap.mpr ⟨node, hnode, hvisit⟩, hmem⟩

/-- An assignment of a constant secret is found, in every file that contains it, with an evaluation
that gives that very text or reports an overflow, exactly when static evaluation sees enough of
the constant; and it is found at all exactly when what is seen of it is suspected. -/
theorem assigned_secret_found_iff (hassignment : assignment numbers node = some candidate)
    (hkey : candidate.key = some key)
    (hsecret : isSecretAssignmentKey (normalizeAssignmentKey key) = true)
    (hvalue : constantValue numbers candidate.expression = some (.string value))
    (hlength : MIN_ASSIGNMENT_VALUE_CHARS ≤ value.length)
    (haudited : isAudited sha256 relativePath (normalizeAssignmentKey key) value candidate.assignmentKind
      candidate.keyKind ((staticValueForm candidate.expression).getD .other) = false) :
    (((∀ nodes parseErrors, node ∈ nodes →
        .assignedSecret ∈ scanTypeScript sha256 relativePath
          (analyzeTypeScriptStaticValues numbers nodes parseErrors)) ∧
        IsReported value (staticPrimitive numbers candidate.expression 0)) ↔
      IsInSight numbers candidate.expression value) ∧
    ((∀ nodes parseErrors, node ∈ nodes →
        .assignedSecret ∈ scanTypeScript sha256 relativePath
          (analyzeTypeScriptStaticValues numbers nodes parseErrors)) ↔
      IsSuspected numbers sha256 relativePath key candidate) := by
  have hfound := (scanTypeScript_found_iff sha256 (visit_of_secret hassignment hkey hsecret)).trans
    (@assignmentFindings_iff numbers sha256 relativePath key candidate _ hsecret hvalue)
  refine ⟨?_, hfound⟩
  rw [hfound, staticPrimitive_reported_iff hvalue]
  refine and_iff_right_of_imp fun hsight => hsight.imp_right fun ⟨hvisible, hsame⟩ => ?_
  exact ⟨hvisible, value, hsame, hlength, haudited⟩

end node

section concrete

/-- The integers, as far as texts of decimal digits need them; the empty text is 0. -/
def integers : Numbers where
  Number := Int
  ofText text := text.foldl (fun value code => 10 * value + (code.toNat - 48 : Nat)) 0
  isFinite _ := true
  neg := Int.neg
  add := Int.add
  text value := (if value < 0 then [Text.unit '-'] else []) ++ Text.decimal value.natAbs
  ofBool value := if value then 1 else 0
  ofNull := 0

/-- `"a" + "b" + …`, a text that is split up into its characters. -/
def splitUp (first : Char) (rest : List Char) : Expression :=
  rest.foldl (fun left code => .binaryExpression true left (.stringLiteral [Text.unit code]))
    (.stringLiteral [Text.unit first])

/-- `const clientSecret = "a" + "b" + …`. -/
def splitUpSecret (first : Char) (rest : List Char) : Node :=
  .declaration .VariableDeclaration none (.identifier (Text.of "clientSecret")) (some (splitUp first rest))

/-- The digest of a text as UTF-8, in hexadecimal digits. -/
def digest (value : Text) : Text :=
  (sha2.sha256 value.encode).toList.flatMap fun byte => Text.padStart 2 (Text.hexadecimal byte.toNat)

def leakPath : Text :=
  Text.of "apps/sso/worker/index.ts"

/-- The declaration of `clientSecret` with this right side. -/
def clientSecret (expression : Expression) : Candidate where
  assignmentKind := .VariableDeclaration
  expression := expression
  key := some (Text.of "clientSecret")
  keyKind := .Identifier

theorem assigned_secret_found_iff_eightParts :
    let expression := splitUp 'a' "bcdefgh".toList
    (((∀ nodes parseErrors, splitUpSecret 'a' "bcdefgh".toList ∈ nodes →
        .assignedSecret ∈ scanTypeScript digest leakPath
          (analyzeTypeScriptStaticValues integers nodes parseErrors)) ∧
        IsReported (Text.of "abcdefgh") (staticPrimitive integers expression 0)) ↔
      IsInSight integers expression (Text.of "abcdefgh")) ∧
    ((∀ nodes parseErrors, splitUpSecret 'a' "bcdefgh".toList ∈ nodes →
        .assignedSecret ∈ scanTypeScript digest leakPath
          (analyzeTypeScriptStaticValues integers nodes parseErrors)) ↔
      IsSuspected integers digest leakPath (Text.of "clientSecret") (clientSecret expression)) :=
  assigned_secret_found_iff digest
    (show assignment integers _ = some (clientSecret (splitUp 'a' "bcdefgh".toList)) from rfl)
    (show _ = some (Text.of "clientSecret") from rfl) (by decide) rfl (by decide) (by decide)

/-- A secret that the scan of a declaration of `clientSecret` misses. -/
structure Escapes (expression : Expression) (value : Text) : Prop where
  constant : constantValue integers expression = some (.string value)
  long : MIN_ASSIGNMENT_VALUE_CHARS ≤ value.length
  unaudited : isAudited digest leakPath (normalizeAssignmentKey (Text.of "clientSecret")) value .VariableDeclaration
    .Identifier ((staticValueForm expression).getD .other) = false
  unreported : ¬ IsReported value (staticPrimitive integers expression 0)
  unfound : scanTypeScript digest leakPath (analyzeTypeScriptStaticValues integers
    [.declaration .VariableDeclaration none (.identifier (Text.of "clientSecret")) (some expression)] 0) = []

/-- A text of 18 characters, each a literal of its own, escapes: the first two are nested more
than 16 levels deep. So does a text whose last character is the number of a sign, which is not
seen. -/
theorem constantSecrets_escape :
    isSecretAssignmentKey (normalizeAssignmentKey (Text.of "clientSecret")) = true ∧
      Escapes (splitUp 'a' "bcdefghijklmnopqr".toList) (Text.of "abcdefghijklmnopqr") ∧
      Escapes (.templateExpression (Text.of "abcdefg")
        (.span (.prefixUnaryExpression .plus (.stringLiteral [])) [] .none)) (Text.of "abcdefg0") := by
  refine ⟨by decide, ⟨rfl, by decide, by decide, ?_, rfl⟩, ⟨rfl, by decide, by decide, ?_, rfl⟩⟩
  · rintro (⟨segments, hstatic⟩ | hoverflow)
    · cases hstatic
    · cases hoverflow
  · rintro (⟨segments, hstatic⟩ | hoverflow)
    · cases hstatic
    · cases hoverflow

end concrete

end pgid.scan
