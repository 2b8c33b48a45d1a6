import PgidSso.Scan.Static

namespace pgid.scan

section constant

variable (numbers : Numbers)

mutual

/-- The value of an expression of literals, `+`, parentheses, casts and substitutions; a `+` with
one operand makes a number of it. -/
def constantValue : Expression → Option (Primitive numbers)
  | .stringLiteral text => some (.string text)
  | .noSubstitutionTemplateLiteral text => some (.string text)
  | .numericLiteral text => some (.number (numbers.ofText text))
  | .trueKeyword => some (.boolean true)
  | .falseKeyword => some (.boolean false)
  | .nullKeyword => some .null
  | .parenthesizedExpression expression => constantValue expression
  | .asExpression expression => constantValue expression
  | .satisfiesExpression expression => constantValue expression
  | .nonNullExpression expression => constantValue expression
  | .typeAssertionExpression expression => constantValue expression
  | .prefixUnaryExpression operator operand =>
    if operator = .plus then (constantValue operand).map fun value => .number value.toNumber else none
  | .binaryExpression isPlus left right =>
    if isPlus then
      match constantValue left, constantValue right with
      | some left, some right => some (left.plus right)
      | _, _ => none
    else none
  | .templateExpression head spans => (constantSpans spans).map fun rest => .string (head ++ rest)
  | .other => none

/-- The text that the spans of a template add to its head. -/
def constantSpans : TemplateSpans → Option Text
  | .none => some []
  | .span expression literal rest =>
    match constantValue expression, constantSpans rest with
    | some value, some rest => some (value.text ++ (literal ++ rest))
    | _, _ => none

end

mutual

/-- The expression without the `+` signs of one operand: parentheses are in their place. -/
def unsigned : Expression → Expression
  | .stringLiteral text => .stringLiteral text
  | .noSubstitutionTemplateLiteral text => .noSubstitutionTemplateLiteral text
  | .numericLiteral text => .numericLiteral text
  | .trueKeyword => .trueKeyword
  | .falseKeyword => .falseKeyword
  | .nullKeyword => .nullKeyword
  | .parenthesizedExpression expression => .parenthesizedExpression (unsigned expression)
  | .asExpression expression => .asExpression (unsigned expression)
  | .satisfiesExpression expression => .satisfiesExpression (unsigned expression)
  | .nonNullExpression expression => .nonNullExpression (unsigned expression)
  | .typeAssertionExpression expression => .typeAssertionExpression (unsigned expression)
  | .prefixUnaryExpression operator operand =>
    if operator = .plus then .parenthesizedExpression (unsigned operand)
    else .prefixUnaryExpression operator operand
  | .binaryExpression isPlus left right => .binaryExpression isPlus (unsigned left) (unsigned right)
  | .templateExpression head spans => .templateExpression head (unsignedSpans spans)
  | .other => .other

def unsignedSpans : TemplateSpans → TemplateSpans
  | .none => .none
  | .span expression literal rest => .span (unsigned expression) literal (unsignedSpans rest)

end

mutual

/-- The literals that a text is put together from. -/
def segmentCount : Expression → Nat
  | .parenthesizedExpression expression => segmentCount expression
  | .asExpression expression => segmentCount expression
  | .satisfiesExpression expression => segmentCount expression
  | .nonNullExpression expression => segmentCount expression
  | .typeAssertionExpression expression => segmentCount expression
  | .binaryExpression _ left right => segmentCount left + segmentCount right
  | .templateExpression _ spans => 1 + spanCount spans
  | _ => 1

def spanCount : TemplateSpans → Nat
  | .none => 0
  | .span expression _ rest => segmentCount expression + 1 + spanCount rest

end

/-- A sum that is evaluated: one side is a string, or both are numbers. -/
def isEvaluatedSum : Option (Primitive numbers) → Option (Primitive numbers) → Bool
  | some left, some right => (left.isString || right.isString) || (left.isNumber && right.isNumber)
  | _, _ => false

/-- The text of a sum exceeds a bound. -/
def isLargeSum (segments : Nat) : Option (Primitive numbers) → Option (Primitive numbers) → Bool
  | some left, some right =>
    (left.isString || right.isString) && isTooLarge (left.text ++ right.text) segments
  | _, _ => false

mutual

/-- An expression has a part that is not looked into: one nested too deeply, a number that is
not finite, or a sum of two values that are neither a string and another nor two numbers. -/
def isBlind (node : Expression) (depth : Nat) : Bool :=
  MAX_STATIC_EVALUATION_DEPTH < depth ||
    match node with
    | .numericLiteral text => !numbers.isFinite (numbers.ofText text)
    | .parenthesizedExpression expression => isBlind expression (depth + 1)
    | .asExpression expression => isBlind expression (depth + 1)
    | .satisfiesExpression expression => isBlind expression (depth + 1)
    | .nonNullExpression expression => isBlind expression (depth + 1)
    | .typeAssertionExpression expression => isBlind expression (depth + 1)
    | .binaryExpression _ left right =>
      isBlind left (depth + 1) || isBlind right (depth + 1) ||
        !isEvaluatedSum numbers (constantValue numbers left) (constantValue numbers right)
    | .templateExpression _ spans => isBlindSpans spans (depth + 1)
    | .stringLiteral _ => false
    | .noSubstitutionTemplateLiteral _ => false
    | .trueKeyword => false
    | .falseKeyword => false
    | .nullKeyword => false
    | .prefixUnaryExpression _ _ => false
    | .other => false

def isBlindSpans : TemplateSpans → Nat → Bool
  | .none, _ => false
  | .span expression _ rest, depth => isBlind expression depth || isBlindSpans rest depth

end

mutual

/-- A part that is looked into exceeds the bounds: a literal, a sum, or a template up to the
first substitution that is blind. -/
def isLarge (node : Expression) (depth : Nat) : Bool :=
  decide (depth ≤ MAX_STATIC_EVALUATION_DEPTH) &&
    match node with
    | .stringLiteral text => isTooLarge text 1
    | .noSubstitutionTemplateLiteral text => isTooLarge text 1
    | .parenthesizedExpression expression => isLarge expression (depth + 1)
    | .asExpression expression => isLarge expression (depth + 1)
    | .satisfiesExpression expression => isLarge expression (depth + 1)
    | .nonNullExpression expression => isLarge expression (depth + 1)
    | .typeAssertionExpression expression => isLarge expression (depth + 1)
    | .binaryExpression _ left right =>
      isLarge left (depth + 1) || isLarge right (depth + 1) ||
        (!isBlind numbers left (depth + 1) && !isBlind numbers right (depth + 1) &&
          isLargeSum numbers (segmentCount left + segmentCount right) (constantValue numbers left)
            (constantValue numbers right))
    | .templateExpression head spans => isLargeTemplate spans (depth + 1) head 1
    | .numericLiteral _ => false
    | .trueKeyword => false
    | .falseKeyword => false
    | .nullKeyword => false
    | .prefixUnaryExpression _ _ => false
    | .other => false

/-- The same of the spans of a template, after the text and the segments before them. -/
def isLargeTemplate : TemplateSpans → Nat → Text → Nat → Bool
  | .none, _, value, segments => isTooLarge value segments
  | .span expression literal rest, depth, value, segments =>
    isLarge expression depth ||
      (!isBlind numbers expression depth &&
        match constantValue numbers expression with
        | none => false
        | some inner =>
          isTooLarge (value ++ (inner.text ++ literal)) (segments + (segmentCount expression + 1)) ||
            isLargeTemplate rest depth (value ++ (inner.text ++ literal))
              (segments + (segmentCount expression + 1)))

end

end constant

section evaluation

variable {numbers : Numbers}

/-- What static evaluation makes of a constant expression, from what it can see of it. -/
def sight (isLarge isBlind : Bool) (value : Primitive numbers) (segments : Nat) : Evaluation numbers :=
  if isLarge then .overflow else if isBlind then .dynamic else .static value segments

theorem sight_of_blind {value : Primitive numbers} {segments : Nat} :
    sight false true value segments = .dynamic := rfl

theorem sight_of_visible {value : Primitive numbers} {segments : Nat} :
    sight false false value segments = .static value segments := rfl

/-- A sum is evaluated as far as its sides are. -/
theorem plusEvaluation_sight {leftLarge leftBlind rightLarge rightBlind : Bool} {left right : Primitive numbers}
    {leftSegments rightSegments : Nat} :
    plusEvaluation (sight leftLarge leftBlind left leftSegments) (sight rightLarge rightBlind right rightSegments) =
      sight (leftLarge || rightLarge || (!leftBlind && !rightBlind &&
          isLargeSum numbers (leftSegments + rightSegments) (some left) (some right)))
        (leftBlind || rightBlind || !isEvaluatedSum numbers (some left) (some right)) (left.plus right)
        (leftSegments + rightSegments) := by
  cases leftLarge with
  | true => cases rightLarge <;> rfl
  | false =>
    cases rightLarge with
    | true => cases leftBlind <;> rfl
    | false =>
      cases leftBlind with
      | true => cases rightBlind <;> rfl
      | false =>
        cases rightBlind with
        | true => rfl
        | false => cases left <;> cases right <;> rfl

theorem isBlind_of_deep {node : Expression} {depth : Nat} (hdepth : MAX_STATIC_EVALUATION_DEPTH < depth) :
    isBlind numbers node depth = true := by
  rw [isBlind.eq_def, decide_eq_true hdepth, Bool.true_or]

theorem isLarge_of_deep {node : Expression} {depth : Nat} (hdepth : MAX_STATIC_EVALUATION_DEPTH < depth) :
    isLarge numbers node depth = false := by
  rw [isLarge.eq_def, decide_eq_false (Nat.not_le.mpr hdepth), Bool.false_and]

/-- Nothing is seen of an expression that is nested too deeply. -/
theorem staticPrimitive_of_deep {node : Expression} {depth : Nat} (hdepth : MAX_STATIC_EVALUATION_DEPTH < depth)
    (value : Primitive numbers) (segments : Nat) :
    staticPrimitive numbers node depth =
      sight (isLarge numbers (unsigned node) depth) (isBlind numbers (unsigned node) depth) value segments := by
  rw [isBlind_of_deep hdepth, isLarge_of_deep hdepth, staticPrimitive.eq_def, if_pos hdepth]
  rfl

section shallow

variable {depth : Nat} {rest : Bool}

theorem or_of_shallow (hdepth : ¬ MAX_STATIC_EVALUATION_DEPTH < depth) :
    (decide (MAX_STATIC_EVALUATION_DEPTH < depth) || rest) = rest := by
  rw [decide_eq_false hdepth, Bool.false_or]

theorem and_of_shallow (hdepth : ¬ MAX_STATIC_EVALUATION_DEPTH < depth) :
    (decide (depth ≤ MAX_STATIC_EVALUATION_DEPTH) && rest) = rest := by
  rw [decide_eq_true (Nat.not_lt.mp hdepth), Bool.true_and]

end shallow

section signs

/-- Static evaluation takes no notice of a sign. -/
theorem unaryEvaluation_plus (evaluation : Evaluation numbers) : unaryEvaluation .plus evaluation = evaluation := by
  cases evaluation with
  | static value segments => cases value <;> rfl
  | overflow => rfl
  | dynamic => rfl

mutual

/-- What has a value has one without its signs. -/
theorem constantValue_unsigned : ∀ (node : Expression) {value : Primitive numbers},
    constantValue numbers node = some value → ∃ seen, constantValue numbers (unsigned node) = some seen
  | node, value, hvalue => by
    cases node with
    | stringLiteral text => exact ⟨_, rfl⟩
    | noSubstitutionTemplateLiteral text => exact ⟨_, rfl⟩
    | numericLiteral text => exact ⟨_, rfl⟩
    | trueKeyword => exact ⟨_, rfl⟩
    | falseKeyword => exact ⟨_, rfl⟩
    | nullKeyword => exact ⟨_, rfl⟩
    | parenthesizedExpression expression => exact constantValue_unsigned expression hvalue
    | asExpression expression => exact constantValue_unsigned expression hvalue
    | satisfiesExpression expression => exact constantValue_unsigned expression hvalue
    | nonNullExpression expression => exact constantValue_unsigned expression hvalue
    | typeAssertionExpression expression => exact constantValue_unsigned expression hvalue
    | prefixUnaryExpression operator operand =>
      rw [constantValue] at hvalue
      split at hvalue
      · rename_i hplus
        obtain ⟨number, hoperand, -⟩ := Option.map_eq_some_iff.mp hvalue
        rw [unsigned, if_pos hplus, constantValue]
        exact constantValue_unsigned operand hoperand
      · cases hvalue
    | binaryExpression isPlus left right =>
      rw [constantValue] at hvalue
      split at hvalue
      · rename_i hplus
        split at hvalue
        · rename_i leftValue rightValue hleft hright
          obtain ⟨leftSeen, hleftSeen⟩ := constantValue_unsigned left hleft
          obtain ⟨rightSeen, hrightSeen⟩ := constantValue_unsigned right hright
          exact ⟨leftSeen.plus rightSeen, by rw [unsigned, constantValue, if_pos hplus, hleftSeen, hrightSeen]⟩
        · cases hvalue
      · cases hvalue
    | templateExpression head spans =>
      rw [constantValue] at hvalue
      obtain ⟨rest, hrest, -⟩ := Option.map_eq_some_iff.mp hvalue
      obtain ⟨seen, hseen⟩ := constantSpans_unsigned spans hrest
      exact ⟨.string (head ++ seen), by rw [unsigned, constantValue, hseen, Option.map_some]⟩
    | other => cases hvalue

theorem constantSpans_unsigned : ∀ (spans : TemplateSpans) {rest : Text},
    constantSpans numbers spans = some rest → ∃ seen, constantSpans numbers (unsignedSpans spans) = some seen
  | .none, _, _ => ⟨[], rfl⟩
  | .span expression literal spans, _, hrest => by
    rw [constantSpans] at hrest
    split at hrest
    · rename_i value later hvalue hlater
      obtain ⟨inner, hinner⟩ := constantValue_unsigned expression hvalue
      obtain ⟨seen, hseen⟩ := constantSpans_unsigned spans hlater
      exact ⟨inner.text ++ (literal ++ seen), by rw [unsignedSpans, constantSpans, hinner, hseen]⟩
    · cases hrest

end

end signs

mutual

/-- Static evaluation of a constant expression gives the value that it has without its signs,
unless a part is too large or one is blind. -/
theorem staticPrimitive_eq_sight : ∀ (node : Expression) (depth : Nat) {value : Primitive numbers},
    constantValue numbers (unsigned node) = some value →
      staticPrimitive numbers node depth =
        sight (isLarge numbers (unsigned node) depth) (isBlind numbers (unsigned node) depth) value
          (segmentCount (unsigned node))
  | node, depth, value, hvalue => by
    by_cases hdepth : MAX_STATIC_EVALUATION_DEPTH < depth
    · exact staticPrimitive_of_deep hdepth value _
    rw [staticPrimitive.eq_def, if_neg hdepth, isLarge.eq_def, and_of_shallow hdepth, isBlind.eq_def,
      or_of_shallow hdepth]
    cases node with
    | stringLiteral text =>
      cases hvalue
      rfl
    | noSubstitutionTemplateLiteral text =>
      cases hvalue
      rfl
    | numericLiteral text =>
      cases hvalue
      rw [unsigned]
      dsimp only
      cases numbers.isFinite (numbers.ofText text) <;> rfl
    | trueKeyword =>
      cases hvalue
      rfl
    | falseKeyword =>
      cases hvalue
      rfl
    | nullKeyword =>
      cases hvalue
      rfl
    | parenthesizedExpression expression => exact staticPrimitive_eq_sight expression (depth + 1) hvalue
    | asExpression expression => exact staticPrimitive_eq_sight expression (depth + 1) hvalue
    | satisfiesExpression expression => exact staticPrimitive_eq_sight expression (depth + 1) hvalue
    | nonNullExpression expression => exact staticPrimitive_eq_sight expression (depth + 1) hvalue
    | typeAssertionExpression expression => exact staticPrimitive_eq_sight expression (depth + 1) hvalue
    | prefixUnaryExpression operator operand =>
      rw [unsigned] at hvalue ⊢
      by_cases hplus : operator = .plus
      · obtain rfl := hplus
        rw [if_pos rfl] at hvalue ⊢
        dsimp only
        rw [if_neg (by decide), staticPrimitive_eq_sight operand (depth + 1) hvalue, unaryEvaluation_plus, segmentCount]
      · rw [if_neg hplus, constantValue, if_neg hplus] at hvalue
        cases hvalue
    | other => cases hvalue
    | binaryExpression isPlus left right =>
      rw [unsigned, constantValue] at hvalue
      rw [unsigned]
      cases isPlus with
      | false => cases hvalue
      | true =>
        rw [if_pos rfl] at hvalue
        cases hleft : constantValue numbers (unsigned left) with
        | none =>
          rw [hleft] at hvalue
          cases hvalue
        | some leftValue =>
          cases hright : constantValue numbers (unsigned right) with
          | none =>
            rw [hleft, hright] at hvalue
            cases hvalue
          | some rightValue =>
            rw [hleft, hright] at hvalue
            cases hvalue
            dsimp only
            rw [if_neg (by decide), staticPrimitive_eq_sight left (depth + 1) hleft,
              staticPrimitive_eq_sight right (depth + 1) hright, plusEvaluation_sight, segmentCount, hleft, hright]
    | templateExpression head spans =>
      rw [unsigned, constantValue] at hvalue
      obtain ⟨rest, hrest, rfl⟩ := Option.map_eq_some_iff.mp hvalue
      rw [unsigned]
      dsimp only
      rw [staticTemplate_eq_sight spans (depth + 1) head 1 hrest, segmentCount]

/-- The same of the spans of a template. -/
theorem staticTemplate_eq_sight : ∀ (spans : TemplateSpans) (depth : Nat) (value : Text) (segments : Nat)
    {rest : Text}, constantSpans numbers (unsignedSpans spans) = some rest →
      staticTemplate numbers spans depth value segments =
        sight (isLargeTemplate numbers (unsignedSpans spans) depth value segments)
          (isBlindSpans numbers (unsignedSpans spans) depth) (.string (value ++ rest))
          (segments + spanCount (unsignedSpans spans))
  | .none, depth, value, segments, rest, hrest => by
    cases hrest
    rw [staticTemplate, unsignedSpans, isLargeTemplate, isBlindSpans, spanCount, List.append_nil, Nat.add_zero]
    rfl
  | .span expression literal spans, depth, value, segments, rest, hrest => by
    rw [unsignedSpans, constantSpans] at hrest
    cases hexpression : constantValue numbers (unsigned expression) with
    | none =>
      rw [hexpression] at hrest
      cases hrest
    | some inner =>
      cases hspans : constantSpans numbers (unsignedSpans spans) with
      | none =>
        rw [hexpression, hspans] at hrest
        cases hrest
      | some later =>
        rw [hexpression, hspans] at hrest
        cases hrest
        rw [staticTemplate, unsignedSpans, isLargeTemplate, isBlindSpans, spanCount, hexpression,
          staticPrimitive_eq_sight expression depth hexpression]
        cases hlarge : isLarge numbers (unsigned expression) depth with
        | true => rfl
        | false =>
          cases hblind : isBlind numbers (unsigned expression) depth with
          | true => rfl
          | false =>
            rw [sight_of_visible]
            dsimp only
            cases htext : isTooLarge (value ++ (inner.text ++ literal))
                (segments + (segmentCount (unsigned expression) + 1)) with
            | true => rfl
            | false =>
              rw [if_neg (by decide), staticTemplate_eq_sight spans depth _ _ hspans]
              simp only [Bool.not_false, Bool.true_and, Bool.false_or, List.append_assoc, Nat.add_assoc]

end

end evaluation

end pgid.scan
