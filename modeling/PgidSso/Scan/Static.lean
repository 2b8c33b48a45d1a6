import PgidSso.Library.Text

namespace pgid.scan

def MAX_STATIC_VALUE_CHARS : Nat := 4096
def MAX_STATIC_EVALUATION_DEPTH : Nat := 16
def MAX_STATIC_SEGMENTS : Nat := 64

/-- The numbers of ECMAScript, with the conversions that static values need. -/
structure Numbers where
  Number : Type
  /-- `Number(text)`. -/
  ofText : Text → Number
  isFinite : Number → Bool
  neg : Number → Number
  add : Number → Number → Number
  /-- `String(value)`. -/
  text : Number → Text
  /-- What `+` takes a boolean for. -/
  ofBool : Bool → Number
  /-- What `+` takes `null` for. -/
  ofNull : Number

inductive Primitive (numbers : Numbers) where
  | string (value : Text)
  | number (value : numbers.Number)
  | boolean (value : Bool)
  | null

namespace Primitive

variable {numbers : Numbers}

/-- `String(value)`. -/
def text : Primitive numbers → Text
  | .string value => value
  | .number value => numbers.text value
  | .boolean true => Text.of "true"
  | .boolean false => Text.of "false"
  | .null => Text.of "null"

/-- The number that `+` takes a value for when no side is a string. -/
def toNumber : Primitive numbers → numbers.Number
  | .string value => numbers.ofText value
  | .number value => value
  | .boolean value => numbers.ofBool value
  | .null => numbers.ofNull

def isString : Primitive numbers → Bool
  | .string _ => true
  | _ => false

def isNumber : Primitive numbers → Bool
  | .number _ => true
  | _ => false

/-- `left + right`. -/
def plus (left right : Primitive numbers) : Primitive numbers :=
  if left.isString ∨ right.isString then .string (left.text ++ right.text)
  else .number (numbers.add left.toNumber right.toNumber)

end Primitive

inductive UnaryOperator where
  | plus
  | minus
  | other
  deriving DecidableEq

mutual

/-- An expression, as far as static evaluation looks at it. -/
inductive Expression where
  | stringLiteral (text : Text)
  | noSubstitutionTemplateLiteral (text : Text)
  | numericLiteral (text : Text)
  | trueKeyword
  | falseKeyword
  | nullKeyword
  | parenthesizedExpression (expression : Expression)
  | asExpression (expression : Expression)
  | satisfiesExpression (expression : Expression)
  | nonNullExpression (expression : Expression)
  | typeAssertionExpression (expression : Expression)
  | prefixUnaryExpression (operator : UnaryOperator) (operand : Expression)
  | binaryExpression (isPlus : Bool) (left right : Expression)
  | templateExpression (head : Text) (spans : TemplateSpans)
  | other

/-- The substitutions of a template, each with the literal after it. -/
inductive TemplateSpans where
  | none
  | span (expression : Expression) (literal : Text) (rest : TemplateSpans)

end

/-- The `{ status }` records of static evaluation. -/
inductive Evaluation (numbers : Numbers) where
  | static (value : Primitive numbers) (segments : Nat)
  | overflow
  | dynamic

section evaluation

variable {numbers : Numbers}

/-- A text that exceeds one of the two bounds. -/
def isTooLarge (value : Text) (segments : Nat) : Bool :=
  MAX_STATIC_VALUE_CHARS < value.length ∨ MAX_STATIC_SEGMENTS < segments

def boundedString (value : Text) (segments : Nat) : Evaluation numbers :=
  if isTooLarge value segments then .overflow else .static (.string value) segments

/-- The `+` of two evaluations. -/
def plusEvaluation : Evaluation numbers → Evaluation numbers → Evaluation numbers
  | .overflow, _ => .overflow
  | _, .overflow => .overflow
  | .static left leftSegments, .static right rightSegments =>
    if left.isString ∨ right.isString then
      boundedString (left.text ++ right.text) (leftSegments + rightSegments)
    else
      match left, right with
      | .number left, .number right => .static (.number (numbers.add left right)) (leftSegments + rightSegments)
      | _, _ => .dynamic
  | _, _ => .dynamic

def unaryEvaluation (operator : UnaryOperator) : Evaluation numbers → Evaluation numbers
  | .static (.number value) segments =>
    .static (.number (if operator = .minus then numbers.neg value else value)) segments
  | operand => operand

mutual

def staticPrimitive (numbers : Numbers) (node : Expression) (depth : Nat) : Evaluation numbers :=
  if MAX_STATIC_EVALUATION_DEPTH < depth then .dynamic
  else
    match node with
    | .stringLiteral text => boundedString text 1
    | .noSubstitutionTemplateLiteral text => boundedString text 1
    | .numericLiteral text =>
      if numbers.isFinite (numbers.ofText text) then .static (.number (numbers.ofText text)) 1 else .dynamic
    | .trueKeyword => .static (.boolean true) 1
    | .falseKeyword => .static (.boolean false) 1
    | .nullKeyword => .static .null 1
    | .parenthesizedExpression expression => staticPrimitive numbers expression (depth + 1)
    | .asExpression expression => staticPrimitive numbers expression (depth + 1)
    | .satisfiesExpression expression => staticPrimitive numbers expression (depth + 1)
    | .nonNullExpression expression => staticPrimitive numbers expression (depth + 1)
    | .typeAssertionExpression expression => staticPrimitive numbers expression (depth + 1)
    | .prefixUnaryExpression operator operand =>
      if operator = .other then .dynamic
      else unaryEvaluation operator (staticPrimitive numbers operand (depth + 1))
    | .binaryExpression isPlus left right =>
      if isPlus = false then .dynamic
      else
        plusEvaluation (staticPrimitive numbers left (depth + 1)) (staticPrimitive numbers right (depth + 1))
    | .templateExpression head spans => staticTemplate numbers spans (depth + 1) head 1
    | .other => .dynamic

/-- The loop over the spans of a template, with the text and the segments so far. -/
def staticTemplate (numbers : Numbers) : TemplateSpans → Nat → Text → Nat → Evaluation numbers
  | .none, _, value, segments => boundedString value segments
  | .span expression literal rest, depth, value, segments =>
    match staticPrimitive numbers expression depth with
    | .static inner innerSegments =>
      if isTooLarge (value ++ (inner.text ++ literal)) (segments + (innerSegments + 1)) then .overflow
      else staticTemplate numbers rest depth (value ++ (inner.text ++ literal)) (segments + (innerSegments + 1))
    | .overflow => .overflow
    | .dynamic => .dynamic

end

end evaluation

end pgid.scan
