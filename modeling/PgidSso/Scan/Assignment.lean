import PgidSso.Library.Pattern
import PgidSso.Scan.Static

/-! Which assignments of a source file carry a secret. -/

namespace pgid.scan

section key

/-- `[A-Z]` -/
def isUpper (code : UInt16) : Bool :=
  Text.unit 'A' ≤ code ∧ code ≤ Text.unit 'Z'

/-- `[a-z]` -/
def isLower (code : UInt16) : Bool :=
  Text.unit 'a' ≤ code ∧ code ≤ Text.unit 'z'

/-- `[A-Za-z0-9]` -/
def isAlphanumeric (code : UInt16) : Bool :=
  isUpper code || isLower code || Text.isDigit code

/-- `value.replace(/([A-Z]+)([A-Z][a-z])/g, "$1_$2")`: a run of capitals is parted before its
last one where a small letter follows. -/
def partCapitals : Text → Text
  | first :: second :: third :: rest =>
    if isUpper first && isUpper second && isLower third then
      first :: Text.unit '_' :: partCapitals (second :: third :: rest)
    else first :: partCapitals (second :: third :: rest)
  | value => value

/-- `value.replace(/([a-z0-9])([A-Z])/g, "$1_$2")` -/
def partWords : Text → Text
  | first :: second :: rest =>
    if (isLower first || Text.isDigit first) && isUpper second then
      first :: Text.unit '_' :: partWords (second :: rest)
    else first :: partWords (second :: rest)
  | value => value

/-- `value.replace(/[^A-Za-z0-9]+/g, "_")`: the last character of a run becomes the underscore. -/
def joinOthers : Text → Text
  | [] => []
  | first :: rest =>
    if isAlphanumeric first then first :: joinOthers rest
    else if rest.head?.any fun next => !isAlphanumeric next then joinOthers rest
    else Text.unit '_' :: joinOthers rest

/-- `value.replace(/^_+|_+$/g, "")` -/
def trimUnderscores (value : Text) : Text :=
  ((value.dropWhile (Text.exactly '_')).reverse.dropWhile (Text.exactly '_')).reverse

/-- `toUpperCase` of a character that is left of a key. -/
def toUpper (code : UInt16) : UInt16 :=
  if isLower code then code - 32 else code

def normalizeAssignmentKey (value : Text) : Text :=
  (trimUnderscores (joinOthers (partWords (partCapitals value)))).map toUpper

def isSecretAssignmentKey (normalizedKey : Text) : Bool :=
  let tokens := (normalizedKey.splitOn (Text.unit '_')).filter fun token => !token.isEmpty
  let has := fun token => decide (Text.of token ∈ tokens)
  if has "CREDENTIAL" && has "DEVICE" && has "TYPE" then false
  else if ["SECRET", "PASSWORD", "PASSWD", "CREDENTIAL", "CREDENTIALS"].any has || (has "API" && has "KEY") ||
      (has "PRIVATE" && has "KEY") then true
  else if !has "TOKEN" then false
  else if has "ENDPOINT" then false
  else if has "TYPE" && has "HINT" then false
  else true

end key

section allowances

def auditedAssignmentAllowances : List (String × List (String × String)) := [
  ("apps/sso/.dev.vars.example", [
    ("BETTER_AUTH_SECRET", "generate-with-openssl-rand-base64-32"),
    ("GOOGLE_CLIENT_SECRET", "replace-with-google-oauth-client-secret"),
    ("TURNSTILE_SECRET_KEY", "replace-with-turnstile-secret-key")]),
  ("apps/sso/vitest.config.ts", [
    ("BETTER_AUTH_SECRET", "test-only-better-auth-secret-0000000000000000"),
    ("GOOGLE_CLIENT_SECRET", "test-only-google-secret"),
    ("TURNSTILE_SECRET_KEY", "test-only-turnstile-secret"),
    ("TELEGRAM_BOT_TOKEN", "123456:AAvitest-telegram-bot-token")]),
  ("apps/sso/test/registration.spec.ts", [
    ("GITHUB_CLIENT_SECRET", "test-github-client-secret"),
    ("TURNSTILE_TOKEN", "test-route-token"),
    ("TURNSTILE_TOKEN", "not-used"),
    ("ACCESS_TOKEN", "test-google-access-token"),
    ("ACCESS_TOKEN", "test-github-access-token")]),
  ("apps/sso/worker/auth.cli.ts", [
    ("BETTER_AUTH_SECRET", "cli-only-placeholder-secret-at-least-32-characters"),
    ("GOOGLE_CLIENT_SECRET", "cli-placeholder")]),
  ("apps/sso/test/introspection.spec.ts", [
    ("TOKEN", "pg72_at_sensitive-token"),
    ("TOKEN", "pg72_at_unknown")]),
  ("apps/sso/test/sid.spec.ts", [("CLIENT_SECRET_PREFIX", "pg72_cs_")]),
  ("apps/sso/test/telegram.spec.ts", [("BOT_TOKEN", "123456:AAvitest-telegram-bot-token")]),
  ("apps/sso/worker/auth.ts", [
    ("OPAQUE_ACCESS_TOKEN", "pg72_at_"),
    ("REFRESH_TOKEN", "pg72_rt_")]),
  ("apps/sso/worker/config.ts", [("CLIENT_SECRET_PREFIX", "pg72_cs_")]),
  ("apps/test-rp/test/worker.spec.ts", [
    ("ACCESS_TOKEN", "test-access-token"),
    ("TOKEN", "legacy-null-sid-session-token")]),
  ("wiki/developers/register-client.md", [("OIDC_CLIENT_SECRET", "pg72_cs_xxxxxxxx")]),
  ("artifact:worker/index.js", [
    ("INVALID_PASSWORD", "Invalid password"),
    ("INVALID_EMAIL_OR_PASSWORD", "Invalid email or password"),
    ("INVALID_TOKEN", "Invalid token"),
    ("TOKEN_EXPIRED", "Token expired"),
    ("ID_TOKEN_NOT_SUPPORTED", "id_token not supported"),
    ("PASSWORD_TOO_SHORT", "Password too short"),
    ("PASSWORD_TOO_LONG", "Password too long"),
    ("CREDENTIAL_ACCOUNT_NOT_FOUND", "Credential account not found"),
    ("USER_ALREADY_HAS_PASSWORD", "User already has a password. Provide that to delete the account."),
    ("PASSWORD_ALREADY_SET", "User already has a password set"),
    ("PEM_CONVERTER_PRIVATE_KEY_TAG", "PRIVATE KEY"),
    ("PRIVATE_KEY_TAG", "PRIVATE KEY"),
    ("CHALLENGE_PASSWORD_ATTRIBUTE_NAME", "Challenge Password"),
    ("CLIENT_SECRET_PREFIX", "pg72_cs_"),
    ("OPAQUE_ACCESS_TOKEN", "pg72_at_"),
    ("REFRESH_TOKEN", "pg72_rt_")])]

def auditedAssignmentDigestAllowances : List (String × List (String × String)) := [
  ("apps/sso/test/admin-clients.spec.ts", [
    ("CLIENT_SECRET",
      "95713e9cbdd1dfcb2d4080c2537f418d43ca0da25f0d7d6631f4f7c97b89dc47")]),
  ("apps/test-rp/test/worker.spec.ts", [
    ("LOGOUT_TOKEN",
      "ce6f21ae951df0ba38d6ce0e0175465bf5e9882edcf2ba677bca63b296f17ce7")]),
  ("scripts/public-readiness/local-runtime.test.mjs", [
    ("BETTER_AUTH_SECRET",
      "3982642a9285288cf0ae1942766ee5f453b98f619a89c9188a41b329288cd627")]),
  ("apps/sso/test/worker.spec.ts", [
    ("CLIENT_SECRET_POST_MIGRATION",
      "0672e4773de59a6c943466916c939e0bab895a8735668a1d47496439f36e69e3")])]

/-- `allowances.get(relativePath)?.get(normalizedKey)?.has(value)`. -/
def isAllowed (allowances : List (String × List (String × String))) (relativePath normalizedKey value : Text) :
    Bool :=
  allowances.any fun allowance => Text.of allowance.1 = relativePath ∧
    allowance.2.any fun entry => Text.of entry.1 = normalizedKey ∧ Text.of entry.2 = value

/-- The kinds of nodes that an assignment or its key can have. -/
inductive SyntaxKind where
  | Identifier
  | PrivateIdentifier
  | StringLiteral
  | NoSubstitutionTemplateLiteral
  | NumericLiteral
  | ComputedPropertyName
  | PropertyAccessExpression
  | ElementAccessExpression
  | VariableDeclaration
  | PropertyAssignment
  | PropertyDeclaration
  | EnumMember
  | BindingElement
  | BinaryExpression
  | other
  deriving DecidableEq

inductive StaticValueForm where
  | stringLiteral
  | noSubstitutionTemplate
  | templateExpression
  | binaryPlus
  | other
  deriving DecidableEq

variable (sha256 : Text → Text)

def isAuditedFixture (relativePath normalizedKey value : Text) : Bool :=
  (normalizedKey = Text.of "CREDENTIALS" ∧ value ∈ [Text.of "include", Text.of "omit", Text.of "same-origin"]) ∨
    isAllowed auditedAssignmentAllowances relativePath normalizedKey value ∨
    isAllowed auditedAssignmentDigestAllowances relativePath normalizedKey (sha256 value)

/-- `/^artifact:static\/assets\/index-[A-Za-z0-9_-]{8}\.js$/` -/
def reviewedArtifactPattern : List (UInt16 → Bool) :=
  "artifact:static/assets/index-".toList.map Text.exactly ++
    List.replicate 8 (fun code => isAlphanumeric code || Text.exactly '_' code || Text.exactly '-' code) ++
    ".js".toList.map Text.exactly

def reviewedStaticErrorAssignmentAllowed (relativePath normalizedKey value : Text)
    (assignmentKind keyKind : SyntaxKind) (form : StaticValueForm) : Bool :=
  (relativePath = Text.of "apps/sso/src/App.tsx" ∨ Text.fits reviewedArtifactPattern relativePath) ∧
    assignmentKind = .PropertyAssignment ∧ keyKind = .Identifier ∧
    normalizedKey = Text.of "REFRESH_TOKEN_REQUIRES_OFFLINE_ACCESS" ∧
    form ∈ [StaticValueForm.noSubstitutionTemplate, .stringLiteral] ∧
    sha256 value = Text.of "bbf58f13f3573e210bba2822828db86d1b334f38cb40c7892246fcc83e2b3726"

def generatedFallbackAssignmentAllowed (relativePath normalizedKey value : Text) (form : StaticValueForm) : Bool :=
  relativePath = Text.of "artifact:worker/index.js" ∧ normalizedKey = Text.of "DEFAULT_SECRET" ∧
    form = .stringLiteral ∧
    sha256 value = Text.of "2988a24c0bcc440e2c600c28394590bf7990f260cbf23503e03ee00092086e1f"

/-- A value that was audited for its path and key, by one of the three reviews. -/
def isAudited (relativePath normalizedKey value : Text) (assignmentKind keyKind : SyntaxKind)
    (form : StaticValueForm) : Bool :=
  isAuditedFixture sha256 relativePath normalizedKey value ||
    reviewedStaticErrorAssignmentAllowed sha256 relativePath normalizedKey value assignmentKind keyKind form ||
    generatedFallbackAssignmentAllowed sha256 relativePath normalizedKey value form

end allowances

section scan

variable (numbers : Numbers)

/-- The name of a declaration, or the left side of an assignment operator. -/
inductive NameNode where
  | identifier (text : Text)
  | privateIdentifier (text : Text)
  | stringLiteral (text : Text)
  | noSubstitutionTemplateLiteral (text : Text)
  | numericLiteral (text : Text)
  | computedPropertyName (expression : Expression)
  | propertyAccessExpression (name : Text)
  | elementAccessExpression (argumentExpression : Expression)
  | other

def NameNode.kind : NameNode → SyntaxKind
  | .identifier _ => .Identifier
  | .privateIdentifier _ => .PrivateIdentifier
  | .stringLiteral _ => .StringLiteral
  | .noSubstitutionTemplateLiteral _ => .NoSubstitutionTemplateLiteral
  | .numericLiteral _ => .NumericLiteral
  | .computedPropertyName _ => .ComputedPropertyName
  | .propertyAccessExpression _ => .PropertyAccessExpression
  | .elementAccessExpression _ => .ElementAccessExpression
  | .other => .other

/-- `value.status === "static" ? String(value.value) : null` -/
def staticText : Evaluation numbers → Option Text
  | .static value _ => some value.text
  | _ => none

def staticName : NameNode → Option Text
  | .identifier text => some text
  | .privateIdentifier text => some text
  | .stringLiteral text => some text
  | .noSubstitutionTemplateLiteral text => some text
  | .numericLiteral text => some text
  | .computedPropertyName expression => staticText numbers (staticPrimitive numbers expression 0)
  | .propertyAccessExpression name => some name
  | .elementAccessExpression argumentExpression =>
    staticText numbers (staticPrimitive numbers argumentExpression 0)
  | .other => none

inductive DeclarationKind where
  | VariableDeclaration
  | PropertyAssignment
  | PropertyDeclaration
  | EnumMember
  | BindingElement

def DeclarationKind.kind : DeclarationKind → SyntaxKind
  | .VariableDeclaration => .VariableDeclaration
  | .PropertyAssignment => .PropertyAssignment
  | .PropertyDeclaration => .PropertyDeclaration
  | .EnumMember => .EnumMember
  | .BindingElement => .BindingElement

/-- The nodes of a syntax tree that can be assignments. -/
inductive Node where
  | declaration (kind : DeclarationKind) (propertyName : Option NameNode) (name : NameNode)
    (initializer : Option Expression)
  | binaryExpression (isAssignment : Bool) (left : NameNode) (right : Expression)
  | other

/-- An assignment, before its right side is evaluated. -/
structure Candidate where
  assignmentKind : SyntaxKind
  expression : Expression
  key : Option Text
  keyKind : SyntaxKind

def assignment : Node → Option Candidate
  | .declaration _ _ _ none => none
  | .declaration kind propertyName name (some initializer) =>
    some {
      assignmentKind := kind.kind
      expression := initializer
      key := staticName numbers (propertyName.getD name)
      keyKind := (propertyName.getD name).kind }
  | .binaryExpression false _ _ => none
  | .binaryExpression true left right =>
    some {
      assignmentKind := .BinaryExpression
      expression := right
      key := staticName numbers left
      keyKind := left.kind }
  | .other => none

def staticValueForm : Expression → Option StaticValueForm
  | .stringLiteral _ => some .stringLiteral
  | .noSubstitutionTemplateLiteral _ => some .noSubstitutionTemplate
  | .templateExpression _ _ => some .templateExpression
  | .binaryExpression true _ _ => some .binaryPlus
  | _ => none

/-- An entry of `analysis.assignments`. -/
structure Assignment where
  assignmentKind : SyntaxKind
  key : Text
  keyKind : SyntaxKind
  evaluation : Evaluation numbers
  form : StaticValueForm

/-- The entry of a candidate with its key. -/
def entry (candidate : Candidate) (key : Text) : Assignment numbers where
  assignmentKind := candidate.assignmentKind
  key := key
  keyKind := candidate.keyKind
  evaluation := staticPrimitive numbers candidate.expression 0
  form := (staticValueForm candidate.expression).getD .other

/-- What `visit` adds to the assignments for a node; a key that is empty counts as none. -/
def visit (node : Node) : Option (Assignment numbers) :=
  match assignment numbers node with
  | none => none
  | some candidate =>
    match candidate.key with
    | none => none
    | some key => if key.isEmpty then none else some (entry numbers candidate key)

structure Analysis where
  assignments : List (Assignment numbers)
  parseErrors : Nat

/-- The analysis of a source file, by its nodes in the order of the visit. -/
def analyzeTypeScriptStaticValues (nodes : List Node) (parseErrors : Nat) : Analysis numbers :=
  { assignments := nodes.filterMap (visit numbers)
    parseErrors := parseErrors }

inductive Finding where
  | typescriptParseError
  | assignedSecret
  deriving DecidableEq

def MIN_ASSIGNMENT_VALUE_CHARS : Nat := 8

variable {numbers} (sha256 : Text → Text)

/-- The findings that one assignment adds. -/
def assignmentFindings (relativePath : Text) (assignment : Assignment numbers) : List Finding :=
  let normalizedKey := normalizeAssignmentKey assignment.key
  if isSecretAssignmentKey normalizedKey = false then []
  else
    match assignment.evaluation with
    | .overflow => [.assignedSecret]
    | .static (.string value) _ =>
      if value.length < MIN_ASSIGNMENT_VALUE_CHARS then []
      else if isAudited sha256 relativePath normalizedKey value assignment.assignmentKind assignment.keyKind
        assignment.form then []
      else [.assignedSecret]
    | _ => []

/-- The findings of the assignments of a source file. -/
def scanTypeScript (relativePath : Text) (analysis : Analysis numbers) : List Finding :=
  (if 0 < analysis.parseErrors then [.typescriptParseError] else []) ++
    analysis.assignments.flatMap (assignmentFindings sha256 relativePath)

end scan

end pgid.scan
