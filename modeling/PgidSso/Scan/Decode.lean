import PgidSso.Library.Utf8Lossy
import PgidSso.Scan.Assignment

/-! The readings of a file as text and the tokens that are looked for in each of them. -/

namespace pgid.scan

open Regex

def DEFAULT_MAX_SCAN_BYTES : Nat := 8 * 1024 * 1024

/-- `[A-Z0-9]` -/
def isCapitalOrDigit (code : UInt16) : Bool :=
  isUpper code || Text.isDigit code

/-- `[A-Za-z0-9_-]` -/
def isWordOrHyphen (code : UInt16) : Bool :=
  isWord code || code = Text.unit '-'

structure TokenRule where
  name : Text
  pattern : Regex

def tokenRules : List TokenRule := [
  { name := Text.of "aws-access-key-id"
    pattern := inOrder [boundary, either (literal "AKIA") (literal "ASIA"), times isCapitalOrDigit 16, boundary] },
  { name := Text.of "github-token"
    pattern := inOrder [boundary, either (literal "ghp_") (literal "github_pat_"), atLeast isWord 20, boundary] },
  { name := Text.of "google-api-key"
    pattern := inOrder [boundary, literal "AIza", atLeast isWordOrHyphen 30, boundary] },
  { name := Text.of "slack-token"
    pattern := inOrder [boundary, literal "xox", one fun code => code ∈ Text.of "baprs", literal "-",
      atLeast (fun code => isAlphanumeric code || code = Text.unit '-') 20, boundary] },
  { name := Text.of "telegram-bot-token"
    pattern := inOrder [boundary, between Text.isDigit 8 12, literal ":", times isWordOrHyphen 35, boundary] },
  { name := Text.of "private-key"
    pattern := inOrder [literal "-----BEGIN ", many fun code => isCapitalOrDigit code || code = Text.unit ' ',
      literal "PRIVATE KEY-----"] }]

/-- The code points that `for (const character of text)` goes through. -/
def codePoints : Text → List Nat
  | high :: low :: rest =>
    if Text.IsHigh high ∧ Text.IsLow low then
      (0x10000 + (high.toNat - 0xD800) * 0x400 + (low.toNat - 0xDC00)) :: codePoints rest
    else high.toNat :: codePoints (low :: rest)
  | [code] => [code.toNat]
  | [] => []

/-- The tab, the line ends and what ASCII prints. -/
def isPrintable (code : Nat) : Bool :=
  code = 9 || code = 10 || code = 13 || (32 ≤ code && code ≤ 126)

/-- At least seven characters in ten are printable. -/
def isLikelyDecodedText (value : Text) : Bool :=
  if value = [] ∨ 0 ∈ value then false
  else
    let considered := codePoints (value.take (64 * 1024))
    let printable := considered.filter isPrintable
    0 < considered.length && 7 * considered.length ≤ 10 * printable.length

inductive RepresentationKind where
  | utf8
  | utf16 (order : ByteOrder) (offset : Nat)
  | printableRuns
  | nulCollapsed
  deriving DecidableEq

structure Representation where
  kind : RepresentationKind
  sourceCandidate : Bool
  text : Text

/-- A text that is there already, and the empty one, are left out. -/
def add (values : List Representation) (value : Representation) : List Representation :=
  let text := Text.stripMark value.text
  if text = [] ∨ ∃ other ∈ values, other.text = text then values else values ++ [{ value with text }]

def utf8Reading (bytes : List UInt8) : Representation :=
  let utf8 := Text.decodeLossy bytes
  { kind := .utf8, sourceCandidate := Text.replacement ∉ utf8 ∧ 0 ∉ utf8, text := utf8 }

/-- The reading in a byte order from an offset on, if it looks like text. -/
def utf16Reading (bytes : List UInt8) (order : ByteOrder) (offset : Nat) : Option Representation :=
  if bytes.length - offset < 4 then none
  else
    let value := Text.decodeUtf16 order (bytes.drop offset)
    if isLikelyDecodedText value then some { kind := .utf16 order offset, sourceCandidate := true, text := value }
    else none

def printableRuns (bytes : List UInt8) : Text :=
  Text.joinLines (Text.runs (fun code => isPrintable code.toNat) 4 (Text.latin1 bytes))

def nulCollapsed (bytes : List UInt8) : Text :=
  (Text.latin1 bytes).filter (· ≠ 0)

/-- The readings, before those that say nothing new are left out. -/
def readings (bytes : List UInt8) : List Representation :=
  utf8Reading bytes ::
    ([ByteOrder.little, ByteOrder.big].flatMap fun order => [0, 1].filterMap (utf16Reading bytes order)) ++
    [{ kind := .printableRuns, sourceCandidate := false, text := printableRuns bytes },
      { kind := .nulCollapsed, sourceCandidate := false, text := nulCollapsed bytes }]

def decodedRepresentations (input : List UInt8) : List Representation :=
  (readings (input.take DEFAULT_MAX_SCAN_BYTES)).foldl add []

def tokenFindings (representations : List Representation) : List Text :=
  representations.flatMap fun representation =>
    (tokenRules.filter fun rule => rule.pattern.test representation.text).map TokenRule.name

/-- What is found in a file that is no JavaScript. `assignsSecret` says whether a line of a text assigns
a secret. -/
def scanBufferForSecrets (assignsSecret : Text → Bool) (bytes : List UInt8) : List Text :=
  if bytes = [] then []
  else
    let representations := decodedRepresentations bytes
    let assigned := representations.any fun representation => assignsSecret representation.text
    Text.sorted (tokenFindings representations ++ (if assigned then [Text.of "assigned-secret"] else [])).eraseDups

end pgid.scan
