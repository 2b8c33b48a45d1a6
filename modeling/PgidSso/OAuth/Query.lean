import PgidSso.Library.Double
import PgidSso.Library.Form
import PgidSso.Library.Timestamp
import Mathlib.Data.List.Dedup

/-! The signed query of an authorization request, and the account selection that a dormant
browser is sent to with it. -/

namespace pgid.oauth

open form

/-- `params.getAll(name)`. -/
def getAll (params : List Param) (name : String) : List Text :=
  (params.filter fun param => param.name = Text.of name).map Param.value

/-- `params.get(name)`. -/
def get (params : List Param) (name : String) : Option Text :=
  (getAll params name).head?

/-- `params.delete(name)`. -/
def delete (params : List Param) (name : String) : List Param :=
  params.filter fun param => param.name ≠ Text.of name

/-- `params.set(name, value)`: the first of the name is written over, its others go. -/
def set (params : List Param) (param : Param) : List Param :=
  match params.findIdx? fun other => other.name = param.name with
  | none => params ++ [param]
  | some index =>
    params.take index ++ param :: (params.drop (index + 1)).filter fun other => other.name ≠ param.name

/-- The signature and the comparison of the authentication library. -/
structure AuthCrypto where
  makeSignature : Text → Text → Text
  constantTimeEqual : Text → Text → Bool
  constantTimeEqual_iff : ∀ {left right : Text}, left.Paired → right.Paired →
    (constantTimeEqual left right = true ↔ left = right)
  makeSignature_paired : ∀ value secret, (makeSignature value secret).Paired

/-- By name, and for one name by value. -/
def entryPrecedes (left right : Param) : Bool :=
  if left.name = right.name then Text.precedes left.value right.value else Text.precedes left.name right.name

def canonicalizeOAuthQuery (params : List Param) : Text :=
  serialize (params.mergeSort entryPrecedes)

/-- `[...new Set(params.keys())].sort()`. -/
def sortedNames (params : List Param) : List Text :=
  Text.sorted (params.map Param.name).dedup

def isVerifiedProviderOAuthQuery (crypto : AuthCrypto) (params : List Param) (secret : Text) (now : Timestamp) : Bool :=
  let expiresAt := Double.ofText? (get params "exp")
  let issuedAt := Double.ofText? (get params "ba_iat")
  match getAll params "sig" with
  | [signature] =>
    if signature = [] ∨ ¬ expiresAt.isFinite ∨ (expiresAt.times 1000).less now.ms ∨ ¬ issuedAt.isFinite ∨
        issuedAt.atMost 0 then false
    else
      let unsigned := delete params "sig"
      let markerNames := getAll params "ba_param"
      let expectedMarkerNames := sortedNames unsigned
      if markerNames.length ≠ expectedMarkerNames.length ∨
          ((markerNames.zip expectedMarkerNames).any fun names => names.1 ≠ names.2) ∨
          Text.of "ba_iat" ∉ expectedMarkerNames ∨ Text.of "ba_param" ∉ expectedMarkerNames ∨
          Text.of "exp" ∉ expectedMarkerNames then false
      else crypto.constantTimeEqual signature (crypto.makeSignature (canonicalizeOAuthQuery unsigned) secret)
  | _ => false

/-- A URL, as far as its parts are read or set here. -/
structure Url where
  origin : Text
  pathname : Text
  searchParams : List Param
  hash : Text

/-- `new URL(value, base)` and `url.toString()`. -/
structure UrlPlatform where
  parse : Text → Url → Option Url
  toString : Url → Text

structure Request where
  method : Text
  url : Url

/-- A response, with the headers that are read or written here and its other ones. -/
structure Response where
  status : Nat
  location : Option Text
  contentType : Option Text
  contentLength : Option Text
  otherHeaders : List (Text × Text)
  body : Text

def Response.ok (response : Response) : Bool :=
  200 ≤ response.status ∧ response.status ≤ 299

structure AccountChooserSession where
  token : Text
  userId : Text
  status : Text

/-- The first session of every active user. -/
def activeAccountSessions : List AccountChooserSession → List Text → List AccountChooserSession
  | [], _ => []
  | session :: rest, seen =>
    if session.status ≠ Text.of "active" ∨ session.userId ∈ seen then activeAccountSessions rest seen
    else session :: activeAccountSessions rest (session.userId :: seen)

/-- `text.split(/\s+/).filter(Boolean)`. -/
def words (text : Text) : List Text :=
  (text.splitOnP Text.isSpace).filter fun word => word ≠ []

def promptOf (params : List Param) : List Text :=
  words ((get params "prompt").getD [])

/-- ASCII letters in lower case. -/
def toLowerCase (text : Text) : Text :=
  text.map fun code => if Text.unit 'A' ≤ code ∧ code ≤ Text.unit 'Z' then code + 32 else code

inductive Location where
  /-- The response is left as it is. -/
  | none
  /-- `payload.redirect` of `null` throws. -/
  | thrown
  | target (url : Url) (redirects : Bool)

/-- Where a response sends the browser: by its header or by its JSON payload. -/
def locationOf (platform : UrlPlatform) (request : Request) (response : Response) : Location :=
  match response.location, decide (300 ≤ response.status ∧ response.status < 400) with
  | some location, true =>
    match platform.parse location request.url with
    | some url => .target url true
    | none => .none
  | _, _ =>
    if ¬ response.ok ∨
        ¬ (Text.of "application/json").isPrefixOf (toLowerCase (response.contentType.getD [])) then .none
    else
      match json.parse response.body with
      | some (.object members) =>
        match json.member members "redirect", json.text? (json.member members "url") with
        | some (.bool true), some url =>
          match platform.parse url request.url with
          | some url => .target url false
          | none => .none
        | _, _ => .none
      | some .null => .thrown
      | _ => .none

/-- A parameter that the code writes. -/
def param (name value : String) (hascii : (Text.of name).Ascii ∧ (Text.of value).Ascii) : Param :=
  ⟨Text.of name, Text.of value, Text.Ascii.paired hascii.1, Text.Ascii.paired hascii.2⟩

/-- The parameters that an error carries to the client of the request. -/
def selectionError (params : List Param) : List Param :=
  set (set params (param "error" "account_selection_required" (by decide)))
    (param "error_description" "End-User account selection is required" (by decide))

/-- The target that takes the place of a dormant sign-in, if any. -/
def accountSelection (crypto : AuthCrypto) (secret : Text) (now : Timestamp) (request : Request) (target : Url)
    (current : Bool) (remembered : List AccountChooserSession) : Option Url :=
  let requestPrompt := promptOf request.url.searchParams
  let exactAuthorizeRequest := request.method = Text.of "GET" ∧ request.url.pathname = Text.of "/oauth2/authorize"
  let silentAccountSelection := exactAuthorizeRequest ∧ requestPrompt.dedup.length = 1 ∧
    Text.of "none" ∈ requestPrompt ∧ get target.searchParams "error" = some (Text.of "login_required")
  let targetPrompt := promptOf target.searchParams
  let verifiedProviderPrompt := exactAuthorizeRequest ∧ target.origin = request.url.origin ∧
    target.pathname = Text.of "/sign-in" ∧ isVerifiedProviderOAuthQuery crypto target.searchParams secret now = true
  let interactiveAccountSelection := verifiedProviderPrompt ∧
    (∀ prompt ∈ [Text.of "none", Text.of "login", Text.of "create"], prompt ∉ requestPrompt) ∧
    ∀ prompt ∈ [Text.of "none", Text.of "login", Text.of "create"], prompt ∉ targetPrompt
  if ¬ silentAccountSelection ∧ ¬ interactiveAccountSelection then none
  else if silentAccountSelection ∧ current then none
  else if activeAccountSessions remembered [] = [] then none
  else if silentAccountSelection then some { target with searchParams := selectionError target.searchParams }
  else some { target with pathname := Text.of "/select-account" }

/-- The response that sends the browser to the selected target. -/
def redirected (platform : UrlPlatform) (response : Response) (selected : Url) (redirects : Bool) : Response :=
  if redirects then { response with contentLength := none, location := some (platform.toString selected) }
  else
    { response with
      contentLength := none
      body := json.object [("redirect", Text.of "true"), ("url", json.string (platform.toString selected))] }

/-- `none` is an exception. -/
def rewriteDormantAccountSignIn (platform : UrlPlatform) (crypto : AuthCrypto) (secret : Text) (now : Timestamp)
    (request : Request) (response : Response) (current : Bool) (remembered : List AccountChooserSession) :
    Option Response :=
  match locationOf platform request response with
  | .none => some response
  | .thrown => none
  | .target target redirects =>
    match accountSelection crypto secret now request target current remembered with
    | none => some response
    | some selected => some (redirected platform response selected redirects)

end pgid.oauth
