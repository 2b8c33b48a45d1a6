import Mathlib.Data.List.Perm.Subperm
import PgidSso.Admin.Roles
import PgidSso.Client.Managed

open checked pgid.administration

namespace pgid.management

def CLIENT_NAME_MAX_LENGTH : Nat := 64
def CLIENT_URI_MAX_LENGTH : Nat := 256
def REDIRECT_URI_MAX_LENGTH : Nat := 512
def REDIRECT_URI_MAX_COUNT : Nat := 8
def DEVELOPER_NAME_MAX_LENGTH : Nat := 64
def TRUST_URL_MAX_LENGTH : Nat := 512
def ALLOWED_SCOPES : List Text :=
  [Text.of "openid", Text.of "profile", Text.of "email", Text.of "offline_access"]
def ALLOWED_GRANT_TYPES : List Text := [Text.of "authorization_code", Text.of "refresh_token"]
def MAIL_INTROSPECTION_CLIENT_ID : Text := Text.of "pgid-mail-introspect"
def SYSTEM_RESERVED_CLIENT_IDS : List Text := [MAIL_INTROSPECTION_CLIENT_ID, Text.of "pg72-webmail"]
def TRUSTED_CLIENT_IDS : List Text := [Text.of "pg72-test-rp"]
def DEVELOPER_NAME_METADATA_KEY : Text := Text.of "developer_name"
def BACKCHANNEL_LOGOUT_URI_METADATA_KEY : Text := Text.of "backchannel_logout_uri"

inductive Environment where
  | development
  | preview
  | production
  deriving DecidableEq

/-- What the checks read of a parsed URL. -/
structure Url where
  href : Text
  protocol : Text
  username : Text
  password : Text
  hash : Text
  hostname : Text
  port : Text
  deriving DecidableEq

/-- The environment of a deployment and the URL parser of its platform. -/
structure Runtime where
  environment : Environment
  parseUrl : Text → Option Url

/-- A JSON value of a body, as far as the checks tell values apart. -/
inductive Field where
  | null
  | boolean (value : Bool)
  | text (value : Text)
  | texts (values : List Text)
  | other
  deriving DecidableEq

/-- The version that a body expects; a text that writes no instant is the version of no row. -/
inductive ExpectedVersion where
  | malformed
  | null
  | instant (milliseconds : Int)
  | unknown
  deriving DecidableEq

/-- The body of an edit; an absent field is none. -/
structure UpdateClientInput where
  expectedUpdatedAt : ExpectedVersion
  hasUnknownField : Bool := false
  backchannelLogoutUri : Option Field := none
  developerName : Option Field := none
  enableEndSession : Option Field := none
  grantTypes : Option Field := none
  name : Option Field := none
  postLogoutRedirectUris : Option Field := none
  privacyPolicyUrl : Option Field := none
  redirectUris : Option Field := none
  scopes : Option Field := none
  termsOfServiceUrl : Option Field := none
  uri : Option Field := none
  deriving DecidableEq

inductive EditError where
  | trustedClientLocked
  | clientNotFound
  | invalidClientUpdate
  | invalidClientVersion
  | managementStateChanged
  | systemClientProtocolLocked
  | invalidClientName
  | invalidClientUri
  | invalidRedirectUri
  | invalidPostLogoutRedirectUri
  | invalidScopes
  | invalidGrantTypes
  | refreshTokenRequiresOfflineAccess
  | invalidRequest
  | invalidDeveloperName
  | invalidBackchannelLogoutUri
  | invalidTermsOfServiceUrl
  | invalidPrivacyPolicyUrl
  | publicClientHasNoSecret
  deriving DecidableEq

/-- `*`, which no redirect URI may have, and `@`. -/
def asterisk : Text := Text.of "*"
def commercialAt : Text := Text.of "@"

def validRedirectUri (runtime : Runtime) (value : Text) : Bool :=
  if value = [] ∨ REDIRECT_URI_MAX_LENGTH < value.length ∨ value.includes asterisk then false
  else
    match runtime.parseUrl value with
    | none => false
    | some url =>
      if url.href ≠ value ∨ url.username ≠ [] ∨ url.password ≠ [] ∨ url.hash ≠ [] then false
      else if url.protocol = Text.of "https:" then true
      else if runtime.environment = .production then false
      else
        url.protocol = Text.of "http:" ∧
          (url.hostname = Text.of "localhost" ∨ url.hostname = Text.of "127.0.0.1" ∨
            url.hostname = Text.of "[::1]")

def validBackchannelLogoutUri (runtime : Runtime) (value : Text) : Bool :=
  if !validRedirectUri runtime value || value.includes commercialAt then false
  else
    match runtime.parseUrl value with
    | none => false
    | some url => url.protocol = Text.of "https:" ∨ url.port ≠ []

def validStringArray (values : List Text) (maxCount : Nat) : Prop :=
  values.length ≤ maxCount ∧ values.Nodup

instance (values : List Text) (maxCount : Nat) : Decidable (validStringArray values maxCount) :=
  inferInstanceAs (Decidable (values.length ≤ maxCount ∧ values.Nodup))

def sameStringSet (left right : List Text) : Bool :=
  left.length = right.length ∧ ∀ entry ∈ left, entry ∈ right

def validDeveloperName (value : Text) : Bool :=
  value.trim ≠ [] ∧ value.length ≤ DEVELOPER_NAME_MAX_LENGTH ∧ value.all fun code => 0x1F < code ∧ code ≠ 0x7F

def trustUrlOrNull (runtime : Runtime) (value : Text) : Option Text :=
  if value = [] ∨ TRUST_URL_MAX_LENGTH < value.length then none
  else
    match runtime.parseUrl value with
    | none => none
    | some url =>
      if url.protocol ≠ Text.of "https:" ∨ url.username ≠ [] ∨ url.password ≠ [] then none else some value

/-- `metadata[key] = value`. -/
def assign (key : Text) (value : MetadataValue) (metadata : List (Text × MetadataValue)) :
    List (Text × MetadataValue) :=
  if metadata.any fun entry => entry.1 = key then
    metadata.map fun entry => if entry.1 = key then (key, value) else entry
  else metadata ++ [(key, value)]

/-- `delete metadata[key]`. -/
def remove (key : Text) (metadata : List (Text × MetadataValue)) : List (Text × MetadataValue) :=
  metadata.filter fun entry => entry.1 ≠ key

def developerNameFromMetadata (metadata : List (Text × MetadataValue)) : Option Text :=
  match metadata.find? fun entry => entry.1 = DEVELOPER_NAME_METADATA_KEY with
  | some (_, .text value) => if validDeveloperName value then some value.trim else none
  | _ => none

/-- The array of texts of a field, where the field is there and passes its check. -/
def editTexts (current : List Text) (maxCount : Nat) (Valid : List Text → Prop) [DecidablePred Valid]
    (error : EditError) : Option Field → Except EditError (List Text)
  | none => .ok current
  | some (.texts values) => do
    throwIf (¬ (validStringArray values maxCount ∧ Valid values)) error
    return values
  | some _ => .error error

def editName (current : Option Text) : Option Field → Except EditError (Option Text)
  | none => .ok current
  | some (.text value) => do
    throwIf (value.trim = [] ∨ CLIENT_NAME_MAX_LENGTH < value.trim.length) .invalidClientName
    return some value.trim
  | some _ => .error .invalidClientName

def editUri (runtime : Runtime) (current : Option Text) : Option Field → Except EditError (Option Text)
  | none => .ok current
  | some .null => .ok none
  | some (.text value) =>
    if value = [] then .ok none
    else do
      throwIf (¬ (value.length ≤ CLIENT_URI_MAX_LENGTH ∧ validRedirectUri runtime value)) .invalidClientUri
      return some value
  | some _ => .error .invalidClientUri

def editRedirectUris (runtime : Runtime) (current : List Text) : Option Field → Except EditError (List Text) :=
  editTexts current REDIRECT_URI_MAX_COUNT
    (fun values => values ≠ [] ∧ ∀ uri ∈ values, validRedirectUri runtime uri) .invalidRedirectUri

def editPostLogoutRedirectUris (runtime : Runtime) (current : List Text) :
    Option Field → Except EditError (List Text) :=
  editTexts current REDIRECT_URI_MAX_COUNT (fun values => ∀ uri ∈ values, validRedirectUri runtime uri)
    .invalidPostLogoutRedirectUri

def editScopes (current : List Text) : Option Field → Except EditError (List Text) :=
  editTexts current ALLOWED_SCOPES.length
    (fun values => values ≠ [] ∧ (∀ scope ∈ values, scope ∈ ALLOWED_SCOPES) ∧ Text.of "openid" ∈ values)
    .invalidScopes

def editGrantTypes (current : List Text) : Option Field → Except EditError (List Text) :=
  editTexts current ALLOWED_GRANT_TYPES.length
    (fun values => (∀ grant ∈ values, grant ∈ ALLOWED_GRANT_TYPES) ∧ Text.of "authorization_code" ∈ values)
    .invalidGrantTypes

def editEnableEndSession (current : Option Bool) : Option Field → Except EditError (Option Bool)
  | none => .ok current
  | some (.boolean value) => .ok (some value)
  | some _ => .error .invalidRequest

def editDeveloperName (current : Option Text) : Option Field → Except EditError (Option Text)
  | none => .ok current
  | some (.text value) => do
    throwIf (¬ validDeveloperName value) .invalidDeveloperName
    return some value.trim
  | some _ => .error .invalidDeveloperName

/-- The developer of a client is mandatory. -/
def nameDeveloper (metadata : List (Text × MetadataValue)) :
    Option Text → Except EditError (List (Text × MetadataValue))
  | none => .error .invalidDeveloperName
  | some developerName => .ok (assign DEVELOPER_NAME_METADATA_KEY (.text developerName) metadata)

/-- The delivery endpoint and the metadata that repeats it. -/
def editBackchannelLogoutUri (runtime : Runtime) (current : Option Text) (metadata : List (Text × MetadataValue)) :
    Option Field → Except EditError (Option Text × List (Text × MetadataValue))
  | none => .ok (current, metadata)
  | some .null => .ok (none, remove BACKCHANNEL_LOGOUT_URI_METADATA_KEY metadata)
  | some (.text value) =>
    if value = [] then .ok (none, remove BACKCHANNEL_LOGOUT_URI_METADATA_KEY metadata)
    else do
      throwIf (¬ validBackchannelLogoutUri runtime value) .invalidBackchannelLogoutUri
      return (some value, assign BACKCHANNEL_LOGOUT_URI_METADATA_KEY (.text value) metadata)
  | some _ => .error .invalidBackchannelLogoutUri

/-- `optionalTrustUrl`, over the link that the client has. -/
def editTrustUrl (runtime : Runtime) (current : Option Text) (error : EditError) :
    Option Field → Except EditError (Option Text)
  | none => .ok (current.bind (trustUrlOrNull runtime))
  | some .null => .ok none
  | some (.text value) =>
    if value = [] then .ok none
    else
      match trustUrlOrNull runtime value with
      | some url => .ok (some url)
      | none => .error error
  | some _ => .error error

/-- The fields that the clients of the system keep. -/
def UpdateClientInput.authorizationFieldUpdate (input : UpdateClientInput) : Bool :=
  input.enableEndSession.isSome || input.grantTypes.isSome || input.postLogoutRedirectUris.isSome ||
    input.redirectUris.isSome || input.scopes.isSome

def UpdateClientInput.settingsUpdated (input : UpdateClientInput) : Bool :=
  input.authorizationFieldUpdate || input.name.isSome || input.uri.isSome

/-- A field besides the expected version. -/
def UpdateClientInput.hasMutationField (input : UpdateClientInput) : Bool :=
  input.settingsUpdated || input.backchannelLogoutUri.isSome || input.developerName.isSome ||
    input.privacyPolicyUrl.isSome || input.termsOfServiceUrl.isSome

/-- `input.expectedUpdatedAt === managedClient.updatedAt`. -/
def ExpectedVersion.is (updatedAt : Option Int) : ExpectedVersion → Bool
  | .malformed | .unknown => false
  | .null => updatedAt = none
  | .instant milliseconds => updatedAt = some milliseconds

/-- The checks of a body over the row that its request has loaded, the values that it writes
and what they change. -/
def editClient (runtime : Runtime) (client : ClientRow) (input : UpdateClientInput) :
    Except EditError (ClientSettings × EditChanges) := do
  throwIf (!input.hasMutationField || input.hasUnknownField) .invalidClientUpdate
  throwIf (input.expectedUpdatedAt = .malformed) .invalidClientVersion
  throwIf (!input.expectedUpdatedAt.is client.updatedAt) .managementStateChanged
  throwIf (client.clientId = MAIL_INTROSPECTION_CLIENT_ID ∧ input.authorizationFieldUpdate)
    .systemClientProtocolLocked
  let name ← editName client.name input.name
  let uri ← editUri runtime client.uri input.uri
  let redirectUris ← editRedirectUris runtime client.redirectUris input.redirectUris
  let postLogoutRedirectUris ←
    editPostLogoutRedirectUris runtime (client.postLogoutRedirectUris.getD []) input.postLogoutRedirectUris
  let scopes ← editScopes (client.scopes.getD []) input.scopes
  let grantTypes ← editGrantTypes (client.grantTypes.getD []) input.grantTypes
  throwIf ((input.scopes.isSome || input.grantTypes.isSome) ∧ Text.of "refresh_token" ∈ grantTypes ∧
    Text.of "offline_access" ∉ scopes) .refreshTokenRequiresOfflineAccess
  let enableEndSession ← editEnableEndSession client.enableEndSession input.enableEndSession
  let developerName ← editDeveloperName (developerNameFromMetadata client.metadata) input.developerName
  let named ← nameDeveloper client.metadata developerName
  let (backchannelLogoutUri, metadata) ←
    editBackchannelLogoutUri runtime client.backchannelLogoutUri named input.backchannelLogoutUri
  let tos ← editTrustUrl runtime client.tos .invalidTermsOfServiceUrl input.termsOfServiceUrl
  let policy ← editTrustUrl runtime client.policy .invalidPrivacyPolicyUrl input.privacyPolicyUrl
  let settings : ClientSettings :=
    { name, uri, redirectUris
      postLogoutRedirectUris :=
        if input.postLogoutRedirectUris.isNone then client.postLogoutRedirectUris
        else if postLogoutRedirectUris = [] then none
        else some postLogoutRedirectUris
      scopes := if input.scopes.isNone then client.scopes else some scopes
      grantTypes := if input.grantTypes.isNone then client.grantTypes else some grantTypes
      enableEndSession, metadata, tos, policy, backchannelLogoutUri }
  let changes : EditChanges :=
    { redirectUris := !sameStringSet client.redirectUris redirectUris
      permissions := !sameStringSet (client.scopes.getD []) scopes ||
        !sameStringSet (client.grantTypes.getD []) grantTypes }
  return (settings, changes)

/-- The arrays of a client, as the registration and the edits check them. -/
structure ClientSettings.Distinct (settings : ClientSettings) : Prop where
  redirectUris : settings.redirectUris.Nodup
  scopes : (settings.scopes.getD []).Nodup
  grantTypes : (settings.grantTypes.getD []).Nodup

instance (settings : ClientSettings) : Decidable settings.Distinct :=
  decidable_of_iff
    (settings.redirectUris.Nodup ∧ (settings.scopes.getD []).Nodup ∧ (settings.grantTypes.getD []).Nodup)
    ⟨fun ⟨redirectUris, scopes, grantTypes⟩ => ⟨redirectUris, scopes, grantTypes⟩,
      fun h => ⟨h.redirectUris, h.scopes, h.grantTypes⟩⟩

def SameSet (left right : List Text) : Prop :=
  ∀ entry, entry ∈ left ↔ entry ∈ right

/-- The comparison of lengths and one inclusion decides equality of sets, for arrays
without duplicates. -/
theorem sameStringSet_iff {left right : List Text} (hleft : left.Nodup) (hright : right.Nodup) :
    sameStringSet left right = true ↔ SameSet left right := by
  rw [sameStringSet, decide_eq_true_iff]
  constructor
  · rintro ⟨hlength, hsubset⟩
    have hsubperm : left.Subperm right := hleft.subperm hsubset
    have hperm : left.Perm right := hsubperm.perm_of_length_le hlength.ge
    exact fun entry => hperm.mem_iff
  · intro hsame
    have hperm : left.Perm right := (List.perm_ext_iff_of_nodup hleft hright).mpr hsame
    exact ⟨hperm.length_eq, fun entry => (hsame entry).mp⟩

theorem editTexts_nodup {current values : List Text} {maxCount : Nat} {Valid : List Text → Prop}
    [DecidablePred Valid] {error : EditError} {field : Option Field} (hcurrent : current.Nodup)
    (hedit : editTexts current maxCount Valid error field = .ok values) : values.Nodup := by
  unfold editTexts at hedit
  split at hedit
  · cases hedit
    exact hcurrent
  · obtain ⟨hvalid, hvalues⟩ := throwIf_bind_eq_ok_iff.mp hedit
    cases hvalues
    exact (not_not.mp hvalid).1.2
  · cases hedit

theorem editTexts_none {current values : List Text} {maxCount : Nat} {Valid : List Text → Prop}
    [DecidablePred Valid] {error : EditError} {field : Option Field} (hnone : field.isNone = true)
    (hedit : editTexts current maxCount Valid error field = .ok values) : values = current := by
  rw [Option.isNone_iff_eq_none.mp hnone] at hedit
  cases hedit
  rfl

/-- An edit keeps the arrays without duplicates, and sees each change of their sets. -/
theorem editClient_changes {runtime : Runtime} {client : ClientRow} {input : UpdateClientInput}
    {settings : ClientSettings} {changes : EditChanges} (hdistinct : client.Distinct)
    (hedit : editClient runtime client input = .ok (settings, changes)) :
    settings.Distinct ∧
      (¬ SameSet client.redirectUris settings.redirectUris → changes.redirectUris = true) ∧
        (¬ (SameSet (client.scopes.getD []) (settings.scopes.getD []) ∧
            SameSet (client.grantTypes.getD []) (settings.grantTypes.getD [])) →
          changes.permissions = true) := by
  simp only [editClient, bind_eq_ok_iff, pure_eq_ok_iff, Prod.mk.injEq] at hedit
  obtain ⟨_, -, _, -, _, -, _, -, name, -, uri, -, redirectUris, hredirectUris, postLogoutRedirectUris, -, scopes,
    hscopes, grantTypes, hgrantTypes, _, -, enableEndSession, -, developerName, -, named, -,
    ⟨backchannelLogoutUri, metadata⟩, -, tos, -, policy, -, rfl, rfl⟩ := hedit
  have hstored : ∀ {field : Option Field} {current : Option (List Text)} {values : List Text},
      (field.isNone = true → values = current.getD []) →
        (if field.isNone then current else some values).getD [] = values := by
    intro field current values hnone
    split
    · rename_i habsent
      exact (hnone habsent).symm
    · rfl
  have hscopesStored := hstored fun habsent => editTexts_none habsent hscopes
  have hgrantTypesStored := hstored fun habsent => editTexts_none habsent hgrantTypes
  have hredirectUrisNodup := editTexts_nodup hdistinct.redirectUris hredirectUris
  have hscopesNodup := editTexts_nodup hdistinct.scopes hscopes
  have hgrantTypesNodup := editTexts_nodup hdistinct.grantTypes hgrantTypes
  refine ⟨⟨hredirectUrisNodup, ?_, ?_⟩, ?_, ?_⟩
  · exact hscopesStored.symm ▸ hscopesNodup
  · exact hgrantTypesStored.symm ▸ hgrantTypesNodup
  · intro hchanged
    rw [← sameStringSet_iff hdistinct.redirectUris hredirectUrisNodup, Bool.not_eq_true] at hchanged
    exact congrArg (!·) hchanged
  · intro hchanged
    dsimp only at hchanged ⊢
    rw [hscopesStored, hgrantTypesStored, ← sameStringSet_iff hdistinct.scopes hscopesNodup,
      ← sameStringSet_iff hdistinct.grantTypes hgrantTypesNodup] at hchanged
    by_cases hsame : sameStringSet (client.scopes.getD []) scopes = true
    · rw [hsame, Bool.eq_false_iff.mpr fun h => hchanged ⟨hsame, h⟩]
      rfl
    · rw [Bool.eq_false_iff.mpr hsame]
      rfl

end pgid.management
