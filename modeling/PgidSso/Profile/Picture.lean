import PgidSso.Library.Pattern
import PgidSso.Library.Table
import PgidSso.Library.Transition

/-! The picture of a user: where it comes from, and the three requests that change it. Each
reads the row of the user and writes it back in a later statement. -/

namespace pgid.account

def GENERATED_AVATAR_PATH_PREFIX : Text := Text.of "/api/avatar/v1/"

def UPLOADED_AVATAR_PATH_PREFIX : Text := Text.of "/api/account/avatar/"

/-- A URL, as far as its parts are read here. -/
structure Url where
  origin : Text
  pathname : Text

/-- The origin of the site and `new URL(value)`. -/
structure Site where
  authBaseUrl : Text
  parse : Text → Option Url

/-- `[0-9a-f]` in either case. -/
def isHexDigit (code : UInt16) : Bool :=
  Text.isHex code || (Text.unit 'A' ≤ code ∧ code ≤ Text.unit 'F')

/-- `[89ab]` in either case. -/
def isVariant (code : UInt16) : Bool :=
  code ∈ Text.of "89abAB"

def uuidPattern : List (UInt16 → Bool) :=
  List.replicate 8 isHexDigit ++ Text.exactly '-' :: List.replicate 4 isHexDigit ++ Text.exactly '-' ::
    (fun code => decide (Text.unit '1' ≤ code ∧ code ≤ Text.unit '8')) :: List.replicate 3 isHexDigit ++
    Text.exactly '-' :: isVariant :: List.replicate 3 isHexDigit ++ Text.exactly '-' :: List.replicate 12 isHexDigit

def isUuid (value : Text) : Bool :=
  Text.fits uuidPattern value

abbrev Uuid : Type := { value : Text // isUuid value = true }

def generatedAvatarUrl (authBaseUrl userId : Text) : Text :=
  authBaseUrl ++ GENERATED_AVATAR_PATH_PREFIX ++ userId ++ Text.of ".svg"

def isGeneratedAvatarUrl (site : Site) (value : Option Text) : Bool :=
  match value with
  | none | some [] => false
  | some value =>
    match site.parse value with
    | none => false
    | some url => url.origin = site.authBaseUrl ∧ GENERATED_AVATAR_PATH_PREFIX.isPrefixOf url.pathname

def uploadedAvatarUrl (authBaseUrl avatarId : Text) : Text :=
  authBaseUrl ++ UPLOADED_AVATAR_PATH_PREFIX ++ avatarId

def isUploadedAvatarUrl (site : Site) (value : Option Text) : Bool :=
  match value with
  | none | some [] => false
  | some value =>
    match site.parse value with
    | none => false
    | some url =>
      if url.origin ≠ site.authBaseUrl ∨ ¬ UPLOADED_AVATAR_PATH_PREFIX.isPrefixOf url.pathname then false
      else isUuid (url.pathname.drop UPLOADED_AVATAR_PATH_PREFIX.length)

inductive AvatarSource where
  | google
  | generated
  | upload
  deriving DecidableEq

def avatarSourceOf (site : Site) (image : Option Text) : AvatarSource :=
  if isGeneratedAvatarUrl site image then .generated
  else if isUploadedAvatarUrl site image then .upload
  else .google

structure UserImageRow where
  name : Text
  image : Option Text
  googleImage : Option Text
  deriving DecidableEq

/-- A row of `user_avatar`, as far as it is read here. -/
structure UserAvatarRow where
  id : Uuid
  userId : Text
  createdAt : Text

/-- The rows of `user` by their primary key, and those of `user_avatar`. -/
structure Database where
  users : Text → Option UserImageRow
  avatars : List UserAvatarRow

/-- `ORDER BY created_at DESC, id DESC LIMIT 1`. -/
def latestAvatar : List UserAvatarRow → Option UserAvatarRow
  | [] => none
  | row :: rest =>
    match latestAvatar rest with
    | none => some row
    | some other =>
      if other.createdAt ≠ row.createdAt then
        if Text.precedes row.createdAt other.createdAt then some other else some row
      else if Text.precedes row.id.1 other.id.1 then some other
      else some row

/-- An answer of a route that writes nothing. -/
structure RouteError where
  status : Nat
  error : Text
  deriving DecidableEq

/-- What a profile request may choose. -/
inductive ProfileAvatar where
  | google
  | generated
  deriving DecidableEq

inductive AvatarMode where
  | google
  | identicon
  | upload
  deriving DecidableEq

/-- A request whose body has been checked. -/
inductive Request where
  | profile (name : Option Text) (avatar : Option ProfileAvatar)
  | upload
  | mode (mode : AvatarMode)
  deriving DecidableEq

/-- The two columns of a picture. -/
structure Images where
  image : Option Text
  googleImage : Option Text

/-- What a profile request writes over the row that it read. -/
def profileImages (site : Site) (userId : Text) (avatar : Option ProfileAvatar) (row : UserImageRow) : Images :=
  let currentSource := avatarSourceOf site row.image
  match avatar with
  | some .generated =>
    ⟨some (generatedAvatarUrl site.authBaseUrl userId),
      if currentSource = .google then row.image.or row.googleImage else row.googleImage⟩
  | some .google => ⟨if currentSource ≠ .google then row.googleImage else row.image, row.googleImage⟩
  | none => ⟨row.image, row.googleImage⟩

/-- What an upload writes over the row that it read. -/
def uploadImages (site : Site) (avatarId : Uuid) (row : UserImageRow) : Images :=
  ⟨some (uploadedAvatarUrl site.authBaseUrl avatarId.1),
    if avatarSourceOf site row.image = .google then row.image.or row.googleImage else row.googleImage⟩

/-- What a change of mode writes over the row that it read; `avatar` is the upload it found. -/
def modeImages (site : Site) (userId : Text) (mode : AvatarMode) (avatar : Option Uuid) (row : UserImageRow) :
    Option Images :=
  let googleImage :=
    if avatarSourceOf site row.image = .google ∧ mode ≠ .google then row.image.or row.googleImage else row.googleImage
  match mode with
  | .identicon => some ⟨some (generatedAvatarUrl site.authBaseUrl userId), googleImage⟩
  | .upload => avatar.map fun id => ⟨some (uploadedAvatarUrl site.authBaseUrl id.1), googleImage⟩
  | .google => some ⟨googleImage, googleImage⟩

/-- How far a request is. -/
inductive Phase where
  /-- The row has been read, and in mode `upload` perhaps the upload. -/
  | selected (row : UserImageRow) (avatar : Option Uuid)
  | refused (error : RouteError)
  /-- A statement of its batch failed. -/
  | thrown
  | committed

structure Call where
  request : Request
  phase : Phase

/-- The database and the requests of one user that have read it. -/
structure State where
  db : Database
  calls : Nat → Option Call

inductive Action where
  /-- `SELECT … FROM user`, for a request that no other step has used. -/
  | select (call : Nat) (request : Request)
  /-- `SELECT id FROM user_avatar`, of a change to the mode `upload`. -/
  | findAvatar (call : Nat)
  /-- The statement or batch that writes, with the random id and the time of an upload. -/
  | write (call : Nat) (avatarId : Uuid) (now : Text)

def State.setCall (state : State) (call : Nat) (request : Request) (phase : Phase) : State :=
  { state with calls := Function.update state.calls call (some ⟨request, phase⟩) }

/-- `UPDATE user SET … WHERE id = ?`. -/
def Database.updateUser (db : Database) (userId : Text) (change : UserImageRow → UserImageRow) : Database :=
  { db with users := Function.update db.users userId ((db.users userId).map change) }

/-- The batch of an upload; `none` is a violated key. -/
def Database.replaceAvatar (db : Database) (userId : Text) (avatar : UserAvatarRow) (images : Images) : Option Database :=
  let kept := table.delete (fun row : UserAvatarRow => row.userId = userId) db.avatars
  if avatar.id ∈ kept.map UserAvatarRow.id ∨ db.users userId = none then none
  else
    some (Database.updateUser { db with avatars := kept ++ [avatar] } userId
      fun row => { row with image := images.image, googleImage := images.googleImage })

/-- One statement of one request of the user; `none` is a step that is not possible. -/
def perform (site : Site) (userId : Text) (state : State) : Action → Option State
  | .select call request =>
    if (state.calls call).isSome then none
    else
      match state.db.users userId with
      | none => some (state.setCall call request (.refused ⟨401, Text.of "unauthorized"⟩))
      | some row => some (state.setCall call request (.selected row none))
  | .findAvatar call =>
    match state.calls call with
    | some ⟨.mode .upload, .selected row none⟩ =>
      match latestAvatar (table.matched (fun row : UserAvatarRow => row.userId = userId) state.db.avatars) with
      | none => some (state.setCall call (.mode .upload) (.refused ⟨409, Text.of "no_avatar"⟩))
      | some avatar => some (state.setCall call (.mode .upload) (.selected row (some avatar.id)))
    | _ => none
  | .write call avatarId now =>
    match state.calls call with
    | some ⟨.profile name avatar, .selected row _⟩ =>
      let images := profileImages site userId avatar row
      let db := state.db.updateUser userId fun _ => ⟨name.getD row.name, images.image, images.googleImage⟩
      some (State.setCall { state with db } call (.profile name avatar) .committed)
    | some ⟨.upload, .selected row _⟩ =>
      match state.db.replaceAvatar userId ⟨avatarId, userId, now⟩ (uploadImages site avatarId row) with
      | none => some (state.setCall call .upload .thrown)
      | some db => some (State.setCall { state with db } call .upload .committed)
    | some ⟨.mode mode, .selected row avatar⟩ =>
      match modeImages site userId mode avatar row with
      | none => none
      | some images =>
        let db := state.db.updateUser userId fun current =>
          { current with image := images.image, googleImage := images.googleImage }
        some (State.setCall { state with db } call (.mode mode) .committed)
    | _ => none

end pgid.account
