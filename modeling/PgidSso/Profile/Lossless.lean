import PgidSso.Profile.Picture

/-! When the requests that change a picture keep every reference valid and the Google picture
of the user: exactly when none of their writes puts back what has changed since it was read. -/

namespace pgid.account

open transition

variable {site : Site} {userId : Text} {saved : Option Text}

section urls

/-- The parser reads the two kinds of URLs that the site writes. -/
structure Site.Standard (site : Site) (userId : Text) : Prop where
  generated : site.parse (generatedAvatarUrl site.authBaseUrl userId) =
    some ⟨site.authBaseUrl, GENERATED_AVATAR_PATH_PREFIX ++ userId ++ Text.of ".svg"⟩
  uploaded : ∀ avatarId : Uuid, site.parse (uploadedAvatarUrl site.authBaseUrl avatarId.1) =
    some ⟨site.authBaseUrl, UPLOADED_AVATAR_PATH_PREFIX ++ avatarId.1⟩

theorem avatarSourceOf_eq_google_iff {image : Option Text} : avatarSourceOf site image = .google ↔
    isGeneratedAvatarUrl site image = false ∧ isUploadedAvatarUrl site image = false := by
  rw [avatarSourceOf]
  cases isGeneratedAvatarUrl site image <;> cases isUploadedAvatarUrl site image <;> decide

theorem isGeneratedAvatarUrl_of_parse {value : Text} {url : Url} (hvalue : value ≠ []) (hparse : site.parse value = some url) :
    isGeneratedAvatarUrl site (some value) =
      decide (url.origin = site.authBaseUrl ∧ GENERATED_AVATAR_PATH_PREFIX.isPrefixOf url.pathname) := by
  cases value with
  | nil => exact absurd rfl hvalue
  | cons code rest => simp only [isGeneratedAvatarUrl, hparse]

theorem isUploadedAvatarUrl_of_parse {value : Text} {url : Url} (hvalue : value ≠ []) (hparse : site.parse value = some url) :
    isUploadedAvatarUrl site (some value) =
      if url.origin ≠ site.authBaseUrl ∨ ¬ UPLOADED_AVATAR_PATH_PREFIX.isPrefixOf url.pathname then false
      else isUuid (url.pathname.drop UPLOADED_AVATAR_PATH_PREFIX.length) := by
  cases value with
  | nil => exact absurd rfl hvalue
  | cons code rest => simp only [isUploadedAvatarUrl, hparse]

theorem generatedAvatarUrl_ne_nil (authBaseUrl userId : Text) : generatedAvatarUrl authBaseUrl userId ≠ [] := by
  rw [generatedAvatarUrl]
  exact List.append_ne_nil_of_right_ne_nil _ (by decide)

theorem uploadedAvatarUrl_ne_nil (authBaseUrl avatarId : Text) : uploadedAvatarUrl authBaseUrl avatarId ≠ [] := by
  rw [uploadedAvatarUrl, List.append_assoc]
  apply List.append_ne_nil_of_right_ne_nil
  exact List.append_ne_nil_of_left_ne_nil (by decide) avatarId

/-- A generated URL is no uploaded one. -/
theorem avatarSourceOf_generated (hsite : site.Standard userId) :
    avatarSourceOf site (some (generatedAvatarUrl site.authBaseUrl userId)) = .generated := by
  rw [avatarSourceOf, isGeneratedAvatarUrl_of_parse (generatedAvatarUrl_ne_nil _ _) hsite.generated, if_pos]
  rw [decide_eq_true_eq, List.isPrefixOf_iff_prefix, List.append_assoc]
  exact ⟨rfl, List.prefix_append _ _⟩

/-- An uploaded URL is no generated one. -/
theorem avatarSourceOf_uploaded (hsite : site.Standard userId) (avatarId : Uuid) :
    isGeneratedAvatarUrl site (some (uploadedAvatarUrl site.authBaseUrl avatarId.1)) = false ∧
      isUploadedAvatarUrl site (some (uploadedAvatarUrl site.authBaseUrl avatarId.1)) = true := by
  rw [isGeneratedAvatarUrl_of_parse (uploadedAvatarUrl_ne_nil _ _) (hsite.uploaded avatarId),
    isUploadedAvatarUrl_of_parse (uploadedAvatarUrl_ne_nil _ _) (hsite.uploaded avatarId)]
  constructor
  · rw [decide_eq_false_iff_not, not_and]
    intro _ hbegins
    cases hbegins
  · rw [if_neg, List.drop_left]
    · exact avatarId.2
    · rw [not_or, not_not, not_not, List.isPrefixOf_iff_prefix]
      exact ⟨rfl, List.prefix_append _ _⟩

end urls

section images

/-- The Google picture that two columns hold. -/
def googlePicture (site : Site) (images : Images) : Option Text :=
  if avatarSourceOf site images.image = .google then images.image.or images.googleImage else images.googleImage

/-- Two columns that hold a Google picture, the second of them no other kind. -/
structure Lossless (site : Site) (saved : Option Text) (images : Images) : Prop where
  own : avatarSourceOf site images.googleImage = .google
  picture : googlePicture site images = saved

def UserImageRow.images (row : UserImageRow) : Images :=
  ⟨row.image, row.googleImage⟩

variable {images : Images}

theorem Lossless.source_picture (hlossless : Lossless site saved images) : avatarSourceOf site saved = .google := by
  rw [← hlossless.picture, googlePicture]
  split
  · rename_i hgoogle
    cases himage : images.image with
    | none => exact hlossless.own
    | some image =>
      rw [himage] at hgoogle
      exact hgoogle
  · exact hlossless.own

/-- The picture is in one of the columns. -/
theorem Lossless.mem {picture : Text} (hlossless : Lossless site (some picture) images) :
    images.image = some picture ∨ images.googleImage = some picture := by
  have hpicture := hlossless.picture
  rw [googlePicture] at hpicture
  split at hpicture
  · rw [Option.or_eq_some_iff] at hpicture
    exact hpicture.imp_right And.right
  · exact .inr hpicture

/-- Columns of another source keep the picture in the second one. -/
theorem Lossless.leave (hlossless : Lossless site saved images) {image : Option Text}
    (himage : avatarSourceOf site image ≠ .google) : Lossless site saved ⟨image, googlePicture site images⟩ := by
  refine ⟨?_, ?_⟩
  · rw [hlossless.picture]
    exact hlossless.source_picture
  · rw [googlePicture]
    simp only [if_neg himage]
    exact hlossless.picture

/-- The second column is the picture, but for another picture in the first one. -/
theorem Lossless.restore (hlossless : Lossless site saved images)
    (hother : avatarSourceOf site images.image = .google → images.image = none ∨ images.image = images.googleImage) :
    Lossless site saved ⟨images.googleImage, images.googleImage⟩ := by
  have hpicture := hlossless.picture
  refine ⟨hlossless.own, ?_⟩
  rw [googlePicture] at hpicture ⊢
  simp only [if_pos hlossless.own, Option.or_self]
  split at hpicture
  · rename_i hgoogle
    obtain hnone | hsame := hother hgoogle
    · rwa [hnone, Option.none_or] at hpicture
    · rwa [hsame, Option.or_self] at hpicture
  · exact hpicture

theorem profileImages_lossless (hsite : site.Standard userId) {row : UserImageRow} (avatar : Option ProfileAvatar)
    (hlossless : Lossless site saved row.images) : Lossless site saved (profileImages site userId avatar row) := by
  cases avatar with
  | none => exact hlossless
  | some avatar =>
    cases avatar with
    | generated =>
      apply hlossless.leave
      rw [avatarSourceOf_generated hsite]
      decide
    | google =>
      rw [profileImages]
      split
      · rename_i hother
        exact hlossless.restore fun hgoogle => absurd hgoogle hother
      · exact hlossless

theorem uploaded_ne_google (hsite : site.Standard userId) (avatarId : Uuid) :
    avatarSourceOf site (some (uploadedAvatarUrl site.authBaseUrl avatarId.1)) ≠ .google := by
  rw [ne_eq, avatarSourceOf_eq_google_iff, (avatarSourceOf_uploaded hsite avatarId).2]
  simp

theorem uploadImages_lossless (hsite : site.Standard userId) {row : UserImageRow} (avatarId : Uuid)
    (hlossless : Lossless site saved row.images) : Lossless site saved (uploadImages site avatarId row) :=
  hlossless.leave (uploaded_ne_google hsite avatarId)

theorem modeImages_google_iff {row : UserImageRow} {avatar : Option Uuid} :
    modeImages site userId .google avatar row = some images ↔ images = ⟨row.googleImage, row.googleImage⟩ := by
  simp only [modeImages, ne_eq, not_true_eq_false, and_false, if_false, Option.some.injEq]
  exact eq_comm

theorem modeImages_lossless (hsite : site.Standard userId) {row : UserImageRow} {mode : AvatarMode}
    {avatar : Option Uuid} (himages : modeImages site userId mode avatar row = some images)
    (hother : mode = .google → avatarSourceOf site row.image = .google →
      row.image = none ∨ row.image = row.googleImage)
    (hlossless : Lossless site saved row.images) : Lossless site saved images := by
  cases mode with
  | google =>
    rw [modeImages_google_iff] at himages
    subst himages
    exact hlossless.restore (hother rfl)
  | identicon =>
    rw [modeImages] at himages
    simp only [ne_eq, reduceCtorEq, not_false_eq_true, and_true, Option.some.injEq] at himages
    subst himages
    apply hlossless.leave
    rw [avatarSourceOf_generated hsite]
    decide
  | upload =>
    rw [modeImages] at himages
    simp only [ne_eq, reduceCtorEq, not_false_eq_true, and_true, Option.map_eq_some_iff] at himages
    obtain ⟨avatarId, -, rfl⟩ := himages
    exact hlossless.leave (uploaded_ne_google hsite avatarId)

end images

section runs

variable {state next : State} {action : Action}

/-- A reference to an upload of the user's. -/
def Stored (site : Site) (userId : Text) (avatars : List UserAvatarRow) (image : Option Text) : Prop :=
  ∀ value url, image = some value → isUploadedAvatarUrl site (some value) = true → site.parse value = some url →
    ∃ avatar ∈ avatars, avatar.userId = userId ∧
      avatar.id.1 = url.pathname.drop UPLOADED_AVATAR_PATH_PREFIX.length

/-- The row of the user, with a valid reference and the picture that was saved. -/
structure Kept (site : Site) (userId : Text) (saved : Option Text) (db : Database) (row : UserImageRow) : Prop where
  found : db.users userId = some row
  stored : Stored site userId db.avatars row.image
  own : isGeneratedAvatarUrl site row.googleImage = false ∧ isUploadedAvatarUrl site row.googleImage = false
  picture : ∀ picture, saved = some picture → row.image = some picture ∨ row.googleImage = some picture

/-- No request has read yet, and the saved picture is the one that the row holds. -/
def Started (site : Site) (userId : Text) (saved : Option Text) (state : State) : Prop :=
  (∀ call, state.calls call = none) ∧ ∃ row, state.db.users userId = some row ∧
    Stored site userId state.db.avatars row.image ∧ Lossless site saved row.images

/-- A write that puts back nothing stale: a profile request without a choice finds the image
that it read, a change to the mode `upload` the upload that it read, and a change to the mode
`google` saw no picture outside of the second column. -/
def Fresh (site : Site) (userId : Text) (state : State) : Action → Prop
  | .write call _ _ =>
    match state.calls call with
    | some ⟨.profile _ none, .selected row _⟩ =>
      (state.db.users userId).map UserImageRow.image = some row.image
    | some ⟨.mode .upload, .selected _ (some avatarId)⟩ =>
      ∃ avatar ∈ state.db.avatars, avatar.userId = userId ∧ avatar.id = avatarId
    | some ⟨.mode .google, .selected row _⟩ =>
      avatarSourceOf site row.image = .google → row.image = none ∨ row.image = row.googleImage
    | _ => True
  | _ => True

/-- A statement that is no stale write. -/
def FreshStep (site : Site) (userId : Text) (state : State) (action : Action) (next : State) : Prop :=
  Fresh site userId state action ∧ perform site userId state action = some next

/-- The write of a request that changes the name alone. -/
def WritesNameOnly (state : State) (action : Action) : Prop :=
  ∃ call avatarId now name row avatar, action = .write call avatarId now ∧
    state.calls call = some ⟨.profile name none, .selected row avatar⟩

theorem fresh_profile_iff {call : Nat} {avatarId : Uuid} {now : Text} {name : Option Text} {row : UserImageRow}
    {read : Option Uuid} (hcall : state.calls call = some ⟨.profile name none, .selected row read⟩) :
    Fresh site userId state (.write call avatarId now) ↔
      (state.db.users userId).map UserImageRow.image = some row.image := by
  simp only [Fresh, hcall]

theorem fresh_upload_iff {call : Nat} {avatarId other : Uuid} {now : Text} {row : UserImageRow}
    (hcall : state.calls call = some ⟨.mode .upload, .selected row (some avatarId)⟩) :
    Fresh site userId state (.write call other now) ↔
      ∃ avatar ∈ state.db.avatars, avatar.userId = userId ∧ avatar.id = avatarId := by
  simp only [Fresh, hcall]

theorem fresh_google_iff {call : Nat} {avatarId : Uuid} {now : Text} {row : UserImageRow} {read : Option Uuid}
    (hcall : state.calls call = some ⟨.mode .google, .selected row read⟩) :
    Fresh site userId state (.write call avatarId now) ↔
      (avatarSourceOf site row.image = .google → row.image = none ∨ row.image = row.googleImage) := by
  simp only [Fresh, hcall]

/-- The row and what the requests have read of it hold the saved picture. -/
structure Holds (site : Site) (userId : Text) (saved : Option Text) (state : State) : Prop where
  current : ∃ row, state.db.users userId = some row ∧ Stored site userId state.db.avatars row.image ∧
    Lossless site saved row.images
  read : ∀ call request row avatar, state.calls call = some ⟨request, .selected row avatar⟩ →
    Lossless site saved row.images

theorem Holds.kept (hholds : Holds site userId saved state) : ∃ row, Kept site userId saved state.db row := by
  obtain ⟨row, hrow, hstored, hlossless⟩ := hholds.current
  refine ⟨row, hrow, hstored, avatarSourceOf_eq_google_iff.mp hlossless.own, ?_⟩
  rintro picture rfl
  exact hlossless.mem

theorem Started.holds (hstart : Started site userId saved state) : Holds site userId saved state := by
  refine ⟨hstart.2, ?_⟩
  intro call request row avatar hcall
  rw [hstart.1 call] at hcall
  cases hcall

/-- A phase that no longer writes, and a row that holds the picture, keep the invariant. -/
theorem Holds.settle {db : Database} {call : Nat} {request : Request} {phase : Phase}
    (hholds : Holds site userId saved state)
    (hcurrent : ∃ row, db.users userId = some row ∧ Stored site userId db.avatars row.image ∧
      Lossless site saved row.images)
    (hphase : ∀ row avatar, phase = .selected row avatar → Lossless site saved row.images) :
    Holds site userId saved (State.setCall { state with db } call request phase) := by
  refine ⟨hcurrent, ?_⟩
  intro other found row avatar hother
  obtain ⟨-, hfound⟩ | ⟨-, hother⟩ := update_eq_some hother
  · cases hfound
    exact hphase row avatar rfl
  · exact hholds.read other found row avatar hother

/-- What a write does, for each kind of request. -/
theorem write_cases {call : Nat} {avatarId : Uuid} {now : Text}
    (hperform : perform site userId state (.write call avatarId now) = some next) :
    (∃ name avatar row read, state.calls call = some ⟨.profile name avatar, .selected row read⟩ ∧
      next = State.setCall { state with db := state.db.updateUser userId fun _ =>
        ⟨name.getD row.name, (profileImages site userId avatar row).image,
          (profileImages site userId avatar row).googleImage⟩ } call (.profile name avatar) .committed) ∨
    (∃ row read, state.calls call = some ⟨.upload, .selected row read⟩ ∧
      (next = state.setCall call .upload .thrown ∨
        ∃ db, state.db.replaceAvatar userId ⟨avatarId, userId, now⟩ (uploadImages site avatarId row) = some db ∧
          next = State.setCall { state with db } call .upload .committed)) ∨
    ∃ mode avatar row images, state.calls call = some ⟨.mode mode, .selected row avatar⟩ ∧
      modeImages site userId mode avatar row = some images ∧
      next = State.setCall { state with db := state.db.updateUser userId fun current =>
        { current with image := images.image, googleImage := images.googleImage } } call (.mode mode) .committed := by
  rw [perform] at hperform
  split at hperform
  · rename_i name avatar row read hcall
    exact .inl ⟨name, avatar, row, read, hcall, (Option.some.inj hperform).symm⟩
  · rename_i row read hcall
    refine .inr (.inl ⟨row, read, hcall, ?_⟩)
    split at hperform
    · exact .inl (Option.some.inj hperform).symm
    · rename_i db hdb
      exact .inr ⟨db, hdb, (Option.some.inj hperform).symm⟩
  · rename_i mode row avatar hcall
    split at hperform
    · cases hperform
    · rename_i images himages
      exact .inr (.inr ⟨mode, avatar, row, images, hcall, himages, (Option.some.inj hperform).symm⟩)
  · cases hperform

/-- The steps that only read. -/
theorem read_cases (hperform : perform site userId state action = some next)
    (hread : ∀ call avatarId now, action ≠ .write call avatarId now) :
    ∃ call request phase, next = state.setCall call request phase ∧
      ∀ row avatar, phase = .selected row avatar → state.db.users userId = some row ∨
        ∃ earlier request read, state.calls earlier = some ⟨request, .selected row read⟩ := by
  cases action with
  | write call avatarId now => exact absurd rfl (hread call avatarId now)
  | select call request =>
    rw [perform] at hperform
    split at hperform
    · cases hperform
    · split at hperform
      · exact ⟨call, request, _, (Option.some.inj hperform).symm, fun _ _ hphase => by cases hphase⟩
      · rename_i row hrow
        refine ⟨call, request, _, (Option.some.inj hperform).symm, ?_⟩
        rintro found avatar hphase
        cases hphase
        exact .inl hrow
  | findAvatar call =>
    rw [perform] at hperform
    split at hperform
    · rename_i row hcall
      split at hperform
      · exact ⟨call, _, _, (Option.some.inj hperform).symm, fun _ _ hphase => by cases hphase⟩
      · refine ⟨call, _, _, (Option.some.inj hperform).symm, ?_⟩
        rintro found avatar hphase
        cases hphase
        exact .inr ⟨call, _, none, hcall⟩
    · cases hperform

theorem Database.updateUser_found {db : Database} {row : UserImageRow} (hrow : db.users userId = some row)
    (change : UserImageRow → UserImageRow) : (db.updateUser userId change).users userId = some (change row) := by
  rw [Database.updateUser]
  simp only
  rw [Function.update_self, hrow, Option.map_some]

theorem stored_of_not_uploaded {avatars : List UserAvatarRow} {image : Option Text}
    (himage : isUploadedAvatarUrl site image = false) : Stored site userId avatars image := by
  rintro value url rfl huploaded -
  rw [himage] at huploaded
  cases huploaded

theorem stored_of_mem (hsite : site.Standard userId) {avatars : List UserAvatarRow} {avatar : UserAvatarRow}
    (hmem : avatar ∈ avatars) (hown : avatar.userId = userId) :
    Stored site userId avatars (some (uploadedAvatarUrl site.authBaseUrl avatar.id.1)) := by
  rintro value url hvalue - hparse
  rw [Option.some.injEq] at hvalue
  subst hvalue
  rw [hsite.uploaded, Option.some.injEq] at hparse
  subst hparse
  exact ⟨avatar, hmem, hown, List.drop_left.symm⟩

theorem generated_not_uploaded (hsite : site.Standard userId) :
    isUploadedAvatarUrl site (some (generatedAvatarUrl site.authBaseUrl userId)) = false := by
  rw [isUploadedAvatarUrl_of_parse (generatedAvatarUrl_ne_nil _ _) hsite.generated, if_pos]
  right
  intro hbegins
  cases hbegins

theorem Lossless.not_uploaded {images : Images} (hlossless : Lossless site saved images) :
    isUploadedAvatarUrl site images.googleImage = false :=
  (avatarSourceOf_eq_google_iff.mp hlossless.own).2

/-- A profile request with a choice writes no uploaded URL, and one without writes the image
that it read. -/
theorem profileImages_stored (hsite : site.Standard userId) {avatars : List UserAvatarRow} {row current : UserImageRow}
    {avatar : Option ProfileAvatar} (hlossless : Lossless site saved row.images)
    (hstored : Stored site userId avatars current.image) (hfresh : avatar = none → current.image = row.image) :
    Stored site userId avatars (profileImages site userId avatar row).image := by
  cases avatar with
  | none =>
    rw [profileImages, ← hfresh rfl]
    exact hstored
  | some avatar =>
    cases avatar with
    | generated => exact stored_of_not_uploaded (generated_not_uploaded hsite)
    | google =>
      rw [profileImages]
      by_cases hgoogle : avatarSourceOf site row.image = .google
      · rw [if_neg (not_not.mpr hgoogle)]
        exact stored_of_not_uploaded (avatarSourceOf_eq_google_iff.mp hgoogle).2
      · rw [if_pos hgoogle]
        exact stored_of_not_uploaded hlossless.not_uploaded

/-- A change of mode writes no uploaded URL but that of the upload that it found. -/
theorem modeImages_stored (hsite : site.Standard userId) {avatars : List UserAvatarRow} {row : UserImageRow}
    {mode : AvatarMode} {avatar : Option Uuid} {images : Images} (hlossless : Lossless site saved row.images)
    (himages : modeImages site userId mode avatar row = some images)
    (hfresh : ∀ avatarId, mode = .upload → avatar = some avatarId →
      ∃ avatar ∈ avatars, avatar.userId = userId ∧ avatar.id = avatarId) :
    Stored site userId avatars images.image := by
  cases mode with
  | google =>
    rw [modeImages_google_iff] at himages
    subst himages
    exact stored_of_not_uploaded hlossless.not_uploaded
  | identicon =>
    cases himages
    exact stored_of_not_uploaded (generated_not_uploaded hsite)
  | upload =>
    rw [modeImages, Option.map_eq_some_iff] at himages
    obtain ⟨avatarId, havatar, rfl⟩ := himages
    obtain ⟨found, hmem, hown, rfl⟩ := hfresh avatarId rfl havatar
    exact stored_of_mem hsite hmem hown

/-- The batch of an upload leaves its own row and the reference to it. -/
theorem replaceAvatar_spec {db changed : Database} {avatar : UserAvatarRow} {images : Images}
    (hchanged : db.replaceAvatar userId avatar images = some changed) :
    avatar ∈ changed.avatars ∧ ∃ row, db.users userId = some row ∧
      changed.users userId = some { row with image := images.image, googleImage := images.googleImage } := by
  rw [Database.replaceAvatar] at hchanged
  split at hchanged
  · cases hchanged
  · rename_i hkeys
    rw [not_or] at hkeys
    obtain ⟨row, hrow⟩ := Option.ne_none_iff_exists'.mp hkeys.2
    rw [Option.some.injEq] at hchanged
    subst hchanged
    exact ⟨List.mem_append_right _ List.mem_cons_self, row, hrow, Database.updateUser_found hrow _⟩

/-- A fresh step keeps the saved picture and the reference. -/
theorem perform_holds (hsite : site.Standard userId) (hholds : Holds site userId saved state)
    (hfresh : Fresh site userId state action) (hperform : perform site userId state action = some next) :
    Holds site userId saved next := by
  by_cases hwrites : ∃ call avatarId now, action = .write call avatarId now
  · obtain ⟨call, avatarId, now, rfl⟩ := hwrites
    obtain ⟨current, hcurrent, hstored, hlossless⟩ := hholds.current
    obtain ⟨name, avatar, row, read, hcall, rfl⟩ | ⟨row, read, hcall, rfl | ⟨db, hdb, rfl⟩⟩ |
      ⟨mode, avatar, row, images, hcall, himages, rfl⟩ := write_cases hperform
    · have hread := hholds.read _ _ _ _ hcall
      refine hholds.settle ⟨_, Database.updateUser_found hcurrent _, ?_, profileImages_lossless hsite avatar hread⟩
        (fun _ _ hphase => by cases hphase)
      apply profileImages_stored hsite hread hstored
      rintro rfl
      rwa [fresh_profile_iff hcall, hcurrent, Option.map_some, Option.some.injEq] at hfresh
    · exact hholds.settle hholds.current (fun _ _ hphase => by cases hphase)
    · obtain ⟨hmem, found, -, hfound⟩ := replaceAvatar_spec hdb
      exact hholds.settle ⟨_, hfound, stored_of_mem hsite hmem rfl,
        uploadImages_lossless hsite avatarId (hholds.read _ _ _ _ hcall)⟩ (fun _ _ hphase => by cases hphase)
    · have hread := hholds.read _ _ _ _ hcall
      refine hholds.settle ⟨_, Database.updateUser_found hcurrent _, ?_, ?_⟩ (fun _ _ hphase => by cases hphase)
      · apply modeImages_stored hsite hread himages
        rintro found rfl rfl
        exact (fresh_upload_iff hcall).mp hfresh
      · refine modeImages_lossless hsite himages ?_ hread
        rintro rfl
        exact (fresh_google_iff hcall).mp hfresh
  · have hread : ∀ call avatarId now, action ≠ .write call avatarId now :=
      fun call avatarId now haction => hwrites ⟨call, avatarId, now, haction⟩
    obtain ⟨call, request, phase, rfl, hphase⟩ := read_cases hperform hread
    apply hholds.settle hholds.current
    intro row avatar hselected
    obtain hrow | ⟨earlier, other, read, hearlier⟩ := hphase row avatar hselected
    · obtain ⟨current, hcurrent, -, hlossless⟩ := hholds.current
      rw [hcurrent, Option.some.injEq] at hrow
      exact hrow ▸ hlossless
    · exact hholds.read _ _ _ _ hearlier

/-- The image of the user's row. -/
def State.image (state : State) (userId : Text) : Option (Option Text) :=
  (state.db.users userId).map UserImageRow.image

/-- A fresh write of a name alone leaves the image. -/
theorem perform_image (hfresh : Fresh site userId state action) (hname : WritesNameOnly state action)
    (hperform : perform site userId state action = some next) : next.image userId = state.image userId := by
  obtain ⟨call, avatarId, now, name, row, read, rfl, hcall⟩ := hname
  rw [fresh_profile_iff hcall] at hfresh
  obtain ⟨current, hcurrent, -⟩ := Option.map_eq_some_iff.mp hfresh
  simp only [perform, hcall, Option.some.injEq] at hperform
  subst hperform
  rw [State.image, State.image, hfresh, State.setCall, Database.updateUser_found hcurrent]
  rfl

/-- A write that is not fresh undoes a change of the image, leaves a reference to no upload or
loses the saved picture. -/
theorem fresh_of_kept (hsite : site.Standard userId) (hholds : Holds site userId saved state)
    (hperform : perform site userId state action = some next)
    (hkept : ∃ row, Kept site userId saved next.db row)
    (himage : WritesNameOnly state action → next.image userId = state.image userId) :
    Fresh site userId state action := by
  cases action with
  | select call request => trivial
  | findAvatar call => trivial
  | write call avatarId now =>
    obtain ⟨current, hcurrent, -, -⟩ := hholds.current
    obtain ⟨kept, hkept⟩ := hkept
    obtain ⟨name, avatar, row, read, hcall, rfl⟩ | ⟨row, read, hcall, -⟩ |
      ⟨mode, avatar, row, images, hcall, himages, rfl⟩ := write_cases hperform
    · cases avatar with
      | some avatar => simp only [Fresh, hcall]
      | none =>
        have hsame := himage ⟨call, avatarId, now, name, row, read, rfl, hcall⟩
        rw [State.image, State.setCall, Database.updateUser_found hcurrent, Option.map_some] at hsame
        exact (fresh_profile_iff hcall).mpr hsame.symm
    · simp only [Fresh, hcall]
    · have hfound := hkept.found
      rw [State.setCall, Database.updateUser_found hcurrent, Option.some.injEq] at hfound
      subst hfound
      cases mode with
      | identicon => simp only [Fresh, hcall]
      | upload =>
        rw [modeImages, Option.map_eq_some_iff] at himages
        obtain ⟨found, rfl, rfl⟩ := himages
        rw [fresh_upload_iff hcall]
        obtain ⟨avatar, hmem, hown, hid⟩ := hkept.stored _ _ rfl (avatarSourceOf_uploaded hsite found).2
          (hsite.uploaded found)
        rw [List.drop_left] at hid
        exact ⟨avatar, hmem, hown, Subtype.ext hid⟩
      | google =>
        rw [fresh_google_iff hcall]
        intro hgoogle
        cases himage : row.image with
        | none => exact .inl rfl
        | some image =>
          have hpicture := (hholds.read _ _ _ _ hcall).picture
          rw [googlePicture, if_pos (show avatarSourceOf site row.images.image = .google from hgoogle)] at hpicture
          simp only [UserImageRow.images, himage, Option.some_or] at hpicture
          rw [modeImages_google_iff] at himages
          subst himages
          obtain hfirst | hsecond := hkept.picture image hpicture.symm
          · exact .inr hfirst.symm
          · exact .inr hsecond.symm

/-- In every interleaving of fresh writes the reference stays valid, the second column holds
no URL of the site and the saved picture is in one of the columns; and a further step keeps
this, and the image when it writes a name alone, exactly when it is fresh. -/
theorem picture_kept_iff_fresh (site : Site) (userId : Text) (saved : Option Text) (hsite : site.Standard userId)
    (past : List Action) (state : State)
    (htrace : Trace (Started site userId saved) (FreshStep site userId) past state) :
    (∃ row, Kept site userId saved state.db row) ∧
    ∀ action next, perform site userId state action = some next →
      ((∃ row, Kept site userId saved next.db row) ∧
          (WritesNameOnly state action → next.image userId = state.image userId) ↔
        Fresh site userId state action) := by
  have hholds : Holds site userId saved state := by
    induction htrace with
    | start hstart => exact hstart.holds
    | step _ hstep ih => exact perform_holds hsite ih hstep.1 hstep.2
  refine ⟨hholds.kept, ?_⟩
  intro action next hperform
  constructor
  · rintro ⟨hkept, himage⟩
    exact fresh_of_kept hsite hholds hperform hkept himage
  · intro hfresh
    exact ⟨(perform_holds hsite hholds hfresh hperform).kept, fun hname => perform_image hfresh hname hperform⟩

/-- The site, whose parser reads the URLs of its own origin that have no query. -/
def exampleSite : Site where
  authBaseUrl := Text.of "https://sso.pg72.tw"
  parse value :=
    if (Text.of "https://sso.pg72.tw").isPrefixOf value then
      some ⟨Text.of "https://sso.pg72.tw", value.drop (Text.of "https://sso.pg72.tw").length⟩
    else if (Text.of "https://lh3.googleusercontent.com").isPrefixOf value then
      some ⟨Text.of "https://lh3.googleusercontent.com",
        value.drop (Text.of "https://lh3.googleusercontent.com").length⟩
    else none

theorem parse_example (rest : Text) : exampleSite.parse (Text.of "https://sso.pg72.tw" ++ rest) =
    some ⟨Text.of "https://sso.pg72.tw", rest⟩ := by
  rw [exampleSite]
  simp only
  rw [if_pos, List.drop_left]
  rw [List.isPrefixOf_iff_prefix]
  exact List.prefix_append _ _

theorem standard_example (userId : Text) : exampleSite.Standard userId := by
  refine ⟨?_, ?_⟩
  · rw [generatedAvatarUrl, List.append_assoc, List.append_assoc, List.append_assoc]
    exact parse_example _
  · intro avatarId
    rw [uploadedAvatarUrl, List.append_assoc]
    exact parse_example _

def googlePictureExample : Text := Text.of "https://lh3.googleusercontent.com/a/p"

def firstUpload : Uuid := ⟨Text.of "11111111-1111-4111-8111-111111111111", by decide⟩

def secondUpload : Uuid := ⟨Text.of "22222222-2222-4222-8222-222222222222", by decide⟩

/-- A user of Google whose picture has never been changed. -/
def startExample : State where
  db := ⟨fun _ => some ⟨Text.of "Alice", some googlePictureExample, none⟩, []⟩
  calls _ := none

theorem started_example : Started exampleSite (Text.of "alice") (some googlePictureExample) startExample := by
  refine ⟨fun _ => rfl, _, rfl, ?_, ⟨by decide, by decide⟩⟩
  exact stored_of_not_uploaded (by decide)

/-- The state after some statements in turn. -/
def after (state : State) (actions : List Action) : State :=
  (replay (labelled (perform exampleSite (Text.of "alice"))) state actions).2

/-- A request that writes, after some others. -/
theorem freshTrace_after {past : List Action} (action : Action)
    (htrace : Trace (Started exampleSite (Text.of "alice") (some googlePictureExample))
      (FreshStep exampleSite (Text.of "alice")) past (after startExample past))
    (hfresh : Fresh exampleSite (Text.of "alice") (after startExample past) action)
    (hperforms : perform exampleSite (Text.of "alice") (after startExample past) action ≠ none) :
    Trace (Started exampleSite (Text.of "alice") (some googlePictureExample))
      (FreshStep exampleSite (Text.of "alice")) (past ++ [action]) (after startExample (past ++ [action])) := by
  obtain ⟨next, hnext⟩ := Option.ne_none_iff_exists'.mp hperforms
  have hafter : after startExample (past ++ [action]) = next := by
    rw [after, replay, List.foldl_append, List.foldl_cons, List.foldl_nil, labelled]
    rw [after, replay] at hnext
    rw [hnext]
    rfl
  exact hafter ▸ .step htrace ⟨hfresh, hnext⟩

/-- A name is saved and a picture is uploaded, both by requests that have read the row before. -/
def interleavedExample : List Action :=
  [.select 0 (.profile (some (Text.of "Bob")) none), .select 1 .upload, .write 0 firstUpload [],
    .write 1 firstUpload []]

theorem picture_kept_iff_fresh_interleaved :
    Kept exampleSite (Text.of "alice") (some googlePictureExample) (after startExample interleavedExample).db
      ⟨Text.of "Bob", some (uploadedAvatarUrl (Text.of "https://sso.pg72.tw") firstUpload.1),
        some googlePictureExample⟩ := by
  have hfirst := freshTrace_after (.select 0 (.profile (some (Text.of "Bob")) none)) (.start started_example)
    trivial (by decide)
  have hsecond := freshTrace_after (.select 1 .upload) hfirst trivial (by decide)
  have hthird := freshTrace_after (.write 0 firstUpload []) hsecond ((fresh_profile_iff rfl).mpr rfl) (by decide)
  have htrace := freshTrace_after (.write 1 firstUpload []) hthird trivial (by decide)
  obtain ⟨⟨row, hkept⟩, -⟩ := picture_kept_iff_fresh exampleSite (Text.of "alice") (some googlePictureExample)
    (standard_example _) _ _ htrace
  have hfound := hkept.found
  cases hfound
  exact hkept

/-- A user of Google with one upload. -/
def uploadedExample : State where
  db := ⟨fun _ => some ⟨Text.of "Alice", some (uploadedAvatarUrl (Text.of "https://sso.pg72.tw") firstUpload.1),
      some googlePictureExample⟩, [⟨firstUpload, Text.of "alice", []⟩]⟩
  calls _ := none

/-- A new name is saved while an upload replaces the picture. -/
def overtakenExample : List Action :=
  [.select 0 (.profile (some (Text.of "Bob")) none), .select 1 .upload, .write 1 secondUpload []]

/-- The mode `google` loses the Google picture of a user who has never left it; and a change of
the name brings back the URL of an upload that another request has replaced. -/
theorem picture_not_kept :
    Started exampleSite (Text.of "alice") (some googlePictureExample) startExample ∧
    ((after startExample [.select 0 (.mode .google), .write 0 firstUpload []]).db.users (Text.of "alice")) =
      some ⟨Text.of "Alice", none, none⟩ ∧
    Started exampleSite (Text.of "alice") (some googlePictureExample) uploadedExample ∧
    WritesNameOnly (after uploadedExample overtakenExample) (.write 0 firstUpload []) ∧
    (after uploadedExample overtakenExample).image (Text.of "alice") =
      some (some (uploadedAvatarUrl (Text.of "https://sso.pg72.tw") secondUpload.1)) ∧
    (after uploadedExample (overtakenExample ++ [.write 0 firstUpload []])).image (Text.of "alice") =
      some (some (uploadedAvatarUrl (Text.of "https://sso.pg72.tw") firstUpload.1)) ∧
    ((after uploadedExample (overtakenExample ++ [.write 0 firstUpload []])).db.avatars.map UserAvatarRow.id) =
      [secondUpload] := by
  refine ⟨started_example, by decide, ⟨fun _ => rfl, _, rfl, ?_, ⟨by decide, by decide⟩⟩,
    ⟨0, firstUpload, [], some (Text.of "Bob"), _, none, rfl, rfl⟩, by decide, by decide, by decide⟩
  exact stored_of_mem (standard_example (Text.of "alice")) (List.mem_singleton_self _) rfl

end runs

end pgid.account
