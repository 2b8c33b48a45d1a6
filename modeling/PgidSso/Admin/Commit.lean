import PgidSso.Library.Text

namespace pgid.administration

inductive PlatformRole where
  | bootadmin
  | admin
  | developer
  | user
  deriving DecidableEq

inductive AccountAccessLevel where
  | standard
  | restricted
  deriving DecidableEq

inductive UserStatus where
  | active
  | suspended
  deriving DecidableEq

/-- What the administration reads of a row of `user`; the triggers of the table admit no
other roles, statuses and access levels. -/
structure UserRow where
  id : Text
  email : Text
  role : Option PlatformRole
  status : UserStatus
  accessLevel : AccountAccessLevel
  deriving DecidableEq

/-- What the administration reads of a row of `session`; the instants are in milliseconds. -/
structure SessionRow where
  id : Text
  userId : Text
  expiresAt : Int
  deriving DecidableEq

/-- The actor as the gate of a request has seen it. -/
structure AdminActorCommitGuard where
  expectedEmail : Text
  expectedRole : Option PlatformRole
  sessionId : Text
  userId : Text
  deriving DecidableEq

/-- `ADMIN_ACTOR_COMMIT_PREDICATE`, in a statement that is evaluated at an instant. -/
def AdminActorCommitGuard.Commits (guard : AdminActorCommitGuard) (users : List UserRow)
    (sessions : List SessionRow) (now : Int) : Prop :=
  ∃ user ∈ users, user.id = guard.userId ∧ user.email = guard.expectedEmail ∧
    user.role = guard.expectedRole ∧ user.status = .active ∧ user.accessLevel = .standard ∧
    ∃ session ∈ sessions, session.id = guard.sessionId ∧ session.userId = user.id ∧ now < session.expiresAt

instance (guard : AdminActorCommitGuard) (users : List UserRow) (sessions : List SessionRow) (now : Int) :
    Decidable (guard.Commits users sessions now) := by
  unfold AdminActorCommitGuard.Commits
  infer_instance

/-- A session that lives at an instant lives at the instants before. -/
theorem AdminActorCommitGuard.Commits.earlier {guard : AdminActorCommitGuard} {users : List UserRow}
    {sessions : List SessionRow} {earlier now : Int} (hle : earlier ≤ now)
    (hcommits : guard.Commits users sessions now) : guard.Commits users sessions earlier := by
  obtain ⟨user, huser, hid, hemail, hrole, hstatus, haccess, session, hsession, hsessionId, howner, hlive⟩ :=
    hcommits
  exact ⟨user, huser, hid, hemail, hrole, hstatus, haccess, session, hsession, hsessionId, howner,
    hle.trans_lt hlive⟩

end pgid.administration
