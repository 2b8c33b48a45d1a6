import PgidSso.Alert.Lifecycle.Resolution
import PgidSso.Alert.Store.Normalized
import PgidSso.Alert.Queue.Sustained
import PgidSso.Alert.Runtime.Alive
import PgidSso.Archive.Sealable
import PgidSso.Logout.Consistent
import PgidSso.Passkey.SingleUse
import PgidSso.Registration.Invited
import PgidSso.Registration.SingleUse
import PgidSso.Session.AllOrNothing
import PgidSso.Recovery.SingleUse
import PgidSso.Client.Lossless
import PgidSso.Admin.Authorized
import PgidSso.SignIn.LastMethod
import PgidSso.Archive.Agreement
import PgidSso.Archive.StoredObject
import PgidSso.Archive.Claimed
import PgidSso.Archive.Restored
import PgidSso.Profile.Declared
import PgidSso.Activity.Pagination
import PgidSso.Telegram.Signed
import PgidSso.OAuth.Verified
import PgidSso.Profile.Lossless
import PgidSso.Client.Redirect
import PgidSso.Deletion.Atomic
import PgidSso.Alert.Logout.Consistent
import PgidSso.Alert.Orchestration.Digest
import PgidSso.Archive.Chunked
import PgidSso.Archive.Selected
import PgidSso.Recovery.Spelling
import PgidSso.Alert.Severity.Worsens
import PgidSso.Scan.Escape
import PgidSso.Alert.Orchestration.Normal
import PgidSso.Alert.Orchestration.Flood
import PgidSso.Archive.Codec
import PgidSso.Scan.Encoding
import PgidSso.Alert.Runtime.Manifests
import PgidSso.Alert.Runtime.Mutual
import PgidSso.Alert.Orchestration.Sealable
