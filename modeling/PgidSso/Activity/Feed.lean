import PgidSso.Library.Base64
import PgidSso.Library.Json
import PgidSso.Library.Keyset
import PgidSso.Library.Pattern

/-! The security activity of an account: its feed, page by page, and the cursor between
the pages. -/

namespace pgid.activity

/-- The event types of the feed and their labels. -/
def SELF_ACTIVITY_SUMMARIES : List (String × String) :=
  [("user.login_succeeded", "登入成功"),
    ("passkey.registered", "新增 Passkey"),
    ("passkey.renamed", "重新命名 Passkey"),
    ("passkey.deleted", "移除 Passkey"),
    ("passkey.delete_blocked", "拒絕移除最後的登入方式"),
    ("passkey.step_up_succeeded", "Passkey 驗證成功"),
    ("passkey.step_up_failed", "Passkey 驗證失敗"),
    ("recovery.codes_issued", "建立新的帳號復原碼"),
    ("recovery.codes_revoked", "撤銷帳號復原碼"),
    ("recovery.started", "使用復原碼開始帳號復原"),
    ("recovery.passkey_failed", "帳號復原 Passkey 驗證失敗"),
    ("recovery.completed", "完成帳號復原並撤銷所有工作階段"),
    ("session.revoked", "登出單一裝置"),
    ("session.revoked_others", "登出其他裝置"),
    ("session.revoked_all", "登出所有裝置"),
    ("user.sessions_revoked", "管理員撤銷你的登入工作階段"),
    ("user.suspended", "帳號被停權"),
    ("user.reactivated", "帳號恢復啟用"),
    ("oauth.consent_granted", "授權應用程式"),
    ("oauth.consent_revoked", "撤銷應用程式授權"),
    ("account.linked", "連結登入方式"),
    ("account.unlinked", "解除登入方式連結"),
    ("user.profile_updated", "更新個人資料"),
    ("user.avatar_updated", "更新頭貼"),
    ("user.role_changed", "平台角色變更")]

def SELF_ACTIVITY_EVENT_TYPES : List Text :=
  SELF_ACTIVITY_SUMMARIES.map fun entry => Text.of entry.1

def SECURITY_ACTIVITY_PAGE_SIZE : Nat := 25

/-- The texts of `crypto.randomUUID()`. -/
def randomUuid : List (UInt16 → Bool) :=
  List.replicate 8 Text.isHex ++ Text.exactly '-' :: List.replicate 4 Text.isHex ++
    [Text.exactly '-', Text.exactly '4', Text.isHex, Text.isHex, Text.isHex, Text.exactly '-', Text.isHex,
      Text.isHex, Text.isHex, Text.isHex, Text.exactly '-'] ++ List.replicate 12 Text.isHex

/-- The 24 characters of a canonical timestamp. -/
def canonicalTime : List (UInt16 → Bool) :=
  List.replicate 4 Text.isDigit ++
    [Text.exactly '-', Text.isDigit, Text.isDigit, Text.exactly '-', Text.isDigit, Text.isDigit, Text.exactly 'T',
      Text.isDigit, Text.isDigit, Text.exactly ':', Text.isDigit, Text.isDigit, Text.exactly ':', Text.isDigit,
      Text.isDigit, Text.exactly '.', Text.isDigit, Text.isDigit, Text.isDigit, Text.exactly 'Z']

/-- A row of `audit_event`, as far as the feed reads it. Its id is a random UUID, and its
time has the canonical form that the triggers of the table demand. -/
structure AuditEvent where
  id : Text
  event_type : Text
  subject_id : Option Text
  metadata_json : Option Text
  occurred_at : Text
  randomId : Text.fits randomUuid id = true
  canonical : Text.fits canonicalTime occurred_at = true
  deriving DecidableEq

/-- The place of an event in the feed. -/
structure Position where
  occurredAt : Text
  id : Text
  deriving DecidableEq

def AuditEvent.position (event : AuditEvent) : Position :=
  ⟨event.occurred_at, event.id⟩

/-- The byte of a character; `btoa` throws for a character that has none. -/
def byteOf? (code : UInt16) : Option UInt8 :=
  if code < 0x100 then some (UInt8.ofNat code.toNat) else none

/-- The bytes of a text that has one byte for each character. -/
def latin1? (text : Text) : Option (List UInt8) :=
  text.mapM byteOf?

def latin1 (bytes : List UInt8) : Text :=
  bytes.map fun byte => UInt16.ofNat byte.toNat

/-- `btoa` with `+` and `/` replaced by `-` and `_` and without padding is the unpadded
base64url. -/
def encodeActivityCursor (occurredAt id : Text) : Option Text :=
  (latin1? (occurredAt ++ Text.unit '|' :: id)).map base64.encode

/-- `[A-Za-z0-9_-]` -/
def isCursorCode (code : UInt16) : Bool :=
  (Text.unit 'A' ≤ code ∧ code ≤ Text.unit 'Z') ∨ (Text.unit 'a' ≤ code ∧ code ≤ Text.unit 'z') ∨
    (Text.unit '0' ≤ code ∧ code ≤ Text.unit '9') ∨ code = Text.unit '_' ∨ code = Text.unit '-'

def decodeActivityCursor (cursor : Text) : Option Position :=
  if 256 < cursor.length ∨ cursor = [] ∨ ¬ cursor.all isCursorCode then none
  else
    match (base64.decode cursor).map latin1 with
    | none => none
    | some decoded =>
      match decoded.findIdx? fun code => code = Text.unit '|' with
      | none | some 0 => none
      | some separator =>
        let occurredAt := decoded.take separator
        let id := decoded.drop (separator + 1)
        if occurredAt = [] ∨ id = [] then none else some ⟨occurredAt, id⟩

def summaryForEvent (eventType : Text) : Text :=
  match SELF_ACTIVITY_SUMMARIES.find? fun entry => Text.of entry.1 = eventType with
  | some entry => Text.of entry.2
  | none => eventType

def providerFromMetadata (metadataJson : Option Text) : Option Text :=
  match metadataJson.bind json.parse with
  | some (.object members) => json.text? (json.member members "provider")
  | _ => none

/-- An event as the feed shows it; an empty provider is left out. -/
structure ActivityEvent where
  id : Text
  type : Text
  at_ : Text
  summary : Text
  provider : Option Text
  deriving DecidableEq

def AuditEvent.shown (row : AuditEvent) : ActivityEvent where
  id := row.id
  type := row.event_type
  at_ := row.occurred_at
  summary := summaryForEvent row.event_type
  provider := (providerFromMetadata row.metadata_json).filter fun provider => provider ≠ []

/-- `left < right` of two columns. The binary collation of texts without surrogates is by
their code units. -/
def less (left right : Text) : Bool :=
  !Text.precedes right left

/-- `subject_id = ? AND event_type IN (…)`. -/
def inFeed (userId : Text) (row : AuditEvent) : Bool :=
  row.subject_id = some userId && row.event_type ∈ SELF_ACTIVITY_EVENT_TYPES

/-- `occurred_at < ? OR (occurred_at = ? AND id < ?)`, where there is a cursor. -/
def afterCursor (cursor : Option Position) (row : AuditEvent) : Bool :=
  cursor.all fun last =>
    less row.occurred_at last.occurredAt || (row.occurred_at = last.occurredAt && less row.id last.id)

/-- `ORDER BY occurred_at DESC, id DESC`. -/
def descending (left right : AuditEvent) : Bool :=
  less right.occurred_at left.occurred_at ||
    (left.occurred_at = right.occurred_at && Text.precedes right.id left.id)

def selectActivity (table : List AuditEvent) (userId : Text) (cursor : Option Position) : List AuditEvent :=
  ((table.filter fun row => inFeed userId row && afterCursor cursor row).mergeSort descending).take
    (SECURITY_ACTIVITY_PAGE_SIZE + 1)

inductive ActivityResponse where
  | page (events : List ActivityEvent) (nextCursor : Option Text)
  | invalid_cursor
  | thrown
  deriving DecidableEq

/-- The page after a cursor. -/
def activityPage (table : List AuditEvent) (userId : Text) (cursor : Option Position) : ActivityResponse :=
  let rows := selectActivity table userId cursor
  let hasMore := SECURITY_ACTIVITY_PAGE_SIZE < rows.length
  let page := if hasMore then rows.take SECURITY_ACTIVITY_PAGE_SIZE else rows
  let events := page.map AuditEvent.shown
  match if hasMore then page.getLast? else none with
  | none => .page events none
  | some last =>
    match encodeActivityCursor last.occurred_at last.id with
    | none => .thrown
    | some nextCursor => .page events (some nextCursor)

/-- `GET /api/account/security-activity` of a signed-in user. -/
def getSecurityActivity (table : List AuditEvent) (userId : Text) (cursorParam : Option Text) : ActivityResponse :=
  match cursorParam with
  | none => activityPage table userId none
  | some param =>
    match decodeActivityCursor param with
    | none => .invalid_cursor
    | some cursor => activityPage table userId (some cursor)

/-- What a client gets that follows `nextCursor` until it is absent. The table may be
another one at each request. -/
def followActivity (tables : Nat → List AuditEvent) (userId : Text) :
    Nat → Nat → Option Text → Option (List ActivityEvent)
  | 0, _, _ => none
  | fuel + 1, request, cursor =>
    match getSecurityActivity (tables request) userId cursor with
    | .page events none => some events
    | .page events (some next) => (followActivity tables userId fuel (request + 1) (some next)).map (events ++ ·)
    | .invalid_cursor | .thrown => none

end pgid.activity
