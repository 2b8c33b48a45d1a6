import PgidSso.Library.ParseInt
import PgidSso.Library.Timestamp

/-! The payload of the Telegram login widget and its verification. -/

namespace pgid.telegram

def TELEGRAM_AUTH_MAX_AGE_SECONDS : Int := 300

def TELEGRAM_AUTH_FUTURE_SKEW_SECONDS : Int := 60

structure TelegramUser where
  id : Text
  firstName : Option Text
  lastName : Option Text
  username : Option Text
  photoUrl : Option Text
  deriving DecidableEq

inductive TelegramVerification where
  | ok (user : TelegramUser)
  | error (error : String)
  deriving DecidableEq

/-- The digest and the message authentication code of the platform. -/
structure SubtleCrypto where
  sha256 : List UInt8 → List UInt8
  hmacSha256 : List UInt8 → List UInt8 → List UInt8

/-- The own properties of a `Record<string, string>`. -/
abbrev StringMap := List (Text × Text)

/-- `map[key] = value`; the setter of `__proto__` takes no string. -/
def StringMap.set (map : StringMap) (key value : Text) : StringMap :=
  if key = Text.of "__proto__" then map
  else if map.any fun entry => entry.1 = key then
    map.map fun entry => if entry.1 = key then (key, value) else entry
  else map ++ [(key, value)]

/-- `map.key`. -/
def StringMap.get (map : StringMap) (key : String) : Option Text :=
  map.lookup (Text.of key)

def toHex (bytes : List UInt8) : Text :=
  bytes.flatMap fun byte => Text.padStart 2 (Text.hexadecimal byte.toNat)

def timingSafeEqualHex (a b : Text) : Bool :=
  if a.length ≠ b.length then false
  else (List.zip a b).foldl (fun diff codes => diff ||| (codes.1 ^^^ codes.2)) 0 = 0

/-- `[0-9a-f]` without regard to case. -/
def isHexLetter (code : UInt16) : Bool :=
  Text.isHex code || (Text.unit 'A' ≤ code ∧ code ≤ Text.unit 'F')

/-- `hash.toLowerCase()` of hexadecimal digits. -/
def toLowerCase (hash : Text) : Text :=
  hash.map fun code => if Text.unit 'A' ≤ code ∧ code ≤ Text.unit 'Z' then code + 32 else code

/-- Every field but the hash, sorted and joined. -/
def dataCheckString (data : StringMap) : Text :=
  Text.joinLines ((Text.sorted ((data.map Prod.fst).filter fun key => key ≠ Text.of "hash")).map fun key =>
    key ++ Text.unit '=' :: (data.lookup key).getD (Text.of "undefined"))

def verifyTelegramAuth (crypto : SubtleCrypto) (data : StringMap) (botToken : Text) (now : Timestamp) :
    TelegramVerification :=
  match data.get "hash" with
  | none => .error "invalid_telegram_auth"
  | some hash =>
    if ¬ (hash.length = 64 ∧ hash.all isHexLetter) then .error "invalid_telegram_auth"
    else
      let secretKey := crypto.sha256 botToken.encode
      let signature := crypto.hmacSha256 secretKey (dataCheckString data).encode
      if ¬ timingSafeEqualHex (toHex signature) (toLowerCase hash) then .error "invalid_telegram_hash"
      else
        let nowSeconds := now.ms / 1000
        match Text.parseInt ((data.get "auth_date").getD []) with
        | none => .error "telegram_auth_expired"
        | some authDate =>
          if TELEGRAM_AUTH_MAX_AGE_SECONDS < nowSeconds - authDate ∨
              TELEGRAM_AUTH_FUTURE_SKEW_SECONDS < authDate - nowSeconds then
            .error "telegram_auth_expired"
          else
            let id := (data.get "id").getD []
            if ¬ (1 ≤ id.length ∧ id.length ≤ 20 ∧ id.all Text.isDigit) then .error "invalid_telegram_auth"
            else
              .ok
                { id
                  firstName := data.get "first_name"
                  lastName := data.get "last_name"
                  username := data.get "username"
                  photoUrl := data.get "photo_url" }

/-- `Object.entries(input)`; the keys of an array are its indices. -/
def entries : json.Value → Option (List (Text × json.Value))
  | .object members => some members
  | .array elements => some (elements.zipIdx.map fun element => (Text.decimal element.2, element.1))
  | _ => none

/-- The loop of `toStringMap`; `numberText` is `String(value)` of a number. -/
def toStringMap.collect (numberText : json.Literal → Text) : StringMap → List (Text × json.Value) → Option StringMap
  | map, [] => some map
  | map, (key, .string value) :: rest => collect numberText (map.set key value) rest
  | map, (key, .number literal) :: rest => collect numberText (map.set key (numberText literal)) rest
  | map, (_, .null) :: rest => collect numberText map rest
  | _, (_, .bool _) :: _ | _, (_, .array _) :: _ | _, (_, .object _) :: _ => none

def toStringMap (numberText : json.Literal → Text) (input : json.Value) : Option StringMap :=
  (entries input).bind (toStringMap.collect numberText [])

end pgid.telegram
