import PgidSso.Library.Text

namespace pgid.logout

structure DurableDeliveryPolicy where
  backoffSeconds : List Nat
  maxAttempts : Nat

inductive DeliveryDisposition where
  | dead
  | delivered
  | retry (delaySeconds : Nat)
  deriving DecidableEq

def selectDeliveryDisposition (attempt : Nat) (delivered transient : Bool)
    (policy : DurableDeliveryPolicy) : DeliveryDisposition :=
  if delivered then .delivered
  else if transient = false ∨ policy.maxAttempts ≤ attempt then .dead
  else .retry (policy.backoffSeconds.getD (min (attempt - 1) (policy.backoffSeconds.length - 1)) 0)

inductive ExpiredLeaseDisposition where
  | dead
  | retry
  deriving DecidableEq

def selectExpiredLeaseDisposition (attempt : Nat) (policy : DurableDeliveryPolicy) :
    ExpiredLeaseDisposition :=
  if policy.maxAttempts ≤ attempt then .dead else .retry

def LOGOUT_DELIVERY_MAX_ATTEMPTS : Nat := 5
def LOGOUT_DELIVERY_LEASE_SECONDS : Nat := 30

def LOGOUT_DELIVERY_POLICY : DurableDeliveryPolicy :=
  { backoffSeconds := [10, 30, 120, 300, 900], maxAttempts := LOGOUT_DELIVERY_MAX_ATTEMPTS }

/-- Instants in milliseconds. -/
def addIsoSeconds (instant : Int) (seconds : Nat) : Int :=
  instant + seconds * 1000

/-- What came of posting a logout token. -/
inductive LogoutResponse where
  | status (code : Nat)
  | timeout
  | networkError
  | signingError

structure DeliveryAttemptResult where
  delivered : Bool
  errorCode : Option Text
  httpStatus : Option Nat
  transient : Bool
  deriving DecidableEq

def postLogoutToken : LogoutResponse → DeliveryAttemptResult
  | .status code =>
    if code = 200 ∨ code = 204 then
      { delivered := true, errorCode := none, httpStatus := some code, transient := false }
    else if code = 408 ∨ code = 425 ∨ code = 429 ∨ 500 ≤ code then
      { delivered := false
        errorCode := some
          (if code = 429 then Text.of "http_429"
           else if 500 ≤ code then Text.of "http_5xx" else Text.of "http_retryable")
        httpStatus := some code
        transient := true }
    else
      { delivered := false, errorCode := some (Text.of "http_non_success"), httpStatus := some code
        transient := false }
  | .timeout =>
    { delivered := false, errorCode := some (Text.of "timeout"), httpStatus := none, transient := true }
  | .networkError =>
    { delivered := false, errorCode := some (Text.of "network_error"), httpStatus := none, transient := true }
  | .signingError =>
    { delivered := false, errorCode := some (Text.of "signing_error"), httpStatus := none, transient := true }

end pgid.logout
