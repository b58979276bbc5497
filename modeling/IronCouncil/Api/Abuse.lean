import IronCouncil.Api.Server
import IronCouncil.Base.SlidingWindow
import Mathlib.Algebra.Order.Ring.Rat

/-!
# Abuse limits

How many requests a caller may make on a route within a window of time, and how large they may be. A reading of the clock is a rational number of seconds.
-/

namespace IronCouncil

structure AuthenticatedWriteAbuseSettings where
  maxBodyBytes : Nat
  rateLimit : Nat
  rateWindowSeconds : Nat
deriving DecidableEq, Repr

structure AuthenticatedWriteAbuseGuard where
  settings : AuthenticatedWriteAbuseSettings
  requestWindows : OrdDict (String × String) (List ℚ)

structure ApiError where
  statusCode : Nat
  code : String
  message : String
deriving DecidableEq, Repr

def humanOnlyWriteRoutePaths : List String :=
  ["/api/v1/account/api-keys", "/api/v1/account/api-keys/{key_id}",
    "/api/v1/matches/{match_id}/agents/{agent_id}/guidance", "/api/v1/matches/{match_id}/agents/{agent_id}/override"]

def publicEntrypointRoutePaths : List String := ["/api/v1/matches", "/health/runtime"]

def routeKeyAliases : OrdDict String String := OrdDict.ofList [("/ws/matches/{match_id}", "/ws/match/{match_id}")]

/-- What the limits see of a connection: the path of the route it matched, the path it asked for and its host. -/
structure HttpConnection where
  routePath : Option String
  urlPath : String
  clientHost : Option String
deriving DecidableEq, Repr

/-- A write request. The declared length is `none` when it is missing or is no number. -/
structure WriteRequest where
  connection : HttpConnection
  contentLength : Option Int
  bodyLength : Nat
  credentials : Credentials
deriving DecidableEq, Repr

def resolveRouteKey (connection : HttpConnection) : String :=
  match connection.routePath with
  | some routePath => (routeKeyAliases.get? routePath).getD routePath
  | none => connection.urlPath

def resolveNetworkIdentity (connection : HttpConnection) : String :=
  match connection.clientHost with
  | some host => s!"network:{host}"
  | none => "network:unknown"

def contentLengthExceedsLimit (contentLength : Option Int) (maxBodyBytes : Nat) : Bool :=
  contentLength.any fun length => (maxBodyBytes : Int) < length

def payloadTooLargeError (maxBodyBytes : Nat) : ApiError where
  statusCode := 413
  code := "payload_too_large"
  message := s!"Authenticated write request body exceeds the configured limit of {maxBodyBytes} bytes."

def rateLimitError (message : String) : ApiError where
  statusCode := 429
  code := "rate_limit_exceeded"
  message := message

namespace AuthenticatedWriteAbuseGuard

def init (settings : AuthenticatedWriteAbuseSettings) : AuthenticatedWriteAbuseGuard := ⟨settings, OrdDict.empty⟩

def consumeRateAllowance (guard : AuthenticatedWriteAbuseGuard) (identityKey routeKey : String) (now : ℚ) :
    Bool × AuthenticatedWriteAbuseGuard :=
  let windowStart := now - guard.settings.rateWindowSeconds
  let requestKey := (identityKey, routeKey)
  let requestTimes := ((guard.requestWindows.get? requestKey).getD []).dropWhile (· ≤ windowStart)
  if guard.settings.rateLimit ≤ requestTimes.length then
    (false, { guard with requestWindows := guard.requestWindows.insert requestKey requestTimes })
  else (true, { guard with requestWindows := guard.requestWindows.insert requestKey (requestTimes ++ [now]) })

/-- Charge a caller for a request, and refuse it with the given text when its allowance is used up. -/
def charge (guard : AuthenticatedWriteAbuseGuard) (identityKey routeKey : String) (now : ℚ) (subject : String) :
    Except ApiError Unit × AuthenticatedWriteAbuseGuard :=
  let consumed := guard.consumeRateAllowance identityKey routeKey now
  if consumed.1 then (.ok (), consumed.2)
  else (.error (rateLimitError s!"{subject} Retry after the current {guard.settings.rateWindowSeconds}-second window."),
    consumed.2)

section Enforce

variable (hashApiKey : String → String)

/-- Who a write request is charged to. A key that speaks for nobody, or no valid token, is charged to nobody. -/
def resolveIdentityKey (server : Server) (request : WriteRequest) : Option String :=
  let routePath := resolveRouteKey request.connection
  match (if routePath ∈ humanOnlyWriteRoutePaths then none else request.credentials.apiKey) with
  | some apiKey => (server.resolveAuthenticatedAgentContext hashApiKey (some apiKey)).map fun _ =>
      s!"api-key:{hashApiKey apiKey}"
  | none => request.credentials.humanUserId.map fun humanUserId => s!"human:{humanUserId}"

def enforce (guard : AuthenticatedWriteAbuseGuard) (server : Server) (request : WriteRequest) (now : ℚ) :
    Except ApiError Unit × AuthenticatedWriteAbuseGuard :=
  let maxBodyBytes := guard.settings.maxBodyBytes
  if contentLengthExceedsLimit request.contentLength maxBodyBytes then
    (.error (payloadTooLargeError maxBodyBytes), guard)
  else if maxBodyBytes < request.bodyLength then (.error (payloadTooLargeError maxBodyBytes), guard)
  else
    match resolveIdentityKey hashApiKey server request with
    | none => (.ok (), guard)
    | some identityKey => guard.charge identityKey (resolveRouteKey request.connection) now
        "Authenticated write burst limit exceeded for this caller on this route."

def enforcePublicRequest (guard : AuthenticatedWriteAbuseGuard) (connection : HttpConnection) (now : ℚ) :
    Except ApiError Unit × AuthenticatedWriteAbuseGuard :=
  let routeKey := resolveRouteKey connection
  if routeKey ∉ publicEntrypointRoutePaths then (.ok (), guard)
  else guard.charge (resolveNetworkIdentity connection) routeKey now
    "Public entrypoint burst limit exceeded for this caller on this route."

def enforceWebsocketHandshake (guard : AuthenticatedWriteAbuseGuard) (connection : HttpConnection) (now : ℚ) :
    Except ApiError Unit × AuthenticatedWriteAbuseGuard :=
  guard.charge (resolveNetworkIdentity connection) (resolveRouteKey connection) now
    "Websocket handshake burst limit exceeded for this caller on this route."

end Enforce

/-! ### One request -/

def window (guard : AuthenticatedWriteAbuseGuard) (key : String × String) : List ℚ :=
  (guard.requestWindows.get? key).getD []

@[simp] theorem window_init (settings : AuthenticatedWriteAbuseSettings) (key : String × String) :
    (init settings).window key = [] := rfl

@[simp] theorem settings_consumeRateAllowance (guard : AuthenticatedWriteAbuseGuard) (identityKey routeKey : String)
    (now : ℚ) : (guard.consumeRateAllowance identityKey routeKey now).2.settings = guard.settings := by
  unfold consumeRateAllowance
  dsimp only
  split <;> rfl

theorem consumeRateAllowance_admits (guard : AuthenticatedWriteAbuseGuard) (identityKey routeKey : String) (now : ℚ) :
    (guard.consumeRateAllowance identityKey routeKey now).1 =
      SlidingWindow.admits guard.settings.rateLimit (guard.settings.rateWindowSeconds : ℚ)
        (guard.window (identityKey, routeKey)) now := by
  unfold consumeRateAllowance SlidingWindow.admits SlidingWindow.live window
  dsimp only
  split
  · rename_i hfull
    exact (decide_eq_false (Nat.not_lt.2 hfull)).symm
  · rename_i hfree
    exact (decide_eq_true (Nat.not_le.1 hfree)).symm

/-- A request moves the window of its own caller and route, and no other. -/
theorem window_consumeRateAllowance (guard : AuthenticatedWriteAbuseGuard) (identityKey routeKey : String) (now : ℚ)
    (key : String × String) :
    (guard.consumeRateAllowance identityKey routeKey now).2.window key =
      if key = (identityKey, routeKey) then
        SlidingWindow.next guard.settings.rateLimit (guard.settings.rateWindowSeconds : ℚ) (guard.window key) now
      else guard.window key := by
  have hadmits := consumeRateAllowance_admits guard identityKey routeKey now
  unfold consumeRateAllowance at hadmits ⊢
  dsimp only at hadmits ⊢
  unfold window SlidingWindow.next at *
  by_cases hkey : key = (identityKey, routeKey)
  · subst hkey
    split
    · rename_i hfull
      rw [if_pos hfull] at hadmits
      simp [← hadmits, SlidingWindow.live]
    · rename_i hfree
      rw [if_neg hfree] at hadmits
      simp [← hadmits, SlidingWindow.live]
  · rw [if_neg hkey]
    split <;> simp [OrdDict.get?_insert, hkey]

end AuthenticatedWriteAbuseGuard

end IronCouncil
