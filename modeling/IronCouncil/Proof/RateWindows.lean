import IronCouncil.Api.Abuse

/-!
# The limiter is a sliding window

The guard keeps one deque for each caller and route and prunes it only when that caller asks again. On a clock that does not go back its answers are those of an exact sliding window, for each caller and route on its own.
-/

namespace IronCouncil

/-- A request for an allowance: who asks, on which route, and when. -/
structure RateRequest where
  identityKey : String
  routeKey : String
  now : ℚ
deriving DecidableEq

def RateRequest.key (request : RateRequest) : String × String := (request.identityKey, request.routeKey)

namespace AuthenticatedWriteAbuseGuard

def consume (guard : AuthenticatedWriteAbuseGuard) (request : RateRequest) : Bool × AuthenticatedWriteAbuseGuard :=
  guard.consumeRateAllowance request.identityKey request.routeKey request.now

def after (settings : AuthenticatedWriteAbuseSettings) (requests : List RateRequest) : AuthenticatedWriteAbuseGuard :=
  requests.foldl (fun guard request => (guard.consume request).2) (init settings)

/-- The requests with their answers. -/
def answers (guard : AuthenticatedWriteAbuseGuard) : List RateRequest → List (RateRequest × Bool)
  | [] => []
  | request :: requests => (request, (guard.consume request).1) :: answers (guard.consume request).2 requests

/-- The requests of a run that were admitted. -/
def admittedRequests (settings : AuthenticatedWriteAbuseSettings) (requests : List RateRequest) : List RateRequest :=
  ((answers (init settings) requests).filter (·.2)).map (·.1)

def timesOf (key : String × String) (requests : List RateRequest) : List ℚ :=
  (requests.filter (·.key = key)).map (·.now)

/-! ### One window for each caller and route -/

section Windows

variable {settings : AuthenticatedWriteAbuseSettings}

theorem after_append (requests : List RateRequest) (request : RateRequest) :
    after settings (requests ++ [request]) = ((after settings requests).consume request).2 := by
  rw [after, List.foldl_append]
  rfl

theorem answers_append (guard : AuthenticatedWriteAbuseGuard) (requests later : List RateRequest) :
    answers guard (requests ++ later) = answers guard requests ++
      answers (requests.foldl (fun guard request => (guard.consume request).2) guard) later := by
  induction requests generalizing guard with
  | nil => rfl
  | cons request requests ih =>
      rw [List.cons_append, answers, answers, ih, List.foldl_cons, List.cons_append]

theorem settings_after (requests : List RateRequest) : (after settings requests).settings = settings := by
  induction requests using List.reverseRecOn with
  | nil => rfl
  | append_singleton requests request ih =>
      rw [after_append, consume, settings_consumeRateAllowance, ih]

theorem timesOf_append (key : String × String) (requests : List RateRequest) (request : RateRequest) :
    timesOf key (requests ++ [request]) =
      if request.key = key then timesOf key requests ++ [request.now] else timesOf key requests := by
  unfold timesOf
  rw [List.filter_append, List.map_append]
  split
  · rename_i hkey
    simp [hkey]
  · rename_i hkey
    simp [hkey]

/-- The deque of a caller is what one window keeps of the caller's own requests. -/
theorem window_after (key : String × String) (requests : List RateRequest) :
    (after settings requests).window key =
      SlidingWindow.kept settings.rateLimit (settings.rateWindowSeconds : ℚ) (timesOf key requests) := by
  induction requests using List.reverseRecOn with
  | nil => rfl
  | append_singleton requests request ih =>
      rw [after_append, consume, window_consumeRateAllowance, settings_after, timesOf_append, ih]
      change (if key = request.key then _ else _) = _
      by_cases hkey : request.key = key
      · rw [if_pos hkey, if_pos hkey.symm, SlidingWindow.kept_append]
      · rw [if_neg hkey, if_neg (Ne.symm hkey)]

theorem consume_after (requests : List RateRequest) (request : RateRequest) :
    ((after settings requests).consume request).1 =
      SlidingWindow.admits settings.rateLimit (settings.rateWindowSeconds : ℚ)
        (SlidingWindow.kept settings.rateLimit (settings.rateWindowSeconds : ℚ) (timesOf request.key requests))
        request.now := by
  rw [consume, consumeRateAllowance_admits, settings_after, ← window_after]
  rfl

theorem admittedRequests_append (requests : List RateRequest) (request : RateRequest) :
    admittedRequests settings (requests ++ [request]) = admittedRequests settings requests ++
      if ((after settings requests).consume request).1 then [request] else [] := by
  unfold admittedRequests
  rw [answers_append, List.filter_append, List.map_append]
  change _ ++ (([(request, ((after settings requests).consume request).1)].filter (·.2)).map (·.1)) = _
  cases ((after settings requests).consume request).1 <;> rfl

theorem timesOf_admittedRequests (key : String × String) (requests : List RateRequest) :
    timesOf key (admittedRequests settings requests) =
      SlidingWindow.admitted settings.rateLimit (settings.rateWindowSeconds : ℚ) (timesOf key requests) := by
  induction requests using List.reverseRecOn with
  | nil => rfl
  | append_singleton requests request ih =>
      rw [admittedRequests_append, timesOf_append, consume_after]
      by_cases hkey : request.key = key
      · rw [if_pos hkey, hkey, SlidingWindow.admitted_append]
        split
        · rw [timesOf_append, if_pos hkey, ih]
        · rw [List.append_nil, ih]
      · rw [if_neg hkey, ← ih]
        split
        · rw [timesOf_append, if_neg hkey]
        · rw [List.append_nil]

theorem pairwise_timesOf {requests : List RateRequest}
    (h : requests.Pairwise fun earlier later => earlier.now ≤ later.now) (key : String × String) :
    (timesOf key requests).Pairwise (· ≤ ·) :=
  List.pairwise_map.2 (h.sublist List.filter_sublist)

theorem timesOf_filter (key : String × String) (requests : List RateRequest) :
    timesOf key (requests.filter (·.key = key)) = timesOf key requests := by
  rw [timesOf, List.filter_filter, timesOf]
  simp

end Windows

/-! ### What the routes enforce -/

section Enforce

variable (hashApiKey : String → String)

/-- The requests that the guard stands before. A write comes with the server that knows its caller. -/
inductive GuardedRequest
  | write (server : Server) (request : WriteRequest)
  | publicEntrypoint (connection : HttpConnection)
  | websocketHandshake (connection : HttpConnection)

def serve (guard : AuthenticatedWriteAbuseGuard) (now : ℚ) :
    GuardedRequest → Except ApiError Unit × AuthenticatedWriteAbuseGuard
  | .write server request => guard.enforce hashApiKey server request now
  | .publicEntrypoint connection => guard.enforcePublicRequest connection now
  | .websocketHandshake connection => guard.enforceWebsocketHandshake connection now

/-- The allowance that a request takes; one that is too large, or of nobody known, takes none. -/
def rateRequest (settings : AuthenticatedWriteAbuseSettings) (now : ℚ) : GuardedRequest → Option RateRequest
  | .write server request =>
      if contentLengthExceedsLimit request.contentLength settings.maxBodyBytes then none
      else if settings.maxBodyBytes < request.bodyLength then none
      else (resolveIdentityKey hashApiKey server request).map fun identityKey =>
        ⟨identityKey, resolveRouteKey request.connection, now⟩
  | .publicEntrypoint connection =>
      if resolveRouteKey connection ∉ publicEntrypointRoutePaths then none
      else some ⟨resolveNetworkIdentity connection, resolveRouteKey connection, now⟩
  | .websocketHandshake connection => some ⟨resolveNetworkIdentity connection, resolveRouteKey connection, now⟩

theorem charge_guard (guard : AuthenticatedWriteAbuseGuard) (request : RateRequest) (subject : String) :
    (guard.charge request.identityKey request.routeKey request.now subject).2 = (guard.consume request).2 := by
  unfold charge consume
  dsimp only
  split <;> rfl

theorem serve_guard (guard : AuthenticatedWriteAbuseGuard) (now : ℚ) (request : GuardedRequest) :
    (guard.serve hashApiKey now request).2 =
      ((rateRequest hashApiKey guard.settings now request).toList.foldl
        (fun guard request => (guard.consume request).2) guard) := by
  cases request with
  | write server request =>
      unfold serve enforce rateRequest
      dsimp only
      split
      · rfl
      · split
        · rfl
        · cases resolveIdentityKey hashApiKey server request with
          | none => rfl
          | some identityKey => exact charge_guard guard ⟨identityKey, resolveRouteKey request.connection, now⟩ _
  | publicEntrypoint connection =>
      unfold serve enforcePublicRequest rateRequest
      dsimp only
      split
      · rfl
      · exact charge_guard guard ⟨resolveNetworkIdentity connection, resolveRouteKey connection, now⟩ _
  | websocketHandshake connection =>
      exact charge_guard guard ⟨resolveNetworkIdentity connection, resolveRouteKey connection, now⟩ _

/-- Served requests leave the guard as the allowances they take, one after another. -/
theorem foldl_serve (settings : AuthenticatedWriteAbuseSettings) (requests : List (GuardedRequest × ℚ)) :
    requests.foldl (fun guard request => (guard.serve hashApiKey request.2 request.1).2) (init settings) =
      after settings (requests.filterMap fun request => rateRequest hashApiKey settings request.2 request.1) := by
  induction requests using List.reverseRecOn with
  | nil => rfl
  | append_singleton requests request ih =>
      rw [List.foldl_append, List.foldl_cons, List.foldl_nil, ih, serve_guard, settings_after, List.filterMap_append,
        after, after, List.foldl_append]
      rfl

end Enforce

end AuthenticatedWriteAbuseGuard

open AuthenticatedWriteAbuseGuard in
/-- A request is refused exactly when its caller has the limit's number of admissions on the route in the window that ends with it. No window of that width holds more of them, and neither refused requests nor those of others change an answer. -/
theorem limiter_is_window (settings : AuthenticatedWriteAbuseSettings) {earlier : List RateRequest}
    {request : RateRequest}
    (hclock : (earlier ++ [request]).Pairwise fun first second => first.now ≤ second.now) :
    (((after settings earlier).consume request).1 = false ↔
        ((timesOf request.key (admittedRequests settings earlier)).filter fun time =>
          request.now - settings.rateWindowSeconds < time ∧ time ≤ request.now).length = settings.rateLimit) ∧
      (∀ key (time : ℚ), ((timesOf key (admittedRequests settings (earlier ++ [request]))).filter fun admitted =>
            time - settings.rateWindowSeconds < admitted ∧ admitted ≤ time).length ≤ settings.rateLimit ∧
          ((timesOf key (admittedRequests settings (earlier ++ [request]))).filter fun admitted =>
            time ≤ admitted ∧ admitted < time + settings.rateWindowSeconds).length ≤ settings.rateLimit) ∧
      ((after settings (admittedRequests settings earlier)).consume request).1 =
        ((after settings earlier).consume request).1 ∧
      ((after settings (earlier.filter (·.key = request.key))).consume request).1 =
        ((after settings earlier).consume request).1 := by
  obtain ⟨hearlier, -, hrequest⟩ := List.pairwise_append.1 hclock
  have hsorted := pairwise_timesOf hearlier request.key
  have hlast : ∀ time ∈ timesOf request.key earlier, time ≤ request.now := by
    intro time htime
    obtain ⟨first, hfirst, rfl⟩ := List.mem_map.1 htime
    exact hrequest first (List.mem_filter.1 hfirst).1 request (List.mem_singleton.2 rfl)
  refine ⟨?_, ?_, ?_, ?_⟩
  · rw [consume_after, timesOf_admittedRequests]
    exact SlidingWindow.refused_iff hsorted hlast
  · intro key time
    rw [timesOf_admittedRequests]
    have hall := pairwise_timesOf hclock key
    exact ⟨SlidingWindow.length_window_le hall time, SlidingWindow.length_window_from_le hall time⟩
  · rw [consume_after, consume_after, timesOf_admittedRequests]
    exact (SlidingWindow.admits_admitted hsorted).2 request.now hlast
  · rw [consume_after, consume_after, timesOf_filter]

/-- Two requests at one moment under a limit of one, and the third a window later. -/
theorem limiter_is_window_burst :
    ((AuthenticatedWriteAbuseGuard.after ⟨1024, 1, 10⟩ [⟨"human:u", "/ws", 0⟩, ⟨"human:u", "/ws", 0⟩]).consume
        ⟨"human:u", "/ws", 10⟩).1 = true := by
  have hclock : ([⟨"human:u", "/ws", 0⟩, ⟨"human:u", "/ws", 0⟩] ++ [⟨"human:u", "/ws", 10⟩] : List RateRequest).Pairwise
      fun first second => first.now ≤ second.now := by
    decide +kernel
  have hanswer := (limiter_is_window ⟨1024, 1, 10⟩ hclock).1
  by_contra hrefused
  exact absurd (hanswer.1 (Bool.eq_false_of_not_eq_true hrefused)) (by decide +kernel)

end IronCouncil
