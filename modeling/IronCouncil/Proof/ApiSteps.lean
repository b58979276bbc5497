import IronCouncil.Api.MatchRoutes
import IronCouncil.Proof.RecordRuns

/-!
# Requests to a live match

What the routes let through: a write is a command of the player its credentials resolve to, and an owner's request is about the seat of an agent of theirs.
-/

namespace IronCouncil

/-! ### What a step can do -/

inductive ApiEffect (hashApiKey : String → String) (variant : StorageVariant) (guided : GuidedServer) :
    ApiEvent → GuidedServer → Prop
  | refused (event : ApiEvent) : ApiEffect hashApiKey variant guided event guided
  | host (event : HostEvent) : ApiEffect hashApiKey variant guided (.host event)
      { guided with toServer := serverStep hashApiKey variant guided.toServer event.1 }
  | written {credentials : Credentials} {matchId playerId : String} {request : MatchWrite} {record applied : MatchRecord}
      {accepted : CommandAcceptance} (hrecord : guided.registry.getMatch matchId = some record)
      (hplayer : guided.resolveMatchPlayerId hashApiKey variant matchId credentials = .ok playerId)
      (h : applyMatchWrite record matchId playerId request = .ok (applied, accepted)) :
      ApiEffect hashApiKey variant guided (.write credentials matchId matchId request)
        { guided with toServer := guided.storeRecord matchId applied }
  | advised {request : OwnerRequest} {content : String} {record : MatchRecord} {seat : Server.OwnedSeat}
      {guidance : Table OwnedAgentGuidanceRow.id}
      (hrecord : guided.registry.getMatch request.matchId = some record) (htick : request.tick = record.state.tick)
      (hseat : guided.requireOwnedAgentMatchPlayer hashApiKey variant request.humanUserId request.matchId request.agentId =
        .ok seat)
      (h : sessionAdd guided.guidance (GuidedServer.guidanceRow request seat content) = .ok guidance) :
      ApiEffect hashApiKey variant guided (.guidance request content) { guided with guidance }
  | overridden {request : OwnerRequest} {orders : OrderBatch} {record : MatchRecord} {seat : Server.OwnedSeat}
      {supersededCount : Nat} {overrides : Table OwnedAgentOverrideRow.id}
      (hrecord : guided.registry.getMatch request.matchId = some record) (htick : request.tick = record.state.tick)
      (hseat : guided.requireOwnedAgentMatchPlayer hashApiKey variant request.humanUserId request.matchId request.agentId =
        .ok seat)
      (h : sessionAdd guided.overrides (GuidedServer.overrideRow request seat orders supersededCount) = .ok overrides) :
      ApiEffect hashApiKey variant guided (.override request orders)
        { guided with
          toServer := guided.storeRecord request.matchId
            (replacePlayerSubmissions record seat.playerId request.tick
              ⟨record.matchId, seat.playerId, request.tick, orders⟩).1
          overrides }

section Requests

variable {hashApiKey : String → String} {variant : StorageVariant} {server : Server} {guided next : GuidedServer}
  {matchId : String}

/-- The command that a write comes to once its player is known. -/
def commandOfWrite : MatchWrite → MatchCommand
  | .orders _ orders => .orders orders
  | .command command => .envelope command
  | .message message => .message message
  | .groupChat groupChat => .groupChat groupChat
  | .groupChatMessage groupChatId message => .groupChatMessage groupChatId message
  | .treaty action => .treaty action
  | .alliance action => .alliance action

theorem applyChecked_eq_ok {record : MatchRecord} {playerId : String} {command : MatchCommand}
    {check : Except ServerError Unit} {applied : MatchRecord × CommandAcceptance}
    (h : applyChecked record playerId command check = .ok applied) :
    check = .ok () ∧ applyMatchCommand record playerId command = .ok applied := by
  unfold applyChecked at h
  split at h
  · cases h
  · cases hcommand : applyMatchCommand record playerId command with
    | error error =>
        rw [hcommand] at h
        cases h
    | ok result =>
        rw [hcommand] at h
        exact ⟨rfl, congrArg Except.ok (Except.ok.inj h)⟩

/-- What a route lets through is the command on the record. -/
theorem applyMatchWrite_eq_ok {record : MatchRecord} {playerId : String} {request : MatchWrite}
    {applied : MatchRecord × CommandAcceptance} (h : applyMatchWrite record matchId playerId request = .ok applied) :
    applyMatchCommand record playerId (commandOfWrite request) = .ok applied := by
  cases request with
  | orders tick orders =>
      obtain ⟨submitted, hsubmitted, rfl⟩ := Except.map_eq_ok h
      unfold submitOrders at hsubmitted
      split at hsubmitted
      · cases hsubmitted
      · rename_i htick
        obtain rfl := not_not.1 htick
        cases hsubmitted
        rfl
  | command command =>
      obtain ⟨accepted, haccepted, rfl⟩ := Except.map_eq_ok h
      unfold postMatchCommand at haccepted
      split at haccepted
      · cases haccepted
      · split at haccepted
        · cases haccepted
        · rename_i response happlied
          cases haccepted
          exact congrArg (Except.map _) happlied
  | message message => exact (applyChecked_eq_ok h).2
  | groupChat groupChat => exact (applyChecked_eq_ok h).2
  | groupChatMessage groupChatId message => exact (applyChecked_eq_ok h).2
  | treaty action => exact (applyChecked_eq_ok h).2
  | alliance action =>
      have hchecked : applyChecked record playerId (.alliance action) (.ok ()) = .ok applied := h
      exact (applyChecked_eq_ok hchecked).2

/-- An accepted write is made by the player that its credentials resolve to. -/
theorem write_eq_ok {credentials : Credentials} {requestMatchId : String} {request : MatchWrite} {after : Server}
    {accepted : CommandAcceptance}
    (h : server.write hashApiKey variant credentials matchId requestMatchId request = .ok (after, accepted)) :
    requestMatchId = matchId ∧ ∃ record playerId applied, server.registry.getMatch matchId = some record ∧
      server.resolveMatchPlayerId hashApiKey variant matchId credentials = .ok playerId ∧
      applyMatchWrite record matchId playerId request = .ok (applied, accepted) ∧
      after = server.storeRecord matchId applied := by
  have hshared : server.writeMatch matchId requestMatchId
      (server.resolveMatchPlayerId hashApiKey variant matchId credentials) request = .ok (after, accepted) := by
    have hagent : ∀ agent, server.getAuthenticatedAgent hashApiKey credentials.apiKey = .ok agent →
        server.resolveMatchPlayerId hashApiKey variant matchId credentials = server.requireJoinedPlayerId matchId agent := by
      intro agent hkey
      unfold Server.resolveMatchPlayerId
      cases hapiKey : credentials.apiKey with
      | none =>
          rw [hapiKey] at hkey
          cases hkey
      | some apiKey =>
          rw [hapiKey] at hkey
          simp only [hkey]
    unfold Server.write at h
    split at h
    · exact h
    all_goals
      split at h
      · cases h
      · rename_i agent hkey
        rw [hagent agent hkey]
        exact h
  unfold Server.writeMatch at hshared
  split at hshared
  · cases hshared
  · rename_i record hrecord
    split at hshared
    · cases hshared
    · rename_i hmatch
      split at hshared
      · cases hshared
      · rename_i playerId hplayer
        obtain ⟨⟨applied, result⟩, happlied, heq⟩ := Except.map_eq_ok hshared
        cases heq
        exact ⟨not_not.1 hmatch, record, playerId, applied, hrecord, hplayer, happlied, rfl⟩

/-- A write is a command of the server's machine, with its player resolved. -/
theorem serverStep_of_write {playerId : String} {request : MatchWrite} {record applied : MatchRecord}
    {accepted : CommandAcceptance} (hrecord : server.registry.getMatch matchId = some record)
    (h : applyMatchWrite record matchId playerId request = .ok (applied, accepted)) :
    serverStep hashApiKey variant server (.command matchId playerId (commandOfWrite request)) =
      server.storeRecord matchId applied := by
  have hcommand := applyMatchWrite_eq_ok h
  simp only [serverStep, Server.command, hrecord, hcommand, Server.after]

theorem requireOwnedSeat_eq_ok {payload : String} {request : OwnerRequest} {record : MatchRecord} {seat : Server.OwnedSeat}
    (h : guided.requireOwnedSeat hashApiKey variant payload request = .ok (record, seat)) :
    guided.registry.getMatch request.matchId = some record ∧
      guided.requireOwnedAgentMatchPlayer hashApiKey variant request.humanUserId request.matchId request.agentId =
        .ok seat := by
  unfold GuidedServer.requireOwnedSeat at h
  split at h
  · cases h
  · rename_i found hfound
    split at h
    · cases h
    · obtain ⟨owned, howned, heq⟩ := Except.map_eq_ok h
      cases heq
      exact ⟨hfound, howned⟩

theorem postOwnedAgentGuidance_effect {request : OwnerRequest} {content : String} {row : OwnedAgentGuidanceRow}
    (h : guided.postOwnedAgentGuidance hashApiKey variant request content = .ok (next, row)) :
    ApiEffect hashApiKey variant guided (.guidance request content) next := by
  unfold GuidedServer.postOwnedAgentGuidance at h
  split at h
  · cases h
  · rename_i record seat hseat
    obtain ⟨hrecord, howned⟩ := requireOwnedSeat_eq_ok hseat
    split at h
    · cases h
    · rename_i htick
      split at h
      · cases h
      · rename_i guidance hadd
        cases h
        exact .advised hrecord (not_not.1 htick) howned hadd

theorem postOwnedAgentOverride_effect {request : OwnerRequest} {orders : OrderBatch} {row : OwnedAgentOverrideRow}
    (h : guided.postOwnedAgentOverride hashApiKey variant request orders = .ok (next, row)) :
    ApiEffect hashApiKey variant guided (.override request orders) next := by
  unfold GuidedServer.postOwnedAgentOverride at h
  split at h
  · cases h
  · rename_i record seat hseat
    obtain ⟨hrecord, howned⟩ := requireOwnedSeat_eq_ok hseat
    dsimp only at h
    rcases postOwnedAgentOverride_cases (fun count => (sessionAdd guided.overrides
        (GuidedServer.overrideRow request seat orders count)).map fun _ => ()) record seat.playerId request.tick orders with
      ⟨error, hrefused⟩ | ⟨htick, supersededCount, hposted⟩
    · rw [hrefused] at h
      cases h
    · rw [hposted] at h
      dsimp only at h
      split at h
      · cases h
      · rename_i overrides hadd
        cases h
        exact .overridden hrecord htick howned hadd

theorem effect_guided {ρ : Type} {event : ApiEvent} {outcome : Except ServerError (GuidedServer × ρ)}
    (h : ∀ next result, outcome = .ok (next, result) → ApiEffect hashApiKey variant guided event next) :
    ApiEffect hashApiKey variant guided event (guided.after outcome) := by
  unfold GuidedServer.after
  split
  · exact .refused event
  · exact h _ _ rfl

theorem apiStep_effect (guided : GuidedServer) (event : ApiEvent) :
    ApiEffect hashApiKey variant guided event (apiStep hashApiKey variant guided event) := by
  cases event with
  | host event => exact .host event
  | write credentials matchId requestMatchId request =>
      cases hwrite : guided.write hashApiKey variant credentials matchId requestMatchId request with
      | error error =>
          have hsame : apiStep hashApiKey variant guided (.write credentials matchId requestMatchId request) = guided := by
            simp only [apiStep, hwrite, Server.after]
          rw [hsame]
          exact .refused _
      | ok written =>
          obtain ⟨rfl, record, playerId, applied, hrecord, hplayer, happlied, hafter⟩ := write_eq_ok hwrite
          have hstored : apiStep hashApiKey variant guided (.write credentials requestMatchId requestMatchId request) =
              { guided with toServer := guided.storeRecord requestMatchId applied } := by
            simp only [apiStep, hwrite, Server.after, hafter]
          rw [hstored]
          exact .written hrecord hplayer happlied
  | guidance request content => exact effect_guided fun _ _ h => postOwnedAgentGuidance_effect h
  | override request orders => exact effect_guided fun _ _ h => postOwnedAgentOverride_effect h

end Requests

/-! ### What the server's machine receives -/

section Received

variable (hashApiKey : String → String) (variant : StorageVariant)

/-- The event that a request comes to, if its route takes it. -/
def Server.received (server : Server) : ApiEvent → Option ServerEvent
  | .host event => some event.1
  | .write credentials matchId requestMatchId request =>
      match server.write hashApiKey variant credentials matchId requestMatchId request,
        server.resolveMatchPlayerId hashApiKey variant matchId credentials with
      | .ok _, .ok playerId => some (.command matchId playerId (commandOfWrite request))
      | _, _ => none
  | .guidance .. => none
  | .override .. => none

def Server.receivedRun : Server → List ApiEvent → List ServerEvent
  | _, [] => []
  | server, request :: requests =>
      match server.received hashApiKey variant request with
      | none => server.receivedRun requests
      | some event => event :: (serverStep hashApiKey variant server event).receivedRun requests

def ApiEvent.isOverride : ApiEvent → Bool
  | .override .. => true
  | _ => false

variable {hashApiKey variant} {guided : GuidedServer}

/-- But for overrides, a request is the event that it comes to, or leaves the server's machine alone. -/
theorem apiStep_received {request : ApiEvent} (hrequest : request.isOverride = false) :
    (apiStep hashApiKey variant guided request).toServer =
      ((guided.toServer.received hashApiKey variant request).elim guided.toServer
        (serverStep hashApiKey variant guided.toServer)) := by
  cases request with
  | host event => rfl
  | write credentials matchId requestMatchId request =>
      change guided.toServer.after (guided.write hashApiKey variant credentials matchId requestMatchId request) = _
      unfold Server.received
      dsimp only
      cases hwrite : guided.write hashApiKey variant credentials matchId requestMatchId request with
      | error error => rfl
      | ok written =>
          obtain ⟨rfl, record, playerId, applied, hrecord, hplayer, happlied, hafter⟩ := write_eq_ok hwrite
          simp only [hplayer, Option.elim_some]
          refine hafter.trans ?_
          exact (serverStep_of_write hrecord happlied).symm
  | guidance request content =>
      have heffect : ApiEffect hashApiKey variant guided (.guidance request content)
          (apiStep hashApiKey variant guided (.guidance request content)) := apiStep_effect guided _
      generalize apiStep hashApiKey variant guided (.guidance request content) = next at heffect
      cases heffect with
      | refused => rfl
      | advised => rfl
  | override request orders => cases hrequest

/-- Requests drive the server's machine by the events that they come to. -/
theorem apiRun_received {requests : List ApiEvent} (hrequests : ∀ request ∈ requests, request.isOverride = false) :
    (requests.foldl (apiStep hashApiKey variant) guided).toServer =
      (guided.toServer.receivedRun hashApiKey variant requests).foldl (serverStep hashApiKey variant) guided.toServer := by
  induction requests generalizing guided with
  | nil => rfl
  | cons request requests ih =>
      obtain ⟨hrequest, hrequests⟩ := List.forall_mem_cons.1 hrequests
      have hstep : (apiStep hashApiKey variant guided request).toServer =
          (guided.toServer.received hashApiKey variant request).elim guided.toServer
            (serverStep hashApiKey variant guided.toServer) := apiStep_received hrequest
      rw [List.foldl_cons, ih hrequests, hstep, Server.receivedRun]
      cases guided.toServer.received hashApiKey variant request with
      | none => rfl
      | some event => rfl

end Received

end IronCouncil
