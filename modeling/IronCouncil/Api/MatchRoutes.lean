import IronCouncil.Api.OrderQueue
import IronCouncil.Api.PlayerAccess

/-!
# The routes of a live match

The writes to a match as they arrive: with credentials, and with a body that names the match and the tick it is for. Behind them the server as a state machine over requests, with the tables of the owners' guidance and overrides beside the others.
-/

namespace IronCouncil

/-! ### Bodies -/

/-- The bodies of the writes to a live match, but for the id of the match. -/
inductive MatchWrite
  | orders (tick : Nat) (orders : OrderBatch)
  | command (command : AgentCommandEnvelopeRequest)
  | message (message : MatchMessageCreateRequest)
  | groupChat (groupChat : GroupChatCreateRequest)
  | groupChatMessage (groupChatId : String) (message : GroupChatMessageCreateRequest)
  | treaty (action : TreatyActionRequest)
  | alliance (action : AllianceActionRequest)
deriving DecidableEq, Repr

/-- What a route calls its body where it names another match. -/
def MatchWrite.payload : MatchWrite → String
  | .orders .. => "Order"
  | .command .. => "Command"
  | .message .. => "Message"
  | .groupChat .. => "Group chat"
  | .groupChatMessage .. => "Group chat message"
  | .treaty .. => "Treaty"
  | .alliance .. => "Alliance"

def tickMismatch (payload : String) (tick currentTick : Nat) : ServerError :=
  .api "tick_mismatch" s!"{payload} payload tick '{tick}' does not match current match tick '{currentTick}'."

def playerNotFound (matchId playerId : String) : ServerError :=
  .api "player_not_found" s!"Player '{playerId}' was not found in match '{matchId}'."

/-! ### What each route checks -/

section Checks

variable (record : MatchRecord) (matchId : String)

def checkGroupChat (groupChat : GroupChatCreateRequest) : Except ServerError Unit :=
  if groupChat.tick ≠ record.state.tick then .error (tickMismatch "Group chat" groupChat.tick record.state.tick)
  else
    match groupChat.memberIds.find? (· ∉ record.state.players.keys) with
    | some memberId => .error (playerNotFound matchId memberId)
    | none => .ok ()

/-- The route of group chat messages speaks of its tick as that of a message. -/
def checkGroupChatMessage (message : GroupChatMessageCreateRequest) : Except ServerError Unit :=
  if message.tick ≠ record.state.tick then .error (tickMismatch "Message" message.tick record.state.tick) else .ok ()

def checkMessage (message : MatchMessageCreateRequest) : Except ServerError Unit :=
  if message.tick ≠ record.state.tick then .error (tickMismatch "Message" message.tick record.state.tick)
  else
    match message.channel with
    | .world =>
        if message.recipientId ≠ none then
          .error (.api "unsupported_recipient" "World messages do not support recipient_id.")
        else .ok ()
    | .direct =>
        if message.recipientId.all (· ∉ record.state.players.keys) then
          .error (.api "unsupported_recipient"
            s!"Direct messages require a recipient_id for a player in match '{matchId}'.")
        else .ok ()

/-- Treaties and alliances are not tied to a tick. -/
def checkTreaty (playerId : String) (action : TreatyActionRequest) : Except ServerError Unit :=
  if action.counterpartyId ∉ record.state.players.keys then .error (playerNotFound matchId action.counterpartyId)
  else if playerId = action.counterpartyId then
    .error (.api "self_targeted_treaty" "Treaty actions require two different players.")
  else .ok ()

end Checks

/-- A request that its route has checked, applied to the record. -/
def applyChecked (record : MatchRecord) (playerId : String) (command : MatchCommand) (check : Except ServerError Unit) :
    Except ServerError (MatchRecord × CommandAcceptance) :=
  match check with
  | .error error => .error error
  | .ok () => (applyMatchCommand record playerId command).mapError .registry

/-- The part of a write that is its route's own. -/
def applyMatchWrite (record : MatchRecord) (matchId playerId : String) :
    MatchWrite → Except ServerError (MatchRecord × CommandAcceptance)
  | .orders tick orders =>
      (submitOrders record playerId tick orders).map fun submitted => (submitted.1, .orders submitted.2)
  | .command command => (postMatchCommand record playerId command).map fun applied => (applied.1, .envelope applied.2)
  | .message message => applyChecked record playerId (.message message) (checkMessage record matchId message)
  | .groupChat groupChat => applyChecked record playerId (.groupChat groupChat) (checkGroupChat record matchId groupChat)
  | .groupChatMessage groupChatId message =>
      applyChecked record playerId (.groupChatMessage groupChatId message) (checkGroupChatMessage record message)
  | .treaty action => applyChecked record playerId (.treaty action) (checkTreaty record matchId playerId action)
  | .alliance action => applyChecked record playerId (.alliance action) (.ok ())

namespace Server

variable (hashApiKey : String → String) (variant : StorageVariant)

/-- The steps the writes to a match share: the match is there, the body is for it, and the caller plays in it. -/
def writeMatch (server : Server) (matchId requestMatchId : String) (caller : Except ServerError String)
    (request : MatchWrite) : Except ServerError (Server × CommandAcceptance) :=
  match server.registry.getMatch matchId with
  | none => .error (matchNotFound matchId)
  | some record =>
      if requestMatchId ≠ matchId then
        .error (.api "match_id_mismatch"
          s!"{request.payload} payload match_id '{requestMatchId}' does not match route match '{matchId}'.")
      else
        match caller with
        | .error error => .error error
        | .ok playerId =>
            (applyMatchWrite record matchId playerId request).map fun applied =>
              (server.storeRecord matchId applied.1, applied.2)

/-- Orders are taken from agents and humans. The other writes are agents' alone, and their key is looked at before anything else. -/
def write (server : Server) (credentials : Credentials) (matchId requestMatchId : String) (request : MatchWrite) :
    Except ServerError (Server × CommandAcceptance) :=
  match request with
  | .orders .. =>
      server.writeMatch matchId requestMatchId (server.resolveMatchPlayerId hashApiKey variant matchId credentials) request
  | .command .. | .message .. | .groupChat .. | .groupChatMessage .. | .treaty .. | .alliance .. =>
      match server.getAuthenticatedAgent hashApiKey credentials.apiKey with
      | .error error => .error error
      | .ok agent => server.writeMatch matchId requestMatchId (server.requireJoinedPlayerId matchId agent) request

end Server

/-! ### Owners -/

structure OwnedAgentGuidanceRow where
  id : String
  matchId : String
  ownerUserId : String
  agentPlayerId : String
  content : String
  tick : Nat
  createdAt : Nat
deriving DecidableEq, Repr

structure OwnedAgentOverrideRow where
  id : String
  matchId : String
  ownerUserId : String
  agentPlayerId : String
  tick : Nat
  supersededSubmissionCount : Nat
  orders : JsonValue
  createdAt : Nat

/-- The server with the tables that its owners write. -/
structure GuidedServer extends Server where
  guidance : Table OwnedAgentGuidanceRow.id
  overrides : Table OwnedAgentOverrideRow.id

/-- A request of an owner about an agent in a match. `id` and `createdAt` are drawn for its row. -/
structure OwnerRequest where
  humanUserId : Option String
  matchId : String
  agentId : String
  requestMatchId : String
  tick : Nat
  id : String
  createdAt : Nat
deriving DecidableEq, Repr

namespace GuidedServer

variable (hashApiKey : String → String) (variant : StorageVariant)

/-- The steps that guidance and overrides share. -/
def requireOwnedSeat (guided : GuidedServer) (payload : String) (request : OwnerRequest) :
    Except ServerError (MatchRecord × Server.OwnedSeat) :=
  match guided.registry.getMatch request.matchId with
  | none => .error (matchNotFound request.matchId)
  | some record =>
      if request.requestMatchId ≠ request.matchId then
        .error (.api "match_id_mismatch"
          s!"{payload} payload match_id '{request.requestMatchId}' does not match route match '{request.matchId}'.")
      else
        (guided.requireOwnedAgentMatchPlayer hashApiKey variant request.humanUserId request.matchId request.agentId).map
          fun seat => (record, seat)

def guidanceRow (request : OwnerRequest) (seat : Server.OwnedSeat) (content : String) : OwnedAgentGuidanceRow where
  id := request.id
  matchId := request.matchId
  ownerUserId := seat.userId
  agentPlayerId := seat.persistedPlayerId
  content := content
  tick := request.tick
  createdAt := request.createdAt

def postOwnedAgentGuidance (guided : GuidedServer) (request : OwnerRequest) (content : String) :
    Except ServerError (GuidedServer × OwnedAgentGuidanceRow) :=
  match guided.requireOwnedSeat hashApiKey variant "Guidance" request with
  | .error error => .error error
  | .ok (record, seat) =>
      if request.tick ≠ record.state.tick then .error (tickMismatch "Guidance" request.tick record.state.tick)
      else
        match sessionAdd guided.guidance (guidanceRow request seat content) with
        | .error error => .error (.persistence error)
        | .ok guidance => .ok ({ guided with guidance }, guidanceRow request seat content)

def overrideRow (request : OwnerRequest) (seat : Server.OwnedSeat) (orders : OrderBatch)
    (supersededSubmissionCount : Nat) : OwnedAgentOverrideRow where
  id := request.id
  matchId := request.matchId
  ownerUserId := seat.userId
  agentPlayerId := seat.persistedPlayerId
  tick := request.tick
  supersededSubmissionCount := supersededSubmissionCount
  orders := orders.modelDump
  createdAt := request.createdAt

/-- The submissions are replaced if the override's row can be written. -/
def postOwnedAgentOverride (guided : GuidedServer) (request : OwnerRequest) (orders : OrderBatch) :
    Except ServerError (GuidedServer × OwnedAgentOverrideRow) :=
  match guided.requireOwnedSeat hashApiKey variant "Override" request with
  | .error error => .error error
  | .ok (record, seat) =>
      let append (supersededCount : Nat) := sessionAdd guided.overrides (overrideRow request seat orders supersededCount)
      let posted := IronCouncil.postOwnedAgentOverride (fun count => (append count).map fun _ => ()) record seat.playerId
        request.tick orders
      match posted.2 with
      | .error error => .error error
      | .ok (_, supersededCount) =>
          match append supersededCount with
          | .error error => .error (.persistence error)
          | .ok overrides =>
              .ok ({ guided with
                  toServer := guided.storeRecord request.matchId posted.1
                  overrides },
                overrideRow request seat orders supersededCount)

/-- The guidance of an owner to the agent of a row, in the order it was given. -/
def listOwnedAgentGuidance (guided : GuidedServer) (matchId ownerUserId agentPlayerId : String) :
    List OwnedAgentGuidanceRow :=
  (guided.guidance.rows.filter fun row =>
    row.matchId = matchId ∧ row.ownerUserId = ownerUserId ∧ row.agentPlayerId = agentPlayerId).insertionSort
      fun first second =>
        first.tick < second.tick ∨ (first.tick = second.tick ∧
          (first.createdAt < second.createdAt ∨ (first.createdAt = second.createdAt ∧ first.id ≤ second.id)))

end GuidedServer

/-! ### The state machine -/

def ServerEvent.isCommand : ServerEvent → Bool
  | .command .. => true
  | _ => false

/-- The events that are not writes to a live match: keys, lobbies, ticks and starts. -/
def HostEvent : Type := { event : ServerEvent // event.isCommand = false }

inductive ApiEvent
  | host (event : HostEvent)
  | write (credentials : Credentials) (matchId requestMatchId : String) (request : MatchWrite)
  | guidance (request : OwnerRequest) (content : String)
  | override (request : OwnerRequest) (orders : OrderBatch)

/-- The server after a request of an owner: the one the route returns, or the one it found when it raised. -/
def GuidedServer.after {ρ : Type} (guided : GuidedServer) (outcome : Except ServerError (GuidedServer × ρ)) :
    GuidedServer :=
  match outcome with
  | .error _ => guided
  | .ok (next, _) => next

def apiStep (hashApiKey : String → String) (variant : StorageVariant) (guided : GuidedServer) : ApiEvent → GuidedServer
  | .host event => { guided with toServer := serverStep hashApiKey variant guided.toServer event.1 }
  | .write credentials matchId requestMatchId request =>
      { guided with
        toServer := guided.toServer.after (guided.write hashApiKey variant credentials matchId requestMatchId request) }
  | .guidance request content => guided.after (guided.postOwnedAgentGuidance hashApiKey variant request content)
  | .override request orders => guided.after (guided.postOwnedAgentOverride hashApiKey variant request orders)

end IronCouncil
