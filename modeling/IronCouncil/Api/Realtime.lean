import IronCouncil.Api.MatchRoutes
import IronCouncil.Base.Fanout
import IronCouncil.Websocket

/-!
# Websockets

The subscribers of the matches, the handlers of their sockets and the broadcasts under way. An event is what runs without being suspended, so a handshake is several events and a broadcast is two for each of its tasks. What a socket was sent is kept in the order of the sends.
-/

namespace IronCouncil

/-! ### Subscriptions -/

structure MatchWebSocketSubscription where
  websocket : String
  viewerRole : RealtimeViewerRole
  playerId : Option String
deriving DecidableEq, Repr

structure MatchWebSocketManager where
  connections : OrdDict String (List MatchWebSocketSubscription)
  maxConcurrentSends : Nat

namespace MatchWebSocketManager

def empty (maxConcurrentSends : Nat) : MatchWebSocketManager := ⟨OrdDict.empty, maxConcurrentSends⟩

def subscriptions (manager : MatchWebSocketManager) (matchId : String) : List MatchWebSocketSubscription :=
  (manager.connections.get? matchId).getD []

def register (manager : MatchWebSocketManager) (matchId : String) (subscription : MatchWebSocketSubscription) :
    MatchWebSocketManager :=
  { manager with connections := manager.connections.insert matchId (manager.subscriptions matchId ++ [subscription]) }

/-- A match without subscribers left is dropped from the table. -/
def unregister (manager : MatchWebSocketManager) (matchId websocket : String) : MatchWebSocketManager :=
  let remaining := (manager.subscriptions matchId).filter fun subscription => subscription.websocket ≠ websocket
  { manager with
    connections := if remaining = [] then manager.connections.erase matchId else manager.connections.insert matchId remaining }

end MatchWebSocketManager

/-! ### Broadcasts -/

/-- Building a payload raises through the broadcast; the tasks that are left go on. -/
structure Broadcast where
  matchId : String
  attempted : Nat
  fanout : Fanout MatchWebSocketSubscription MatchRealtimePayload
  raised : Bool

/-- What the observer of the broadcasts is told. -/
structure FanoutObservation where
  matchId : String
  attemptedConnections : Nat
  deliveredConnections : Nat
  droppedConnections : Nat
deriving DecidableEq, Repr

def Broadcast.observation (broadcast : Broadcast) : FanoutObservation where
  matchId := broadcast.matchId
  attemptedConnections := broadcast.attempted
  deliveredConnections := broadcast.fanout.delivered
  droppedConnections := broadcast.attempted - broadcast.fanout.delivered

/-! ### Handlers -/

/-- Where the handler of a socket stands: suspended in the accept, in the first send, or in the loop that listens, or over. -/
inductive HandlerStage
  | accepted
  | greeted
  | listening
  | closed
deriving DecidableEq, Repr

/-- What a handler knows of its socket. `humanUserId` is the user of the token it was opened with. -/
structure SocketHandler where
  matchId : String
  humanUserId : Option String
  viewerRole : RealtimeViewerRole
  playerId : Option String
  stage : HandlerStage
deriving DecidableEq, Repr

def SocketHandler.subscription (handler : SocketHandler) (websocket : String) : MatchWebSocketSubscription :=
  ⟨websocket, handler.viewerRole, handler.playerId⟩

/-! ### The server with its sockets -/

structure RealtimeServer extends GuidedServer where
  manager : MatchWebSocketManager
  handlers : OrdDict String SocketHandler
  broadcasts : List Broadcast
  sent : List (String × MatchRealtimePayload)
  observations : List FanoutObservation

/-- `humanUserId` is the user of the token, once it has been validated. -/
inductive RealtimeEvent
  | api (event : ApiEvent)
  | connect (websocket matchId viewer : String) (playerId humanUserId : Option String)
  | greet (websocket : String)
  | listen (websocket : String)
  | hangUp (websocket : String)
  | launch (broadcast task : Nat)
  | finish (broadcast task : Nat) (delivered reached : Bool)

/-- The writes whose routes send the match to its subscribers. -/
def MatchWrite.isAnnounced : MatchWrite → Bool
  | .orders .. => false
  | .command envelope => envelope.alliance ≠ none ∨ envelope.treaties ≠ [] ∨ envelope.messages ≠ []
  | .message .. | .groupChat .. | .groupChatMessage .. | .treaty .. | .alliance .. => true

def ApiEvent.isHydrate : ApiEvent → Bool
  | .host event =>
      match event.1 with
      | .hydrate => true
      | _ => false
  | _ => false

namespace RealtimeServer

section Handlers

variable (variant : StorageVariant) (live : RealtimeServer)

/-- The viewer that a handshake is for. -/
def resolveViewer (matchId viewer : String) (playerId humanUserId : Option String) :
    Except ServerError (RealtimeViewerRole × Option String) :=
  match live.registry.getMatch matchId with
  | none => .error (matchNotFound matchId)
  | some _ =>
      if viewer = "spectator" then .ok (.spectator, none)
      else if viewer = "player" then
        (live.resolveWebsocketPlayerViewer variant matchId playerId humanUserId).map fun resolved =>
          (.player, some resolved)
      else .error (.api "invalid_viewer" "Websocket viewer must be either 'player' or 'spectator'.")

/-- Every connection is a socket of its own. -/
def connect (websocket matchId viewer : String) (playerId humanUserId : Option String) : RealtimeServer :=
  if websocket ∈ live.handlers.keys then live
  else
    match live.resolveViewer variant matchId viewer playerId humanUserId with
    | .error _ => live
    | .ok (viewerRole, resolvedPlayerId) =>
        { live with
          handlers := live.handlers.insert websocket ⟨matchId, humanUserId, viewerRole, resolvedPlayerId, .accepted⟩ }

def setStage (websocket : String) (handler : SocketHandler) (stage : HandlerStage) : RealtimeServer :=
  { live with handlers := live.handlers.insert websocket { handler with stage } }

/-- The payload of a subscriber as the match stands. -/
def payloadOf (matchId : String) (subscription : MatchWebSocketSubscription) :
    Except ProjectionError MatchRealtimePayload :=
  buildMatchRealtimeEnvelope live.registry matchId subscription.viewerRole subscription.playerId

/-- However a handler ends, its socket is unregistered. -/
def close (websocket : String) (handler : SocketHandler) : RealtimeServer :=
  { live.setStage websocket handler .closed with manager := live.manager.unregister handler.matchId websocket }

/-- The first send, before the socket is registered. -/
def greet (websocket : String) : RealtimeServer :=
  match live.handlers.get? websocket with
  | none => live
  | some handler =>
      if handler.stage ≠ .accepted then live
      else
        match live.payloadOf handler.matchId (handler.subscription websocket) with
        | .error _ => live.close websocket handler
        | .ok payload => { live.setStage websocket handler .greeted with sent := live.sent ++ [(websocket, payload)] }

def listen (websocket : String) : RealtimeServer :=
  match live.handlers.get? websocket with
  | none => live
  | some handler =>
      if handler.stage ≠ .greeted then live
      else
        { live.setStage websocket handler .listening with
          manager := live.manager.register handler.matchId (handler.subscription websocket) }

def hangUp (websocket : String) : RealtimeServer :=
  match live.handlers.get? websocket with
  | none => live
  | some handler => if handler.stage = .closed then live else live.close websocket handler

end Handlers

section Broadcasts

variable (live : RealtimeServer)

/-- The subscribers of the moment get a task each. -/
def broadcastCurrentMatch (matchId : String) : RealtimeServer :=
  let subscriptions := live.manager.subscriptions matchId
  if subscriptions = [] then live
  else
    { live with
      broadcasts := live.broadcasts ++
        [⟨matchId, subscriptions.length, Fanout.start live.manager.maxConcurrentSends subscriptions, false⟩] }

/-- A broadcast whose last task has ended is observed, unless it raised. -/
def setBroadcast (index : Nat) (broadcast : Broadcast) : RealtimeServer :=
  if broadcast.fanout.isDone then
    { live with
      broadcasts := live.broadcasts.eraseIdx index
      observations := if broadcast.raised then live.observations else live.observations ++ [broadcast.observation] }
  else { live with broadcasts := live.broadcasts.set index broadcast }

def launch (index task : Nat) : RealtimeServer :=
  match live.broadcasts[index]? with
  | none => live
  | some broadcast =>
      match broadcast.fanout.unstarted[task]? with
      | none => live
      | some subscription =>
          match live.payloadOf broadcast.matchId subscription with
          | .error _ =>
              live.setBroadcast index { broadcast with fanout := broadcast.fanout.abandon task, raised := true }
          | .ok payload =>
              live.setBroadcast index { broadcast with fanout := broadcast.fanout.launch task (subscription, payload) }

/-- A send that fails, or takes too long, costs the socket its subscription. It may have reached the socket all the same. -/
def finish (index task : Nat) (delivered reached : Bool) : RealtimeServer :=
  match live.broadcasts[index]? with
  | none => live
  | some broadcast =>
      match broadcast.fanout.sending[task]? with
      | none => live
      | some (subscription, payload) =>
          let ended := live.setBroadcast index { broadcast with fanout := broadcast.fanout.finish task delivered }
          { ended with
            sent := if delivered || reached then live.sent ++ [(subscription.websocket, payload)] else live.sent
            manager :=
              if delivered then live.manager else live.manager.unregister broadcast.matchId subscription.websocket }

/-- A start of the server finds no sockets. -/
def restarted : RealtimeServer :=
  { live with
    manager := .empty live.manager.maxConcurrentSends
    handlers := live.handlers.mapVals fun _ handler => { handler with stage := .closed }
    broadcasts := [] }

end Broadcasts

end RealtimeServer

section Steps

variable (hashApiKey : String → String) (variant : StorageVariant)

/-- The match that is sent to its subscribers after a request or a tick, if one is. -/
def GuidedServer.announced (guided : GuidedServer) : ApiEvent → Option String
  | .host event =>
      match event.1 with
      | .tick matchId newId elapsed => ((guided.tick variant matchId newId elapsed).2.toOption).map (·.matchId)
      | _ => none
  | .write credentials matchId requestMatchId request =>
      if request.isAnnounced then
        ((guided.write hashApiKey variant credentials matchId requestMatchId request).toOption).map fun _ => matchId
      else none
  | _ => none

/-- The broadcast is begun before anything else runs. -/
def RealtimeServer.serve (live : RealtimeServer) (event : ApiEvent) : RealtimeServer :=
  let next : RealtimeServer := { live with toGuidedServer := apiStep hashApiKey variant live.toGuidedServer event }
  if event.isHydrate then next.restarted
  else
    match live.announced hashApiKey variant event with
    | none => next
    | some matchId => next.broadcastCurrentMatch matchId

def realtimeStep (live : RealtimeServer) : RealtimeEvent → RealtimeServer
  | .api event => live.serve hashApiKey variant event
  | .connect websocket matchId viewer playerId humanUserId =>
      live.connect variant websocket matchId viewer playerId humanUserId
  | .greet websocket => live.greet websocket
  | .listen websocket => live.listen websocket
  | .hangUp websocket => live.hangUp websocket
  | .launch broadcast task => live.launch broadcast task
  | .finish broadcast task delivered reached => live.finish broadcast task delivered reached

end Steps

end IronCouncil
