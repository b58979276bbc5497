import IronCouncil.Api.MatchRoutes
import IronCouncil.Fog

/-!
# What a player reads

The state of a match as a player sees it, an agent's briefing with its owner's guidance, and the session that an owner watches. A response that cannot be built is an error of the server's own.
-/

namespace IronCouncil

inductive ReadError
  | server (error : ServerError)
  | projection (error : ProjectionError)
  | keyError (key : String)
deriving DecidableEq, Repr

/-! ### Responses -/

structure AgentBriefingGuidanceRecord where
  guidanceId : String
  matchId : String
  playerId : String
  tick : Nat
  content : String
  createdAt : Nat
deriving DecidableEq, Repr

structure AgentBriefingResponse where
  matchId : String
  playerId : String
  state : AgentStateProjection
  alliances : List MatchAlliance
  treaties : List MatchTreaty
  groupChats : List GroupChatRecord
  messages : AgentBriefingMessageBuckets
  guidance : List AgentBriefingGuidanceRecord
deriving DecidableEq

structure OwnedAgentGuidedSessionRecentActivity where
  alliances : List MatchAlliance
  treaties : List MatchTreaty
deriving DecidableEq

structure OwnedAgentGuidedSessionResponse where
  matchId : String
  agentId : String
  playerId : String
  state : AgentStateProjection
  queuedOrders : OrderBatch
  guidance : List AgentBriefingGuidanceRecord
  groupChats : List GroupChatRecord
  messages : AgentBriefingMessageBuckets
  recentActivity : OwnedAgentGuidedSessionRecentActivity
deriving DecidableEq

def guidanceRecord (playerId : String) (entry : OwnedAgentGuidanceRow) : AgentBriefingGuidanceRecord where
  guidanceId := entry.id
  matchId := entry.matchId
  playerId := playerId
  tick := entry.tick
  content := entry.content
  createdAt := entry.createdAt

/-! ### Parts -/

/-- The orders of a player, merged as a tick would merge them. -/
def queuedOrdersForPlayer (submissions : List OrderEnvelope) : OrderBatch :=
  match combineSubmissionsByPlayer submissions with
  | [] => OrderBatch.empty
  | combined :: _ => combined.orders

def currentAllianceForPlayer (alliances : List MatchAlliance) (currentAllianceId : Option String) : List MatchAlliance :=
  match currentAllianceId with
  | none => []
  | some allianceId => alliances.filter fun alliance => alliance.allianceId = allianceId

def recentTreatiesForPlayer (treaties : List MatchTreaty) (playerId : String) : List MatchTreaty :=
  treaties.filter fun treaty => playerId = treaty.playerAId ∨ playerId = treaty.playerBId

def projectState (record : MatchRecord) (playerId matchId : String) : Except ReadError AgentStateProjection :=
  (projectAgentState record.state playerId matchId none).mapError .projection

namespace Server

variable (hashApiKey : String → String) (variant : StorageVariant)

/-! ### Routes -/

def getMatchState (server : Server) (credentials : Credentials) (matchId : String) :
    Except ReadError AgentStateProjection :=
  match server.registry.getMatch matchId with
  | none => .error (.server (matchNotFound matchId))
  | some record =>
      match server.resolveMatchPlayerId hashApiKey variant matchId credentials with
      | .error error => .error (.server error)
      | .ok playerId => projectState record playerId matchId

end Server

namespace GuidedServer

variable (hashApiKey : String → String) (variant : StorageVariant)

/-- The guidance of the owner of an active key. A key that is not active any more has no owner here. -/
def guidanceOfOwner (guided : GuidedServer) (matchId playerId agentId : String) (apiKey : Option String) :
    Except ServerError (List OwnedAgentGuidanceRow) :=
  match guided.resolveAuthenticatedAgentOwnerUserId hashApiKey apiKey with
  | none => .ok []
  | some ownerUserId =>
      (guided.requirePersistedMatchPlayerId variant matchId playerId agentId).map
        (guided.listOwnedAgentGuidance matchId ownerUserId)

def getAgentBriefing (guided : GuidedServer) (apiKey : Option String) (matchId : String) (sinceTick : Option Nat) :
    Except ReadError AgentBriefingResponse :=
  match guided.getAuthenticatedAgent hashApiKey apiKey with
  | .error error => .error (.server error)
  | .ok agent =>
      match guided.registry.getMatch matchId with
      | none => .error (.server (matchNotFound matchId))
      | some record =>
          match guided.requireJoinedPlayerId matchId agent with
          | .error error => .error (.server error)
          | .ok playerId =>
              match guided.guidanceOfOwner hashApiKey variant matchId playerId agent.agentId apiKey with
              | .error error => .error (.server error)
              | .ok guidance =>
                  (projectState record playerId matchId).map fun state =>
                    { matchId
                      playerId
                      state
                      alliances := listAlliances (some record)
                      treaties := listTreaties (some record) sinceTick
                      groupChats := listVisibleGroupChats (some record) playerId
                      messages := listBriefingMessages (some record) playerId sinceTick
                      guidance := (guidance.filter fun entry => isSince sinceTick entry.tick).map (guidanceRecord playerId) }

/-- What an owner watches: the agent's match at its current tick, with the orders queued for it. -/
def getOwnedAgentGuidedSession (guided : GuidedServer) (humanUserId : Option String) (matchId agentId : String) :
    Except ReadError OwnedAgentGuidedSessionResponse :=
  match guided.requireOwnedAgentContext hashApiKey humanUserId agentId with
  | .error error => .error (.server error)
  | .ok (ownerUserId, ownedAgent) =>
      match guided.registry.getMatch matchId with
      | none => .error (.server (matchNotFound matchId))
      | some record =>
          match guided.requireJoinedPlayerId matchId ownedAgent with
          | .error error => .error (.server error)
          | .ok playerId =>
              match record.state.players.get? playerId with
              | none => .error (.keyError playerId)
              | some player =>
                  match guided.requirePersistedMatchPlayerId variant matchId playerId ownedAgent.agentId with
                  | .error error => .error (.server error)
                  | .ok persistedPlayerId =>
                      (projectState record playerId matchId).map fun state =>
                        { matchId
                          agentId := ownedAgent.agentId
                          playerId
                          state
                          queuedOrders := queuedOrdersForPlayer (record.orderSubmissions.filter fun submission =>
                            submission.playerId = playerId ∧ submission.tick = record.state.tick)
                          guidance := (guided.listOwnedAgentGuidance matchId ownerUserId persistedPlayerId).map
                            (guidanceRecord playerId)
                          groupChats := listVisibleGroupChats (some record) playerId
                          messages := listBriefingMessages (some record) playerId (some record.state.tick)
                          recentActivity :=
                            { alliances := currentAllianceForPlayer (listAlliances (some record)) player.allianceId
                              treaties := recentTreatiesForPlayer
                                (listTreaties (some record) (some record.state.tick)) playerId } }

end GuidedServer

end IronCouncil
