import IronCouncil.Models.Orders
import IronCouncil.Models.State
import Mathlib.Data.List.Dedup
import Mathlib.Data.List.Sort
import Mathlib.Data.String.Basic

/-!
# The live record of a match

What the server keeps in memory for a match: the state, the queued submissions, messages, group chats, treaties and alliances, and the errors that its operations raise.
-/

namespace IronCouncil

inductive MessageChannel
  | world
  | direct
deriving DecidableEq, Repr

structure MatchMessage where
  messageId : Nat
  channel : MessageChannel
  senderId : String
  recipientId : Option String
  tick : Nat
  content : String
deriving DecidableEq, Repr

inductive TreatyType
  | nonAggression
  | defensive
  | trade
deriving DecidableEq, Repr

def TreatyType.value : TreatyType → String
  | .nonAggression => "non_aggression"
  | .defensive => "defensive"
  | .trade => "trade"

inductive TreatyStatus
  | proposed
  | active
  | honored
  | brokenByA
  | brokenByB
  | withdrawn
deriving DecidableEq, Repr

structure MatchTreaty where
  treatyId : Nat
  playerAId : String
  playerBId : String
  treatyType : TreatyType
  status : TreatyStatus
  proposedBy : String
  proposedTick : Nat
  signedTick : Option Nat
  withdrawnBy : Option String
  withdrawnTick : Option Nat
deriving DecidableEq, Repr

structure MatchAllianceMember where
  playerId : String
  joinedTick : Nat
deriving DecidableEq, Repr

structure MatchAlliance where
  allianceId : String
  name : String
  leaderId : String
  formedTick : Nat
  members : List MatchAllianceMember
deriving DecidableEq, Repr

structure MatchGroupChatMessage where
  messageId : Nat
  groupChatId : String
  senderId : String
  tick : Nat
  content : String
deriving DecidableEq, Repr

structure MatchGroupChat where
  groupChatId : String
  name : String
  memberIds : List String
  createdBy : String
  createdTick : Nat
  messages : List MatchGroupChatMessage
deriving DecidableEq, Repr

inductive RegistryError
  | treatyTransition (code message : String)
  | allianceTransition (code message : String)
  | matchJoin (code message : String)
  | matchAccess (code message : String)
  | groupChatAccess (code message : String)
  | keyError (key : String)
deriving DecidableEq, Repr

structure AuthenticatedAgentKeyRecord where
  agentId : String
  keyHash : String
  isActive : Bool
deriving DecidableEq, Repr

structure AuthenticatedAgentContext where
  agentId : String
  displayName : String
  isSeeded : Bool
deriving DecidableEq, Repr

structure AgentProfileResponse where
  agentId : String
  displayName : String
  isSeeded : Bool
deriving DecidableEq, Repr

inductive CompetitorKind
  | human
  | agent
deriving DecidableEq, Repr

structure MatchRecord where
  matchId : String
  status : MatchStatus
  tickIntervalSeconds : Nat
  state : MatchState
  mapId : String
  maxPlayerCount : Option Nat
  currentPlayerCount : Option Nat
  joinablePlayerIds : List String
  agentProfiles : List AgentProfileResponse
  publicCompetitorKinds : OrdDict String CompetitorKind
  joinedAgents : OrdDict String String
  joinedHumans : OrdDict String String
  orderSubmissions : List OrderEnvelope
  messages : List MatchMessage
  groupChats : List MatchGroupChat
  treaties : List MatchTreaty
  alliances : List MatchAlliance
  authenticatedAgentKeys : List AuthenticatedAgentKeyRecord
deriving DecidableEq

/-- The record of a state, with the source's defaults in the other fields. -/
def MatchRecord.ofState (matchId : String) (status : MatchStatus) (state : MatchState) : MatchRecord where
  matchId := matchId
  status := status
  tickIntervalSeconds := 1
  state := state
  mapId := "britain"
  maxPlayerCount := none
  currentPlayerCount := none
  joinablePlayerIds := []
  agentProfiles := []
  publicCompetitorKinds := OrdDict.empty
  joinedAgents := OrdDict.empty
  joinedHumans := OrdDict.empty
  orderSubmissions := []
  messages := []
  groupChats := []
  treaties := []
  alliances := []
  authenticatedAgentKeys := []

end IronCouncil
