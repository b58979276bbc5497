import IronCouncil.Fog
import IronCouncil.Registry.Seeding

/-!
# Realtime envelopes

The update a subscriber is sent: a player's projection with the talk the player may read, or the whole match for a spectator.
-/

namespace IronCouncil

inductive RealtimeViewerRole
  | player
  | spectator
deriving DecidableEq, Repr

structure SpectatorStateProjection where
  matchId : String
  tick : Nat
  cities : OrdDict String CityState
  armies : List ArmyState
  players : OrdDict String PlayerState
  victory : VictoryState
deriving DecidableEq

inductive RealtimeState
  | player (projection : AgentStateProjection)
  | spectator (projection : SpectatorStateProjection)
deriving DecidableEq

/-- The data of an envelope; its type is always `tick_update`. -/
structure MatchRealtimePayload where
  matchId : String
  viewerRole : RealtimeViewerRole
  playerId : Option String
  state : RealtimeState
  worldMessages : List MatchMessage
  directMessages : List MatchMessage
  groupChats : List GroupChatRecord
  groupMessages : List MatchGroupChatMessage
  treaties : List MatchTreaty
  alliances : List MatchAlliance
deriving DecidableEq

def sortedByKey {α : Type} (d : OrdDict String α) : OrdDict String α :=
  OrdDict.ofList (d.entries.insertionSort fun first second => first.1 ≤ second.1)

def projectSpectatorState (record : MatchRecord) : SpectatorStateProjection where
  matchId := record.matchId
  tick := record.state.tick
  cities := sortedByKey record.state.cities
  armies := record.state.armies.insertionSort fun first second => first.id ≤ second.id
  players := sortedByKey record.state.players
  victory := record.state.victory

def listWorldMessages (record : MatchRecord) : List MatchMessage :=
  record.messages.filter fun message => message.channel = .world

def listDirectMessages (record : Option MatchRecord) (playerId : String) : List MatchMessage :=
  (listVisibleMessages record playerId).filter fun message => message.channel = .direct

def listAllDirectMessages (record : MatchRecord) : List MatchMessage :=
  record.messages.filter fun message => message.channel = .direct

def listAllGroupChats (record : MatchRecord) : List GroupChatRecord :=
  (record.groupChats.insertionSort fun first second => first.groupChatId ≤ second.groupChatId).map toGroupChatRecord

def listAllGroupChatMessages (record : MatchRecord) : List MatchGroupChatMessage :=
  (record.groupChats.flatMap fun groupChat => groupChatMessageRecords groupChat none).insertionSort
    fun first second => groupMessageKey first ≤ groupMessageKey second

/-- A player without an id is looked up under the empty one. -/
def buildMatchRealtimeEnvelope (registry : InMemoryMatchRegistry) (matchId : String)
    (viewerRole : RealtimeViewerRole) (playerId : Option String) : Except ProjectionError MatchRealtimePayload :=
  match registry.getMatch matchId with
  | none => .error (.valueError s!"Match '{matchId}' was not found.")
  | some record =>
      match viewerRole with
      | .player =>
          let viewer := playerId.getD ""
          match projectAgentState record.state viewer matchId none with
          | .error error => .error error
          | .ok projection =>
              .ok
                { matchId
                  viewerRole
                  playerId
                  state := .player projection
                  worldMessages := listWorldMessages record
                  directMessages := listDirectMessages (some record) viewer
                  groupChats := listVisibleGroupChats (some record) viewer
                  groupMessages := listVisibleGroupChatMessages (some record) viewer none
                  treaties := listTreaties (some record) none
                  alliances := listAlliances (some record) }
      | .spectator =>
          .ok
            { matchId
              viewerRole
              playerId
              state := .spectator (projectSpectatorState record)
              worldMessages := listWorldMessages record
              directMessages := listAllDirectMessages record
              groupChats := listAllGroupChats record
              groupMessages := listAllGroupChatMessages record
              treaties := listTreaties (some record) none
              alliances := listAlliances (some record) }

end IronCouncil
