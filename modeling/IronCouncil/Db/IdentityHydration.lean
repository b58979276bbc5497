import IronCouncil.Db.Hydration
import IronCouncil.Db.PublicReadAssembly

/-!
# Profiles

The profile of an agent or a human: a name, a rating and a history, taken from the settlements of its identity where there are any. The treaty reputation that a profile also shows is no part of this.
-/

namespace IronCouncil

structure AgentProfileRating where
  elo : Int
  provisional : Bool
deriving DecidableEq, Repr

structure AgentProfileHistory where
  matchesPlayed : Nat
  wins : Nat
  losses : Nat
  draws : Nat
deriving DecidableEq, Repr

/-- An agent's profile with the rating and the history that the registry's copy of it lacks. -/
structure RatedAgentProfile extends AgentProfileResponse where
  rating : AgentProfileRating
  history : AgentProfileHistory
deriving DecidableEq, Repr

structure HumanProfileResponse where
  humanId : String
  displayName : String
  rating : AgentProfileRating
  history : AgentProfileHistory
deriving DecidableEq, Repr

def SettlementAggregate.rating (aggregate : SettlementAggregate) : AgentProfileRating :=
  ⟨aggregate.elo, aggregate.provisional⟩

def SettlementAggregate.history (aggregate : SettlementAggregate) : AgentProfileHistory :=
  ⟨aggregate.matchesPlayed, aggregate.wins, aggregate.losses, aggregate.draws⟩

/-! ### Agents -/

/-- The identity of an agent's row. -/
def playerCompetitorIdentity (player : PlayerRow) : String :=
  match player.apiKeyId with
  | some apiKeyId => s!"agent:{apiKeyId}"
  | none => s!"agent-user:{player.userId}"

def buildRatedAgentProfile (identity : LoadedAgentIdentity) (player : PlayerRow)
    (settlementAggregate : Option SettlementAggregate) : RatedAgentProfile :=
  match settlementAggregate with
  | none =>
      { agentId := identity.agentId
        displayName := player.displayName
        isSeeded := identity.isSeeded
        rating := ⟨player.eloRating, true⟩
        history := ⟨0, 0, 0, 0⟩ }
  | some settlementAggregate =>
      { agentId := identity.agentId
        displayName := settlementAggregate.displayName
        isSeeded := identity.isSeeded
        rating := settlementAggregate.rating
        history := settlementAggregate.history }

section Agents

variable (hashApiKey : String → String)

/-- The profiles by agent id. Of an agent's rows the one with the greatest id makes its profile. -/
def buildAgentProfilesByAgentId (playerRows : List PlayerRow) (apiKeyRows : List ApiKeyRow)
    (settlementRows : List PlayerMatchSettlementRow) : OrdDict String RatedAgentProfile :=
  let apiKeysById := indexBy (·.id) apiKeyRows
  let settlementAggregatesByIdentity := loadSettlementAggregatesByIdentity (settlementRows.filter (·.isAgent))
  OrdDict.ofList <| ((playerRows.insertionSort fun first second => first.id ≤ second.id).filter (·.isAgent)).map
    fun player =>
      let identity := resolveLoadedAgentIdentity hashApiKey player (player.apiKeyId.bind apiKeysById.get?)
      (identity.agentId,
        buildRatedAgentProfile identity player
          (settlementAggregatesByIdentity.get? (playerCompetitorIdentity player)))

def getAgentProfileFromDb (db : Database) (agentId : String) : Option RatedAgentProfile :=
  let playerRows := db.players.rows.insertionSort fun first second =>
    first.matchId < second.matchId ∨ (first.matchId = second.matchId ∧ first.id ≤ second.id)
  let apiKeyIds := (playerRows.filter (·.isAgent)).filterMap (·.apiKeyId)
  let apiKeyRows := (db.apiKeys.rows.filter fun apiKey => apiKey.id ∈ apiKeyIds).insertionSort fun first second =>
    first.id ≤ second.id
  let settlementRows := (db.playerMatchSettlements.rows.filter (·.isAgent)).insertionSort fun first second =>
    first.settledAt < second.settledAt ∨ (first.settledAt = second.settledAt ∧ first.playerId ≤ second.playerId)
  (buildAgentProfilesByAgentId hashApiKey (playerRows.filter (·.isAgent)) apiKeyRows settlementRows).get? agentId

end Agents

/-! ### Humans -/

/-- The user that a human's id is made of. -/
def parseHumanActorId (humanId : String) : Option String :=
  let stem := "human:".toList
  if stem.isPrefixOf humanId.toList ∧ humanId.toList.drop stem.length ≠ [] then
    some (String.ofList (humanId.toList.drop stem.length))
  else none

def getHumanProfileFromDb (db : Database) (humanId : String) : Option HumanProfileResponse :=
  match parseHumanActorId humanId with
  | none => none
  | some userId =>
      let settlementRows := (db.playerMatchSettlements.rows.filter fun settlement =>
        settlement.isAgent = false ∧ settlement.userId = userId).insertionSort fun first second =>
          first.settledAt < second.settledAt ∨ (first.settledAt = second.settledAt ∧ first.playerId ≤ second.playerId)
      let playerRows := db.players.rows.insertionSort fun first second =>
        first.matchId < second.matchId ∨ (first.matchId = second.matchId ∧ first.id ≤ second.id)
      match (loadSettlementAggregatesByIdentity settlementRows).get? humanId with
      | some settlementAggregate =>
          some
            { humanId := humanId
              displayName := settlementAggregate.displayName
              rating := settlementAggregate.rating
              history := settlementAggregate.history }
      | none =>
          (playerRows.find? fun player => player.isAgent = false ∧ player.userId = userId).map fun player =>
            { humanId := buildHumanActorId player.userId
              displayName := player.displayName
              rating := ⟨player.eloRating, true⟩
              history := ⟨0, 0, 0, 0⟩ }

end IronCouncil
