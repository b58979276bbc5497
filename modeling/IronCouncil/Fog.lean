import IronCouncil.Data.Maps
import IronCouncil.Models.Fog
import Mathlib.Data.List.Dedup
import Mathlib.Data.List.Sort
import Mathlib.Data.String.Basic

/-!
# The fog of war

A player sees the cities of its coalition in full and their neighbours by owner alone, the coalition's armies in full and the others that stand in, or march to, a city it sees.
-/

namespace IronCouncil

def alliedPlayerIds (state : MatchState) (playerId : String) (requestingPlayer : PlayerState) : List String :=
  match requestingPlayer.allianceId with
  | none => [playerId]
  | some allianceId => (state.players.entries.filter fun entry => entry.2.allianceId = some allianceId).map Prod.fst

def adjacencyByCity (mapDefinition : MapDefinition) : OrdDict String (List String) :=
  mapDefinition.edges.foldl
    (fun adjacency edge =>
      (adjacency.upsert edge.cityA [edge.cityB] (List.insert edge.cityB)).upsert edge.cityB [edge.cityA]
        (List.insert edge.cityA))
    OrdDict.empty

def adjacentCityIds (cityIds : List String) (mapDefinition : MapDefinition) : List String :=
  cityIds.flatMap fun cityId => ((adjacencyByCity mapDefinition).get? cityId).getD []

def fullVisibilityCityIds (state : MatchState) (allied : List String) : List String :=
  (state.cities.entries.filter fun entry => entry.2.owner.any (· ∈ allied)).map Prod.fst

def visibleCityIds (mapDefinition : MapDefinition) (fullCityIds : List String) : List String :=
  (fullCityIds ++ adjacentCityIds fullCityIds mapDefinition).dedup

def projectCity (cityId : String) (city : CityState) (fullCityIds : List String) : VisibleCityState :=
  if cityId ∈ fullCityIds then
    { owner := city.owner
      visibility := .full
      population := .known city.population
      resources := .known city.resources
      upgrades := .known city.upgrades
      garrison := .known city.garrison
      buildingQueue := .known city.buildingQueue }
  else
    { owner := city.owner
      visibility := .partly
      population := .unknown
      resources := .unknown
      upgrades := .unknown
      garrison := .unknown
      buildingQueue := .unknown }

def armyIsVisible (army : ArmyState) (allied visibleIds : List String) : Bool :=
  army.owner ∈ allied ∨ army.location.any (· ∈ visibleIds) ∨ army.destination.any (· ∈ visibleIds)

/-- The fields an army is projected with, before they are checked. -/
def armyFields (army : ArmyState) (allied : List String) : VisibleArmyState :=
  if army.owner ∈ allied then
    { id := army.id
      owner := army.owner
      visibility := .full
      troops := .known army.troops
      location := army.location
      destination := army.destination
      path := army.path.map .known
      ticksRemaining := army.ticksRemaining }
  else
    { id := army.id
      owner := army.owner
      visibility := .partly
      troops := .unknown
      location := army.location
      destination := army.destination
      path := army.path.map fun _ => .unknown
      ticksRemaining := army.ticksRemaining }

def projectArmy (army : ArmyState) (allied : List String) : Except ProjectionError VisibleArmyState :=
  (armyFields army allied).modelValidate

def projectedCities (state : MatchState) (fullCityIds visibleIds : List String) : OrdDict String VisibleCityState :=
  OrdDict.ofList ((visibleIds.insertionSort (· ≤ ·)).filterMap fun cityId =>
    (state.cities.get? cityId).map fun city => (cityId, projectCity cityId city fullCityIds))

def projectedArmies (state : MatchState) (allied visibleIds : List String) :
    Except ProjectionError (List VisibleArmyState) :=
  ((state.armies.insertionSort fun first second => first.id ≤ second.id).filter fun army =>
    armyIsVisible army allied visibleIds).mapM fun army => projectArmy army allied

def projectAgentState (state : MatchState) (playerId matchId : String) (mapDefinition : Option MapDefinition) :
    Except ProjectionError AgentStateProjection :=
  match state.players.get? playerId with
  | none => .error (.valueError s!"unknown player_id: {playerId}")
  | some requestingPlayer =>
      let activeMap := mapDefinition.getD loadUk1900Map
      let allied := alliedPlayerIds state playerId requestingPlayer
      let fullCityIds := fullVisibilityCityIds state allied
      let visibleIds := visibleCityIds activeMap fullCityIds
      match projectedArmies state allied visibleIds with
      | .error error => .error error
      | .ok visibleArmies =>
          .ok
            { matchId
              tick := state.tick
              playerId
              resources := requestingPlayer.resources
              cities := projectedCities state fullCityIds visibleIds
              visibleArmies
              allianceId := requestingPlayer.allianceId
              allianceMembers := allied.insertionSort (· ≤ ·)
              victory := state.victory }

end IronCouncil
