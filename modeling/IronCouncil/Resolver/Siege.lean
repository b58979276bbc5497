import IronCouncil.Resolver.Combat
import IronCouncil.Resolver.Resource

/-!
# The siege and attrition phases

A fortified city all of whose owned neighbours are hostile loses a level, and so does one whose upkeep was not paid, but no city loses two in a tick. Starving players lose a troop in every army, and a player left without cities and armies is eliminated.
-/

namespace IronCouncil

/-- An alliance and a solo player are different coalitions, whatever their ids. -/
inductive CoalitionKey
  | alliance (allianceId : String)
  | solo (playerId : String)
deriving DecidableEq, Repr

def coalitionKey (playerId : String) : Option String → CoalitionKey
  | some allianceId => .alliance allianceId
  | none => .solo playerId

def publicCoalitionId : CoalitionKey → String
  | .alliance allianceId => allianceId
  | .solo playerId => playerId

def playerCoalition (state : MatchState) (playerId : String) : Except TickError CoalitionKey :=
  match state.players.get? playerId with
  | none => .error (.keyError playerId)
  | some player => .ok (coalitionKey playerId player.allianceId)

/-! ### Sieges -/

def addNeighbors (index : OrdDict String (List String)) (edge : MapEdge) : OrdDict String (List String) :=
  (index.upsert edge.cityA [edge.cityB] (List.insert edge.cityB)).upsert edge.cityB [edge.cityA]
    (List.insert edge.cityA)

def adjacentCityIdsByCity (mapDefinition : MapDefinition) : OrdDict String (List String) :=
  (mapDefinition.edges.foldl addNeighbors OrdDict.empty).mapVals fun _ neighbors =>
    neighbors.insertionSort (· ≤ ·)

/-- No neighbour is in the owner's coalition. Looking up a neighbour's coalition raises when its owner is not a player. -/
def allNeighborsHostile (state : MatchState) (owner : String) (ownerCoalition : CoalitionKey) :
    List String → Except TickError Bool
  | [] => .ok true
  | adjacentCityId :: rest =>
      match state.cityOwner adjacentCityId with
      | none => allNeighborsHostile state owner ownerCoalition rest
      | some adjacentOwner =>
          if adjacentOwner = owner then .ok false
          else
            match playerCoalition state adjacentOwner with
            | .error error => .error error
            | .ok adjacentCoalition =>
                if adjacentCoalition = ownerCoalition then .ok false
                else allNeighborsHostile state owner ownerCoalition rest

def isBesiegedCity (mapDefinition : MapDefinition) (state : MatchState) (cityId : String) (city : CityState) :
    Except TickError Bool :=
  match city.owner with
  | none => .ok false
  | some owner =>
      match ((adjacentCityIdsByCity mapDefinition).get? cityId).getD [] with
      | [] => .ok false
      | adjacentCityIds =>
          match playerCoalition state owner with
          | .error error => .error error
          | .ok ownerCoalition => allNeighborsHostile state owner ownerCoalition adjacentCityIds

def degradeFortification (state : MatchState) (cityId : String) : MatchState :=
  state.modifyCity cityId fun city =>
    { city with upgrades := { city.upgrades with fortification := city.upgrades.fortification - 1 } }

def degradeIfBesieged (mapDefinition : MapDefinition) (degraded : MatchState × List String) (cityId : String) :
    Except TickError (MatchState × List String) :=
  match degraded.1.cities.get? cityId with
  | none => .ok degraded
  | some city =>
      if city.owner = none ∨ city.upgrades.fortification = 0 then .ok degraded
      else
        match isBesiegedCity mapDefinition degraded.1 cityId city with
        | .error error => .error error
        | .ok false => .ok degraded
        | .ok true => .ok (degradeFortification degraded.1 cityId, degraded.2 ++ [cityId])

def degradeBesiegedFortifications (mapDefinition : MapDefinition) (state : MatchState)
    (degradedCityIds : List String) : Except TickError (MatchState × List String) :=
  (state.cities.keys.insertionSort (· ≤ ·)).foldlM (degradeIfBesieged mapDefinition) (state, degradedCityIds)

/-! ### Attrition -/

def starvationAttritionLoss : Nat := 1

def starvingPlayers (state : MatchState) : List String :=
  (state.players.entries.filter fun entry => entry.2.resources.food = 0).map Prod.fst

def degradeIfUnpaid (degraded : MatchState × List String) (cityId : String) : MatchState × List String :=
  if cityId ∈ degraded.2 then degraded
  else
    match degraded.1.cities.get? cityId with
    | none => degraded
    | some city =>
        if city.upgrades.fortification = 0 then degraded
        else (degradeFortification degraded.1 cityId, degraded.2 ++ [cityId])

def degradeUnpaidFortifications (state : MatchState) (unpaidCityIds degradedCityIds : List String) :
    MatchState × List String :=
  (unpaidCityIds.insertionSort (· ≤ ·)).foldl degradeIfUnpaid (state, degradedCityIds)

def sufferAttrition (state : MatchState) : MatchState :=
  let starving := starvingPlayers state
  { state with
    armies := applyLosses (fun army => if army.owner ∈ starving then starvationAttritionLoss else 0) state.armies }

def ownsCity (state : MatchState) (playerId : String) : Bool :=
  state.cities.values.any fun city => city.owner = some playerId

def ownsArmy (state : MatchState) (playerId : String) : Bool :=
  state.armies.any fun army => army.owner = playerId

def markEliminated (state : MatchState) : MatchState :=
  { state with
    players := state.players.mapVals fun playerId player =>
      { player with isEliminated := !ownsCity state playerId && !ownsArmy state playerId } }

def resolveAttritionPhase (state : MatchState) (phaseState : ResolverPhaseState) :
    MatchState × ResolverPhaseState :=
  let degraded := degradeUnpaidFortifications (sufferAttrition state) phaseState.unpaidFortificationCityIds
    phaseState.degradedFortificationCityIds
  (markEliminated degraded.1, { phaseState with degradedFortificationCityIds := degraded.2 })

end IronCouncil
