import IronCouncil.Base.ListUpdate
import IronCouncil.Data.Maps
import IronCouncil.Models.Orders
import IronCouncil.Models.State
import Mathlib.Data.List.Dedup
import Mathlib.Data.String.Basic

/-!
# The movement and combat phases

Armies in transit come one tick nearer, then ordered armies leave. Armies of different owners that stand in one city fight: each side loses a tenth of the others' strength, shared out over its armies in proportion to their troops, the largest remainders first. A city held by armies of one player alone changes to that player.
-/

namespace IronCouncil

/-! ### Movement -/

def advanceTransitArmy (army : ArmyState) : ArmyState :=
  match army.destination with
  | none => army
  | some destination =>
      let ticksRemaining := army.ticksRemaining - 1
      if ticksRemaining = 0 then
        { army with location := some destination, destination := none, path := none, ticksRemaining := 0 }
      else { army with ticksRemaining := ticksRemaining }

def advanceTransitArmies (state : MatchState) : MatchState :=
  { state with armies := state.armies.map advanceTransitArmy }

/-- The distance of a route. Where two edges join the same cities, the later one counts. -/
def edgeDistanceByRoute (mapDefinition : MapDefinition) (cityA cityB : String) : Option Nat :=
  ((mapDefinition.edges.filter fun edge => edge.joins cityA cityB).map (·.distanceTicks)).getLast?

theorem edgeDistanceByRoute_pos {mapDefinition : MapDefinition} {cityA cityB : String} {distance : Nat}
    (h : edgeDistanceByRoute mapDefinition cityA cityB = some distance) : 0 < distance := by
  obtain ⟨edge, -, rfl⟩ := List.mem_map.1 (List.mem_of_getLast? h)
  exact edge.distance_pos

def departArmy (mapDefinition : MapDefinition) (destination : String) (army : ArmyState) : ArmyState :=
  match army.location, army.destination with
  | some location, none =>
      match edgeDistanceByRoute mapDefinition location destination with
      | none => army
      | some distance =>
          { army with
            location := none
            destination := some destination
            path := some [destination]
            ticksRemaining := distance }
  | _, _ => army

def startMovementOrder (mapDefinition : MapDefinition) (state : MatchState) (order : MovementOrder) : MatchState :=
  { state with
    armies := state.armies.modifyLastWhere (fun army => army.id = order.armyId)
      (departArmy mapDefinition order.destination) }

def startMovementOrders (mapDefinition : MapDefinition) (state : MatchState) (orders : List MovementOrder) :
    MatchState :=
  orders.foldl (startMovementOrder mapDefinition) state

def resolveMovementPhase (mapDefinition : MapDefinition) (state : MatchState) (orders : OrderBatch) : MatchState :=
  startMovementOrders mapDefinition (advanceTransitArmies state) orders.movements

/-! ### Casualties -/

def combatCasualtyDivisor : Nat := 10

def defenderBonusNumerator : Nat := 12

def defenderBonusDenominator : Nat := 10

def fortificationMultiplierNumerators : List Nat := [10, 13, 17, 25]

def fortificationMultiplierDenominator : Nat := 10

def effectiveCombatStrength (troops : Nat) (isDefender : Bool) (fortificationTier : Nat) : Nat :=
  if isDefender then
    troops * defenderBonusNumerator * tierEntry fortificationMultiplierNumerators fortificationTier /
      (defenderBonusDenominator * fortificationMultiplierDenominator)
  else troops

def armiesByOwner (armies : List ArmyState) : OrdDict String (List ArmyState) :=
  armies.foldl (fun groups army => groups.upsert army.owner [army] (· ++ [army])) OrdDict.empty

def troopTotal (armies : List ArmyState) : Nat := (armies.map (·.troops)).sum

/-- An owner nobody opposes is left out by the source, which counts as no losses. -/
def combatCasualtiesByOwner (armiesAtCity : List ArmyState) (cityOwner : Option String)
    (fortificationTier : Nat) : OrdDict String Nat :=
  let troopTotalsByOwner := (armiesByOwner armiesAtCity).mapVals fun _ armies => troopTotal armies
  let effectiveStrengthByOwner := troopTotalsByOwner.mapVals fun owner troops =>
    effectiveCombatStrength troops (some owner = cityOwner) fortificationTier
  troopTotalsByOwner.mapVals fun owner troops =>
    let opposingStrength :=
      ((effectiveStrengthByOwner.entries.filter fun entry => entry.1 ≠ owner).map Prod.snd).sum
    min troops (opposingStrength / combatCasualtyDivisor)

def allocateProportionalCasualties (armies : List ArmyState) (totalCasualties : Nat) : List (String × Nat) :=
  let totalTroops := troopTotal armies
  if totalCasualties = 0 ∨ armies = [] ∨ totalTroops = 0 then []
  else
    let orderedArmies := armies.insertionSort fun first second => first.id ≤ second.id
    let floors := orderedArmies.foldl
      (fun casualties army => casualties.insert army.id (totalCasualties * army.troops / totalTroops)) OrdDict.empty
    let remainders := orderedArmies.map fun army => (totalCasualties * army.troops % totalTroops, army.id)
    let allocated := (orderedArmies.map fun army => totalCasualties * army.troops / totalTroops).sum
    let largestFirst := remainders.insertionSort fun first second =>
      second.1 < first.1 ∨ (first.1 = second.1 ∧ first.2 ≤ second.2)
    let casualties := (largestFirst.take (totalCasualties - allocated)).foldl
      (fun casualties entry => casualties.modify entry.2 (· + 1)) floors
    casualties.entries.filter fun entry => 0 < entry.2

def armiesAtCity (armies : List ArmyState) (cityId : String) : List ArmyState :=
  armies.filter fun army => army.stationedAt cityId

def ownersOf (armies : List ArmyState) : List String := (armies.map (·.owner)).dedup

def cityCasualties (armies : List ArmyState) (cityId : String) (city : CityState) : List (String × Nat) :=
  let atCity := armiesAtCity armies cityId
  if (ownersOf atCity).length ≤ 1 then []
  else
    let casualtiesByOwner := combatCasualtiesByOwner atCity city.owner city.upgrades.fortification
    (armiesByOwner atCity).entries.flatMap fun entry =>
      allocateProportionalCasualties entry.2 ((casualtiesByOwner.get? entry.1).getD 0)

def casualtiesByArmyId (state : MatchState) : OrdDict String Nat :=
  (state.cities.entries.flatMap fun entry => cityCasualties state.armies entry.1 entry.2).foldl
    (fun casualties entry => casualties.upsert entry.1 entry.2 (· + entry.2)) OrdDict.empty

/-- Take losses from every army; an army left with no troops is gone. -/
def applyLosses (losses : ArmyState → Nat) (armies : List ArmyState) : List ArmyState :=
  (armies.map fun army => { army with troops := army.troops - losses army }).filter fun army => 0 < army.troops

def resolveContestedCityCombat (state : MatchState) : MatchState :=
  let casualties := casualtiesByArmyId state
  { state with armies := applyLosses (fun army => (casualties.get? army.id).getD 0) state.armies }

/-! ### Control of cities -/

def removeCityFromPlayer (state : MatchState) (playerId : Option String) (cityId : String) : MatchState :=
  match playerId with
  | none => state
  | some playerId => state.modifyPlayer playerId fun player =>
      { player with citiesOwned := player.citiesOwned.filter (· ≠ cityId) }

def addCityToPlayer (state : MatchState) (playerId cityId : String) : MatchState :=
  state.modifyPlayer playerId fun player =>
    if cityId ∈ player.citiesOwned then player
    else { player with citiesOwned := (player.citiesOwned ++ [cityId]).insertionSort (· ≤ ·) }

def occupyingOwners (state : MatchState) (cityId : String) : List String :=
  ownersOf (armiesAtCity state.armies cityId)

def setCityOwner (state : MatchState) (cityId owner : String) : MatchState :=
  state.modifyCity cityId fun city => { city with owner := some owner }

def transferCityControl (state : MatchState) (cityId : String) : MatchState :=
  match state.cities.get? cityId, occupyingOwners state cityId with
  | some city, [occupyingOwner] =>
      if city.owner = some occupyingOwner ∨ occupyingOwner ∉ state.players.keys then state
      else
        addCityToPlayer (removeCityFromPlayer (setCityOwner state cityId occupyingOwner) city.owner cityId)
          occupyingOwner cityId
  | _, _ => state

def transferUncontestedCityControl (state : MatchState) : MatchState :=
  state.cities.keys.foldl transferCityControl state

def resolveCombatPhase (state : MatchState) : MatchState :=
  transferUncontestedCityControl (resolveContestedCityCombat state)

end IronCouncil
