import IronCouncil.Data.Maps
import IronCouncil.Models.State
import Mathlib.Algebra.GroupWithZero.Nat
import Mathlib.Algebra.Order.BigOperators.Group.List
import Mathlib.Algebra.Ring.Int.Defs
import Mathlib.Data.List.Sort
import Mathlib.Data.String.Basic

/-!
# The resource phase

The phases of a tick, the state they share, and the first of them. Cities pay out to their owners; population and armies eat; fortifications are paid for in the order of the city ids, and the ones a player cannot pay for are remembered for the attrition phase. It is the one phase that runs the parser's checks on what it computed, so it is the one that can raise a validation error.
-/

namespace IronCouncil

inductive TickPhaseName
  | resource
  | build
  | movement
  | combat
  | siege
  | attrition
  | diplomacy
  | victory
deriving DecidableEq, Repr

namespace TickPhaseName

def value : TickPhaseName → String
  | .resource => "resource"
  | .build => "build"
  | .movement => "movement"
  | .combat => "combat"
  | .siege => "siege"
  | .attrition => "attrition"
  | .diplomacy => "diplomacy"
  | .victory => "victory"

def phaseEventName (phase : TickPhaseName) : String := s!"phase.{phase.value}.completed"

def phaseOrder : List TickPhaseName :=
  [.resource, .build, .movement, .combat, .siege, .attrition, .diplomacy, .victory]

end TickPhaseName

structure TickPhaseMetadata where
  phase : TickPhaseName
  event : String
deriving DecidableEq, Repr

structure TickPhaseEvent where
  phase : TickPhaseName
  event : String
deriving DecidableEq, Repr

/-- The cities whose upkeep is unpaid and those already degraded, sets in the source. -/
structure ResolverPhaseState where
  mapDefinition : MapDefinition
  unpaidFortificationCityIds : List String
  degradedFortificationCityIds : List String

def economyTierMultiplierNumerators : List Nat := [3, 4, 5, 6]

def economyTierMultiplierDenominator : Nat := 3

def fortificationUpkeepCosts : List Nat := [0, 1, 2, 3]

/-- The largest base resource, the first of them in field order on a tie. -/
def primaryResource (base : ResourceState) : ResourceType :=
  if base.food ≥ base.production ∧ base.food ≥ base.money then .food
  else if base.production ≥ base.money then .production
  else .money

def cityResourceYield (city : CityState) : ResourceState :=
  let numerator := tierEntry economyTierMultiplierNumerators city.upgrades.economy
  let yieldOf (resource : ResourceType) : Int :=
    if resource = primaryResource city.resources then
      city.resources.get resource * numerator / economyTierMultiplierDenominator
    else city.resources.get resource
  { food := yieldOf .food, production := yieldOf .production, money := yieldOf .money }

def cityIdsByOwner (state : MatchState) (playerId : String) : List (String × CityState) :=
  state.cities.entries.filter fun entry => entry.2.owner = some playerId

def armyUpkeepByOwner (state : MatchState) (playerId : String) : Nat :=
  ((state.armies.filter fun army => army.owner = playerId).map (·.troops)).sum

def populationUpkeep (state : MatchState) (playerId : String) : Nat :=
  ((cityIdsByOwner state playerId).map fun entry => entry.2.population).sum

def resourceYield (state : MatchState) (playerId : String) (resource : ResourceType) : Int :=
  ((cityIdsByOwner state playerId).map fun entry => (cityResourceYield entry.2).get resource).sum

def fortifiedCitiesInUpkeepOrder (state : MatchState) (owner : String) : List (String × CityState) :=
  (state.cities.entries.filter fun entry => entry.2.owner = some owner ∧ 0 < entry.2.upgrades.fortification).insertionSort
    fun first second => first.1 ≤ second.1

def payFortification (paid : Int × List String) (entry : String × CityState) : Int × List String :=
  let upkeepCost := tierEntry fortificationUpkeepCosts entry.2.upgrades.fortification
  if paid.1 ≥ upkeepCost then (paid.1 - upkeepCost, paid.2) else (paid.1, paid.2 ++ [entry.1])

def deductFortificationUpkeep (state : MatchState) (owner : String) (availableMoney : Int) : Int × List String :=
  let paid := (fortifiedCitiesInUpkeepOrder state owner).foldl payFortification (availableMoney, [])
  (max 0 paid.1, paid.2)

/-- A player's food once the tick's yield is in and everyone has eaten. -/
def foodAfterUpkeep (state : MatchState) (playerId : String) (resources : ResourceState) : Int :=
  max 0 (resources.food + resourceYield state playerId .food - populationUpkeep state playerId -
    armyUpkeepByOwner state playerId)

/-- A player's money once the tick's yield is in and the fortifications are paid for. -/
def moneyAfterUpkeep (state : MatchState) (playerId : String) (resources : ResourceState) : Int :=
  (deductFortificationUpkeep state playerId (resources.money + resourceYield state playerId .money)).1

def updatedResources (state : MatchState) (playerId : String) (resources : ResourceState) : ResourceState where
  food := foodAfterUpkeep state playerId resources
  production := resources.production + resourceYield state playerId .production
  money := moneyAfterUpkeep state playerId resources

def unpaidFortifications (state : MatchState) (playerId : String) (resources : ResourceState) : List String :=
  (deductFortificationUpkeep state playerId (resources.money + resourceYield state playerId .money)).2

/-- The players after the phase. Each update reads the cities, the armies and the player's own resources, so the order of the players does not matter. -/
def resourcePhasePlayers (state : MatchState) : OrdDict String PlayerState :=
  state.players.mapVals fun playerId player =>
    { player with resources := updatedResources state playerId player.resources }

def resolveResourcePhase (state : MatchState) (phaseState : ResolverPhaseState) :
    Except TickError (MatchState × ResolverPhaseState) :=
  let players := resourcePhasePlayers state
  if ∀ player ∈ players.values, player.resources.FieldsValid then
    .ok ({ state with players := players },
      { phaseState with
        unpaidFortificationCityIds := state.players.entries.flatMap fun entry =>
          unpaidFortifications state entry.1 entry.2.resources
        degradedFortificationCityIds := [] })
  else .error .validationError

theorem foodAfterUpkeep_nonneg (state : MatchState) (playerId : String) (resources : ResourceState) :
    0 ≤ foodAfterUpkeep state playerId resources := le_max_left 0 _

theorem moneyAfterUpkeep_nonneg (state : MatchState) (playerId : String) (resources : ResourceState) :
    0 ≤ moneyAfterUpkeep state playerId resources := le_max_left 0 _

theorem tierEntry_economy_ge (tier : Nat) : economyTierMultiplierDenominator ≤ tierEntry economyTierMultiplierNumerators tier := by
  rcases tier with _ | _ | _ | _ | tier
  · decide
  · decide
  · decide
  · decide
  · show 3 ≤ economyTierMultiplierNumerators.getD (tier + 4) 6
    simp [economyTierMultiplierNumerators]

/-- An economy upgrade multiplies by at least one: a city never pays out less than its base. -/
theorem le_cityResourceYield {city : CityState} (hvalid : city.resources.FieldsValid) (resource : ResourceType) :
    city.resources.get resource ≤ (cityResourceYield city).get resource := by
  have hbase : 0 ≤ city.resources.get resource := by
    cases resource
    exacts [hvalid.1, hvalid.2.1, hvalid.2.2]
  have hnum : (3 : Int) ≤ tierEntry economyTierMultiplierNumerators city.upgrades.economy := by
    exact_mod_cast tierEntry_economy_ge city.upgrades.economy
  have hmul : city.resources.get resource * 3 ≤
      city.resources.get resource * tierEntry economyTierMultiplierNumerators city.upgrades.economy :=
    Int.mul_le_mul_of_nonneg_left hnum hbase
  have hyield : (cityResourceYield city).get resource =
      if resource = primaryResource city.resources then
        city.resources.get resource * tierEntry economyTierMultiplierNumerators city.upgrades.economy /
          economyTierMultiplierDenominator
      else city.resources.get resource := by
    cases resource <;> rfl
  rw [hyield]
  split
  · rw [show (economyTierMultiplierDenominator : Int) = 3 from rfl]
    omega
  · exact le_refl _

theorem cityResourceYield_nonneg {city : CityState} (hvalid : city.resources.FieldsValid) (resource : ResourceType) :
    0 ≤ (cityResourceYield city).get resource := by
  have hle := le_cityResourceYield hvalid resource
  cases resource
  exacts [hvalid.1.trans hle, hvalid.2.1.trans hle, hvalid.2.2.trans hle]

theorem resourceYield_nonneg {state : MatchState} (hvalid : ∀ city ∈ state.cities.values, city.resources.FieldsValid)
    (playerId : String) (resource : ResourceType) : 0 ≤ resourceYield state playerId resource := by
  apply List.sum_nonneg
  intro amount hmem
  obtain ⟨entry, hentry, rfl⟩ := List.mem_map.1 hmem
  have hcity : entry.2 ∈ state.cities.values := List.mem_map_of_mem (List.mem_filter.1 hentry).1
  exact cityResourceYield_nonneg (hvalid entry.2 hcity) resource

/-- Only production can fail the phase's check: food and money are floored at zero. -/
theorem updatedResources_fieldsValid_iff (state : MatchState) (playerId : String) (resources : ResourceState) :
    (updatedResources state playerId resources).FieldsValid ↔
      0 ≤ resources.production + resourceYield state playerId .production := by
  constructor
  · intro h
    exact h.2.1
  · intro h
    exact ⟨foodAfterUpkeep_nonneg state playerId resources, h, moneyAfterUpkeep_nonneg state playerId resources⟩

end IronCouncil
