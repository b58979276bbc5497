import IronCouncil.Base.Tally
import IronCouncil.Resolver.Build
import IronCouncil.Resolver.Siege

/-!
# The victory phase and the tick

The coalition that alone holds the most cities leads. A leader at the threshold starts a countdown, keeps it running from tick to tick, and a new leader clears it for one tick. `resolveTick` runs the eight phases in order.
-/

namespace IronCouncil

/-! ### Victory -/

def coalitionOfOwner (state : MatchState) (city : CityState) : Option CoalitionKey :=
  match city.owner with
  | none => none
  | some owner => (state.players.get? owner).map fun player => coalitionKey owner player.allianceId

def coalitionCityCounts (state : MatchState) : OrdDict CoalitionKey Nat :=
  tally (state.cities.values.filterMap (coalitionOfOwner state))

def leadingCoalition (counts : OrdDict CoalitionKey Nat) : Option String × Nat :=
  ((soleLeader counts).map publicCoalitionId, largestCount counts)

def updatedVictoryCountdown (victory : VictoryState) (leadingAlliance : Option String) (citiesHeld : Nat) :
    Option Nat :=
  if leadingAlliance = none ∨ citiesHeld < victory.threshold then none
  else if victory.leadingAlliance = none then some victory.threshold
  else if victory.leadingAlliance ≠ leadingAlliance then none
  else
    match victory.countdownTicksRemaining with
    | none => some victory.threshold
    | some countdown => some (countdown - 1)

def updatedVictory (victory : VictoryState) (leading : Option String × Nat) : VictoryState :=
  { victory with
    leadingAlliance := leading.1
    citiesHeld := leading.2
    countdownTicksRemaining := updatedVictoryCountdown victory leading.1 leading.2 }

def resolveVictoryPhase (state : MatchState) : MatchState :=
  { state with victory := updatedVictory state.victory (leadingCoalition (coalitionCityCounts state)) }

/-! ### The tick -/

structure TickResolutionResult where
  nextState : MatchState
  phases : List TickPhaseMetadata
  events : List TickPhaseEvent
deriving DecidableEq

def completedPhases : List TickPhaseMetadata :=
  TickPhaseName.phaseOrder.map fun phase => ⟨phase, phase.phaseEventName⟩

def completedEvents : List TickPhaseEvent :=
  TickPhaseName.phaseOrder.map fun phase => ⟨phase, phase.phaseEventName⟩

/-- The map of a tick, the 1900 map unless the caller gives another. -/
def resolveMapDefinition (mapDefinition : Option MapDefinition) : MapDefinition :=
  mapDefinition.getD loadUk1900Map

/-- The phases up to the siege. From here on nothing raises. -/
def resolveThroughSiege (state : MatchState) (orders : OrderBatch) (mapDefinition : MapDefinition) :
    Except TickError (MatchState × ResolverPhaseState) :=
  match resolveResourcePhase state ⟨mapDefinition, [], []⟩ with
  | .error error => .error error
  | .ok (supplied, phaseState) =>
      let moved := resolveMovementPhase mapDefinition (resolveBuildPhase supplied orders) orders
      match degradeBesiegedFortifications mapDefinition (resolveCombatPhase moved)
          phaseState.degradedFortificationCityIds with
      | .error error => .error error
      | .ok (besieged, degradedCityIds) =>
          .ok (besieged, { phaseState with degradedFortificationCityIds := degradedCityIds })

/-- The phases up to diplomacy, which does nothing. -/
def resolveThroughDiplomacy (state : MatchState) (orders : OrderBatch) (mapDefinition : MapDefinition) :
    Except TickError MatchState :=
  match resolveThroughSiege state orders mapDefinition with
  | .error error => .error error
  | .ok (besieged, phaseState) => .ok (resolveAttritionPhase besieged phaseState).1

def resolveTick (state : MatchState) (validatedOrders : OrderBatch) (mapDefinition : Option MapDefinition) :
    Except TickError TickResolutionResult :=
  match resolveThroughDiplomacy state validatedOrders (resolveMapDefinition mapDefinition) with
  | .error error => .error error
  | .ok settled =>
      .ok
        { nextState := resolveVictoryPhase settled
          phases := completedPhases
          events := completedEvents }

end IronCouncil
