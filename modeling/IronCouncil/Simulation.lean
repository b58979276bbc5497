import IronCouncil.Resolver.Tick

/-!
# The offline engine

A simulation resolves tick after tick from an initial state, with the same orders every tick or with the orders a provider gives for the tick and the state.
-/

namespace IronCouncil

structure SimulatedTick where
  tick : Nat
  snapshot : MatchState
  phases : List TickPhaseMetadata
  events : List TickPhaseEvent
deriving DecidableEq

structure SimulationResult where
  ticks : List SimulatedTick
  finalState : MatchState
deriving DecidableEq

/-- Static orders or an order provider, never both. -/
inductive OrderSource
  | static (orders : OrderBatch)
  | provider (ordersAt : Nat → MatchState → OrderBatch)

def OrderSource.ordersAt : OrderSource → Nat → MatchState → OrderBatch
  | .static orders, _, _ => orders
  | .provider ordersAt, tick, state => ordersAt tick state

def simulateTick (orders : OrderSource) (mapDefinition : Option MapDefinition) (state : MatchState) :
    Except TickError SimulatedTick :=
  match resolveTick state (orders.ordersAt state.tick state) mapDefinition with
  | .error error => .error error
  | .ok resolution =>
      .ok
        { tick := state.tick + 1
          snapshot := { resolution.nextState with tick := state.tick + 1 }
          phases := resolution.phases
          events := resolution.events }

def simulateTicks (orders : OrderSource) (mapDefinition : Option MapDefinition) :
    Nat → MatchState → Except TickError SimulationResult
  | 0, state => .ok ⟨[], state⟩
  | ticks + 1, state =>
      match simulateTick orders mapDefinition state with
      | .error error => .error error
      | .ok simulated =>
          match simulateTicks orders mapDefinition ticks simulated.snapshot with
          | .error error => .error error
          | .ok rest => .ok ⟨simulated :: rest.ticks, rest.finalState⟩

end IronCouncil
