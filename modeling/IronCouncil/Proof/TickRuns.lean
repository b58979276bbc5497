import IronCouncil.Proof.OrderEffects
import IronCouncil.Simulation

/-!
# Runs of ticks

A run of ticks with validated orders, on any map. The server's ticks and those of a simulation that validates what it is given are steps of such runs.
-/

namespace IronCouncil

/-- The next state has the armies and the cities that the tick leaves. Whatever else happens between two ticks is left open. -/
def Follows (mapDefinition : MapDefinition) (state : MatchState) (submissions : List OrderEnvelope) (next : MatchState) :
    Prop :=
  ∃ resolution, resolveTick state (validatedOrders mapDefinition state submissions) (some mapDefinition) = .ok resolution ∧
    next.armies = resolution.nextState.armies ∧ next.cities = resolution.nextState.cities

section Follows

variable {mapDefinition : MapDefinition} {state next : MatchState} {submissions : List OrderEnvelope}

theorem keys_of_follows (h : Follows mapDefinition state submissions next) : next.cities.keys = state.cities.keys := by
  obtain ⟨resolution, hresolution, -, hcities⟩ := h
  obtain ⟨settled, hsettled, rfl⟩ := resolveTick_eq_ok hresolution
  have hkeys := keys_resolveThroughDiplomacy hsettled
  rw [hcities]
  exact hkeys

end Follows

theorem follows_simulateTick {mapDefinition : MapDefinition} {state : MatchState} {submissions : List OrderEnvelope}
    {simulated : SimulatedTick}
    (h : simulateTick (.provider fun _ board => validatedOrders mapDefinition board submissions) (some mapDefinition) state =
      .ok simulated) : Follows mapDefinition state submissions simulated.snapshot := by
  unfold simulateTick at h
  split at h
  · cases h
  · rename_i resolution hresolution
    cases h
    exact ⟨resolution, hresolution, rfl, rfl⟩

end IronCouncil
