import IronCouncil.Proof.Board

/-!
# What a tick changes of a city

The build phase advances and fills the queues and so raises levels, combat changes owners, and the siege and attrition phases take levels off fortifications. A view of the cities that does not show what a phase changes is the same after it.
-/

namespace IronCouncil

section View

variable {γ : Type} {g : CityState → γ}

/-- What a view shows of each city. -/
def cityView (g : CityState → γ) (state : MatchState) (cityId : String) : Option γ :=
  (state.cities.get? cityId).map g

theorem cityView_congr {state state' : MatchState} (h : state'.cities = state.cities) :
    cityView g state' = cityView g state := by
  funext cityId
  unfold cityView
  rw [h]

theorem cityView_mapVals {state : MatchState} {f : String → CityState → CityState}
    (hg : ∀ cityId city, g (f cityId city) = g city) :
    cityView g { state with cities := state.cities.mapVals f } = cityView g state := by
  funext cityId
  unfold cityView
  simp only [OrdDict.get?_mapVals, Option.map_map, Function.comp_def, hg]

theorem cityView_modifyCity {f : CityState → CityState} (hg : ∀ city, g (f city) = g city) (state : MatchState)
    (cityId : String) : cityView g (state.modifyCity cityId f) = cityView g state := by
  apply cityView_mapVals
  intro key city
  split
  · exact hg city
  · rfl

/-! ### Build and movement -/

theorem cities_processRecruitmentOrder (state : MatchState) (order : RecruitmentOrder) :
    (processRecruitmentOrder state order).cities = state.cities := by
  unfold processRecruitmentOrder musterTroops
  split
  · rfl
  · dsimp only
    split <;> rfl

theorem cities_processRecruitmentOrders (state : MatchState) (orders : List RecruitmentOrder) :
    (processRecruitmentOrders state orders).cities = state.cities :=
  Run.frame_foldl (g := MatchState.cities) cities_processRecruitmentOrder _ _

theorem cities_processTransferOrder (state : MatchState) (order : TransferOrder) :
    (processTransferOrder state order).cities = state.cities := by
  unfold processTransferOrder
  split <;> rfl

theorem cities_processTransferOrders (state : MatchState) (orders : List TransferOrder) :
    (processTransferOrders state orders).cities = state.cities :=
  Run.frame_foldl (g := MatchState.cities) cities_processTransferOrder _ _

theorem cities_resolveMovementPhase (mapDefinition : MapDefinition) (state : MatchState) (orders : OrderBatch) :
    (resolveMovementPhase mapDefinition state orders).cities = state.cities := by
  have hstep : ∀ board order, (startMovementOrder mapDefinition board order).cities = board.cities := fun _ _ => rfl
  unfold resolveMovementPhase startMovementOrders
  rw [Run.frame_foldl hstep]
  rfl

theorem cityView_startUpgradeOrders (hg : ∀ city queue, g { city with buildingQueue := queue } = g city)
    (queuedTracks : String → List UpgradeTrack) (state : MatchState) (orders : List UpgradeOrder) :
    cityView g (startUpgradeOrders queuedTracks state orders) = cityView g state := by
  apply Run.frame_foldl (g := cityView g)
  intro board order
  unfold startUpgradeOrder
  split
  · rfl
  · unfold enqueueUpgrade
    rw [cityView_modifyCity fun city => hg city _]
    rfl

/-- After the build phase a city is as the advance of its queue leaves it, new items in the queue apart. -/
theorem cityView_resolveBuildPhase (hg : ∀ city queue, g { city with buildingQueue := queue } = g city)
    (state : MatchState) (orders : OrderBatch) :
    cityView g (resolveBuildPhase state orders) = cityView g (advanceBuildQueues state) := by
  unfold resolveBuildPhase
  dsimp only
  rw [cityView_congr (cities_processTransferOrders _ _), cityView_startUpgradeOrders hg,
    cityView_congr (cities_processRecruitmentOrders _ _)]

/-! ### Combat, siege and attrition -/

theorem cityView_transferCityControl (hg : ∀ city owner, g { city with owner := owner } = g city) (state : MatchState)
    (cityId : String) : cityView g (transferCityControl state cityId) = cityView g state := by
  have hadd : ∀ (board : MatchState) (playerId : String),
      cityView g (addCityToPlayer board playerId cityId) = cityView g board := fun _ _ => rfl
  rcases transferCityControl_cases state cityId with hsame | ⟨city, owner, -, -, -, -, hcontrol⟩
  · rw [hsame]
  · rw [hcontrol, hadd, cityView_congr (removeCityFromPlayer_frame _ _ _).1]
    exact cityView_modifyCity (fun city => hg city _) state cityId

theorem cityView_resolveCombatPhase (hg : ∀ city owner, g { city with owner := owner } = g city) (state : MatchState) :
    cityView g (resolveCombatPhase state) = cityView g state := by
  unfold resolveCombatPhase transferUncontestedCityControl
  rw [Run.frame_foldl (g := cityView g) (cityView_transferCityControl hg)]
  rfl

section Degraded

variable (hg : ∀ city level, g { city with upgrades := { city.upgrades with fortification := level } } = g city)

include hg

theorem cityView_degradeFortification (state : MatchState) (cityId : String) :
    cityView g (degradeFortification state cityId) = cityView g state :=
  cityView_modifyCity (fun city => hg city _) state cityId

theorem cityView_degradeBesiegedFortifications {mapDefinition : MapDefinition} {state : MatchState}
    {degradedCityIds : List String} {besieged : MatchState × List String}
    (h : degradeBesiegedFortifications mapDefinition state degradedCityIds = .ok besieged) :
    cityView g besieged.1 = cityView g state :=
  degradeBesiegedFortifications_invariant (I := fun board => cityView g board = cityView g state)
    (fun board cityId hframe => (cityView_degradeFortification hg board cityId).trans hframe) h rfl

theorem cityView_resolveAttritionPhase (state : MatchState) (phaseState : ResolverPhaseState) :
    cityView g (resolveAttritionPhase state phaseState).1 = cityView g state := by
  have hmark : ∀ board : MatchState, cityView g (markEliminated board) = cityView g board := fun _ => rfl
  unfold resolveAttritionPhase
  dsimp only
  rw [hmark]
  apply degradeUnpaidFortifications_invariant (I := fun board => cityView g board = cityView g state)
  · exact fun board cityId hframe => (cityView_degradeFortification hg board cityId).trans hframe
  · rfl

end Degraded

/-- From the build phase to the end of the tick only owners and fortifications change. -/
theorem cityView_resolveThroughDiplomacy
    (hlevels : ∀ city level, g { city with upgrades := { city.upgrades with fortification := level } } = g city)
    (howner : ∀ city owner, g { city with owner := owner } = g city) {state settled : MatchState} {orders : OrderBatch}
    {mapDefinition : MapDefinition} (h : resolveThroughDiplomacy state orders mapDefinition = .ok settled) :
    ∃ supplied phaseState, resolveResourcePhase state ⟨mapDefinition, [], []⟩ = .ok (supplied, phaseState) ∧
      cityView g settled = cityView g (resolveBuildPhase supplied orders) := by
  obtain ⟨besieged, phaseState, hsiege, rfl⟩ := resolveThroughDiplomacy_eq_ok h
  obtain ⟨supplied, phaseState', hresource, hbesieged, -⟩ := resolveThroughSiege_eq_ok hsiege
  refine ⟨supplied, phaseState', hresource, ?_⟩
  rw [cityView_resolveAttritionPhase hlevels, cityView_degradeBesiegedFortifications hlevels hbesieged,
    cityView_resolveCombatPhase howner, cityView_congr (cities_resolveMovementPhase _ _ _)]

end View

/-- No city comes or goes. -/
theorem keys_resolveThroughDiplomacy {state settled : MatchState} {orders : OrderBatch} {mapDefinition : MapDefinition}
    (h : resolveThroughDiplomacy state orders mapDefinition = .ok settled) : settled.cities.keys = state.cities.keys := by
  obtain ⟨besieged, phaseState, hsiege, rfl⟩ := resolveThroughDiplomacy_eq_ok h
  obtain ⟨supplied, phaseState', hresource, hbesieged, -⟩ := resolveThroughSiege_eq_ok hsiege
  have hfought : ∀ board : MatchState, (resolveCombatPhase board).cities.keys = board.cities.keys := by
    intro board
    apply Run.frame_foldl (g := fun board : MatchState => board.cities.keys) _ (resolveContestedCityCombat board)
    intro board cityId
    rcases transferCityControl_cases board cityId with hsame | ⟨_, _, -, -, -, -, hcontrol⟩
    · rw [hsame]
    · rw [hcontrol]
      exact (controlled_frame _ _ _ _).2.1
  have hworn := congrArg (fun e => e.1) (estate_degradeUnpaidFortifications (sufferAttrition besieged)
    phaseState.unpaidFortificationCityIds phaseState.degradedFortificationCityIds).1
  have hbuilt := congrArg (fun e => e.1) ((estate_resolveMovementPhase mapDefinition (resolveBuildPhase supplied orders)
    orders).trans ((estate_resolveBuildPhase supplied orders).trans (estate_resolveResourcePhase hresource).1))
  exact hworn.trans ((congrArg (fun e => e.1) (estate_degradeBesiegedFortifications hbesieged).1).trans
    ((hfought _).trans hbuilt))

end IronCouncil
