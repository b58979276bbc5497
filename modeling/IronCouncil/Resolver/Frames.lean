import IronCouncil.Base.Run
import IronCouncil.Resolver.Tick

/-!
# What a tick leaves alone

Up to the victory phase nothing touches the tick counter, the victory state, who plays and in which alliance. `tickFrame` collects these, and each phase keeps it.
-/

namespace IronCouncil

def tickFrame (state : MatchState) : Nat × VictoryState × List (String × Option String) :=
  (state.tick, state.victory, state.memberships)

theorem tickFrame_eq {state state' : MatchState} (htick : state'.tick = state.tick)
    (hvictory : state'.victory = state.victory) (hmembers : state'.memberships = state.memberships) :
    tickFrame state' = tickFrame state := by
  unfold tickFrame
  rw [htick, hvictory, hmembers]

theorem keys_of_tickFrame {state state' : MatchState} (h : tickFrame state' = tickFrame state) :
    state'.players.keys = state.players.keys := by
  rw [MatchState.keys_eq_memberships, MatchState.keys_eq_memberships]
  exact congrArg (fun frame => frame.2.2.map Prod.fst) h

theorem tickFrame_modifyPlayer {f : PlayerState → PlayerState} (hf : ∀ player, (f player).allianceId = player.allianceId)
    (state : MatchState) (playerId : String) : tickFrame (state.modifyPlayer playerId f) = tickFrame state :=
  tickFrame_eq rfl rfl (MatchState.memberships_modifyPlayer hf state playerId)

theorem tickFrame_credit (state : MatchState) (playerId : String) (resource : ResourceType) (amount : Int) :
    tickFrame (state.credit playerId resource amount) = tickFrame state := by
  unfold MatchState.credit
  rw [tickFrame_modifyPlayer]
  exact fun _ => rfl

theorem tickFrame_resolveResourcePhase {state supplied : MatchState} {phaseState phaseState' : ResolverPhaseState}
    (h : resolveResourcePhase state phaseState = .ok (supplied, phaseState')) :
    tickFrame supplied = tickFrame state := by
  unfold resolveResourcePhase at h
  simp only at h
  split at h
  · cases h
    exact tickFrame_eq rfl rfl (MatchState.memberships_mapVals fun _ _ => rfl)
  · cases h

/-- The resource phase only touches the players' resources. -/
theorem resolveResourcePhase_board {state supplied : MatchState} {phaseState phaseState' : ResolverPhaseState}
    (h : resolveResourcePhase state phaseState = .ok (supplied, phaseState')) :
    supplied.cities = state.cities ∧ supplied.armies = state.armies := by
  unfold resolveResourcePhase at h
  simp only at h
  split at h
  · cases h
    exact ⟨rfl, rfl⟩
  · cases h

theorem tickFrame_musterTroops (state : MatchState) (owner : String) (order : RecruitmentOrder) :
    tickFrame (musterTroops state owner order) = tickFrame state := by
  unfold musterTroops
  split <;> rfl

theorem tickFrame_processRecruitmentOrder (state : MatchState) (order : RecruitmentOrder) :
    tickFrame (processRecruitmentOrder state order) = tickFrame state := by
  unfold processRecruitmentOrder
  split
  · rfl
  · simp only
    rw [tickFrame_musterTroops, tickFrame_credit, tickFrame_credit]

theorem tickFrame_startUpgradeOrder (queuedTracks : String → List UpgradeTrack) (state : MatchState)
    (order : UpgradeOrder) : tickFrame (startUpgradeOrder queuedTracks state order) = tickFrame state := by
  unfold startUpgradeOrder
  split
  · rfl
  · exact tickFrame_credit state _ _ _

theorem tickFrame_processTransferOrder (state : MatchState) (order : TransferOrder) :
    tickFrame (processTransferOrder state order) = tickFrame state := by
  unfold processTransferOrder
  split
  · rfl
  · rw [tickFrame_credit, tickFrame_credit]

theorem tickFrame_resolveBuildPhase (state : MatchState) (orders : OrderBatch) :
    tickFrame (resolveBuildPhase state orders) = tickFrame state := by
  unfold resolveBuildPhase processTransferOrders startUpgradeOrders processRecruitmentOrders
  simp only
  rw [Run.frame_foldl tickFrame_processTransferOrder, Run.frame_foldl (tickFrame_startUpgradeOrder _),
    Run.frame_foldl tickFrame_processRecruitmentOrder]
  rfl

theorem tickFrame_startMovementOrder (mapDefinition : MapDefinition) (state : MatchState) (order : MovementOrder) :
    tickFrame (startMovementOrder mapDefinition state order) = tickFrame state := rfl

theorem tickFrame_resolveMovementPhase (mapDefinition : MapDefinition) (state : MatchState) (orders : OrderBatch) :
    tickFrame (resolveMovementPhase mapDefinition state orders) = tickFrame state := by
  unfold resolveMovementPhase startMovementOrders
  rw [Run.frame_foldl (tickFrame_startMovementOrder mapDefinition)]
  rfl

theorem tickFrame_removeCityFromPlayer (state : MatchState) (playerId : Option String) (cityId : String) :
    tickFrame (removeCityFromPlayer state playerId cityId) = tickFrame state := by
  cases playerId with
  | none => rfl
  | some playerId =>
      show tickFrame (state.modifyPlayer playerId _) = tickFrame state
      rw [tickFrame_modifyPlayer]
      exact fun _ => rfl

theorem tickFrame_addCityToPlayer (state : MatchState) (playerId cityId : String) :
    tickFrame (addCityToPlayer state playerId cityId) = tickFrame state := by
  apply tickFrame_modifyPlayer
  intro player
  split <;> rfl

theorem tickFrame_transferCityControl (state : MatchState) (cityId : String) :
    tickFrame (transferCityControl state cityId) = tickFrame state := by
  unfold transferCityControl
  split
  · split
    · rfl
    · rw [tickFrame_addCityToPlayer, tickFrame_removeCityFromPlayer]
      rfl
  · rfl

theorem tickFrame_resolveCombatPhase (state : MatchState) :
    tickFrame (resolveCombatPhase state) = tickFrame state := by
  unfold resolveCombatPhase transferUncontestedCityControl
  rw [Run.frame_foldl tickFrame_transferCityControl]
  rfl

theorem degradeIfBesieged_eq_ok {mapDefinition : MapDefinition} {degraded degraded' : MatchState × List String}
    {cityId : String} (h : degradeIfBesieged mapDefinition degraded cityId = .ok degraded') :
    degraded' = degraded ∨ degraded' = (degradeFortification degraded.1 cityId, degraded.2 ++ [cityId]) := by
  unfold degradeIfBesieged at h
  split at h
  · cases h
    exact Or.inl rfl
  · split at h
    · cases h
      exact Or.inl rfl
    · split at h
      · cases h
      · cases h
        exact Or.inl rfl
      · cases h
        exact Or.inr rfl

theorem degradeIfUnpaid_cases (degraded : MatchState × List String) (cityId : String) :
    degradeIfUnpaid degraded cityId = degraded ∨
      degradeIfUnpaid degraded cityId = (degradeFortification degraded.1 cityId, degraded.2 ++ [cityId]) := by
  unfold degradeIfUnpaid
  split
  · exact Or.inl rfl
  · split
    · exact Or.inl rfl
    · split
      · exact Or.inl rfl
      · exact Or.inr rfl

/-- The siege only ever takes levels off fortifications. -/
theorem degradeBesiegedFortifications_invariant {I : MatchState → Prop}
    (hdegrade : ∀ state cityId, I state → I (degradeFortification state cityId)) {mapDefinition : MapDefinition}
    {state : MatchState} {degradedCityIds : List String} {besieged : MatchState × List String}
    (h : degradeBesiegedFortifications mapDefinition state degradedCityIds = .ok besieged) (hs : I state) :
    I besieged.1 := by
  apply Run.invariant_foldlM (I := fun degraded : MatchState × List String => I degraded.1) _ h hs
  intro degraded cityId degraded' hstep hkept
  rcases degradeIfBesieged_eq_ok hstep with rfl | rfl
  · exact hkept
  · exact hdegrade degraded.1 cityId hkept

theorem degradeUnpaidFortifications_invariant {I : MatchState → Prop}
    (hdegrade : ∀ state cityId, I state → I (degradeFortification state cityId)) {state : MatchState} (hs : I state)
    (unpaidCityIds degradedCityIds : List String) :
    I (degradeUnpaidFortifications state unpaidCityIds degradedCityIds).1 := by
  apply Run.invariant_foldl (I := fun degraded : MatchState × List String => I degraded.1) _ hs
  intro degraded cityId hkept
  rcases degradeIfUnpaid_cases degraded cityId with h | h
  · rw [h]
    exact hkept
  · rw [h]
    exact hdegrade degraded.1 cityId hkept

theorem tickFrame_degradeBesiegedFortifications {mapDefinition : MapDefinition} {state : MatchState}
    {degradedCityIds : List String} {besieged : MatchState × List String}
    (h : degradeBesiegedFortifications mapDefinition state degradedCityIds = .ok besieged) :
    tickFrame besieged.1 = tickFrame state :=
  degradeBesiegedFortifications_invariant (I := fun board => tickFrame board = tickFrame state)
    (fun _ _ hframe => hframe) h rfl

theorem tickFrame_markEliminated (state : MatchState) : tickFrame (markEliminated state) = tickFrame state :=
  tickFrame_eq rfl rfl (MatchState.memberships_mapVals fun _ _ => rfl)

theorem tickFrame_resolveAttritionPhase (state : MatchState) (phaseState : ResolverPhaseState) :
    tickFrame (resolveAttritionPhase state phaseState).1 = tickFrame state := by
  unfold resolveAttritionPhase
  simp only
  rw [tickFrame_markEliminated]
  apply degradeUnpaidFortifications_invariant (I := fun board => tickFrame board = tickFrame state)
  · exact fun _ _ hframe => hframe
  · rfl

/-! ### The phases in a row -/

/-- A tick that gets through the siege ran these phases. -/
theorem resolveThroughSiege_eq_ok {state besieged : MatchState} {orders : OrderBatch} {mapDefinition : MapDefinition}
    {phaseState : ResolverPhaseState} (h : resolveThroughSiege state orders mapDefinition = .ok (besieged, phaseState)) :
    ∃ supplied phaseState', resolveResourcePhase state ⟨mapDefinition, [], []⟩ = .ok (supplied, phaseState') ∧
      degradeBesiegedFortifications mapDefinition
          (resolveCombatPhase (resolveMovementPhase mapDefinition (resolveBuildPhase supplied orders) orders))
          phaseState'.degradedFortificationCityIds = .ok (besieged, phaseState.degradedFortificationCityIds) ∧
      phaseState.unpaidFortificationCityIds = phaseState'.unpaidFortificationCityIds := by
  unfold resolveThroughSiege at h
  split at h
  · cases h
  · rename_i supplied phaseState' hresource
    simp only at h
    split at h
    · cases h
    · rename_i besieged' degradedCityIds hsiege
      cases h
      exact ⟨supplied, phaseState', hresource, hsiege, rfl⟩

theorem resolveThroughDiplomacy_eq_ok {state settled : MatchState} {orders : OrderBatch}
    {mapDefinition : MapDefinition} (h : resolveThroughDiplomacy state orders mapDefinition = .ok settled) :
    ∃ besieged phaseState, resolveThroughSiege state orders mapDefinition = .ok (besieged, phaseState) ∧
      settled = (resolveAttritionPhase besieged phaseState).1 := by
  unfold resolveThroughDiplomacy at h
  split at h
  · cases h
  · rename_i besieged phaseState hsiege
    cases h
    exact ⟨besieged, phaseState, hsiege, rfl⟩

theorem resolveTick_eq_ok {state : MatchState} {orders : OrderBatch} {mapDefinition : Option MapDefinition}
    {resolution : TickResolutionResult} (h : resolveTick state orders mapDefinition = .ok resolution) :
    ∃ settled, resolveThroughDiplomacy state orders (resolveMapDefinition mapDefinition) = .ok settled ∧
      resolution = ⟨resolveVictoryPhase settled, completedPhases, completedEvents⟩ := by
  unfold resolveTick at h
  split at h
  · cases h
  · rename_i settled hsettled
    cases h
    exact ⟨settled, hsettled, rfl⟩

theorem tickFrame_resolveThroughDiplomacy {state settled : MatchState} {orders : OrderBatch}
    {mapDefinition : MapDefinition} (h : resolveThroughDiplomacy state orders mapDefinition = .ok settled) :
    tickFrame settled = tickFrame state := by
  obtain ⟨besieged, phaseState, hsiege, rfl⟩ := resolveThroughDiplomacy_eq_ok h
  obtain ⟨supplied, phaseState', hresource, hbesieged, -⟩ := resolveThroughSiege_eq_ok hsiege
  rw [tickFrame_resolveAttritionPhase, tickFrame_degradeBesiegedFortifications hbesieged,
    tickFrame_resolveCombatPhase, tickFrame_resolveMovementPhase, tickFrame_resolveBuildPhase,
    tickFrame_resolveResourcePhase hresource]

end IronCouncil
