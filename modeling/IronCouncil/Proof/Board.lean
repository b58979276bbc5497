import IronCouncil.Proof.Ledger

/-!
# The board

Ownership is stored with the city and with the player, and armies move, arrive, fight and disappear in five phases. `BoardConsistent` says that both views of ownership agree and that every army stands or travels properly, and each phase keeps it. Only the combat phase changes owners; the other phases keep the `estate`.
-/

namespace IronCouncil

/-! ### The estate -/

/-- The cities, their owners, and the players' lists of them. -/
def estate (state : MatchState) : List String × (String → Option String) × List (String × List String) :=
  (state.cities.keys, state.cityOwner, state.holdings)

theorem estate_eq {state state' : MatchState} (hkeys : state'.cities.keys = state.cities.keys)
    (howner : state'.cityOwner = state.cityOwner) (hholdings : state'.holdings = state.holdings) :
    estate state' = estate state := by
  unfold estate
  rw [hkeys, howner, hholdings]

theorem estate_modifyCity {f : CityState → CityState} (hf : ∀ city, (f city).owner = city.owner) (state : MatchState)
    (cityId : String) : estate (state.modifyCity cityId f) = estate state :=
  estate_eq (OrdDict.keys_modify _ _ _) (MatchState.cityOwner_modifyCity hf state cityId) rfl

theorem estate_credit (state : MatchState) (playerId : String) (resource : ResourceType) (amount : Int) :
    estate (state.credit playerId resource amount) = estate state :=
  estate_eq rfl (MatchState.cityOwner_congr rfl) (MatchState.holdings_credit _ _ _ _)

theorem estate_resolveResourcePhase {state supplied : MatchState} {phaseState phaseState' : ResolverPhaseState}
    (h : resolveResourcePhase state phaseState = .ok (supplied, phaseState')) :
    estate supplied = estate state ∧ supplied.armies = state.armies := by
  unfold resolveResourcePhase at h
  simp only at h
  split at h
  · cases h
    exact ⟨estate_eq rfl (MatchState.cityOwner_congr rfl) (MatchState.holdings_mapVals fun _ _ => rfl), rfl⟩
  · cases h

theorem estate_advanceBuildQueues (state : MatchState) : estate (advanceBuildQueues state) = estate state :=
  estate_eq (OrdDict.keys_mapVals _ _) (MatchState.cityOwner_mapVals fun _ _ => rfl) rfl

theorem estate_musterTroops (state : MatchState) (owner : String) (order : RecruitmentOrder) :
    estate (musterTroops state owner order) = estate state := by
  unfold musterTroops
  split <;> rfl

theorem estate_processRecruitmentOrder (state : MatchState) (order : RecruitmentOrder) :
    estate (processRecruitmentOrder state order) = estate state := by
  unfold processRecruitmentOrder
  split
  · rfl
  · simp only
    rw [estate_musterTroops, estate_credit, estate_credit]

theorem estate_startUpgradeOrder (queuedTracks : String → List UpgradeTrack) (state : MatchState)
    (order : UpgradeOrder) :
    estate (startUpgradeOrder queuedTracks state order) = estate state ∧
      (startUpgradeOrder queuedTracks state order).armies = state.armies := by
  unfold startUpgradeOrder
  split
  · exact ⟨rfl, rfl⟩
  · refine ⟨?_, rfl⟩
    unfold enqueueUpgrade
    rw [estate_modifyCity, estate_credit]
    exact fun _ => rfl

theorem estate_processTransferOrder (state : MatchState) (order : TransferOrder) :
    estate (processTransferOrder state order) = estate state ∧
      (processTransferOrder state order).armies = state.armies := by
  unfold processTransferOrder
  split
  · exact ⟨rfl, rfl⟩
  · exact ⟨by rw [estate_credit, estate_credit], rfl⟩

theorem estate_resolveBuildPhase (state : MatchState) (orders : OrderBatch) :
    estate (resolveBuildPhase state orders) = estate state := by
  unfold resolveBuildPhase processTransferOrders startUpgradeOrders processRecruitmentOrders
  simp only
  rw [Run.frame_foldl fun board order => (estate_processTransferOrder board order).1,
    Run.frame_foldl fun board order => (estate_startUpgradeOrder _ board order).1,
    Run.frame_foldl estate_processRecruitmentOrder, estate_advanceBuildQueues]

theorem estate_resolveMovementPhase (mapDefinition : MapDefinition) (state : MatchState) (orders : OrderBatch) :
    estate (resolveMovementPhase mapDefinition state orders) = estate state := by
  have hstep : ∀ state order, estate (startMovementOrder mapDefinition state order) = estate state := fun _ _ => rfl
  unfold resolveMovementPhase startMovementOrders
  rw [Run.frame_foldl hstep]
  rfl

theorem estate_degradeFortification (state : MatchState) (cityId : String) :
    estate (degradeFortification state cityId) = estate state := by
  unfold degradeFortification
  rw [estate_modifyCity]
  exact fun _ => rfl

theorem estate_degradeBesiegedFortifications {mapDefinition : MapDefinition} {state : MatchState}
    {degradedCityIds : List String} {besieged : MatchState × List String}
    (h : degradeBesiegedFortifications mapDefinition state degradedCityIds = .ok besieged) :
    estate besieged.1 = estate state ∧ besieged.1.armies = state.armies := by
  apply degradeBesiegedFortifications_invariant
    (I := fun board => estate board = estate state ∧ board.armies = state.armies) _ h ⟨rfl, rfl⟩
  exact fun board cityId hframe => ⟨(estate_degradeFortification board cityId).trans hframe.1, hframe.2⟩

theorem estate_degradeUnpaidFortifications (state : MatchState) (unpaidCityIds degradedCityIds : List String) :
    estate (degradeUnpaidFortifications state unpaidCityIds degradedCityIds).1 = estate state ∧
      (degradeUnpaidFortifications state unpaidCityIds degradedCityIds).1.armies = state.armies := by
  apply degradeUnpaidFortifications_invariant
    (I := fun board => estate board = estate state ∧ board.armies = state.armies) _ ⟨rfl, rfl⟩
  exact fun board cityId hframe => ⟨(estate_degradeFortification board cityId).trans hframe.1, hframe.2⟩

/-! ### Armies -/

/-- An army stands in a city, or travels to one along a path of cities with time left. -/
structure ArmyPlaced (cityIds : List String) (army : ArmyState) : Prop where
  either : army.location = none ↔ army.destination ≠ none
  location : ∀ cityId, army.location = some cityId → cityId ∈ cityIds
  destination : ∀ cityId, army.destination = some cityId → cityId ∈ cityIds
  path : ∀ path, army.path = some path → ∀ cityId ∈ path, cityId ∈ cityIds
  transit : army.destination ≠ none → (∃ path, army.path = some path ∧ path ≠ []) ∧ 0 < army.ticksRemaining

/-- Armies whose owners are all in `S`. -/
structure ArmiesWithin (S : String → Prop) (cityIds : List String) (armies : List ArmyState) : Prop where
  owners : ∀ army ∈ armies, S army.owner
  distinct : (armies.map (·.id)).Nodup
  placed : ∀ army ∈ armies, ArmyPlaced cityIds army

section Armies

variable {S : String → Prop} {cityIds : List String} {armies : List ArmyState}

/-- An update that keeps the ids and the owners has to keep the places only. -/
theorem ArmiesWithin.update (h : ArmiesWithin S cityIds armies) {updated : List ArmyState}
    (hids : (updated.map (·.id)).Sublist (armies.map (·.id)))
    (hmem : ∀ army ∈ updated, ∃ before ∈ armies, army.owner = before.owner ∧
      (ArmyPlaced cityIds before → ArmyPlaced cityIds army)) : ArmiesWithin S cityIds updated where
  owners army harmy := by
    obtain ⟨before, hbefore, howner, -⟩ := hmem army harmy
    rw [howner]
    exact h.owners before hbefore
  distinct := h.distinct.sublist hids
  placed army harmy := by
    obtain ⟨before, hbefore, -, hplaced⟩ := hmem army harmy
    exact hplaced (h.placed before hbefore)

theorem ArmiesWithin.applyLosses (h : ArmiesWithin S cityIds armies) (losses : ArmyState → Nat) :
    ArmiesWithin S cityIds (applyLosses losses armies) := by
  apply h.update
  · have hsub : (IronCouncil.applyLosses losses armies).Sublist
        (armies.map fun army => { army with troops := army.troops - losses army }) := List.filter_sublist
    have := hsub.map (·.id)
    rwa [List.map_map] at this
  · intro army harmy
    obtain ⟨before, hbefore, rfl⟩ := List.mem_map.1 (List.mem_filter.1 harmy).1
    exact ⟨before, hbefore, rfl, fun hplaced =>
      ⟨hplaced.either, hplaced.location, hplaced.destination, hplaced.path, hplaced.transit⟩⟩

theorem advanceTransitArmy_placed {army : ArmyState} (h : ArmyPlaced cityIds army) :
    ArmyPlaced cityIds (advanceTransitArmy army) := by
  unfold advanceTransitArmy
  split
  · exact h
  · rename_i destination hdestination
    obtain ⟨hpath, hticks⟩ := h.transit (by rw [hdestination]; exact Option.some_ne_none _)
    simp only
    split
    · refine ⟨by simp, ?_, by simp, by simp, by simp⟩
      rintro cityId hcity
      cases hcity
      exact h.destination _ hdestination
    · refine ⟨h.either, h.location, h.destination, h.path, fun _ => ⟨hpath, ?_⟩⟩
      show 0 < army.ticksRemaining - 1
      omega

theorem advanceTransitArmy_frame (army : ArmyState) :
    (advanceTransitArmy army).id = army.id ∧ (advanceTransitArmy army).owner = army.owner := by
  unfold advanceTransitArmy
  split
  · exact ⟨rfl, rfl⟩
  · simp only
    split <;> exact ⟨rfl, rfl⟩

theorem ArmiesWithin.advanceTransit (h : ArmiesWithin S cityIds armies) :
    ArmiesWithin S cityIds (armies.map advanceTransitArmy) := by
  apply h.update
  · rw [List.map_map]
    have hids : (fun army => army.id) ∘ advanceTransitArmy = fun army : ArmyState => army.id :=
      funext fun army => (advanceTransitArmy_frame army).1
    rw [hids]
  · intro army harmy
    obtain ⟨before, hbefore, rfl⟩ := List.mem_map.1 harmy
    exact ⟨before, hbefore, (advanceTransitArmy_frame before).2, advanceTransitArmy_placed⟩

theorem departArmy_frame (mapDefinition : MapDefinition) (destination : String) (army : ArmyState) :
    (departArmy mapDefinition destination army).id = army.id ∧
      (departArmy mapDefinition destination army).owner = army.owner := by
  unfold departArmy
  split
  · split <;> exact ⟨rfl, rfl⟩
  · exact ⟨rfl, rfl⟩

theorem departArmy_placed {mapDefinition : MapDefinition} {destination : String} {army : ArmyState}
    (hknown : destination ∈ cityIds) (h : ArmyPlaced cityIds army) :
    ArmyPlaced cityIds (departArmy mapDefinition destination army) := by
  unfold departArmy
  split
  · split
    · exact h
    · rename_i distance hdistance
      have hpos := edgeDistanceByRoute_pos hdistance
      refine ⟨by simp, by simp, ?_, ?_, fun _ => ⟨⟨_, rfl, List.cons_ne_nil _ _⟩, ?_⟩⟩
      · rintro cityId hcity
        cases hcity
        exact hknown
      · rintro path hpath cityId hcity
        cases hpath
        rw [List.mem_singleton.1 hcity]
        exact hknown
      · show (0 : Int) < distance
        exact_mod_cast hpos
  · exact h

theorem ArmiesWithin.depart (h : ArmiesWithin S cityIds armies) (mapDefinition : MapDefinition) {armyId destination : String}
    (hknown : destination ∈ cityIds) :
    ArmiesWithin S cityIds
      (armies.modifyLastWhere (fun army => army.id = armyId) (departArmy mapDefinition destination)) := by
  apply h.update
  · rw [List.map_modifyLastWhere fun army => (departArmy_frame mapDefinition destination army).1]
  · intro army harmy
    rcases List.mem_modifyLastWhere harmy with hmem | ⟨before, hbefore, -, rfl⟩
    · exact ⟨army, hmem, rfl, id⟩
    · exact ⟨before, hbefore, (departArmy_frame mapDefinition destination before).2, departArmy_placed hknown⟩

/-- Recruits join the army that stands in the city, or form a new one under a fresh id. -/
theorem ArmiesWithin.muster {state : MatchState} (h : ArmiesWithin S cityIds state.armies) {owner : String}
    {order : RecruitmentOrder} (howner : S owner) (hknown : order.city ∈ cityIds) :
    ArmiesWithin S cityIds (musterTroops state owner order).armies := by
  unfold musterTroops
  split
  · apply h.update
    · rw [List.map_modifyFirstWhere]
      exact fun _ => rfl
    · intro army harmy
      rcases List.mem_modifyFirstWhere harmy with hmem | ⟨before, hbefore, -, rfl⟩
      · exact ⟨army, hmem, rfl, id⟩
      · exact ⟨before, hbefore, rfl, fun hplaced =>
          ⟨hplaced.either, hplaced.location, hplaced.destination, hplaced.path, hplaced.transit⟩⟩
  · have hfresh : nextRecruitmentArmyId owner order.city (state.armies.map (·.id)) ∉ state.armies.map (·.id) :=
      nextFree_not_mem (numberedName_injective _) _ _
    refine ⟨?_, ?_, ?_⟩
    · intro army harmy
      rcases List.mem_append.1 harmy with hmem | hmem
      · exact h.owners army hmem
      · rw [List.mem_singleton.1 hmem]
        exact howner
    · rw [List.map_append, List.map_singleton]
      apply List.Nodup.append h.distinct (List.nodup_singleton _)
      rw [List.disjoint_singleton]
      exact hfresh
    · intro army harmy
      rcases List.mem_append.1 harmy with hmem | hmem
      · exact h.placed army hmem
      · rw [List.mem_singleton.1 hmem]
        refine ⟨by simp, ?_, by simp, by simp, by simp⟩
        rintro cityId hcity
        cases hcity
        exact hknown

end Armies

/-! ### Owners -/

/-- A board whose cities and armies all belong to members of `S`. -/
structure BoardWithin (S : String → Prop) (state : MatchState) : Prop where
  cityOwners : ∀ cityId owner, state.cityOwner cityId = some owner → S owner
  armies : ArmiesWithin S state.cities.keys state.armies

section Within

variable {S : String → Prop}

theorem BoardWithin.of_estate {state state' : MatchState} (h : BoardWithin S state)
    (hestate : estate state' = estate state)
    (harmies : ArmiesWithin S state.cities.keys state.armies → ArmiesWithin S state.cities.keys state'.armies) :
    BoardWithin S state' := by
  have hkeys : state'.cities.keys = state.cities.keys := congrArg (fun e => e.1) hestate
  have howner : state'.cityOwner = state.cityOwner := congrArg (fun e => e.2.1) hestate
  refine ⟨?_, ?_⟩
  · rw [howner]
    exact h.cityOwners
  · rw [hkeys]
    exact harmies h.armies

theorem mem_keys_of_cityOwner {state : MatchState} {cityId owner : String}
    (h : state.cityOwner cityId = some owner) : cityId ∈ state.cities.keys := by
  obtain ⟨city, hcity, -⟩ := MatchState.cityOwner_eq_some.1 h
  exact OrdDict.mem_keys_of_get? hcity

theorem BoardWithin.processRecruitmentOrder {state : MatchState} (h : BoardWithin S state) (order : RecruitmentOrder) :
    BoardWithin S (processRecruitmentOrder state order) := by
  apply h.of_estate (estate_processRecruitmentOrder state order)
  intro harmies
  unfold IronCouncil.processRecruitmentOrder
  split
  · exact harmies
  · rename_i owner hpayer
    obtain ⟨howner, -⟩ := payingOwner_eq_some.1 hpayer
    apply ArmiesWithin.muster _ (h.cityOwners _ _ howner) (mem_keys_of_cityOwner howner)
    exact harmies

theorem BoardWithin.resolveBuildPhase {state : MatchState} (h : BoardWithin S state) (orders : OrderBatch) :
    BoardWithin S (resolveBuildPhase state orders) := by
  have hadvanced : BoardWithin S (advanceBuildQueues state) := h.of_estate (estate_advanceBuildQueues state) id
  have hrecruited : BoardWithin S (processRecruitmentOrders (advanceBuildQueues state) orders.recruitment) :=
    Run.invariant_foldl (fun _ order hboard => hboard.processRecruitmentOrder order) hadvanced _
  have hupgraded : BoardWithin S (startUpgradeOrders (queuedTracksAtPhaseStart state)
      (processRecruitmentOrders (advanceBuildQueues state) orders.recruitment) orders.upgrades) := by
    apply Run.invariant_foldl _ hrecruited
    intro board order hboard
    obtain ⟨hestate, harmies⟩ := estate_startUpgradeOrder (queuedTracksAtPhaseStart state) board order
    exact hboard.of_estate hestate fun hwithin => by rwa [harmies]
  apply Run.invariant_foldl _ hupgraded
  intro board order hboard
  obtain ⟨hestate, harmies⟩ := estate_processTransferOrder board order
  exact hboard.of_estate hestate fun hwithin => by rwa [harmies]

theorem BoardWithin.resolveMovementPhase {state : MatchState} (h : BoardWithin S state) (mapDefinition : MapDefinition)
    {orders : OrderBatch} (hknown : ∀ order ∈ orders.movements, order.destination ∈ state.cities.keys) :
    BoardWithin S (resolveMovementPhase mapDefinition state orders) := by
  apply h.of_estate (estate_resolveMovementPhase mapDefinition state orders)
  intro harmies
  have hmoved : ∀ (movements : List MovementOrder) (board : MatchState),
      (∀ order ∈ movements, order.destination ∈ state.cities.keys) →
      ArmiesWithin S state.cities.keys board.armies →
      ArmiesWithin S state.cities.keys (startMovementOrders mapDefinition board movements).armies := by
    intro movements
    induction movements with
    | nil => exact fun _ _ hboard => hboard
    | cons order movements ih =>
        intro board hdestinations hboard
        obtain ⟨hfirst, hrest⟩ := List.forall_mem_cons.1 hdestinations
        exact ih _ hrest (hboard.depart mapDefinition hfirst)
  exact hmoved orders.movements (advanceTransitArmies state) hknown harmies.advanceTransit

theorem mem_occupyingOwners {state : MatchState} {cityId owner : String} (h : owner ∈ occupyingOwners state cityId) :
    ∃ army ∈ state.armies, army.owner = owner := by
  unfold occupyingOwners ownersOf armiesAtCity at h
  obtain ⟨army, harmy, rfl⟩ := List.mem_map.1 (List.mem_dedup.1 h)
  exact ⟨army, (List.mem_filter.1 harmy).1, rfl⟩

/-- What control of a city does: nothing, or it hands the city to the one player whose armies stand there. -/
theorem transferCityControl_cases (state : MatchState) (cityId : String) :
    transferCityControl state cityId = state ∨
      ∃ city occupyingOwner, state.cities.get? cityId = some city ∧ occupyingOwner ∈ occupyingOwners state cityId ∧
        occupyingOwner ∈ state.players.keys ∧ city.owner ≠ some occupyingOwner ∧
        transferCityControl state cityId =
          addCityToPlayer (removeCityFromPlayer (setCityOwner state cityId occupyingOwner) city.owner cityId)
            occupyingOwner cityId := by
  unfold transferCityControl
  split
  · rename_i city occupyingOwner hcity hoccupied
    split
    · exact Or.inl rfl
    · rename_i hcontrol
      obtain ⟨howner, hplayer⟩ := not_or.1 hcontrol
      refine Or.inr ⟨city, occupyingOwner, hcity, ?_, not_not.1 hplayer, howner, rfl⟩
      rw [hoccupied]
      exact List.mem_singleton_self _
  · exact Or.inl rfl

theorem removeCityFromPlayer_frame (state : MatchState) (playerId : Option String) (cityId : String) :
    (removeCityFromPlayer state playerId cityId).cities = state.cities ∧
      (removeCityFromPlayer state playerId cityId).armies = state.armies := by
  cases playerId <;> exact ⟨rfl, rfl⟩

theorem cityOwner_setCityOwner {state : MatchState} {cityId owner : String} (hknown : cityId ∈ state.cities.keys)
    (key : String) :
    (setCityOwner state cityId owner).cityOwner key = if key = cityId then some owner else state.cityOwner key := by
  unfold setCityOwner MatchState.cityOwner MatchState.modifyCity
  rw [OrdDict.get?_modify]
  split
  · rename_i hkey
    obtain ⟨city, hcity⟩ := OrdDict.mem_keys.1 hknown
    rw [hkey, hcity]
    rfl
  · rfl

/-- The board after a city has changed hands, its players' lists aside. -/
theorem controlled_frame (state : MatchState) (cityId owner : String) (previous : Option String) :
    (addCityToPlayer (removeCityFromPlayer (setCityOwner state cityId owner) previous cityId) owner cityId).cityOwner =
        (setCityOwner state cityId owner).cityOwner ∧
      (addCityToPlayer (removeCityFromPlayer (setCityOwner state cityId owner) previous cityId) owner
        cityId).cities.keys = state.cities.keys ∧
      (addCityToPlayer (removeCityFromPlayer (setCityOwner state cityId owner) previous cityId) owner
        cityId).armies = state.armies := by
  obtain ⟨hcities, harmies⟩ := removeCityFromPlayer_frame (setCityOwner state cityId owner) previous cityId
  refine ⟨MatchState.cityOwner_congr hcities, ?_, harmies⟩
  exact (congrArg OrdDict.keys hcities).trans (OrdDict.keys_modify _ _ _)

theorem armies_transferUncontestedCityControl (state : MatchState) :
    (transferUncontestedCityControl state).armies = state.armies := by
  apply Run.frame_foldl (g := MatchState.armies)
  intro board city
  rcases transferCityControl_cases board city with hsame | ⟨_, _, -, -, -, -, hcontrol⟩
  · rw [hsame]
  · rw [hcontrol]
    exact (controlled_frame _ _ _ _).2.2

theorem BoardWithin.transferCityControl {state : MatchState} (h : BoardWithin S state) (cityId : String) :
    BoardWithin S (transferCityControl state cityId) := by
  rcases transferCityControl_cases state cityId with hsame | ⟨city, owner, hcity, hoccupied, -, -, heq⟩
  · rw [hsame]
    exact h
  · obtain ⟨howner, hkeys, harmies⟩ := controlled_frame state cityId owner city.owner
    obtain ⟨army, harmy, rfl⟩ := mem_occupyingOwners hoccupied
    rw [heq]
    refine ⟨?_, ?_⟩
    · intro key cityOwner hkey
      rw [howner, cityOwner_setCityOwner (OrdDict.mem_keys_of_get? hcity)] at hkey
      split at hkey
      · cases hkey
        exact h.armies.owners army harmy
      · exact h.cityOwners key cityOwner hkey
    · rw [hkeys, harmies]
      exact h.armies

theorem BoardWithin.resolveCombatPhase {state : MatchState} (h : BoardWithin S state) :
    BoardWithin S (resolveCombatPhase state) := by
  have hfought : BoardWithin S (resolveContestedCityCombat state) :=
    ⟨h.cityOwners, h.armies.applyLosses _⟩
  exact Run.invariant_foldl (fun _ cityId hboard => hboard.transferCityControl cityId) hfought _

theorem estate_markEliminated (state : MatchState) : estate (markEliminated state) = estate state :=
  estate_eq rfl (MatchState.cityOwner_congr rfl) (MatchState.holdings_mapVals fun _ _ => rfl)

theorem BoardWithin.resolveAttritionPhase {state : MatchState} (h : BoardWithin S state)
    (phaseState : ResolverPhaseState) : BoardWithin S (resolveAttritionPhase state phaseState).1 := by
  have hsuffered : BoardWithin S (sufferAttrition state) := ⟨h.cityOwners, h.armies.applyLosses _⟩
  obtain ⟨hestate, harmies⟩ := estate_degradeUnpaidFortifications (sufferAttrition state)
    phaseState.unpaidFortificationCityIds phaseState.degradedFortificationCityIds
  have hdegraded := hsuffered.of_estate hestate fun hwithin => by rwa [harmies]
  exact hdegraded.of_estate (estate_markEliminated _) id

/-- A tick gives cities and armies only to players who had some: where every owner is in `S` before, every owner is in `S` after. -/
theorem BoardWithin.resolveThroughDiplomacy {state settled : MatchState} (h : BoardWithin S state) {orders : OrderBatch}
    {mapDefinition : MapDefinition} (hknown : ∀ order ∈ orders.movements, order.destination ∈ state.cities.keys)
    (hsettled : resolveThroughDiplomacy state orders mapDefinition = .ok settled) : BoardWithin S settled := by
  obtain ⟨besieged, phaseState, hsiege, rfl⟩ := resolveThroughDiplomacy_eq_ok hsettled
  obtain ⟨supplied, phaseState', hresource, hbesieged, -⟩ := resolveThroughSiege_eq_ok hsiege
  obtain ⟨hestate, harmies⟩ := estate_resolveResourcePhase hresource
  have hsupplied : BoardWithin S supplied := h.of_estate hestate fun hwithin => by rwa [harmies]
  have hbuilt := hsupplied.resolveBuildPhase orders
  have hkeys : (IronCouncil.resolveBuildPhase supplied orders).cities.keys = state.cities.keys :=
    congrArg (fun e => e.1) ((estate_resolveBuildPhase supplied orders).trans hestate)
  rw [← hkeys] at hknown
  have hmoved := hbuilt.resolveMovementPhase mapDefinition hknown
  obtain ⟨hbesiegedEstate, hbesiegedArmies⟩ := estate_degradeBesiegedFortifications hbesieged
  have hbesiegedBoard := hmoved.resolveCombatPhase.of_estate hbesiegedEstate fun hwithin => by
    rwa [hbesiegedArmies]
  exact hbesiegedBoard.resolveAttritionPhase phaseState

end Within

/-! ### The players' lists -/

/-- Every player lists, without repeats, exactly the cities that `owns` gives the player. -/
def ListsCities (owns : String → String → Prop) (state : MatchState) : Prop :=
  ∀ playerId citiesOwned, (playerId, citiesOwned) ∈ state.holdings →
    citiesOwned.Nodup ∧ ∀ cityId, cityId ∈ citiesOwned ↔ owns playerId cityId

theorem holdings_modifyPlayer {f : PlayerState → PlayerState} {state : MatchState} {modified playerId : String}
    {citiesOwned : List String} (h : (playerId, citiesOwned) ∈ (state.modifyPlayer modified f).holdings) :
    ∃ player, (playerId, player.citiesOwned) ∈ state.holdings ∧
      citiesOwned = (if playerId = modified then f player else player).citiesOwned := by
  obtain ⟨player, hplayer, rfl⟩ := MatchState.mem_holdings.1 h
  change (state.players.modify modified f).get? playerId = some player at hplayer
  rw [OrdDict.get?_modify] at hplayer
  split at hplayer
  · rename_i hkey
    obtain ⟨before, hbefore, rfl⟩ := Option.map_eq_some_iff.1 hplayer
    exact ⟨before, MatchState.mem_holdings.2 ⟨before, hbefore, rfl⟩, by rw [if_pos hkey]⟩
  · rename_i hkey
    exact ⟨player, MatchState.mem_holdings.2 ⟨player, hplayer, rfl⟩, by rw [if_neg hkey]⟩

theorem ListsCities.removeCityFromPlayer {owns : String → String → Prop} {state : MatchState}
    (h : ListsCities owns state) (removed : Option String) (cityId : String) :
    ListsCities (fun playerId city => owns playerId city ∧ (removed = some playerId → city ≠ cityId))
      (removeCityFromPlayer state removed cityId) := by
  cases removed with
  | none =>
      intro playerId citiesOwned hmem
      obtain ⟨hnodup, hexact⟩ := h playerId citiesOwned hmem
      exact ⟨hnodup, fun city => by simp [hexact]⟩
  | some removed =>
      intro playerId citiesOwned hmem
      obtain ⟨player, hbefore, rfl⟩ := holdings_modifyPlayer hmem
      obtain ⟨hnodup, hexact⟩ := h playerId player.citiesOwned hbefore
      by_cases hkey : playerId = removed
      · subst hkey
        rw [if_pos rfl]
        refine ⟨hnodup.filter _, fun city => ?_⟩
        simp [List.mem_filter, hexact]
      · rw [if_neg hkey]
        exact ⟨hnodup, fun city => by simp [hexact, Ne.symm hkey]⟩

theorem ListsCities.addCityToPlayer {owns : String → String → Prop} {state : MatchState}
    (h : ListsCities owns state) (added cityId : String) :
    ListsCities (fun playerId city => owns playerId city ∨ (playerId = added ∧ city = cityId))
      (addCityToPlayer state added cityId) := by
  intro playerId citiesOwned hmem
  obtain ⟨player, hbefore, rfl⟩ := holdings_modifyPlayer hmem
  obtain ⟨hnodup, hexact⟩ := h playerId player.citiesOwned hbefore
  by_cases hkey : playerId = added
  · rw [if_pos hkey]
    split
    · rename_i hlisted
      refine ⟨hnodup, fun city => ?_⟩
      rw [hexact]
      constructor
      · exact Or.inl
      · rintro (howns | ⟨-, rfl⟩)
        · exact howns
        · exact (hexact city).1 hlisted
    · rename_i hlisted
      have hperm := List.perm_insertionSort (· ≤ ·) (player.citiesOwned ++ [cityId])
      refine ⟨hperm.nodup_iff.2 ?_, fun city => ?_⟩
      · apply List.Nodup.append hnodup (List.nodup_singleton _)
        rw [List.disjoint_singleton]
        exact hlisted
      · show city ∈ (player.citiesOwned ++ [cityId]).insertionSort (· ≤ ·) ↔ _
        rw [hperm.mem_iff, List.mem_append, List.mem_singleton, hexact]
        simp [hkey]
  · rw [if_neg hkey]
    exact ⟨hnodup, fun city => by simp [hexact, hkey]⟩

/-- The players' lists say what the cities say. -/
def HoldingsExact (state : MatchState) : Prop :=
  ListsCities (fun playerId cityId => state.cityOwner cityId = some playerId) state

theorem HoldingsExact.of_estate {state state' : MatchState} (h : HoldingsExact state)
    (hestate : estate state' = estate state) : HoldingsExact state' := by
  have howner : state'.cityOwner = state.cityOwner := congrArg (fun e => e.2.1) hestate
  have hholdings : state'.holdings = state.holdings := congrArg (fun e => e.2.2) hestate
  unfold HoldingsExact ListsCities at *
  rw [howner, hholdings]
  exact h

theorem HoldingsExact.transferCityControl {state : MatchState} (h : HoldingsExact state) (cityId : String) :
    HoldingsExact (transferCityControl state cityId) := by
  rcases transferCityControl_cases state cityId with hsame | ⟨city, owner, hcity, -, -, hprevious, heq⟩
  · rw [hsame]
    exact h
  · have hset : ListsCities (fun playerId city => state.cityOwner city = some playerId)
        (setCityOwner state cityId owner) := h
    have hlists := (hset.removeCityFromPlayer city.owner cityId).addCityToPlayer owner cityId
    have hbefore : state.cityOwner cityId = city.owner := by
      unfold MatchState.cityOwner
      rw [hcity]
      rfl
    intro playerId citiesOwned hmem
    rw [heq] at hmem
    obtain ⟨hnodup, hexact⟩ := hlists playerId citiesOwned hmem
    refine ⟨hnodup, fun key => ?_⟩
    rw [hexact, heq, (controlled_frame state cityId owner city.owner).1]
    beta_reduce
    rw [cityOwner_setCityOwner (OrdDict.mem_keys_of_get? hcity)]
    by_cases hkey : key = cityId
    · subst hkey
      rw [hbefore]
      simp only [if_true, Option.some.injEq, ne_eq, not_true_eq_false, and_true]
      constructor
      · rintro (⟨howner, hkept⟩ | rfl)
        · exact absurd howner hkept
        · rfl
      · rintro rfl
        exact Or.inr rfl
    · simp [hkey]

theorem HoldingsExact.resolveCombatPhase {state : MatchState} (h : HoldingsExact state) :
    HoldingsExact (resolveCombatPhase state) := by
  have hfought : HoldingsExact (resolveContestedCityCombat state) := h
  exact Run.invariant_foldl (fun _ cityId hboard => hboard.transferCityControl cityId) hfought _

theorem HoldingsExact.resolveThroughDiplomacy {state settled : MatchState} (h : HoldingsExact state)
    {orders : OrderBatch} {mapDefinition : MapDefinition}
    (hsettled : resolveThroughDiplomacy state orders mapDefinition = .ok settled) : HoldingsExact settled := by
  obtain ⟨besieged, phaseState, hsiege, rfl⟩ := resolveThroughDiplomacy_eq_ok hsettled
  obtain ⟨supplied, phaseState', hresource, hbesieged, -⟩ := resolveThroughSiege_eq_ok hsiege
  have hsupplied := h.of_estate (estate_resolveResourcePhase hresource).1
  have hmoved := (hsupplied.of_estate (estate_resolveBuildPhase supplied orders)).of_estate
    (estate_resolveMovementPhase mapDefinition _ orders)
  have hbesiegedBoard := hmoved.resolveCombatPhase.of_estate (estate_degradeBesiegedFortifications hbesieged).1
  have hsuffered : HoldingsExact (sufferAttrition besieged) := hbesiegedBoard
  have hdegraded := hsuffered.of_estate (estate_degradeUnpaidFortifications (sufferAttrition besieged)
    phaseState.unpaidFortificationCityIds phaseState.degradedFortificationCityIds).1
  exact hdegraded.of_estate (estate_markEliminated _)

end IronCouncil
