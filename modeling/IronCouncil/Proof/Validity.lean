import IronCouncil.Proof.Ledger

/-!
# Valid states over whole runs

The parser accepts a persisted state exactly when its fields are valid. Cities and armies stay valid through every phase, and so does production. Food and money do not: the validator spends what a player had before the tick, but upkeep is taken first. A tick keeps the state valid exactly when upkeep leaves every player enough for the accepted orders.
-/

namespace IronCouncil

theorem modelValidate_eq_ok {state : MatchState} : state.modelValidate = .ok state ↔ state.FieldsValid := by
  unfold MatchState.modelValidate
  split
  · rename_i hvalid
    exact ⟨fun _ => hvalid, fun _ => rfl⟩
  · rename_i hinvalid
    constructor
    · intro h
      cases h
    · intro h
      exact absurd h hinvalid

/-! ### Cities -/

def CitiesValid (state : MatchState) : Prop := ∀ city ∈ state.cities.values, city.FieldsValid

theorem citiesValid_mapVals {state : MatchState} (h : CitiesValid state) {f : String → CityState → CityState}
    (hf : ∀ cityId city, city.FieldsValid → (f cityId city).FieldsValid) :
    CitiesValid { state with cities := state.cities.mapVals f } := by
  intro city hcity
  obtain ⟨cityId, hget⟩ := OrdDict.mem_values.1 hcity
  rw [OrdDict.get?_mapVals] at hget
  obtain ⟨before, hbefore, rfl⟩ := Option.map_eq_some_iff.1 hget
  exact hf cityId before (h before (OrdDict.mem_values.2 ⟨cityId, hbefore⟩))

theorem citiesValid_modifyCity {state : MatchState} (h : CitiesValid state) {f : CityState → CityState}
    (hf : ∀ city, city.FieldsValid → (f city).FieldsValid) (cityId : String) :
    CitiesValid (state.modifyCity cityId f) := by
  apply citiesValid_mapVals h
  intro key city hvalid
  split
  · exact hf city hvalid
  · exact hvalid

theorem upgrades_set_valid {upgrades : CityUpgradeState} (h : upgrades.FieldsValid) (track : UpgradeTrack)
    {level : Nat} (hlevel : level ≤ maxUpgradeTier) : (upgrades.set track level).FieldsValid := by
  intro other
  have hother := h other
  cases track <;> cases other <;> first | exact hlevel | exact hother

theorem advanceBuildQueue_valid {city : CityState} (h : city.FieldsValid) : (advanceBuildQueue city).FieldsValid := by
  obtain ⟨hresources, hupgrades, hqueue⟩ := h
  refine ⟨hresources, ?_, ?_⟩
  · apply Run.invariant_foldl (I := CityUpgradeState.FieldsValid) _ hupgrades
    exact fun upgrades item hvalid => upgrades_set_valid hvalid item.type item.tier.toNat_le
  · intro item hitem
    obtain ⟨hmem, hleft⟩ := List.mem_filter.1 hitem
    obtain ⟨before, hbefore, rfl⟩ := List.mem_map.1 hmem
    have hpos := hqueue before hbefore
    have hne : before.ticksRemaining - 1 ≠ 0 := of_decide_eq_true hleft
    show 0 < before.ticksRemaining - 1
    omega

theorem upgradeBuildDuration_pos (tier : FortificationTier) : 0 < tierEntry upgradeBuildDurations tier.toNat := by
  cases tier <;> decide

theorem citiesValid_enqueueUpgrade {state : MatchState} (h : CitiesValid state) (order : UpgradeOrder) :
    CitiesValid (enqueueUpgrade state order) := by
  apply citiesValid_modifyCity h
  rintro city ⟨hresources, hupgrades, hqueue⟩
  refine ⟨hresources, hupgrades, ?_⟩
  intro item hitem
  rcases List.mem_append.1 hitem with hmem | hmem
  · exact hqueue item hmem
  · rw [List.mem_singleton.1 hmem]
    have hpos := upgradeBuildDuration_pos order.targetTier
    show (0 : Int) < tierEntry upgradeBuildDurations order.targetTier.toNat
    omega

theorem citiesValid_resolveBuildPhase {state : MatchState} (h : CitiesValid state) (orders : OrderBatch) :
    CitiesValid (resolveBuildPhase state orders) := by
  have hadvanced : CitiesValid (advanceBuildQueues state) := citiesValid_mapVals h fun _ _ => advanceBuildQueue_valid
  have hrecruited : CitiesValid (processRecruitmentOrders (advanceBuildQueues state) orders.recruitment) := by
    apply Run.invariant_foldl (I := CitiesValid) _ hadvanced
    intro board order hvalid
    unfold processRecruitmentOrder musterTroops
    split
    · exact hvalid
    · simp only
      split <;> exact hvalid
  have hupgraded : CitiesValid (startUpgradeOrders (queuedTracksAtPhaseStart state)
      (processRecruitmentOrders (advanceBuildQueues state) orders.recruitment) orders.upgrades) := by
    apply Run.invariant_foldl (I := CitiesValid) _ hrecruited
    intro board order hvalid
    unfold startUpgradeOrder
    split
    · exact hvalid
    · apply citiesValid_enqueueUpgrade
      exact hvalid
  apply Run.invariant_foldl (I := CitiesValid) _ hupgraded
  intro board order hvalid
  unfold processTransferOrder
  split <;> exact hvalid

theorem citiesValid_resolveMovementPhase {state : MatchState} (h : CitiesValid state) (mapDefinition : MapDefinition)
    (orders : OrderBatch) : CitiesValid (resolveMovementPhase mapDefinition state orders) := by
  apply Run.invariant_foldl (I := CitiesValid)
  · exact fun _ _ hvalid => hvalid
  · exact h

theorem citiesValid_resolveCombatPhase {state : MatchState} (h : CitiesValid state) :
    CitiesValid (resolveCombatPhase state) := by
  apply Run.invariant_foldl (I := CitiesValid)
  · intro board cityId hvalid
    have hset : ∀ owner, CitiesValid (setCityOwner board cityId owner) := fun owner => by
      apply citiesValid_modifyCity hvalid
      exact fun _ hcity => hcity
    have hremove : ∀ (moved : MatchState) (playerId : Option String), CitiesValid moved →
        CitiesValid (removeCityFromPlayer moved playerId cityId) := by
      intro moved playerId hmoved
      cases playerId <;> exact hmoved
    unfold transferCityControl
    split
    · split
      · exact hvalid
      · exact hremove _ _ (hset _)
    · exact hvalid
  · exact h

theorem citiesValid_degradeFortification (state : MatchState) (cityId : String) (h : CitiesValid state) :
    CitiesValid (degradeFortification state cityId) := by
  apply citiesValid_modifyCity h
  rintro city ⟨hresources, hupgrades, hqueue⟩
  refine ⟨hresources, ?_, hqueue⟩
  have hlevel := hupgrades .fortification
  apply upgrades_set_valid hupgrades .fortification
  exact (Nat.sub_le _ _).trans hlevel

/-! ### Armies -/

def ArmiesValid (armies : List ArmyState) : Prop := ∀ army ∈ armies, army.FieldsValid

theorem positioningValid_of_rest {army : ArmyState} (hdestination : army.destination = none) (hpath : army.path = none) :
    army.PositioningValid := by
  unfold ArmyState.PositioningValid
  rw [if_pos hdestination]
  exact hpath

theorem advanceTransitArmy_valid {army : ArmyState} (h : army.FieldsValid) : (advanceTransitArmy army).FieldsValid := by
  obtain ⟨htroops, hticks, hposition⟩ := h
  unfold advanceTransitArmy
  split
  · exact ⟨htroops, hticks, hposition⟩
  · rename_i destination hdestination
    unfold ArmyState.PositioningValid at hposition
    rw [if_neg (by rw [hdestination]; exact Option.some_ne_none _)] at hposition
    obtain ⟨hpath, hsome, hmoving⟩ := hposition
    simp only
    split
    · exact ⟨htroops, le_refl _, positioningValid_of_rest rfl rfl⟩
    · rename_i hleft
      refine ⟨htroops, ?_, ?_⟩
      · show 0 ≤ army.ticksRemaining - 1
        omega
      · unfold ArmyState.PositioningValid
        rw [if_neg (by simp [hdestination])]
        exact ⟨hpath, hsome, hleft⟩

theorem departArmy_valid (mapDefinition : MapDefinition) (destination : String) {army : ArmyState}
    (h : army.FieldsValid) : (departArmy mapDefinition destination army).FieldsValid := by
  unfold departArmy
  split
  · split
    · exact h
    · rename_i distance hdistance
      have hpos := edgeDistanceByRoute_pos hdistance
      refine ⟨h.1, Int.natCast_nonneg _, ?_⟩
      unfold ArmyState.PositioningValid
      rw [if_neg (by simp)]
      refine ⟨by simp, by simp, ?_⟩
      show (distance : Int) ≠ 0
      omega
  · exact h

theorem applyLosses_valid {armies : List ArmyState} (h : ArmiesValid armies) (losses : ArmyState → Nat) :
    ArmiesValid (applyLosses losses armies) := by
  intro army harmy
  obtain ⟨hmem, htroops⟩ := List.mem_filter.1 harmy
  obtain ⟨before, hbefore, rfl⟩ := List.mem_map.1 hmem
  obtain ⟨-, hticks, hposition⟩ := h before hbefore
  exact ⟨by simpa using htroops, hticks, hposition⟩

theorem musterTroops_valid {state : MatchState} (h : ArmiesValid state.armies) (owner : String)
    (order : RecruitmentOrder) : ArmiesValid (musterTroops state owner order).armies := by
  unfold musterTroops
  split
  · intro army harmy
    rcases List.mem_modifyFirstWhere harmy with hmem | ⟨before, hbefore, -, rfl⟩
    · exact h army hmem
    · obtain ⟨htroops, hticks, hposition⟩ := h before hbefore
      refine ⟨?_, hticks, hposition⟩
      show 0 < before.troops + order.troops
      omega
  · intro army harmy
    rcases List.mem_append.1 harmy with hmem | hmem
    · exact h army hmem
    · rw [List.mem_singleton.1 hmem]
      exact ⟨order.troops_pos, le_refl _, positioningValid_of_rest rfl rfl⟩

theorem armiesValid_resolveBuildPhase {state : MatchState} (h : ArmiesValid state.armies) (orders : OrderBatch) :
    ArmiesValid (resolveBuildPhase state orders).armies := by
  have hrecruited : ArmiesValid (processRecruitmentOrders (advanceBuildQueues state) orders.recruitment).armies := by
    apply Run.invariant_foldl (I := fun board : MatchState => ArmiesValid board.armies)
    · intro board order hvalid
      unfold processRecruitmentOrder
      split
      · exact hvalid
      · apply musterTroops_valid
        exact hvalid
    · exact h
  have hupgraded : ArmiesValid (startUpgradeOrders (queuedTracksAtPhaseStart state)
      (processRecruitmentOrders (advanceBuildQueues state) orders.recruitment) orders.upgrades).armies := by
    apply Run.invariant_foldl (I := fun board : MatchState => ArmiesValid board.armies) _ hrecruited
    intro board order hvalid
    unfold startUpgradeOrder
    split <;> exact hvalid
  apply Run.invariant_foldl (I := fun board : MatchState => ArmiesValid board.armies) _ hupgraded
  intro board order hvalid
  unfold processTransferOrder
  split <;> exact hvalid

theorem armiesValid_resolveMovementPhase {state : MatchState} (h : ArmiesValid state.armies)
    (mapDefinition : MapDefinition) (orders : OrderBatch) :
    ArmiesValid (resolveMovementPhase mapDefinition state orders).armies := by
  apply Run.invariant_foldl (I := fun board : MatchState => ArmiesValid board.armies)
  · intro board order hvalid army harmy
    rcases List.mem_modifyLastWhere harmy with hmem | ⟨before, hbefore, -, rfl⟩
    · exact hvalid army hmem
    · exact departArmy_valid mapDefinition order.destination (hvalid before hbefore)
  · intro army harmy
    obtain ⟨before, hbefore, rfl⟩ := List.mem_map.1 harmy
    exact advanceTransitArmy_valid (h before hbefore)

theorem armiesValid_resolveCombatPhase {state : MatchState} (h : ArmiesValid state.armies) :
    ArmiesValid (resolveCombatPhase state).armies := by
  apply Run.invariant_foldl (I := fun board : MatchState => ArmiesValid board.armies)
  · intro board cityId hvalid
    unfold transferCityControl
    split
    · split
      · exact hvalid
      · unfold addCityToPlayer removeCityFromPlayer
        split <;> exact hvalid
    · exact hvalid
  · exact applyLosses_valid h _

/-! ### The tick -/

theorem citiesValid_of_cities {state state' : MatchState} (h : CitiesValid state) (hcities : state'.cities = state.cities) :
    CitiesValid state' := by
  unfold CitiesValid
  rw [hcities]
  exact h

theorem boardValid_resolveThroughDiplomacy {state settled : MatchState} {orders : OrderBatch}
    {mapDefinition : MapDefinition} (hcities : CitiesValid state) (harmies : ArmiesValid state.armies)
    (h : resolveThroughDiplomacy state orders mapDefinition = .ok settled) :
    CitiesValid settled ∧ ArmiesValid settled.armies := by
  obtain ⟨besieged, phaseState, hsiege, rfl⟩ := resolveThroughDiplomacy_eq_ok h
  obtain ⟨supplied, phaseState', hresource, hbesieged, -⟩ := resolveThroughSiege_eq_ok hsiege
  obtain ⟨hsuppliedCities, hsuppliedArmies⟩ := resolveResourcePhase_board hresource
  have hsupplied := citiesValid_of_cities hcities hsuppliedCities
  rw [← hsuppliedArmies] at harmies
  have hfought := citiesValid_resolveCombatPhase (citiesValid_resolveMovementPhase
    (citiesValid_resolveBuildPhase hsupplied orders) mapDefinition orders)
  have hfoughtArmies := armiesValid_resolveCombatPhase (armiesValid_resolveMovementPhase
    (armiesValid_resolveBuildPhase harmies orders) mapDefinition orders)
  have hdegrade : ∀ (board : MatchState) (cityId : String), CitiesValid board ∧ ArmiesValid board.armies →
      CitiesValid (degradeFortification board cityId) ∧ ArmiesValid (degradeFortification board cityId).armies :=
    fun board cityId hvalid => ⟨citiesValid_degradeFortification board cityId hvalid.1, hvalid.2⟩
  have hafterSiege := degradeBesiegedFortifications_invariant
    (I := fun board => CitiesValid board ∧ ArmiesValid board.armies) hdegrade hbesieged ⟨hfought, hfoughtArmies⟩
  have hsuffered : CitiesValid (sufferAttrition besieged) ∧ ArmiesValid (sufferAttrition besieged).armies :=
    ⟨hafterSiege.1, applyLosses_valid hafterSiege.2 _⟩
  exact degradeUnpaidFortifications_invariant (I := fun board => CitiesValid board ∧ ArmiesValid board.armies)
    hdegrade hsuffered phaseState.unpaidFortificationCityIds phaseState.degradedFortificationCityIds

theorem fieldsValid_get {resources : ResourceState} :
    resources.FieldsValid ↔ ∀ resource, 0 ≤ resources.get resource := by
  constructor
  · rintro ⟨hfood, hproduction, hmoney⟩ resource
    cases resource
    exacts [hfood, hproduction, hmoney]
  · intro h
    exact ⟨h .food, h .production, h .money⟩

theorem playersValid_iff {state : MatchState} :
    (∀ player ∈ state.players.values, player.resources.FieldsValid) ↔
      ∀ playerId ∈ state.players.keys, ∀ resource, 0 ≤ state.balance playerId resource := by
  constructor
  · intro h playerId hplayer resource
    obtain ⟨player, hget⟩ := OrdDict.mem_keys.1 hplayer
    rw [balance_of_get? hget]
    exact fieldsValid_get.1 (h player (OrdDict.mem_values.2 ⟨playerId, hget⟩)) resource
  · intro h player hplayer
    obtain ⟨playerId, hget⟩ := OrdDict.mem_values.1 hplayer
    apply fieldsValid_get.2
    intro resource
    rw [← balance_of_get? hget]
    exact h playerId (OrdDict.mem_keys_of_get? hget) resource

/-- Upkeep leaves every player enough: with the transfers the player receives, the food and the money left cover the player's accepted orders. -/
def UpkeepLeavesEnough (state : MatchState) (submissions : List OrderEnvelope) : Prop :=
  ∀ playerId player, state.players.get? playerId = some player →
    spending state playerId .food (validateQueuedOrders state submissions) ≤
        foodAfterUpkeep state playerId player.resources +
          received playerId .food (validateQueuedOrders state submissions) ∧
      spending state playerId .money (validateQueuedOrders state submissions) ≤
        moneyAfterUpkeep state playerId player.resources +
          received playerId .money (validateQueuedOrders state submissions)

/-- The balances after a tick, and production is never among those below zero. -/
theorem balance_settled {state settled : MatchState} {submissions : List OrderEnvelope} {mapDefinition : MapDefinition}
    (hvalid : state.FieldsValid)
    (h : resolveThroughDiplomacy state (validateQueuedOrders state submissions) mapDefinition = .ok settled)
    {playerId : String} {player : PlayerState} (hplayer : state.players.get? playerId = some player) :
    0 ≤ settled.balance playerId .production ∧
      settled.balance playerId .food = foodAfterUpkeep state playerId player.resources -
        spending state playerId .food (validateQueuedOrders state submissions) +
        received playerId .food (validateQueuedOrders state submissions) ∧
      settled.balance playerId .money = moneyAfterUpkeep state playerId player.resources -
        spending state playerId .money (validateQueuedOrders state submissions) +
        received playerId .money (validateQueuedOrders state submissions) := by
  obtain ⟨supplied, phaseState, hresource, hpurse⟩ := purse_resolveThroughDiplomacy h
  have hkeys := keys_of_tickFrame (tickFrame_resolveResourcePhase hresource)
  have howner : supplied.cityOwner = state.cityOwner :=
    MatchState.cityOwner_congr (resolveResourcePhase_board hresource).1
  have hmem := OrdDict.mem_keys_of_get? hplayer
  have hbalance : ∀ resource, settled.balance playerId resource =
      (resolveBuildPhase supplied (validateQueuedOrders state submissions)).balance playerId resource :=
    fun resource => congrFun (congrFun (congrArg Prod.fst hpurse) playerId) resource
  have hsupplied : ∀ resource, supplied.balance playerId resource =
      (updatedResources state playerId player.resources).get resource :=
    fun resource => balance_resolveResourcePhase hresource hplayer resource
  refine ⟨?_, ?_, ?_⟩
  · have hbefore : 0 ≤ state.balance playerId .production :=
      playersValid_iff.1 hvalid.2.2 playerId hmem .production
    have hspending := spending_validateQueuedOrders_le hbefore submissions
    have hreceived := received_nonneg playerId .production (validateQueuedOrders state submissions)
    have hyield := resourceYield_nonneg (fun city hcity => (hvalid.1 city hcity).1) playerId .production
    have hbuilt := (balance_built .production howner hkeys hmem submissions).1
    have hstart : state.balance playerId .production = player.resources.production := balance_of_get? hplayer .production
    have hafter : supplied.balance playerId .production =
        player.resources.production + resourceYield state playerId .production := hsupplied .production
    rw [hbalance]
    omega
  · rw [hbalance, (balance_built .food howner hkeys hmem submissions).2 (by decide), hsupplied]
    rfl
  · rw [hbalance, (balance_built .money howner hkeys hmem submissions).2 (by decide), hsupplied]
    rfl

/-- A tick of a valid state leaves a valid state exactly when upkeep leaves every player enough. -/
theorem fieldsValid_settled_iff {state settled : MatchState} {submissions : List OrderEnvelope}
    {mapDefinition : MapDefinition} (hvalid : state.FieldsValid)
    (h : resolveThroughDiplomacy state (validateQueuedOrders state submissions) mapDefinition = .ok settled) :
    settled.FieldsValid ↔ UpkeepLeavesEnough state submissions := by
  obtain ⟨hcities, harmies⟩ := boardValid_resolveThroughDiplomacy hvalid.1 hvalid.2.1 h
  have hkeys := keys_of_tickFrame (tickFrame_resolveThroughDiplomacy h)
  have hplayers : settled.FieldsValid ↔
      ∀ playerId ∈ settled.players.keys, ∀ resource, 0 ≤ settled.balance playerId resource := by
    rw [← playersValid_iff]
    exact ⟨fun hsettled => hsettled.2.2, fun hsettled => ⟨hcities, harmies, hsettled⟩⟩
  rw [hplayers, hkeys]
  constructor
  · intro hall playerId player hplayer
    obtain ⟨-, hfood, hmoney⟩ := balance_settled hvalid h hplayer
    have hnonneg := hall playerId (OrdDict.mem_keys_of_get? hplayer)
    have hfoodLeft := hnonneg .food
    have hmoneyLeft := hnonneg .money
    exact ⟨by omega, by omega⟩
  · intro henough playerId hmem resource
    obtain ⟨player, hplayer⟩ := OrdDict.mem_keys.1 hmem
    obtain ⟨hproduction, hfood, hmoney⟩ := balance_settled hvalid h hplayer
    obtain ⟨hfoodLeft, hmoneyLeft⟩ := henough playerId player hplayer
    cases resource with
    | food => omega
    | production => exact hproduction
    | money => omega

/-! ### Runs -/

/-- The record after a tick on a queue of submissions. -/
def tickRecord (record : MatchRecord) (submissions : List OrderEnvelope) : MatchRecord :=
  (advanceMatchTick (withSubmissions record submissions)).1

/-- The tick produces a state: it does not raise. -/
def TickCompletes (record : MatchRecord) (submissions : List OrderEnvelope) : Prop :=
  ∃ result, (advanceMatchTick (withSubmissions record submissions)).2 = .ok result

theorem tickRecord_valid_iff (record : MatchRecord) (submissions : List OrderEnvelope)
    (hvalid : record.state.modelValidate = .ok record.state) :
    (tickRecord record submissions).state.modelValidate = .ok (tickRecord record submissions).state ↔
      (TickCompletes record submissions →
        UpkeepLeavesEnough record.state (queuedForTick (withSubmissions record submissions))) := by
  rw [modelValidate_eq_ok] at hvalid ⊢
  unfold tickRecord TickCompletes
  cases hboard : settledBoard (withSubmissions record submissions) with
  | error error =>
      obtain ⟨hstate, hraised⟩ := advanceMatchTick_of_error hboard
      rw [hstate, hraised]
      refine ⟨fun _ hcompletes => ?_, fun _ => hvalid⟩
      obtain ⟨result, hresult⟩ := hcompletes
      cases hresult
  | ok settled =>
      obtain ⟨hstate, hresult⟩ := advanceMatchTick_of_settled hboard
      have hsettled : settled.FieldsValid ↔
          UpkeepLeavesEnough record.state (queuedForTick (withSubmissions record submissions)) :=
        fieldsValid_settled_iff hvalid hboard
      -- The tick counter and the victory state carry no constraint that can fail.
      have hfields : (syncVictoryState (tickedState (withSubmissions record submissions) settled)).FieldsValid ↔
          settled.FieldsValid := Iff.rfl
      rw [hstate, hresult, hfields, hsettled]
      exact ⟨fun henough _ => henough, fun h => h ⟨_, rfl⟩⟩

/-- For every run of ticks from a valid state, all states of the run are valid exactly when, in every tick of it that produces a state, upkeep leaves every player enough for the accepted orders. -/
theorem modelValidate_run_iff {record : MatchRecord} (hvalid : record.state.modelValidate = .ok record.state)
    (queues : List (List OrderEnvelope)) :
    (∀ reached ∈ Run.states tickRecord record queues, reached.state.modelValidate = .ok reached.state) ↔
      ∀ t ∈ Run.steps tickRecord record queues, TickCompletes t.1 t.2 →
        UpkeepLeavesEnough t.1.state (queuedForTick (withSubmissions t.1 t.2)) :=
  Run.forall_states_iff (I := fun reached : MatchRecord => reached.state.modelValidate = .ok reached.state)
    tickRecord_valid_iff hvalid queues

theorem modelValidate_run_iff_duel :
    (∀ reached ∈ Run.states tickRecord duelRecord [[duelMarch "p1" "a1" "southampton"]],
        reached.state.modelValidate = .ok reached.state) ↔
      ∀ t ∈ Run.steps tickRecord duelRecord [[duelMarch "p1" "a1" "southampton"]], TickCompletes t.1 t.2 →
        UpkeepLeavesEnough t.1.state (queuedForTick (withSubmissions t.1 t.2)) :=
  modelValidate_run_iff (by decide) [[duelMarch "p1" "a1" "southampton"]]

/-- The duel with a player whose five troops are about to eat what five recruits cost. -/
def hungryRecord : MatchRecord :=
  .ofState "duel" .active
    { duelState with
      players := OrdDict.ofList
        [("p1", { duelPlayer "london" with resources := ⟨5, 25, 0⟩ }), ("p2", duelPlayer "southampton")] }

def hungryRecruits : OrderEnvelope where
  matchId := "duel"
  playerId := "p1"
  tick := 0
  orders := { OrderBatch.empty with recruitment := [⟨"london", 5, by decide⟩] }

/-- Five food pass the validator, upkeep leaves three, and the recruits are paid for with five. -/
theorem recruits_after_upkeep_invalid :
    hungryRecord.state.modelValidate = .ok hungryRecord.state ∧
      (tickRecord hungryRecord [hungryRecruits]).state.tick = 1 ∧
      (tickRecord hungryRecord [hungryRecruits]).state.balance "p1" .food = -2 ∧
      (tickRecord hungryRecord [hungryRecruits]).state.modelValidate = .error .validationError := by
  refine ⟨by decide, by decide, by decide, by decide⟩

end IronCouncil
