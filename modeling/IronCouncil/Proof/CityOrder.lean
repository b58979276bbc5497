import IronCouncil.Base.KeyOrder
import IronCouncil.Base.KeyedSum
import IronCouncil.Proof.Board
import Mathlib.Logic.Function.Conjugate

/-!
# The order of the cities does not matter

Two states whose cities differ in nothing but their order take the same tick: sums and sorted lists do not show the order, and the one loop that goes through the cities as they come, the one over the control of cities, changes each of them on its own.
-/

namespace IronCouncil

/-- The same state, with the cities in any order. -/
structure Reordered (state state' : MatchState) : Prop where
  tick : state'.tick = state.tick
  cities : ∀ cityId, state'.cities.get? cityId = state.cities.get? cityId
  armies : state'.armies = state.armies
  players : state'.players = state.players
  victory : state'.victory = state.victory

section Reordered

variable {state state' : MatchState}

theorem Reordered.entries (h : Reordered state state') : state'.cities.entries.Perm state.cities.entries :=
  OrdDict.entries_perm h.cities

theorem Reordered.keys (h : Reordered state state') : state'.cities.keys.Perm state.cities.keys :=
  h.entries.map Prod.fst

theorem Reordered.values (h : Reordered state state') : state'.cities.values.Perm state.cities.values :=
  h.entries.map Prod.snd

theorem Reordered.cityOwner (h : Reordered state state') : state'.cityOwner = state.cityOwner := by
  funext cityId
  unfold MatchState.cityOwner
  rw [h.cities]

theorem Reordered.withPlayers (h : Reordered state state') (players : OrdDict String PlayerState) :
    Reordered { state with players := players } { state' with players := players } :=
  ⟨h.tick, h.cities, h.armies, rfl, h.victory⟩

theorem Reordered.withArmies (h : Reordered state state') (armies : List ArmyState) :
    Reordered { state with armies := armies } { state' with armies := armies } :=
  ⟨h.tick, h.cities, rfl, h.players, h.victory⟩

theorem Reordered.mapCities (h : Reordered state state') (f : String → CityState → CityState) :
    Reordered { state with cities := state.cities.mapVals f } { state' with cities := state'.cities.mapVals f } := by
  refine ⟨h.tick, ?_, h.armies, h.players, h.victory⟩
  intro cityId
  rw [OrdDict.get?_mapVals, OrdDict.get?_mapVals, h.cities]

theorem Reordered.modifyPlayer (h : Reordered state state') (playerId : String) (f : PlayerState → PlayerState) :
    Reordered (state.modifyPlayer playerId f) (state'.modifyPlayer playerId f) := by
  unfold MatchState.modifyPlayer
  rw [h.players]
  exact h.withPlayers _

theorem Reordered.credit (h : Reordered state state') (playerId : String) (resource : ResourceType) (amount : Int) :
    Reordered (state.credit playerId resource amount) (state'.credit playerId resource amount) :=
  h.modifyPlayer playerId _

/-! ### Resource, build and movement -/

theorem Reordered.resourceYield (h : Reordered state state') (playerId : String) (resource : ResourceType) :
    resourceYield state' playerId resource = resourceYield state playerId resource :=
  ((h.entries.filter _).map _).sum_eq

theorem Reordered.populationUpkeep (h : Reordered state state') (playerId : String) :
    populationUpkeep state' playerId = populationUpkeep state playerId :=
  ((h.entries.filter _).map _).sum_eq

theorem Reordered.fortifiedCitiesInUpkeepOrder (h : Reordered state state') (owner : String) :
    fortifiedCitiesInUpkeepOrder state' owner = fortifiedCitiesInUpkeepOrder state owner :=
  insertionSort_key_eq (h.entries.filter _) (state'.cities.nodup.sublist (List.filter_sublist.map _))

theorem Reordered.updatedResources (h : Reordered state state') (playerId : String) (resources : ResourceState) :
    updatedResources state' playerId resources = updatedResources state playerId resources := by
  unfold IronCouncil.updatedResources foodAfterUpkeep moneyAfterUpkeep deductFortificationUpkeep armyUpkeepByOwner
  rw [h.resourceYield, h.resourceYield, h.resourceYield, h.populationUpkeep, h.fortifiedCitiesInUpkeepOrder, h.armies]

theorem Reordered.unpaidFortifications (h : Reordered state state') (playerId : String) (resources : ResourceState) :
    unpaidFortifications state' playerId resources = unpaidFortifications state playerId resources := by
  unfold IronCouncil.unpaidFortifications deductFortificationUpkeep
  rw [h.resourceYield, h.fortifiedCitiesInUpkeepOrder]

theorem Reordered.resolveResourcePhase (h : Reordered state state') {phaseState phaseState' : ResolverPhaseState}
    {supplied : MatchState} (hresource : resolveResourcePhase state phaseState = .ok (supplied, phaseState')) :
    ∃ supplied', IronCouncil.resolveResourcePhase state' phaseState = .ok (supplied', phaseState') ∧
      Reordered supplied supplied' := by
  have hplayers : resourcePhasePlayers state' = resourcePhasePlayers state := by
    unfold resourcePhasePlayers
    simp only [h.updatedResources, h.players]
  unfold IronCouncil.resolveResourcePhase at hresource ⊢
  simp only [hplayers, h.unpaidFortifications, h.players]
  dsimp only at hresource
  split at hresource
  · rename_i hvalid
    cases hresource
    rw [if_pos hvalid]
    exact ⟨_, rfl, h.withPlayers _⟩
  · cases hresource

theorem Reordered.payingOwner (h : Reordered state state') : payingOwner state' = payingOwner state :=
  payingOwner_congr h.cityOwner (by rw [h.players])

theorem Reordered.musterTroops (h : Reordered state state') (owner : String) (order : RecruitmentOrder) :
    Reordered (musterTroops state owner order) (musterTroops state' owner order) := by
  unfold IronCouncil.musterTroops deterministicFriendlyStationedArmy
  rw [h.armies]
  split
  · exact h.withArmies _
  · exact h.withArmies _

theorem Reordered.processRecruitmentOrder (h : Reordered state state') (order : RecruitmentOrder) :
    Reordered (processRecruitmentOrder state order) (processRecruitmentOrder state' order) := by
  unfold IronCouncil.processRecruitmentOrder
  rw [h.payingOwner]
  cases IronCouncil.payingOwner state order.city with
  | none => exact h
  | some owner => exact ((h.credit _ _ _).credit _ _ _).musterTroops owner order

theorem Reordered.startUpgradeOrder (h : Reordered state state') (queuedTracks : String → List UpgradeTrack)
    (order : UpgradeOrder) :
    Reordered (startUpgradeOrder queuedTracks state order) (startUpgradeOrder queuedTracks state' order) := by
  unfold IronCouncil.startUpgradeOrder upgradePayer
  rw [h.payingOwner]
  split
  · exact h
  · exact (h.credit _ _ _).mapCities _

theorem Reordered.processTransferOrder (h : Reordered state state') (order : TransferOrder) :
    Reordered (processTransferOrder state order) (processTransferOrder state' order) := by
  unfold IronCouncil.processTransferOrder transferSender
  rw [h.players]
  split
  · exact h
  · exact (h.credit _ _ _).credit _ _ _

theorem Reordered.resolveBuildPhase (h : Reordered state state') (orders : OrderBatch) :
    Reordered (resolveBuildPhase state orders) (resolveBuildPhase state' orders) := by
  have hadvanced : Reordered (advanceBuildQueues state) (advanceBuildQueues state') := h.mapCities _
  have hkey : ∀ first second, recruitmentProcessingKey (advanceBuildQueues state') first ≤
      recruitmentProcessingKey (advanceBuildQueues state') second ↔
        recruitmentProcessingKey (advanceBuildQueues state) first ≤ recruitmentProcessingKey (advanceBuildQueues state) second := by
    intro first second
    unfold recruitmentProcessingKey
    rw [hadvanced.cityOwner]
  have htracks : queuedTracksAtPhaseStart state' = queuedTracksAtPhaseStart state := by
    funext cityId
    unfold queuedTracksAtPhaseStart
    rw [h.cities]
  unfold IronCouncil.resolveBuildPhase processRecruitmentOrders startUpgradeOrders processTransferOrders
  simp only [hkey, htracks]
  have hrecruited := Run.rel_foldl (R := Reordered) (fun _ _ order hboard => hboard.processRecruitmentOrder order) hadvanced
    (orders.recruitment.insertionSort fun first second => recruitmentProcessingKey (advanceBuildQueues state) first ≤
      recruitmentProcessingKey (advanceBuildQueues state) second)
  have hupgraded := Run.rel_foldl (R := Reordered)
    (fun _ _ order hboard => hboard.startUpgradeOrder (queuedTracksAtPhaseStart state) order) hrecruited orders.upgrades
  exact Run.rel_foldl (R := Reordered) (fun _ _ order hboard => hboard.processTransferOrder order) hupgraded orders.transfers

theorem Reordered.resolveMovementPhase (h : Reordered state state') (mapDefinition : MapDefinition)
    (orders : OrderBatch) :
    Reordered (resolveMovementPhase mapDefinition state orders) (resolveMovementPhase mapDefinition state' orders) := by
  have hadvanced : Reordered (advanceTransitArmies state) (advanceTransitArmies state') := by
    unfold advanceTransitArmies
    rw [h.armies]
    exact h.withArmies _
  apply Run.rel_foldl (R := Reordered) _ hadvanced
  intro board board' order hboard
  unfold startMovementOrder
  rw [hboard.armies]
  exact hboard.withArmies _

/-! ### Combat -/

theorem Reordered.resolveContestedCityCombat (h : Reordered state state') :
    Reordered (resolveContestedCityCombat state) (resolveContestedCityCombat state') := by
  have hlosses : ∀ armyId, ((casualtiesByArmyId state').get? armyId).getD 0 =
      ((casualtiesByArmyId state).get? armyId).getD 0 := by
    intro armyId
    unfold casualtiesByArmyId
    rw [OrdDict.getD_foldl_upsert_add, OrdDict.getD_foldl_upsert_add, h.armies]
    exact (((h.entries.flatMap_right _).filter _).map Prod.snd).sum_eq
  unfold IronCouncil.resolveContestedCityCombat
  simp only [hlosses, h.armies]
  exact h.withArmies _

/-- Who loses a city to whom, if anybody does. -/
def newHolder (state : MatchState) (cityId : String) : Option (Option String × String) :=
  match state.cities.get? cityId, occupyingOwners state cityId with
  | some city, [occupyingOwner] =>
      if city.owner = some occupyingOwner ∨ occupyingOwner ∉ state.players.keys then none
      else some (city.owner, occupyingOwner)
  | _, _ => none

def handOver (cityId : String) (change : Option String × String) (state : MatchState) : MatchState :=
  addCityToPlayer (removeCityFromPlayer (setCityOwner state cityId change.2) change.1 cityId) change.2 cityId

theorem transferCityControl_eq (state : MatchState) (cityId : String) :
    transferCityControl state cityId = (newHolder state cityId).elim state fun change => handOver cityId change state := by
  unfold transferCityControl newHolder
  cases state.cities.get? cityId with
  | none => rfl
  | some city =>
      rcases occupyingOwners state cityId with _ | ⟨occupyingOwner, _ | ⟨other, others⟩⟩
      · rfl
      · dsimp only
        split
        · rfl
        · rfl
      · rfl

theorem newHolder_congr {cityId : String} (hcity : state'.cities.get? cityId = state.cities.get? cityId)
    (harmies : state'.armies = state.armies) (hkeys : state'.players.keys = state.players.keys) :
    newHolder state' cityId = newHolder state cityId := by
  unfold newHolder occupyingOwners
  rw [hcity, harmies, hkeys]

theorem Reordered.handOver (h : Reordered state state') (cityId : String) (change : Option String × String) :
    Reordered (handOver cityId change state) (handOver cityId change state') := by
  have hset : Reordered (setCityOwner state cityId change.2) (setCityOwner state' cityId change.2) := h.mapCities _
  have hremoved : Reordered (removeCityFromPlayer (setCityOwner state cityId change.2) change.1 cityId)
      (removeCityFromPlayer (setCityOwner state' cityId change.2) change.1 cityId) := by
    cases change.1 with
    | none => exact hset
    | some previous => exact hset.modifyPlayer previous _
  exact hremoved.modifyPlayer change.2 _

theorem Reordered.transferCityControl (h : Reordered state state') (cityId : String) :
    Reordered (transferCityControl state cityId) (transferCityControl state' cityId) := by
  rw [transferCityControl_eq, transferCityControl_eq, newHolder_congr (h.cities cityId) h.armies (by rw [h.players])]
  cases newHolder state cityId with
  | none => exact h
  | some change => exact h.handOver cityId change

end Reordered

/-! ### Control of different cities -/

section Commute

variable {first second : String}

theorem modifyPlayer_commute {f g : PlayerState → PlayerState} (hfg : ∀ player, f (g player) = g (f player))
    (playerId other : String) :
    Function.Commute (fun state : MatchState => state.modifyPlayer playerId f) fun state => state.modifyPlayer other g := by
  intro state
  unfold MatchState.modifyPlayer
  dsimp only
  rw [OrdDict.modify_comm]
  exact fun _ player => (hfg player).symm

theorem removeCityFromPlayer_commute (previous previous' : Option String) :
    Function.Commute (removeCityFromPlayer · previous first) (removeCityFromPlayer · previous' second) := by
  cases previous with
  | none => exact fun _ => rfl
  | some playerId =>
      cases previous' with
      | none => exact fun _ => rfl
      | some other =>
          apply modifyPlayer_commute
          intro player
          simp only [List.filter_filter, Bool.and_comm]

variable (hne : first ≠ second)

include hne

theorem setCityOwner_commute (owner owner' : String) :
    Function.Commute (setCityOwner · first owner) (setCityOwner · second owner') := by
  intro state
  unfold setCityOwner MatchState.modifyCity
  dsimp only
  rw [OrdDict.modify_comm]
  exact fun hsame => absurd hsame hne.symm

theorem removeCityFromPlayer_addCityToPlayer_commute (previous : Option String) (owner : String) :
    Function.Commute (removeCityFromPlayer · previous first) (addCityToPlayer · owner second) := by
  cases previous with
  | none => exact fun _ => rfl
  | some playerId =>
      apply modifyPlayer_commute
      intro player
      have hmem : second ∈ player.citiesOwned.filter (· ≠ first) ↔ second ∈ player.citiesOwned := by
        simp [List.mem_filter, hne.symm]
      dsimp only
      by_cases howned : second ∈ player.citiesOwned
      · rw [if_pos howned, if_pos (hmem.2 howned)]
      · rw [if_neg howned, if_neg (mt hmem.1 howned)]
        dsimp only
        rw [filter_insertionSort, List.filter_append]
        simp [hne.symm]

theorem addCityToPlayer_commute (owner owner' : String) :
    Function.Commute (addCityToPlayer · owner first) (addCityToPlayer · owner' second) := by
  apply modifyPlayer_commute
  intro player
  have hmem : ∀ cityId cityId', cityId ≠ cityId' → (cityId ∈ (player.citiesOwned ++ [cityId']).insertionSort (· ≤ ·) ↔
      cityId ∈ player.citiesOwned) := by
    intro cityId cityId' hother
    rw [List.mem_insertionSort, List.mem_append, List.mem_singleton]
    simp [hother]
  by_cases hfirst : first ∈ player.citiesOwned
  · by_cases hsecond : second ∈ player.citiesOwned
    · simp only [hfirst, hsecond, if_true]
    · simp only [hfirst, hsecond, if_true, if_false, hmem first second hne]
  · by_cases hsecond : second ∈ player.citiesOwned
    · simp only [hfirst, hsecond, if_true, if_false, hmem second first hne.symm]
    · simp only [hfirst, hsecond, if_false, hmem first second hne, hmem second first hne.symm]
      have hsorted : ∀ cityId cityId', ((player.citiesOwned ++ [cityId]).insertionSort (· ≤ ·) ++ [cityId']).Perm
          (player.citiesOwned ++ [cityId, cityId']) := by
        intro cityId cityId'
        have hperm := (List.perm_insertionSort (· ≤ ·) (player.citiesOwned ++ [cityId])).append_right [cityId']
        rwa [List.append_assoc] at hperm
      have hswap : (player.citiesOwned ++ [second, first]).Perm (player.citiesOwned ++ [first, second]) :=
        (List.Perm.swap _ _ _).append_left _
      rw [insertionSort_eq_of_perm ((hsorted second first).trans (hswap.trans (hsorted first second).symm))]

theorem handOver_commute (change change' : Option String × String) :
    Function.Commute (handOver first change) (handOver second change') := by
  have hset : Function.Commute (setCityOwner · first change.2) (handOver second change') := by
    have hremove : Function.Commute (setCityOwner · first change.2) (removeCityFromPlayer · change'.1 second) := by
      intro state
      cases change'.1 with
      | none => rfl
      | some previous => rfl
    have hadd : Function.Commute (setCityOwner · first change.2) (addCityToPlayer · change'.2 second) := fun _ => rfl
    exact (hadd.comp_right hremove).comp_right (setCityOwner_commute hne _ _)
  have hremove : Function.Commute (removeCityFromPlayer · change.1 first) (handOver second change') := by
    have hset : Function.Commute (removeCityFromPlayer · change.1 first) (setCityOwner · second change'.2) := by
      intro state
      cases change.1 with
      | none => rfl
      | some previous => rfl
    exact ((removeCityFromPlayer_addCityToPlayer_commute hne _ _).comp_right
      (removeCityFromPlayer_commute _ _)).comp_right hset
  have hadd : Function.Commute (addCityToPlayer · change.2 first) (handOver second change') := by
    have hset : Function.Commute (addCityToPlayer · change.2 first) (setCityOwner · second change'.2) := fun _ => rfl
    exact ((addCityToPlayer_commute hne _ _).comp_right
      (removeCityFromPlayer_addCityToPlayer_commute hne.symm _ _).symm).comp_right hset
  exact (hadd.comp_left hremove).comp_left hset

theorem newHolder_handOver (change : Option String × String) (state : MatchState) :
    newHolder (handOver first change state) second = newHolder state second := by
  have hframe : (handOver first change state).cities = (setCityOwner state first change.2).cities ∧
      (handOver first change state).armies = state.armies := by
    unfold handOver
    obtain ⟨hcities, harmies⟩ := removeCityFromPlayer_frame (setCityOwner state first change.2) change.1 first
    exact ⟨hcities, harmies⟩
  apply newHolder_congr
  · rw [hframe.1]
    exact OrdDict.get?_modify_of_ne _ _ hne.symm
  · exact hframe.2
  · unfold handOver
    rw [keys_of_tickFrame (tickFrame_addCityToPlayer _ _ _), keys_of_tickFrame (tickFrame_removeCityFromPlayer _ _ _)]
    rfl

/-- Two cities change hands in either order. -/
theorem transferCityControl_comm (state : MatchState) :
    transferCityControl (transferCityControl state first) second =
      transferCityControl (transferCityControl state second) first := by
  have hkept : ∀ {cityId other : String}, cityId ≠ other →
      newHolder (transferCityControl state cityId) other = newHolder state other := by
    intro cityId other hother
    rw [transferCityControl_eq]
    cases newHolder state cityId with
    | none => rfl
    | some change => exact newHolder_handOver hother change state
  rw [transferCityControl_eq (transferCityControl state first), hkept hne, transferCityControl_eq (transferCityControl state second),
    hkept hne.symm, transferCityControl_eq state first, transferCityControl_eq state second]
  cases newHolder state first with
  | none => rfl
  | some change =>
      cases newHolder state second with
      | none => rfl
      | some change' => exact (handOver_commute hne change change' state).symm

end Commute

section Tick

variable {state state' : MatchState}

theorem Reordered.resolveCombatPhase (h : Reordered state state') :
    Reordered (resolveCombatPhase state) (resolveCombatPhase state') := by
  have hfought := h.resolveContestedCityCombat
  have hcomm : ∀ cityId ∈ (IronCouncil.resolveContestedCityCombat state').cities.keys,
      ∀ other ∈ (IronCouncil.resolveContestedCityCombat state').cities.keys, ∀ board,
        IronCouncil.transferCityControl (IronCouncil.transferCityControl board cityId) other =
          IronCouncil.transferCityControl (IronCouncil.transferCityControl board other) cityId := by
    intro cityId _ other _ board
    by_cases hsame : cityId = other
    · rw [hsame]
    · exact transferCityControl_comm hsame board
  unfold IronCouncil.resolveCombatPhase transferUncontestedCityControl
  rw [hfought.keys.foldl_eq' hcomm]
  exact Run.rel_foldl (R := Reordered) (fun _ _ cityId hboard => hboard.transferCityControl cityId) hfought _

/-! ### Siege, attrition and victory -/

theorem allNeighborsHostile_congr (howner : state'.cityOwner = state.cityOwner) (hplayers : state'.players = state.players)
    (owner : String) (ownerCoalition : CoalitionKey) (cityIds : List String) :
    allNeighborsHostile state' owner ownerCoalition cityIds = allNeighborsHostile state owner ownerCoalition cityIds := by
  induction cityIds with
  | nil => rfl
  | cons cityId cityIds ih =>
      unfold allNeighborsHostile playerCoalition
      rw [howner, hplayers, ih]

theorem Reordered.degradeIfBesieged (h : Reordered state state') {mapDefinition : MapDefinition}
    {degradedCityIds : List String} {cityId : String} {next : MatchState × List String}
    (hstep : degradeIfBesieged mapDefinition (state, degradedCityIds) cityId = .ok next) :
    ∃ next', IronCouncil.degradeIfBesieged mapDefinition (state', degradedCityIds) cityId = .ok next' ∧
      Reordered next.1 next'.1 ∧ next'.2 = next.2 := by
  have hbesieged : ∀ city, isBesiegedCity mapDefinition state' cityId city = isBesiegedCity mapDefinition state cityId city := by
    intro city
    unfold isBesiegedCity playerCoalition
    simp only [h.players, allNeighborsHostile_congr h.cityOwner h.players]
  have hworn : Reordered (degradeFortification state cityId) (degradeFortification state' cityId) := h.mapCities _
  unfold IronCouncil.degradeIfBesieged at hstep ⊢
  dsimp only at hstep ⊢
  rw [h.cities]
  simp only [hbesieged]
  split at hstep
  · cases hstep
    exact ⟨_, rfl, h, rfl⟩
  · split at hstep
    · rename_i hplain
      cases hstep
      rw [if_pos hplain]
      exact ⟨_, rfl, h, rfl⟩
    · rename_i hplain
      rw [if_neg hplain]
      split at hstep
      · cases hstep
      · cases hstep
        exact ⟨_, rfl, h, rfl⟩
      · cases hstep
        exact ⟨_, rfl, hworn, rfl⟩

theorem Reordered.degradeBesiegedFortifications (h : Reordered state state') {mapDefinition : MapDefinition}
    {degradedCityIds : List String} {besieged : MatchState × List String}
    (hbesieged : degradeBesiegedFortifications mapDefinition state degradedCityIds = .ok besieged) :
    ∃ besieged', IronCouncil.degradeBesiegedFortifications mapDefinition state' degradedCityIds = .ok besieged' ∧
      Reordered besieged.1 besieged'.1 ∧ besieged'.2 = besieged.2 := by
  have hstep : ∀ (degraded degraded' : MatchState × List String) (cityId : String) (next : MatchState × List String),
      Reordered degraded.1 degraded'.1 ∧ degraded'.2 = degraded.2 →
        IronCouncil.degradeIfBesieged mapDefinition degraded cityId = .ok next →
          ∃ next', IronCouncil.degradeIfBesieged mapDefinition degraded' cityId = .ok next' ∧
            Reordered next.1 next'.1 ∧ next'.2 = next.2 := by
    intro degraded degraded' cityId next hrelated hnext
    obtain ⟨board, ids⟩ := degraded
    obtain ⟨board', ids'⟩ := degraded'
    obtain ⟨hboard, rfl⟩ := hrelated
    exact hboard.degradeIfBesieged hnext
  unfold IronCouncil.degradeBesiegedFortifications at hbesieged ⊢
  rw [insertionSort_eq_of_perm h.keys]
  exact Run.rel_foldlM (s := (state, degradedCityIds)) (t := (state', degradedCityIds)) hstep ⟨h, rfl⟩ hbesieged

theorem Reordered.resolveAttritionPhase (h : Reordered state state') (phaseState : ResolverPhaseState) :
    Reordered (resolveAttritionPhase state phaseState).1 (resolveAttritionPhase state' phaseState).1 := by
  have hsuffered : Reordered (sufferAttrition state) (sufferAttrition state') := by
    refine ⟨h.tick, h.cities, ?_, h.players, h.victory⟩
    unfold sufferAttrition starvingPlayers
    rw [h.players, h.armies]
  have hstep : ∀ (degraded degraded' : MatchState × List String) (cityId : String),
      Reordered degraded.1 degraded'.1 ∧ degraded'.2 = degraded.2 →
        Reordered (degradeIfUnpaid degraded cityId).1 (degradeIfUnpaid degraded' cityId).1 ∧
          (degradeIfUnpaid degraded' cityId).2 = (degradeIfUnpaid degraded cityId).2 := by
    intro degraded degraded' cityId hrelated
    obtain ⟨hboard, hids⟩ := hrelated
    have hworn : Reordered (degradeFortification degraded.1 cityId) (degradeFortification degraded'.1 cityId) :=
      hboard.mapCities _
    unfold degradeIfUnpaid
    rw [hids, hboard.cities]
    split
    · exact ⟨hboard, hids⟩
    · split
      · exact ⟨hboard, hids⟩
      · split
        · exact ⟨hboard, hids⟩
        · exact ⟨hworn, rfl⟩
  have hmark : ∀ {board board' : MatchState}, Reordered board board' → Reordered (markEliminated board) (markEliminated board') := by
    intro board board' hboard
    have howns : ∀ playerId, ownsCity board' playerId = ownsCity board playerId := fun playerId => hboard.values.any_eq
    refine ⟨hboard.tick, hboard.cities, hboard.armies, ?_, hboard.victory⟩
    unfold markEliminated ownsArmy
    simp only [howns, hboard.players, hboard.armies]
  have hdegraded := Run.rel_foldl
    (R := fun degraded degraded' : MatchState × List String => Reordered degraded.1 degraded'.1 ∧ degraded'.2 = degraded.2)
    hstep (s := (sufferAttrition state, phaseState.degradedFortificationCityIds))
    (t := (sufferAttrition state', phaseState.degradedFortificationCityIds)) ⟨hsuffered, rfl⟩
    (phaseState.unpaidFortificationCityIds.insertionSort (· ≤ ·))
  exact hmark hdegraded.1

theorem Reordered.resolveVictoryPhase (h : Reordered state state') :
    Reordered (resolveVictoryPhase state) (resolveVictoryPhase state') := by
  have hheld : (state'.cities.values.filterMap (coalitionOfOwner state')).Perm
      (state.cities.values.filterMap (coalitionOfOwner state)) := by
    have hcoalition : coalitionOfOwner state' = coalitionOfOwner state := by
      funext city
      unfold coalitionOfOwner
      rw [h.players]
    rw [hcoalition]
    exact h.values.filterMap _
  refine ⟨h.tick, h.cities, h.armies, h.players, ?_⟩
  unfold IronCouncil.resolveVictoryPhase leadingCoalition coalitionCityCounts
  dsimp only
  rw [h.victory, soleLeader_perm hheld, largestCount_perm hheld]

/-- The tick of a state with its cities in another order is the same tick. -/
theorem Reordered.resolveTick (h : Reordered state state') {orders : OrderBatch} {mapDefinition : Option MapDefinition}
    {resolution : TickResolutionResult} (hresolved : resolveTick state orders mapDefinition = .ok resolution) :
    ∃ resolution', IronCouncil.resolveTick state' orders mapDefinition = .ok resolution' ∧
      Reordered resolution.nextState resolution'.nextState := by
  obtain ⟨settled, hsettled, rfl⟩ := resolveTick_eq_ok hresolved
  obtain ⟨besieged, phaseState, hsiege, rfl⟩ := resolveThroughDiplomacy_eq_ok hsettled
  obtain ⟨supplied, phaseState₀, hresource, hbesieged, hunpaid⟩ := resolveThroughSiege_eq_ok hsiege
  obtain ⟨supplied', hresource', hsupplied⟩ := h.resolveResourcePhase hresource
  have hfought := ((hsupplied.resolveBuildPhase orders).resolveMovementPhase (resolveMapDefinition mapDefinition)
    orders).resolveCombatPhase
  obtain ⟨⟨besieged', degradedCityIds⟩, hbesieged', hboard, hids⟩ := hfought.degradeBesiegedFortifications hbesieged
  obtain rfl : degradedCityIds = phaseState.degradedFortificationCityIds := hids
  have hattrition : (IronCouncil.resolveAttritionPhase besieged phaseState).1 = (IronCouncil.resolveAttritionPhase besieged
      { phaseState₀ with degradedFortificationCityIds := phaseState.degradedFortificationCityIds }).1 := by
    unfold IronCouncil.resolveAttritionPhase
    rw [hunpaid]
  rw [hattrition]
  refine ⟨⟨_, completedPhases, completedEvents⟩, ?_, (hboard.resolveAttritionPhase _).resolveVictoryPhase⟩
  unfold IronCouncil.resolveTick resolveThroughDiplomacy resolveThroughSiege
  rw [hresource']
  dsimp only
  rw [hbesieged']
  rfl

end Tick

end IronCouncil
