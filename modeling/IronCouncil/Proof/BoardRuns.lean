import IronCouncil.Proof.Board

/-!
# The board over whole runs

A tick of a consistent board completes where no player owes production, leaves the board consistent, and marks exactly the players without cities and armies as eliminated. No tick gives anything to a player who has nothing, so an eliminated player stays eliminated.
-/

namespace IronCouncil

/-! ### Ticks that complete -/

/-- The resources a tick cannot do without: no player owes production, and every city pays out. -/
structure Supplied (state : MatchState) : Prop where
  production : ∀ playerId ∈ state.players.keys, 0 ≤ state.balance playerId .production
  cities : ∀ cityId resources, (purse state).2 cityId = some resources → resources.FieldsValid

theorem Supplied.cityResources {state : MatchState} (h : Supplied state) :
    ∀ city ∈ state.cities.values, city.resources.FieldsValid := by
  intro city hcity
  obtain ⟨cityId, hget⟩ := OrdDict.mem_values.1 hcity
  apply h.cities cityId
  show (state.cities.get? cityId).map (·.resources) = some city.resources
  rw [hget]
  rfl

theorem resolveResourcePhase_total {state : MatchState} (h : Supplied state) (phaseState : ResolverPhaseState) :
    ∃ supplied phaseState', resolveResourcePhase state phaseState = .ok (supplied, phaseState') := by
  have hvalid : ∀ player ∈ (resourcePhasePlayers state).values, player.resources.FieldsValid := by
    intro player hplayer
    obtain ⟨playerId, hget⟩ := OrdDict.mem_values.1 hplayer
    unfold resourcePhasePlayers at hget
    rw [OrdDict.get?_mapVals] at hget
    obtain ⟨before, hbefore, rfl⟩ := Option.map_eq_some_iff.1 hget
    have hproduction := h.production playerId (OrdDict.mem_keys_of_get? hbefore)
    rw [balance_of_get? hbefore] at hproduction
    have hyield := resourceYield_nonneg h.cityResources playerId .production
    exact (updatedResources_fieldsValid_iff state playerId before.resources).2 (Int.add_nonneg hproduction hyield)
  unfold resolveResourcePhase
  simp only
  rw [if_pos hvalid]
  exact ⟨_, _, rfl⟩

theorem allNeighborsHostile_total {state : MatchState}
    (howners : ∀ cityId owner, state.cityOwner cityId = some owner → owner ∈ state.players.keys) (owner : String)
    (ownerCoalition : CoalitionKey) (cityIds : List String) :
    ∃ hostile, allNeighborsHostile state owner ownerCoalition cityIds = .ok hostile := by
  induction cityIds with
  | nil => exact ⟨true, rfl⟩
  | cons cityId cityIds ih =>
      unfold allNeighborsHostile
      split
      · exact ih
      · rename_i adjacentOwner hadjacent
        obtain ⟨player, hplayer⟩ := OrdDict.mem_keys.1 (howners cityId adjacentOwner hadjacent)
        split
        · exact ⟨false, rfl⟩
        · unfold playerCoalition
          rw [hplayer]
          simp only
          split
          · exact ⟨false, rfl⟩
          · exact ih

theorem degradeIfBesieged_total (mapDefinition : MapDefinition) {degraded : MatchState × List String}
    (howners : ∀ cityId owner, degraded.1.cityOwner cityId = some owner → owner ∈ degraded.1.players.keys)
    (cityId : String) : ∃ degraded', degradeIfBesieged mapDefinition degraded cityId = .ok degraded' := by
  unfold degradeIfBesieged
  split
  · exact ⟨_, rfl⟩
  · rename_i city hcity
    split
    · exact ⟨_, rfl⟩
    · have hbesieged : ∃ besieged, isBesiegedCity mapDefinition degraded.1 cityId city = .ok besieged := by
        unfold isBesiegedCity
        split
        · exact ⟨false, rfl⟩
        · rename_i owner howner
          have hknown := howners cityId owner (MatchState.cityOwner_eq_some.2 ⟨city, hcity, howner⟩)
          obtain ⟨player, hplayer⟩ := OrdDict.mem_keys.1 hknown
          split
          · exact ⟨false, rfl⟩
          · unfold playerCoalition
            rw [hplayer]
            exact allNeighborsHostile_total howners owner _ _
      obtain ⟨besieged, hbesieged⟩ := hbesieged
      rw [hbesieged]
      cases besieged with
      | false => exact ⟨_, rfl⟩
      | true => exact ⟨_, rfl⟩

/-- Where every owner is a player, the siege looks up nobody unknown. -/
theorem degradeBesiegedFortifications_total {state : MatchState}
    (howners : ∀ cityId owner, state.cityOwner cityId = some owner → owner ∈ state.players.keys)
    (mapDefinition : MapDefinition) (degradedCityIds : List String) :
    ∃ besieged, degradeBesiegedFortifications mapDefinition state degradedCityIds = .ok besieged := by
  have hstep : ∀ (degraded : MatchState × List String) (cityId : String), estate degraded.1 = estate state →
      ∃ degraded', degradeIfBesieged mapDefinition degraded cityId = .ok degraded' ∧
        estate degraded'.1 = estate state := by
    intro degraded cityId hestate
    have howner : degraded.1.cityOwner = state.cityOwner := congrArg (fun e => e.2.1) hestate
    have hkeys : degraded.1.players.keys = state.players.keys := by
      rw [MatchState.keys_eq_holdings, MatchState.keys_eq_holdings]
      exact congrArg (fun e => e.2.2.map Prod.fst) hestate
    obtain ⟨degraded', hok⟩ := degradeIfBesieged_total mapDefinition (by rwa [howner, hkeys]) cityId
    refine ⟨degraded', hok, ?_⟩
    rcases degradeIfBesieged_eq_ok hok with rfl | rfl
    · exact hestate
    · exact (estate_degradeFortification degraded.1 cityId).trans hestate
  obtain ⟨besieged, hok, -⟩ := Run.total_foldlM hstep (s := (state, degradedCityIds)) rfl
    (state.cities.keys.insertionSort (· ≤ ·))
  exact ⟨besieged, hok⟩

theorem keys_of_estate {state state' : MatchState} (h : estate state' = estate state) :
    state'.players.keys = state.players.keys := by
  rw [MatchState.keys_eq_holdings, MatchState.keys_eq_holdings]
  exact congrArg (fun e => e.2.2.map Prod.fst) h

/-! ### A consistent board -/

structure BoardConsistent (state : MatchState) : Prop where
  holdings : HoldingsExact state
  within : BoardWithin (· ∈ state.players.keys) state

/-- The player owns no city and no army. -/
def Absent (state : MatchState) (playerId : String) : Prop :=
  (∀ cityId, state.cityOwner cityId ≠ some playerId) ∧ ∀ army ∈ state.armies, army.owner ≠ playerId

def Eliminated (state : MatchState) (playerId : String) : Prop :=
  ∃ player, state.players.get? playerId = some player ∧ player.isEliminated = true

/-- Exactly the players without cities and armies are marked as eliminated. -/
def EliminationRecorded (state : MatchState) : Prop :=
  ∀ playerId ∈ state.players.keys, Eliminated state playerId ↔ Absent state playerId

section Tick

variable {state settled : MatchState} {submissions : List OrderEnvelope}

theorem validated_destinations (state : MatchState) (submissions : List OrderEnvelope) :
    ∀ order ∈ (validateQueuedOrders state submissions).movements, order.destination ∈ state.cities.keys := by
  intro order horder
  rw [validateQueuedOrders_movements] at horder
  obtain ⟨submission, -, haccepted⟩ := List.mem_flatMap.1 horder
  obtain ⟨army, location, -, hknown, -⟩ := accepted_movement haccepted
  exact hknown

theorem BoardConsistent.resolveThroughDiplomacy (h : BoardConsistent state)
    (hsettled : resolveThroughDiplomacy state (validateQueuedOrders state submissions) loadUk1900Map = .ok settled) :
    BoardConsistent settled := by
  have hkeys := keys_of_tickFrame (tickFrame_resolveThroughDiplomacy hsettled)
  refine ⟨h.holdings.resolveThroughDiplomacy hsettled, ?_⟩
  rw [hkeys]
  exact h.within.resolveThroughDiplomacy (validated_destinations state submissions) hsettled

/-- A player without cities and armies gets none in a tick. -/
theorem Absent.resolveThroughDiplomacy {playerId : String} (hboard : BoardConsistent state)
    (habsent : Absent state playerId)
    (hsettled : resolveThroughDiplomacy state (validateQueuedOrders state submissions) loadUk1900Map = .ok settled) :
    Absent settled playerId := by
  have hwithin : BoardWithin (· ≠ playerId) state := by
    refine ⟨?_, habsent.2, hboard.within.armies.distinct, hboard.within.armies.placed⟩
    rintro cityId owner howner rfl
    exact habsent.1 cityId howner
  have hafter := hwithin.resolveThroughDiplomacy (validated_destinations state submissions) hsettled
  refine ⟨?_, hafter.armies.owners⟩
  intro cityId howner
  exact hafter.cityOwners cityId playerId howner rfl

theorem ownsCity_eq_true (state : MatchState) (playerId : String) :
    ownsCity state playerId = true ↔ ∃ cityId, state.cityOwner cityId = some playerId := by
  unfold ownsCity
  rw [List.any_eq_true]
  constructor
  · rintro ⟨city, hcity, howner⟩
    obtain ⟨cityId, hget⟩ := OrdDict.mem_values.1 hcity
    exact ⟨cityId, MatchState.cityOwner_eq_some.2 ⟨city, hget, by simpa using howner⟩⟩
  · rintro ⟨cityId, howner⟩
    obtain ⟨city, hget, howner⟩ := MatchState.cityOwner_eq_some.1 howner
    exact ⟨city, OrdDict.mem_values.2 ⟨cityId, hget⟩, by simpa using howner⟩

theorem eliminationRecorded_markEliminated (state : MatchState) : EliminationRecorded (markEliminated state) := by
  intro playerId hplayer
  obtain ⟨marked, hmarked⟩ := OrdDict.mem_keys.1 hplayer
  have hget := hmarked
  unfold markEliminated at hget
  rw [OrdDict.get?_mapVals] at hget
  obtain ⟨player, -, rfl⟩ := Option.map_eq_some_iff.1 hget
  have heliminated : Eliminated (markEliminated state) playerId ↔
      (!ownsCity state playerId && !ownsArmy state playerId) = true := by
    constructor
    · rintro ⟨found, hfound, htrue⟩
      rw [hmarked] at hfound
      cases hfound
      exact htrue
    · intro htrue
      exact ⟨_, hmarked, htrue⟩
  have hcity := ownsCity_eq_true state playerId
  rw [heliminated, Bool.and_eq_true, Bool.not_eq_true', Bool.not_eq_true']
  have harmy : ownsArmy state playerId = false ↔ ∀ army ∈ state.armies, army.owner ≠ playerId := by
    unfold ownsArmy
    simp
  rw [harmy, ← Bool.not_eq_true, hcity, not_exists]
  exact Iff.rfl

theorem eliminationRecorded_resolveThroughDiplomacy {orders : OrderBatch} {mapDefinition : MapDefinition}
    (hsettled : resolveThroughDiplomacy state orders mapDefinition = .ok settled) : EliminationRecorded settled := by
  obtain ⟨besieged, phaseState, -, rfl⟩ := resolveThroughDiplomacy_eq_ok hsettled
  exact eliminationRecorded_markEliminated _

theorem cityBase_resolveBuildPhase (state : MatchState) (orders : OrderBatch) :
    (purse (resolveBuildPhase state orders)).2 = (purse state).2 := by
  have hrecruitment : ∀ (board : MatchState) (order : RecruitmentOrder),
      (purse (processRecruitmentOrder board order)).2 = (purse board).2 := by
    intro board order
    unfold processRecruitmentOrder musterTroops
    split
    · rfl
    · simp only
      split <;> rfl
  have hupgrade : ∀ (board : MatchState) (order : UpgradeOrder),
      (purse (startUpgradeOrder (queuedTracksAtPhaseStart state) board order)).2 = (purse board).2 := by
    intro board order
    unfold startUpgradeOrder enqueueUpgrade
    split
    · rfl
    · rw [purse_modifyCity]
      · rfl
      · exact fun _ => rfl
  have htransfer : ∀ (board : MatchState) (order : TransferOrder),
      (purse (processTransferOrder board order)).2 = (purse board).2 := by
    intro board order
    unfold processTransferOrder
    split <;> rfl
  have hadvanced : (purse (advanceBuildQueues state)).2 = (purse state).2 :=
    congrArg Prod.snd (purse_mapCities fun _ _ => rfl)
  unfold resolveBuildPhase processTransferOrders startUpgradeOrders processRecruitmentOrders
  simp only
  rw [Run.frame_foldl (g := fun board => (purse board).2) htransfer,
    Run.frame_foldl (g := fun board => (purse board).2) hupgrade,
    Run.frame_foldl (g := fun board => (purse board).2) hrecruitment, hadvanced]

/-- The validator covers production, and nothing takes production before the orders do. -/
theorem Supplied.resolveThroughDiplomacy (h : Supplied state)
    (hsettled : resolveThroughDiplomacy state (validateQueuedOrders state submissions) loadUk1900Map = .ok settled) :
    Supplied settled := by
  have hkeys := keys_of_tickFrame (tickFrame_resolveThroughDiplomacy hsettled)
  obtain ⟨supplied, phaseState, hresource, hpurse⟩ := purse_resolveThroughDiplomacy hsettled
  have hestate := (estate_resolveResourcePhase hresource).1
  have howner : supplied.cityOwner = state.cityOwner := congrArg (fun e => e.2.1) hestate
  refine ⟨?_, ?_⟩
  · intro playerId hplayer
    rw [hkeys] at hplayer
    obtain ⟨player, hget⟩ := OrdDict.mem_keys.1 hplayer
    have hbefore := h.production playerId hplayer
    have hspending := spending_validateQueuedOrders_le hbefore submissions
    have hreceived := received_nonneg playerId .production
      (validateQueuedOrders state submissions)
    have hyield := resourceYield_nonneg h.cityResources playerId .production
    have hsupplied : supplied.balance playerId .production =
        player.resources.production + resourceYield state playerId .production :=
      balance_resolveResourcePhase hresource hget .production
    have hbuilt := (balance_built .production howner (keys_of_estate hestate) hplayer submissions).1
    have hbalance : settled.balance playerId .production = _ :=
      congrFun (congrFun (congrArg Prod.fst hpurse) playerId) .production
    have hstart : state.balance playerId .production = player.resources.production := balance_of_get? hget .production
    rw [hbalance]
    change _ ≤ (resolveBuildPhase supplied _).balance playerId .production
    omega
  · have hcities : (purse settled).2 = (purse state).2 := by
      rw [hpurse, cityBase_resolveBuildPhase]
      unfold purse
      rw [(resolveResourcePhase_board hresource).1]
    rw [hcities]
    exact h.cities

theorem resolveThroughDiplomacy_total (hwithin : BoardWithin (· ∈ state.players.keys) state) (hsupplied : Supplied state)
    (submissions : List OrderEnvelope) :
    ∃ settled, resolveThroughDiplomacy state (validateQueuedOrders state submissions) loadUk1900Map = .ok settled := by
  obtain ⟨supplied, phaseState, hresource⟩ := resolveResourcePhase_total hsupplied ⟨loadUk1900Map, [], []⟩
  obtain ⟨hestate, harmies⟩ := estate_resolveResourcePhase hresource
  have hcities : ∀ orders, (resolveBuildPhase supplied orders).cities.keys = state.cities.keys := fun orders =>
    congrArg (fun e => e.1) ((estate_resolveBuildPhase supplied orders).trans hestate)
  have hstart : BoardWithin (· ∈ state.players.keys) supplied :=
    hwithin.of_estate hestate fun harmed => by rwa [harmies]
  have hknown := validated_destinations state submissions
  rw [← hcities (validateQueuedOrders state submissions)] at hknown
  have hfought := ((hstart.resolveBuildPhase (validateQueuedOrders state submissions)).resolveMovementPhase
    loadUk1900Map hknown).resolveCombatPhase
  have hframe := tickFrame_resolveCombatPhase (resolveMovementPhase loadUk1900Map
    (resolveBuildPhase supplied (validateQueuedOrders state submissions)) (validateQueuedOrders state submissions))
  rw [tickFrame_resolveMovementPhase, tickFrame_resolveBuildPhase, tickFrame_resolveResourcePhase hresource] at hframe
  have howners := hfought.cityOwners
  rw [← keys_of_tickFrame hframe] at howners
  obtain ⟨besieged, hbesieged⟩ := degradeBesiegedFortifications_total howners loadUk1900Map
    phaseState.degradedFortificationCityIds
  unfold resolveThroughDiplomacy resolveThroughSiege
  simp only [hresource, hbesieged]
  exact ⟨_, rfl⟩

end Tick

/-! ### Runs -/

/-- A tick on a list of submissions, or a change of a player's alliance. -/
inductive BoardEvent
  | tick (submissions : List OrderEnvelope)
  | alliance (playerId : String) (allianceId : Option String)

/-- A tick that raises leaves the state as it was. -/
def boardStep (state : MatchState) : BoardEvent → MatchState
  | .tick submissions =>
      match resolveTick state (validateQueuedOrders state submissions) none with
      | .error _ => state
      | .ok result => syncVictoryState { result.nextState with tick := state.tick + 1 }
  | .alliance playerId allianceId => syncVictoryState (setAlliance state playerId allianceId)

theorem boardStep_of_error {state : MatchState} {submissions : List OrderEnvelope} {error : TickError}
    (h : resolveThroughDiplomacy state (validateQueuedOrders state submissions) loadUk1900Map = .error error) :
    boardStep state (.tick submissions) = state := by
  have hresolve : resolveTick state (validateQueuedOrders state submissions) none = .error error := by
    unfold resolveTick
    rw [show resolveThroughDiplomacy state _ (resolveMapDefinition none) = .error error from h]
  simp only [boardStep, hresolve]

theorem boardStep_of_settled {state settled : MatchState} {submissions : List OrderEnvelope}
    (h : resolveThroughDiplomacy state (validateQueuedOrders state submissions) loadUk1900Map = .ok settled) :
    boardStep state (.tick submissions) =
      syncVictoryState { resolveVictoryPhase settled with tick := state.tick + 1 } := by
  have hresolve : resolveTick state (validateQueuedOrders state submissions) none =
      .ok ⟨resolveVictoryPhase settled, completedPhases, completedEvents⟩ := by
    unfold resolveTick
    rw [show resolveThroughDiplomacy state _ (resolveMapDefinition none) = .ok settled from h]
  simp only [boardStep, hresolve]

/-- The tick of a live record is the step on the submissions queued for it. -/
theorem advanceMatchTick_eq_boardStep (record : MatchRecord) :
    (advanceMatchTick record).1.state = boardStep record.state (.tick (queuedForTick record)) := by
  cases hsettled : settledBoard record with
  | error error => rw [(advanceMatchTick_of_error hsettled).1, boardStep_of_error hsettled]
  | ok settled =>
      rw [(advanceMatchTick_of_settled hsettled).1, boardStep_of_settled hsettled]
      rfl

theorem estate_setAlliance (state : MatchState) (playerId : String) (allianceId : Option String) :
    estate (setAlliance state playerId allianceId) = estate state := by
  refine estate_eq rfl (MatchState.cityOwner_congr rfl) ?_
  apply MatchState.holdings_modifyPlayer
  exact fun _ => rfl

theorem eliminated_setAlliance {state : MatchState} {playerId : String} {allianceId : Option String}
    {player : String} : Eliminated (setAlliance state playerId allianceId) player ↔ Eliminated state player := by
  unfold Eliminated setAlliance MatchState.modifyPlayer
  simp only [OrdDict.get?_modify]
  by_cases hkey : player = playerId
  · simp [hkey]
  · simp [hkey]

/-- The board, once a tick has recorded who is eliminated. -/
structure BoardRecorded (state : MatchState) : Prop where
  consistent : BoardConsistent state
  recorded : EliminationRecorded state

/-- The tick counter and the victory state are not part of the board. -/
theorem BoardRecorded.congr {state state' : MatchState} (h : BoardRecorded state)
    (hcities : state'.cities = state.cities) (harmies : state'.armies = state.armies)
    (hplayers : state'.players = state.players) : BoardRecorded state' := by
  obtain ⟨tick, cities, armies, players, victory⟩ := state'
  cases hcities
  cases harmies
  cases hplayers
  exact ⟨⟨h.consistent.holdings, ⟨h.consistent.within.cityOwners, h.consistent.within.armies⟩⟩, h.recorded⟩

theorem boardRecorded_step {state : MatchState} (h : BoardRecorded state) (event : BoardEvent) :
    BoardRecorded (boardStep state event) ∧
      ∀ playerId, Eliminated state playerId → Eliminated (boardStep state event) playerId := by
  cases event with
  | tick submissions =>
      cases hsettled : resolveThroughDiplomacy state (validateQueuedOrders state submissions) loadUk1900Map with
      | error error =>
          rw [boardStep_of_error hsettled]
          exact ⟨h, fun _ helim => helim⟩
      | ok settled =>
          have hconsistent : BoardConsistent settled := h.consistent.resolveThroughDiplomacy hsettled
          have hrecorded := eliminationRecorded_resolveThroughDiplomacy hsettled
          have hkeys := keys_of_tickFrame (tickFrame_resolveThroughDiplomacy hsettled)
          rw [boardStep_of_settled hsettled]
          refine ⟨BoardRecorded.congr ⟨hconsistent, hrecorded⟩ rfl rfl rfl, ?_⟩
          intro playerId helim
          have hmem : playerId ∈ state.players.keys := by
            obtain ⟨player, hplayer, -⟩ := helim
            exact OrdDict.mem_keys_of_get? hplayer
          have habsent := (h.recorded playerId hmem).1 helim
          exact (hrecorded playerId (hkeys ▸ hmem)).2 (habsent.resolveThroughDiplomacy h.consistent hsettled)
  | alliance playerId allianceId =>
      have hestate := estate_setAlliance state playerId allianceId
      have hkeys := keys_of_estate hestate
      have hwithin : BoardWithin (· ∈ state.players.keys) (setAlliance state playerId allianceId) :=
        h.consistent.within.of_estate hestate id
      rw [← hkeys] at hwithin
      have hrecorded : EliminationRecorded (setAlliance state playerId allianceId) := fun player hplayer =>
        eliminated_setAlliance.trans (h.recorded player (hkeys ▸ hplayer))
      refine ⟨BoardRecorded.congr ⟨⟨h.consistent.holdings.of_estate hestate, hwithin⟩, hrecorded⟩ rfl rfl rfl, ?_⟩
      exact fun _ helim => eliminated_setAlliance.2 helim

/-- On a consistent board a tick of any submissions leaves a consistent board, with exactly the players without cities and armies marked as eliminated; whoever is eliminated then stays eliminated, and the board consistent, for the rest of any run. Where no player owes production the tick does not raise. -/
theorem boardConsistent_resolveTick {state : MatchState} (hboard : BoardConsistent state)
    (submissions : List OrderEnvelope) :
    (Supplied state → ∃ result, resolveTick state (validateQueuedOrders state submissions) none = .ok result ∧
      Supplied result.nextState) ∧
    ∀ result, resolveTick state (validateQueuedOrders state submissions) none = .ok result →
      BoardConsistent result.nextState ∧ EliminationRecorded result.nextState ∧
        ∀ (events : List BoardEvent), ∀ later ∈ Run.states boardStep result.nextState events,
          BoardConsistent later ∧ EliminationRecorded later ∧
            ∀ playerId, Eliminated result.nextState playerId → Eliminated later playerId := by
  refine ⟨?_, ?_⟩
  · intro hsupplied
    obtain ⟨settled, hsettled⟩ := resolveThroughDiplomacy_total hboard.within hsupplied submissions
    have hafter : Supplied settled := hsupplied.resolveThroughDiplomacy hsettled
    refine ⟨⟨resolveVictoryPhase settled, completedPhases, completedEvents⟩, ?_, hafter.production, hafter.cities⟩
    unfold resolveTick
    rw [show resolveThroughDiplomacy state _ (resolveMapDefinition none) = .ok settled from hsettled]
  · intro result hresult
    obtain ⟨settled, hsettled, rfl⟩ := resolveTick_eq_ok hresult
    have hconsistent : BoardConsistent settled := hboard.resolveThroughDiplomacy hsettled
    have hrecorded : EliminationRecorded settled := eliminationRecorded_resolveThroughDiplomacy hsettled
    have hstart : BoardRecorded (resolveVictoryPhase settled) :=
      BoardRecorded.congr ⟨hconsistent, hrecorded⟩ rfl rfl rfl
    refine ⟨hstart.consistent, hstart.recorded, ?_⟩
    intro events later hlater
    have hrun := Run.invariant (I := fun later => BoardRecorded later ∧
        ∀ playerId, Eliminated (resolveVictoryPhase settled) playerId → Eliminated later playerId)
      (fun board event hkept => ⟨(boardRecorded_step hkept.1 event).1, fun playerId helim =>
        (boardRecorded_step hkept.1 event).2 playerId (hkept.2 playerId helim)⟩)
      ⟨hstart, fun _ helim => helim⟩ events later hlater
    exact ⟨hrun.1.consistent, hrun.1.recorded, hrun.2⟩

theorem cityOwner_duelState (cityId owner : String) :
    duelState.cityOwner cityId = some owner ↔
      (cityId = "london" ∧ owner = "p1") ∨ (cityId = "southampton" ∧ owner = "p2") := by
  have hentries : duelState.cities.entries = [("london", duelCity "p1"), ("southampton", duelCity "p2")] := rfl
  rw [MatchState.cityOwner_eq_some]
  simp only [OrdDict.get?_eq_some, hentries, List.mem_cons, List.not_mem_nil, or_false, Prod.mk.injEq]
  constructor
  · rintro ⟨city, ⟨rfl, rfl⟩ | ⟨rfl, rfl⟩, howner⟩
    · exact Or.inl ⟨rfl, (Option.some.inj howner).symm⟩
    · exact Or.inr ⟨rfl, (Option.some.inj howner).symm⟩
  · rintro (⟨rfl, rfl⟩ | ⟨rfl, rfl⟩)
    · exact ⟨_, Or.inl ⟨rfl, rfl⟩, rfl⟩
    · exact ⟨_, Or.inr ⟨rfl, rfl⟩, rfl⟩

theorem duelArmy_placed {cityIds : List String} {id owner cityId : String} (h : cityId ∈ cityIds) :
    ArmyPlaced cityIds (duelArmy id owner cityId) := by
  refine ⟨by simp [duelArmy], ?_, by simp [duelArmy], by simp [duelArmy], by simp [duelArmy]⟩
  intro city hcity
  rw [← Option.some.inj hcity]
  exact h

theorem boardConsistent_duelState : BoardConsistent duelState := by
  have hholdings : duelState.holdings = [("p1", ["london"]), ("p2", ["southampton"])] := rfl
  have harmies : duelState.armies = [duelArmy "a1" "p1" "london", duelArmy "a2" "p2" "southampton"] := rfl
  refine ⟨?_, ?_, ?_⟩
  · intro playerId citiesOwned hmem
    rw [hholdings] at hmem
    simp only [List.mem_cons, List.not_mem_nil, or_false, Prod.mk.injEq] at hmem
    simp only [cityOwner_duelState]
    rcases hmem with ⟨rfl, rfl⟩ | ⟨rfl, rfl⟩
    · exact ⟨by decide, fun cityId => by simp⟩
    · exact ⟨by decide, fun cityId => by simp⟩
  · intro cityId owner howner
    rcases (cityOwner_duelState cityId owner).1 howner with ⟨-, rfl⟩ | ⟨-, rfl⟩
    · decide
    · decide
  · refine ⟨?_, by decide, ?_⟩
    · decide
    · rw [harmies]
      intro army harmy
      rcases List.mem_cons.1 harmy with rfl | harmy
      · exact duelArmy_placed (by decide)
      · rw [List.mem_singleton.1 harmy]
        exact duelArmy_placed (by decide)

theorem boardConsistent_resolveTick_duel :
    ∃ result, resolveTick duelState (validateQueuedOrders duelState [duelMarch "p1" "a1" "southampton"]) none =
        .ok result ∧ BoardConsistent result.nextState := by
  have hsupplied : Supplied duelState := by
    refine ⟨by decide, ?_⟩
    intro cityId resources hget
    have hcity : ∃ city ∈ duelState.cities.values, city.resources = resources := by
      obtain ⟨city, hcity, rfl⟩ := Option.map_eq_some_iff.1 hget
      exact ⟨city, OrdDict.mem_values.2 ⟨cityId, hcity⟩, rfl⟩
    obtain ⟨city, hmem, rfl⟩ := hcity
    have hall : ∀ city ∈ duelState.cities.values, city.resources.FieldsValid := by decide
    exact hall city hmem
  obtain ⟨hcompletes, hkept⟩ := boardConsistent_resolveTick boardConsistent_duelState
    [duelMarch "p1" "a1" "southampton"]
  obtain ⟨result, hresult, -⟩ := hcompletes hsupplied
  exact ⟨result, hresult, (hkept result hresult).1⟩

end IronCouncil
