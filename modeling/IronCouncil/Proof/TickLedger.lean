import IronCouncil.Proof.CityFrames
import IronCouncil.Proof.FortificationUpkeep
import IronCouncil.Proof.OrderEffects

/-!
# What a tick does to the players' wealth

Over all players together a tick adds the yields of their cities, takes the cost of the recruits and of the upgrades it enqueues out of production, and the upkeep of the fortifications that are paid for out of money. Transfers move resources and make none. The cities' own resources, populations and garrisons stay.
-/

namespace IronCouncil

/-- What all players have together. -/
def MatchState.total (state : MatchState) (resource : ResourceType) : Int :=
  (state.players.values.map fun player => player.resources.get resource).sum

/-- The cities that belong to a player of the match. -/
def playerCities (state : MatchState) : List (String × CityState) :=
  state.cities.entries.filter fun entry => entry.2.owner.any (· ∈ state.players.keys)

def playersYield (state : MatchState) (resource : ResourceType) : Int :=
  ((playerCities state).map fun entry => (cityResourceYield entry.2).get resource).sum

def fortifiedPlayerCities (state : MatchState) : List (String × CityState) :=
  (playerCities state).filter fun entry => 0 < entry.2.upgrades.fortification

def recruitedTroops (orders : OrderBatch) : Nat := (orders.recruitment.map (·.troops)).sum

/-- The city without its owner, its levels and its queue. -/
def cityBase (city : CityState) : ResourceState × Nat × Nat := (city.resources, city.population, city.garrison)

/-- A tick of a state: what is reported as unpaid, what is enqueued, and what becomes of the players' wealth. -/
structure TickLedger (state next : MatchState) (orders : OrderBatch) (unpaid : List String)
    (enqueued : List UpgradeOrder) : Prop where
  production : next.total .production = state.total .production + playersYield state .production -
    5 * recruitedTroops orders - (enqueued.map fun order => ((upgradeCost order).production : Int)).sum
  money : next.total .money = state.total .money + playersYield state .money -
    paidUpkeep unpaid (fortifiedPlayerCities state)
  enqueued_accepted : enqueued.Sublist orders.upgrades
  queues : ∀ cityId, buildingQueueOf next cityId =
    buildingQueueOf (advanceBuildQueues state) cityId ++ (enqueued.filter (·.city = cityId)).map upgradeItem
  cities : cityView cityBase next = cityView cityBase state
  yields : ∀ upgrades, cityView (fun city => cityResourceYield { city with upgrades := upgrades }) next =
    cityView (fun city => cityResourceYield { city with upgrades := upgrades }) state

/-! ### Totals -/

section Totals

variable {state : MatchState}

theorem total_eq (state : MatchState) (resource : ResourceType) :
    state.total resource = (state.players.keys.map fun playerId => state.balance playerId resource).sum := by
  unfold MatchState.total OrdDict.values OrdDict.keys
  rw [List.map_map, List.map_map]
  congr 1
  apply List.map_congr_left
  intro entry hentry
  exact (balance_of_get? (OrdDict.get?_eq_some.2 hentry) resource).symm

theorem sum_resourceYield (state : MatchState) (resource : ResourceType) :
    (state.players.keys.map fun playerId => resourceYield state playerId resource).sum = playersYield state resource :=
  List.sum_map_sum_filter_eq state.players.keys_nodup (fun entry : String × CityState => entry.2.owner)
    (fun entry => (cityResourceYield entry.2).get resource) state.cities.entries

/-- Summing what concerns each player is summing what concerns some player. -/
theorem sum_players_sum {α : Type} (payer : α → Option String) (amount : α → Int) {orders : List α}
    (hpayer : ∀ order ∈ orders, ∃ playerId ∈ state.players.keys, payer order = some playerId) :
    (state.players.keys.map fun playerId =>
        (orders.map fun order => if payer order = some playerId then amount order else 0).sum).sum =
      (orders.map amount).sum := by
  rw [List.sum_map_sum_comm]
  congr 1
  apply List.map_congr_left
  intro order horder
  obtain ⟨playerId, hplayer, heq⟩ := hpayer order horder
  rw [List.sum_map_ite_some_eq state.players.keys_nodup, heq, if_pos (by simpa using hplayer)]

/-- A transfer takes from one player what it brings another, or the same. -/
theorem sum_transferGain_order (resource : ResourceType) (order : TransferOrder) :
    (state.players.keys.map fun playerId => transferGain (transferSender state) playerId resource order).sum = 0 := by
  unfold transferGain
  cases hsender : transferSender state order with
  | none => simp
  | some sender =>
      have hknown : sender ∈ state.players.keys ∧ order.recipientId ∈ state.players.keys := by
        unfold transferSender at hsender
        have hfilter := (Option.filter_eq_some_iff.1 hsender).2
        exact of_decide_eq_true hfilter
      have hone : ∀ party ∈ state.players.keys,
          (state.players.keys.map fun playerId =>
            if playerId = party ∧ resource = order.resource then (order.amount : Int) else 0).sum =
              if resource = order.resource then (order.amount : Int) else 0 := by
        intro party hparty
        rw [List.sum_map_eq_of_forall_ne state.players.keys_nodup hparty]
        · simp
        · intro other _ hne
          simp [hne]
      dsimp only
      rw [List.sum_map_sub, hone _ hknown.2, hone _ hknown.1, sub_self]

/-- Transfers leave the total of every resource as it is. -/
theorem total_processTransferOrders (state : MatchState) (orders : List TransferOrder) (resource : ResourceType) :
    (processTransferOrders state orders).total resource = state.total resource := by
  have hkeys : (processTransferOrders state orders).players.keys = state.players.keys :=
    Run.frame_foldl (g := fun board : MatchState => board.players.keys) keys_processTransferOrder state orders
  have hbalance : ∀ playerId ∈ state.players.keys, (processTransferOrders state orders).balance playerId resource =
      state.balance playerId resource + (orders.map (transferGain (transferSender state) playerId resource)).sum :=
    fun playerId hplayer => balance_processTransferOrders hplayer resource orders
  rw [total_eq, total_eq, hkeys, List.map_congr_left hbalance, List.sum_map_add, List.sum_map_sum_comm]
  simp [sum_transferGain_order]

/-- What a batch of orders costs all players together. -/
theorem sum_spending (resource : ResourceType) {orders : OrderBatch}
    (hrecruitment : ∀ order ∈ orders.recruitment, ∃ playerId ∈ state.players.keys, state.cityOwner order.city = some playerId)
    (hupgrades : ∀ order ∈ orders.upgrades, ∃ playerId ∈ state.players.keys, state.cityOwner order.city = some playerId)
    (htransfers : ∀ order ∈ orders.transfers, ∃ playerId ∈ state.players.keys, order.sender = some playerId) :
    (state.players.keys.map fun playerId => spending state playerId resource orders).sum = batchCost resource orders := by
  unfold spending batchCost
  rw [List.sum_map_add, List.sum_map_add]
  rw [sum_players_sum (fun order : RecruitmentOrder => state.cityOwner order.city) _ hrecruitment,
    sum_players_sum (fun order : UpgradeOrder => state.cityOwner order.city) _ hupgrades,
    sum_players_sum (fun order : TransferOrder => order.sender) _ htransfers]

/-- What the transfers of a batch bring all players together. -/
theorem sum_received (resource : ResourceType) {orders : OrderBatch}
    (hrecipients : ∀ order ∈ orders.transfers, order.recipientId ∈ state.players.keys) :
    (state.players.keys.map fun playerId => received playerId resource orders).sum =
      (orders.transfers.map fun order => ((transferCost order).get resource : Int)).sum := by
  have hreceived : ∀ playerId, received playerId resource orders = (orders.transfers.map fun order =>
      if some order.recipientId = some playerId then ((transferCost order).get resource : Int) else 0).sum := by
    intro playerId
    unfold received
    congr 1
    apply List.map_congr_left
    intro order _
    simp only [Option.some.injEq, ite_and]
    unfold transferCost
    cases resource <;> cases order.resource <;> simp [ResourceCost.get]
  simp only [hreceived]
  exact sum_players_sum _ _ fun order horder => ⟨_, hrecipients order horder, rfl⟩

end Totals

/-! ### The build phase -/

section Build

variable {state supplied : MatchState} (submissions : List OrderEnvelope)

/-- The accepted orders name players and their cities. -/
theorem accepted_parties (state : MatchState) :
    (∀ order ∈ (validateQueuedOrders state submissions).recruitment,
        ∃ playerId ∈ state.players.keys, state.cityOwner order.city = some playerId) ∧
      (∀ order ∈ (validateQueuedOrders state submissions).upgrades,
        ∃ playerId ∈ state.players.keys, state.cityOwner order.city = some playerId) ∧
      ∀ order ∈ (validateQueuedOrders state submissions).transfers,
        (∃ playerId ∈ state.players.keys, order.sender = some playerId) ∧ order.recipientId ∈ state.players.keys := by
  refine ⟨?_, ?_, ?_⟩
  · intro order horder
    rw [validateQueuedOrders_recruitment] at horder
    obtain ⟨submission, -, haccepted⟩ := List.mem_flatMap.1 horder
    exact ⟨_, accepted_order_player (·.recruitment) rfl haccepted, (acceptedOrders_own state submission).1 order haccepted⟩
  · intro order horder
    rw [validateQueuedOrders_upgrades] at horder
    obtain ⟨submission, -, haccepted⟩ := List.mem_flatMap.1 horder
    exact ⟨_, accepted_order_player (·.upgrades) rfl haccepted, (acceptedOrders_own state submission).2.1 order haccepted⟩
  · intro order horder
    rw [validateQueuedOrders_transfers] at horder
    obtain ⟨submission, -, haccepted⟩ := List.mem_flatMap.1 horder
    obtain ⟨hsender, hmem, hrecipient⟩ := accepted_transfer haccepted
    exact ⟨⟨_, hmem, hsender⟩, hrecipient⟩

/-- All players together pay for the recruits and for the upgrades that are started. -/
theorem total_built (hcities : supplied.cities = state.cities) (hkeys : supplied.players.keys = state.players.keys)
    (resource : ResourceType) :
    (resolveBuildPhase supplied (validateQueuedOrders state submissions)).total resource = supplied.total resource -
      ((validateQueuedOrders state submissions).recruitment.map fun order =>
        ((recruitmentCost order).get resource : Int)).sum -
      ((startedOrders state (validateQueuedOrders state submissions)).upgrades.map fun order =>
        ((upgradeCost order).get resource : Int)).sum := by
  obtain ⟨hrecruitment, hupgrades, htransfers⟩ := accepted_parties submissions state
  have hbuilt : (resolveBuildPhase supplied (validateQueuedOrders state submissions)).players.keys = state.players.keys :=
    (keys_of_tickFrame (tickFrame_resolveBuildPhase supplied _)).trans hkeys
  have hspending : (state.players.keys.map fun playerId => spending state playerId resource
      (startedOrders state (validateQueuedOrders state submissions))).sum =
        batchCost resource (startedOrders state (validateQueuedOrders state submissions)) :=
    sum_spending resource hrecruitment (fun order horder => hupgrades order (List.mem_of_mem_filter horder))
      fun order horder => (htransfers order horder).1
  have hrecipients := fun order horder => (htransfers order horder).2
  have hreceived := sum_received resource hrecipients
  have hbalance := fun playerId (hplayer : playerId ∈ state.players.keys) =>
    balance_built_eq hcities hkeys submissions hplayer resource
  rw [total_eq, total_eq, hbuilt, hkeys, List.map_congr_left hbalance, List.sum_map_add, List.sum_map_sub, hreceived]
  simp only [← spending_startedOrders]
  rw [hspending]
  unfold batchCost startedOrders
  dsimp only
  omega

end Build

/-! ### The resource phase -/

section Resource

variable {state supplied : MatchState} {phaseState phaseState' : ResolverPhaseState}
  (h : resolveResourcePhase state phaseState = .ok (supplied, phaseState'))

include h

theorem unpaidFortificationCityIds_eq : phaseState'.unpaidFortificationCityIds =
    state.players.entries.flatMap fun entry => unpaidFortifications state entry.1 entry.2.resources := by
  unfold resolveResourcePhase at h
  dsimp only at h
  split at h
  · cases h
    rfl
  · cases h

/-- A city is reported as unpaid exactly when its owner could not pay for it. -/
theorem mem_unpaidFortificationCityIds {playerId : String} {player : PlayerState}
    (hplayer : state.players.get? playerId = some player) {entry : String × CityState}
    (hentry : entry ∈ fortifiedCitiesInUpkeepOrder state playerId) :
    entry.1 ∈ phaseState'.unpaidFortificationCityIds ↔ entry.1 ∈ unpaidFortifications state playerId player.resources := by
  rw [unpaidFortificationCityIds_eq h, List.mem_flatMap]
  constructor
  · intro hunpaid
    obtain ⟨⟨otherId, other⟩, hother, hunpaid⟩ := hunpaid
    obtain ⟨entry', hentry', hid⟩ := List.mem_map.1 (unpaidOf_subset _ _ _ hunpaid)
    obtain ⟨hcity, howner, -⟩ := mem_fortifiedCities.1 hentry
    obtain ⟨hcity', howner', -⟩ := mem_fortifiedCities.1 hentry'
    rw [hid, hcity] at hcity'
    rw [← Option.some.inj hcity', howner] at howner'
    rw [← OrdDict.get?_eq_some] at hother
    cases howner'
    rw [hplayer] at hother
    cases hother
    exact hunpaid
  · intro hunpaid
    exact ⟨(playerId, player), OrdDict.get?_eq_some.1 hplayer, hunpaid⟩

theorem total_production_supplied : supplied.total .production = state.total .production + playersYield state .production := by
  have hkeys := keys_of_tickFrame (tickFrame_resolveResourcePhase h)
  rw [total_eq, total_eq, hkeys, ← sum_resourceYield, ← List.sum_map_add]
  congr 1
  apply List.map_congr_left
  intro playerId hplayer
  obtain ⟨player, hget⟩ := OrdDict.mem_keys.1 hplayer
  rw [balance_resolveResourcePhase h hget, balance_of_get? hget]
  rfl

/-- The upkeep that one player pays, as a sum over the cities of that player. -/
theorem paidUpkeep_eq_sum {playerId : String} {player : PlayerState}
    (hplayer : state.players.get? playerId = some player) :
    paidUpkeep (unpaidFortifications state playerId player.resources) (fortifiedCitiesInUpkeepOrder state playerId) =
      ((state.cities.entries.filter fun entry => entry.2.owner = some playerId).map fun entry =>
        if 0 < entry.2.upgrades.fortification ∧ entry.1 ∉ phaseState'.unpaidFortificationCityIds then upkeepCost entry.2
        else 0).sum := by
  have hunpaid : paidUpkeep (unpaidFortifications state playerId player.resources)
      (fortifiedCitiesInUpkeepOrder state playerId) =
        paidUpkeep phaseState'.unpaidFortificationCityIds (fortifiedCitiesInUpkeepOrder state playerId) :=
    paidUpkeep_congr fun entry hentry => (mem_unpaidFortificationCityIds h hplayer hentry).symm
  rw [hunpaid]
  unfold paidUpkeep
  rw [(((fortifiedCities_perm state playerId).filter _).map _).sum_eq, List.filter_filter, List.sum_map_filter_eq,
    List.sum_map_filter_eq]
  congr 1
  apply List.map_congr_left
  intro entry _
  by_cases howner : entry.2.owner = some playerId
  · by_cases hfortified : 0 < entry.2.upgrades.fortification
    · simp [howner, hfortified]
    · simp [hfortified]
  · simp [howner]

theorem total_money_supplied (hvalid : state.FieldsValid) : supplied.total .money =
    state.total .money + playersYield state .money -
      paidUpkeep phaseState'.unpaidFortificationCityIds (fortifiedPlayerCities state) := by
  have hkeys := keys_of_tickFrame (tickFrame_resolveResourcePhase h)
  have hpaid : paidUpkeep phaseState'.unpaidFortificationCityIds (fortifiedPlayerCities state) =
      (state.players.keys.map fun playerId =>
        ((state.cities.entries.filter fun entry => entry.2.owner = some playerId).map fun entry =>
          if 0 < entry.2.upgrades.fortification ∧ entry.1 ∉ phaseState'.unpaidFortificationCityIds then upkeepCost entry.2
          else 0).sum).sum := by
    rw [List.sum_map_sum_filter_eq state.players.keys_nodup fun entry : String × CityState => entry.2.owner]
    unfold paidUpkeep fortifiedPlayerCities playerCities
    rw [List.filter_filter, List.filter_filter, List.sum_map_filter_eq, List.sum_map_filter_eq]
    congr 1
    apply List.map_congr_left
    intro entry _
    by_cases howned : entry.2.owner.any (· ∈ state.players.keys) = true
    · by_cases hfortified : 0 < entry.2.upgrades.fortification
      · simp [howned, hfortified]
      · simp [hfortified]
    · simp [howned]
  rw [total_eq, total_eq, hkeys, ← sum_resourceYield, hpaid, ← List.sum_map_add, ← List.sum_map_sub]
  congr 1
  apply List.map_congr_left
  intro playerId hplayer
  obtain ⟨player, hget⟩ := OrdDict.mem_keys.1 hplayer
  have hmoney := (hvalid.2.2 player (OrdDict.mem_values.2 ⟨playerId, hget⟩)).2.2
  have hyield := resourceYield_nonneg (supplied_of_fieldsValid hvalid).cityResources playerId .money
  rw [balance_resolveResourcePhase h hget, balance_of_get? hget, ← paidUpkeep_eq_sum h hget]
  exact moneyAfterUpkeep_eq (Int.add_nonneg hmoney hyield)

end Resource

/-! ### The tick -/

theorem sum_recruitmentCost_production (orders : List RecruitmentOrder) :
    (orders.map fun order => ((recruitmentCost order).get .production : Int)).sum =
      5 * ((orders.map (·.troops)).sum : Nat) := by
  induction orders with
  | nil => rfl
  | cons order orders ih =>
      rw [List.map_cons, List.sum_cons, ih, List.map_cons, List.sum_cons]
      change ((order.troops * 5 : Nat) : Int) + _ = _
      omega

/-- A tick of a valid state that completes, on accepted orders: the totals of production and money, the queues and the cities. Transfers change no total. -/
theorem resolveTick_ledger {state : MatchState} (hvalid : state.FieldsValid) (submissions : List OrderEnvelope)
    (mapDefinition : Option MapDefinition) {resolution : TickResolutionResult}
    (h : resolveTick state (validateQueuedOrders state submissions) mapDefinition = .ok resolution) :
    (∃ supplied phaseState enqueued,
        resolveResourcePhase state ⟨resolveMapDefinition mapDefinition, [], []⟩ = .ok (supplied, phaseState) ∧
          TickLedger state resolution.nextState (validateQueuedOrders state submissions)
            phaseState.unpaidFortificationCityIds enqueued) ∧
      ∀ (board : MatchState) (transfers : List TransferOrder) (resource : ResourceType),
        (processTransferOrders board transfers).total resource = board.total resource := by
  refine ⟨?_, total_processTransferOrders⟩
  obtain ⟨settled, hsettled, rfl⟩ := resolveTick_eq_ok h
  obtain ⟨supplied, phaseState, hresource, hpurse⟩ := purse_resolveThroughDiplomacy hsettled
  have hcities := (resolveResourcePhase_board hresource).1
  have hkeys := keys_of_tickFrame (tickFrame_resolveResourcePhase hresource)
  have hsettledKeys := keys_of_tickFrame (tickFrame_resolveThroughDiplomacy hsettled)
  have hbuiltKeys := keys_of_tickFrame (tickFrame_resolveBuildPhase supplied (validateQueuedOrders state submissions))
  have hview : ∀ {γ : Type} {g : CityState → γ}, (∀ city upgrades, g { city with upgrades := upgrades } = g city) →
      (∀ city owner, g { city with owner := owner } = g city) →
        cityView g settled = cityView g (resolveBuildPhase supplied (validateQueuedOrders state submissions)) := by
    intro γ g hlevels howner
    obtain ⟨supplied', phaseState', hresource', heq⟩ := cityView_resolveThroughDiplomacy (fun city level => hlevels city _) howner hsettled
    rw [hresource] at hresource'
    cases hresource'
    exact heq
  have hbase : ∀ {γ : Type} {g : CityState → γ}, (∀ city upgrades, g { city with upgrades := upgrades } = g city) →
      (∀ city owner, g { city with owner := owner } = g city) →
      (∀ city queue, g { city with buildingQueue := queue } = g city) → cityView g settled = cityView g state := by
    intro γ g hlevels howner hqueue
    rw [hview hlevels howner, cityView_resolveBuildPhase hqueue, ← cityView_congr hcities]
    apply cityView_mapVals
    intro _ city
    have hadvanced := hqueue { city with upgrades := (advanceBuildQueue city).upgrades }
      (advanceBuildQueue city).buildingQueue
    exact hadvanced.trans (hlevels city _)
  have htotal : ∀ resource, settled.total resource =
      (resolveBuildPhase supplied (validateQueuedOrders state submissions)).total resource := by
    intro resource
    rw [total_eq, total_eq, hsettledKeys, hbuiltKeys, hkeys]
    congr 1
    apply List.map_congr_left
    exact fun playerId _ => congrFun (congrFun (congrArg Prod.fst hpurse) playerId) resource
  have hbuilt := total_built submissions hcities hkeys
  refine ⟨supplied, phaseState, (startedOrders state (validateQueuedOrders state submissions)).upgrades, hresource, ?_⟩
  refine ⟨?_, ?_, List.filter_sublist, ?_, ?_, ?_⟩
  · change settled.total .production = _
    rw [htotal, hbuilt, total_production_supplied hresource, sum_recruitmentCost_production]
    rfl
  · change settled.total .money = _
    have hrecruits : ((validateQueuedOrders state submissions).recruitment.map fun order =>
        ((recruitmentCost order).get .money : Int)).sum = 0 := by
      simp [recruitmentCost, ResourceCost.get]
    have hupgrades : ((startedOrders state (validateQueuedOrders state submissions)).upgrades.map fun order =>
        ((upgradeCost order).get .money : Int)).sum = 0 := by
      simp [upgradeCost_get]
    rw [htotal, hbuilt, total_money_supplied hresource hvalid, hrecruits, hupgrades, sub_zero, sub_zero]
  · intro cityId
    have hqueue := congrFun (hview (g := CityState.buildingQueue) (fun _ _ => rfl) fun _ _ => rfl) cityId
    change buildingQueueOf settled cityId = _
    rw [← buildingQueueOf_built hcities hkeys submissions]
    exact congrArg (fun queue => queue.getD []) hqueue
  · exact hbase (fun _ _ => rfl) (fun _ _ => rfl) fun _ _ => rfl
  · intro upgrades
    exact hbase (fun _ _ => rfl) (fun _ _ => rfl) fun _ _ => rfl

/-- One player of the duel raises a troop and sends money to itself, the other starts an upgrade. -/
def duelSpending : List OrderEnvelope :=
  [{ matchId := "duel"
     playerId := "p1"
     tick := 0
     orders :=
      { OrderBatch.empty with
        recruitment := [⟨"london", 1, Nat.one_pos⟩]
        transfers := [⟨none, "p1", .money, 2, Nat.two_pos⟩] } },
    { matchId := "duel"
      playerId := "p2"
      tick := 0
      orders := { OrderBatch.empty with upgrades := [⟨"southampton", .economy, .trenches⟩] } }]

theorem resolveTick_ledger_duelSpending :
    ∃ resolution, resolveTick duelState (validateQueuedOrders duelState duelSpending) none = .ok resolution ∧
      ((∃ supplied phaseState enqueued,
          resolveResourcePhase duelState ⟨resolveMapDefinition none, [], []⟩ = .ok (supplied, phaseState) ∧
            TickLedger duelState resolution.nextState (validateQueuedOrders duelState duelSpending)
              phaseState.unpaidFortificationCityIds enqueued) ∧
        ∀ (board : MatchState) (transfers : List TransferOrder) (resource : ResourceType),
          (processTransferOrders board transfers).total resource = board.total resource) ∧
      resolution.nextState.total .production = duelState.total .production + 6 - 5 - 7 := by
  have hproduction : (resolveTick duelState (validateQueuedOrders duelState duelSpending) none).toOption.map
      (fun resolution => resolution.nextState.total .production) =
        some (duelState.total .production + 6 - 5 - 7) := by decide +kernel
  obtain ⟨resolution, hresolution, htotal⟩ := Option.map_eq_some_iff.1 hproduction
  have hok := eq_ok_of_toOption hresolution
  exact ⟨resolution, hok, resolveTick_ledger (by decide) duelSpending none hok, htotal⟩

end IronCouncil
