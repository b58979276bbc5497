import IronCouncil.Models.OrdersJson
import IronCouncil.Proof.Ledger

/-!
# Replaying the tick log

The orders of the tick log come back without the senders of the transfers, and a transfer without a sender moves nothing. So the replayed tick goes through the same states as the logged one up to the transfers of the build phase, and it ends in the same state exactly when those transfers left every player with what the player had.
-/

namespace IronCouncil

/-! ### Transfers without senders -/

theorem processTransferOrders_withoutSender (state : MatchState) (orders : List TransferOrder) :
    processTransferOrders state (orders.map TransferOrder.withoutSender) = state := by
  unfold processTransferOrders
  induction orders with
  | nil => rfl
  | cons order orders ih => exact ih

/-- The build phase up to the transfers, and then the transfers. -/
theorem resolveBuildPhase_eq (state : MatchState) (orders : OrderBatch) :
    resolveBuildPhase state orders =
      processTransferOrders (resolveBuildPhase state orders.withoutSenders) orders.transfers := by
  have hbuilt : resolveBuildPhase state orders.withoutSenders =
      startUpgradeOrders (queuedTracksAtPhaseStart state)
        (processRecruitmentOrders (advanceBuildQueues state) orders.recruitment) orders.upgrades :=
    processTransferOrders_withoutSender _ orders.transfers
  rw [hbuilt]
  rfl

/-! ### Transfers that cancel -/

/-- A state but for the resources of its players. -/
def unfunded (state : MatchState) : MatchState :=
  { state with players := state.players.mapVals fun _ player => { player with resources := ⟨0, 0, 0⟩ } }

theorem unfunded_credit (state : MatchState) (playerId : String) (resource : ResourceType) (amount : Int) :
    unfunded (state.credit playerId resource amount) = unfunded state := by
  have hplayers : ((state.players.modify playerId fun player =>
      { player with resources := player.resources.add resource amount }).mapVals
        fun _ player => { player with resources := ⟨0, 0, 0⟩ }) =
      state.players.mapVals fun _ player => { player with resources := ⟨0, 0, 0⟩ } := by
    apply OrdDict.ext_get?
    · simp
    · intro key
      rw [OrdDict.get?_mapVals, OrdDict.get?_mapVals, OrdDict.get?_modify]
      split
      · cases state.players.get? key <;> rfl
      · rfl
  unfold unfunded MatchState.credit MatchState.modifyPlayer
  rw [hplayers]

theorem unfunded_processTransferOrders (state : MatchState) (orders : List TransferOrder) :
    unfunded (processTransferOrders state orders) = unfunded state := by
  have hstep : ∀ (board : MatchState) (order : TransferOrder),
      unfunded (processTransferOrder board order) = unfunded board := by
    intro board order
    unfold processTransferOrder
    split
    · rfl
    · rw [unfunded_credit, unfunded_credit]
  exact Run.frame_foldl hstep state orders

/-- A state is its unfunded part together with the balances. -/
theorem ext_unfunded {state state' : MatchState} (h : unfunded state' = unfunded state)
    (hbalance : ∀ playerId ∈ state.players.keys, ∀ resource,
      state'.balance playerId resource = state.balance playerId resource) : state' = state := by
  have hplayers : state'.players.mapVals (fun _ player => { player with resources := ⟨0, 0, 0⟩ }) =
      state.players.mapVals fun _ player => { player with resources := ⟨0, 0, 0⟩ } := congrArg MatchState.players h
  have hkeys : state'.players.keys = state.players.keys := by simpa using congrArg OrdDict.keys hplayers
  have heq : state'.players = state.players := by
    apply OrdDict.ext_get? hkeys
    intro playerId
    cases hget : state.players.get? playerId with
    | none => rwa [OrdDict.get?_eq_none, hkeys, ← OrdDict.get?_eq_none]
    | some player =>
        have hmem := OrdDict.mem_keys_of_get? hget
        obtain ⟨player', hget'⟩ := OrdDict.mem_keys.1 (hkeys ▸ hmem)
        have hresources : player'.resources = player.resources := by
          apply ResourceState.ext_get
          intro resource
          rw [← balance_of_get? hget', ← balance_of_get? hget]
          exact hbalance playerId hmem resource
        have hrest := congrArg (OrdDict.get? · playerId) hplayers
        simp only [OrdDict.get?_mapVals, hget, hget', Option.map_some, Option.some.injEq, PlayerState.mk.injEq] at hrest
        obtain ⟨-, hcities, halliance, heliminated⟩ := hrest
        obtain ⟨resources, citiesOwned, allianceId, isEliminated⟩ := player
        obtain ⟨resources', citiesOwned', allianceId', isEliminated'⟩ := player'
        simp only at hresources hcities halliance heliminated
        rw [hget', hresources, hcities, halliance, heliminated]
  obtain ⟨tick, cities, armies, players, victory⟩ := state
  obtain ⟨tick', cities', armies', players', victory'⟩ := state'
  have htick : tick' = tick := congrArg MatchState.tick h
  have hcities : cities' = cities := congrArg MatchState.cities h
  have harmies : armies' = armies := congrArg MatchState.armies h
  have hvictory : victory' = victory := congrArg MatchState.victory h
  rw [htick, hcities, harmies, hvictory, show players' = players from heq]

theorem transferGain_of_not_mem {state : MatchState} {playerId : String} (h : playerId ∉ state.players.keys)
    (resource : ResourceType) (order : TransferOrder) :
    transferGain (transferSender state) playerId resource order = 0 := by
  unfold transferGain
  split
  · rfl
  · rename_i sender hsender
    obtain ⟨-, hparties⟩ := Option.filter_eq_some_iff.1 hsender
    obtain ⟨hmem, hrecipient⟩ := of_decide_eq_true hparties
    have hnotRecipient : playerId ≠ order.recipientId := fun heq => h (heq ▸ hrecipient)
    have hnotSender : playerId ≠ sender := fun heq => h (heq ▸ hmem)
    simp [hnotRecipient, hnotSender]

/-- Transfers leave a state alone exactly when they leave every balance alone. -/
theorem processTransferOrders_eq_self_iff (state : MatchState) (orders : List TransferOrder) :
    processTransferOrders state orders = state ↔
      ∀ playerId resource, (orders.map (transferGain (transferSender state) playerId resource)).sum = 0 := by
  constructor
  · intro h playerId resource
    by_cases hplayer : playerId ∈ state.players.keys
    · have hbalance := balance_processTransferOrders hplayer resource orders
      rw [h] at hbalance
      omega
    · rw [List.map_congr_left fun order _ => transferGain_of_not_mem hplayer resource order]
      simp
  · intro h
    apply ext_unfunded (unfunded_processTransferOrders state orders)
    intro playerId hplayer resource
    rw [balance_processTransferOrders hplayer resource orders, h playerId resource, add_zero]

/-- What the transfers in a batch take from a player. -/
def sent (playerId : String) (resource : ResourceType) (orders : OrderBatch) : Int :=
  (orders.transfers.map fun order =>
    if order.sender = some playerId ∧ order.resource = resource then (order.amount : Int) else 0).sum

/-- The transfers bring every player what they take. -/
def TransfersCancel (orders : OrderBatch) : Prop :=
  ∀ playerId resource, received playerId resource orders = sent playerId resource orders

theorem sum_transferGain_accepted {state built : MatchState} (hkeys : built.players.keys = state.players.keys)
    (submissions : List OrderEnvelope) (playerId : String) (resource : ResourceType) :
    ((validateQueuedOrders state submissions).transfers.map
        (transferGain (transferSender built) playerId resource)).sum =
      received playerId resource (validateQueuedOrders state submissions) -
        sent playerId resource (validateQueuedOrders state submissions) := by
  have hcost : ∀ order : TransferOrder,
      (if order.sender = some playerId then ((transferCost order).get resource : Int) else 0) =
        if order.sender = some playerId ∧ order.resource = resource then (order.amount : Int) else 0 := by
    intro order
    unfold transferCost
    cases resource <;> cases order.resource <;> simp [ResourceCost.get]
  rw [sum_transferGain playerId resource hkeys]
  · unfold received sent
    simp only [hcost]
  · intro order horder
    rw [validateQueuedOrders_transfers] at horder
    obtain ⟨submission, -, haccepted⟩ := List.mem_flatMap.1 horder
    obtain ⟨hsender, hmem, hrecipient⟩ := accepted_transfer haccepted
    exact ⟨⟨submission.playerId, hmem, hsender⟩, hrecipient⟩

/-- On accepted orders the build phase is the one without senders exactly when the transfers cancel. -/
theorem resolveBuildPhase_withoutSenders_iff {state supplied : MatchState}
    (hkeys : supplied.players.keys = state.players.keys) (submissions : List OrderEnvelope) :
    resolveBuildPhase supplied (validateQueuedOrders state submissions) =
        resolveBuildPhase supplied (validateQueuedOrders state submissions).withoutSenders ↔
      TransfersCancel (validateQueuedOrders state submissions) := by
  have hbuilt := keys_of_tickFrame
    (tickFrame_resolveBuildPhase supplied (validateQueuedOrders state submissions).withoutSenders)
  rw [resolveBuildPhase_eq supplied (validateQueuedOrders state submissions), processTransferOrders_eq_self_iff]
  simp only [sum_transferGain_accepted (hbuilt.trans hkeys)]
  constructor
  · intro h playerId resource
    have hgain := h playerId resource
    omega
  · intro h playerId resource
    have hgain := h playerId resource
    omega

/-! ### The replayed tick -/

/-- A tick reads the build phase's outcome and the movements, nothing else of the orders. -/
theorem resolveThroughDiplomacy_congr {state supplied : MatchState} {orders orders' : OrderBatch}
    {mapDefinition : MapDefinition} {phaseState : ResolverPhaseState}
    (hresource : resolveResourcePhase state ⟨mapDefinition, [], []⟩ = .ok (supplied, phaseState))
    (hbuilt : resolveBuildPhase supplied orders' = resolveBuildPhase supplied orders)
    (hmovements : orders'.movements = orders.movements) :
    resolveThroughDiplomacy state orders' mapDefinition = resolveThroughDiplomacy state orders mapDefinition := by
  have hmoved : ∀ board, resolveMovementPhase mapDefinition board orders' =
      resolveMovementPhase mapDefinition board orders := by
    intro board
    unfold resolveMovementPhase
    rw [hmovements]
  unfold resolveThroughDiplomacy resolveThroughSiege
  simp only [hresource, hbuilt, hmoved]

/-- Two ticks from one state that end alike built alike, as far as balances go. -/
theorem balance_built_of_settled {state supplied settled : MatchState} {orders orders' : OrderBatch}
    {mapDefinition : MapDefinition} {phaseState : ResolverPhaseState}
    (hresource : resolveResourcePhase state ⟨mapDefinition, [], []⟩ = .ok (supplied, phaseState))
    (h : resolveThroughDiplomacy state orders mapDefinition = .ok settled)
    {settled' : MatchState} (h' : resolveThroughDiplomacy state orders' mapDefinition = .ok settled')
    (hbalance : settled'.balance = settled.balance) :
    (resolveBuildPhase supplied orders').balance = (resolveBuildPhase supplied orders).balance := by
  obtain ⟨supplied₁, phaseState₁, hresource₁, hpurse⟩ := purse_resolveThroughDiplomacy h
  obtain ⟨supplied₂, phaseState₂, hresource₂, hpurse'⟩ := purse_resolveThroughDiplomacy h'
  rw [hresource] at hresource₁ hresource₂
  cases hresource₁
  cases hresource₂
  exact (congrArg Prod.fst hpurse').symm.trans (hbalance.trans (congrArg Prod.fst hpurse))

/-- The orders of a tick's log decode to the accepted orders without the senders of the transfers. Resolving them from the same state gives the same next state exactly when the tick's transfers cancel out for every player. -/
theorem replayed_nextState_iff (state : MatchState) (submissions : List OrderEnvelope)
    (mapDefinition : Option MapDefinition) {result : TickResolutionResult}
    (h : resolveTick state (validateQueuedOrders state submissions) mapDefinition = .ok result) :
    ∃ replayed, OrderBatch.modelValidate (validateQueuedOrders state submissions).modelDump = some replayed ∧
      replayed = (validateQueuedOrders state submissions).withoutSenders ∧
      ((∃ result', resolveTick state replayed mapDefinition = .ok result' ∧ result'.nextState = result.nextState) ↔
        TransfersCancel (validateQueuedOrders state submissions)) := by
  refine ⟨_, OrderBatch.modelValidate_modelDump _, rfl, ?_⟩
  obtain ⟨settled, hsettled, rfl⟩ := resolveTick_eq_ok h
  obtain ⟨supplied, phaseState, hresource, -⟩ := purse_resolveThroughDiplomacy hsettled
  have hkeys := keys_of_tickFrame (tickFrame_resolveResourcePhase hresource)
  have hiff := resolveBuildPhase_withoutSenders_iff hkeys submissions
  constructor
  · rintro ⟨result', hreplayed, hnext⟩
    obtain ⟨settled', hsettled', rfl⟩ := resolveTick_eq_ok hreplayed
    have hboard : resolveVictoryPhase settled' = resolveVictoryPhase settled := hnext
    have hbalance := congrArg MatchState.balance hboard
    have hbuilt := balance_built_of_settled hresource hsettled hsettled' hbalance
    rw [← hiff]
    apply ext_unfunded
    · rw [resolveBuildPhase_eq supplied (validateQueuedOrders state submissions), unfunded_processTransferOrders]
    · intro playerId _ resource
      rw [hbuilt]
  · intro hcancel
    refine ⟨_, ?_, rfl⟩
    have hsame := resolveThroughDiplomacy_congr hresource (hiff.2 hcancel).symm rfl
    unfold resolveTick at h ⊢
    rw [hsame]
    exact h

/-- In the duel, the first player sends a unit of food to the second. -/
def duelGift : OrderEnvelope where
  matchId := "duel"
  playerId := "p1"
  tick := 0
  orders := { OrderBatch.empty with transfers := [⟨none, "p2", .food, 1, Nat.one_pos⟩] }

theorem replayed_nextState_iff_duel :
    ∃ result, resolveTick duelState (validateQueuedOrders duelState [duelGift]) none = .ok result ∧
      ∃ replayed, OrderBatch.modelValidate (validateQueuedOrders duelState [duelGift]).modelDump = some replayed ∧
        replayed = (validateQueuedOrders duelState [duelGift]).withoutSenders ∧
        ((∃ result', resolveTick duelState replayed none = .ok result' ∧ result'.nextState = result.nextState) ↔
          TransfersCancel (validateQueuedOrders duelState [duelGift])) := by
  have hcompletes : (resolveTick duelState (validateQueuedOrders duelState [duelGift]) none).isOk := by decide +kernel
  obtain ⟨result, hresult⟩ : ∃ result, resolveTick duelState (validateQueuedOrders duelState [duelGift]) none =
      .ok result := by
    cases hresult : resolveTick duelState (validateQueuedOrders duelState [duelGift]) none with
    | error error =>
        rw [hresult] at hcompletes
        cases hcompletes
    | ok result => exact ⟨result, rfl⟩
  exact ⟨result, hresult, replayed_nextState_iff duelState [duelGift] none hresult⟩

/-- The replayed gift does not arrive. -/
theorem not_replayed_nextState :
    ¬ ∀ (state : MatchState) (submissions : List OrderEnvelope), ∃ replayed,
      OrderBatch.modelValidate (validateQueuedOrders state submissions).modelDump = some replayed ∧
        (resolveTick state replayed none).map (·.nextState) =
          (resolveTick state (validateQueuedOrders state submissions) none).map (·.nextState) := by
  intro h
  obtain ⟨replayed, hreplayed, hsame⟩ := h duelState [duelGift]
  rw [OrderBatch.modelValidate_modelDump] at hreplayed
  cases hreplayed
  exact absurd hsame (by decide +kernel)

end IronCouncil
