import IronCouncil.Registry.Commands
import IronCouncil.Resolver.Frames
import Mathlib.Algebra.Order.BigOperators.Group.List
import Mathlib.Tactic.Ring

/-!
# The ledger of a tick

What the build phase does to a player's resources, as sums over the orders of the batch, and what the validator promises about those sums: the accepted orders of a player cost no more than the player had before the tick.
-/

namespace IronCouncil

/-! ### Balances -/

def MatchState.balance (state : MatchState) (playerId : String) (resource : ResourceType) : Int :=
  ((state.players.get? playerId).map fun player => player.resources.get resource).getD 0

theorem balance_of_get? {state : MatchState} {playerId : String} {player : PlayerState}
    (h : state.players.get? playerId = some player) (resource : ResourceType) :
    state.balance playerId resource = player.resources.get resource := by
  unfold MatchState.balance
  rw [h]
  rfl

theorem balance_credit {state : MatchState} {playerId : String} (hplayer : playerId ∈ state.players.keys)
    (credited : String) (resource posted : ResourceType) (amount : Int) :
    (state.credit credited posted amount).balance playerId resource =
      state.balance playerId resource + if playerId = credited ∧ resource = posted then amount else 0 := by
  obtain ⟨player, hget⟩ := OrdDict.mem_keys.1 hplayer
  have hcredited : (state.credit credited posted amount).players.get? playerId =
      some (if playerId = credited then { player with resources := player.resources.add posted amount } else player) := by
    unfold MatchState.credit MatchState.modifyPlayer
    rw [OrdDict.get?_modify, hget]
    split <;> rfl
  rw [balance_of_get? hcredited, balance_of_get? hget]
  by_cases hkey : playerId = credited
  · rw [if_pos hkey]
    simp only [hkey, true_and]
    exact ResourceState.get_add player.resources resource posted amount
  · simp [hkey]

/-! ### The build phase -/

def ResourceCost.get (cost : ResourceCost) : ResourceType → Nat
  | .food => cost.food
  | .production => cost.production
  | .money => cost.money

section Build

variable {state : MatchState} {playerId : String}

theorem payingOwner_eq_some {state : MatchState} {cityId owner : String} :
    payingOwner state cityId = some owner ↔ state.cityOwner cityId = some owner ∧ owner ∈ state.players.keys := by
  unfold payingOwner
  cases state.cityOwner cityId with
  | none => simp
  | some cityOwner =>
      simp only [Option.ite_none_right_eq_some, Option.some.injEq]
      constructor
      · rintro ⟨hmem, rfl⟩
        exact ⟨rfl, hmem⟩
      · rintro ⟨rfl, hmem⟩
        exact ⟨hmem, rfl⟩

/-- What a recruitment order takes from a player. -/
def recruitmentDebit (payer : String → Option String) (playerId : String) (resource : ResourceType)
    (order : RecruitmentOrder) : Int :=
  if payer order.city = some playerId then (recruitmentCost order).get resource else 0

def upgradeDebit (payer : UpgradeOrder → Option String) (playerId : String) (resource : ResourceType)
    (order : UpgradeOrder) : Int :=
  if payer order = some playerId then (upgradeCost order).get resource else 0

/-- What a transfer brings a player, less what it takes. -/
def transferGain (sender : TransferOrder → Option String) (playerId : String) (resource : ResourceType)
    (order : TransferOrder) : Int :=
  match sender order with
  | none => 0
  | some sender =>
      (if playerId = order.recipientId ∧ resource = order.resource then (order.amount : Int) else 0) -
        if playerId = sender ∧ resource = order.resource then (order.amount : Int) else 0

theorem balance_musterTroops (state : MatchState) (owner : String) (order : RecruitmentOrder) (playerId : String)
    (resource : ResourceType) : (musterTroops state owner order).balance playerId resource =
      state.balance playerId resource := by
  unfold musterTroops
  split <;> rfl

theorem payingOwner_processRecruitmentOrder (state : MatchState) (order : RecruitmentOrder) :
    payingOwner (processRecruitmentOrder state order) = payingOwner state ∧
      (processRecruitmentOrder state order).players.keys = state.players.keys := by
  have hmuster : ∀ (board : MatchState) (owner : String),
      payingOwner (musterTroops board owner order) = payingOwner board ∧
        (musterTroops board owner order).players.keys = board.players.keys := by
    intro board owner
    unfold musterTroops
    split <;> exact ⟨rfl, rfl⟩
  unfold processRecruitmentOrder
  split
  · exact ⟨rfl, rfl⟩
  · simp only [hmuster, payingOwner_credit, MatchState.credit_keys, and_self]

theorem balance_processRecruitmentOrder (hplayer : playerId ∈ state.players.keys) (resource : ResourceType)
    (order : RecruitmentOrder) :
    (processRecruitmentOrder state order).balance playerId resource =
      state.balance playerId resource + -recruitmentDebit (payingOwner state) playerId resource order := by
  unfold processRecruitmentOrder recruitmentDebit
  split
  · rename_i hnone
    simp [hnone]
  · rename_i owner hpayer
    simp only
    rw [balance_musterTroops, balance_credit (by rwa [MatchState.credit_keys]), balance_credit hplayer, hpayer]
    by_cases hown : owner = playerId
    · cases resource <;> simp [hown, recruitmentCost, ResourceCost.get]
    · simp [hown, Ne.symm hown]

theorem balance_processRecruitmentOrders (hplayer : playerId ∈ state.players.keys) (resource : ResourceType)
    (orders : List RecruitmentOrder) :
    (processRecruitmentOrders state orders).balance playerId resource =
        state.balance playerId resource +
          -(orders.map (recruitmentDebit (payingOwner state) playerId resource)).sum ∧
      payingOwner (processRecruitmentOrders state orders) = payingOwner state ∧
      (processRecruitmentOrders state orders).players.keys = state.players.keys := by
  have hframe : ∀ (board : MatchState) (order : RecruitmentOrder),
      payingOwner board = payingOwner state ∧ board.players.keys = state.players.keys →
      payingOwner (processRecruitmentOrder board order) = payingOwner state ∧
        (processRecruitmentOrder board order).players.keys = state.players.keys := by
    rintro board order ⟨hpayer, hkeys⟩
    obtain ⟨hpayer', hkeys'⟩ := payingOwner_processRecruitmentOrder board order
    exact ⟨hpayer'.trans hpayer, hkeys'.trans hkeys⟩
  unfold processRecruitmentOrders
  refine ⟨?_, Run.invariant_foldl hframe ⟨rfl, rfl⟩ _⟩
  rw [Run.sum_foldl (g := fun board : MatchState => board.balance playerId resource)
    (d := fun order => -recruitmentDebit (payingOwner state) playerId resource order)
    (fun board order hboard => ⟨hframe board order hboard, ?_⟩) ⟨rfl, rfl⟩]
  · rw [((List.perm_insertionSort _ orders).map _).sum_eq, List.sum_neg, List.map_map]
    rfl
  · rw [balance_processRecruitmentOrder (by rwa [hboard.2]), hboard.1]

theorem keys_startUpgradeOrder (queuedTracks : String → List UpgradeTrack) (state : MatchState) (order : UpgradeOrder) :
    (startUpgradeOrder queuedTracks state order).players.keys = state.players.keys := by
  unfold startUpgradeOrder
  split
  · rfl
  · rw [enqueueUpgrade_players, MatchState.credit_keys]

/-- Upgrades cost production only. -/
theorem upgradeCost_get (order : UpgradeOrder) (resource : ResourceType) :
    (upgradeCost order).get resource = if resource = .production then (upgradeCost order).production else 0 := by
  unfold upgradeCost
  cases resource <;> cases order.track <;> cases order.targetTier <;> rfl

theorem balance_startUpgradeOrder (hplayer : playerId ∈ state.players.keys) (resource : ResourceType)
    (queuedTracks : String → List UpgradeTrack) (order : UpgradeOrder) :
    (startUpgradeOrder queuedTracks state order).balance playerId resource =
      state.balance playerId resource + -upgradeDebit (upgradePayer queuedTracks state) playerId resource order := by
  unfold startUpgradeOrder upgradeDebit
  split
  · rename_i hnone
    simp [hnone]
  · rename_i owner hpayer
    have hcredit := balance_credit hplayer owner resource .production
      (-((upgradeCosts order.track order.targetTier).production : Nat))
    rw [hpayer, upgradeCost_get]
    change (state.credit owner .production _).balance playerId resource = _
    rw [hcredit]
    by_cases hown : owner = playerId
    · by_cases hresource : resource = .production
      · simp [hown, hresource, upgradeCost]
      · simp [hown, hresource]
    · simp [hown, Ne.symm hown]

theorem balance_startUpgradeOrders (hplayer : playerId ∈ state.players.keys) (resource : ResourceType)
    (queuedTracks : String → List UpgradeTrack) (orders : List UpgradeOrder) :
    (startUpgradeOrders queuedTracks state orders).balance playerId resource =
        state.balance playerId resource +
          -(orders.map (upgradeDebit (upgradePayer queuedTracks state) playerId resource)).sum ∧
      (startUpgradeOrders queuedTracks state orders).players.keys = state.players.keys := by
  have hframe : ∀ (board : MatchState) (order : UpgradeOrder),
      upgradePayer queuedTracks board = upgradePayer queuedTracks state ∧ board.players.keys = state.players.keys →
      upgradePayer queuedTracks (startUpgradeOrder queuedTracks board order) = upgradePayer queuedTracks state ∧
        (startUpgradeOrder queuedTracks board order).players.keys = state.players.keys := by
    rintro board order ⟨hpayer, hkeys⟩
    exact ⟨(upgradePayer_startUpgradeOrder queuedTracks board order).trans hpayer,
      (keys_startUpgradeOrder queuedTracks board order).trans hkeys⟩
  unfold startUpgradeOrders
  refine ⟨?_, (Run.invariant_foldl hframe ⟨rfl, rfl⟩ orders).2⟩
  rw [Run.sum_foldl (g := fun board : MatchState => board.balance playerId resource)
    (d := fun order => -upgradeDebit (upgradePayer queuedTracks state) playerId resource order)
    (fun board order hboard => ⟨hframe board order hboard, ?_⟩) ⟨rfl, rfl⟩]
  · rw [List.sum_neg, List.map_map]
    rfl
  · rw [balance_startUpgradeOrder (by rwa [hboard.2]), hboard.1]

theorem balance_processTransferOrder (hplayer : playerId ∈ state.players.keys) (resource : ResourceType)
    (order : TransferOrder) :
    (processTransferOrder state order).balance playerId resource =
      state.balance playerId resource + transferGain (transferSender state) playerId resource order := by
  unfold processTransferOrder transferGain
  cases transferSender state order with
  | none => exact (add_zero _).symm
  | some sender =>
      simp only
      rw [balance_credit (by rwa [MatchState.credit_keys]), balance_credit hplayer]
      split <;> split <;> omega

theorem balance_processTransferOrders (hplayer : playerId ∈ state.players.keys) (resource : ResourceType)
    (orders : List TransferOrder) :
    (processTransferOrders state orders).balance playerId resource =
      state.balance playerId resource + (orders.map (transferGain (transferSender state) playerId resource)).sum := by
  unfold processTransferOrders
  apply Run.sum_foldl (g := fun board : MatchState => board.balance playerId resource)
    (I := fun board : MatchState => transferSender board = transferSender state ∧
      board.players.keys = state.players.keys) _ ⟨rfl, rfl⟩
  rintro board order ⟨hsender, hkeys⟩
  refine ⟨⟨(transferSender_processTransferOrder board order).trans hsender,
    (keys_processTransferOrder board order).trans hkeys⟩, ?_⟩
  rw [balance_processTransferOrder (by rwa [hkeys]), hsender]

theorem upgradePayer_congr {state state' : MatchState} (h : payingOwner state' = payingOwner state)
    (queuedTracks : String → List UpgradeTrack) : upgradePayer queuedTracks state' = upgradePayer queuedTracks state := by
  funext order
  unfold upgradePayer
  rw [h]

theorem transferSender_congr {state state' : MatchState} (h : state'.players.keys = state.players.keys) :
    transferSender state' = transferSender state := by
  funext order
  unfold transferSender
  rw [h]

theorem payingOwner_advanceBuildQueues (state : MatchState) :
    payingOwner (advanceBuildQueues state) = payingOwner state :=
  payingOwner_congr (MatchState.cityOwner_mapVals fun _ _ => rfl) rfl

/-- The balance after the build phase: what the player had, less the recruits and upgrades, with the transfers. -/
theorem balance_resolveBuildPhase (hplayer : playerId ∈ state.players.keys) (resource : ResourceType)
    (orders : OrderBatch) :
    (resolveBuildPhase state orders).balance playerId resource =
      state.balance playerId resource -
        (orders.recruitment.map (recruitmentDebit (payingOwner state) playerId resource)).sum -
        (orders.upgrades.map
          (upgradeDebit (upgradePayer (queuedTracksAtPhaseStart state) state) playerId resource)).sum +
        (orders.transfers.map (transferGain (transferSender state) playerId resource)).sum := by
  have hadvanced : playerId ∈ (advanceBuildQueues state).players.keys := hplayer
  obtain ⟨hrecruited, hpayer, hkeys⟩ := balance_processRecruitmentOrders hadvanced resource orders.recruitment
  obtain ⟨hupgraded, hkeys'⟩ := balance_startUpgradeOrders (by rwa [hkeys]) resource
    (queuedTracksAtPhaseStart state) orders.upgrades
  have htransferred := balance_processTransferOrders (by rwa [hkeys', hkeys]) resource orders.transfers
  have hstart : (advanceBuildQueues state).balance playerId resource = state.balance playerId resource := rfl
  have hpayer' := hpayer.trans (payingOwner_advanceBuildQueues state)
  rw [transferSender_congr (hkeys'.trans hkeys)] at htransferred
  rw [upgradePayer_congr hpayer'] at hupgraded
  rw [payingOwner_advanceBuildQueues] at hrecruited
  change (processTransferOrders _ orders.transfers).balance playerId resource = _
  rw [htransferred, hupgraded, hrecruited, hstart]
  change _ + -_ + -_ + (orders.transfers.map (transferGain (transferSender state) playerId resource)).sum = _
  ring

end Build

/-! ### Budgets -/

theorem spendBudget_get (budget : ResourceState) (cost : ResourceCost) (resource : ResourceType) :
    (spendBudget budget cost).get resource = budget.get resource - cost.get resource := by
  cases resource <;> rfl

theorem canAfford_get {budget : ResourceState} {cost : ResourceCost} (h : canAfford budget cost)
    (resource : ResourceType) : (cost.get resource : Int) ≤ budget.get resource := by
  cases resource
  exacts [h.1, h.2.1, h.2.2]

/-- A loop that checks each order against its budget accepts orders that the budget covers. -/
theorem validateEach_spends {σ α : Type} {check : σ → Nat → α → Except RejectedOrder σ} {g : σ → Int}
    {c : α → Int}
    (hcheck : ∀ before index order after, check before index order = .ok after →
      c order ≤ g before ∧ g after = g before - c order)
    (orders : List α) (index : Nat) (loopState : σ) (hstart : 0 ≤ g loopState) :
    0 ≤ g (validateEach check index loopState orders).2.2 ∧
      g (validateEach check index loopState orders).2.2 =
        g loopState - ((validateEach check index loopState orders).1.map c).sum := by
  induction orders generalizing index loopState with
  | nil =>
      unfold validateEach
      simpa using hstart
  | cons order orders ih =>
      unfold validateEach
      split
      · exact ih (index + 1) loopState hstart
      · rename_i next hok
        obtain ⟨hafford, hspent⟩ := hcheck _ _ _ _ hok
        obtain ⟨hleft, hsum⟩ := ih (index + 1) next (by omega)
        refine ⟨hleft, ?_⟩
        show g (validateEach check (index + 1) next orders).2.2 = _
        rw [hsum, hspent, List.map_cons, List.sum_cons]
        omega

section Accepted

variable {state : MatchState} {envelope : OrderEnvelope} {resource : ResourceType}

theorem check_recruitment_spends (state : MatchState) (playerId : String) (resource : ResourceType)
    (before : ResourceState) (index : Nat) (order : RecruitmentOrder) (after : ResourceState)
    (h : validateRecruitmentOrder state playerId before index order = .ok after) :
    ((recruitmentCost order).get resource : Int) ≤ before.get resource ∧
      after.get resource = before.get resource - (recruitmentCost order).get resource := by
  obtain ⟨city, -, -, hafford, rfl⟩ := validateRecruitmentOrder_eq_ok h
  exact ⟨canAfford_get hafford resource, spendBudget_get before _ resource⟩

theorem check_upgrade_spends (state : MatchState) (playerId : String) (resource : ResourceType)
    (before : ResourceState × List (String × UpgradeTrack)) (index : Nat) (order : UpgradeOrder)
    (after : ResourceState × List (String × UpgradeTrack))
    (h : checkUpgrade state playerId before index order = .ok after) :
    ((upgradeCost order).get resource : Int) ≤ before.1.get resource ∧
      after.1.get resource = before.1.get resource - (upgradeCost order).get resource := by
  obtain ⟨city, -, -, -, hafford, hspent⟩ := validateUpgradeOrder_eq_ok (checkUpgrade_eq_ok h).2.1
  rw [hspent]
  exact ⟨canAfford_get hafford resource, spendBudget_get before.1 _ resource⟩

theorem check_transfer_spends (state : MatchState) (landAdjacency : OrdDict String (List String)) (playerId : String)
    (sender : PlayerState) (resource : ResourceType) (before : ResourceState) (index : Nat) (order : TransferOrder)
    (after : ResourceState)
    (h : validateTransferOrder state landAdjacency playerId sender before index order = .ok after) :
    ((transferCost order).get resource : Int) ≤ before.get resource ∧
      after.get resource = before.get resource - (transferCost order).get resource := by
  obtain ⟨-, hafford, rfl⟩ := validateTransferOrder_eq_ok h
  exact ⟨canAfford_get hafford resource, spendBudget_get before _ resource⟩

/-- What the accepted orders of a batch cost, in one resource. -/
def batchCost (resource : ResourceType) (orders : OrderBatch) : Int :=
  (orders.recruitment.map fun order => ((recruitmentCost order).get resource : Int)).sum +
    (orders.upgrades.map fun order => ((upgradeCost order).get resource : Int)).sum +
    (orders.transfers.map fun order => ((transferCost order).get resource : Int)).sum

/-- The accepted orders of an envelope cost no more than the player has. -/
theorem batchCost_accepted_le {mapDefinition : MapDefinition} (hbalance : 0 ≤ state.balance envelope.playerId resource) :
    batchCost resource (validateOrderEnvelope envelope state mapDefinition).accepted ≤
      state.balance envelope.playerId resource := by
  rcases validateOrderEnvelope_accepted envelope state mapDefinition with hempty | ⟨player, hplayer, haccepted⟩
  · rw [hempty]
    exact hbalance
  · rw [haccepted]
    rw [balance_of_get? hplayer] at hbalance ⊢
    have hrecruitment := validateEach_spends (g := fun budget : ResourceState => budget.get resource)
      (c := fun order => ((recruitmentCost order).get resource : Int))
      (check_recruitment_spends state envelope.playerId resource) envelope.orders.recruitment 0 player.resources hbalance
    have hupgrades := validateEach_spends
      (g := fun loopState : ResourceState × List (String × UpgradeTrack) => loopState.1.get resource)
      (c := fun order => ((upgradeCost order).get resource : Int))
      (check_upgrade_spends state envelope.playerId resource) envelope.orders.upgrades 0
      ((validateEach (validateRecruitmentOrder state envelope.playerId) 0 player.resources
        envelope.orders.recruitment).2.2, []) hrecruitment.1
    have htransfers := validateEach_spends (g := fun budget : ResourceState => budget.get resource)
      (c := fun order => ((transferCost order).get resource : Int))
      (check_transfer_spends state (buildAdjacencyIndex mapDefinition (some .land)) envelope.playerId player resource) envelope.orders.transfers 0 _ hupgrades.1
    obtain ⟨hleft, hspent⟩ := htransfers
    have hafterUpgrades := hupgrades.2
    have hafterRecruitment := hrecruitment.2
    have hsender : ∀ order : TransferOrder,
        transferCost { order with sender := some envelope.playerId } = transferCost order := fun _ => rfl
    simp only [batchCost, List.map_map, Function.comp_def, hsender]
    simp only at hleft hspent hafterUpgrades hafterRecruitment
    omega

end Accepted

/-! ### A player's part of the batch -/

section Spending

/-- What a player's orders in a batch cost the player. -/
def spending (state : MatchState) (playerId : String) (resource : ResourceType) (orders : OrderBatch) : Int :=
  (orders.recruitment.map fun order =>
      if state.cityOwner order.city = some playerId then ((recruitmentCost order).get resource : Int) else 0).sum +
    (orders.upgrades.map fun order =>
      if state.cityOwner order.city = some playerId then ((upgradeCost order).get resource : Int) else 0).sum +
    (orders.transfers.map fun order =>
      if order.sender = some playerId then ((transferCost order).get resource : Int) else 0).sum

/-- What the transfers in a batch bring a player. -/
def received (playerId : String) (resource : ResourceType) (orders : OrderBatch) : Int :=
  (orders.transfers.map fun order =>
    if order.recipientId = playerId ∧ order.resource = resource then (order.amount : Int) else 0).sum

variable {state : MatchState} {playerId : String} {resource : ResourceType}

theorem received_nonneg (playerId : String) (resource : ResourceType) (orders : OrderBatch) : 0 ≤ received playerId resource orders := by
  apply List.sum_nonneg
  intro amount hamount
  obtain ⟨order, -, rfl⟩ := List.mem_map.1 hamount
  split
  · exact Int.natCast_nonneg _
  · exact le_refl _

theorem spending_append (first second : OrderBatch) :
    spending state playerId resource (first.append second) =
      spending state playerId resource first + spending state playerId resource second := by
  unfold spending OrderBatch.append
  simp only [List.map_append, List.sum_append]
  omega

theorem spending_foldl_append (batches : List OrderBatch) (start : OrderBatch) :
    spending state playerId resource (batches.foldl OrderBatch.append start) =
      spending state playerId resource start + (batches.map (spending state playerId resource)).sum :=
  Run.sum_foldl (I := fun _ => True) (fun board batch _ => ⟨trivial, spending_append board batch⟩) trivial batches

/-- Orders that all concern one player's cities and purse are at that player's expense. -/
theorem spending_of_own {orders : OrderBatch} {owner : String}
    (hrecruitment : ∀ order ∈ orders.recruitment, state.cityOwner order.city = some owner)
    (hupgrades : ∀ order ∈ orders.upgrades, state.cityOwner order.city = some owner)
    (htransfers : ∀ order ∈ orders.transfers, order.sender = some owner) :
    spending state playerId resource orders = if owner = playerId then batchCost resource orders else 0 := by
  unfold spending batchCost
  rw [List.map_congr_left (l := orders.recruitment) fun order horder => by rw [hrecruitment order horder],
    List.map_congr_left (l := orders.upgrades) fun order horder => by rw [hupgrades order horder],
    List.map_congr_left (l := orders.transfers) fun order horder => by rw [htransfers order horder]]
  by_cases hown : owner = playerId
  · simp [hown]
  · simp [hown]

/-- What an envelope's accepted orders concern is its player's. -/
theorem acceptedOrders_own (state : MatchState) (submission : OrderEnvelope) :
    (∀ order ∈ (acceptedOrders state submission).recruitment,
        state.cityOwner order.city = some submission.playerId) ∧
      (∀ order ∈ (acceptedOrders state submission).upgrades,
        state.cityOwner order.city = some submission.playerId) ∧
      ∀ order ∈ (acceptedOrders state submission).transfers, order.sender = some submission.playerId := by
  refine ⟨?_, ?_, fun order horder => (accepted_transfer horder).1⟩
  · intro order horder
    obtain ⟨city, hget, howner⟩ := accepted_recruitment horder
    exact MatchState.cityOwner_eq_some.2 ⟨city, hget, howner⟩
  · intro order horder
    obtain ⟨city, hget, howner, -⟩ := accepted_upgrade horder
    exact MatchState.cityOwner_eq_some.2 ⟨city, hget, howner⟩

/-- The accepted orders of one envelope are all at the expense of its player. -/
theorem spending_acceptedOrders (submission : OrderEnvelope) :
    spending state playerId resource (acceptedOrders state submission) =
      if submission.playerId = playerId then batchCost resource (acceptedOrders state submission) else 0 := by
  obtain ⟨hrecruitment, hupgrades, htransfers⟩ := acceptedOrders_own state submission
  exact spending_of_own hrecruitment hupgrades htransfers

theorem sum_map_le_of_nodup {γ κ : Type} {key : γ → κ} {f : γ → Int} {own : κ} {bound : Int} (hbound : 0 ≤ bound)
    {l : List γ} (hnodup : (l.map key).Nodup) (hother : ∀ c ∈ l, key c ≠ own → f c = 0)
    (hown : ∀ c ∈ l, key c = own → f c ≤ bound) : (l.map f).sum ≤ bound := by
  induction l with
  | nil => exact hbound
  | cons c l ih =>
      rw [List.map_cons, List.nodup_cons] at hnodup
      rw [List.map_cons, List.sum_cons]
      by_cases hkey : key c = own
      · have hrest : ∀ amount ∈ l.map f, amount = 0 := by
          intro amount hamount
          obtain ⟨c', hc', rfl⟩ := List.mem_map.1 hamount
          apply hother c' (List.mem_cons_of_mem c hc')
          intro hkey'
          exact hnodup.1 (hkey ▸ hkey' ▸ List.mem_map_of_mem hc')
        rw [List.sum_eq_zero hrest, add_zero]
        exact hown c List.mem_cons_self hkey
      · rw [hother c List.mem_cons_self hkey, zero_add]
        exact ih hnodup.2 (fun c' hc' => hother c' (List.mem_cons_of_mem c hc'))
          fun c' hc' => hown c' (List.mem_cons_of_mem c hc')

/-- The validator's promise: what a player's accepted orders cost, the player had before the tick. -/
theorem spending_validateQueuedOrders_le (hbalance : 0 ≤ state.balance playerId resource)
    (submissions : List OrderEnvelope) :
    spending state playerId resource (validateQueuedOrders state submissions) ≤ state.balance playerId resource := by
  unfold validateQueuedOrders
  rw [spending_foldl_append, List.map_map, show spending state playerId resource OrderBatch.empty = 0 from rfl,
    zero_add]
  apply sum_map_le_of_nodup hbalance (combineSubmissionsByPlayer_nodup submissions)
  · intro submission _ hother
    show spending state playerId resource (acceptedOrders state submission) = 0
    rw [spending_acceptedOrders, if_neg hother]
  · rintro submission _ rfl
    show spending state submission.playerId resource (acceptedOrders state submission) ≤ _
    rw [spending_acceptedOrders, if_pos rfl]
    exact batchCost_accepted_le hbalance

section Built

variable {supplied : MatchState}

theorem recruitmentDebit_eq (howner : supplied.cityOwner = state.cityOwner)
    (hplayer : playerId ∈ supplied.players.keys) (order : RecruitmentOrder) :
    recruitmentDebit (payingOwner supplied) playerId resource order =
      if state.cityOwner order.city = some playerId then ((recruitmentCost order).get resource : Int) else 0 := by
  unfold recruitmentDebit
  rw [← howner]
  simp only [payingOwner_eq_some, hplayer, and_true]

theorem upgradeDebit_le (playerId : String) (resource : ResourceType) (howner : supplied.cityOwner = state.cityOwner)
    (queuedTracks : String → List UpgradeTrack) (order : UpgradeOrder) :
    upgradeDebit (upgradePayer queuedTracks supplied) playerId resource order ≤
      if state.cityOwner order.city = some playerId then ((upgradeCost order).get resource : Int) else 0 := by
  have hpos : (0 : Int) ≤ (upgradeCost order).get resource := Int.natCast_nonneg _
  unfold upgradeDebit
  rw [← howner]
  by_cases hpayer : upgradePayer queuedTracks supplied order = some playerId
  · have howned : supplied.cityOwner order.city = some playerId := by
      unfold upgradePayer at hpayer
      split at hpayer
      · cases hpayer
      · exact (payingOwner_eq_some.1 hpayer).1
    rw [if_pos hpayer, if_pos howned]
  · rw [if_neg hpayer]
    split
    · exact hpos
    · exact le_refl _

theorem upgradeDebit_eq (state : MatchState) (hresource : resource ≠ .production)
    (queuedTracks : String → List UpgradeTrack) (order : UpgradeOrder) :
    upgradeDebit (upgradePayer queuedTracks supplied) playerId resource order =
      if state.cityOwner order.city = some playerId then ((upgradeCost order).get resource : Int) else 0 := by
  unfold upgradeDebit
  rw [upgradeCost_get, if_neg hresource]
  simp

/-- Both parties of an accepted transfer are players. -/
theorem transferGain_eq (hkeys : supplied.players.keys = state.players.keys) {order : TransferOrder}
    (hsender : ∃ sender ∈ state.players.keys, order.sender = some sender)
    (hrecipient : order.recipientId ∈ state.players.keys) :
    transferGain (transferSender supplied) playerId resource order =
      (if order.recipientId = playerId ∧ order.resource = resource then (order.amount : Int) else 0) -
        if order.sender = some playerId then ((transferCost order).get resource : Int) else 0 := by
  obtain ⟨sender, hmem, hsender⟩ := hsender
  have hparties : transferSender supplied order = some sender := by
    unfold transferSender
    rw [hsender, hkeys]
    simp [hmem, hrecipient]
  have hcost : ((transferCost order).get resource : Int) = if resource = order.resource then (order.amount : Int) else 0 := by
    unfold transferCost
    cases resource <;> cases order.resource <;> rfl
  unfold transferGain
  rw [hparties, hcost, hsender]
  simp only [Option.some.injEq, eq_comm, ite_and]

theorem sum_transferGain (playerId : String) (resource : ResourceType)
    (hkeys : supplied.players.keys = state.players.keys) (orders : List TransferOrder)
    (hparties : ∀ order ∈ orders, (∃ sender ∈ state.players.keys, order.sender = some sender) ∧
      order.recipientId ∈ state.players.keys) :
    (orders.map (transferGain (transferSender supplied) playerId resource)).sum =
      (orders.map fun order =>
          if order.recipientId = playerId ∧ order.resource = resource then (order.amount : Int) else 0).sum -
        (orders.map fun order =>
          if order.sender = some playerId then ((transferCost order).get resource : Int) else 0).sum := by
  induction orders with
  | nil => rfl
  | cons order orders ih =>
      obtain ⟨⟨hsender, hrecipient⟩, hrest⟩ := List.forall_mem_cons.1 hparties
      simp only [List.map_cons, List.sum_cons]
      rw [ih hrest, transferGain_eq hkeys hsender hrecipient]
      omega

/-- Transfers between players of the state. -/
def TransfersNamePlayers (state : MatchState) (orders : OrderBatch) : Prop :=
  ∀ order ∈ orders.transfers,
    (∃ playerId ∈ state.players.keys, order.sender = some playerId) ∧ order.recipientId ∈ state.players.keys

theorem transfersNamePlayers_validated (state : MatchState) (submissions : List OrderEnvelope) :
    TransfersNamePlayers state (validateQueuedOrders state submissions) := by
  intro order horder
  rw [validateQueuedOrders_transfers] at horder
  obtain ⟨submission, -, haccepted⟩ := List.mem_flatMap.1 horder
  obtain ⟨hsender, hmem, hrecipient⟩ := accepted_transfer haccepted
  exact ⟨⟨submission.playerId, hmem, hsender⟩, hrecipient⟩

/-- The build phase takes no more than a player's spending. Upgrades that are not started are not paid for. -/
theorem balance_built_le (resource : ResourceType) (howner : supplied.cityOwner = state.cityOwner)
    (hkeys : supplied.players.keys = state.players.keys) (hplayer : playerId ∈ state.players.keys) {orders : OrderBatch}
    (hparties : TransfersNamePlayers state orders) :
    supplied.balance playerId resource - spending state playerId resource orders + received playerId resource orders ≤
      (resolveBuildPhase supplied orders).balance playerId resource := by
  have hbuilt := balance_resolveBuildPhase (hkeys ▸ hplayer) resource orders
  have hrecruitment : recruitmentDebit (payingOwner supplied) playerId resource = _ :=
    funext fun order => recruitmentDebit_eq howner (hkeys ▸ hplayer) order
  rw [hrecruitment, sum_transferGain playerId resource hkeys orders.transfers hparties] at hbuilt
  have hupgrades := List.sum_le_sum (l := orders.upgrades)
    fun order _ => upgradeDebit_le playerId resource howner (queuedTracksAtPhaseStart supplied) order
  unfold spending received
  omega

/-- The balance after the build phase, on accepted orders. -/
theorem balance_built (resource : ResourceType) (howner : supplied.cityOwner = state.cityOwner)
    (hkeys : supplied.players.keys = state.players.keys) (hplayer : playerId ∈ state.players.keys)
    (submissions : List OrderEnvelope) :
    supplied.balance playerId resource -
          spending state playerId resource (validateQueuedOrders state submissions) +
          received playerId resource (validateQueuedOrders state submissions) ≤
        (resolveBuildPhase supplied (validateQueuedOrders state submissions)).balance playerId resource ∧
      (resource ≠ .production →
        (resolveBuildPhase supplied (validateQueuedOrders state submissions)).balance playerId resource =
          supplied.balance playerId resource -
            spending state playerId resource (validateQueuedOrders state submissions) +
            received playerId resource (validateQueuedOrders state submissions)) := by
  have hparties := transfersNamePlayers_validated state submissions
  refine ⟨balance_built_le resource howner hkeys hplayer hparties, fun hresource => ?_⟩
  have hbuilt := balance_resolveBuildPhase (hkeys ▸ hplayer) resource (validateQueuedOrders state submissions)
  have hrecruitment : recruitmentDebit (payingOwner supplied) playerId resource = _ :=
    funext fun order => recruitmentDebit_eq howner (hkeys ▸ hplayer) order
  have hupgrades : upgradeDebit (upgradePayer (queuedTracksAtPhaseStart supplied) supplied) playerId resource = _ :=
    funext fun order => upgradeDebit_eq state hresource (queuedTracksAtPhaseStart supplied) order
  rw [hrecruitment, sum_transferGain playerId resource hkeys _ hparties, hupgrades] at hbuilt
  unfold spending received
  omega

end Built

end Spending

/-! ### After the build phase -/

/-- The players' balances and the base resources of the cities. -/
def purse (state : MatchState) : (String → ResourceType → Int) × (String → Option ResourceState) :=
  (state.balance, fun cityId => (state.cities.get? cityId).map (·.resources))

theorem balance_mapVals {state : MatchState} {f : String → PlayerState → PlayerState}
    (hf : ∀ playerId player, (f playerId player).resources = player.resources) :
    MatchState.balance { state with players := state.players.mapVals f } = state.balance := by
  funext playerId resource
  unfold MatchState.balance
  simp only [OrdDict.get?_mapVals, Option.map_map, Function.comp_def, hf]

theorem purse_modifyPlayer {f : PlayerState → PlayerState} (hf : ∀ player, (f player).resources = player.resources)
    (state : MatchState) (playerId : String) : purse (state.modifyPlayer playerId f) = purse state := by
  refine Prod.ext (balance_mapVals fun key player => ?_) rfl
  split
  · exact hf player
  · rfl

theorem purse_mapCities {state : MatchState} {f : String → CityState → CityState}
    (hf : ∀ cityId city, (f cityId city).resources = city.resources) :
    purse { state with cities := state.cities.mapVals f } = purse state := by
  refine Prod.ext rfl (funext fun cityId => ?_)
  show ((state.cities.mapVals f).get? cityId).map (·.resources) = (state.cities.get? cityId).map (·.resources)
  simp only [OrdDict.get?_mapVals, Option.map_map, Function.comp_def, hf]

theorem purse_modifyCity {f : CityState → CityState} (hf : ∀ city, (f city).resources = city.resources)
    (state : MatchState) (cityId : String) : purse (state.modifyCity cityId f) = purse state := by
  apply purse_mapCities
  intro key city
  split
  · exact hf city
  · rfl

theorem purse_resolveMovementPhase (mapDefinition : MapDefinition) (state : MatchState) (orders : OrderBatch) :
    purse (resolveMovementPhase mapDefinition state orders) = purse state := by
  have hstep : ∀ board order, purse (startMovementOrder mapDefinition board order) = purse board := fun _ _ => rfl
  unfold resolveMovementPhase startMovementOrders
  rw [Run.frame_foldl hstep]
  rfl

theorem purse_transferCityControl (state : MatchState) (cityId : String) :
    purse (transferCityControl state cityId) = purse state := by
  have hadd : ∀ (board : MatchState) (playerId : String), purse (addCityToPlayer board playerId cityId) = purse board := by
    intro board playerId
    apply purse_modifyPlayer
    intro player
    split <;> rfl
  have hremove : ∀ (board : MatchState) (playerId : Option String),
      purse (removeCityFromPlayer board playerId cityId) = purse board := by
    intro board playerId
    cases playerId with
    | none => rfl
    | some playerId =>
        apply purse_modifyPlayer
        exact fun _ => rfl
  unfold transferCityControl
  split
  · split
    · rfl
    · rw [hadd, hremove]
      apply purse_modifyCity
      exact fun _ => rfl
  · rfl

theorem purse_resolveCombatPhase (state : MatchState) : purse (resolveCombatPhase state) = purse state := by
  unfold resolveCombatPhase transferUncontestedCityControl
  rw [Run.frame_foldl purse_transferCityControl]
  rfl

theorem purse_degradeFortification (state : MatchState) (cityId : String) :
    purse (degradeFortification state cityId) = purse state := by
  apply purse_modifyCity
  exact fun _ => rfl

theorem purse_degradeBesiegedFortifications {mapDefinition : MapDefinition} {state : MatchState}
    {degradedCityIds : List String} {besieged : MatchState × List String}
    (h : degradeBesiegedFortifications mapDefinition state degradedCityIds = .ok besieged) :
    purse besieged.1 = purse state := by
  apply degradeBesiegedFortifications_invariant (I := fun board => purse board = purse state) _ h rfl
  exact fun board cityId hframe => (purse_degradeFortification board cityId).trans hframe

theorem purse_resolveAttritionPhase (state : MatchState) (phaseState : ResolverPhaseState) :
    purse (resolveAttritionPhase state phaseState).1 = purse state := by
  have hmark : ∀ board : MatchState, purse (markEliminated board) = purse board :=
    fun board => Prod.ext (balance_mapVals fun _ _ => rfl) rfl
  unfold resolveAttritionPhase
  simp only
  rw [hmark]
  apply degradeUnpaidFortifications_invariant (I := fun board => purse board = purse state)
  · exact fun board cityId hframe => (purse_degradeFortification board cityId).trans hframe
  · rfl

/-- What the resource phase leaves a player. -/
theorem balance_resolveResourcePhase {state supplied : MatchState} {phaseState phaseState' : ResolverPhaseState}
    (h : resolveResourcePhase state phaseState = .ok (supplied, phaseState')) {playerId : String} {player : PlayerState}
    (hplayer : state.players.get? playerId = some player) (resource : ResourceType) :
    supplied.balance playerId resource = (updatedResources state playerId player.resources).get resource := by
  unfold resolveResourcePhase at h
  simp only at h
  split at h
  · cases h
    unfold MatchState.balance resourcePhasePlayers
    rw [OrdDict.get?_mapVals, hplayer]
    rfl
  · cases h

/-- Nothing after the build phase touches a balance. -/
theorem purse_resolveThroughDiplomacy {state settled : MatchState} {orders : OrderBatch} {mapDefinition : MapDefinition}
    (h : resolveThroughDiplomacy state orders mapDefinition = .ok settled) :
    ∃ supplied phaseState, resolveResourcePhase state ⟨mapDefinition, [], []⟩ = .ok (supplied, phaseState) ∧
      purse settled = purse (resolveBuildPhase supplied orders) := by
  obtain ⟨besieged, phaseState, hsiege, rfl⟩ := resolveThroughDiplomacy_eq_ok h
  obtain ⟨supplied, phaseState', hresource, hbesieged, -⟩ := resolveThroughSiege_eq_ok hsiege
  refine ⟨supplied, phaseState', hresource, ?_⟩
  rw [purse_resolveAttritionPhase, purse_degradeBesiegedFortifications hbesieged, purse_resolveCombatPhase,
    purse_resolveMovementPhase]

end IronCouncil
