import IronCouncil.Base.FreshName
import IronCouncil.Base.ListUpdate
import IronCouncil.OrderValidation
import Mathlib.Data.Prod.Lex
import Mathlib.Order.WithBot

/-!
# The build phase

Queues advance, then the orders are carried out: recruitment in the order of owner, city and troops, upgrades and transfers in the order of the batch. The resources an order costs are taken from the player when it is carried out, whatever is left by then.
-/

namespace IronCouncil

def upgradeBuildDurations : List Nat := [0, 1, 2, 3]

/-! ### Queues -/

def queuedTracksAtPhaseStart (state : MatchState) (cityId : String) : List UpgradeTrack :=
  match state.cities.get? cityId with
  | none => []
  | some city => city.buildingQueue.map (·.type)

def advanceQueueItem (item : BuildingQueueItem) : BuildingQueueItem :=
  { item with ticksRemaining := item.ticksRemaining - 1 }

def completeQueueItem (upgrades : CityUpgradeState) (item : BuildingQueueItem) : CityUpgradeState :=
  upgrades.set item.type item.tier.toNat

def advanceBuildQueue (city : CityState) : CityState :=
  let queue := city.buildingQueue.map advanceQueueItem
  { city with
    upgrades := (queue.filter (·.ticksRemaining = 0)).foldl completeQueueItem city.upgrades
    buildingQueue := queue.filter (·.ticksRemaining ≠ 0) }

def advanceBuildQueues (state : MatchState) : MatchState :=
  { state with cities := state.cities.mapVals fun _ city => advanceBuildQueue city }

/-! ### Recruitment -/

def deterministicFriendlyStationedArmy (state : MatchState) (owner cityId : String) : Option ArmyState :=
  ((state.armies.filter fun army => army.owner = owner ∧ army.stationedAt cityId).insertionSort
    fun first second => first.id ≤ second.id).head?

def recruitmentArmyPrefix (owner cityId : String) : String := s!"recruitment:{owner}:{cityId}:"

def nextRecruitmentArmyId (owner cityId : String) (existingArmyIds : List String) : String :=
  nextFree (numberedName (recruitmentArmyPrefix owner cityId)) existingArmyIds (existingArmyIds.length + 1) 1

/-- Unowned cities sort first. An accepted order names an owned city, so they never meet an owned one here. -/
def recruitmentProcessingKey (state : MatchState) (order : RecruitmentOrder) :
    WithBot String ×ₗ String ×ₗ Nat :=
  toLex (state.cityOwner order.city, toLex (order.city, order.troops))

def musterTroops (state : MatchState) (owner : String) (order : RecruitmentOrder) : MatchState :=
  match deterministicFriendlyStationedArmy state owner order.city with
  | some stationed =>
      { state with
        armies := state.armies.modifyFirstWhere
          (fun army => army.owner = owner ∧ army.stationedAt order.city ∧ army.id = stationed.id)
          fun army => { army with troops := army.troops + order.troops } }
  | none =>
      { state with
        armies := state.armies ++
          [{ id := nextRecruitmentArmyId owner order.city (state.armies.map (·.id))
             owner := owner
             troops := order.troops
             location := some order.city
             destination := none
             path := none
             ticksRemaining := 0 }] }

/-- The owner of a city, where the owner is a player. -/
def payingOwner (state : MatchState) (cityId : String) : Option String :=
  match state.cityOwner cityId with
  | none => none
  | some owner => if owner ∈ state.players.keys then some owner else none

def processRecruitmentOrder (state : MatchState) (order : RecruitmentOrder) : MatchState :=
  match payingOwner state order.city with
  | none => state
  | some owner =>
      let debited := (state.credit owner .food (-(order.troops * recruitmentCostPerTroop.food : Nat))).credit owner
        .production (-(order.troops * recruitmentCostPerTroop.production : Nat))
      musterTroops debited owner order

def processRecruitmentOrders (state : MatchState) (orders : List RecruitmentOrder) : MatchState :=
  (orders.insertionSort fun first second =>
    recruitmentProcessingKey state first ≤ recruitmentProcessingKey state second).foldl processRecruitmentOrder state

/-! ### Upgrades and transfers -/

def enqueueUpgrade (state : MatchState) (order : UpgradeOrder) : MatchState :=
  state.modifyCity order.city fun city =>
    { city with
      buildingQueue := city.buildingQueue ++
        [{ type := order.track
           tier := order.targetTier
           ticksRemaining := tierEntry upgradeBuildDurations order.targetTier.toNat }] }

/-- Who pays for an upgrade, if it is started at all: a track that was queued when the phase began is not queued again. -/
def upgradePayer (queuedTracks : String → List UpgradeTrack) (state : MatchState) (order : UpgradeOrder) :
    Option String :=
  if order.track ∈ queuedTracks order.city then none else payingOwner state order.city

def startUpgradeOrder (queuedTracks : String → List UpgradeTrack) (state : MatchState) (order : UpgradeOrder) :
    MatchState :=
  match upgradePayer queuedTracks state order with
  | none => state
  | some owner =>
      enqueueUpgrade (state.credit owner .production (-((upgradeCosts order.track order.targetTier).production : Nat)))
        order

def startUpgradeOrders (queuedTracks : String → List UpgradeTrack) (state : MatchState)
    (orders : List UpgradeOrder) : MatchState :=
  orders.foldl (startUpgradeOrder queuedTracks) state

/-- The sender of a transfer, if both parties are players. -/
def transferSender (state : MatchState) (order : TransferOrder) : Option String :=
  order.sender.filter fun sender => sender ∈ state.players.keys ∧ order.recipientId ∈ state.players.keys

def processTransferOrder (state : MatchState) (order : TransferOrder) : MatchState :=
  match transferSender state order with
  | none => state
  | some sender =>
      (state.credit sender order.resource (-order.amount)).credit order.recipientId order.resource order.amount

def processTransferOrders (state : MatchState) (orders : List TransferOrder) : MatchState :=
  orders.foldl processTransferOrder state

def resolveBuildPhase (state : MatchState) (orders : OrderBatch) : MatchState :=
  let advanced := advanceBuildQueues state
  let recruited := processRecruitmentOrders advanced orders.recruitment
  let upgraded := startUpgradeOrders (queuedTracksAtPhaseStart state) recruited orders.upgrades
  processTransferOrders upgraded orders.transfers

/-! ### What the build phase leaves alone -/

theorem payingOwner_congr {state state' : MatchState} (howner : state'.cityOwner = state.cityOwner)
    (hkeys : state'.players.keys = state.players.keys) : payingOwner state' = payingOwner state := by
  funext cityId
  unfold payingOwner
  rw [howner, hkeys]

@[simp] theorem enqueueUpgrade_players (state : MatchState) (order : UpgradeOrder) :
    (enqueueUpgrade state order).players = state.players := rfl

@[simp] theorem enqueueUpgrade_armies (state : MatchState) (order : UpgradeOrder) :
    (enqueueUpgrade state order).armies = state.armies := rfl

@[simp] theorem cityOwner_enqueueUpgrade (state : MatchState) (order : UpgradeOrder) :
    (enqueueUpgrade state order).cityOwner = state.cityOwner := by
  unfold enqueueUpgrade
  rw [MatchState.cityOwner_modifyCity]
  exact fun _ => rfl

@[simp] theorem payingOwner_credit (state : MatchState) (playerId : String) (resource : ResourceType) (amount : Int) :
    payingOwner (state.credit playerId resource amount) = payingOwner state :=
  payingOwner_congr (MatchState.cityOwner_congr rfl) (MatchState.credit_keys _ _ _ _)

@[simp] theorem payingOwner_startUpgradeOrder (queuedTracks : String → List UpgradeTrack) (state : MatchState)
    (order : UpgradeOrder) : payingOwner (startUpgradeOrder queuedTracks state order) = payingOwner state := by
  unfold startUpgradeOrder
  split
  · rfl
  · rw [payingOwner_congr (cityOwner_enqueueUpgrade _ order) (by rw [enqueueUpgrade_players]), payingOwner_credit]

@[simp] theorem upgradePayer_startUpgradeOrder (queuedTracks : String → List UpgradeTrack) (state : MatchState)
    (order : UpgradeOrder) :
    upgradePayer queuedTracks (startUpgradeOrder queuedTracks state order) = upgradePayer queuedTracks state := by
  funext next
  unfold upgradePayer
  rw [payingOwner_startUpgradeOrder]

@[simp] theorem keys_processTransferOrder (state : MatchState) (order : TransferOrder) :
    (processTransferOrder state order).players.keys = state.players.keys := by
  unfold processTransferOrder
  split
  · rfl
  · rw [MatchState.credit_keys, MatchState.credit_keys]

@[simp] theorem transferSender_processTransferOrder (state : MatchState) (order : TransferOrder) :
    transferSender (processTransferOrder state order) = transferSender state := by
  funext next
  unfold transferSender
  rw [keys_processTransferOrder]

end IronCouncil
