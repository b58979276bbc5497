import IronCouncil.Base.Graph
import IronCouncil.Data.Maps
import IronCouncil.Models.State
import IronCouncil.Models.Orders
import Mathlib.Data.List.Sort
import Mathlib.Data.String.Basic

/-!
# Order validation

An envelope is checked against the state before the tick. Each of the four kinds of orders is one loop over the envelope's orders: `validateEach` runs it, and each kind gives the check that accepts an order, updating the loop's state, or rejects it with a reason. Movements remember the armies already ordered, upgrades the targets; recruitment, upgrades and transfers spend one budget, in that order.
-/

namespace IronCouncil

structure ResourceCost where
  food : Nat
  production : Nat
  money : Nat
deriving DecidableEq, Repr

def recruitmentCostPerTroop : ResourceCost := ⟨1, 5, 0⟩

def upgradeCosts : UpgradeTrack → FortificationTier → ResourceCost
  | .economy, .trenches => ⟨0, 7, 0⟩
  | .economy, .bunkers => ⟨0, 11, 0⟩
  | .economy, .fortress => ⟨0, 15, 0⟩
  | .military, .trenches => ⟨0, 8, 0⟩
  | .military, .bunkers => ⟨0, 12, 0⟩
  | .military, .fortress => ⟨0, 16, 0⟩
  | .fortification, .trenches => ⟨0, 6, 0⟩
  | .fortification, .bunkers => ⟨0, 10, 0⟩
  | .fortification, .fortress => ⟨0, 14, 0⟩

inductive ValidationReasonCode
  | lateOrder
  | unknownPlayer
  | unknownCity
  | unknownArmy
  | conflictingDuplicateOrder
  | invalidOwnership
  | invalidRecipientRelation
  | invalidAdjacency
  | armyInTransit
  | insufficientResources
  | invalidTierProgression
  | disconnectedRoute
deriving DecidableEq, Repr

inductive OrderType
  | movement
  | recruitment
  | upgrade
  | transfer
deriving DecidableEq, Repr

structure RejectedOrder where
  orderType : OrderType
  orderIndex : Nat
  reasonCode : ValidationReasonCode
  message : String
deriving DecidableEq, Repr

structure OrderValidationResult where
  accepted : OrderBatch
  rejected : List RejectedOrder
deriving DecidableEq, Repr

/-! ### Budgets -/

def canAfford (budget : ResourceState) (cost : ResourceCost) : Prop :=
  budget.food ≥ cost.food ∧ budget.production ≥ cost.production ∧ budget.money ≥ cost.money

instance (budget : ResourceState) (cost : ResourceCost) : Decidable (canAfford budget cost) :=
  inferInstanceAs (Decidable (_ ∧ _ ∧ _))

def spendBudget (budget : ResourceState) (cost : ResourceCost) : ResourceState where
  food := budget.food - cost.food
  production := budget.production - cost.production
  money := budget.money - cost.money

def recruitmentCost (order : RecruitmentOrder) : ResourceCost where
  food := order.troops * recruitmentCostPerTroop.food
  production := order.troops * recruitmentCostPerTroop.production
  money := 0

def upgradeCost (order : UpgradeOrder) : ResourceCost := upgradeCosts order.track order.targetTier

def transferCost (order : TransferOrder) : ResourceCost :=
  match order.resource with
  | .food => ⟨order.amount, 0, 0⟩
  | .production => ⟨0, order.amount, 0⟩
  | .money => ⟨0, 0, order.amount⟩

/-! ### Adjacency and routes -/

def addAdjacency (adjacency : OrdDict String (List String)) (edge : MapEdge) : OrdDict String (List String) :=
  (adjacency.modify edge.cityA (List.insert edge.cityB)).modify edge.cityB (List.insert edge.cityA)

def buildAdjacencyIndex (mapDefinition : MapDefinition) (traversalMode : Option TraversalMode) :
    OrdDict String (List String) :=
  (mapDefinition.edges.filter fun edge => traversalMode.all (edge.traversalMode = ·)).foldl addAdjacency
    (mapDefinition.cities.mapVals fun _ _ => [])

def neighborsIn (adjacency : OrdDict String (List String)) (cityId : String) : List String :=
  (adjacency.get? cityId).getD []

theorem buildAdjacencyIndex_eq (mapDefinition : MapDefinition) (traversalMode : Option TraversalMode) :
    buildAdjacencyIndex mapDefinition traversalMode =
      (mapDefinition.edges.filter fun edge => traversalMode.all (edge.traversalMode = ·)).foldl
        (Graph.link MapEdge.cityA MapEdge.cityB) (mapDefinition.cities.mapVals fun _ _ => []) := rfl

/-- Two cities are next to each other in the index because an edge of the mode joins them. -/
theorem mem_neighborsIn_buildAdjacencyIndex {mapDefinition : MapDefinition} {traversalMode : Option TraversalMode}
    {cityA cityB : String} :
    cityB ∈ neighborsIn (buildAdjacencyIndex mapDefinition traversalMode) cityA ↔
      ∃ edge ∈ mapDefinition.edges, traversalMode.all (edge.traversalMode = ·) = true ∧ edge.joins cityA cityB := by
  rw [buildAdjacencyIndex_eq]
  refine (Graph.mem_neighbors_foldl ?_).trans ?_
  · intro edge hedge
    rw [OrdDict.keys_mapVals]
    exact mapDefinition.edges_known edge (List.mem_filter.1 hedge).1
  · rw [Graph.neighbors_unlinked]
    simp only [List.not_mem_nil, false_or, List.mem_filter, and_assoc]
    rfl

theorem nodup_neighborsIn_buildAdjacencyIndex (mapDefinition : MapDefinition)
    (traversalMode : Option TraversalMode) (cityId : String) :
    (neighborsIn (buildAdjacencyIndex mapDefinition traversalMode) cityId).Nodup := by
  rw [buildAdjacencyIndex_eq]
  refine Graph.nodup_neighbors_foldl ?_ ?_ cityId
  · intro edge hedge
    rw [OrdDict.keys_mapVals]
    exact mapDefinition.edges_known edge (List.mem_filter.1 hedge).1
  · intro node
    rw [Graph.neighbors_unlinked]
    exact List.nodup_nil

def citiesOwnedBy (state : MatchState) (owners : List String) : List String :=
  (state.cities.entries.filter fun entry => entry.2.owner.any (· ∈ owners)).map Prod.fst

def connectedRouteOwnerIds (state : MatchState) (senderId recipientId : String)
    (sender recipient : PlayerState) : List String :=
  if sender.allianceId ≠ none ∧ sender.allianceId = recipient.allianceId then
    senderId :: recipientId ::
      (state.players.entries.filter fun entry => entry.2.allianceId = sender.allianceId).map Prod.fst
  else [senderId, recipientId]

/-- The breadth-first search over owned cities. `visited` holds every city that was ever queued, so a city is queued once and the number of traversable cities bounds the search. -/
def landRouteSearch (landAdjacency : OrdDict String (List String)) (traversable goals : List String) :
    Nat → List String → List String → Bool
  | 0, _, _ => false
  | _ + 1, [], _ => false
  | fuel + 1, cityId :: queue, visited =>
      if cityId ∈ goals then true
      else
        let fresh := ((neighborsIn landAdjacency cityId).insertionSort (· ≤ ·)).filter
          fun adjacent => adjacent ∉ visited ∧ adjacent ∈ traversable
        landRouteSearch landAdjacency traversable goals fuel (queue ++ fresh) (visited ++ fresh)

def hasConnectedLandRoute (state : MatchState) (landAdjacency : OrdDict String (List String))
    (senderId recipientId : String) (sender recipient : PlayerState) : Bool :=
  let senderCities := citiesOwnedBy state [senderId]
  let recipientCities := citiesOwnedBy state [recipientId]
  if senderCities = [] ∨ recipientCities = [] then false
  else
    let traversable := citiesOwnedBy state (connectedRouteOwnerIds state senderId recipientId sender recipient)
    let queue := (senderCities.filter (· ∈ traversable)).insertionSort (· ≤ ·)
    landRouteSearch landAdjacency traversable (recipientCities.filter (· ∈ traversable))
      (traversable.length + 1) queue queue

inductive RecipientRelation
  | allied
  | enemy
  | neutral
deriving DecidableEq, Repr

def classifyTransferRecipientRelation (sender recipient : PlayerState) : RecipientRelation :=
  if sender.allianceId ≠ none ∧ sender.allianceId = recipient.allianceId then .allied
  else if sender.allianceId ≠ none ∧ recipient.allianceId ≠ none ∧
      sender.allianceId ≠ recipient.allianceId then .enemy
  else .neutral

/-! ### The check of one order -/

def optionText : Option String → String
  | none => "None"
  | some text => text

/-- The army an id refers to. Where ids repeat, the index keeps the last one. -/
def armyById (armies : List ArmyState) (armyId : String) : Option ArmyState :=
  (armies.filter fun army => army.id = armyId).getLast?

def validateMovementOrder (state : MatchState) (directAdjacency : OrdDict String (List String))
    (playerId : String) (orderIndex : Nat) (order : MovementOrder) : Option RejectedOrder :=
  match armyById state.armies order.armyId with
  | none => some
      { orderType := .movement, orderIndex, reasonCode := .unknownArmy
        message := s!"movement order {orderIndex} references unknown army '{order.armyId}'" }
  | some army =>
      if order.destination ∉ state.cities.keys then some
        { orderType := .movement, orderIndex, reasonCode := .unknownCity
          message := s!"movement order {orderIndex} references unknown destination '{order.destination}'" }
      else if army.owner ≠ playerId then some
        { orderType := .movement, orderIndex, reasonCode := .invalidOwnership
          message := s!"movement order {orderIndex} targets army '{order.armyId}' not owned by '{playerId}'" }
      else
        match army.location, army.destination with
        | some location, none =>
            if order.destination ∉ neighborsIn directAdjacency location then some
              { orderType := .movement, orderIndex, reasonCode := .invalidAdjacency
                message := s!"movement order {orderIndex} destination '{order.destination}' is not directly connected to army '{order.armyId}' at '{location}'" }
            else none
        | _, destination => some
            { orderType := .movement, orderIndex, reasonCode := .armyInTransit
              message := s!"movement order {orderIndex} cannot move army '{order.armyId}' because it is already in transit to '{optionText destination}'" }

def validateRecruitmentOrder (state : MatchState) (playerId : String) (budget : ResourceState)
    (orderIndex : Nat) (order : RecruitmentOrder) : Except RejectedOrder ResourceState :=
  match state.cities.get? order.city with
  | none => .error
      { orderType := .recruitment, orderIndex, reasonCode := .unknownCity
        message := s!"recruitment order {orderIndex} references unknown city '{order.city}'" }
  | some city =>
      if city.owner ≠ some playerId then .error
        { orderType := .recruitment, orderIndex, reasonCode := .invalidOwnership
          message := s!"recruitment order {orderIndex} targets city '{order.city}' not owned by '{playerId}'" }
      else
        let totalCost := recruitmentCost order
        if ¬ canAfford budget totalCost then .error
          { orderType := .recruitment, orderIndex, reasonCode := .insufficientResources
            message := s!"recruitment order {orderIndex} requires {totalCost.food} food and {totalCost.production} production, but only {budget.food} food and {budget.production} production remain in the validation budget" }
        else .ok (spendBudget budget totalCost)

def validateUpgradeOrder (state : MatchState) (playerId : String) (budget : ResourceState)
    (orderIndex : Nat) (order : UpgradeOrder) : Except RejectedOrder ResourceState :=
  match state.cities.get? order.city with
  | none => .error
      { orderType := .upgrade, orderIndex, reasonCode := .unknownCity
        message := s!"upgrade order {orderIndex} references unknown city '{order.city}'" }
  | some city =>
      if city.owner ≠ some playerId then .error
        { orderType := .upgrade, orderIndex, reasonCode := .invalidOwnership
          message := s!"upgrade order {orderIndex} targets city '{order.city}' not owned by '{playerId}'" }
      else
        let currentTier := city.upgrades.get order.track
        if order.targetTier.toNat ≠ currentTier + 1 then .error
          { orderType := .upgrade, orderIndex, reasonCode := .invalidTierProgression
            message := s!"upgrade order {orderIndex} must advance '{order.track.value}' on '{order.city}' from tier {currentTier} to tier {currentTier + 1}, not tier {order.targetTier.toNat}" }
        else
          let totalCost := upgradeCost order
          if ¬ canAfford budget totalCost then .error
            { orderType := .upgrade, orderIndex, reasonCode := .insufficientResources
              message := s!"upgrade order {orderIndex} requires {totalCost.production} production, but only {budget.production} production remain in the validation budget" }
          else .ok (spendBudget budget totalCost)

def validateTransferOrder (state : MatchState) (landAdjacency : OrdDict String (List String))
    (playerId : String) (sender : PlayerState) (budget : ResourceState) (orderIndex : Nat)
    (order : TransferOrder) : Except RejectedOrder ResourceState :=
  match state.players.get? order.recipientId with
  | none => .error
      { orderType := .transfer, orderIndex, reasonCode := .unknownPlayer
        message := s!"transfer order {orderIndex} references unknown player '{order.recipientId}'" }
  | some recipient =>
      if classifyTransferRecipientRelation sender recipient = .enemy then .error
        { orderType := .transfer, orderIndex, reasonCode := .invalidRecipientRelation
          message := s!"transfer order {orderIndex} cannot target enemy player '{order.recipientId}'; transfers are limited to allied or neutral players" }
      else if order.resource ≠ .money ∧
          hasConnectedLandRoute state landAdjacency playerId order.recipientId sender recipient = false then .error
        { orderType := .transfer, orderIndex, reasonCode := .disconnectedRoute
          message := s!"transfer order {orderIndex} cannot send {order.resource.value} to '{order.recipientId}' without a connected land route" }
      else
        let totalCost := transferCost order
        if ¬ canAfford budget totalCost then .error
          { orderType := .transfer, orderIndex, reasonCode := .insufficientResources
            message := s!"transfer order {orderIndex} requires {order.amount} {order.resource.value}, but only {budget.get order.resource} {order.resource.value} remain in the validation budget" }
        else .ok (spendBudget budget totalCost)

/-! ### The loops -/

section Loop

variable {σ α : Type}

/-- One validation loop: the accepted orders and the rejections, in submission order, and the loop's final state. -/
def validateEach (check : σ → Nat → α → Except RejectedOrder σ) :
    Nat → σ → List α → List α × List RejectedOrder × σ
  | _, loopState, [] => ([], [], loopState)
  | index, loopState, order :: orders =>
      match check loopState index order with
      | .error rejection =>
          let rest := validateEach check (index + 1) loopState orders
          (rest.1, rejection :: rest.2.1, rest.2.2)
      | .ok next =>
          let rest := validateEach check (index + 1) next orders
          (order :: rest.1, rest.2.1, rest.2.2)

end Loop

def checkMovement (state : MatchState) (directAdjacency : OrdDict String (List String)) (playerId : String)
    (seenMovementArmies : List String) (orderIndex : Nat) (order : MovementOrder) :
    Except RejectedOrder (List String) :=
  if order.armyId ∈ seenMovementArmies then .error
    { orderType := .movement, orderIndex, reasonCode := .conflictingDuplicateOrder
      message := s!"movement order {orderIndex} conflicts with an earlier movement order for army '{order.armyId}' in the same envelope" }
  else
    match validateMovementOrder state directAdjacency playerId orderIndex order with
    | some rejection => .error rejection
    | none => .ok (order.armyId :: seenMovementArmies)

def checkUpgrade (state : MatchState) (playerId : String)
    (loopState : ResourceState × List (String × UpgradeTrack)) (orderIndex : Nat) (order : UpgradeOrder) :
    Except RejectedOrder (ResourceState × List (String × UpgradeTrack)) :=
  if (order.city, order.track) ∈ loopState.2 then .error
    { orderType := .upgrade, orderIndex, reasonCode := .conflictingDuplicateOrder
      message := s!"upgrade order {orderIndex} conflicts with an earlier upgrade order for city '{order.city}' track '{order.track.value}' in the same envelope" }
  else
    match validateUpgradeOrder state playerId loopState.1 orderIndex order with
    | .error rejection => .error rejection
    | .ok budget => .ok (budget, (order.city, order.track) :: loopState.2)

def rejectEach {α : Type} (orderType : OrderType) (reasonCode : ValidationReasonCode) (message : String)
    (orders : List α) : List RejectedOrder :=
  (List.range orders.length).map fun orderIndex => { orderType, orderIndex, reasonCode, message }

def rejectAllOrders (envelope : OrderEnvelope) (reasonCode : ValidationReasonCode) (message : String) :
    List RejectedOrder :=
  rejectEach .movement reasonCode message envelope.orders.movements ++
    rejectEach .recruitment reasonCode message envelope.orders.recruitment ++
    rejectEach .upgrade reasonCode message envelope.orders.upgrades ++
    rejectEach .transfer reasonCode message envelope.orders.transfers

def validateOrderEnvelope (envelope : OrderEnvelope) (state : MatchState) (mapDefinition : MapDefinition) :
    OrderValidationResult :=
  if envelope.tick ≠ state.tick then
    { accepted := .empty
      rejected := rejectAllOrders envelope .lateOrder
        s!"order envelope tick {envelope.tick} does not match current match tick {state.tick}" }
  else
    match state.players.get? envelope.playerId with
    | none =>
        { accepted := .empty
          rejected := rejectAllOrders envelope .unknownPlayer
            s!"player '{envelope.playerId}' does not exist in match state" }
    | some player =>
        let directAdjacency := buildAdjacencyIndex mapDefinition none
        let landAdjacency := buildAdjacencyIndex mapDefinition (some .land)
        let playerId := envelope.playerId
        let movements := validateEach (checkMovement state directAdjacency playerId) 0 [] envelope.orders.movements
        let recruitment := validateEach (validateRecruitmentOrder state playerId) 0 player.resources
          envelope.orders.recruitment
        let upgrades := validateEach (checkUpgrade state playerId) 0 (recruitment.2.2, []) envelope.orders.upgrades
        let transfers := validateEach (validateTransferOrder state landAdjacency playerId player) 0
          upgrades.2.2.1 envelope.orders.transfers
        { accepted :=
            { movements := movements.1
              recruitment := recruitment.1
              upgrades := upgrades.1
              transfers := transfers.1.map fun order => { order with sender := some playerId } }
          rejected := movements.2.1 ++ recruitment.2.1 ++ upgrades.2.1 ++ transfers.2.1 }

/-! ### What an accepted order passed -/

/-- An accepted order passed the check in some state of the loop. -/
theorem check_of_mem_validateEach {σ α : Type} {check : σ → Nat → α → Except RejectedOrder σ} {index : Nat}
    {loopState : σ} {orders : List α} {order : α} (hmem : order ∈ (validateEach check index loopState orders).1) :
    ∃ before orderIndex after, check before orderIndex order = .ok after := by
  induction orders generalizing index loopState with
  | nil => exact absurd hmem List.not_mem_nil
  | cons first orders ih =>
      unfold validateEach at hmem
      split at hmem
      · exact ih hmem
      · rename_i next hcheck
        rcases List.mem_cons.1 hmem with rfl | hmem
        · exact ⟨loopState, index, next, hcheck⟩
        · exact ih hmem

theorem validateMovementOrder_eq_none {state : MatchState} {directAdjacency : OrdDict String (List String)}
    {playerId : String} {orderIndex : Nat} {order : MovementOrder}
    (h : validateMovementOrder state directAdjacency playerId orderIndex order = none) :
    ∃ army location, armyById state.armies order.armyId = some army ∧ order.destination ∈ state.cities.keys ∧
      army.owner = playerId ∧ army.location = some location ∧ army.destination = none ∧
      order.destination ∈ neighborsIn directAdjacency location := by
  unfold validateMovementOrder at h
  split at h
  · cases h
  · rename_i army harmy
    split at h
    · cases h
    · rename_i hcity
      split at h
      · cases h
      · rename_i howner
        split at h
        · rename_i location hlocation hdestination
          split at h
          · cases h
          · rename_i hadjacent
            exact ⟨army, location, harmy, not_not.1 hcity, not_not.1 howner, hlocation, hdestination,
              not_not.1 hadjacent⟩
        · cases h

theorem checkMovement_eq_ok {state : MatchState} {directAdjacency : OrdDict String (List String)}
    {playerId : String} {seen next : List String} {orderIndex : Nat} {order : MovementOrder}
    (h : checkMovement state directAdjacency playerId seen orderIndex order = .ok next) :
    order.armyId ∉ seen ∧ validateMovementOrder state directAdjacency playerId orderIndex order = none ∧
      next = order.armyId :: seen := by
  unfold checkMovement at h
  split at h
  · cases h
  · rename_i hseen
    split at h
    · cases h
    · rename_i hvalid
      cases h
      exact ⟨hseen, hvalid, rfl⟩

theorem validateRecruitmentOrder_eq_ok {state : MatchState} {playerId : String} {budget next : ResourceState}
    {orderIndex : Nat} {order : RecruitmentOrder}
    (h : validateRecruitmentOrder state playerId budget orderIndex order = .ok next) :
    ∃ city, state.cities.get? order.city = some city ∧ city.owner = some playerId ∧
      canAfford budget (recruitmentCost order) ∧ next = spendBudget budget (recruitmentCost order) := by
  unfold validateRecruitmentOrder at h
  split at h
  · cases h
  · rename_i city hcity
    split at h
    · cases h
    · rename_i howner
      simp only at h
      split at h
      · cases h
      · rename_i hafford
        cases h
        exact ⟨city, hcity, not_not.1 howner, not_not.1 hafford, rfl⟩

theorem validateUpgradeOrder_eq_ok {state : MatchState} {playerId : String} {budget next : ResourceState}
    {orderIndex : Nat} {order : UpgradeOrder}
    (h : validateUpgradeOrder state playerId budget orderIndex order = .ok next) :
    ∃ city, state.cities.get? order.city = some city ∧ city.owner = some playerId ∧
      order.targetTier.toNat = city.upgrades.get order.track + 1 ∧
      canAfford budget (upgradeCost order) ∧ next = spendBudget budget (upgradeCost order) := by
  unfold validateUpgradeOrder at h
  split at h
  · cases h
  · rename_i city hcity
    split at h
    · cases h
    · rename_i howner
      simp only at h
      split at h
      · cases h
      · rename_i htier
        split at h
        · cases h
        · rename_i hafford
          cases h
          exact ⟨city, hcity, not_not.1 howner, not_not.1 htier, not_not.1 hafford, rfl⟩

theorem checkUpgrade_eq_ok {state : MatchState} {playerId : String}
    {loopState next : ResourceState × List (String × UpgradeTrack)} {orderIndex : Nat} {order : UpgradeOrder}
    (h : checkUpgrade state playerId loopState orderIndex order = .ok next) :
    (order.city, order.track) ∉ loopState.2 ∧
      validateUpgradeOrder state playerId loopState.1 orderIndex order = .ok next.1 ∧
      next.2 = (order.city, order.track) :: loopState.2 := by
  unfold checkUpgrade at h
  split at h
  · cases h
  · rename_i hseen
    split at h
    · cases h
    · rename_i budget hvalid
      cases h
      exact ⟨hseen, hvalid, rfl⟩

theorem validateTransferOrder_eq_ok {state : MatchState} {landAdjacency : OrdDict String (List String)}
    {playerId : String} {sender : PlayerState} {budget next : ResourceState} {orderIndex : Nat}
    {order : TransferOrder}
    (h : validateTransferOrder state landAdjacency playerId sender budget orderIndex order = .ok next) :
    order.recipientId ∈ state.players.keys ∧ canAfford budget (transferCost order) ∧
      next = spendBudget budget (transferCost order) := by
  unfold validateTransferOrder at h
  split at h
  · cases h
  · rename_i recipient hrecipient
    split at h
    · cases h
    · split at h
      · cases h
      · simp only at h
        split at h
        · cases h
        · rename_i hafford
          cases h
          exact ⟨OrdDict.mem_keys_of_get? hrecipient, not_not.1 hafford, rfl⟩

section Accepted

variable {envelope : OrderEnvelope} {state : MatchState} {mapDefinition : MapDefinition}

/-- A player's envelope is checked by the four loops, or nothing of it is accepted. -/
theorem validateOrderEnvelope_accepted (envelope : OrderEnvelope) (state : MatchState)
    (mapDefinition : MapDefinition) :
    (validateOrderEnvelope envelope state mapDefinition).accepted = .empty ∨
      ∃ player, state.players.get? envelope.playerId = some player ∧
        (validateOrderEnvelope envelope state mapDefinition).accepted =
          let recruitment := validateEach (validateRecruitmentOrder state envelope.playerId) 0 player.resources
            envelope.orders.recruitment
          let upgrades := validateEach (checkUpgrade state envelope.playerId) 0 (recruitment.2.2, [])
            envelope.orders.upgrades
          { movements := (validateEach (checkMovement state (buildAdjacencyIndex mapDefinition none)
              envelope.playerId) 0 [] envelope.orders.movements).1
            recruitment := recruitment.1
            upgrades := upgrades.1
            transfers := (validateEach (validateTransferOrder state (buildAdjacencyIndex mapDefinition (some .land))
              envelope.playerId player) 0 upgrades.2.2.1 envelope.orders.transfers).1.map
                fun order => { order with sender := some envelope.playerId } } := by
  unfold validateOrderEnvelope
  split
  · exact Or.inl rfl
  · split
    · exact Or.inl rfl
    · rename_i player hplayer
      exact Or.inr ⟨player, hplayer, rfl⟩

theorem accepted_movement {order : MovementOrder}
    (hmem : order ∈ (validateOrderEnvelope envelope state mapDefinition).accepted.movements) :
    ∃ army location, armyById state.armies order.armyId = some army ∧ order.destination ∈ state.cities.keys ∧
      army.owner = envelope.playerId ∧ army.location = some location ∧ army.destination = none ∧
      order.destination ∈ neighborsIn (buildAdjacencyIndex mapDefinition none) location := by
  rcases validateOrderEnvelope_accepted envelope state mapDefinition with hempty | ⟨player, -, haccepted⟩
  · rw [hempty] at hmem
    exact absurd hmem List.not_mem_nil
  · rw [haccepted] at hmem
    obtain ⟨seen, orderIndex, next, hcheck⟩ := check_of_mem_validateEach hmem
    exact validateMovementOrder_eq_none (checkMovement_eq_ok hcheck).2.1

theorem accepted_recruitment {order : RecruitmentOrder}
    (hmem : order ∈ (validateOrderEnvelope envelope state mapDefinition).accepted.recruitment) :
    ∃ city, state.cities.get? order.city = some city ∧ city.owner = some envelope.playerId := by
  rcases validateOrderEnvelope_accepted envelope state mapDefinition with hempty | ⟨player, -, haccepted⟩
  · rw [hempty] at hmem
    exact absurd hmem List.not_mem_nil
  · rw [haccepted] at hmem
    obtain ⟨budget, orderIndex, next, hcheck⟩ := check_of_mem_validateEach hmem
    obtain ⟨city, hcity, howner, -⟩ := validateRecruitmentOrder_eq_ok hcheck
    exact ⟨city, hcity, howner⟩

theorem accepted_upgrade {order : UpgradeOrder}
    (hmem : order ∈ (validateOrderEnvelope envelope state mapDefinition).accepted.upgrades) :
    ∃ city, state.cities.get? order.city = some city ∧ city.owner = some envelope.playerId ∧
      order.targetTier.toNat = city.upgrades.get order.track + 1 := by
  rcases validateOrderEnvelope_accepted envelope state mapDefinition with hempty | ⟨player, -, haccepted⟩
  · rw [hempty] at hmem
    exact absurd hmem List.not_mem_nil
  · rw [haccepted] at hmem
    obtain ⟨loopState, orderIndex, next, hcheck⟩ := check_of_mem_validateEach hmem
    obtain ⟨city, hcity, howner, htier, -⟩ := validateUpgradeOrder_eq_ok (checkUpgrade_eq_ok hcheck).2.1
    exact ⟨city, hcity, howner, htier⟩

theorem accepted_transfer {order : TransferOrder}
    (hmem : order ∈ (validateOrderEnvelope envelope state mapDefinition).accepted.transfers) :
    order.sender = some envelope.playerId ∧ envelope.playerId ∈ state.players.keys ∧
      order.recipientId ∈ state.players.keys := by
  rcases validateOrderEnvelope_accepted envelope state mapDefinition with hempty | ⟨player, hplayer, haccepted⟩
  · rw [hempty] at hmem
    exact absurd hmem List.not_mem_nil
  · rw [haccepted] at hmem
    obtain ⟨checked, hchecked, rfl⟩ := List.mem_map.1 hmem
    obtain ⟨budget, orderIndex, next, hcheck⟩ := check_of_mem_validateEach hchecked
    exact ⟨rfl, OrdDict.mem_keys_of_get? hplayer, (validateTransferOrder_eq_ok hcheck).1⟩

end Accepted

end IronCouncil
