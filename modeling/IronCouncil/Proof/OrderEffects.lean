import IronCouncil.Proof.BoardRuns
import IronCouncil.Proof.CityFrames

/-!
# What accepted orders do

The validator reads the state before the tick, and the resolver asks its own questions after earlier phases have changed the state. They agree on every accepted order but one kind: an upgrade of a track that is in the city's queue when the tick begins is accepted, and then neither started nor charged.
-/

namespace IronCouncil

/-! ### No order is accepted twice -/

/-- A loop that refuses the keys it has seen accepts each key once. -/
theorem validateEach_nodup {σ α κ : Type} {check : σ → Nat → α → Except RejectedOrder σ} {key : α → κ}
    {w : σ → List κ}
    (hcheck : ∀ before index order after, check before index order = .ok after →
      key order ∉ w before ∧ w after = key order :: w before)
    (orders : List α) (index : Nat) (loopState : σ) :
    ((validateEach check index loopState orders).1.map key).Nodup ∧
      ∀ order ∈ (validateEach check index loopState orders).1, key order ∉ w loopState := by
  induction orders generalizing index loopState with
  | nil => exact ⟨List.nodup_nil, fun order horder => absurd horder List.not_mem_nil⟩
  | cons first orders ih =>
      unfold validateEach
      split
      · exact ih (index + 1) loopState
      · rename_i next hok
        obtain ⟨hfresh, hseen⟩ := hcheck _ _ _ _ hok
        obtain ⟨hnodup, hlater⟩ := ih (index + 1) next
        rw [hseen] at hlater
        refine ⟨?_, ?_⟩
        · rw [List.map_cons, List.nodup_cons]
          refine ⟨?_, hnodup⟩
          intro hmem
          obtain ⟨order, horder, hkey⟩ := List.mem_map.1 hmem
          exact hlater order horder (hkey ▸ List.mem_cons_self)
        · intro order horder
          rcases List.mem_cons.1 horder with rfl | horder
          · exact hfresh
          · exact fun hmem => hlater order horder (List.mem_cons_of_mem _ hmem)

theorem accepted_armies_nodup (envelope : OrderEnvelope) (state : MatchState) (mapDefinition : MapDefinition) :
    ((validateOrderEnvelope envelope state mapDefinition).accepted.movements.map (·.armyId)).Nodup := by
  rcases validateOrderEnvelope_accepted envelope state mapDefinition with hempty | ⟨player, -, haccepted⟩
  · rw [hempty]
    exact List.nodup_nil
  · rw [haccepted]
    apply (validateEach_nodup (w := id) _ envelope.orders.movements 0 []).1
    intro before index order after hok
    obtain ⟨hfresh, -, hafter⟩ := checkMovement_eq_ok hok
    exact ⟨hfresh, hafter⟩

theorem accepted_targets_nodup (envelope : OrderEnvelope) (state : MatchState) (mapDefinition : MapDefinition) :
    ((validateOrderEnvelope envelope state mapDefinition).accepted.upgrades.map fun order =>
      (order.city, order.track)).Nodup := by
  rcases validateOrderEnvelope_accepted envelope state mapDefinition with hempty | ⟨player, -, haccepted⟩
  · rw [hempty]
    exact List.nodup_nil
  · rw [haccepted]
    apply (validateEach_nodup (w := Prod.snd) _ envelope.orders.upgrades 0 _).1
    intro before index order after hok
    obtain ⟨hfresh, -, hafter⟩ := checkUpgrade_eq_ok hok
    exact ⟨hfresh, hafter⟩

section Accepted

variable {state : MatchState} {submissions : List OrderEnvelope}

/-- Keys that tell a player's orders apart, and that no two players share, tell all accepted orders apart. -/
theorem accepted_nodup {α κ : Type} {mapDefinition : MapDefinition} {p : OrderBatch → List α} {key : α → κ}
    (hown : ∀ submission, ((p (validateOrderEnvelope submission state mapDefinition).accepted).map key).Nodup)
    (howner : ∀ submission submission', ∀ order ∈ p (validateOrderEnvelope submission state mapDefinition).accepted,
      ∀ order' ∈ p (validateOrderEnvelope submission' state mapDefinition).accepted, key order = key order' →
        submission.playerId = submission'.playerId)
    (submissions : List OrderEnvelope) :
    (((combineSubmissionsByPlayer submissions).flatMap fun submission =>
      p (validateOrderEnvelope submission state mapDefinition).accepted).map key).Nodup := by
  rw [List.map_flatMap, List.nodup_flatMap]
  refine ⟨fun submission _ => hown submission, ?_⟩
  have hplayers := combineSubmissionsByPlayer_nodup submissions
  rw [List.Nodup, List.pairwise_map] at hplayers
  apply hplayers.imp
  intro submission submission' hne
  simp only [Function.onFun]
  intro shared hshared hshared'
  obtain ⟨order, horder, rfl⟩ := List.mem_map.1 hshared
  obtain ⟨order', horder', hkey⟩ := List.mem_map.1 hshared'
  exact hne (howner submission submission' order horder order' horder' hkey.symm)

/-- The queued submissions after validation on a map. The server's ticks are on the 1900 map. -/
def validatedOrders (mapDefinition : MapDefinition) (state : MatchState) (submissions : List OrderEnvelope) :
    OrderBatch :=
  ((combineSubmissionsByPlayer submissions).map fun submission =>
    (validateOrderEnvelope submission state mapDefinition).accepted).foldl OrderBatch.append OrderBatch.empty

theorem validatedOrders_movements (mapDefinition : MapDefinition) (state : MatchState)
    (submissions : List OrderEnvelope) :
    (validatedOrders mapDefinition state submissions).movements = (combineSubmissionsByPlayer submissions).flatMap
      fun submission => (validateOrderEnvelope submission state mapDefinition).accepted.movements := by
  rw [validatedOrders, foldl_append_part (·.movements) rfl fun _ _ => rfl, List.flatMap_map]

theorem movements_nodup (mapDefinition : MapDefinition) (state : MatchState) (submissions : List OrderEnvelope) :
    ((validatedOrders mapDefinition state submissions).movements.map (·.armyId)).Nodup := by
  rw [validatedOrders_movements]
  apply accepted_nodup (p := OrderBatch.movements) fun submission => accepted_armies_nodup submission state mapDefinition
  intro submission submission' order horder order' horder' hkey
  obtain ⟨army, location, harmy, -, howner, -⟩ := accepted_movement horder
  obtain ⟨army', location', harmy', -, howner', -⟩ := accepted_movement horder'
  rw [hkey, harmy'] at harmy
  cases harmy
  exact howner.symm.trans howner'

theorem validatedOrders_upgrades (mapDefinition : MapDefinition) (state : MatchState)
    (submissions : List OrderEnvelope) :
    (validatedOrders mapDefinition state submissions).upgrades = (combineSubmissionsByPlayer submissions).flatMap
      fun submission => (validateOrderEnvelope submission state mapDefinition).accepted.upgrades := by
  rw [validatedOrders, foldl_append_part (·.upgrades) rfl fun _ _ => rfl, List.flatMap_map]

theorem upgrades_nodup (mapDefinition : MapDefinition) (state : MatchState) (submissions : List OrderEnvelope) :
    ((validatedOrders mapDefinition state submissions).upgrades.map fun order => (order.city, order.track)).Nodup := by
  rw [validatedOrders_upgrades]
  apply accepted_nodup (p := OrderBatch.upgrades) fun submission => accepted_targets_nodup submission state mapDefinition
  intro submission submission' order horder order' horder' hkey
  obtain ⟨city, hcity, howner, -⟩ := accepted_upgrade horder
  obtain ⟨city', hcity', howner', -⟩ := accepted_upgrade horder'
  rw [(Prod.mk.inj hkey).1, hcity'] at hcity
  cases hcity
  exact Option.some.inj (howner.symm.trans howner')

end Accepted

section Players

variable {mapDefinition : MapDefinition} {state : MatchState} {submission : OrderEnvelope}

theorem accepted_player (h : (validateOrderEnvelope submission state mapDefinition).accepted ≠ .empty) :
    submission.playerId ∈ state.players.keys := by
  rcases validateOrderEnvelope_accepted submission state mapDefinition with hempty | ⟨player, hplayer, -⟩
  · exact absurd hempty h
  · exact OrdDict.mem_keys_of_get? hplayer

/-- Orders of one kind, accepted from a player's submission, are those of a player of the match. -/
theorem accepted_order_player {ι : Type} (orders : OrderBatch → List ι) (hnone : orders .empty = []) {order : ι}
    (h : order ∈ orders (validateOrderEnvelope submission state mapDefinition).accepted) :
    submission.playerId ∈ state.players.keys := by
  refine accepted_player (show (validateOrderEnvelope submission state mapDefinition).accepted ≠ .empty from ?_)
  intro hempty
  rw [hempty, hnone] at h
  cases h

end Players

/-! ### Departures -/

/-- A city is next to another in the index because an edge of the map joins them. -/
theorem exists_edge_of_adjacent {mapDefinition : MapDefinition} {traversalMode : Option TraversalMode}
    {cityA cityB : String} (h : cityB ∈ neighborsIn (buildAdjacencyIndex mapDefinition traversalMode) cityA) :
    ∃ edge ∈ mapDefinition.edges, edge.joins cityA cityB := by
  obtain ⟨edge, hedge, -, hjoins⟩ := mem_neighborsIn_buildAdjacencyIndex.1 h
  exact ⟨edge, hedge, hjoins⟩

theorem edgeDistanceByRoute_of_adjacent {mapDefinition : MapDefinition} {traversalMode : Option TraversalMode}
    {cityA cityB : String} (h : cityB ∈ neighborsIn (buildAdjacencyIndex mapDefinition traversalMode) cityA) :
    ∃ distance, edgeDistanceByRoute mapDefinition cityA cityB = some distance := by
  obtain ⟨edge, hedge, hjoins⟩ := exists_edge_of_adjacent h
  have hne : (mapDefinition.edges.filter fun edge => edge.joins cityA cityB).map (·.distanceTicks) ≠ [] :=
    List.ne_nil_of_mem (List.mem_map_of_mem (List.mem_filter.2 ⟨hedge, decide_eq_true hjoins⟩))
  exact ⟨_, List.getLast?_eq_some_getLast hne⟩

/-! #### The army an id refers to -/

theorem armyById_map {f : ArmyState → ArmyState} (hf : ∀ army, (f army).id = army.id) (armies : List ArmyState)
    (armyId : String) : armyById (armies.map f) armyId = (armyById armies armyId).map f := by
  unfold armyById
  rw [List.filter_map, List.getLast?_map]
  simp only [Function.comp_def, hf]

theorem armyById_depart (mapDefinition : MapDefinition) (state : MatchState) (order : MovementOrder) (armyId : String) :
    armyById (startMovementOrder mapDefinition state order).armies armyId =
      if armyId = order.armyId then
        (armyById state.armies armyId).map (departArmy mapDefinition order.destination)
      else armyById state.armies armyId := by
  unfold armyById startMovementOrder
  simp only
  split
  · rename_i hid
    rw [hid, List.getLast?_filter_modifyLastWhere]
    intro army
    rw [departArmy_frame mapDefinition order.destination army |>.1]
  · rename_i hid
    rw [List.filter_modifyLastWhere]
    intro army harmy
    have hordered : army.id = order.armyId := of_decide_eq_true harmy
    rw [(departArmy_frame mapDefinition order.destination army).1, hordered]
    simp [Ne.symm hid]

/-- Of orders for different armies, each army carries out its own. -/
theorem armyById_startMovementOrders (mapDefinition : MapDefinition) {orders : List MovementOrder}
    (hnodup : (orders.map (·.armyId)).Nodup) {order : MovementOrder} (horder : order ∈ orders) (state : MatchState) :
    armyById (startMovementOrders mapDefinition state orders).armies order.armyId =
      (armyById state.armies order.armyId).map (departArmy mapDefinition order.destination) := by
  have hothers : ∀ (others : List MovementOrder) (board : MatchState), order.armyId ∉ others.map (·.armyId) →
      armyById (startMovementOrders mapDefinition board others).armies order.armyId =
        armyById board.armies order.armyId := by
    intro others
    induction others with
    | nil => exact fun board _ => rfl
    | cons other others ih =>
        intro board hne
        rw [List.map_cons, List.mem_cons, not_or] at hne
        show armyById (startMovementOrders mapDefinition (startMovementOrder mapDefinition board other) others).armies
          order.armyId = _
        rw [ih _ hne.2, armyById_depart, if_neg hne.1]
  induction orders generalizing state with
  | nil => exact absurd horder List.not_mem_nil
  | cons first orders ih =>
      rw [List.map_cons, List.nodup_cons] at hnodup
      show armyById (startMovementOrders mapDefinition (startMovementOrder mapDefinition state first) orders).armies
        order.armyId = _
      rcases List.mem_cons.1 horder with rfl | hlater
      · rw [hothers orders _ hnodup.1, armyById_depart, if_pos rfl]
      · have hne : order.armyId ≠ first.armyId := fun heq => hnodup.1 (heq ▸ List.mem_map_of_mem hlater)
        rw [ih hnodup.2 hlater, armyById_depart, if_neg hne]

/-- An army but for its troops. -/
def ArmyState.position (army : ArmyState) : ArmyState := { army with troops := 0 }

theorem armyById_position_musterTroops {state : MatchState} {armyId : String} {army : ArmyState}
    (h : (armyById state.armies armyId).map ArmyState.position = some army) (owner : String) (order : RecruitmentOrder) :
    (armyById (musterTroops state owner order).armies armyId).map ArmyState.position = some army := by
  have hposition : ∀ armies : List ArmyState, (armyById armies armyId).map ArmyState.position =
      armyById (armies.map ArmyState.position) armyId :=
    fun armies => (armyById_map (f := ArmyState.position) (fun _ => rfl) armies armyId).symm
  unfold musterTroops
  split
  · rw [hposition] at h ⊢
    simp only
    rw [List.map_modifyFirstWhere]
    · exact h
    · exact fun _ => rfl
  · have hfresh : nextRecruitmentArmyId owner order.city (state.armies.map (·.id)) ∉ state.armies.map (·.id) :=
      nextFree_not_mem (numberedName_injective _) _ _
    obtain ⟨found, hfound, -⟩ := Option.map_eq_some_iff.1 h
    have hmem := List.mem_of_getLast? hfound
    obtain ⟨hmem, hid⟩ := List.mem_filter.1 hmem
    have hne : nextRecruitmentArmyId owner order.city (state.armies.map (·.id)) ≠ armyId := by
      intro heq
      rw [heq, ← of_decide_eq_true hid] at hfresh
      exact hfresh (List.mem_map_of_mem hmem)
    unfold armyById at h ⊢
    simp only
    rw [List.filter_append, List.filter_singleton]
    simpa [hne] using h

theorem armies_processRecruitmentOrder (state : MatchState) (order : RecruitmentOrder) :
    processRecruitmentOrder state order = state ∨
      ∃ board owner, board.armies = state.armies ∧ payingOwner state order.city = some owner ∧
        processRecruitmentOrder state order = musterTroops board owner order := by
  unfold processRecruitmentOrder
  split
  · exact Or.inl rfl
  · rename_i owner hpayer
    exact Or.inr ⟨_, owner, by simp, hpayer, rfl⟩

/-- After the recruitment the build phase touches no army. -/
theorem armies_resolveBuildPhase (state : MatchState) (orders : OrderBatch) :
    (resolveBuildPhase state orders).armies =
      (processRecruitmentOrders (advanceBuildQueues state) orders.recruitment).armies := by
  have htransfer : ∀ board order, (processTransferOrder board order).armies = board.armies := by
    intro board order
    unfold processTransferOrder
    split <;> simp
  have hupgrade : ∀ queuedTracks board order, (startUpgradeOrder queuedTracks board order).armies = board.armies := by
    intro queuedTracks board order
    unfold startUpgradeOrder
    split <;> simp
  unfold resolveBuildPhase processTransferOrders startUpgradeOrders
  simp only
  rw [Run.frame_foldl (g := MatchState.armies) htransfer, Run.frame_foldl (g := MatchState.armies) (hupgrade _)]

theorem armyById_position_resolveBuildPhase {state : MatchState} {armyId : String} {army : ArmyState}
    (h : (armyById state.armies armyId).map ArmyState.position = some army) (orders : OrderBatch) :
    (armyById (resolveBuildPhase state orders).armies armyId).map ArmyState.position = some army := by
  have hstep : ∀ (board : MatchState) (order : RecruitmentOrder),
      (armyById board.armies armyId).map ArmyState.position = some army →
      (armyById (processRecruitmentOrder board order).armies armyId).map ArmyState.position = some army := by
    intro board order hboard
    rcases armies_processRecruitmentOrder board order with hsame | ⟨board', owner, harmies, -, hmuster⟩
    · rwa [hsame]
    · rw [hmuster]
      rw [← harmies] at hboard
      exact armyById_position_musterTroops hboard owner order
  have hstart : (armyById (advanceBuildQueues state).armies armyId).map ArmyState.position = some army := h
  rw [armies_resolveBuildPhase]
  exact Run.invariant_foldl
    (I := fun board : MatchState => (armyById board.armies armyId).map ArmyState.position = some army) hstep hstart _

/-- An ordered army has left for its destination, the whole way before it. -/
def ArmyDeparted (mapDefinition : MapDefinition) (state moved : MatchState) (order : MovementOrder) : Prop :=
  ∃ army location distance troops, armyById state.armies order.armyId = some army ∧ army.location = some location ∧
    edgeDistanceByRoute mapDefinition location order.destination = some distance ∧
    armyById moved.armies order.armyId = some
      { army with
        troops := troops
        location := none
        destination := some order.destination
        path := some [order.destination]
        ticksRemaining := distance }

theorem armyDeparted_accepted {mapDefinition : MapDefinition} {state supplied : MatchState}
    (harmies : supplied.armies = state.armies) (submissions : List OrderEnvelope) {order : MovementOrder}
    (horder : order ∈ (validatedOrders mapDefinition state submissions).movements) :
    ArmyDeparted mapDefinition state
      (resolveMovementPhase mapDefinition
        (resolveBuildPhase supplied (validatedOrders mapDefinition state submissions))
        (validatedOrders mapDefinition state submissions)) order := by
  have hmem := horder
  rw [validatedOrders_movements] at hmem
  obtain ⟨submission, -, haccepted⟩ := List.mem_flatMap.1 hmem
  obtain ⟨army, location, harmy, -, -, hlocation, hdestination, hadjacent⟩ := accepted_movement haccepted
  obtain ⟨distance, hdistance⟩ := edgeDistanceByRoute_of_adjacent hadjacent
  have hposition : (armyById supplied.armies order.armyId).map ArmyState.position = some army.position := by
    rw [harmies, harmy]
    rfl
  obtain ⟨built, hbuilt, hsame⟩ := Option.map_eq_some_iff.1
    (armyById_position_resolveBuildPhase hposition (validatedOrders mapDefinition state submissions))
  have hbuiltEq : built = { army with troops := built.troops } := by
    obtain ⟨id, owner, troops, armyLocation, destination, path, ticksRemaining⟩ := army
    obtain ⟨id', owner', troops', armyLocation', destination', path', ticksRemaining'⟩ := built
    simp only [ArmyState.position, ArmyState.mk.injEq] at hsame ⊢
    omega
  have hrested : advanceTransitArmy built = built := by
    unfold advanceTransitArmy
    rw [hbuiltEq]
    simp only [hdestination]
  refine ⟨army, location, distance, built.troops, harmy, hlocation, hdistance, ?_⟩
  unfold resolveMovementPhase
  rw [armyById_startMovementOrders mapDefinition (movements_nodup mapDefinition state submissions) horder]
  unfold advanceTransitArmies
  simp only
  rw [armyById_map fun army => (advanceTransitArmy_frame army).1, hbuilt, Option.map_some, Option.map_some, hrested]
  unfold departArmy
  rw [hbuiltEq]
  simp only [hlocation, hdestination, hdistance]

/-! ### Recruits -/

/-- The troops a player has standing in a city. -/
def stationedTroops (state : MatchState) (playerId cityId : String) : Nat :=
  (state.armies.map fun army => if army.owner = playerId ∧ army.stationedAt cityId then army.troops else 0).sum

theorem stationedTroops_musterTroops (state : MatchState) (owner : String) (order : RecruitmentOrder)
    (playerId cityId : String) :
    stationedTroops (musterTroops state owner order) playerId cityId =
      stationedTroops state playerId cityId + if owner = playerId ∧ order.city = cityId then order.troops else 0 := by
  unfold musterTroops stationedTroops
  split
  · rename_i stationed hstationed
    have hmem := List.mem_of_mem_head? hstationed
    rw [List.mem_insertionSort, List.mem_filter] at hmem
    obtain ⟨hmem, hplace⟩ := hmem
    obtain ⟨howner, hcity⟩ := of_decide_eq_true hplace
    apply List.sum_map_modifyFirstWhere
    · intro army harmy
      obtain ⟨hown, hstands, -⟩ := of_decide_eq_true harmy
      have hlocation : army.location = some order.city := (of_decide_eq_true hstands).1
      have hdestination : army.destination = none := (of_decide_eq_true hstands).2
      simp only [ArmyState.stationedAt, hown, hlocation, hdestination, Option.some.injEq, and_true, decide_eq_true_eq]
      split <;> rfl
    · exact ⟨stationed, hmem, decide_eq_true ⟨howner, hcity, rfl⟩⟩
  · rw [List.map_append, List.sum_append, List.map_singleton, List.sum_singleton]
    simp [ArmyState.stationedAt]

/-- What the recruitment orders of a batch bring a player in a city. -/
def recruits (state : MatchState) (playerId cityId : String) (orders : OrderBatch) : Nat :=
  (orders.recruitment.map fun order =>
    if state.cityOwner order.city = some playerId ∧ order.city = cityId then order.troops else 0).sum

theorem stationedTroops_processRecruitmentOrders (state : MatchState) (orders : List RecruitmentOrder)
    (playerId cityId : String) :
    stationedTroops (processRecruitmentOrders state orders) playerId cityId =
      stationedTroops state playerId cityId +
        (orders.map fun order =>
          if payingOwner state order.city = some playerId ∧ order.city = cityId then order.troops else 0).sum := by
  have hstep : ∀ (board : MatchState) (order : RecruitmentOrder), payingOwner board = payingOwner state →
      payingOwner (processRecruitmentOrder board order) = payingOwner state ∧
        stationedTroops (processRecruitmentOrder board order) playerId cityId =
          stationedTroops board playerId cityId +
            if payingOwner state order.city = some playerId ∧ order.city = cityId then order.troops else 0 := by
    intro board order hpayer
    refine ⟨(payingOwner_processRecruitmentOrder board order).1.trans hpayer, ?_⟩
    unfold processRecruitmentOrder
    rw [hpayer]
    split
    · rename_i hnone
      simp [hnone]
    · rename_i owner howner
      simp only
      rw [stationedTroops_musterTroops, howner]
      simp [stationedTroops]
  unfold processRecruitmentOrders
  rw [Run.sum_foldl (g := fun board => stationedTroops board playerId cityId) hstep rfl,
    ((List.perm_insertionSort _ orders).map _).sum_eq]

/-- On accepted orders, the city's owner is the player who ordered. -/
theorem stationedTroops_built {state supplied : MatchState} (howner : supplied.cityOwner = state.cityOwner)
    (hkeys : supplied.players.keys = state.players.keys) (harmies : supplied.armies = state.armies)
    (submissions : List OrderEnvelope) (playerId cityId : String) :
    stationedTroops (resolveBuildPhase supplied (validateQueuedOrders state submissions)) playerId cityId =
      stationedTroops state playerId cityId +
        recruits state playerId cityId (validateQueuedOrders state submissions) := by
  have hpayer : ∀ order ∈ (validateQueuedOrders state submissions).recruitment,
      payingOwner (advanceBuildQueues supplied) order.city = state.cityOwner order.city := by
    intro order horder
    rw [validateQueuedOrders_recruitment] at horder
    obtain ⟨submission, -, haccepted⟩ := List.mem_flatMap.1 horder
    have hordered := (acceptedOrders_own _ submission).1 order haccepted
    rw [payingOwner_advanceBuildQueues, hordered, payingOwner_eq_some, howner, hkeys]
    exact ⟨hordered, accepted_order_player (·.recruitment) rfl haccepted⟩
  have hstart : stationedTroops (advanceBuildQueues supplied) playerId cityId = stationedTroops state playerId cityId := by
    unfold stationedTroops
    rw [← harmies]
    rfl
  have hbuilt := stationedTroops_processRecruitmentOrders (advanceBuildQueues supplied)
    (validateQueuedOrders state submissions).recruitment playerId cityId
  rw [List.map_congr_left fun order horder => by rw [hpayer order horder], hstart] at hbuilt
  unfold stationedTroops at hbuilt ⊢
  rw [armies_resolveBuildPhase, hbuilt]
  rfl

/-! ### Upgrades -/

/-- The orders without the upgrades of a track that is queued when the build phase begins. -/
def startedOrders (state : MatchState) (orders : OrderBatch) : OrderBatch :=
  { orders with
    upgrades := orders.upgrades.filter fun order => order.track ∉ queuedTracksAtPhaseStart state order.city }

theorem startUpgradeOrders_filter (queuedTracks : String → List UpgradeTrack) (state : MatchState)
    (orders : List UpgradeOrder) :
    startUpgradeOrders queuedTracks state (orders.filter fun order => order.track ∉ queuedTracks order.city) =
      startUpgradeOrders queuedTracks state orders := by
  induction orders generalizing state with
  | nil => rfl
  | cons order orders ih =>
      by_cases hqueued : order.track ∈ queuedTracks order.city
      · have hblocked : startUpgradeOrder queuedTracks state order = state := by
          unfold startUpgradeOrder upgradePayer
          rw [if_pos hqueued]
        rw [List.filter_cons_of_neg (by simpa using hqueued), ih]
        show _ = startUpgradeOrders queuedTracks (startUpgradeOrder queuedTracks state order) orders
        rw [hblocked]
      · rw [List.filter_cons_of_pos (by simpa using hqueued)]
        exact ih _

/-- An upgrade of a queued track is as good as not ordered. -/
theorem resolveBuildPhase_startedOrders (state : MatchState) (orders : OrderBatch) :
    resolveBuildPhase state (startedOrders state orders) = resolveBuildPhase state orders := by
  unfold resolveBuildPhase startedOrders
  simp only
  rw [startUpgradeOrders_filter]

def buildingQueueOf (state : MatchState) (cityId : String) : List BuildingQueueItem :=
  ((state.cities.get? cityId).map (·.buildingQueue)).getD []

theorem buildingQueueOf_congr {state state' : MatchState} (h : state'.cities = state.cities) :
    buildingQueueOf state' = buildingQueueOf state := by
  unfold buildingQueueOf
  rw [h]

def upgradeItem (order : UpgradeOrder) : BuildingQueueItem where
  type := order.track
  tier := order.targetTier
  ticksRemaining := tierEntry upgradeBuildDurations order.targetTier.toNat

theorem buildingQueueOf_startUpgradeOrder {queuedTracks : String → List UpgradeTrack} {state : MatchState}
    {order : UpgradeOrder} {owner : String} (h : upgradePayer queuedTracks state order = some owner) (cityId : String) :
    buildingQueueOf (startUpgradeOrder queuedTracks state order) cityId =
      buildingQueueOf state cityId ++ if order.city = cityId then [upgradeItem order] else [] := by
  have hpaying : payingOwner state order.city = some owner := by
    unfold upgradePayer at h
    split at h
    · cases h
    · exact h
  obtain ⟨city, hcity, -⟩ := MatchState.cityOwner_eq_some.1 (payingOwner_eq_some.1 hpaying).1
  unfold startUpgradeOrder
  rw [h]
  unfold enqueueUpgrade buildingQueueOf MatchState.modifyCity
  simp only [MatchState.credit_cities, OrdDict.get?_modify]
  by_cases hsame : cityId = order.city
  · rw [if_pos hsame, if_pos hsame.symm, hsame, hcity]
    rfl
  · rw [if_neg hsame, if_neg (Ne.symm hsame), List.append_nil]

theorem buildingQueueOf_startUpgradeOrders {queuedTracks : String → List UpgradeTrack} {state : MatchState}
    {orders : List UpgradeOrder} (h : ∀ order ∈ orders, ∃ owner, upgradePayer queuedTracks state order = some owner)
    (cityId : String) :
    buildingQueueOf (startUpgradeOrders queuedTracks state orders) cityId =
      buildingQueueOf state cityId ++ (orders.filter (·.city = cityId)).map upgradeItem := by
  induction orders generalizing state with
  | nil => exact (List.append_nil _).symm
  | cons order orders ih =>
      obtain ⟨⟨owner, howner⟩, hrest⟩ := List.forall_mem_cons.1 h
      have hnext : ∀ later ∈ orders, ∃ owner,
          upgradePayer queuedTracks (startUpgradeOrder queuedTracks state order) later = some owner := by
        simpa using hrest
      show buildingQueueOf (startUpgradeOrders queuedTracks (startUpgradeOrder queuedTracks state order) orders) cityId = _
      rw [ih hnext, buildingQueueOf_startUpgradeOrder howner, List.append_assoc]
      by_cases hcity : order.city = cityId
      · simp [hcity]
      · simp [hcity]

theorem queuedTracksAtPhaseStart_congr {state state' : MatchState} (h : state'.cities = state.cities) :
    queuedTracksAtPhaseStart state' = queuedTracksAtPhaseStart state := by
  unfold queuedTracksAtPhaseStart
  rw [h]

theorem startedOrders_congr {state state' : MatchState} (h : state'.cities = state.cities) :
    startedOrders state' = startedOrders state := by
  unfold startedOrders
  rw [queuedTracksAtPhaseStart_congr h]

/-- Everything the accepted upgrades ask for is queued, but for those of a queued track. -/
theorem buildingQueueOf_validated {mapDefinition : MapDefinition} {state supplied : MatchState}
    (hcities : supplied.cities = state.cities) (hkeys : supplied.players.keys = state.players.keys) (submissions : List OrderEnvelope) (cityId : String) :
    buildingQueueOf (resolveBuildPhase supplied (validatedOrders mapDefinition state submissions)) cityId =
      buildingQueueOf (advanceBuildQueues state) cityId ++
        ((startedOrders state (validatedOrders mapDefinition state submissions)).upgrades.filter (·.city = cityId)).map
          upgradeItem := by
  have hadvanced : (advanceBuildQueues supplied).cities = (advanceBuildQueues state).cities := by
    unfold advanceBuildQueues
    rw [hcities]
  have hrecruitment : (processRecruitmentOrders (advanceBuildQueues supplied)
      (validatedOrders mapDefinition state submissions).recruitment).cities = (advanceBuildQueues state).cities :=
    (cities_processRecruitmentOrders _ _).trans hadvanced
  have hpayer : ∀ order ∈ (startedOrders state (validatedOrders mapDefinition state submissions)).upgrades, ∃ owner,
      upgradePayer (queuedTracksAtPhaseStart supplied)
        (processRecruitmentOrders (advanceBuildQueues supplied) (validatedOrders mapDefinition state submissions).recruitment)
        order = some owner := by
    intro order horder
    obtain ⟨haccepted, hunqueued⟩ := List.mem_filter.1 horder
    rw [validatedOrders_upgrades] at haccepted
    obtain ⟨submission, -, haccepted⟩ := List.mem_flatMap.1 haccepted
    obtain ⟨city, hcity, howner, -⟩ := accepted_upgrade haccepted
    have hordered := MatchState.cityOwner_eq_some.2 ⟨city, hcity, howner⟩
    have hpayingOwner : payingOwner (processRecruitmentOrders (advanceBuildQueues supplied)
        (validatedOrders mapDefinition state submissions).recruitment) = payingOwner supplied := by
      unfold processRecruitmentOrders
      rw [Run.frame_foldl (g := payingOwner) fun board order => (payingOwner_processRecruitmentOrder board order).1,
        payingOwner_advanceBuildQueues]
    refine ⟨submission.playerId, ?_⟩
    unfold upgradePayer
    rw [if_neg (by simpa [queuedTracksAtPhaseStart_congr hcities] using hunqueued), hpayingOwner, payingOwner_eq_some,
      MatchState.cityOwner_congr hcities, hkeys]
    exact ⟨hordered, accepted_order_player (·.upgrades) rfl haccepted⟩
  rw [← resolveBuildPhase_startedOrders, startedOrders_congr hcities]
  unfold resolveBuildPhase
  simp only
  rw [buildingQueueOf_congr (cities_processTransferOrders _ _)]
  show buildingQueueOf (startUpgradeOrders _ (processRecruitmentOrders (advanceBuildQueues supplied)
    (validatedOrders mapDefinition state submissions).recruitment) _) cityId = _
  rw [buildingQueueOf_startUpgradeOrders hpayer, buildingQueueOf_congr hrecruitment]

theorem buildingQueueOf_built {state supplied : MatchState} (hcities : supplied.cities = state.cities)
    (hkeys : supplied.players.keys = state.players.keys) (submissions : List OrderEnvelope) (cityId : String) :
    buildingQueueOf (resolveBuildPhase supplied (validateQueuedOrders state submissions)) cityId =
      buildingQueueOf (advanceBuildQueues state) cityId ++
        ((startedOrders state (validateQueuedOrders state submissions)).upgrades.filter (·.city = cityId)).map
          upgradeItem :=
  buildingQueueOf_validated hcities hkeys submissions cityId

/-! ### Charges -/

/-- What a player's accepted orders cost the player, upgrades of queued tracks apart. -/
def charges (state : MatchState) (submissions : List OrderEnvelope) (playerId : String) (resource : ResourceType) : Int :=
  ((combineSubmissionsByPlayer submissions).map fun submission =>
    if submission.playerId = playerId then batchCost resource (startedOrders state (acceptedOrders state submission))
    else 0).sum

theorem spending_startedOrders (state : MatchState) (submissions : List OrderEnvelope) (playerId : String)
    (resource : ResourceType) :
    spending state playerId resource (startedOrders state (validateQueuedOrders state submissions)) =
      charges state submissions playerId resource := by
  have happend : ∀ first second : OrderBatch, startedOrders state (first.append second) =
      (startedOrders state first).append (startedOrders state second) := by
    intro first second
    unfold startedOrders OrderBatch.append
    simp
  have hown : ∀ submission : OrderEnvelope,
      spending state playerId resource (startedOrders state (acceptedOrders state submission)) =
        if submission.playerId = playerId then batchCost resource (startedOrders state (acceptedOrders state submission))
        else 0 := by
    intro submission
    obtain ⟨hrecruitment, hupgrades, htransfers⟩ := acceptedOrders_own state submission
    refine spending_of_own ?_ ?_ ?_
    · exact hrecruitment
    · exact fun order horder => hupgrades order (List.mem_filter.1 horder).1
    · exact htransfers
  have hsum := Run.sum_foldl (s := OrderBatch.empty)
    (g := fun batch => spending state playerId resource (startedOrders state batch))
    (d := fun batch => spending state playerId resource (startedOrders state batch)) (I := fun _ => True)
    (fun batch next _ => ⟨trivial, by rw [happend, spending_append]⟩) trivial
    ((combineSubmissionsByPlayer submissions).map (acceptedOrders state))
  unfold charges validateQueuedOrders
  rw [hsum, List.map_map]
  simp only [Function.comp_def, hown]
  exact Int.zero_add _

/-- A player pays for what is started, once, and receives what is sent. -/
theorem balance_built_eq {state supplied : MatchState} (hcities : supplied.cities = state.cities)
    (hkeys : supplied.players.keys = state.players.keys) (submissions : List OrderEnvelope) {playerId : String}
    (hplayer : playerId ∈ state.players.keys) (resource : ResourceType) :
    (resolveBuildPhase supplied (validateQueuedOrders state submissions)).balance playerId resource =
      supplied.balance playerId resource - charges state submissions playerId resource +
        received playerId resource (validateQueuedOrders state submissions) := by
  have howner := MatchState.cityOwner_congr hcities
  have hbuilt := balance_resolveBuildPhase (hkeys ▸ hplayer) resource
    (startedOrders supplied (validateQueuedOrders state submissions))
  have hrecruitment : recruitmentDebit (payingOwner supplied) playerId resource = _ :=
    funext fun order => recruitmentDebit_eq howner (hkeys ▸ hplayer) order
  have hupgrades : ∀ order ∈ (startedOrders supplied (validateQueuedOrders state submissions)).upgrades,
      upgradeDebit (upgradePayer (queuedTracksAtPhaseStart supplied) supplied) playerId resource order =
        if state.cityOwner order.city = some playerId then ((upgradeCost order).get resource : Int) else 0 := by
    intro order horder
    obtain ⟨-, hunqueued⟩ := List.mem_filter.1 horder
    unfold upgradeDebit upgradePayer
    rw [if_neg (of_decide_eq_true hunqueued)]
    simp only [payingOwner_eq_some, howner, hkeys, hplayer, and_true]
  have htransfers := sum_transferGain playerId resource hkeys (validateQueuedOrders state submissions).transfers
    fun order horder => by
      rw [validateQueuedOrders_transfers] at horder
      obtain ⟨submission, -, haccepted⟩ := List.mem_flatMap.1 horder
      obtain ⟨hsender, hmem, hrecipient⟩ := accepted_transfer haccepted
      exact ⟨⟨submission.playerId, hmem, hsender⟩, hrecipient⟩
  rw [resolveBuildPhase_startedOrders, List.map_congr_left hupgrades, hrecruitment, startedOrders_congr hcities] at hbuilt
  change _ = _ - _ - _ + ((validateQueuedOrders state submissions).transfers.map _).sum at hbuilt
  rw [htransfers] at hbuilt
  rw [hbuilt, ← spending_startedOrders]
  unfold spending received startedOrders
  simp only
  omega

/-! ### The orders of a tick -/

/-- What the accepted orders of a tick do to the board that the resource phase leaves. -/
structure OrdersTakeEffect (state supplied : MatchState) (submissions : List OrderEnvelope) : Prop where
  departed : ∀ order ∈ (validateQueuedOrders state submissions).movements,
    ArmyDeparted loadUk1900Map state
      (resolveMovementPhase loadUk1900Map (resolveBuildPhase supplied (validateQueuedOrders state submissions))
        (validateQueuedOrders state submissions)) order
  recruited : ∀ playerId cityId,
    stationedTroops (resolveBuildPhase supplied (validateQueuedOrders state submissions)) playerId cityId =
      stationedTroops state playerId cityId +
        recruits state playerId cityId (validateQueuedOrders state submissions)
  queued : ∀ cityId,
    buildingQueueOf (resolveBuildPhase supplied (validateQueuedOrders state submissions)) cityId =
      buildingQueueOf (advanceBuildQueues state) cityId ++
        ((startedOrders state (validateQueuedOrders state submissions)).upgrades.filter (·.city = cityId)).map
          upgradeItem
  once : ((validateQueuedOrders state submissions).upgrades.map fun order => (order.city, order.track)).Nodup
  charged : ∀ playerId ∈ state.players.keys, ∀ resource,
    (resolveBuildPhase supplied (validateQueuedOrders state submissions)).balance playerId resource =
      supplied.balance playerId resource - charges state submissions playerId resource +
        received playerId resource (validateQueuedOrders state submissions)
  blocked : resolveBuildPhase supplied (validateQueuedOrders state submissions) =
    resolveBuildPhase supplied (startedOrders state (validateQueuedOrders state submissions))

theorem supplied_of_fieldsValid {state : MatchState} (h : state.FieldsValid) : Supplied state := by
  obtain ⟨hcities, -, hplayers⟩ := h
  refine ⟨?_, ?_⟩
  · intro playerId hplayer
    obtain ⟨player, hget⟩ := OrdDict.mem_keys.1 hplayer
    rw [balance_of_get? hget]
    exact (hplayers player (OrdDict.mem_values.2 ⟨playerId, hget⟩)).2.1
  · intro cityId resources hpurse
    obtain ⟨city, hget, rfl⟩ := Option.map_eq_some_iff.1 hpurse
    exact (hcities city (OrdDict.mem_values.2 ⟨cityId, hget⟩)).1

/-- In a tick of a valid state every accepted order takes effect, except the upgrade of a track that is queued in its city when the tick begins. -/
theorem acceptedOrders_takeEffect {state : MatchState} (hvalid : state.FieldsValid) (submissions : List OrderEnvelope) :
    ∃ supplied phaseState, resolveResourcePhase state ⟨loadUk1900Map, [], []⟩ = .ok (supplied, phaseState) ∧
      OrdersTakeEffect state supplied submissions := by
  obtain ⟨supplied, phaseState, hresource⟩ :=
    resolveResourcePhase_total (supplied_of_fieldsValid hvalid) ⟨loadUk1900Map, [], []⟩
  obtain ⟨hcities, harmies⟩ := resolveResourcePhase_board hresource
  have hkeys := keys_of_tickFrame (tickFrame_resolveResourcePhase hresource)
  refine ⟨supplied, phaseState, hresource, ?_⟩
  exact
    { departed := fun order horder => armyDeparted_accepted harmies submissions horder
      recruited := stationedTroops_built (MatchState.cityOwner_congr hcities) hkeys harmies submissions
      queued := buildingQueueOf_built hcities hkeys submissions
      once := upgrades_nodup loadUk1900Map state submissions
      charged := fun playerId hplayer resource => balance_built_eq hcities hkeys submissions hplayer resource
      blocked := by rw [← resolveBuildPhase_startedOrders, startedOrders_congr hcities] }

/-- The duel with an economy upgrade of London in its last tick, and an order for the same upgrade. -/
def busyState : MatchState :=
  { duelState with
    cities := OrdDict.ofList
      [("london", { duelCity "p1" with buildingQueue := [⟨.economy, .trenches, 1⟩] }), ("southampton", duelCity "p2")] }

def busyUpgrade : OrderEnvelope where
  matchId := "duel"
  playerId := "p1"
  tick := 0
  orders := { OrderBatch.empty with upgrades := [⟨"london", .economy, .trenches⟩] }

/-- The same duel with plenty to spend. -/
def stockedState : MatchState :=
  { busyState with
    players := OrdDict.ofList
      [("p1", { duelPlayer "london" with resources := ⟨20, 40, 40⟩ }), ("p2", duelPlayer "southampton")] }

/-- Orders of every kind, with an upgrade of the queued track and one of a free track. -/
def busyOrders (sender : Option String) : OrderEnvelope where
  matchId := "duel"
  playerId := "p1"
  tick := 0
  orders :=
    { movements := [⟨"a1", "southampton"⟩]
      recruitment := [⟨"london", 2, Nat.two_pos⟩]
      upgrades := [⟨"london", .economy, .trenches⟩, ⟨"london", .military, .trenches⟩]
      transfers := [⟨sender, "p2", .money, 3, Nat.succ_pos 2⟩] }

/-- All of the orders are accepted, and they take effect but for the upgrade of the queued track. -/
theorem acceptedOrders_takeEffect_busy :
    validateQueuedOrders stockedState [busyOrders none] = (busyOrders (some "p1")).orders ∧
    ∃ supplied phaseState, resolveResourcePhase stockedState ⟨loadUk1900Map, [], []⟩ = .ok (supplied, phaseState) ∧
      OrdersTakeEffect stockedState supplied [busyOrders none] :=
  ⟨by decide +kernel, acceptedOrders_takeEffect (by decide) [busyOrders none]⟩

theorem not_acceptedUpgrades_queued :
    ¬ ∀ (state : MatchState), state.FieldsValid → ∀ (submissions : List OrderEnvelope) (supplied : MatchState)
      (phaseState : ResolverPhaseState),
      resolveResourcePhase state ⟨loadUk1900Map, [], []⟩ = .ok (supplied, phaseState) →
        ∀ order ∈ (validateQueuedOrders state submissions).upgrades,
          upgradeItem order ∈
            buildingQueueOf (resolveBuildPhase supplied (validateQueuedOrders state submissions)) order.city := by
  intro h
  have hvalid : busyState.FieldsValid := by decide
  obtain ⟨supplied, phaseState, hresource⟩ :=
    resolveResourcePhase_total (supplied_of_fieldsValid hvalid) ⟨loadUk1900Map, [], []⟩
  have hqueue := buildingQueueOf_built (resolveResourcePhase_board hresource).1
    (keys_of_tickFrame (tickFrame_resolveResourcePhase hresource)) [busyUpgrade] "london"
  have hempty : buildingQueueOf (advanceBuildQueues busyState) "london" ++
      ((startedOrders busyState (validateQueuedOrders busyState [busyUpgrade])).upgrades.filter
        (·.city = "london")).map upgradeItem = [] := by decide +kernel
  have hmem := h busyState hvalid [busyUpgrade] supplied phaseState hresource ⟨"london", .economy, .trenches⟩
    (by decide +kernel)
  rw [hqueue, hempty] at hmem
  exact absurd hmem List.not_mem_nil

end IronCouncil
