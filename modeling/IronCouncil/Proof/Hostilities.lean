import IronCouncil.Proof.OrderEffects
import IronCouncil.Proof.TreatyLedger

/-!
# Attacks on treaty partners

A treaty is broken when an attack is launched, by the orders that a tick accepts, and not when the army arrives. So where armies meet in a tick and a treaty between their owners outlives it, each army either came in peace, sent before the treaty was signed or to a city where the other player had nothing, or has been in the city all along.
-/

namespace IronCouncil

/-! ### Launching -/

/-- The movements and recruitments that the next tick accepts. -/
def pendingOrders (record : MatchRecord) : OrderBatch := validateQueuedOrders record.state (queuedForTick record)

/-- The next tick sends an army of the player to the city. -/
def Sends (record : MatchRecord) (armyId playerId cityId : String) : Prop :=
  ⟨armyId, cityId⟩ ∈ (pendingOrders record).movements ∧
    ∃ army, armyById record.state.armies armyId = some army ∧ army.owner = playerId

/-- The player owns the city or has an army standing in it. -/
def Holds (state : MatchState) (playerId cityId : String) : Prop :=
  state.cityOwner cityId = some playerId ∨ playerId ∈ occupyingOwners state cityId

/-- A treaty of the two players is active only if it was signed after the tick. -/
def SignedAfter (tick : Nat) (parties : String × String) (treaty : MatchTreaty) : Prop :=
  treaty.isActiveBetween parties → ∃ signed, treaty.signedTick = some signed ∧ tick < signed

theorem mem_attacksOf {record : MatchRecord} {armyId attackerId defenderId cityId : String}
    (hne : attackerId ≠ defenderId) (hsends : Sends record armyId attackerId cityId)
    (hholds : Holds record.state defenderId cityId) :
    (attackerId, defenderId) ∈ attacksOf record.state (pendingOrders record) := by
  obtain ⟨horder, army, harmy, rfl⟩ := hsends
  obtain ⟨city, hcity⟩ := OrdDict.mem_keys.1 (validated_destinations _ _ _ horder)
  dsimp only at hcity
  refine List.mem_flatMap.2 ⟨_, horder, ?_⟩
  unfold hostilePairs
  rw [harmy, hcity]
  refine List.mem_map.2 ⟨defenderId, ?_, rfl⟩
  unfold defenderIds
  rw [List.mem_insertionSort, List.mem_filter, List.mem_dedup, List.mem_append]
  refine ⟨?_, decide_eq_true hne.symm⟩
  rcases hholds with howner | hoccupies
  · obtain ⟨city', hcity', howner⟩ := MatchState.cityOwner_eq_some.1 howner
    rw [hcity'] at hcity
    cases hcity
    rw [howner]
    exact Or.inr (List.mem_singleton_self _)
  · exact Or.inl hoccupies

theorem treatyFate_not_active {state : MatchState} {attacks : List (String × String)} {attack : String × String}
    (hattack : attack ∈ attacks) (treaty : MatchTreaty) :
    (treatyFate state attacks treaty).isActiveBetween (sortedPair attack.1 attack.2) = false := by
  unfold treatyFate Latch.fate
  cases hfirst : Latch.firstHit violates attacks treaty with
  | none =>
      have hmissed := List.find?_eq_none.1 hfirst attack hattack
      exact Bool.eq_false_iff.2 hmissed
  | some first => exact breakTreaty_not_active first.1 first.2 state.tick treaty _

/-- A tick that launches an attack leaves no treaty of the two players active. -/
theorem advanceMatchTick_not_active {record : MatchRecord} {attack : String × String}
    (hattack : attack ∈ attacksOf record.state (pendingOrders record)) :
    ∀ treaty ∈ (advanceMatchTick record).1.treaties, ¬ treaty.isActiveBetween (sortedPair attack.1 attack.2) := by
  intro treaty htreaty
  have htreaties := advanceMatchTick_treaties record record.orderSubmissions
  rw [show withSubmissions record record.orderSubmissions = record from rfl] at htreaties
  rw [htreaties] at htreaty
  obtain ⟨before, -, rfl⟩ := List.mem_map.1 htreaty
  have hfate : (treatyFate record.state (queuedAttacks record record.orderSubmissions) before).isActiveBetween
      (sortedPair attack.1 attack.2) = false := treatyFate_not_active hattack before
  rw [hfate]
  exact Bool.false_ne_true

theorem signedAfter_moment {tick : Nat} {parties : String × String} {before after : MatchRecord}
    (h : AnyMoment before after) (hbefore : tick < before.state.tick ∧ ∀ treaty ∈ before.treaties, SignedAfter tick parties treaty) :
    tick < after.state.tick ∧ ∀ treaty ∈ after.treaties, SignedAfter tick parties treaty := by
  obtain ⟨actor, hamended, htick⟩ := h
  obtain ⟨hlater, hsigned⟩ := hbefore
  refine ⟨by omega, ?_⟩
  have hactive : ∀ treaty : MatchTreaty, treaty.isActiveBetween parties → treaty.status = .active := by
    intro treaty hactive
    simp only [MatchTreaty.isActiveBetween, decide_eq_true_eq] at hactive
    exact hactive.2.2
  refine hamended.forall_mem ?_ ?_ hsigned
  · intro treaty treaty' hmove hkept hactive'
    cases hmove with
    | kept => exact hkept hactive'
    | signed => exact ⟨before.state.tick, rfl, hlater⟩
    | withdrawn => cases hactive _ hactive'
    | broken =>
        have hbroken := hactive _ hactive'
        dsimp only [MatchTreaty.breakBy] at hbroken
        split at hbroken <;> cases hbroken
  · intro treaty hproposed hactive'
    have hstatus := hactive _ hactive'
    rw [hproposed.proposed] at hstatus
    cases hstatus

theorem anyMoment_event {record : MatchRecord} {event : RecordEvent} (hevent : event.BetweenDistinct)
    {I : MatchRecord → Prop} (hmoment : ∀ before after, AnyMoment before after → I before → I after) (h : I record) :
    I (recordStep record event) := by
  have hchain : (record :: eventMoments record event).IsChain (TreatyMoment event.actor) := eventMoments_chain hevent
  have hall := hchain.induction I _ (fun before after h => hmoment before after ⟨_, h⟩) fun _ => h
  apply hall
  exact List.mem_of_getLast? (getLast?_eventMoments record event)

/-! ### Where armies come from -/

/-- The city an army marches to, or else the one it stands in. -/
def ArmyState.goal (army : ArmyState) : Option String :=
  match army.destination with
  | some destination => some destination
  | none => army.location

/-- The army of that id and owner stands in the city or marches to it. -/
def Bound (armyId playerId cityId : String) (armies : List ArmyState) : Prop :=
  ∃ army ∈ armies, army.id = armyId ∧ army.owner = playerId ∧ army.goal = some cityId

/-- The next tick raises troops in the city, which the player owns. -/
def Raises (record : MatchRecord) (playerId cityId : String) : Prop :=
  record.state.cityOwner cityId = some playerId ∧ ∃ order ∈ (pendingOrders record).recruitment, order.city = cityId

theorem goal_of_stationedAt {army : ArmyState} {cityId : String} (h : army.stationedAt cityId) :
    army.goal = some cityId := by
  simp only [ArmyState.stationedAt, decide_eq_true_eq] at h
  unfold ArmyState.goal
  rw [h.2, h.1]

section Phases

variable {armyId playerId cityId : String}

theorem Bound.of_frame {armies armies' : List ArmyState}
    (hframe : ∀ army' ∈ armies', ∃ army ∈ armies, army.id = army'.id ∧ army.owner = army'.owner ∧ army.goal = army'.goal)
    (h : Bound armyId playerId cityId armies') : Bound armyId playerId cityId armies := by
  obtain ⟨army', harmy', hid, howner, hgoal⟩ := h
  obtain ⟨army, harmy, hid', howner', hgoal'⟩ := hframe army' harmy'
  exact ⟨army, harmy, hid'.trans hid, howner'.trans howner, hgoal'.trans hgoal⟩

theorem goal_advanceTransitArmy (army : ArmyState) : (advanceTransitArmy army).goal = army.goal := by
  unfold advanceTransitArmy
  split
  · rfl
  · rename_i destination hdestination
    simp only
    split
    · unfold ArmyState.goal
      rw [hdestination]
    · rfl

theorem bound_advanceTransitArmies {state : MatchState}
    (h : Bound armyId playerId cityId (advanceTransitArmies state).armies) : Bound armyId playerId cityId state.armies := by
  apply h.of_frame
  intro army' harmy'
  obtain ⟨army, harmy, rfl⟩ := List.mem_map.1 harmy'
  obtain ⟨hid, howner⟩ := advanceTransitArmy_frame army
  exact ⟨army, harmy, hid.symm, howner.symm, (goal_advanceTransitArmy army).symm⟩

theorem bound_applyLosses {losses : ArmyState → Nat} {armies : List ArmyState}
    (h : Bound armyId playerId cityId (applyLosses losses armies)) : Bound armyId playerId cityId armies := by
  apply h.of_frame
  intro army' harmy'
  obtain ⟨army, harmy, rfl⟩ := List.mem_map.1 (List.mem_filter.1 harmy').1
  exact ⟨army, harmy, rfl, rfl, rfl⟩

theorem bound_musterTroops {state : MatchState} {owner : String} {order : RecruitmentOrder}
    (h : Bound armyId playerId cityId (musterTroops state owner order).armies) :
    Bound armyId playerId cityId state.armies ∨ (owner = playerId ∧ order.city = cityId) := by
  unfold musterTroops at h
  split at h
  · left
    apply h.of_frame
    intro army' harmy'
    rcases List.mem_modifyFirstWhere harmy' with hkept | ⟨army, harmy, -, rfl⟩
    · exact ⟨army', hkept, rfl, rfl, rfl⟩
    · exact ⟨army, harmy, rfl, rfl, rfl⟩
  · obtain ⟨army, harmy, hid, howner, hgoal⟩ := h
    rcases List.mem_append.1 harmy with hkept | hraised
    · exact Or.inl ⟨army, hkept, hid, howner, hgoal⟩
    · rw [List.mem_singleton.1 hraised] at howner hgoal
      exact Or.inr ⟨howner, Option.some.inj hgoal⟩

/-- Recruits are raised in a city for its owner. -/
theorem bound_resolveBuildPhase {state : MatchState} {orders : OrderBatch}
    (h : Bound armyId playerId cityId (resolveBuildPhase state orders).armies) :
    Bound armyId playerId cityId state.armies ∨
      (state.cityOwner cityId = some playerId ∧ ∃ order ∈ orders.recruitment, order.city = cityId) := by
  have hstep : ∀ (board : MatchState) (order : RecruitmentOrder), order ∈ orders.recruitment →
      (estate board = estate state ∧
        (Bound armyId playerId cityId board.armies → Bound armyId playerId cityId state.armies ∨
          (state.cityOwner cityId = some playerId ∧ ∃ order ∈ orders.recruitment, order.city = cityId))) →
      estate (processRecruitmentOrder board order) = estate state ∧
        (Bound armyId playerId cityId (processRecruitmentOrder board order).armies →
          Bound armyId playerId cityId state.armies ∨
            (state.cityOwner cityId = some playerId ∧ ∃ order ∈ orders.recruitment, order.city = cityId)) := by
    intro board order horder hboard
    obtain ⟨hestate, hbound⟩ := hboard
    refine ⟨(estate_processRecruitmentOrder board order).trans hestate, ?_⟩
    rcases armies_processRecruitmentOrder board order with hsame | ⟨board', owner, harmies, hpayer, hmuster⟩
    · rw [hsame]
      exact hbound
    · intro hraised
      rw [hmuster] at hraised
      rcases bound_musterTroops hraised with hkept | ⟨howner, hcity⟩
      · rw [harmies] at hkept
        exact hbound hkept
      · have hcityOwner : board.cityOwner = state.cityOwner := congrArg (fun e => e.2.1) hestate
        have hpaying := (payingOwner_eq_some.1 hpayer).1
        rw [hcityOwner, hcity, howner] at hpaying
        exact Or.inr ⟨hpaying, order, horder, hcity⟩
  rw [armies_resolveBuildPhase] at h
  have hall := Run.invariant_of_admitted (C := fun order => order ∈ orders.recruitment) hstep
    (s := advanceBuildQueues state) ⟨estate_advanceBuildQueues state, Or.inl⟩
    fun order horder => (List.mem_insertionSort fun first second =>
      recruitmentProcessingKey (advanceBuildQueues state) first ≤
        recruitmentProcessingKey (advanceBuildQueues state) second).1 horder
  exact (hall _ (Run.foldl_mem_states _ _)).2 h

/-- Orders leave an army where they found it, or one of them has sent it off. -/
theorem mem_startMovementOrders {mapDefinition : MapDefinition} {orders : List MovementOrder} {state : MatchState}
    {army : ArmyState} (h : army ∈ (startMovementOrders mapDefinition state orders).armies) :
    army ∈ state.armies ∨ ∃ order ∈ orders, order.armyId = army.id ∧ army.destination = some order.destination ∧
      ∃ ordered, armyById state.armies order.armyId = some ordered ∧ ordered.owner = army.owner := by
  induction orders generalizing state with
  | nil => exact Or.inl h
  | cons order orders ih =>
      have hrest := @ih (startMovementOrder mapDefinition state order) h
      rcases hrest with
        hkept | ⟨later, hlater, hid, hgone, ordered, hordered, howner⟩
      · obtain ⟨place, hplace⟩ := List.mem_iff_getElem?.1 hkept
        obtain ⟨before, hbefore, hmoved⟩ := (List.forall₂_modifyLastWhere _ _ state.armies).exists_getElem? hplace
        rcases hmoved with rfl | ⟨hlast, hdeparted⟩
        · exact Or.inl (List.mem_of_getElem? hbefore)
        · have hid : before.id = order.armyId :=
            of_decide_eq_true (List.mem_filter.1 (List.mem_of_getLast? hlast)).2
          unfold departArmy at hdeparted
          split at hdeparted
          · split at hdeparted
            · rw [hdeparted]
              exact Or.inl (List.mem_of_getElem? hbefore)
            · rw [hdeparted]
              exact Or.inr ⟨order, List.mem_cons_self, hid.symm, rfl, before, hlast, rfl⟩
          · rw [hdeparted]
            exact Or.inl (List.mem_of_getElem? hbefore)
      · right
        refine ⟨later, List.mem_cons_of_mem order hlater, hid, hgone, ?_⟩
        rw [armyById_depart] at hordered
        split at hordered
        · obtain ⟨before, hbefore, rfl⟩ := Option.map_eq_some_iff.1 hordered
          exact ⟨before, hbefore, (departArmy_frame mapDefinition order.destination before).2.symm.trans howner⟩
        · exact ⟨ordered, hordered, howner⟩

end Phases

/-! ### Where armies meet -/

/-- The board on which the armies of a tick meet. -/
def meetingBoard (record : MatchRecord) : Except TickError MatchState :=
  match resolveResourcePhase record.state ⟨loadUk1900Map, [], []⟩ with
  | .error error => .error error
  | .ok (supplied, _) =>
      .ok (resolveMovementPhase loadUk1900Map (resolveBuildPhase supplied (pendingOrders record)) (pendingOrders record))

section Meeting

variable {record : MatchRecord} {moved settled : MatchState} {armyId playerId cityId : String}

theorem meetingBoard_eq_ok (h : meetingBoard record = .ok moved) :
    ∃ supplied, supplied.armies = record.state.armies ∧ estate supplied = estate record.state ∧
      moved = resolveMovementPhase loadUk1900Map (resolveBuildPhase supplied (pendingOrders record))
        (pendingOrders record) := by
  unfold meetingBoard at h
  split at h
  · cases h
  · rename_i supplied phaseState hsupplied
    cases h
    obtain ⟨hestate, harmies⟩ := estate_resolveResourcePhase hsupplied
    exact ⟨supplied, harmies, hestate, rfl⟩

theorem cityOwner_meetingBoard (h : meetingBoard record = .ok moved) : moved.cityOwner = record.state.cityOwner := by
  obtain ⟨supplied, -, hestate, rfl⟩ := meetingBoard_eq_ok h
  have hmoved := (estate_resolveMovementPhase loadUk1900Map (resolveBuildPhase supplied (pendingOrders record))
    (pendingOrders record)).trans ((estate_resolveBuildPhase supplied (pendingOrders record)).trans hestate)
  exact congrArg (fun e => e.2.1) hmoved

/-- The army an id refers to keeps its owner until the orders are carried out. -/
theorem sends_of_ordered {supplied : MatchState} (harmies : supplied.armies = record.state.armies) {order : MovementOrder}
    (horder : order ∈ (pendingOrders record).movements) {ordered : ArmyState}
    (hordered : armyById (advanceTransitArmies (resolveBuildPhase supplied (pendingOrders record))).armies order.armyId =
      some ordered) : Sends record order.armyId ordered.owner order.destination := by
  have hmem := horder
  unfold pendingOrders at hmem
  rw [validateQueuedOrders_movements] at hmem
  obtain ⟨submission, -, haccepted⟩ := List.mem_flatMap.1 hmem
  obtain ⟨army, location, harmy, -⟩ := accepted_movement haccepted
  have hposition : (armyById supplied.armies order.armyId).map ArmyState.position = some army.position := by
    rw [harmies, harmy]
    rfl
  obtain ⟨built, hbuilt, hsame⟩ := Option.map_eq_some_iff.1
    (armyById_position_resolveBuildPhase hposition (pendingOrders record))
  unfold advanceTransitArmies at hordered
  dsimp only at hordered
  rw [armyById_map fun army => (advanceTransitArmy_frame army).1, hbuilt, Option.map_some, Option.some.injEq] at hordered
  have howner : army.owner = ordered.owner := by
    rw [← hordered, (advanceTransitArmy_frame built).2]
    exact (congrArg ArmyState.owner hsame).symm
  exact ⟨horder, army, harmy, howner⟩

/-- An army on the meeting board that is not just leaving was bound there before, or is a recruit. -/
theorem bound_of_mem_meetingBoard (h : meetingBoard record = .ok moved) {army : ArmyState} (harmy : army ∈ moved.armies)
    (hgoal : army.goal = some cityId) :
    Bound army.id army.owner cityId record.state.armies ∨ Raises record army.owner cityId ∨
      (Sends record army.id army.owner cityId ∧ army.destination ≠ none) := by
  obtain ⟨supplied, harmies, hestate, rfl⟩ := meetingBoard_eq_ok h
  rcases mem_startMovementOrders harmy with hkept | ⟨order, horder, hid, hgone, ordered, hordered, howner⟩
  · have hbuilt := bound_advanceTransitArmies ⟨army, hkept, rfl, rfl, hgoal⟩
    rcases bound_resolveBuildPhase hbuilt with hsupplied | ⟨howner, hraised⟩
    · rw [harmies] at hsupplied
      exact Or.inl hsupplied
    · have hcityOwner : supplied.cityOwner = record.state.cityOwner := congrArg (fun e => e.2.1) hestate
      rw [hcityOwner] at howner
      exact Or.inr (Or.inl ⟨howner, hraised⟩)
  · have hsends := sends_of_ordered harmies horder hordered
    have hcity : order.destination = cityId := by
      unfold ArmyState.goal at hgoal
      rw [hgone] at hgoal
      exact Option.some.inj hgoal
    rw [hid, howner, hcity] at hsends
    exact Or.inr (Or.inr ⟨hsends, by simp [hgone]⟩)

/-- After the meeting armies only suffer losses, and cities only change hands in combat. -/
theorem settledBoard_eq_ok (h : settledBoard record = .ok settled) :
    ∃ moved, meetingBoard record = .ok moved ∧
      (∀ armyId playerId cityId, Bound armyId playerId cityId settled.armies → Bound armyId playerId cityId moved.armies) ∧
      settled.cityOwner = (resolveCombatPhase moved).cityOwner := by
  obtain ⟨besieged, phaseState, hsiege, rfl⟩ := resolveThroughDiplomacy_eq_ok h
  obtain ⟨supplied, phaseState', hresource, hbesieged, -⟩ := resolveThroughSiege_eq_ok hsiege
  obtain ⟨hsiegeEstate, hsiegeArmies⟩ := estate_degradeBesiegedFortifications hbesieged
  obtain ⟨hunpaidEstate, hunpaidArmies⟩ := estate_degradeUnpaidFortifications (sufferAttrition besieged)
    phaseState.unpaidFortificationCityIds phaseState.degradedFortificationCityIds
  refine ⟨_, by unfold meetingBoard; rw [hresource], ?_, ?_⟩
  · intro armyId playerId cityId hbound
    have hstarved : Bound armyId playerId cityId (sufferAttrition besieged).armies := hunpaidArmies ▸ hbound
    have hfought := bound_applyLosses hstarved
    rw [hsiegeArmies] at hfought
    unfold resolveCombatPhase at hfought
    rw [armies_transferUncontestedCityControl] at hfought
    exact bound_applyLosses hfought
  · have hattrition : (resolveAttritionPhase besieged phaseState).1.cityOwner = besieged.cityOwner :=
      congrArg (fun e => e.2.1) hunpaidEstate
    rw [hattrition]
    exact congrArg (fun e => e.2.1) hsiegeEstate

/-- A city that a player wins in combat has an army of the player standing in it. -/
theorem stands_of_taken (hbefore : moved.cityOwner cityId ≠ some playerId)
    (hafter : (resolveCombatPhase moved).cityOwner cityId = some playerId) :
    ∃ army ∈ moved.armies, army.stationedAt cityId ∧ army.owner = playerId := by
  have hstep : ∀ (board : MatchState) (city : String),
      (board.armies = (resolveContestedCityCombat moved).armies ∧
        (board.cityOwner cityId = some playerId → playerId ∈ occupyingOwners (resolveContestedCityCombat moved) cityId)) →
      (transferCityControl board city).armies = (resolveContestedCityCombat moved).armies ∧
        ((transferCityControl board city).cityOwner cityId = some playerId →
          playerId ∈ occupyingOwners (resolveContestedCityCombat moved) cityId) := by
    intro board city hboard
    obtain ⟨harmies, howned⟩ := hboard
    rcases transferCityControl_cases board city with hsame | ⟨found, occupant, hfound, hoccupies, -, -, hcontrol⟩
    · rw [hsame]
      exact ⟨harmies, howned⟩
    · obtain ⟨hcityOwner, -, hkept⟩ := controlled_frame board city occupant found.owner
      rw [hcontrol, hcityOwner, hkept]
      refine ⟨harmies, ?_⟩
      rw [cityOwner_setCityOwner (OrdDict.mem_keys_of_get? hfound)]
      split
      · rename_i hcity
        intro hwon
        unfold occupyingOwners at hoccupies ⊢
        rw [harmies] at hoccupies
        rw [hcity, ← Option.some.inj hwon]
        exact hoccupies
      · exact howned
  have hstart : (resolveContestedCityCombat moved).armies = (resolveContestedCityCombat moved).armies ∧
      ((resolveContestedCityCombat moved).cityOwner cityId = some playerId →
        playerId ∈ occupyingOwners (resolveContestedCityCombat moved) cityId) :=
    ⟨rfl, fun howned => absurd howned hbefore⟩
  have hwon := (Run.invariant_foldl hstep hstart (resolveContestedCityCombat moved).cities.keys).2 hafter
  unfold occupyingOwners ownersOf armiesAtCity at hwon
  obtain ⟨army, harmy, howner⟩ := List.mem_map.1 (List.mem_dedup.1 hwon)
  obtain ⟨hfought, hstationed⟩ := List.mem_filter.1 harmy
  obtain ⟨before, hbefore, rfl⟩ := List.mem_map.1 (List.mem_filter.1 hfought).1
  exact ⟨before, hbefore, hstationed, howner⟩

end Meeting

/-! ### Runs -/

section Runs

variable {armyId playerId cityId : String}

/-- A tick brings an army to be bound for a city by raising or by sending it. -/
def Brings (armyId playerId cityId : String) (record : MatchRecord) (event : RecordEvent) : Prop :=
  event = .tick ∧ (∃ settled, settledBoard record = .ok settled) ∧
    (Raises record playerId cityId ∨ Sends record armyId playerId cityId)

theorem armies_commandPart {playerId : String} {record next : MatchRecord}
    (h : CommandPart (fun _ => True) playerId record next) : next.state.armies = record.state.armies := by
  cases h with
  | submitted envelope => rfl
  | posted messages groupChats => rfl
  | treaty hallowed haction =>
      obtain ⟨treaties, messages, rfl⟩ := applyTreatyAction_frame haction
      rfl
  | alliance haction =>
      obtain ⟨alliances, allianceId, rfl, -⟩ := applyAllianceAction_eq_ok haction
      rfl

theorem bound_recordStep (record : MatchRecord) (event : RecordEvent)
    (h : Bound armyId playerId cityId (recordStep record event).state.armies) :
    Bound armyId playerId cityId record.state.armies ∨ Brings armyId playerId cityId record event := by
  cases event with
  | command commander command =>
      left
      have hkept : (recordStep record (.command commander command)).state.armies = record.state.armies := by
        apply keeps_command (I := fun next => next.state.armies = record.state.armies) (fun _ _ => trivial)
        · exact fun before next hpart hbefore => (armies_commandPart hpart).trans hbefore
        · cases command <;> trivial
        · rfl
      rwa [hkept] at h
  | seed => exact Or.inl h
  | tick =>
      change Bound armyId playerId cityId (advanceMatchTick record).1.state.armies at h
      cases hboard : settledBoard record with
      | error error =>
          rw [(advanceMatchTick_of_error hboard).1] at h
          exact Or.inl h
      | ok settled =>
          rw [(advanceMatchTick_of_settled hboard).1] at h
          obtain ⟨moved, hmoved, hbound, -⟩ := settledBoard_eq_ok hboard
          obtain ⟨army, harmy, rfl, rfl, hgoal⟩ := hbound _ _ _ h
          rcases bound_of_mem_meetingBoard hmoved harmy hgoal with hbefore | hraised | ⟨hsent, -⟩
          · exact Or.inl hbefore
          · exact Or.inr ⟨rfl, ⟨settled, hboard⟩, Or.inl hraised⟩
          · exact Or.inr ⟨rfl, ⟨settled, hboard⟩, Or.inr hsent⟩

/-- After a tick that sends an army against a player, their treaties are signed anew or not active. -/
theorem signedAfter_launch {record : MatchRecord} {settled : MatchState} (hsettled : settledBoard record = .ok settled)
    {attackerId defenderId : String} (hne : attackerId ≠ defenderId) (hsends : Sends record armyId attackerId cityId)
    (hholds : Holds record.state defenderId cityId) {events : List RecordEvent}
    (hevents : ∀ event ∈ events, event.BetweenDistinct) :
    ∀ treaty ∈ (events.foldl recordStep (recordStep record .tick)).treaties,
      SignedAfter record.state.tick (sortedPair attackerId defenderId) treaty := by
  have hlaunch : record.state.tick < (recordStep record .tick).state.tick ∧
      ∀ treaty ∈ (recordStep record .tick).treaties,
        SignedAfter record.state.tick (sortedPair attackerId defenderId) treaty := by
    refine ⟨?_, ?_⟩
    · show _ < (advanceMatchTick record).1.state.tick
      rw [(advanceMatchTick_of_settled hsettled).1]
      exact Nat.lt_succ_self _
    · intro treaty htreaty hactive
      exact absurd hactive (advanceMatchTick_not_active (mem_attacksOf hne hsends hholds) treaty htreaty)
  have hrun := Run.invariant_of_admitted (C := RecordEvent.BetweenDistinct)
    (I := fun reached : MatchRecord => record.state.tick < reached.state.tick ∧
      ∀ treaty ∈ reached.treaties, SignedAfter record.state.tick (sortedPair attackerId defenderId) treaty)
    (fun before event hevent hbefore => anyMoment_event hevent (fun _ _ => signedAfter_moment) hbefore) hlaunch hevents
  exact (hrun _ (Run.foldl_mem_states _ _)).2

end Runs

/-! ### Hostilities under a treaty -/

/-- In a tick an army of one player takes a city that the other owns, or armies of both lose troops in one city. -/
inductive Hostilities (record : MatchRecord) (settled moved : MatchState) (playerId otherId cityId : String) : Prop
  | takes (hbefore : record.state.cityOwner cityId = some otherId) (hafter : settled.cityOwner cityId = some playerId)
  | fights {army army' : ArmyState} (harmy : army ∈ moved.armies) (harmy' : army' ∈ moved.armies)
      (hstands : army.stationedAt cityId) (hstands' : army'.stationedAt cityId) (howner : army.owner = playerId)
      (howner' : army'.owner = otherId) (hlosses : 0 < ((casualtiesByArmyId moved).get? army.id).getD 0)
      (hlosses' : 0 < ((casualtiesByArmyId moved).get? army'.id).getD 0)

/-- How an army can stand in a city while a treaty with a player is active: it has been there or on its way from the beginning, or since it was raised there, or since a tick that sent it before the treaty was signed or to a city where the other player had nothing. -/
def CameInPeace (record : MatchRecord) (events : List RecordEvent) (armyId playerId otherId cityId : String)
    (treaty : MatchTreaty) : Prop :=
  (∀ reached ∈ Run.states recordStep record events, Bound armyId playerId cityId reached.state.armies) ∨
    Raises (events.foldl recordStep record) playerId cityId ∨
    ∃ before after, events = before ++ .tick :: after ∧
      (∀ reached ∈ Run.states recordStep (recordStep (before.foldl recordStep record) .tick) after,
        Bound armyId playerId cityId reached.state.armies) ∧
      (Raises (before.foldl recordStep record) playerId cityId ∨
        (Sends (before.foldl recordStep record) armyId playerId cityId ∧
          (¬ Holds (before.foldl recordStep record).state otherId cityId ∨
            ∃ signed, treaty.signedTick = some signed ∧ (before.foldl recordStep record).state.tick < signed)))

theorem cameInPeace {record : MatchRecord} {events : List RecordEvent}
    (hevents : ∀ event ∈ events, event.BetweenDistinct) {moved : MatchState}
    (hmoved : meetingBoard (events.foldl recordStep record) = .ok moved) {otherId cityId : String} {treaty : MatchTreaty}
    {army : ArmyState} (hne : army.owner ≠ otherId)
    (htreaty : treaty ∈ (advanceMatchTick (events.foldl recordStep record)).1.treaties)
    (hactive : treaty.isActiveBetween (sortedPair army.owner otherId)) (harmy : army ∈ moved.armies)
    (hstands : army.stationedAt cityId) : CameInPeace record events army.id army.owner otherId cityId treaty := by
  rcases bound_of_mem_meetingBoard hmoved harmy (goal_of_stationedAt hstands) with hbound | hraised | ⟨-, hleaving⟩
  · rcases Run.origin_foldl (C := Brings army.id army.owner cityId)
      (I := fun reached : MatchRecord => Bound army.id army.owner cityId reached.state.armies)
      bound_recordStep hbound with hsince | ⟨before, event, after, hsplit, ⟨rfl, ⟨settled, hsettled⟩, hbrought⟩, hsince⟩
    · exact Or.inl hsince
    · refine Or.inr (Or.inr ⟨before, after, hsplit, hsince, ?_⟩)
      rcases hbrought with hraised | hsent
      · exact Or.inl hraised
      · refine Or.inr ⟨hsent, ?_⟩
        by_cases hholds : Holds (before.foldl recordStep record).state otherId cityId
        · right
          have hafter : ∀ event ∈ after ++ [RecordEvent.tick], event.BetweenDistinct := by
            intro event hevent
            rcases List.mem_append.1 hevent with hlater | hlast
            · apply hevents
              rw [hsplit]
              exact List.mem_append_right _ (List.mem_cons_of_mem _ hlater)
            · rw [List.mem_singleton.1 hlast]
              trivial
          have hreached : (after ++ [RecordEvent.tick]).foldl recordStep (recordStep (before.foldl recordStep record) .tick) =
              (advanceMatchTick (events.foldl recordStep record)).1 := by
            rw [hsplit, List.foldl_append, List.foldl_append]
            rfl
          have hsigned := signedAfter_launch hsettled hne hsent hholds hafter
          rw [hreached] at hsigned
          exact hsigned treaty htreaty hactive
        · exact Or.inl hholds
  · exact Or.inr (Or.inl hraised)
  · simp only [ArmyState.stationedAt, decide_eq_true_eq] at hstands
    exact absurd hstands.2 hleaving

structure TreatiesUnderAttack (record : MatchRecord) (events : List RecordEvent) : Prop where
  /-- The tick that launches an attack leaves no treaty of the two players active. -/
  launched : ∀ armyId attackerId defenderId cityId, attackerId ≠ defenderId →
    Sends (events.foldl recordStep record) armyId attackerId cityId →
    Holds (events.foldl recordStep record).state defenderId cityId →
    ∀ treaty ∈ (advanceMatchTick (events.foldl recordStep record)).1.treaties,
      ¬ treaty.isActiveBetween (sortedPair attackerId defenderId)
  /-- Where a treaty outlives hostilities, armies stand where the players meet, and all of them came in peace. -/
  landed : ∀ settled moved, settledBoard (events.foldl recordStep record) = .ok settled →
    meetingBoard (events.foldl recordStep record) = .ok moved → ∀ playerId otherId cityId, playerId ≠ otherId →
    Hostilities (events.foldl recordStep record) settled moved playerId otherId cityId →
    ∀ treaty ∈ (advanceMatchTick (events.foldl recordStep record)).1.treaties,
      treaty.isActiveBetween (sortedPair playerId otherId) →
      (∃ army ∈ moved.armies, army.stationedAt cityId ∧ army.owner = playerId) ∧
        ∀ army ∈ moved.armies, army.stationedAt cityId → army.owner = playerId →
          CameInPeace record events army.id playerId otherId cityId treaty

/-- Treaties end with the launch of an attack, and none signed before it is active when the army arrives. -/
theorem treaties_underAttack (record : MatchRecord) (events : List RecordEvent)
    (hevents : ∀ event ∈ events, event.BetweenDistinct) : TreatiesUnderAttack record events where
  launched := by
    intro armyId attackerId defenderId cityId hne hsends hholds
    exact advanceMatchTick_not_active (mem_attacksOf hne hsends hholds)
  landed := by
    intro settled moved hsettled hmoved playerId otherId cityId hne hhostile treaty htreaty hactive
    refine ⟨?_, ?_⟩
    · cases hhostile with
      | takes hbefore hafter =>
          obtain ⟨board, hboard, -, hcityOwner⟩ := settledBoard_eq_ok hsettled
          rw [hmoved] at hboard
          cases hboard
          rw [hcityOwner] at hafter
          apply stands_of_taken _ hafter
          rw [cityOwner_meetingBoard hmoved, hbefore]
          exact fun hsame => hne (Option.some.inj hsame).symm
      | fights harmy _ hstands _ howner => exact ⟨_, harmy, hstands, howner⟩
    · intro army harmy hstands howner
      subst howner
      exact cameInPeace hevents hmoved hne htreaty hactive harmy hstands

/-! ### A raid -/

/-- The duel where only the first player has an army. -/
def raidRecord : MatchRecord :=
  { duelRecord with state := { duelState with armies := [duelArmy "a1" "p1" "london"] } }

/-- The army sets out, and the players sign a pact while it is on its way. -/
def raidRun : List RecordEvent :=
  [.command "p1" (.orders { OrderBatch.empty with movements := [⟨"a1", "southampton"⟩] }), .tick,
    .command "p2" (.treaty ⟨"p1", .propose, .nonAggression⟩), .command "p1" (.treaty ⟨"p2", .accept, .nonAggression⟩)]

theorem raidRun_betweenDistinct : ∀ event ∈ raidRun, event.BetweenDistinct := by
  intro event hevent
  simp only [raidRun, List.mem_cons, List.not_mem_nil, or_false] at hevent
  rcases hevent with rfl | rfl | rfl | rfl <;> simp [RecordEvent.BetweenDistinct, MatchCommand.Allowed]

theorem treaties_underAttack_raid : TreatiesUnderAttack raidRecord raidRun :=
  treaties_underAttack raidRecord raidRun raidRun_betweenDistinct

/-- The raid takes a treaty partner's city, and the pact stays active. -/
theorem not_hostilities_end_treaties :
    ¬ ∀ (record : MatchRecord) (events : List RecordEvent), record.treaties = [] →
      (∀ event ∈ events, event.BetweenDistinct) →
      ∀ settled moved, settledBoard (events.foldl recordStep record) = .ok settled →
        meetingBoard (events.foldl recordStep record) = .ok moved → ∀ playerId otherId cityId, playerId ≠ otherId →
        Hostilities (events.foldl recordStep record) settled moved playerId otherId cityId →
        ∀ treaty ∈ (advanceMatchTick (events.foldl recordStep record)).1.treaties,
          ¬ treaty.isActiveBetween (sortedPair playerId otherId) := by
  intro hclaim
  have htaken : (settledBoard (raidRun.foldl recordStep raidRecord)).map (fun settled => settled.cityOwner "southampton") =
      .ok (some "p1") := by decide +kernel
  have howned : (raidRun.foldl recordStep raidRecord).state.cityOwner "southampton" = some "p2" := by decide +kernel
  have hactive : ∃ treaty ∈ (advanceMatchTick (raidRun.foldl recordStep raidRecord)).1.treaties,
      treaty.isActiveBetween (sortedPair "p1" "p2") := by decide +kernel
  obtain ⟨settled, hsettled, hwon⟩ := Except.map_eq_ok htaken
  obtain ⟨moved, hmoved, -, -⟩ := settledBoard_eq_ok hsettled
  obtain ⟨treaty, htreaty, hkept⟩ := hactive
  exact hclaim raidRecord raidRun rfl raidRun_betweenDistinct settled moved hsettled hmoved "p1" "p2" "southampton"
    (by decide) (.takes howned hwon) treaty htreaty hkept

end IronCouncil
