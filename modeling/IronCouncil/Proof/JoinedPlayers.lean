import IronCouncil.Proof.AllianceAgreement
import IronCouncil.Proof.OrderEffects
import IronCouncil.Proof.OrderQueue
import IronCouncil.Proof.ServerRuns
import IronCouncil.Proof.StartingShares
import IronCouncil.Proof.VictoryCountdown
import Mathlib.Combinatorics.Pigeonhole

/-!
# Slots that nobody has joined

Every slot of a roster starts with the same number of cities, joined or not. A slot that nobody plays moves no army, so it takes no city, and a city once taken stays with players who do. A slot like that never leads alone: the joined players hold what they started with at least, and some coalition of theirs holds as much as one slot's start.
-/

namespace IronCouncil

/-! ### What nobody plays stays where it is -/

/-- The armies belong to members of `J`, and so does each city that has left its first owner. -/
structure HeldBy (J : String → Prop) (cityIds : List String) (firstOwner : String → Option String)
    (state : MatchState) : Prop where
  cities_eq : state.cities.keys = cityIds
  armies : ∀ army ∈ state.armies, J army.owner
  cities : ∀ cityId, state.cityOwner cityId = firstOwner cityId ∨
    ∃ owner, state.cityOwner cityId = some owner ∧ J owner

section Held

variable {J : String → Prop} {cityIds : List String} {firstOwner : String → Option String} {state state' : MatchState}

/-- An update of armies that keeps their owners. -/
theorem HeldBy.update (h : HeldBy J cityIds firstOwner state) (hestate : estate state' = estate state)
    (harmies : ∀ army ∈ state'.armies, ∃ before ∈ state.armies, army.owner = before.owner) :
    HeldBy J cityIds firstOwner state' where
  cities_eq := by
    have hkeys : state'.cities.keys = state.cities.keys := congrArg (fun e => e.1) hestate
    exact hkeys.trans h.cities_eq
  armies := by
    intro army harmy
    obtain ⟨before, hbefore, hsame⟩ := harmies army harmy
    rw [hsame]
    exact h.armies before hbefore
  cities := by
    have howner : state'.cityOwner = state.cityOwner := congrArg (fun e => e.2.1) hestate
    rw [howner]
    exact h.cities

theorem HeldBy.of_estate (h : HeldBy J cityIds firstOwner state) (hestate : estate state' = estate state)
    (harmies : state'.armies = state.armies) : HeldBy J cityIds firstOwner state' := by
  apply h.update hestate
  intro army harmy
  exact ⟨army, harmies ▸ harmy, rfl⟩

theorem mem_applyLosses_owner {losses : ArmyState → Nat} {armies : List ArmyState} {army : ArmyState}
    (h : army ∈ applyLosses losses armies) : ∃ before ∈ armies, army.owner = before.owner := by
  obtain ⟨before, hbefore, rfl⟩ := List.mem_map.1 (List.mem_filter.1 h).1
  exact ⟨before, hbefore, rfl⟩

theorem HeldBy.processRecruitmentOrder (h : HeldBy J cityIds firstOwner state) {order : RecruitmentOrder}
    (hrecruits : ∀ owner, state.cityOwner order.city = some owner → J owner) :
    HeldBy J cityIds firstOwner (processRecruitmentOrder state order) := by
  have hestate := estate_processRecruitmentOrder state order
  rcases armies_processRecruitmentOrder state order with hsame | ⟨board, owner, harmies, hpayer, hmuster⟩
  · rw [hsame]
    exact h
  · have hJ : J owner := hrecruits owner (payingOwner_eq_some.1 hpayer).1
    have hkeys : (IronCouncil.processRecruitmentOrder state order).cities.keys = state.cities.keys :=
      congrArg (fun e => e.1) hestate
    refine ⟨hkeys.trans h.cities_eq, ?_, ?_⟩
    · rw [hmuster]
      intro army harmy
      unfold musterTroops at harmy
      split at harmy
      · rcases List.mem_modifyFirstWhere harmy with hmem | ⟨before, hbefore, -, rfl⟩
        · exact h.armies army (harmies ▸ hmem)
        · exact h.armies before (harmies ▸ hbefore)
      · rcases List.mem_append.1 harmy with hmem | hmem
        · exact h.armies army (harmies ▸ hmem)
        · rw [List.mem_singleton.1 hmem]
          exact hJ
    · have howner : (IronCouncil.processRecruitmentOrder state order).cityOwner = state.cityOwner :=
        congrArg (fun e => e.2.1) hestate
      rw [howner]
      exact h.cities

theorem HeldBy.resolveBuildPhase (h : HeldBy J cityIds firstOwner state) {orders : OrderBatch}
    (hrecruits : ∀ order ∈ orders.recruitment, ∀ owner, state.cityOwner order.city = some owner → J owner) :
    HeldBy J cityIds firstOwner (resolveBuildPhase state orders) := by
  have hstep : ∀ (board : MatchState) (order : RecruitmentOrder), order ∈ orders.recruitment →
      (estate board = estate state ∧ HeldBy J cityIds firstOwner board) →
      estate (IronCouncil.processRecruitmentOrder board order) = estate state ∧
        HeldBy J cityIds firstOwner (IronCouncil.processRecruitmentOrder board order) := by
    rintro board order horder ⟨hestate, hboard⟩
    have howner : board.cityOwner = state.cityOwner := congrArg (fun e => e.2.1) hestate
    refine ⟨(estate_processRecruitmentOrder board order).trans hestate, hboard.processRecruitmentOrder ?_⟩
    rw [howner]
    exact hrecruits order horder
  have hall := Run.invariant_of_admitted (C := fun order => order ∈ orders.recruitment) hstep
    (s := advanceBuildQueues state)
    ⟨estate_advanceBuildQueues state, h.of_estate (estate_advanceBuildQueues state) rfl⟩
    fun order horder => (List.mem_insertionSort fun first second =>
      recruitmentProcessingKey (advanceBuildQueues state) first ≤
        recruitmentProcessingKey (advanceBuildQueues state) second).1 horder
  have hrecruited := (hall _ (Run.foldl_mem_states _ _)).2
  have hkeys : (IronCouncil.resolveBuildPhase state orders).cities.keys = state.cities.keys :=
    congrArg (fun e => e.1) (estate_resolveBuildPhase state orders)
  refine ⟨hkeys.trans h.cities_eq, ?_, ?_⟩
  · rw [armies_resolveBuildPhase]
    exact hrecruited.armies
  · have howner : (IronCouncil.resolveBuildPhase state orders).cityOwner = state.cityOwner :=
      congrArg (fun e => e.2.1) (estate_resolveBuildPhase state orders)
    rw [howner]
    exact h.cities

theorem HeldBy.resolveMovementPhase (h : HeldBy J cityIds firstOwner state) (mapDefinition : MapDefinition)
    (orders : OrderBatch) : HeldBy J cityIds firstOwner (resolveMovementPhase mapDefinition state orders) := by
  have hadvanced : HeldBy J cityIds firstOwner (advanceTransitArmies state) := by
    refine h.update ?_ ?_
    · rfl
    · intro army harmy
      obtain ⟨before, hbefore, rfl⟩ := List.mem_map.1 harmy
      exact ⟨before, hbefore, (advanceTransitArmy_frame before).2⟩
  apply Run.invariant_foldl _ hadvanced
  intro board order hboard
  refine hboard.update ?_ ?_
  · rfl
  · intro army harmy
    rcases List.mem_modifyLastWhere harmy with hmem | ⟨before, hbefore, -, rfl⟩
    · exact ⟨army, hmem, rfl⟩
    · exact ⟨before, hbefore, (departArmy_frame mapDefinition order.destination before).2⟩

/-- A city goes to a player with an army only. -/
theorem HeldBy.transferCityControl (h : HeldBy J cityIds firstOwner state) (cityId : String) :
    HeldBy J cityIds firstOwner (transferCityControl state cityId) := by
  rcases transferCityControl_cases state cityId with hsame | ⟨city, owner, hcity, hoccupied, -, -, heq⟩
  · rw [hsame]
    exact h
  · obtain ⟨howner, hkeys, harmies⟩ := controlled_frame state cityId owner city.owner
    obtain ⟨army, harmy, rfl⟩ := mem_occupyingOwners hoccupied
    rw [heq]
    refine ⟨hkeys.trans h.cities_eq, ?_, ?_⟩
    · rw [harmies]
      exact h.armies
    · intro key
      rw [howner, cityOwner_setCityOwner (OrdDict.mem_keys_of_get? hcity)]
      split
      · exact Or.inr ⟨army.owner, rfl, h.armies army harmy⟩
      · exact h.cities key

theorem HeldBy.resolveCombatPhase (h : HeldBy J cityIds firstOwner state) :
    HeldBy J cityIds firstOwner (resolveCombatPhase state) := by
  have hfought : HeldBy J cityIds firstOwner (resolveContestedCityCombat state) :=
    h.update rfl fun _ => mem_applyLosses_owner
  exact Run.invariant_foldl (fun _ cityId hboard => hboard.transferCityControl cityId) hfought _

theorem HeldBy.resolveAttritionPhase (h : HeldBy J cityIds firstOwner state) (phaseState : ResolverPhaseState) :
    HeldBy J cityIds firstOwner (resolveAttritionPhase state phaseState).1 := by
  have hsuffered : HeldBy J cityIds firstOwner (sufferAttrition state) := h.update rfl fun _ => mem_applyLosses_owner
  obtain ⟨hestate, harmies⟩ := estate_degradeUnpaidFortifications (sufferAttrition state)
    phaseState.unpaidFortificationCityIds phaseState.degradedFortificationCityIds
  exact (hsuffered.of_estate hestate harmies).of_estate (estate_markEliminated _) rfl

theorem HeldBy.resolveThroughDiplomacy {settled : MatchState} (h : HeldBy J cityIds firstOwner state) {orders : OrderBatch}
    {mapDefinition : MapDefinition}
    (hrecruits : ∀ order ∈ orders.recruitment, ∀ owner, state.cityOwner order.city = some owner → J owner)
    (hsettled : resolveThroughDiplomacy state orders mapDefinition = .ok settled) : HeldBy J cityIds firstOwner settled := by
  obtain ⟨besieged, phaseState, hsiege, rfl⟩ := resolveThroughDiplomacy_eq_ok hsettled
  obtain ⟨supplied, phaseState', hresource, hbesieged, -⟩ := resolveThroughSiege_eq_ok hsiege
  obtain ⟨hestate, harmies⟩ := estate_resolveResourcePhase hresource
  have howner : supplied.cityOwner = state.cityOwner := congrArg (fun e => e.2.1) hestate
  rw [← howner] at hrecruits
  have hbuilt := (h.of_estate hestate harmies).resolveBuildPhase hrecruits
  have hfought := (hbuilt.resolveMovementPhase mapDefinition orders).resolveCombatPhase
  obtain ⟨hbesiegedEstate, hbesiegedArmies⟩ := estate_degradeBesiegedFortifications hbesieged
  exact (hfought.of_estate hbesiegedEstate hbesiegedArmies).resolveAttritionPhase phaseState

end Held

/-! ### The joined players of a match -/

/-- A state of a match whose joined players are `J`: all slots have started alike, and slots outside `J` have done nothing since. -/
structure Seated (J : String → Prop) (state : MatchState) : Prop where
  creator : canonicalPlayerId 1 ∈ state.players.keys
  roster : ∀ playerId ∈ state.players.keys, ∃ n, playerId = canonicalPlayerId n
  shares : ∃ share firstOwner,
    HeldBy (fun playerId => J playerId ∧ playerId ∈ state.players.keys) state.cities.keys firstOwner state ∧
    ∀ playerId ∈ state.players.keys, (ownedCities state.cities.keys firstOwner playerId).card = share
  worn : ∀ playerId allianceId, allianceOf state playerId = some allianceId →
    J playerId ∧ ∃ n, allianceId = numberedName "alliance-" n

structure SeatedRecord (J : String → Prop) (record : MatchRecord) : Prop where
  seated : Seated J record.state
  agree : AlliancesAgree record
  queued : ∀ submission ∈ record.orderSubmissions, J submission.playerId

theorem mintedId_ne_canonicalPlayerId (m n : Nat) : numberedName "alliance-" m ≠ canonicalPlayerId n := by
  intro h
  have hhead := congrArg (fun text => text.toList.head?) h
  unfold canonicalPlayerId numberedName at hhead
  simp [toString, String.toList_append] at hhead

section Seats

variable {J : String → Prop} {state : MatchState} {record next : MatchRecord}

/-- Alliance ids and player ids do not meet. -/
theorem Seated.apart (h : Seated J state) : CoalitionIdsApart state := by
  intro playerId player hplayer allianceId halliance
  have hworn : allianceOf state playerId = some allianceId := by rw [allianceOf_self hplayer, halliance]
  obtain ⟨-, n, rfl⟩ := h.worn playerId allianceId hworn
  refine ⟨numberedName_ne_empty n, fun hmem => ?_⟩
  obtain ⟨k, hk⟩ := h.roster _ hmem
  exact mintedId_ne_canonicalPlayerId n k hk

theorem minted_of_agree (hseated : Seated J record.state) (hagree : AlliancesAgree record)
    {alliance : MatchAlliance} (hmem : alliance ∈ record.alliances) :
    ∃ n, alliance.allianceId = numberedName "alliance-" n := by
  have hleader := (hagree.wellFormed alliance hmem).leader_mem
  have hworn := (hagree.member_iff alliance.leaderId alliance.allianceId).1 ⟨alliance, hmem, rfl, hleader⟩
  exact (hseated.worn _ _ hworn).2

/-- What a seat goes by: the owners, the armies and who wears what. -/
theorem Seated.congr {state' : MatchState} (h : Seated J state) (hcities : state'.cities = state.cities)
    (harmies : state'.armies = state.armies) (hmembers : state'.memberships = state.memberships) :
    Seated J state' := by
  have hkeys : state'.players.keys = state.players.keys := by
    rw [MatchState.keys_eq_memberships, MatchState.keys_eq_memberships, hmembers]
  obtain ⟨share, firstOwner, hheld, hshares⟩ := h.shares
  refine ⟨hkeys ▸ h.creator, hkeys ▸ h.roster, ⟨share, firstOwner, ?_, ?_⟩, ?_⟩
  · rw [hkeys]
    exact ⟨rfl, harmies ▸ hheld.armies, MatchState.cityOwner_congr hcities ▸ hheld.cities⟩
  · rw [hkeys, hcities]
    exact hshares
  · rw [allianceOf_of_memberships hmembers]
    exact h.worn

/-! ### Lobbies, commands and ticks -/

theorem seated_initializeMatchState {request : MatchLobbyCreateRequest}
    (h : initializeMatchState (lobbyConfig request) (lobbyRoster request) none = .ok state) : Seated J state := by
  have hids : (lobbyRoster request).map (·.playerId) = (List.range' 1 request.maxPlayers).map canonicalPlayerId := by
    unfold lobbyRoster
    rw [List.map_map]
    rfl
  have hnodup : ((lobbyRoster request).map (·.playerId)).Nodup := by
    rw [hids]
    exact List.Nodup.map (numberedName_injective _) List.nodup_range'
  have hroster : ∀ entry ∈ lobbyRoster request, entry.startingCityIds = none := by
    intro entry hentry
    obtain ⟨playerIndex, -, rfl⟩ := List.mem_map.1 hentry
    rfl
  obtain ⟨harmies, hshares⟩ := initializeMatchState_shares hroster hnodup h
  obtain ⟨citiesOwned, hplayers⟩ := initializeMatchState_players h
  have hkeys : ∀ playerId, playerId ∈ state.players.keys ↔ playerId ∈ (lobbyRoster request).map (·.playerId) := by
    intro playerId
    rw [hplayers, OrdDict.mem_keys_ofList, List.map_map]
    exact Iff.rfl
  refine ⟨?_, ?_, ⟨_, state.cityOwner, ⟨rfl, ?_, fun _ => Or.inl rfl⟩, fun playerId hplayer => hshares playerId ((hkeys playerId).1 hplayer)⟩, ?_⟩
  · rw [hkeys, hids]
    have hpos := request.maxPlayers_pos
    exact List.mem_map_of_mem (List.mem_range'_1.2 ⟨le_rfl, by omega⟩)
  · intro playerId hplayer
    rw [hkeys, hids] at hplayer
    obtain ⟨n, -, rfl⟩ := List.mem_map.1 hplayer
    exact ⟨n, rfl⟩
  · rw [harmies]
    intro army harmy
    cases harmy
  · intro playerId allianceId hworn
    obtain ⟨player, hplayer, halliance⟩ := Option.bind_eq_some_iff.1 hworn
    rw [hplayers] at hplayer
    obtain ⟨entry, -, heq⟩ := List.mem_map.1 (OrdDict.mem_of_get?_ofList hplayer)
    cases heq
    cases halliance

theorem allianceOf_setAlliance_eq_some {playerId member allianceId : String} {worn : Option String}
    (h : allianceOf (setAlliance state playerId worn) member = some allianceId) :
    (member = playerId ∧ worn = some allianceId) ∨ allianceOf state member = some allianceId := by
  unfold allianceOf setAlliance MatchState.modifyPlayer at h
  dsimp only at h
  rw [OrdDict.get?_modify] at h
  split at h
  · rename_i hmember
    obtain ⟨player, hplayer, halliance⟩ := Option.bind_eq_some_iff.1 h
    obtain ⟨before, -, rfl⟩ := Option.map_eq_some_iff.1 hplayer
    exact Or.inl ⟨hmember, halliance⟩
  · exact Or.inr h

theorem seated_part {playerId : String} (hplayer : J playerId) (h : CommandPart (fun _ => True) playerId record next)
    (hkept : Seated J record.state ∧ AlliancesAgree record) : Seated J next.state ∧ AlliancesAgree next := by
  refine ⟨?_, alliancesAgree_part h hkept.2⟩
  cases h with
  | submitted envelope => exact hkept.1
  | posted messages groupChats => exact hkept.1
  | treaty hallowed haction =>
      obtain ⟨treaties, messages, rfl⟩ := applyTreatyAction_frame haction
      exact hkept.1
  | alliance haction =>
      obtain ⟨alliances, worn, rfl, hknown, -⟩ := applyAllianceAction_eq_ok haction
      have hkeys := keys_setAlliance record.state playerId worn
      obtain ⟨share, firstOwner, hheld, hshares⟩ := hkept.1.shares
      refine ⟨?_, ?_, ⟨share, firstOwner, ?_, ?_⟩, ?_⟩
      · change _ ∈ (setAlliance record.state playerId worn).players.keys
        rw [hkeys]
        exact hkept.1.creator
      · change ∀ member ∈ (setAlliance record.state playerId worn).players.keys, _
        rw [hkeys]
        exact hkept.1.roster
      · change HeldBy (fun member => J member ∧ member ∈ (setAlliance record.state playerId worn).players.keys) _ _ _
        rw [hkeys]
        exact ⟨rfl, hheld.armies, hheld.cities⟩
      · change ∀ member ∈ (setAlliance record.state playerId worn).players.keys, _
        rw [hkeys]
        exact hshares
      · intro member allianceId hworn
        rcases allianceOf_setAlliance_eq_some hworn with ⟨rfl, hset⟩ | hbefore
        · refine ⟨hplayer, ?_⟩
          rcases hknown allianceId hset with hminted | ⟨alliance, halliance, rfl⟩
          · exact hminted
          · exact minted_of_agree hkept.1 hkept.2 halliance
        · exact hkept.1.worn member allianceId hbefore

theorem SeatedRecord.command (h : SeatedRecord J record) {playerId : String} (hplayer : J playerId)
    {command : MatchCommand} {accepted : CommandAcceptance}
    (hcommand : applyMatchCommand record playerId command = .ok (next, accepted)) : SeatedRecord J next := by
  have hparts : Relation.ReflTransGen (CommandPart (fun _ => True) playerId) record next :=
    applyMatchCommand_parts (fun _ _ => trivial) (by cases command <;> trivial) hcommand
  obtain ⟨hseated, hagree⟩ := keeps_reached (I := fun reached => Seated J reached.state ∧ AlliancesAgree reached)
    (fun _ _ => seated_part hplayer) hparts ⟨h.seated, h.agree⟩
  refine ⟨hseated, hagree, ?_⟩
  rcases orderSubmissions_applyMatchCommand hcommand with hsame | ⟨tick, orders, hqueue, -⟩
  · rw [hsame]
    exact h.queued
  · rw [hqueue]
    intro submission hmem
    rcases List.mem_append.1 hmem with hmem | hmem
    · exact h.queued submission hmem
    · rw [List.mem_singleton.1 hmem]
      exact hplayer

/-- Merging leaves the players that have submitted. -/
theorem combineSubmissionsByPlayer_player {submissions : List OrderEnvelope}
    (h : ∀ submission ∈ submissions, J submission.playerId) :
    ∀ merged ∈ combineSubmissionsByPlayer submissions, J merged.playerId := by
  have hall : ∀ key merged, (submissions.foldl mergeSubmission OrdDict.empty).get? key = some merged →
      J merged.playerId := by
    refine Run.invariant_of_admitted (C := fun submission : OrderEnvelope => J submission.playerId)
      (I := fun combined : OrdDict String OrderEnvelope => ∀ key merged, combined.get? key = some merged → J merged.playerId) ?_ ?_ h _
      (Run.foldl_mem_states _ _)
    · intro combined submission hsubmission hcombined key merged hget
      rw [mergeSubmission, OrdDict.get?_upsert] at hget
      split at hget
      · cases hfirst : combined.get? submission.playerId with
        | none =>
            rw [hfirst] at hget
            cases hget
            exact hsubmission
        | some first =>
            rw [hfirst] at hget
            cases hget
            exact hcombined submission.playerId first hfirst
      · exact hcombined key merged hget
    · intro key merged hget
      rw [OrdDict.get?_empty] at hget
      cases hget
  intro merged hmem
  obtain ⟨key, hget⟩ := OrdDict.mem_values.1 hmem
  exact hall key merged hget

/-- Recruits are ordered by the city's owner. -/
theorem owner_of_validated_recruitment {submissions : List OrderEnvelope}
    (h : ∀ submission ∈ submissions, J submission.playerId) :
    ∀ order ∈ (validateQueuedOrders state submissions).recruitment, ∀ owner,
      state.cityOwner order.city = some owner → J owner ∧ owner ∈ state.players.keys := by
  intro order horder owner howner
  rw [validateQueuedOrders_recruitment] at horder
  obtain ⟨submission, hsubmission, haccepted⟩ := List.mem_flatMap.1 horder
  obtain ⟨city, hcity, hcityOwner⟩ := accepted_recruitment haccepted
  have hsame : state.cityOwner order.city = some submission.playerId :=
    MatchState.cityOwner_eq_some.2 ⟨city, hcity, hcityOwner⟩
  rw [Option.some.inj (howner.symm.trans hsame)]
  exact ⟨combineSubmissionsByPlayer_player h submission hsubmission, accepted_order_player (·.recruitment) rfl haccepted⟩

theorem Seated.settled (h : Seated J record.state) (hqueued : ∀ submission ∈ record.orderSubmissions, J submission.playerId)
    {settled : MatchState} (hsettled : settledBoard record = .ok settled) : Seated J settled := by
  have hmembers : settled.memberships = record.state.memberships :=
    congrArg (fun frame => frame.2.2) (tickFrame_resolveThroughDiplomacy hsettled)
  have hkeys := keys_of_tickFrame (tickFrame_resolveThroughDiplomacy hsettled)
  obtain ⟨share, firstOwner, hheld, hshares⟩ := h.shares
  have hafter : HeldBy (fun playerId => J playerId ∧ playerId ∈ record.state.players.keys) record.state.cities.keys
      firstOwner settled := by
    apply hheld.resolveThroughDiplomacy _ hsettled
    apply owner_of_validated_recruitment
    intro submission hmem
    exact hqueued submission (List.mem_filter.1 hmem).1
  refine ⟨hkeys ▸ h.creator, hkeys ▸ h.roster, ⟨share, firstOwner, ?_, ?_⟩, ?_⟩
  · rw [hkeys]
    exact ⟨rfl, hafter.armies, hafter.cities⟩
  · rw [hkeys, hafter.cities_eq]
    exact hshares
  · rw [allianceOf_of_memberships hmembers]
    exact h.worn

theorem SeatedRecord.tick (h : SeatedRecord J record) : SeatedRecord J (advanceMatchTick record).1 where
  seated := by
    cases hsettled : settledBoard record with
    | error error =>
        rw [(advanceMatchTick_of_error hsettled).1]
        exact h.seated
    | ok settled =>
        rw [(advanceMatchTick_of_settled hsettled).1]
        exact (h.seated.settled h.queued hsettled).congr rfl rfl rfl
  agree := alliancesAgree_tick h.agree
  queued := by
    rw [advanceMatchTick_orderSubmissions]
    intro submission hmem
    exact h.queued submission (List.mem_filter.1 hmem).1

/-- A match that only its joined players command stays one whose other slots have done nothing. -/
theorem seats_kept (J : String → Prop) (matchId : String) :
    KeptByMatches (fun id state => id = matchId → Seated J state)
      (fun record => record.matchId = matchId → SeatedRecord J record)
      (fun record playerId _ => record.matchId = matchId → J playerId) where
  lobby := fun _ _ _ h _ => seated_initializeMatchState h
  loaded := by
    intro record hseated halliances hqueue hid
    refine ⟨hseated hid, alliancesAgree_derived (if_pos halliances), ?_⟩
    intro submission hmem
    change submission ∈ record.orderSubmissions at hmem
    rw [hqueue] at hmem
    cases hmem
  command := by
    intro record playerId command next accepted hplayer hrecord h hid
    have hsame : next.matchId = record.matchId := congrArg Prod.fst (identity_applyMatchCommand h)
    exact (hrecord (hsame ▸ hid)).command (hplayer (hsame ▸ hid)) h
  tick := by
    intro record hrecord hid
    have hsame : (advanceMatchTick record).1.matchId = record.matchId :=
      congrArg Prod.fst (identity_advanceMatchTick record)
    exact (hrecord (hsame ▸ hid)).tick
  persists := fun _ hrecord hid => (hrecord hid).seated

end Seats

/-! ### Why the leader is joined -/

/-- The id that a player's coalition goes by: its alliance's, or the player's own. -/
def coalitionIdOf (state : MatchState) (playerId : String) : String := (allianceOf state playerId).getD playerId

/-- The cities that the members of a coalition own. -/
def heldCities (state : MatchState) (coalitionId : String) : Finset String :=
  (state.cities.keys.filter fun cityId =>
    (state.cities.get? cityId).bind (coalitionIdOfCity state) = some coalitionId).toFinset

section Counting

variable {J : String → Prop} {state : MatchState}

theorem card_heldCities (state : MatchState) (coalitionId : String) :
    (heldCities state coalitionId).card = holding state coalitionId := by
  unfold heldCities holding
  rw [List.toFinset_card_of_nodup (state.cities.keys_nodup.filter _), List.count_filterMap,
    ← List.countP_eq_length_filter]
  unfold OrdDict.keys OrdDict.values
  rw [List.countP_map, List.countP_map]
  apply List.countP_congr
  rintro ⟨cityId, city⟩ hentry
  have hget : state.cities.get? cityId = some city := OrdDict.get?_eq_some.2 hentry
  simp [hget]

theorem mem_heldCities {cityId coalitionId : String} :
    cityId ∈ heldCities state coalitionId ↔ ∃ owner, state.cityOwner cityId = some owner ∧
      owner ∈ state.players.keys ∧ coalitionIdOf state owner = coalitionId := by
  unfold heldCities
  rw [List.mem_toFinset, List.mem_filter, decide_eq_true_eq]
  constructor
  · rintro ⟨-, hcoalition⟩
    obtain ⟨city, hcity, hcoalition⟩ := Option.bind_eq_some_iff.1 hcoalition
    obtain ⟨owner, howner, hcoalition⟩ := Option.bind_eq_some_iff.1 hcoalition
    obtain ⟨player, hplayer, rfl⟩ := Option.map_eq_some_iff.1 hcoalition
    refine ⟨owner, MatchState.cityOwner_eq_some.2 ⟨city, hcity, howner⟩, OrdDict.mem_keys_of_get? hplayer, ?_⟩
    unfold coalitionIdOf
    rw [allianceOf_self hplayer]
  · rintro ⟨owner, howner, hplayer, rfl⟩
    obtain ⟨player, hplayer⟩ := OrdDict.mem_keys.1 hplayer
    obtain ⟨city, hcity, hcityOwner⟩ := MatchState.cityOwner_eq_some.1 howner
    refine ⟨OrdDict.mem_keys_of_get? hcity, ?_⟩
    unfold coalitionIdOfCity coalitionIdOf
    rw [hcity, Option.bind_some, hcityOwner, Option.bind_some, hplayer, Option.map_some, allianceOf_self hplayer]

/-- Outside the joined players everyone is a coalition of one. -/
theorem Seated.alone (h : Seated J state) {playerId : String} (hplayer : playerId ∈ state.players.keys)
    (hnot : ¬ J playerId) {member : String} : coalitionIdOf state member = playerId ↔ member = playerId := by
  have hplain : ∀ other, allianceOf state other ≠ some playerId := by
    intro other hworn
    obtain ⟨-, m, hm⟩ := h.worn other playerId hworn
    obtain ⟨n, hn⟩ := h.roster playerId hplayer
    exact mintedId_ne_canonicalPlayerId m n (hm.symm.trans hn)
  unfold coalitionIdOf
  constructor
  · intro hcoalition
    cases hworn : allianceOf state member with
    | none =>
        rw [hworn] at hcoalition
        exact hcoalition
    | some allianceId =>
        rw [hworn] at hcoalition
        exact absurd (hworn.trans (congrArg some hcoalition)) (hplain member)
  · rintro rfl
    cases hworn : allianceOf state member with
    | none => rfl
    | some allianceId => exact absurd (h.worn member allianceId hworn).1 hnot

/-- Some coalition of joined players holds as many cities as one slot started with. -/
theorem exists_share_held {share : Nat} {firstOwner : String → Option String}
    (hheld : HeldBy (fun playerId => J playerId ∧ playerId ∈ state.players.keys) state.cities.keys firstOwner state)
    (hshares : ∀ playerId ∈ state.players.keys, (ownedCities state.cities.keys firstOwner playerId).card = share)
    {creator : String} (hcreator : J creator ∧ creator ∈ state.players.keys) :
    ∃ member, J member ∧ share ≤ holding state (coalitionIdOf state member) := by
  classical
  let joined := state.players.keys.toFinset.filter J
  have hmem : ∀ member, member ∈ joined ↔ member ∈ state.players.keys ∧ J member := by
    intro member
    rw [Finset.mem_filter, List.mem_toFinset]
  let started := joined.biUnion fun member => ownedCities state.cities.keys firstOwner member
  have hstarted : started.card = joined.card * share := by
    rw [Finset.card_biUnion]
    · exact Finset.sum_const_nat fun member hjoined => hshares member ((hmem member).1 hjoined).1
    · intro first _ second _ hne
      apply Finset.disjoint_left.2
      intro cityId hfirst hsecond
      exact hne (Option.some.inj ((mem_ownedCities.1 hfirst).2.symm.trans (mem_ownedCities.1 hsecond).2))
  let coalitionOfCity (cityId : String) : String := ((state.cityOwner cityId).map (coalitionIdOf state)).getD ""
  have howned : ∀ cityId ∈ started, ∃ owner ∈ joined, state.cityOwner cityId = some owner ∧
      coalitionOfCity cityId = coalitionIdOf state owner := by
    intro cityId hcity
    obtain ⟨member, hjoined, hcity⟩ := Finset.mem_biUnion.1 hcity
    have howner : ∃ owner ∈ joined, state.cityOwner cityId = some owner := by
      rcases hheld.cities cityId with hsame | ⟨owner, howner, hJ, hknown⟩
      · exact ⟨member, hjoined, hsame.trans (mem_ownedCities.1 hcity).2⟩
      · exact ⟨owner, (hmem owner).2 ⟨hknown, hJ⟩, howner⟩
    obtain ⟨owner, hjoined, howner⟩ := howner
    exact ⟨owner, hjoined, howner, by simp only [coalitionOfCity, howner, Option.map_some, Option.getD_some]⟩
  have hmaps : ∀ cityId ∈ started, coalitionOfCity cityId ∈ joined.image (coalitionIdOf state) := by
    intro cityId hcity
    obtain ⟨owner, hjoined, -, hcoalition⟩ := howned cityId hcity
    exact Finset.mem_image.2 ⟨owner, hjoined, hcoalition.symm⟩
  have hnonempty : (joined.image (coalitionIdOf state)).Nonempty :=
    ⟨_, Finset.mem_image_of_mem _ ((hmem creator).2 hcreator.symm)⟩
  have henough : (joined.image (coalitionIdOf state)).card * share ≤ started.card := by
    rw [hstarted]
    exact Nat.mul_le_mul_right share Finset.card_image_le
  obtain ⟨coalitionId, hcoalition, hcount⟩ :=
    Finset.exists_le_card_fiber_of_mul_le_card_of_maps_to hmaps hnonempty henough
  obtain ⟨member, hjoined, rfl⟩ := Finset.mem_image.1 hcoalition
  refine ⟨member, ((hmem member).1 hjoined).2, hcount.trans ?_⟩
  rw [← card_heldCities]
  apply Finset.card_le_card
  intro cityId hcity
  obtain ⟨hcity, hsame⟩ := Finset.mem_filter.1 hcity
  obtain ⟨owner, hjoined, howner, hcoalition⟩ := howned cityId hcity
  exact mem_heldCities.2 ⟨owner, howner, ((hmem owner).1 hjoined).1, hcoalition.symm.trans hsame⟩

/-- A slot that nobody has joined does not lead alone. -/
theorem Seated.joined_of_leads (h : Seated J state) (hcreator : J (canonicalPlayerId 1)) {coalitionId : String}
    (hleads : LeadsAlone state coalitionId) {playerId : String} (hplayer : playerId ∈ state.players.keys)
    (hmember : coalitionIdOf state playerId = coalitionId) : J playerId := by
  by_contra hnot
  obtain rfl : playerId = coalitionId := by
    rw [← hmember]
    exact ((h.alone hplayer hnot).2 rfl).symm
  obtain ⟨share, firstOwner, hheld, hshares⟩ := h.shares
  have hle : holding state playerId ≤ share := by
    rw [← card_heldCities, ← hshares playerId hplayer]
    apply Finset.card_le_card
    intro cityId hcity
    obtain ⟨owner, howner, -, hcoalition⟩ := mem_heldCities.1 hcity
    obtain rfl := (h.alone hplayer hnot).1 hcoalition
    refine mem_ownedCities.2 ⟨mem_keys_of_cityOwner howner, ?_⟩
    rcases hheld.cities cityId with hsame | ⟨other, hother, hjoined, -⟩
    · exact hsame.symm.trans howner
    · rw [Option.some.inj (hother.symm.trans howner)] at hjoined
      exact absurd hjoined hnot
  obtain ⟨member, hjoined, hmore⟩ := exists_share_held hheld hshares ⟨hcreator, h.creator⟩
  have hapart : coalitionIdOf state member ≠ playerId := by
    intro hsame
    rw [(h.alone hplayer hnot).1 hsame] at hjoined
    exact hnot hjoined
  have hless := hleads.2 (coalitionIdOf state member) hapart
  omega

end Counting

end IronCouncil
