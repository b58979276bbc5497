import IronCouncil.Proof.CombatCasualties
import IronCouncil.Proof.TickRuns

/-!
# The journey of an army

An army that departs over an edge of distance `d` is out of reach until it arrives: no order, no recruit and no combat touches it, it comes one tick nearer in every tick, and hunger alone takes troops from it. In the `d`-th tick after its departure it stands at its destination when combat begins.
-/

namespace IronCouncil

/-- The board of a tick between movement and combat. -/
def movedBoard (mapDefinition : MapDefinition) (state : MatchState) (submissions : List OrderEnvelope) :
    Except TickError MatchState :=
  match resolveResourcePhase state ⟨mapDefinition, [], []⟩ with
  | .error error => .error error
  | .ok (supplied, _) =>
      .ok (resolveMovementPhase mapDefinition
        (resolveBuildPhase supplied (validatedOrders mapDefinition state submissions))
        (validatedOrders mapDefinition state submissions))

/-- The troops a tick starves in each army of an owner. -/
def hunger (mapDefinition : MapDefinition) (state : MatchState) (submissions : List OrderEnvelope) (owner : String) : Nat :=
  match movedBoard mapDefinition state submissions with
  | .error _ => 0
  | .ok moved => if owner ∈ starvingPlayers moved then starvationAttritionLoss else 0

/-- The army on its way to a destination, so many ticks after its departure and less what it has lost. -/
def travelling (army : ArmyState) (destination : String) (distance : Nat) (ticks lost : Nat) : ArmyState :=
  { army with
    troops := army.troops - lost
    location := none
    destination := some destination
    path := some [destination]
    ticksRemaining := distance - ticks }

/-- The army in its new place. -/
def arrived (army : ArmyState) (destination : String) (lost : Nat) : ArmyState :=
  { army with
    troops := army.troops - lost
    location := some destination
    destination := none
    path := none
    ticksRemaining := 0 }

/-- Armies that can be told apart and have troops. -/
structure ArmiesSound (armies : List ArmyState) : Prop where
  distinct : (armies.map (·.id)).Nodup
  manned : ∀ army ∈ armies, 0 < army.troops

/-! ### One tick -/

section Tick

variable {mapDefinition : MapDefinition} {state supplied : MatchState} {orders : OrderBatch}

theorem musterTroops_keeps {owner : String} {order : RecruitmentOrder} {army : ArmyState} (harmy : army ∈ state.armies)
    (haway : army.destination ≠ none) : army ∈ (musterTroops state owner order).armies := by
  unfold musterTroops
  split
  · apply List.mem_modifyFirstWhere_of_neg harmy
    simp [ArmyState.stationedAt, haway]
  · exact List.mem_append_left _ harmy

theorem distinct_musterTroops (hdistinct : (state.armies.map (·.id)).Nodup) (owner : String) (order : RecruitmentOrder) :
    ((musterTroops state owner order).armies.map (·.id)).Nodup := by
  unfold musterTroops
  split
  · dsimp only
    rw [List.map_modifyFirstWhere]
    · exact hdistinct
    · exact fun _ => rfl
  · have hfresh : nextRecruitmentArmyId owner order.city (state.armies.map (·.id)) ∉ state.armies.map (·.id) :=
      nextFree_not_mem (numberedName_injective _) _ _
    dsimp only
    rw [List.map_append, List.map_singleton]
    apply List.Nodup.append hdistinct (List.nodup_singleton _)
    rw [List.disjoint_singleton]
    exact hfresh

theorem distinct_resolveBuildPhase (hdistinct : (state.armies.map (·.id)).Nodup) (orders : OrderBatch) :
    ((resolveBuildPhase state orders).armies.map (·.id)).Nodup := by
  have hstart : ((advanceBuildQueues state).armies.map (·.id)).Nodup := hdistinct
  rw [armies_resolveBuildPhase]
  apply Run.invariant_foldl (I := fun board : MatchState => (board.armies.map (·.id)).Nodup) _ hstart
  intro board order hboard
  rcases armies_processRecruitmentOrder board order with hsame | ⟨board', owner, harmies, -, hmuster⟩
  · rwa [hsame]
  · rw [hmuster]
    rw [← harmies] at hboard
    exact distinct_musterTroops hboard owner order

theorem resolveBuildPhase_keeps {army : ArmyState} (harmy : army ∈ state.armies) (haway : army.destination ≠ none)
    (orders : OrderBatch) : army ∈ (resolveBuildPhase state orders).armies := by
  have hstart : army ∈ (advanceBuildQueues state).armies := harmy
  rw [armies_resolveBuildPhase]
  apply Run.invariant_foldl (I := fun board : MatchState => army ∈ board.armies) _ hstart
  intro board order hboard
  rcases armies_processRecruitmentOrder board order with hsame | ⟨board', owner, harmies, -, hmuster⟩
  · rwa [hsame]
  · rw [hmuster]
    rw [← harmies] at hboard
    exact musterTroops_keeps hboard haway

theorem distinct_resolveMovementPhase (hdistinct : (state.armies.map (·.id)).Nodup) (orders : OrderBatch) :
    ((resolveMovementPhase mapDefinition state orders).armies.map (·.id)).Nodup := by
  have hadvanced : (advanceTransitArmies state).armies.map (·.id) = state.armies.map (·.id) := by
    unfold advanceTransitArmies
    rw [List.map_map]
    exact List.map_congr_left fun army _ => (advanceTransitArmy_frame army).1
  rw [← hadvanced] at hdistinct
  apply Run.invariant_foldl (I := fun board : MatchState => (board.armies.map (·.id)).Nodup) _ hdistinct
  intro board order hboard
  unfold startMovementOrder
  dsimp only
  rwa [List.map_modifyLastWhere fun army => (departArmy_frame mapDefinition order.destination army).1]

/-- An army that no order is for moves on only if it is on its way. -/
theorem resolveMovementPhase_advances {army : ArmyState} (harmy : army ∈ state.armies)
    (hfree : ∀ order ∈ orders.movements, order.armyId ≠ army.id) :
    advanceTransitArmy army ∈ (resolveMovementPhase mapDefinition state orders).armies := by
  have hstart : ∀ (movements : List MovementOrder) (board : MatchState), advanceTransitArmy army ∈ board.armies →
      (∀ order ∈ movements, order.armyId ≠ army.id) →
        advanceTransitArmy army ∈ (startMovementOrders mapDefinition board movements).armies := by
    intro movements
    induction movements with
    | nil => exact fun _ hboard _ => hboard
    | cons order movements ih =>
        intro board hboard hothers
        obtain ⟨hother, hothers⟩ := List.forall_mem_cons.1 hothers
        apply ih (startMovementOrder mapDefinition board order) _ hothers
        apply List.mem_modifyLastWhere_of_neg hboard
        simpa [(advanceTransitArmy_frame army).1] using hother.symm
  exact hstart orders.movements (advanceTransitArmies state) (List.mem_map_of_mem harmy) hfree

/-- Nobody validates an order for an army that is on its way. -/
theorem validatedOrders_spares {army : ArmyState} (hdistinct : (state.armies.map (·.id)).Nodup) (harmy : army ∈ state.armies)
    (haway : army.destination ≠ none) (submissions : List OrderEnvelope) :
    ∀ order ∈ (validatedOrders mapDefinition state submissions).movements, order.armyId ≠ army.id := by
  intro order horder hid
  rw [validatedOrders_movements] at horder
  obtain ⟨submission, -, haccepted⟩ := List.mem_flatMap.1 horder
  obtain ⟨ordered, location, hordered, -, -, -, hdestination, -⟩ := accepted_movement haccepted
  obtain ⟨hmem, hsame⟩ := List.mem_filter.1 (List.mem_of_getLast? hordered)
  have hsame : ordered.id = order.armyId := of_decide_eq_true hsame
  have heq : ordered = army := List.inj_on_of_nodup_map hdistinct hmem harmy (hsame.trans hid)
  rw [heq] at hdestination
  exact haway hdestination

/-- An army on its way is at no city, and combat leaves it as it is. -/
theorem resolveCombatPhase_keeps (hdistinct : (state.armies.map (·.id)).Nodup) {army : ArmyState}
    (harmy : army ∈ state.armies) (haway : army.destination ≠ none) (htroops : 0 < army.troops) :
    army ∈ (resolveCombatPhase state).armies := by
  have hspared : ¬ Embattled state army := by
    intro h
    obtain ⟨cityId, -, hstationed, -⟩ := h
    simp [ArmyState.stationedAt, haway] at hstationed
  have hlosses : ((casualtiesByArmyId state).get? army.id).getD 0 = 0 := combatLosses_spared hdistinct harmy hspared
  unfold resolveCombatPhase
  rw [armies_transferUncontestedCityControl]
  unfold resolveContestedCityCombat applyLosses
  rw [List.mem_filter]
  refine ⟨List.mem_map.2 ⟨army, harmy, ?_⟩, decide_eq_true htroops⟩
  dsimp only
  rw [hlosses, Nat.sub_zero]

theorem mem_starvingPlayers {playerId : String} :
    playerId ∈ starvingPlayers state ↔ playerId ∈ state.players.keys ∧ state.balance playerId .food = 0 := by
  unfold starvingPlayers
  rw [List.mem_map, OrdDict.mem_keys]
  constructor
  · intro h
    obtain ⟨⟨_, player⟩, hentry, rfl⟩ := h
    obtain ⟨hplayer, hfood⟩ := List.mem_filter.1 hentry
    rw [← OrdDict.get?_eq_some] at hplayer
    rw [balance_of_get? hplayer]
    exact ⟨⟨player, hplayer⟩, of_decide_eq_true hfood⟩
  · intro h
    obtain ⟨⟨player, hplayer⟩, hfood⟩ := h
    rw [balance_of_get? hplayer] at hfood
    exact ⟨(playerId, player), List.mem_filter.2 ⟨OrdDict.get?_eq_some.1 hplayer, decide_eq_true hfood⟩, rfl⟩

/-- After combat a tick does nothing to armies but starve them. -/
theorem armies_of_follows {submissions : List OrderEnvelope} {next : MatchState}
    (h : Follows mapDefinition state submissions next) :
    ∃ moved, movedBoard mapDefinition state submissions = .ok moved ∧ next.armies = applyLosses
      (fun army => if army.owner ∈ starvingPlayers moved then starvationAttritionLoss else 0)
      (resolveCombatPhase moved).armies := by
  obtain ⟨resolution, hresolution, harmies, -⟩ := h
  obtain ⟨settled, hsettled, rfl⟩ := resolveTick_eq_ok hresolution
  obtain ⟨besieged, phaseState, hsiege, rfl⟩ := resolveThroughDiplomacy_eq_ok hsettled
  obtain ⟨supplied, phaseState', hresource, hbesieged, -⟩ := resolveThroughSiege_eq_ok hsiege
  have hmoved : movedBoard mapDefinition state submissions = .ok (resolveMovementPhase mapDefinition
      (resolveBuildPhase supplied (validatedOrders mapDefinition state submissions))
      (validatedOrders mapDefinition state submissions)) := by
    unfold movedBoard
    change resolveResourcePhase state ⟨mapDefinition, [], []⟩ = _ at hresource
    rw [hresource]
  refine ⟨_, hmoved, ?_⟩
  have hstarving : ∀ owner, owner ∈ starvingPlayers besieged ↔ owner ∈ starvingPlayers (resolveMovementPhase mapDefinition
      (resolveBuildPhase supplied (validatedOrders mapDefinition state submissions))
      (validatedOrders mapDefinition state submissions)) := by
    intro owner
    have hpurse := (purse_degradeBesiegedFortifications hbesieged).trans (purse_resolveCombatPhase _)
    have hkeys := keys_of_tickFrame ((tickFrame_degradeBesiegedFortifications hbesieged).trans (tickFrame_resolveCombatPhase _))
    have hbalance : besieged.balance = _ := congrArg Prod.fst hpurse
    rw [mem_starvingPlayers, mem_starvingPlayers, hbalance]
    exact and_congr_left fun _ => by rw [hkeys]; rfl
  have hattrition : (resolveAttritionPhase besieged phaseState).1.armies = (sufferAttrition besieged).armies :=
    (estate_degradeUnpaidFortifications (sufferAttrition besieged) phaseState.unpaidFortificationCityIds
      phaseState.degradedFortificationCityIds).2
  have hfought : besieged.armies = (resolveCombatPhase (resolveMovementPhase mapDefinition
      (resolveBuildPhase supplied (validatedOrders mapDefinition state submissions))
      (validatedOrders mapDefinition state submissions))).armies := (estate_degradeBesiegedFortifications hbesieged).2
  rw [harmies]
  change (resolveAttritionPhase besieged phaseState).1.armies = _
  rw [hattrition, ← hfought]
  unfold sufferAttrition
  simp only [hstarving]

theorem keys_movedBoard {submissions : List OrderEnvelope} {moved : MatchState}
    (hmoved : movedBoard mapDefinition state submissions = .ok moved) : moved.cities.keys = state.cities.keys := by
  unfold movedBoard at hmoved
  split at hmoved
  · cases hmoved
  · rename_i supplied phaseState hresource
    cases hmoved
    have hestate := (estate_resolveMovementPhase mapDefinition
      (resolveBuildPhase supplied (validatedOrders mapDefinition state submissions))
      (validatedOrders mapDefinition state submissions)).trans
        ((estate_resolveBuildPhase _ _).trans (estate_resolveResourcePhase hresource).1)
    exact congrArg (fun e => e.1) hestate

theorem ids_applyLosses (losses : ArmyState → Nat) (armies : List ArmyState) :
    ((applyLosses losses armies).map (·.id)).Sublist (armies.map (·.id)) := by
  have hsub : (applyLosses losses armies).Sublist
      (armies.map fun army => { army with troops := army.troops - losses army }) := List.filter_sublist
  have hids := hsub.map (·.id)
  rwa [List.map_map] at hids

theorem distinct_movedBoard (hdistinct : (state.armies.map (·.id)).Nodup) {submissions : List OrderEnvelope}
    {moved : MatchState} (hmoved : movedBoard mapDefinition state submissions = .ok moved) :
    (moved.armies.map (·.id)).Nodup := by
  unfold movedBoard at hmoved
  split at hmoved
  · cases hmoved
  · rename_i supplied phaseState hresource
    cases hmoved
    rw [← (resolveResourcePhase_board hresource).2] at hdistinct
    exact distinct_resolveMovementPhase (distinct_resolveBuildPhase hdistinct _) _

theorem ArmiesSound.of_follows (h : ArmiesSound state.armies) {submissions : List OrderEnvelope} {next : MatchState}
    (hnext : Follows mapDefinition state submissions next) : ArmiesSound next.armies := by
  obtain ⟨moved, hmoved, harmies⟩ := armies_of_follows hnext
  have hfought : (resolveCombatPhase moved).armies = (resolveContestedCityCombat moved).armies :=
    armies_transferUncontestedCityControl _
  rw [harmies]
  refine ⟨(distinct_movedBoard h.distinct hmoved).sublist ((ids_applyLosses _ _).trans ?_), ?_⟩
  · rw [hfought]
    exact ids_applyLosses _ _
  · intro army harmy
    exact of_decide_eq_true (List.mem_filter.1 harmy).2

/-- What is on its way when a tick begins has come one tick nearer before combat. -/
theorem movedBoard_advances (hdistinct : (state.armies.map (·.id)).Nodup) {army : ArmyState} (harmy : army ∈ state.armies)
    (haway : army.destination ≠ none) {submissions : List OrderEnvelope} {moved : MatchState}
    (hmoved : movedBoard mapDefinition state submissions = .ok moved) : advanceTransitArmy army ∈ moved.armies := by
  have hfree : ∀ order ∈ (validatedOrders mapDefinition state submissions).movements, order.armyId ≠ army.id :=
    validatedOrders_spares hdistinct harmy haway submissions
  unfold movedBoard at hmoved
  split at hmoved
  · cases hmoved
  · rename_i supplied phaseState hresource
    cases hmoved
    rw [← (resolveResourcePhase_board hresource).2] at harmy
    exact resolveMovementPhase_advances (resolveBuildPhase_keeps harmy haway _) hfree

/-- What is on its way after movement is still so when the tick ends, unless hunger has taken its last troops. -/
theorem follows_keeps (hdistinct : (state.armies.map (·.id)).Nodup) {army : ArmyState} {submissions : List OrderEnvelope}
    {moved next : MatchState} (hmoved : movedBoard mapDefinition state submissions = .ok moved)
    (hnext : Follows mapDefinition state submissions next) (harmy : army ∈ moved.armies) (haway : army.destination ≠ none)
    (htroops : hunger mapDefinition state submissions army.owner < army.troops) :
    { army with troops := army.troops - hunger mapDefinition state submissions army.owner } ∈ next.armies := by
  obtain ⟨moved', hmoved', harmies⟩ := armies_of_follows hnext
  obtain rfl : moved = moved' := by
    rw [hmoved] at hmoved'
    exact Except.ok.inj hmoved'
  have hfought := resolveCombatPhase_keeps (distinct_movedBoard hdistinct hmoved) harmy haway (by omega)
  have hhunger : hunger mapDefinition state submissions army.owner =
      if army.owner ∈ starvingPlayers moved then starvationAttritionLoss else 0 := by
    unfold hunger
    rw [hmoved]
  rw [harmies, applyLosses, List.mem_filter]
  refine ⟨List.mem_map.2 ⟨army, hfought, ?_⟩, decide_eq_true ?_⟩
  · rw [hhunger]
  · exact Nat.sub_pos_of_lt htroops

theorem manned_musterTroops (hmanned : ∀ army ∈ state.armies, 0 < army.troops) (owner : String)
    (order : RecruitmentOrder) : ∀ army ∈ (musterTroops state owner order).armies, 0 < army.troops := by
  intro army harmy
  unfold musterTroops at harmy
  split at harmy
  · rcases List.mem_modifyFirstWhere harmy with hsame | ⟨before, hbefore, -, rfl⟩
    · exact hmanned army hsame
    · exact Nat.add_pos_left (hmanned before hbefore) _
  · rcases List.mem_append.1 harmy with hsame | hnew
    · exact hmanned army hsame
    · rw [List.mem_singleton.1 hnew]
      exact order.troops_pos

theorem manned_resolveBuildPhase (hmanned : ∀ army ∈ state.armies, 0 < army.troops) (orders : OrderBatch) :
    ∀ army ∈ (resolveBuildPhase state orders).armies, 0 < army.troops := by
  have hstart : ∀ army ∈ (advanceBuildQueues state).armies, 0 < army.troops := hmanned
  rw [armies_resolveBuildPhase]
  apply Run.invariant_foldl (I := fun board : MatchState => ∀ army ∈ board.armies, 0 < army.troops) _ hstart
  intro board order hboard
  rcases armies_processRecruitmentOrder board order with hsame | ⟨board', owner, harmies, -, hmuster⟩
  · rwa [hsame]
  · rw [hmuster]
    rw [← harmies] at hboard
    exact manned_musterTroops hboard owner order

theorem advanceTransitArmy_troops (army : ArmyState) : (advanceTransitArmy army).troops = army.troops := by
  unfold advanceTransitArmy
  split
  · rfl
  · dsimp only
    split
    · rfl
    · rfl

theorem departArmy_troops (mapDefinition : MapDefinition) (destination : String) (army : ArmyState) :
    (departArmy mapDefinition destination army).troops = army.troops := by
  unfold departArmy
  split
  · split
    · rfl
    · rfl
  · rfl

theorem manned_movedBoard (hmanned : ∀ army ∈ state.armies, 0 < army.troops) {submissions : List OrderEnvelope}
    {moved : MatchState} (hmoved : movedBoard mapDefinition state submissions = .ok moved) :
    ∀ army ∈ moved.armies, 0 < army.troops := by
  unfold movedBoard at hmoved
  split at hmoved
  · cases hmoved
  · rename_i supplied phaseState hresource
    cases hmoved
    rw [← (resolveResourcePhase_board hresource).2] at hmanned
    have hbuilt := manned_resolveBuildPhase hmanned (validatedOrders mapDefinition state submissions)
    apply Run.invariant_foldl (I := fun board : MatchState => ∀ army ∈ board.armies, 0 < army.troops)
    · intro board order hboard army harmy
      rcases List.mem_modifyLastWhere harmy with hsame | ⟨before, hbefore, -, rfl⟩
      · exact hboard army hsame
      · rw [departArmy_troops]
        exact hboard before hbefore
    · intro army harmy
      obtain ⟨before, hbefore, rfl⟩ := List.mem_map.1 harmy
      rw [advanceTransitArmy_troops]
      exact hbuilt before hbefore

end Tick

/-! ### The journey -/

section Journey

variable (mapDefinition : MapDefinition) (boards : Nat → MatchState) (submissions : Nat → List OrderEnvelope)

/-- The troops that a number of ticks starve in each army of an owner. -/
def starved (start : Nat) (owner : String) (ticks : Nat) : Nat :=
  ((List.range ticks).map fun k => hunger mapDefinition (boards (start + k)) (submissions (start + k)) owner).sum

/-- The army, as it is when it departs, on its way and on arrival, in a run of so many ticks. -/
structure Journey (ticks start : Nat) (army : ArmyState) (destination : String) (distance : Nat) : Prop where
  moving : ∀ i < distance, start + i < ticks → starved mapDefinition boards submissions start army.owner i < army.troops →
    ∀ moved, movedBoard mapDefinition (boards (start + i)) (submissions (start + i)) = .ok moved →
      travelling army destination distance i (starved mapDefinition boards submissions start army.owner i) ∈ moved.armies ∧
        (∀ cityId, travelling army destination distance i (starved mapDefinition boards submissions start army.owner i) ∉
          armiesAtCity moved.armies cityId) ∧
        travelling army destination distance i (starved mapDefinition boards submissions start army.owner i) ∈
          (resolveCombatPhase moved).armies
  between : ∀ i < distance, start + i < ticks →
    starved mapDefinition boards submissions start army.owner (i + 1) < army.troops →
      travelling army destination distance i (starved mapDefinition boards submissions start army.owner (i + 1)) ∈
        (boards (start + i + 1)).armies
  arrival : start + distance < ticks → starved mapDefinition boards submissions start army.owner distance < army.troops →
    ∀ moved, movedBoard mapDefinition (boards (start + distance)) (submissions (start + distance)) = .ok moved →
      arrived army destination (starved mapDefinition boards submissions start army.owner distance) ∈
        armiesAtCity moved.armies destination ∧ destination ∈ moved.cities.keys

variable {mapDefinition boards submissions}

theorem starved_succ (start : Nat) (owner : String) (ticks : Nat) :
    starved mapDefinition boards submissions start owner (ticks + 1) =
      starved mapDefinition boards submissions start owner ticks +
        hunger mapDefinition (boards (start + ticks)) (submissions (start + ticks)) owner := by
  unfold starved
  rw [List.range_succ, List.map_append, List.sum_append, List.map_singleton, List.sum_singleton]

theorem advanceTransitArmy_travelling {army : ArmyState} {destination : String} {distance i lost : Nat}
    (hi : i + 1 < distance) :
    advanceTransitArmy (travelling army destination distance i lost) = travelling army destination distance (i + 1) lost := by
  unfold advanceTransitArmy travelling
  dsimp only
  rw [if_neg (by omega)]
  congr 1
  push_cast
  omega

theorem advanceTransitArmy_arrived {army : ArmyState} {destination : String} {distance i lost : Nat}
    (hi : i + 1 = distance) :
    advanceTransitArmy (travelling army destination distance i lost) = arrived army destination lost := by
  unfold advanceTransitArmy travelling
  dsimp only
  rw [if_pos (by omega)]
  rfl

theorem mem_cities_run {ticks start : Nat} {cityId : String}
    (hrun : ∀ n < ticks, Follows mapDefinition (boards n) (submissions n) (boards (n + 1)))
    (hknown : cityId ∈ (boards start).cities.keys) {k : Nat} (hk : start + k ≤ ticks) :
    cityId ∈ (boards (start + k)).cities.keys := by
  induction k with
  | zero => exact hknown
  | succ k ih =>
      rw [← Nat.add_assoc, keys_of_follows (hrun (start + k) (by omega))]
      exact ih (by omega)

section Run

variable {ticks start : Nat} {army : ArmyState} {destination : String} {distance : Nat}
  (hrun : ∀ n < ticks, Follows mapDefinition (boards n) (submissions n) (boards (n + 1)))
  (hsound : ∀ n ≤ ticks, ArmiesSound (boards n).armies)

include hrun hsound

/-- What is on its way after movement is so at the end of the tick, less what the tick starves. -/
theorem between_of_moved {i : Nat} (hticks : start + i < ticks) {moved : MatchState}
    (hmoved : movedBoard mapDefinition (boards (start + i)) (submissions (start + i)) = .ok moved)
    (hmem : travelling army destination distance i (starved mapDefinition boards submissions start army.owner i) ∈
      moved.armies)
    (halive : starved mapDefinition boards submissions start army.owner (i + 1) < army.troops) :
    travelling army destination distance i (starved mapDefinition boards submissions start army.owner (i + 1)) ∈
      (boards (start + i + 1)).armies := by
  rw [starved_succ] at halive ⊢
  have htroops : hunger mapDefinition (boards (start + i)) (submissions (start + i)) army.owner <
      army.troops - starved mapDefinition boards submissions start army.owner i := by omega
  have hdistinct := (hsound (start + i) (by omega)).distinct
  have hkept := follows_keeps hdistinct hmoved (hrun (start + i) hticks) hmem (Option.some_ne_none _) htroops
  unfold travelling at hkept ⊢
  rwa [Nat.sub_sub] at hkept

variable (hdeparts : ∀ moved, movedBoard mapDefinition (boards start) (submissions start) = .ok moved →
    travelling army destination distance 0 0 ∈ moved.armies)

include hdeparts

theorem travelling_moved {i : Nat} (hi : i < distance) (hticks : start + i < ticks)
    (halive : starved mapDefinition boards submissions start army.owner i < army.troops) {moved : MatchState}
    (hmoved : movedBoard mapDefinition (boards (start + i)) (submissions (start + i)) = .ok moved) :
    travelling army destination distance i (starved mapDefinition boards submissions start army.owner i) ∈
      moved.armies := by
  induction i generalizing moved with
  | zero => exact hdeparts moved hmoved
  | succ i ih =>
      obtain ⟨moved', hmoved', -⟩ := armies_of_follows (hrun (start + i) (by omega))
      have hless : starved mapDefinition boards submissions start army.owner i < army.troops := by
        rw [starved_succ] at halive
        omega
      have hbetween := between_of_moved hrun hsound (by omega) hmoved' (ih (by omega) (by omega) hless hmoved') halive
      have hadvanced := movedBoard_advances (hsound (start + (i + 1)) (by omega)).distinct hbetween
        (Option.some_ne_none _) hmoved
      rwa [advanceTransitArmy_travelling hi] at hadvanced

/-- An army that has departed makes its journey. -/
theorem journey_of_departure (hdistance : 0 < distance) (hknown : destination ∈ (boards start).cities.keys) :
    Journey mapDefinition boards submissions ticks start army destination distance := by
  refine ⟨?_, ?_, ?_⟩
  · intro i hi hticks halive moved hmoved
    have hmem := travelling_moved hrun hsound hdeparts hi hticks halive hmoved
    refine ⟨hmem, ?_, ?_⟩
    · intro cityId hstationed
      have hplace := (mem_armiesAtCity.1 hstationed).2
      simp [ArmyState.stationedAt, travelling] at hplace
    · have hdistinct := distinct_movedBoard (hsound (start + i) (by omega)).distinct hmoved
      apply resolveCombatPhase_keeps hdistinct hmem (Option.some_ne_none _)
      exact Nat.sub_pos_of_lt halive
  · intro i hi hticks halive
    obtain ⟨moved, hmoved, -⟩ := armies_of_follows (hrun (start + i) hticks)
    have hless : starved mapDefinition boards submissions start army.owner i < army.troops := by
      rw [starved_succ] at halive
      omega
    exact between_of_moved hrun hsound hticks hmoved (travelling_moved hrun hsound hdeparts hi hticks hless hmoved) halive
  · intro hticks halive moved hmoved
    obtain ⟨i, rfl⟩ : ∃ i, distance = i + 1 := ⟨distance - 1, by omega⟩
    obtain ⟨moved', hmoved', -⟩ := armies_of_follows (hrun (start + i) (by omega))
    have hless : starved mapDefinition boards submissions start army.owner i < army.troops := by
      rw [starved_succ] at halive
      omega
    have hbetween := between_of_moved hrun hsound (by omega) hmoved'
      (travelling_moved hrun hsound hdeparts (Nat.lt_succ_self i) (by omega) hless hmoved') halive
    have hadvanced := movedBoard_advances (hsound (start + (i + 1)) (by omega)).distinct hbetween
      (Option.some_ne_none _) hmoved
    rw [advanceTransitArmy_arrived rfl] at hadvanced
    refine ⟨mem_armiesAtCity.2 ⟨hadvanced, by simp [ArmyState.stationedAt, arrived]⟩, ?_⟩
    rw [keys_movedBoard hmoved]
    exact mem_cities_run hrun hknown (by omega)

end Run

theorem armiesSound_run {ticks : Nat} (hrun : ∀ n < ticks, Follows mapDefinition (boards n) (submissions n) (boards (n + 1)))
    (hsound : ArmiesSound (boards 0).armies) : ∀ n ≤ ticks, ArmiesSound (boards n).armies := by
  intro n hn
  induction n with
  | zero => exact hsound
  | succ n ih => exact (ih (by omega)).of_follows (hrun n hn)

end Journey

/-- In every run of ticks an accepted movement takes the army to its destination in as many ticks as the way is long. -/
theorem accepted_movement_journey {mapDefinition : MapDefinition} {boards : Nat → MatchState}
    {submissions : Nat → List OrderEnvelope} {ticks : Nat}
    (hrun : ∀ n < ticks, Follows mapDefinition (boards n) (submissions n) (boards (n + 1)))
    (hvalid : (boards 0).FieldsValid) (hdistinct : ((boards 0).armies.map (·.id)).Nodup) {start : Nat}
    (hstart : start < ticks) {order : MovementOrder}
    (horder : order ∈ (validatedOrders mapDefinition (boards start) (submissions start)).movements) :
    ∃ departing location distance troops, armyById (boards start).armies order.armyId = some departing ∧
      departing.location = some location ∧ order.destination ∈ (boards start).cities.keys ∧
      edgeDistanceByRoute mapDefinition location order.destination = some distance ∧
      (∃ edge ∈ mapDefinition.edges, edge.joins location order.destination ∧ edge.distanceTicks = distance) ∧ 0 < troops ∧
      Journey mapDefinition boards submissions ticks start { departing with troops := troops } order.destination distance := by
  have hsound := armiesSound_run hrun ⟨hdistinct, fun army harmy => (hvalid.2.1 army harmy).1⟩
  obtain ⟨moved, hmoved, -⟩ := armies_of_follows (hrun start hstart)
  have hdeparted : ArmyDeparted mapDefinition (boards start) moved order := by
    unfold movedBoard at hmoved
    split at hmoved
    · cases hmoved
    · rename_i supplied phaseState hresource
      cases hmoved
      exact armyDeparted_accepted (resolveResourcePhase_board hresource).2 (submissions start) horder
  obtain ⟨departing, location, distance, troops, harmy, hlocation, hdistance, hleft⟩ := hdeparted
  have hmem := (List.mem_filter.1 (List.mem_of_getLast? hleft)).1
  have htroops : 0 < troops := manned_movedBoard (hsound start (by omega)).manned hmoved _ hmem
  have hsame : travelling { departing with troops := troops } order.destination distance 0 0 ∈ moved.armies := by
    unfold travelling
    simpa using hmem
  have hdeparts : ∀ moved', movedBoard mapDefinition (boards start) (submissions start) = .ok moved' →
      travelling { departing with troops := troops } order.destination distance 0 0 ∈ moved'.armies := by
    intro moved' hmoved'
    rw [hmoved] at hmoved'
    cases hmoved'
    exact hsame
  obtain ⟨edge, hedge, hjoins⟩ := List.mem_map.1 (List.mem_of_getLast? hdistance)
  obtain ⟨hedge, hroute⟩ := List.mem_filter.1 hedge
  have hknown : order.destination ∈ (boards start).cities.keys := by
    rw [validatedOrders_movements] at horder
    obtain ⟨submission, -, haccepted⟩ := List.mem_flatMap.1 horder
    obtain ⟨_, _, -, hcity, -⟩ := accepted_movement haccepted
    exact hcity
  exact ⟨departing, location, distance, troops, harmy, hlocation, hknown, hdistance,
    ⟨edge, hedge, of_decide_eq_true hroute, hjoins⟩, htroops,
    journey_of_departure hrun hsound hdeparts (edgeDistanceByRoute_pos hdistance) hknown⟩

/-- The duel with Birmingham, two ticks from London, up for the taking. -/
def marchState : MatchState :=
  { duelState with
    cities := OrdDict.ofList
      [("london", duelCity "p1"), ("birmingham", { duelCity "p1" with owner := none }), ("southampton", duelCity "p2")] }

/-- The boards of a simulation in which the first player sends an army to Birmingham in the first tick. -/
def marchBoards : Nat → MatchState
  | 0 => marchState
  | n + 1 =>
      match simulateTick (.provider fun _ board => validatedOrders loadUk1900Map board [duelMarch "p1" "a1" "birmingham"])
          (some loadUk1900Map) (marchBoards n) with
      | .error _ => marchBoards n
      | .ok simulated => simulated.snapshot

theorem follows_marchBoards : ∀ n < 3, Follows loadUk1900Map (marchBoards n) [duelMarch "p1" "a1" "birmingham"]
    (marchBoards (n + 1)) := by
  have hok : ∀ n < 3, (simulateTick (.provider fun _ board =>
      validatedOrders loadUk1900Map board [duelMarch "p1" "a1" "birmingham"]) (some loadUk1900Map)
        (marchBoards n)).toOption.isSome := by decide +kernel
  intro n hn
  obtain ⟨simulated, hsimulated⟩ := Option.isSome_iff_exists.1 (hok n hn)
  have hsimulated := eq_ok_of_toOption hsimulated
  have hnext : marchBoards (n + 1) = simulated.snapshot := by
    rw [marchBoards, hsimulated]
  rw [hnext]
  exact follows_simulateTick hsimulated

theorem accepted_movement_journey_march :
    ∃ departing location distance troops, armyById (marchBoards 0).armies "a1" = some departing ∧
      departing.location = some location ∧ "birmingham" ∈ (marchBoards 0).cities.keys ∧
      edgeDistanceByRoute loadUk1900Map location "birmingham" = some distance ∧
      (∃ edge ∈ loadUk1900Map.edges, edge.joins location "birmingham" ∧ edge.distanceTicks = distance) ∧ 0 < troops ∧
      Journey loadUk1900Map marchBoards (fun _ => [duelMarch "p1" "a1" "birmingham"]) 3 0
        { departing with troops := troops } "birmingham" distance := by
  have horder : (⟨"a1", "birmingham"⟩ : MovementOrder) ∈
      (validatedOrders loadUk1900Map (marchBoards 0) [duelMarch "p1" "a1" "birmingham"]).movements := by decide +kernel
  exact accepted_movement_journey follows_marchBoards (by decide) (by decide) (by decide) horder

end IronCouncil
