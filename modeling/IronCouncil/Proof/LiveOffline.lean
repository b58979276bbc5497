import IronCouncil.Registry.Commands
import IronCouncil.Simulation

/-!
# The live server and the offline engine

The live tick resolves the state and then brings the victory state up to date a second time, by a rule of its own. The two rules count the same cities under different names and differ when one coalition takes the lead from another: the resolver clears the countdown for a tick, the second rule starts it at once.
-/

namespace IronCouncil

/-! ### The two counts -/

/-- Alliance ids are not empty and no player has one of them as id, so a public id names one coalition. -/
def CoalitionIdsApart (state : MatchState) : Prop :=
  ∀ playerId player, state.players.get? playerId = some player → ∀ allianceId, player.allianceId = some allianceId →
    allianceId ≠ "" ∧ allianceId ∉ state.players.keys

theorem coalitionOfOwner_eq_some {state : MatchState} {city : CityState} {coalition : CoalitionKey} :
    coalitionOfOwner state city = some coalition ↔ ∃ owner player, city.owner = some owner ∧
      state.players.get? owner = some player ∧ coalitionKey owner player.allianceId = coalition := by
  unfold coalitionOfOwner
  cases city.owner with
  | none => simp
  | some owner => simp [Option.map_eq_some_iff]

theorem plainCoalitionOfOwner_eq_map {state : MatchState} (hapart : CoalitionIdsApart state) (city : CityState) :
    plainCoalitionOfOwner state city = (coalitionOfOwner state city).map publicCoalitionId := by
  unfold plainCoalitionOfOwner coalitionOfOwner
  cases city.owner with
  | none => rfl
  | some owner =>
      simp only
      cases hplayer : state.players.get? owner with
      | none => rfl
      | some player =>
          cases halliance : player.allianceId with
          | none => simp [plainCoalitionId, coalitionKey, publicCoalitionId, halliance]
          | some allianceId =>
              have hne := (hapart owner player hplayer allianceId halliance).1
              simp [plainCoalitionId, coalitionKey, publicCoalitionId, halliance, hne]

theorem publicCoalitionId_injOn {state : MatchState} (hapart : CoalitionIdsApart state) :
    ∀ coalition ∈ state.cities.values.filterMap (coalitionOfOwner state),
      ∀ coalition' ∈ state.cities.values.filterMap (coalitionOfOwner state),
        publicCoalitionId coalition = publicCoalitionId coalition' → coalition = coalition' := by
  intro coalition hmem coalition' hmem' heq
  obtain ⟨city, -, hcity⟩ := List.mem_filterMap.1 hmem
  obtain ⟨city', -, hcity'⟩ := List.mem_filterMap.1 hmem'
  obtain ⟨owner, player, -, hplayer, rfl⟩ := coalitionOfOwner_eq_some.1 hcity
  obtain ⟨owner', player', -, hplayer', rfl⟩ := coalitionOfOwner_eq_some.1 hcity'
  cases halliance : player.allianceId with
  | none =>
      cases halliance' : player'.allianceId with
      | none =>
          rw [halliance, halliance'] at heq
          exact congrArg CoalitionKey.solo heq
      | some allianceId =>
          rw [halliance, halliance'] at heq
          have hnot := (hapart owner' player' hplayer' allianceId halliance').2
          exact absurd (OrdDict.mem_keys_of_get? hplayer) (show owner ∉ _ by
            rw [show owner = allianceId from heq]
            exact hnot)
  | some allianceId =>
      have hnot := (hapart owner player hplayer allianceId halliance).2
      cases halliance' : player'.allianceId with
      | none =>
          rw [halliance, halliance'] at heq
          exact absurd (OrdDict.mem_keys_of_get? hplayer') (show owner' ∉ _ by
            rw [← show allianceId = owner' from heq]
            exact hnot)
      | some allianceId' =>
          rw [halliance, halliance'] at heq
          exact congrArg CoalitionKey.alliance heq

/-- Where ids are apart, both rules see the same leader and the same count. -/
theorem plainLeading_eq_leadingCoalition {state : MatchState} (hapart : CoalitionIdsApart state) :
    plainLeading state = leadingCoalition (coalitionCityCounts state) := by
  have hnames : state.cities.values.filterMap (plainCoalitionOfOwner state) =
      (state.cities.values.filterMap (coalitionOfOwner state)).map publicCoalitionId := by
    rw [List.map_filterMap]
    apply List.filterMap_congr
    intro city _
    exact plainCoalitionOfOwner_eq_map hapart city
  unfold plainLeading leadingCoalition plainCityCounts coalitionCityCounts
  rw [hnames, soleLeader_map (publicCoalitionId_injOn hapart), largestCount_map (publicCoalitionId_injOn hapart)]

/-! ### The two rules on one state -/

/-- A coalition at the threshold takes the lead from another one. -/
def LeadChangesHands (victory : VictoryState) (leading : Option String × Nat) : Prop :=
  leading.1 ≠ none ∧ victory.threshold ≤ leading.2 ∧ victory.leadingAlliance ≠ none ∧
    victory.leadingAlliance ≠ leading.1

/-- On entering the victory phase: public ids tell the leading coalitions apart, and the lead does not change hands at the threshold. -/
def VictoryRulesAgree (state : MatchState) : Prop :=
  plainLeading state = leadingCoalition (coalitionCityCounts state) ∧
    ¬ LeadChangesHands state.victory (leadingCoalition (coalitionCityCounts state))

theorem updatedVictoryCountdown_eq_none_iff (victory : VictoryState) (leading : Option String × Nat) :
    updatedVictoryCountdown victory leading.1 leading.2 = none ↔
      leading.1 = none ∨ leading.2 < victory.threshold ∨ LeadChangesHands victory leading := by
  unfold updatedVictoryCountdown LeadChangesHands
  by_cases hout : leading.1 = none ∨ leading.2 < victory.threshold
  · simp only [hout, if_true, true_iff]
    exact hout.elim Or.inl fun h => Or.inr (Or.inl h)
  · have hin : leading.1 ≠ none ∧ ¬ leading.2 < victory.threshold := not_or.1 hout
    have hle : victory.threshold ≤ leading.2 := Nat.le_of_not_lt hin.2
    simp only [if_false, hin.1, hin.2, hle, false_or, ne_eq, not_false_eq_true, true_and]
    split
    · rename_i hnone
      simp [hnone]
    · rename_i hprevious
      split
      · rename_i hchanged
        simp [hprevious, hchanged]
      · rename_i hkept
        simp only [hkept, and_false, iff_false]
        split <;> simp

/-- After the victory phase, the second rule keeps the countdown unless the lead has just changed hands. -/
theorem syncedVictory_updatedVictory_iff (victory : VictoryState) (leading : Option String × Nat) :
    syncedVictory (updatedVictory victory leading) leading = updatedVictory victory leading ↔
      ¬ LeadChangesHands victory leading := by
  have hcountdown := updatedVictoryCountdown_eq_none_iff victory leading
  have hsynced : syncedVictory (updatedVictory victory leading) leading = updatedVictory victory leading ↔
      syncedVictoryCountdown (updatedVictory victory leading) leading.1 leading.2 =
        updatedVictoryCountdown victory leading.1 leading.2 := by
    unfold syncedVictory
    simp [updatedVictory]
  rw [hsynced]
  unfold syncedVictoryCountdown
  by_cases hout : leading.1 = none ∨ leading.2 < victory.threshold
  · have hnone := hcountdown.2 (hout.elim Or.inl fun h => Or.inr (Or.inl h))
    have hchanges : ¬ LeadChangesHands victory leading := by
      rintro ⟨hleader, hheld, -⟩
      exact hout.elim hleader fun h => Nat.not_lt.2 hheld h
    have hout' : leading.1 = none ∨ leading.2 < (updatedVictory victory leading).threshold := hout
    rw [if_pos hout', hnone]
    exact ⟨fun _ => hchanges, fun _ => rfl⟩
  · have hout' : ¬ (leading.1 = none ∨ leading.2 < (updatedVictory victory leading).threshold) := hout
    have hleader : (updatedVictory victory leading).leadingAlliance = leading.1 := rfl
    have hnone : (updatedVictory victory leading).leadingAlliance ≠ none := fun h => hout (Or.inl h)
    rw [if_neg hout', if_neg hnone, if_neg (by rw [hleader]; exact not_not.2 rfl)]
    have hremaining : (updatedVictory victory leading).countdownTicksRemaining =
        updatedVictoryCountdown victory leading.1 leading.2 := rfl
    rw [hremaining]
    cases hupdated : updatedVictoryCountdown victory leading.1 leading.2 with
    | none =>
        obtain h | h | h := hcountdown.1 hupdated
        · exact absurd (Or.inl h) hout
        · exact absurd (Or.inr h) hout
        · simp [h]
    | some countdown =>
        have hchanges : ¬ LeadChangesHands victory leading := fun h => by
          rw [hcountdown.2 (Or.inr (Or.inr h))] at hupdated
          cases hupdated
        simp [hchanges]

/-- Bringing the victory state up to date changes nothing after the victory phase exactly when the two rules agree. -/
theorem syncVictoryState_resolveVictoryPhase_iff (state : MatchState) :
    syncVictoryState (resolveVictoryPhase state) = resolveVictoryPhase state ↔ VictoryRulesAgree state := by
  rw [syncVictoryState_eq_self_iff]
  change syncedVictory (updatedVictory state.victory (leadingCoalition (coalitionCityCounts state)))
    (plainLeading state) = updatedVictory state.victory (leadingCoalition (coalitionCityCounts state)) ↔ _
  constructor
  · intro h
    have hleading : plainLeading state = leadingCoalition (coalitionCityCounts state) :=
      Prod.ext (congrArg VictoryState.leadingAlliance h) (congrArg VictoryState.citiesHeld h)
    rw [hleading] at h
    exact ⟨hleading, (syncedVictory_updatedVictory_iff _ _).1 h⟩
  · rintro ⟨hleading, hchanges⟩
    rw [hleading]
    exact (syncedVictory_updatedVictory_iff _ _).2 hchanges

/-! ### Runs -/

section Runs

variable (queueAt : Nat → List OrderEnvelope)

/-- The live server's states, tick after tick, where `queueAt` gives the submissions queued for each tick. -/
def playTicks : Nat → MatchRecord → Except TickError (List MatchState)
  | 0, _ => .ok []
  | ticks + 1, record =>
      let advanced := advanceMatchTick (withSubmissions record (queueAt record.state.tick))
      match advanced.2 with
      | .error error => .error error
      | .ok result => (playTicks ticks advanced.1).map (result.nextState :: ·)

/-- The batches that the live server accepts, as an order provider. -/
def liveOrders : OrderSource :=
  .provider fun tick state =>
    validateQueuedOrders state ((queueAt tick).filter fun submission => submission.tick = tick)

/-- The offline engine's states on the same submissions. -/
def simulatedStates (ticks : Nat) (state : MatchState) : Except TickError (List MatchState) :=
  (simulateTicks (liveOrders queueAt) none ticks state).map fun result => result.ticks.map (·.snapshot)

/-- The states in which the ticks of a live run enter the victory phase. -/
def settledBoards : Nat → MatchRecord → List MatchState
  | 0, _ => []
  | ticks + 1, record =>
      match settledBoard (withSubmissions record (queueAt record.state.tick)) with
      | .error _ => []
      | .ok settled =>
          settled :: settledBoards ticks (advanceMatchTick (withSubmissions record (queueAt record.state.tick))).1

variable {queueAt}

/-- The offline engine feeds the tick the same batch. -/
theorem liveOrders_settledBoard (record : MatchRecord) :
    resolveThroughDiplomacy record.state ((liveOrders queueAt).ordersAt record.state.tick record.state)
      (resolveMapDefinition none) = settledBoard (withSubmissions record (queueAt record.state.tick)) := rfl

section Step

variable {record : MatchRecord}

theorem playTicks_succ_of_error {error : TickError}
    (h : settledBoard (withSubmissions record (queueAt record.state.tick)) = .error error) (ticks : Nat) :
    playTicks queueAt (ticks + 1) record = .error error := by
  unfold playTicks
  simp only [(advanceMatchTick_of_error h).2]

theorem playTicks_succ_of_settled {settled : MatchState}
    (h : settledBoard (withSubmissions record (queueAt record.state.tick)) = .ok settled) (ticks : Nat) :
    playTicks queueAt (ticks + 1) record =
      (playTicks queueAt ticks (advanceMatchTick (withSubmissions record (queueAt record.state.tick))).1).map
        (syncVictoryState (tickedState record settled) :: ·) := by
  rw [playTicks]
  simp only [(advanceMatchTick_of_settled h).2]
  rfl

theorem simulatedStates_succ_of_error {error : TickError}
    (h : settledBoard (withSubmissions record (queueAt record.state.tick)) = .error error) (ticks : Nat) :
    simulatedStates queueAt (ticks + 1) record.state = .error error := by
  have hsimulate : simulateTick (liveOrders queueAt) none record.state = .error error := by
    unfold simulateTick resolveTick
    rw [liveOrders_settledBoard, h]
  unfold simulatedStates simulateTicks
  rw [hsimulate]
  rfl

theorem simulatedStates_succ_of_settled {settled : MatchState}
    (h : settledBoard (withSubmissions record (queueAt record.state.tick)) = .ok settled) (ticks : Nat) :
    simulatedStates queueAt (ticks + 1) record.state =
      (simulatedStates queueAt ticks (tickedState record settled)).map (tickedState record settled :: ·) := by
  have hsimulate : simulateTick (liveOrders queueAt) none record.state =
      .ok ⟨record.state.tick + 1, tickedState record settled, completedPhases, completedEvents⟩ := by
    unfold simulateTick resolveTick
    rw [liveOrders_settledBoard, h]
    rfl
  unfold simulatedStates
  rw [simulateTicks, hsimulate]
  simp only
  cases simulateTicks (liveOrders queueAt) none ticks (tickedState record settled) with
  | error error => rfl
  | ok rest => rfl

end Step

theorem map_cons_injective (state : MatchState) :
    Function.Injective (Except.map (ε := TickError) (state :: ·)) := by
  intro first second h
  cases first with
  | error error =>
      cases second with
      | error error' => exact h
      | ok states => cases h
  | ok states =>
      cases second with
      | error error => cases h
      | ok states' =>
          have hcons := Except.ok.inj h
          rw [(List.cons.inj hcons).2]

/-- For every number of ticks, the live server and the offline engine go through the same states exactly when the two victory rules agree on every state that enters the victory phase. -/
theorem playTicks_eq_simulatedStates_iff (queueAt : Nat → List OrderEnvelope) (record : MatchRecord) (ticks : Nat) :
    (∀ k ≤ ticks, playTicks queueAt k record = simulatedStates queueAt k record.state) ↔
      ∀ settled ∈ settledBoards queueAt ticks record, VictoryRulesAgree settled := by
  induction ticks generalizing record with
  | zero =>
      constructor
      · intro _ settled hmem
        exact absurd hmem List.not_mem_nil
      · intro _ k hk
        rw [Nat.le_zero.1 hk]
        rfl
  | succ ticks ih =>
      have hsplit : (∀ k ≤ ticks + 1, playTicks queueAt k record = simulatedStates queueAt k record.state) ↔
          ∀ k ≤ ticks, playTicks queueAt (k + 1) record = simulatedStates queueAt (k + 1) record.state := by
        constructor
        · intro h k hk
          exact h (k + 1) (by omega)
        · intro h k hk
          cases k with
          | zero => rfl
          | succ k => exact h k (by omega)
      rw [hsplit, settledBoards]
      cases hboard : settledBoard (withSubmissions record (queueAt record.state.tick)) with
      | error error =>
          simp only [playTicks_succ_of_error hboard, simulatedStates_succ_of_error hboard, implies_true,
            List.not_mem_nil, false_implies]
      | ok settled =>
          have hnext : (advanceMatchTick (withSubmissions record (queueAt record.state.tick))).1.state =
              syncVictoryState (tickedState record settled) := (advanceMatchTick_of_settled hboard).1
          have hsame : syncVictoryState (tickedState record settled) = tickedState record settled ↔
              VictoryRulesAgree settled := by
            rw [← syncVictoryState_resolveVictoryPhase_iff, syncVictoryState_eq_self_iff, syncVictoryState_eq_self_iff]
            exact Iff.rfl
          simp only [playTicks_succ_of_settled hboard, simulatedStates_succ_of_settled hboard, List.forall_mem_cons]
          rw [← ih, hnext]
          constructor
          · intro h
            have hfirst := h 0 (Nat.zero_le ticks)
            have hstate := (List.cons.inj (Except.ok.inj hfirst)).1
            refine ⟨hsame.1 hstate, fun k hk => ?_⟩
            have hk := h k hk
            rw [hstate] at hk ⊢
            exact map_cons_injective _ hk
          · rintro ⟨hagree, h⟩ k hk
            rw [h k hk, hsame.2 hagree]

end Runs

/-- The duel after one player has taken both cities, while the other is still recorded as the leader. -/
def takeoverRecord : MatchRecord :=
  .ofState "duel" .active
    { duelState with
      cities := OrdDict.ofList [("london", duelCity "p1"), ("southampton", duelCity "p1")]
      armies := [duelArmy "a1" "p1" "london"]
      victory := ⟨some "p2", 1, 1, none⟩ }

/-- On a takeover the offline engine clears the countdown and the live server starts it. -/
theorem takeover_live_ne_offline :
    (playTicks (fun _ => []) 1 takeoverRecord).map (fun states => states.map (·.victory)) =
        .ok [⟨some "p1", 2, 1, some 1⟩] ∧
      (simulatedStates (fun _ => []) 1 takeoverRecord.state).map (fun states => states.map (·.victory)) =
        .ok [⟨some "p1", 2, 1, none⟩] := by
  refine ⟨?_, ?_⟩
  · decide
  · decide

end IronCouncil
