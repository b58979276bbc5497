import IronCouncil.Base.Interleave
import IronCouncil.Registry.Commands

/-!
# The order of submissions

Players submit in any order. Merging by player leaves the same envelopes in another order, and a tick carries out each kind of orders so that orders of different players commute: recruitment is sorted, upgrades of different players are for different cities, transfers only add, and movements of different players are of different armies. So the state after the tick depends on what each player submitted and not on who came first.
-/

namespace IronCouncil

/-! ### Orders that commute -/

theorem recruitmentProcessingKey_injective (state : MatchState) :
    Function.Injective (recruitmentProcessingKey state) := by
  intro first second h
  obtain ⟨city, troops, hpos⟩ := first
  obtain ⟨city', troops', hpos'⟩ := second
  have hpair := congrArg (fun key => ofLex (ofLex key).2) h
  simp only [recruitmentProcessingKey, ofLex_toLex, Prod.mk.injEq] at hpair
  obtain ⟨rfl, rfl⟩ := hpair
  rfl

theorem processRecruitmentOrders_perm (state : MatchState) {first second : List RecruitmentOrder}
    (hperm : first.Perm second) :
    processRecruitmentOrders state first = processRecruitmentOrders state second := by
  unfold processRecruitmentOrders
  rw [insertionSort_key_perm (recruitmentProcessingKey_injective state) hperm]

theorem enqueueUpgrade_credit (state : MatchState) (order : UpgradeOrder) (playerId : String)
    (resource : ResourceType) (amount : Int) :
    enqueueUpgrade (state.credit playerId resource amount) order =
      (enqueueUpgrade state order).credit playerId resource amount := rfl

theorem enqueueUpgrade_comm (state : MatchState) {first second : UpgradeOrder} (hcity : first.city ≠ second.city) :
    enqueueUpgrade (enqueueUpgrade state first) second = enqueueUpgrade (enqueueUpgrade state second) first := by
  unfold enqueueUpgrade MatchState.modifyCity
  simp only
  rw [OrdDict.modify_comm]
  exact fun h => absurd h hcity

/-- Upgrades of different cities may be started in either order. -/
theorem startUpgradeOrder_comm (queuedTracks : String → List UpgradeTrack) (state : MatchState)
    {first second : UpgradeOrder} (hcity : first.city ≠ second.city) :
    startUpgradeOrder queuedTracks (startUpgradeOrder queuedTracks state first) second =
      startUpgradeOrder queuedTracks (startUpgradeOrder queuedTracks state second) first := by
  have hstep : ∀ s next, startUpgradeOrder queuedTracks s next =
      (upgradePayer queuedTracks s next).elim s fun owner => enqueueUpgrade
        (s.credit owner .production (-((upgradeCosts next.track next.targetTier).production : Nat))) next := by
    intro s next
    unfold startUpgradeOrder
    cases upgradePayer queuedTracks s next with
    | none => rfl
    | some owner => rfl
  rw [hstep (startUpgradeOrder queuedTracks state first), hstep (startUpgradeOrder queuedTracks state second),
    upgradePayer_startUpgradeOrder, upgradePayer_startUpgradeOrder, hstep state first, hstep state second]
  cases upgradePayer queuedTracks state first with
  | none => rfl
  | some owner =>
      cases upgradePayer queuedTracks state second with
      | none => rfl
      | some owner' =>
          simp only [Option.elim_some, enqueueUpgrade_credit]
          rw [enqueueUpgrade_comm state hcity, MatchState.credit_comm]

theorem processTransferOrder_comm (state : MatchState) (first second : TransferOrder) :
    processTransferOrder (processTransferOrder state first) second =
      processTransferOrder (processTransferOrder state second) first := by
  have hstep : ∀ s next, processTransferOrder s next = (transferSender s next).elim s fun sender =>
      (s.credit sender next.resource (-next.amount)).credit next.recipientId next.resource next.amount := by
    intro s next
    unfold processTransferOrder
    cases transferSender s next with
    | none => rfl
    | some sender => rfl
  rw [hstep (processTransferOrder state first), hstep (processTransferOrder state second),
    transferSender_processTransferOrder, transferSender_processTransferOrder, hstep state first, hstep state second]
  cases transferSender state first with
  | none => rfl
  | some sender =>
      cases transferSender state second with
      | none => rfl
      | some sender' =>
          simp only [Option.elim_some]
          rw [MatchState.credit_comm _ first.recipientId sender', MatchState.credit_comm _ sender sender',
            MatchState.credit_comm _ first.recipientId second.recipientId,
            MatchState.credit_comm _ sender second.recipientId]

theorem departArmy_id (mapDefinition : MapDefinition) (destination : String) (army : ArmyState) :
    (departArmy mapDefinition destination army).id = army.id := by
  unfold departArmy
  split
  · split <;> rfl
  · rfl

theorem startMovementOrder_comm (mapDefinition : MapDefinition) (state : MatchState) {first second : MovementOrder}
    (harmy : first.armyId ≠ second.armyId) :
    startMovementOrder mapDefinition (startMovementOrder mapDefinition state first) second =
      startMovementOrder mapDefinition (startMovementOrder mapDefinition state second) first := by
  unfold startMovementOrder
  simp only
  rw [List.modifyLastWhere_comm]
  · intro army
    rw [departArmy_id]
  · intro army
    rw [departArmy_id]
  · intro army hfirst hsecond
    exact harmy ((of_decide_eq_true hfirst).symm.trans (of_decide_eq_true hsecond))

/-! ### The accepted batches of two interleavings -/

section Batches

variable {state : MatchState} {first second : List OrderEnvelope}

theorem combineSubmissionsByPlayer_perm (h : Interleaved (·.playerId) first second) :
    (combineSubmissionsByPlayer first).Perm (combineSubmissionsByPlayer second) :=
  h.groups_perm id fun submission merged => { merged with orders := merged.orders.append submission.orders }

theorem combineSubmissionsByPlayer_playerId_ne {submissions : List OrderEnvelope} {merged merged' : OrderEnvelope}
    (hmem : merged ∈ combineSubmissionsByPlayer submissions) (hmem' : merged' ∈ combineSubmissionsByPlayer submissions)
    (hne : merged ≠ merged') : merged.playerId ≠ merged'.playerId := fun heq =>
  hne (List.inj_on_of_nodup_map (combineSubmissionsByPlayer_nodup submissions) hmem hmem' heq)

/-- A loop over one kind of accepted orders ends in the same state for both interleavings, if the loop's steps commute for orders of different players. -/
theorem foldl_part_interleaved {α σ : Type} (part : OrderBatch → List α) {step : σ → α → σ}
    (h : Interleaved (·.playerId) first second)
    (hcomm : ∀ submission submission' : OrderEnvelope, submission.playerId ≠ submission'.playerId →
      ∀ order ∈ part (acceptedOrders state submission), ∀ order' ∈ part (acceptedOrders state submission'),
      ∀ s, step (step s order) order' = step (step s order') order) (s : σ) :
    ((combineSubmissionsByPlayer first).flatMap fun submission => part (acceptedOrders state submission)).foldl step s =
      ((combineSubmissionsByPlayer second).flatMap fun submission => part (acceptedOrders state submission)).foldl
        step s := by
  apply foldl_flatMap_perm (combineSubmissionsByPlayer_perm h)
  intro merged hmem merged' hmem' hne
  exact hcomm merged merged' (combineSubmissionsByPlayer_playerId_ne hmem hmem' hne)

theorem recruitment_perm (h : Interleaved (·.playerId) first second) :
    (validateQueuedOrders state first).recruitment.Perm (validateQueuedOrders state second).recruitment := by
  rw [validateQueuedOrders_recruitment, validateQueuedOrders_recruitment]
  exact (combineSubmissionsByPlayer_perm h).flatMap_right _

theorem startUpgradeOrders_interleaved (h : Interleaved (·.playerId) first second)
    (queuedTracks : String → List UpgradeTrack) (s : MatchState) :
    startUpgradeOrders queuedTracks s (validateQueuedOrders state first).upgrades =
      startUpgradeOrders queuedTracks s (validateQueuedOrders state second).upgrades := by
  rw [validateQueuedOrders_upgrades, validateQueuedOrders_upgrades]
  apply foldl_part_interleaved (·.upgrades) h
  intro submission submission' hne order horder order' horder' s
  obtain ⟨city, hcity, howner, -⟩ := accepted_upgrade horder
  obtain ⟨city', hcity', howner', -⟩ := accepted_upgrade horder'
  apply startUpgradeOrder_comm
  intro heq
  rw [heq, hcity'] at hcity
  cases hcity
  exact hne (Option.some.inj (howner.symm.trans howner'))

theorem processTransferOrders_interleaved (h : Interleaved (·.playerId) first second) (s : MatchState) :
    processTransferOrders s (validateQueuedOrders state first).transfers =
      processTransferOrders s (validateQueuedOrders state second).transfers := by
  rw [validateQueuedOrders_transfers, validateQueuedOrders_transfers]
  exact foldl_part_interleaved (·.transfers) h
    (fun _ _ _ order _ order' _ s => processTransferOrder_comm s order order') s

theorem startMovementOrders_interleaved (h : Interleaved (·.playerId) first second) (mapDefinition : MapDefinition)
    (s : MatchState) :
    startMovementOrders mapDefinition s (validateQueuedOrders state first).movements =
      startMovementOrders mapDefinition s (validateQueuedOrders state second).movements := by
  rw [validateQueuedOrders_movements, validateQueuedOrders_movements]
  apply foldl_part_interleaved (·.movements) h
  intro submission submission' hne order horder order' horder' s
  obtain ⟨army, location, harmy, -, howner, -⟩ := accepted_movement horder
  obtain ⟨army', location', harmy', -, howner', -⟩ := accepted_movement horder'
  apply startMovementOrder_comm
  intro heq
  rw [heq, harmy'] at harmy
  cases harmy
  exact hne (howner.symm.trans howner')

/-- A tick resolves the batches of two interleavings alike. -/
theorem resolveTick_interleaved (h : Interleaved (·.playerId) first second) (mapDefinition : Option MapDefinition)
    (s : MatchState) :
    resolveTick s (validateQueuedOrders state first) mapDefinition =
      resolveTick s (validateQueuedOrders state second) mapDefinition := by
  have hbuild : ∀ supplied, resolveBuildPhase supplied (validateQueuedOrders state first) =
      resolveBuildPhase supplied (validateQueuedOrders state second) := fun supplied => by
    unfold resolveBuildPhase
    simp only
    rw [processRecruitmentOrders_perm _ (recruitment_perm h), startUpgradeOrders_interleaved h,
      processTransferOrders_interleaved h]
  have hmove : ∀ built, resolveMovementPhase (resolveMapDefinition mapDefinition) built
      (validateQueuedOrders state first) = resolveMovementPhase (resolveMapDefinition mapDefinition) built
        (validateQueuedOrders state second) := fun built => by
    unfold resolveMovementPhase
    rw [startMovementOrders_interleaved h]
  unfold resolveTick resolveThroughDiplomacy resolveThroughSiege
  simp only [hbuild, hmove]

end Batches

/-! ### The tick -/

/-- The state after a tick does not depend on the order in which players submitted. -/
theorem advanceMatchTick_submission_order (record : MatchRecord) {first second : List OrderEnvelope}
    (h : Interleaved (·.playerId) first second) :
    ((advanceMatchTick (withSubmissions record first)).2.map (·.nextState)) =
        (advanceMatchTick (withSubmissions record second)).2.map (·.nextState) ∧
      (advanceMatchTick (withSubmissions record first)).1.state =
        (advanceMatchTick (withSubmissions record second)).1.state := by
  have hqueued : Interleaved (·.playerId) (queuedForTick (withSubmissions record first))
      (queuedForTick (withSubmissions record second)) := h.filter _
  have hresolve : resolveTick record.state
      (validateQueuedOrders record.state (queuedForTick (withSubmissions record first))) none =
        resolveTick record.state
          (validateQueuedOrders record.state (queuedForTick (withSubmissions record second))) none :=
    resolveTick_interleaved hqueued none record.state
  unfold advanceMatchTick
  simp only [show (withSubmissions record first).state = record.state from rfl,
    show (withSubmissions record second).state = record.state from rfl, hresolve]
  cases resolveTick record.state
      (validateQueuedOrders record.state (queuedForTick (withSubmissions record second))) none with
  | error error => exact ⟨rfl, by simp [drainQueue, withSubmissions]⟩
  | ok resolution => simp [Except.map, settleTick, drainQueue, withSubmissions]

theorem advanceMatchTick_submission_order_duel :
    ((advanceMatchTick (withSubmissions duelRecord [duelMarch "p1" "a1" "southampton", duelMarch "p2" "a2" "london"])).2.map
          (·.nextState)) =
        (advanceMatchTick (withSubmissions duelRecord [duelMarch "p2" "a2" "london", duelMarch "p1" "a1" "southampton"])).2.map
          (·.nextState) ∧
      (advanceMatchTick (withSubmissions duelRecord [duelMarch "p1" "a1" "southampton", duelMarch "p2" "a2" "london"])).1.state =
        (advanceMatchTick (withSubmissions duelRecord [duelMarch "p2" "a2" "london", duelMarch "p1" "a1" "southampton"])).1.state :=
  advanceMatchTick_submission_order duelRecord (Interleaved.swap (by decide) [])

end IronCouncil
