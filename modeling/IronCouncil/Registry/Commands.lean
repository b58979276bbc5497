import IronCouncil.Registry.Diplomacy

/-!
# Command envelopes and the tick of a record

A command envelope bundles orders, messages, treaty actions and an alliance action, and is tried on a copy first. A tick takes the submissions queued for it, merges them by player, validates them, breaks the treaties that accepted movements violate, resolves the state and brings the victory state up to date.
-/

namespace IronCouncil

/-! ### Command envelopes -/

structure AgentCommandEnvelopeRequest where
  tick : Nat
  orders : OrderBatch
  messages : List AgentCommandMessage
  treaties : List TreatyActionRequest
  alliance : Option AllianceActionRequest
deriving DecidableEq, Repr

inductive MessageAcceptance
  | message (stored : MatchMessage)
  | groupMessage (stored : MatchGroupChatMessage)
deriving DecidableEq, Repr

structure AgentCommandEnvelopeResponse where
  submissionIndex : Option Nat
  messages : List MessageAcceptance
  treaties : List MatchTreaty
  alliance : Option (Option MatchAlliance)
deriving DecidableEq, Repr

def commandHasOrders (command : AgentCommandEnvelopeRequest) : Prop :=
  command.orders.movements ≠ [] ∨ command.orders.recruitment ≠ [] ∨ command.orders.upgrades ≠ [] ∨
    command.orders.transfers ≠ []

instance (command : AgentCommandEnvelopeRequest) : Decidable (commandHasOrders command) :=
  inferInstanceAs (Decidable (_ ∨ _ ∨ _ ∨ _))

def recordSubmission (record : MatchRecord) (envelope : OrderEnvelope) : MatchRecord × Nat :=
  ({ record with orderSubmissions := record.orderSubmissions ++ [envelope] }, record.orderSubmissions.length)

/-- Run an operation for each item, on the record the operation before it left. -/
def applyEach {ι ρ : Type} (operation : MatchRecord → ι → Except RegistryError (MatchRecord × ρ)) :
    MatchRecord → List ι → Except RegistryError (MatchRecord × List ρ)
  | record, [] => .ok (record, [])
  | record, item :: items =>
      match operation record item with
      | .error error => .error error
      | .ok (next, response) =>
          match applyEach operation next items with
          | .error error => .error error
          | .ok (last, responses) => .ok (last, response :: responses)

def postCommandMessage (matchId playerId : String) (tick : Nat) (record : MatchRecord)
    (message : AgentCommandMessage) : Except RegistryError (MatchRecord × MessageAcceptance) :=
  match validateCommandMessage record matchId message playerId with
  | .error error => .error error
  | .ok _ =>
      let post (channel : MessageChannel) :=
        (recordMessage record matchId ⟨tick, channel, message.recipientId, message.content⟩ playerId).map
          fun posted => (posted.1, MessageAcceptance.message posted.2)
      match message.channel with
      | .group =>
          (recordGroupChatMessage record (message.groupChatId.getD "") ⟨tick, message.content⟩ playerId).map
            fun posted => (posted.1, MessageAcceptance.groupMessage posted.2)
      | .world => post .world
      | .direct => post .direct

def applyCommandTreaty (matchId playerId : String) (record : MatchRecord) (treaty : TreatyActionRequest) :
    Except RegistryError (MatchRecord × MatchTreaty) :=
  match validateCommandTreaty record matchId treaty playerId with
  | .error error => .error error
  | .ok _ => applyTreatyAction record treaty playerId

def applyCommandAlliance (record : MatchRecord) (matchId playerId : String) (action : Option AllianceActionRequest) :
    Except RegistryError (MatchRecord × Option (Option MatchAlliance)) :=
  match action with
  | none => .ok (record, none)
  | some action => (applyAllianceAction record matchId action playerId).map fun applied => (applied.1, some applied.2)

def recordCommandOrders (record : MatchRecord) (matchId : String) (command : AgentCommandEnvelopeRequest)
    (playerId : String) : MatchRecord × Option Nat :=
  if commandHasOrders command then
    let recorded := recordSubmission record ⟨matchId, playerId, command.tick, command.orders⟩
    (recorded.1, some recorded.2)
  else (record, none)

def applyCommandEnvelopeMutations (record : MatchRecord) (matchId : String)
    (command : AgentCommandEnvelopeRequest) (playerId : String) :
    Except RegistryError (MatchRecord × AgentCommandEnvelopeResponse) :=
  let ordered := recordCommandOrders record matchId command playerId
  match applyEach (postCommandMessage matchId playerId command.tick) ordered.1 command.messages with
  | .error error => .error error
  | .ok (posted, messages) =>
      match applyEach (applyCommandTreaty matchId playerId) posted command.treaties with
      | .error error => .error error
      | .ok (negotiated, treaties) =>
          match applyCommandAlliance negotiated matchId playerId command.alliance with
          | .error error => .error error
          | .ok (allied, alliance) => .ok (allied, ⟨ordered.2, messages, treaties, alliance⟩)

/-- The envelope runs on a scratch copy first, and on the record only if the copy accepted it. -/
def applyCommandEnvelope (record : MatchRecord) (matchId : String) (command : AgentCommandEnvelopeRequest)
    (playerId : String) : Except RegistryError (MatchRecord × AgentCommandEnvelopeResponse) :=
  match applyCommandEnvelopeMutations record matchId command playerId with
  | .error error => .error error
  | .ok _ => applyCommandEnvelopeMutations record matchId command playerId

/-! ### The tick -/

def mergeSubmission (combined : OrdDict String OrderEnvelope) (submission : OrderEnvelope) :
    OrdDict String OrderEnvelope :=
  combined.upsert submission.playerId submission fun first =>
    { first with orders := first.orders.append submission.orders }

def combineSubmissionsByPlayer (submissions : List OrderEnvelope) : List OrderEnvelope :=
  (submissions.foldl mergeSubmission OrdDict.empty).values

def acceptedOrders (state : MatchState) (submission : OrderEnvelope) : OrderBatch :=
  (validateOrderEnvelope submission state loadUk1900Map).accepted

def validateQueuedOrders (state : MatchState) (submissions : List OrderEnvelope) : OrderBatch :=
  ((combineSubmissionsByPlayer submissions).map (acceptedOrders state)).foldl OrderBatch.append OrderBatch.empty

theorem mergeSubmission_playerId {combined : OrdDict String OrderEnvelope} {submissions : List OrderEnvelope}
    (hcombined : ∀ key merged, combined.get? key = some merged → merged.playerId = key) :
    ∀ key merged, (submissions.foldl mergeSubmission combined).get? key = some merged → merged.playerId = key := by
  induction submissions generalizing combined with
  | nil => exact hcombined
  | cons submission submissions ih =>
      apply ih
      intro key merged hmerged
      rw [mergeSubmission, OrdDict.get?_upsert] at hmerged
      split at hmerged
      · rename_i hkey
        cases hfirst : combined.get? submission.playerId with
        | none =>
            rw [hfirst] at hmerged
            cases hmerged
            exact hkey.symm
        | some first =>
            rw [hfirst] at hmerged
            cases hmerged
            exact (hcombined submission.playerId first hfirst).trans hkey.symm
      · exact hcombined key merged hmerged

/-- A merged envelope is stored under its own player. -/
theorem merged_playerId (submissions : List OrderEnvelope) {key : String} {merged : OrderEnvelope}
    (hmerged : (submissions.foldl mergeSubmission OrdDict.empty).get? key = some merged) : merged.playerId = key := by
  apply mergeSubmission_playerId _ key merged hmerged
  intro key merged h
  rw [OrdDict.get?_empty] at h
  cases h

/-- Merging leaves one envelope for each player. -/
theorem combineSubmissionsByPlayer_nodup (submissions : List OrderEnvelope) :
    ((combineSubmissionsByPlayer submissions).map (·.playerId)).Nodup := by
  have hkeys : (combineSubmissionsByPlayer submissions).map (·.playerId) =
      (submissions.foldl mergeSubmission OrdDict.empty).keys := by
    unfold combineSubmissionsByPlayer OrdDict.values OrdDict.keys
    rw [List.map_map]
    apply List.map_congr_left
    intro entry hentry
    exact merged_playerId submissions (OrdDict.get?_eq_some.2 hentry)
  rw [hkeys]
  exact OrdDict.keys_nodup _

section Batches

variable {α : Type} (part : OrderBatch → List α)

theorem foldl_append_part (hempty : part OrderBatch.empty = [])
    (happend : ∀ first second, part (OrderBatch.append first second) = part first ++ part second)
    (batches : List OrderBatch) : part (batches.foldl OrderBatch.append OrderBatch.empty) = batches.flatMap part := by
  have hstart : ∀ start : OrderBatch,
      part (batches.foldl OrderBatch.append start) = part start ++ batches.flatMap part := by
    induction batches with
    | nil =>
        intro start
        simp
    | cons batch batches ih =>
        intro start
        rw [List.foldl_cons, ih, happend, List.flatMap_cons, List.append_assoc]
  rw [hstart, hempty, List.nil_append]

/-- Each kind of accepted orders is what the merged envelopes contribute, one after another. -/
theorem validateQueuedOrders_part (hempty : part OrderBatch.empty = [])
    (happend : ∀ first second, part (OrderBatch.append first second) = part first ++ part second)
    (state : MatchState) (submissions : List OrderEnvelope) :
    part (validateQueuedOrders state submissions) =
      (combineSubmissionsByPlayer submissions).flatMap fun submission => part (acceptedOrders state submission) := by
  rw [validateQueuedOrders, foldl_append_part part hempty happend, List.flatMap_map]

end Batches

theorem validateQueuedOrders_movements (state : MatchState) (submissions : List OrderEnvelope) :
    (validateQueuedOrders state submissions).movements =
      (combineSubmissionsByPlayer submissions).flatMap fun submission => (acceptedOrders state submission).movements :=
  validateQueuedOrders_part (·.movements) rfl (fun _ _ => rfl) state submissions

theorem validateQueuedOrders_recruitment (state : MatchState) (submissions : List OrderEnvelope) :
    (validateQueuedOrders state submissions).recruitment =
      (combineSubmissionsByPlayer submissions).flatMap fun submission =>
        (acceptedOrders state submission).recruitment :=
  validateQueuedOrders_part (·.recruitment) rfl (fun _ _ => rfl) state submissions

theorem validateQueuedOrders_upgrades (state : MatchState) (submissions : List OrderEnvelope) :
    (validateQueuedOrders state submissions).upgrades =
      (combineSubmissionsByPlayer submissions).flatMap fun submission => (acceptedOrders state submission).upgrades :=
  validateQueuedOrders_part (·.upgrades) rfl (fun _ _ => rfl) state submissions

theorem validateQueuedOrders_transfers (state : MatchState) (submissions : List OrderEnvelope) :
    (validateQueuedOrders state submissions).transfers =
      (combineSubmissionsByPlayer submissions).flatMap fun submission => (acceptedOrders state submission).transfers :=
  validateQueuedOrders_part (·.transfers) rfl (fun _ _ => rfl) state submissions

structure AdvancedTickResult where
  resolvedTick : Nat
  nextState : MatchState
  acceptedOrders : OrderBatch
  events : List TickPhaseEvent
deriving DecidableEq

/-- The record with a queue of submissions. -/
def withSubmissions (record : MatchRecord) (submissions : List OrderEnvelope) : MatchRecord :=
  { record with orderSubmissions := submissions }

def queuedForTick (record : MatchRecord) : List OrderEnvelope :=
  record.orderSubmissions.filter fun submission => submission.tick = record.state.tick

def drainQueue (record : MatchRecord) : MatchRecord :=
  { record with
    orderSubmissions := record.orderSubmissions.filter fun submission => submission.tick ≠ record.state.tick }

/-- The tick counter moves on, then the victory state is brought up to date. -/
def settleTick (record : MatchRecord) (resolution : TickResolutionResult) : MatchRecord :=
  { record with state := syncVictoryState { resolution.nextState with tick := record.state.tick + 1 } }

/-- A tick that raises has already drained the queue and broken the treaties. -/
def advanceMatchTick (record : MatchRecord) : MatchRecord × Except TickError AdvancedTickResult :=
  let validatedOrders := validateQueuedOrders record.state (queuedForTick record)
  let reconciled := reconcileHostileTreatyBreaks (drainQueue record) record.state validatedOrders
  match resolveTick record.state validatedOrders none with
  | .error error => (reconciled, .error error)
  | .ok resolution =>
      let settled := settleTick reconciled resolution
      (settled,
        .ok
          { resolvedTick := settled.state.tick
            nextState := settled.state
            acceptedOrders := validatedOrders
            events := resolution.events })

/-! ### What a tick does to the record -/

section Tick

variable {record : MatchRecord}

/-- The outcome of the phases before victory, on the orders queued for the tick. -/
def settledBoard (record : MatchRecord) : Except TickError MatchState :=
  resolveThroughDiplomacy record.state (validateQueuedOrders record.state (queuedForTick record)) loadUk1900Map

/-- The state a tick steps to before the victory state is brought up to date. -/
def tickedState (record : MatchRecord) (settled : MatchState) : MatchState :=
  { resolveVictoryPhase settled with tick := record.state.tick + 1 }

theorem advanceMatchTick_of_settled {settled : MatchState} (h : settledBoard record = .ok settled) :
    (advanceMatchTick record).1.state = syncVictoryState (tickedState record settled) ∧
      (advanceMatchTick record).2 = .ok
        { resolvedTick := record.state.tick + 1
          nextState := syncVictoryState (tickedState record settled)
          acceptedOrders := validateQueuedOrders record.state (queuedForTick record)
          events := completedEvents } := by
  have hresolve : resolveTick record.state (validateQueuedOrders record.state (queuedForTick record)) none =
      .ok ⟨resolveVictoryPhase settled, completedPhases, completedEvents⟩ := by
    unfold resolveTick
    rw [show resolveThroughDiplomacy record.state _ (resolveMapDefinition none) = .ok settled from h]
  unfold advanceMatchTick
  simp only [hresolve, settleTick, reconcileHostileTreatyBreaks_state]
  exact ⟨rfl, rfl⟩

theorem advanceMatchTick_of_error {error : TickError} (h : settledBoard record = .error error) :
    (advanceMatchTick record).1.state = record.state ∧ (advanceMatchTick record).2 = .error error := by
  have hresolve : resolveTick record.state (validateQueuedOrders record.state (queuedForTick record)) none =
      .error error := by
    unfold resolveTick
    rw [show resolveThroughDiplomacy record.state _ (resolveMapDefinition none) = .error error from h]
  unfold advanceMatchTick
  simp only [hresolve, reconcileHostileTreatyBreaks_state]
  exact ⟨rfl, trivial⟩

theorem advanceMatchTick_alliances (record : MatchRecord) :
    (advanceMatchTick record).1.alliances = record.alliances := by
  have hreconcile : ∀ orders, (reconcileHostileTreatyBreaks (drainQueue record) record.state orders).alliances =
      record.alliances := fun orders => reconcileHostileTreatyBreaks_alliances _ _ _
  unfold advanceMatchTick
  simp only
  split
  · exact hreconcile _
  · exact hreconcile _

end Tick

structure AdvancedMatchTick where
  matchId : String
  resolvedTick : Nat
  nextState : MatchState
  acceptedOrders : OrderBatch
  events : List TickPhaseEvent
  alliances : List MatchAlliance
deriving DecidableEq

def advanceRegistryTick (record : MatchRecord) : MatchRecord × Except TickError AdvancedMatchTick :=
  let advanced := advanceMatchTick record
  (advanced.1,
    advanced.2.map fun result =>
      { matchId := record.matchId
        resolvedTick := result.resolvedTick
        nextState := result.nextState
        acceptedOrders := result.acceptedOrders
        events := result.events
        alliances := advanced.1.alliances })

def getTerminalWinnerAlliance (advancedTick : AdvancedMatchTick) : Option String :=
  if advancedTick.nextState.victory.countdownTicksRemaining ≠ some 0 then none
  else advancedTick.nextState.victory.leadingAlliance

def isTerminalVictoryTick (advancedTick : AdvancedMatchTick) : Bool :=
  (getTerminalWinnerAlliance advancedTick).isSome

/-! ### A duel -/

def duelCity (owner : String) : CityState where
  owner := some owner
  population := 0
  resources := ⟨3, 3, 3⟩
  upgrades := ⟨0, 0, 0⟩
  garrison := 0
  buildingQueue := []

def duelArmy (id owner cityId : String) : ArmyState where
  id := id
  owner := owner
  troops := 5
  location := some cityId
  destination := none
  path := none
  ticksRemaining := 0

def duelPlayer (cityId : String) : PlayerState where
  resources := ⟨10, 10, 10⟩
  citiesOwned := [cityId]
  allianceId := none
  isEliminated := false

/-- Two players with a city and an army each, one tick's march apart. -/
def duelState : MatchState where
  tick := 0
  cities := OrdDict.ofList [("london", duelCity "p1"), ("southampton", duelCity "p2")]
  armies := [duelArmy "a1" "p1" "london", duelArmy "a2" "p2" "southampton"]
  players := OrdDict.ofList [("p1", duelPlayer "london"), ("p2", duelPlayer "southampton")]
  victory := ⟨none, 0, 1, none⟩

def duelRecord : MatchRecord := .ofState "duel" .active duelState

def duelMarch (playerId armyId destination : String) : OrderEnvelope where
  matchId := "duel"
  playerId := playerId
  tick := 0
  orders := { OrderBatch.empty with movements := [⟨armyId, destination⟩] }

end IronCouncil
