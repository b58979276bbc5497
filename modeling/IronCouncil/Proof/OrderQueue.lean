import IronCouncil.Api.OrderQueue
import IronCouncil.Proof.BoardRuns
import IronCouncil.Proof.RecordRuns

/-!
# The order queue

Submissions are appended, superseded by an override, and handed to a tick. Every accepted submission is accounted for once: it is queued, superseded, or handed to the one persisted tick it was meant for. What this rests on is that a tick of a match does not raise while it resolves, so that a tick either is persisted or gives its snapshot back.
-/

namespace IronCouncil

/-! ### Ticks that do not raise -/

/-- A state in which cities and armies belong to players, nobody owes production and every city pays out. -/
structure TickSafe (state : MatchState) : Prop where
  within : BoardWithin (· ∈ state.players.keys) state
  supplied : Supplied state

theorem TickSafe.congr {state state' : MatchState} (h : TickSafe state) (hcities : state'.cities = state.cities)
    (harmies : state'.armies = state.armies) (hplayers : state'.players = state.players) : TickSafe state' := by
  obtain ⟨tick, cities, armies, players, victory⟩ := state'
  cases hcities
  cases harmies
  cases hplayers
  exact ⟨⟨h.within.cityOwners, h.within.armies⟩, h.supplied.production, h.supplied.cities⟩

theorem TickSafe.settledBoard {record : MatchRecord} (h : TickSafe record.state) :
    ∃ settled, settledBoard record = .ok settled ∧ TickSafe settled := by
  obtain ⟨settled, hsettled⟩ := resolveThroughDiplomacy_total h.within h.supplied (queuedForTick record)
  refine ⟨settled, hsettled, ?_, h.supplied.resolveThroughDiplomacy hsettled⟩
  rw [keys_of_tickFrame (tickFrame_resolveThroughDiplomacy hsettled)]
  exact h.within.resolveThroughDiplomacy (validated_destinations record.state (queuedForTick record)) hsettled

theorem TickSafe.setAlliance {state : MatchState} (h : TickSafe state) (playerId : String) (allianceId : Option String) :
    TickSafe (setAlliance state playerId allianceId) := by
  have hestate := estate_setAlliance state playerId allianceId
  refine ⟨?_, ?_, h.supplied.cities⟩
  · rw [keys_of_estate hestate]
    exact h.within.of_estate hestate id
  · intro member hmember
    rw [keys_of_estate hestate] at hmember
    have hbalance : (IronCouncil.setAlliance state playerId allianceId).balance = state.balance := by
      apply balance_mapVals
      intro key player
      split <;> rfl
    rw [hbalance]
    exact h.supplied.production member hmember

/-- The ticks of a new match do not raise. -/
theorem tickSafe_initializeMatchState {config : MatchConfig} {roster : List MatchRosterEntry}
    {mapDefinition : Option MapDefinition} {state : MatchState}
    (h : initializeMatchState config roster mapDefinition = .ok state)
    (hproduction : 0 ≤ config.startingResources.production) : TickSafe state := by
  obtain ⟨assignments, howned, rfl⟩ := initializeMatchState_eq_ok h
  have hplayers : ∀ playerId player,
      (buildMatchState config roster (mapDefinition.getD loadUk1900Map) assignments).players.get? playerId = some player →
      player.resources = config.startingResources := by
    intro playerId player hplayer
    obtain ⟨entry, -, hentry⟩ := List.mem_map.1 (OrdDict.mem_of_get?_ofList hplayer)
    rw [← (Prod.mk.inj hentry).2]
    rfl
  refine ⟨⟨?_, ⟨by simp [buildMatchState], List.nodup_nil, by simp [buildMatchState]⟩⟩, ?_, ?_⟩
  · intro cityId owner howner
    obtain ⟨city, hcity, hcityOwner⟩ := MatchState.cityOwner_eq_some.1 howner
    change (OrdDict.mapVals _ _).get? cityId = some city at hcity
    rw [OrdDict.get?_mapVals] at hcity
    obtain ⟨definition, -, rfl⟩ := Option.map_eq_some_iff.1 hcity
    change owner ∈ (OrdDict.ofList _).keys
    rw [OrdDict.mem_keys_ofList, List.map_map]
    exact howned cityId owner hcityOwner
  · intro playerId hplayer
    obtain ⟨player, hget⟩ := OrdDict.mem_keys.1 hplayer
    rw [balance_of_get? hget, hplayers playerId player hget]
    exact hproduction
  · intro cityId resources hresources
    obtain ⟨city, hcity, rfl⟩ := Option.map_eq_some_iff.1 hresources
    change (OrdDict.mapVals _ _).get? cityId = some city at hcity
    rw [OrdDict.get?_mapVals] at hcity
    obtain ⟨definition, -, rfl⟩ := Option.map_eq_some_iff.1 hcity
    dsimp only [buildCityState]
    cases definition.primaryResource <;> decide

/-! ### What each operation does to the queue -/

/-- The envelope that an accepted command queues, if it has orders. -/
def queuedByCommand (record : MatchRecord) (playerId : String) (command : AgentCommandEnvelopeRequest) :
    List OrderEnvelope :=
  if commandHasOrders command then [⟨record.matchId, playerId, command.tick, command.orders⟩] else []

theorem applyCommandEnvelope_queue {record last : MatchRecord} {playerId : String}
    {command : AgentCommandEnvelopeRequest} {response : AgentCommandEnvelopeResponse}
    (h : applyCommandEnvelope record record.matchId command playerId = .ok (last, response)) :
    last.orderSubmissions = record.orderSubmissions ++ queuedByCommand record playerId command ∧
      last.state.tick = record.state.tick := by
  obtain ⟨posted, negotiated, hposted, htreated, hallied⟩ := applyCommandEnvelope_eq_ok h
  have hordered : (recordCommandOrders record record.matchId command playerId).1.orderSubmissions =
        record.orderSubmissions ++ queuedByCommand record playerId command ∧
      (recordCommandOrders record record.matchId command playerId).1.state.tick = record.state.tick := by
    unfold recordCommandOrders queuedByCommand
    split
    · exact ⟨rfl, rfl⟩
    · exact ⟨(List.append_nil _).symm, rfl⟩
  have hmessages := keeps_reached (I := fun reached => reached.orderSubmissions =
      record.orderSubmissions ++ queuedByCommand record playerId command ∧ reached.state.tick = record.state.tick)
    (fun before after hstep hbefore => by
      obtain ⟨messages, groupChats, rfl⟩ := hstep
      exact hbefore) hposted hordered
  have hnegotiated := keeps_reached (I := fun reached => reached.orderSubmissions =
      record.orderSubmissions ++ queuedByCommand record playerId command ∧ reached.state.tick = record.state.tick)
    (fun before after hstep hbefore => by
      obtain ⟨action, stored, -, haction⟩ := hstep
      obtain ⟨treaties, messages, rfl⟩ := applyTreatyAction_frame haction
      exact hbefore) htreated hmessages
  rcases hallied with ⟨-, rfl⟩ | ⟨action, alliance, -, halliance⟩
  · exact hnegotiated
  · obtain ⟨alliances, allianceId, rfl, -⟩ := applyAllianceAction_eq_ok halliance
    exact hnegotiated

/-- A command queues at most one submission: its player's, for the tick at hand or for the one that its envelope names. -/
theorem orderSubmissions_applyMatchCommand {record next : MatchRecord} {playerId : String} {command : MatchCommand}
    {accepted : CommandAcceptance} (h : applyMatchCommand record playerId command = .ok (next, accepted)) :
    next.orderSubmissions = record.orderSubmissions ∨
      ∃ tick orders, next.orderSubmissions = record.orderSubmissions ++ [⟨record.matchId, playerId, tick, orders⟩] ∧
        (tick = record.state.tick ∨ ∃ envelope, command = .envelope envelope ∧ tick = envelope.tick) := by
  cases command with
  | orders orders =>
      cases h
      exact Or.inr ⟨_, orders, rfl, Or.inl rfl⟩
  | message request =>
      obtain ⟨posted, hposted, heq⟩ := Except.map_eq_ok h
      cases heq
      obtain ⟨messages, groupChats, hrecord⟩ := recordMessage_posted hposted
      rw [hrecord]
      exact Or.inl rfl
  | groupChat request =>
      cases h
      exact Or.inl rfl
  | groupChatMessage groupChatId request =>
      obtain ⟨posted, hposted, heq⟩ := Except.map_eq_ok h
      cases heq
      obtain ⟨messages, groupChats, hrecord⟩ := recordGroupChatMessage_posted hposted
      rw [hrecord]
      exact Or.inl rfl
  | treaty action =>
      obtain ⟨applied, happlied, heq⟩ := Except.map_eq_ok h
      cases heq
      obtain ⟨treaties, messages, hrecord⟩ := applyTreatyAction_frame happlied
      rw [hrecord]
      exact Or.inl rfl
  | alliance action =>
      obtain ⟨applied, happlied, heq⟩ := Except.map_eq_ok h
      cases heq
      obtain ⟨alliances, allianceId, hrecord, -⟩ := applyAllianceAction_eq_ok happlied
      rw [hrecord]
      exact Or.inl rfl
  | envelope envelope =>
      obtain ⟨response, happlied⟩ := applyMatchCommand_envelope h
      rw [(applyCommandEnvelope_queue happlied).1]
      unfold queuedByCommand
      split
      · exact Or.inr ⟨_, _, rfl, Or.inr ⟨envelope, rfl, rfl⟩⟩
      · exact Or.inl (List.append_nil _)

theorem advanceMatchTick_orderSubmissions (record : MatchRecord) :
    (advanceMatchTick record).1.orderSubmissions =
      record.orderSubmissions.filter fun submission => submission.tick ≠ record.state.tick := by
  have hreconcile : ∀ orders, (reconcileHostileTreatyBreaks (drainQueue record) record.state orders).orderSubmissions =
      record.orderSubmissions.filter fun submission => submission.tick ≠ record.state.tick := fun orders =>
    reconcileHostileTreatyBreaks_frame (g := fun record => record.orderSubmissions) (fun _ _ _ => rfl) _ _ _
  unfold advanceMatchTick
  dsimp only
  split
  · exact hreconcile _
  · exact hreconcile _

/-- A tick of the match as it is persisted: the record it found, and what it has advanced to. -/
structure HandedTick where
  record : MatchRecord
  advancedTick : AdvancedMatchTick

def HandedTick.tick (handed : HandedTick) : Nat := handed.record.state.tick

/-- The submissions that the tick hands to validation. -/
def HandedTick.submissions (handed : HandedTick) : List OrderEnvelope := queuedForTick handed.record

/-- The tick's orders are what validation accepts of its submissions, and its state is what they make of the state before. -/
structure HandedTick.Resolves (handed : HandedTick) : Prop where
  validated : handed.advancedTick.acceptedOrders = validateQueuedOrders handed.record.state handed.submissions
  resolved : ∃ resolution, resolveTick handed.record.state handed.advancedTick.acceptedOrders none = .ok resolution ∧
    handed.advancedTick.nextState = syncVictoryState { resolution.nextState with tick := handed.tick + 1 }
  ticked : handed.advancedTick.resolvedTick = handed.tick + 1

theorem resolves_of_advanced {record : MatchRecord} {advancedTick : AdvancedMatchTick}
    (h : (advanceRegistryTick record).2 = .ok advancedTick) : HandedTick.Resolves ⟨record, advancedTick⟩ := by
  obtain ⟨result, hresult, rfl⟩ := Except.map_eq_ok h
  unfold advanceMatchTick at hresult
  dsimp only at hresult
  split at hresult
  · cases hresult
  · rename_i resolution hresolution
    cases hresult
    refine ⟨rfl, ⟨resolution, hresolution, ?_⟩, ?_⟩
    · simp only [settleTick, reconcileHostileTreatyBreaks_state]
      rfl
    · simp only [settleTick, reconcileHostileTreatyBreaks_state]
      rfl

/-- A round of the loop of a tick-safe match gives the record back, or persists a tick that drains the queue. -/
theorem runMatchTick_cases (persist : Database → AdvancedMatchTick → Except PersistenceError Database) (db : Database)
    {record : MatchRecord} (hsafe : TickSafe record.state) :
    (∃ error, runMatchTick persist db record = (record, db, .error error)) ∨
      ∃ next db' advancedTick, runMatchTick persist db record = (next, db', .ok advancedTick) ∧
        (advanceRegistryTick record).2 = .ok advancedTick ∧ persist db advancedTick = .ok db' ∧
        next.orderSubmissions = (record.orderSubmissions.filter fun submission => submission.tick ≠ record.state.tick) ∧
        next.state = advancedTick.nextState ∧ next.state.tick = record.state.tick + 1 ∧ TickSafe next.state := by
  unfold runMatchTick
  by_cases hactive : record.status ≠ .active
  · rw [if_pos hactive]
    exact Or.inl ⟨_, rfl⟩
  · rw [if_neg hactive]
    obtain ⟨settled, hsettled, hsafe'⟩ := hsafe.settledBoard
    obtain ⟨hstate, hresult⟩ := advanceMatchTick_of_settled hsettled
    have hnext : (advanceRegistryTick record).2 = .ok _ := congrArg (Except.map _) hresult
    dsimp only
    rw [hnext]
    dsimp only
    split
    · exact Or.inl ⟨_, rfl⟩
    · rename_i database hpersist
      refine Or.inr ⟨_, database, _, rfl, rfl, hpersist, advanceMatchTick_orderSubmissions record, hstate, ?_, ?_⟩
      · change (advanceMatchTick record).1.state.tick = _
        rw [hstate]
        rfl
      · change TickSafe (advanceMatchTick record).1.state
        rw [hstate]
        exact hsafe'.congr rfl rfl rfl

/-! ### Runs of the queue -/

/-- A submission, a command envelope, an override with the outcome of its database write, or a round of the match's loop with the way it persists. -/
inductive QueueEvent
  | submit (playerId : String) (tick : Nat) (orders : OrderBatch)
  | command (playerId : String) (command : AgentCommandEnvelopeRequest)
  | override (playerId : String) (tick : Nat) (orders : OrderBatch) (append : Nat → Except PersistenceError Unit)
  | tick (persist : Database → AdvancedMatchTick → Except PersistenceError Database)

/-- The record and the database, with the history of the submissions: those accepted, those each override superseded, and the ticks that have been persisted. -/
structure QueueWatch where
  record : MatchRecord
  database : Database
  accepted : List OrderEnvelope
  superseded : List (OrderEnvelope × List OrderEnvelope)
  handed : List HandedTick

def QueueWatch.start (record : MatchRecord) (database : Database) : QueueWatch :=
  ⟨record, database, record.orderSubmissions, [], []⟩

def QueueWatch.queue (watch : QueueWatch) : List OrderEnvelope := watch.record.orderSubmissions

def queueStep (watch : QueueWatch) : QueueEvent → QueueWatch
  | .submit playerId tick orders =>
      match submitOrders watch.record playerId tick orders with
      | .error _ => watch
      | .ok (record, envelope) => { watch with record, accepted := watch.accepted ++ [envelope] }
  | .command playerId command =>
      match postMatchCommand watch.record playerId command with
      | .error _ => watch
      | .ok (record, _) =>
          { watch with record, accepted := watch.accepted ++ queuedByCommand watch.record playerId command }
  | .override playerId tick orders append =>
      match postOwnedAgentOverride append watch.record playerId tick orders with
      | (record, .error _) => { watch with record }
      | (record, .ok _) =>
          let envelope : OrderEnvelope := ⟨watch.record.matchId, playerId, tick, orders⟩
          { watch with
            record
            accepted := watch.accepted ++ [envelope]
            superseded := watch.superseded ++ [(envelope, watch.queue.filter fun submission =>
              submission.playerId = playerId ∧ submission.tick = tick)] }
  | .tick persist =>
      match runMatchTick persist watch.database watch.record with
      | (record, database, .error _) => { watch with record, database }
      | (record, database, .ok advancedTick) =>
          { watch with record, database, handed := watch.handed ++ [⟨watch.record, advancedTick⟩] }

/-- Every accepted submission is queued, superseded or handed to a persisted tick, and that once; and each persisted tick has resolved what it was handed. -/
structure ExactlyOnce (watch : QueueWatch) : Prop where
  accounted : watch.accepted.Perm
    (watch.queue ++ watch.superseded.flatMap Prod.snd ++ watch.handed.flatMap (·.submissions))
  queued_current : ∀ submission ∈ watch.queue, submission.tick = watch.record.state.tick
  superseded_own : ∀ entry ∈ watch.superseded, ∀ submission ∈ entry.2,
    submission.playerId = entry.1.playerId ∧ submission.tick = entry.1.tick
  handed_own_tick : ∀ handed ∈ watch.handed,
    handed.tick < watch.record.state.tick ∧ ∀ submission ∈ handed.submissions, submission.tick = handed.tick
  handed_once : watch.handed.Pairwise fun earlier later => earlier.tick < later.tick
  handed_resolved : ∀ handed ∈ watch.handed, handed.Resolves

/-- What an event leaves of the submissions that it found. -/
def SparesOthers (before after : QueueWatch) : QueueEvent → Prop
  | .submit .. => before.queue <+: after.queue
  | .command .. => before.queue <+: after.queue
  | .override playerId .. => (after.queue.filter fun submission => submission.playerId ≠ playerId) =
      before.queue.filter fun submission => submission.playerId ≠ playerId
  | .tick persist => (after.queue = before.queue ∧ after.handed = before.handed) ∨
      ∃ advancedTick, persist before.database advancedTick = .ok after.database ∧
        after.record.state = advancedTick.nextState ∧ after.queue = [] ∧
        after.handed = before.handed ++ [⟨before.record, advancedTick⟩] ∧ queuedForTick before.record = before.queue

/-- What holds of the history, and that the match's ticks do not raise. -/
structure QueueInvariant (watch : QueueWatch) : Prop where
  safe : TickSafe watch.record.state
  once : ExactlyOnce watch

/-- A step that appends accepted submissions of the current tick keeps the account. -/
theorem ExactlyOnce.append {watch : QueueWatch} (h : ExactlyOnce watch) {next : MatchRecord}
    {envelopes : List OrderEnvelope} (hqueue : next.orderSubmissions = watch.queue ++ envelopes)
    (htick : next.state.tick = watch.record.state.tick)
    (hcurrent : ∀ envelope ∈ envelopes, envelope.tick = watch.record.state.tick) :
    ExactlyOnce { watch with record := next, accepted := watch.accepted ++ envelopes } where
  accounted := by
    change (watch.accepted ++ envelopes).Perm (next.orderSubmissions ++ _ ++ _)
    rw [hqueue]
    refine (h.accounted.append_right envelopes).trans ?_
    simp only [List.append_assoc]
    apply List.Perm.append_left
    rw [← List.append_assoc]
    exact List.perm_append_comm
  queued_current := by
    intro submission hmem
    change submission ∈ next.orderSubmissions at hmem
    change submission.tick = next.state.tick
    rw [hqueue] at hmem
    rw [htick]
    rcases List.mem_append.1 hmem with hmem | hmem
    · exact h.queued_current submission hmem
    · exact hcurrent submission hmem
  superseded_own := h.superseded_own
  handed_own_tick := by
    change ∀ handed ∈ watch.handed, handed.tick < next.state.tick ∧ _
    rw [htick]
    exact h.handed_own_tick
  handed_once := h.handed_once
  handed_resolved := h.handed_resolved

section Steps

variable {watch : QueueWatch}

theorem QueueInvariant.submit (h : QueueInvariant watch) (playerId : String) (tick : Nat) (orders : OrderBatch) :
    QueueInvariant (queueStep watch (.submit playerId tick orders)) ∧
      SparesOthers watch (queueStep watch (.submit playerId tick orders)) (.submit playerId tick orders) := by
  dsimp only [queueStep, SparesOthers]
  split
  · exact ⟨h, List.prefix_rfl⟩
  · rename_i record envelope haccepted
    obtain ⟨rfl, htick⟩ := submitOrders_eq_ok haccepted
    refine ⟨⟨h.safe, h.once.append rfl rfl ?_⟩, List.prefix_append _ _⟩
    simpa using htick

theorem QueueInvariant.command (h : QueueInvariant watch) (playerId : String) (command : AgentCommandEnvelopeRequest) :
    QueueInvariant (queueStep watch (.command playerId command)) ∧
      SparesOthers watch (queueStep watch (.command playerId command)) (.command playerId command) := by
  dsimp only [queueStep, SparesOthers]
  split
  · exact ⟨h, List.prefix_rfl⟩
  · rename_i record response haccepted
    unfold postMatchCommand at haccepted
    split at haccepted
    · cases haccepted
    · rename_i htick
      split at haccepted
      · cases haccepted
      · rename_i applied happlied
        cases haccepted
        obtain ⟨hqueue, hkept⟩ := applyCommandEnvelope_queue happlied
        have happly : applyMatchCommand watch.record playerId (.envelope command) = .ok (record, .envelope response) := by
          dsimp only [applyMatchCommand]
          rw [happlied]
          rfl
        refine ⟨⟨state_applyMatchCommand (fun _ _ _ hsafe => (hsafe.setAlliance _ _).congr rfl rfl rfl) happly h.safe,
          h.once.append hqueue hkept ?_⟩, ?_⟩
        · intro envelope hmem
          unfold queuedByCommand at hmem
          split at hmem
          · rw [List.mem_singleton.1 hmem]
            exact not_not.1 htick
          · cases hmem
        · change watch.record.orderSubmissions <+: record.orderSubmissions
          rw [hqueue]
          exact List.prefix_append _ _

/-- An override's split of the queue. -/
theorem queue_split (queue : List OrderEnvelope) (playerId : String) (tick : Nat) :
    queue.Perm
      ((queue.filter fun submission => submission.playerId ≠ playerId ∨ submission.tick ≠ tick) ++
        queue.filter fun submission => submission.playerId = playerId ∧ submission.tick = tick) := by
  have hsplit := List.filter_append_perm
    (fun submission : OrderEnvelope => decide (submission.playerId ≠ playerId ∨ submission.tick ≠ tick)) queue
  refine hsplit.symm.trans (List.Perm.append_left _ (List.Perm.of_eq ?_))
  apply List.filter_congr
  intro submission _
  by_cases hplayer : submission.playerId = playerId <;> simp [hplayer]

theorem QueueInvariant.override (h : QueueInvariant watch) (playerId : String) (tick : Nat) (orders : OrderBatch)
    (append : Nat → Except PersistenceError Unit) :
    QueueInvariant (queueStep watch (.override playerId tick orders append)) ∧
      SparesOthers watch (queueStep watch (.override playerId tick orders append))
        (.override playerId tick orders append) := by
  dsimp only [queueStep, SparesOthers]
  rcases postOwnedAgentOverride_cases append watch.record playerId tick orders with
    ⟨error, hrefused⟩ | ⟨htick, supersededCount, haccepted⟩
  · rw [hrefused]
    exact ⟨h, rfl⟩
  · rw [haccepted]
    refine ⟨⟨h.safe, ?_⟩, ?_⟩
    · constructor
      · apply List.perm_iff_count.2
        intro envelope
        have haccounted := h.once.accounted.count_eq envelope
        have hsplit := (queue_split watch.queue playerId tick).count_eq envelope
        simp only [QueueWatch.queue, withSubmissions, List.flatMap_append, List.flatMap_cons, List.flatMap_nil,
          List.count_append, List.append_nil] at haccounted hsplit ⊢
        omega
      · intro submission hmem
        rcases List.mem_append.1 hmem with hmem | hmem
        · exact h.once.queued_current submission (List.mem_filter.1 hmem).1
        · rw [List.mem_singleton.1 hmem]
          exact htick
      · intro entry hentry submission hmem
        rcases List.mem_append.1 hentry with hentry | hentry
        · exact h.once.superseded_own entry hentry submission hmem
        · rw [List.mem_singleton.1 hentry] at hmem ⊢
          simpa using (List.mem_filter.1 hmem).2
      · exact h.once.handed_own_tick
      · exact h.once.handed_once
      · exact h.once.handed_resolved
    · dsimp only [QueueWatch.queue, withSubmissions]
      rw [List.filter_append, List.filter_filter]
      simp only [ne_eq, not_true_eq_false, decide_false, List.filter_cons_of_neg, Bool.false_eq_true,
        not_false_eq_true, List.filter_nil, List.append_nil]
      apply List.filter_congr
      intro submission _
      by_cases hplayer : submission.playerId = playerId <;> simp [hplayer]

theorem QueueInvariant.tick (h : QueueInvariant watch)
    (persist : Database → AdvancedMatchTick → Except PersistenceError Database) :
    QueueInvariant (queueStep watch (.tick persist)) ∧
      SparesOthers watch (queueStep watch (.tick persist)) (.tick persist) := by
  have hall : queuedForTick watch.record = watch.queue := by
    apply List.filter_eq_self.2
    intro submission hmem
    simpa using h.once.queued_current submission hmem
  dsimp only [queueStep, SparesOthers]
  rcases runMatchTick_cases persist watch.database h.safe with
    ⟨error, hkept⟩ | ⟨next, database, advancedTick, hticked, hadvanced, hpersist, hqueue, hstate, htick, hsafe⟩
  · rw [hkept]
    exact ⟨⟨h.safe, h.once.accounted, h.once.queued_current, h.once.superseded_own, h.once.handed_own_tick,
      h.once.handed_once, h.once.handed_resolved⟩, Or.inl ⟨rfl, rfl⟩⟩
  · have hdrained : next.orderSubmissions = [] := by
      rw [hqueue]
      apply List.filter_eq_nil_iff.2
      intro submission hmem
      simpa using h.once.queued_current submission hmem
    rw [hticked]
    dsimp only
    refine ⟨⟨hsafe, ?_⟩, Or.inr ⟨advancedTick, hpersist, hstate, hdrained, rfl, hall⟩⟩
    constructor
    · apply List.perm_iff_count.2
      intro envelope
      have haccounted := h.once.accounted.count_eq envelope
      have hsubmissions : HandedTick.submissions ⟨watch.record, advancedTick⟩ = watch.record.orderSubmissions := hall
      simp only [QueueWatch.queue, hdrained, hsubmissions, List.flatMap_append, List.flatMap_cons, List.flatMap_nil,
        List.count_append, List.append_nil, List.count_nil] at haccounted ⊢
      omega
    · dsimp only [QueueWatch.queue]
      rw [hdrained]
      intro submission hmem
      cases hmem
    · exact h.once.superseded_own
    · intro handed hhanded
      change handed.tick < next.state.tick ∧ _
      rw [htick]
      rcases List.mem_append.1 hhanded with hhanded | hhanded
      · obtain ⟨hlt, hown⟩ := h.once.handed_own_tick handed hhanded
        exact ⟨by omega, hown⟩
      · rw [List.mem_singleton.1 hhanded]
        refine ⟨Nat.lt_succ_self _, fun submission hmem => ?_⟩
        exact of_decide_eq_true (List.mem_filter.1 hmem).2
    · refine List.pairwise_append.2 ⟨h.once.handed_once, List.pairwise_singleton _ _, ?_⟩
      intro earlier hearlier later hlater
      rw [List.mem_singleton.1 hlater]
      exact (h.once.handed_own_tick earlier hearlier).1
    · intro handed hhanded
      rcases List.mem_append.1 hhanded with hhanded | hhanded
      · exact h.once.handed_resolved handed hhanded
      · rw [List.mem_singleton.1 hhanded]
        exact resolves_of_advanced hadvanced

theorem QueueInvariant.step (h : QueueInvariant watch) (event : QueueEvent) :
    QueueInvariant (queueStep watch event) ∧ SparesOthers watch (queueStep watch event) event := by
  cases event with
  | submit playerId tick orders => exact h.submit playerId tick orders
  | command playerId command => exact h.command playerId command
  | override playerId tick orders append => exact h.override playerId tick orders append
  | tick persist => exact h.tick persist

end Steps

/-- In every run of a match from a queue of the current tick, every accepted submission is accounted for exactly once at every moment, and no override or tick touches what is not its own. -/
theorem ordersExactlyOnce (record : MatchRecord) (database : Database) (events : List QueueEvent)
    (hsafe : TickSafe record.state)
    (hqueue : ∀ submission ∈ record.orderSubmissions, submission.tick = record.state.tick) :
    (∀ watch ∈ Run.states queueStep (.start record database) events, ExactlyOnce watch) ∧
      ∀ taken ∈ Run.steps queueStep (.start record database) events,
        SparesOthers taken.1 (queueStep taken.1 taken.2) taken.2 := by
  have hstart : QueueInvariant (.start record database) := by
    refine ⟨hsafe, ?_, hqueue, ?_, ?_, List.Pairwise.nil, ?_⟩
    · simp [QueueWatch.start, QueueWatch.queue]
    · simp [QueueWatch.start]
    · simp [QueueWatch.start]
    · simp [QueueWatch.start]
  have hrun := Run.invariant (I := QueueInvariant) (fun _ event h => (h.step event).1) hstart events
  refine ⟨fun watch hwatch => (hrun watch hwatch).once, ?_⟩
  intro taken htaken
  exact ((hrun taken.1 (Run.fst_mem_states htaken)).step taken.2).2

/-! ### A duel -/

theorem tickSafe_duelState : TickSafe duelState := by
  refine ⟨boardConsistent_duelState.within, by decide, ?_⟩
  · intro cityId resources hresources
    obtain ⟨city, hcity, rfl⟩ := Option.map_eq_some_iff.1 hresources
    have hall : ∀ entry ∈ duelState.cities.entries, entry.2.resources.FieldsValid := by decide
    exact hall _ (OrdDict.get?_eq_some.1 hcity)

/-- Two submissions, an override whose row cannot be written, one whose row can, and two rounds, the first of which fails to persist. -/
def overrideRun : List QueueEvent :=
  [.submit "p1" 0 (duelMarch "p1" "a1" "southampton").orders, .submit "p2" 0 (duelMarch "p2" "a2" "london").orders,
    .override "p1" 0 OrderBatch.empty fun _ => .error .dataError,
    .override "p1" 0 OrderBatch.empty fun _ => .ok (),
    .tick fun _ _ => .error .dataError, .tick fun database _ => .ok database]

theorem ordersExactlyOnce_duel :
    (∀ watch ∈ Run.states queueStep (.start duelRecord deploymentDatabase) overrideRun, ExactlyOnce watch) ∧
      ∀ taken ∈ Run.steps queueStep (.start duelRecord deploymentDatabase) overrideRun,
        SparesOthers taken.1 (queueStep taken.1 taken.2) taken.2 :=
  ordersExactlyOnce duelRecord deploymentDatabase overrideRun tickSafe_duelState (by simp [duelRecord, MatchRecord.ofState])

example : ((overrideRun.foldl queueStep (.start duelRecord deploymentDatabase)).handed.map fun handed =>
    (handed.tick, handed.submissions.map (·.playerId), handed.advancedTick.acceptedOrders.movements)) =
      [(0, ["p2", "p1"], [⟨"a2", "london"⟩])] := by decide +kernel

end IronCouncil
