import IronCouncil.Proof.RealtimeViews

/-!
# What is announced arrives

What a subscriber is shown of a match changes only with what is announced, or when the match is loaded again from its rows. From an announcement on, a subscriber that stays is shown the match as it stands as soon as no send to its socket is under way, and the sends that are under way can always be brought to their end.
-/

namespace IronCouncil

/-! ### What changes the view of a match -/

/-- Joining and starting a match load it again. -/
def ApiEvent.loads (matchId : String) : ApiEvent → Bool
  | .host event =>
      match event.1 with
      | .join _ id _ => id = matchId
      | .start _ id => id = matchId
      | _ => false
  | _ => false

section View

variable {hashApiKey : String → String} {variant : StorageVariant} {guided : GuidedServer} {matchId : String}
  {registry registry' : InMemoryMatchRegistry}

/-- Nothing but the queue of orders differs. -/
def SameView (registry registry' : InMemoryMatchRegistry) (matchId : String) : Prop :=
  (registry'.getMatch matchId).map (fun record => withSubmissions record []) =
    (registry.getMatch matchId).map fun record => withSubmissions record []

theorem SameView.of_eq (h : registry'.getMatch matchId = registry.getMatch matchId) : SameView registry registry' matchId :=
  congrArg (Option.map _) h

theorem SameView.stored {id : String} {record record' : MatchRecord} (hrecord : registry.getMatch id = some record)
    (hsame : id = matchId → withSubmissions record' [] = withSubmissions record []) :
    SameView registry (registry.storeMatch id record') matchId := by
  unfold SameView
  rw [getMatch_storeMatch]
  split
  · rename_i hid
    rw [hid, hrecord]
    exact congrArg some (hsame hid.symm)
  · rfl

theorem SameView.seeded {record : MatchRecord} (hother : matchId ≠ record.matchId) :
    SameView registry (registry.seedMatch record) matchId := by
  refine .of_eq ?_
  rw [InMemoryMatchRegistry.getMatch_seedMatch, if_neg hother]

/-- The queue is not shown. -/
theorem SameView.envelope (h : SameView registry registry' matchId) (viewerRole : RealtimeViewerRole)
    (playerId : Option String) : buildMatchRealtimeEnvelope registry' matchId viewerRole playerId =
      buildMatchRealtimeEnvelope registry matchId viewerRole playerId := by
  unfold SameView at h
  unfold buildMatchRealtimeEnvelope
  cases hrecord : registry.getMatch matchId with
  | none =>
      rw [hrecord] at h
      rw [Option.map_eq_none_iff.1 h]
  | some record =>
      rw [hrecord] at h
      obtain ⟨record', hrecord', hsame⟩ := Option.map_eq_some_iff.1 h
      have hwith := congrArg (fun shown => withSubmissions shown record'.orderSubmissions) hsame
      change record' = withSubmissions record record'.orderSubmissions at hwith
      rw [hrecord', hwith]
      rfl

/-- A write that is not announced adds to the queue at most. -/
theorem sameView_write {record applied : MatchRecord} {playerId : String} {request : MatchWrite}
    {accepted : CommandAcceptance} (hsilent : request.isAnnounced = false)
    (h : applyMatchWrite record matchId playerId request = .ok (applied, accepted)) :
    withSubmissions applied [] = withSubmissions record [] := by
  cases request with
  | orders tick orders =>
      obtain ⟨submitted, hsubmitted, heq⟩ := Except.map_eq_ok h
      cases heq
      unfold submitOrders at hsubmitted
      split at hsubmitted
      · cases hsubmitted
      · cases hsubmitted
        rfl
  | command command =>
      have hquiet : command.alliance = none ∧ command.treaties = [] ∧ command.messages = [] := by
        simpa [MatchWrite.isAnnounced, not_or] using hsilent
      obtain ⟨posted, hposted, heq⟩ := Except.map_eq_ok h
      cases heq
      unfold postMatchCommand at hposted
      split at hposted
      · cases hposted
      · split at hposted
        · cases hposted
        · rename_i response happlied
          cases hposted
          have hordered : (recordCommandOrders record record.matchId command playerId).1 = posted.1 := by
            simp only [applyCommandEnvelope, applyCommandEnvelopeMutations, hquiet.1, hquiet.2.1, hquiet.2.2, applyEach,
              applyCommandAlliance, Except.ok.injEq] at happlied
            exact congrArg Prod.fst happlied
          rw [← hordered]
          unfold recordCommandOrders
          split
          · rfl
          · rfl
  | message message => cases hsilent
  | groupChat groupChat => cases hsilent
  | groupChatMessage groupChatId message => cases hsilent
  | treaty action => cases hsilent
  | alliance action => cases hsilent

/-- A round that was persisted is the outcome of the tick. -/
theorem tick_outcome {server : Server} {newId : Nat → String} {elapsed : Nat} {record : MatchRecord}
    {advancedTick : AdvancedMatchTick} {database : Database} (hrecord : server.registry.getMatch matchId = some record)
    (hactive : record.status = .active) (htick : (advanceRegistryTick record).2 = .ok advancedTick)
    (hpersist : persistAdvancedMatchTick variant newId (server.readClock elapsed) server.database advancedTick =
      .ok database) : (server.tick variant matchId newId elapsed).2 = .ok advancedTick := by
  unfold Server.tick
  rw [hrecord]
  simp only [runMatchTick, if_neg (not_not.2 hactive), htick, hpersist]
  rfl

/-- What is neither announced nor loaded again is shown as before. -/
theorem sameView_hostStep (h : guided.Healthy hashApiKey) {event : HostEvent}
    (hrunning : (ApiEvent.host event).isHydrate = false)
    (hsilent : guided.announced hashApiKey variant (.host event) ≠ some matchId)
    (hkept : (ApiEvent.host event).loads matchId = false) (hthere : (guided.registry.getMatch matchId).isSome) :
    SameView guided.registry (serverStep hashApiKey variant guided.toServer event.1).registry matchId := by
  obtain ⟨event, hhost⟩ := event
  have heffect : ServerEffect hashApiKey variant guided.toServer event
      (serverStep hashApiKey variant guided.toServer event) := serverStep_effect guided.toServer event
  change SameView guided.registry (serverStep hashApiKey variant guided.toServer event).registry matchId
  generalize serverStep hashApiKey variant guided.toServer event = next at heffect
  cases heffect with
  | refused => exact .of_eq rfl
  | keyCreated hfresh hadd => exact .of_eq rfl
  | keyRevoked hfound => exact .of_eq rfl
  | lobbyCreated hcreate =>
      obtain ⟨state, creator, agent, matchRows, -, -, hmatch, -, hrecord⟩ := createMatchLobby_eq_ok hcreate
      refine .seeded ?_
      rw [hrecord]
      rintro rfl
      obtain ⟨live, hlive⟩ := Option.isSome_iff_exists.1 hthere
      obtain ⟨-, -, row, hrow, -⟩ := h.holds.live _ live hlive
      exact (sessionAdd_eq_ok hmatch).1 (List.mem_map.2 ⟨row, Table.mem_rows_of_get? hrow, Table.key_of_get? hrow⟩)
  | joined hjoin =>
      obtain ⟨row, hrow, -, hrecord⟩ := joinDbMatch_eq_ok hjoin
      refine .seeded ?_
      rw [hrecord]
      exact fun hsame => of_decide_eq_false hkept ((Table.key_of_get? hrow).symm.trans hsame.symm)
  | started hstart =>
      obtain ⟨row, hrow, -, -, -, hrecord⟩ := startMatchLobby_eq_ok hstart
      refine .seeded ?_
      rw [hrecord]
      exact fun hsame => of_decide_eq_false hkept ((Table.key_of_get? hrow).symm.trans hsame.symm)
  | commanded hrecord hcommand => cases hhost
  | tickIdle hrecord => exact .stored hrecord fun _ => rfl
  | @tickRaised id _ _ record error hrecord hactive htick =>
      obtain ⟨advancedTick, hadvanced⟩ := ((h.holds.live id record hrecord).2.1 (by rw [hactive]; decide)).tick.2
      cases htick.symm.trans hadvanced
  | @ticked id newId elapsed record advancedTick database hrecord hactive htick hpersist =>
      refine .stored hrecord ?_
      rintro rfl
      refine absurd ?_ hsilent
      have hid : advancedTick.matchId = id :=
        (advanceRegistryTick_eq_ok htick).1.trans (h.holds.live id record hrecord).1
      change ((guided.tick variant id newId elapsed).2.toOption).map (·.matchId) = some id
      rw [tick_outcome hrecord hactive htick hpersist]
      exact congrArg some hid
  | hydrated hload => cases hrunning

theorem sameView_apiStep (h : guided.Healthy hashApiKey) {event : ApiEvent} (hrunning : event.isHydrate = false)
    (hsilent : guided.announced hashApiKey variant event ≠ some matchId) (hkept : event.loads matchId = false)
    (hthere : (guided.registry.getMatch matchId).isSome) :
    SameView guided.registry (apiStep hashApiKey variant guided event).registry matchId := by
  cases event with
  | host event => exact sameView_hostStep h hrunning hsilent hkept hthere
  | write credentials id requestMatchId request =>
      change SameView guided.registry
        (guided.toServer.after (guided.write hashApiKey variant credentials id requestMatchId request)).registry matchId
      cases hwrite : guided.write hashApiKey variant credentials id requestMatchId request with
      | error error => exact .of_eq rfl
      | ok result =>
          obtain ⟨-, record, playerId, applied, hrecord, -, happlied, hafter⟩ := write_eq_ok hwrite
          change SameView guided.registry result.1.registry matchId
          rw [hafter]
          refine .stored hrecord ?_
          rintro rfl
          refine sameView_write ?_ happlied
          by_contra hannounced
          refine absurd ?_ hsilent
          change (if request.isAnnounced = true then
            ((guided.write hashApiKey variant credentials id requestMatchId request).toOption).map fun _ => id
            else none) = some id
          rw [if_pos (by simpa using hannounced), hwrite]
          rfl
  | guidance request content =>
      have heffect : ApiEffect hashApiKey variant guided (.guidance request content)
          (apiStep hashApiKey variant guided (.guidance request content)) := apiStep_effect guided _
      generalize apiStep hashApiKey variant guided (.guidance request content) = next at heffect
      cases heffect with
      | refused => exact .of_eq rfl
      | advised => exact .of_eq rfl
  | override request orders =>
      have heffect : ApiEffect hashApiKey variant guided (.override request orders)
          (apiStep hashApiKey variant guided (.override request orders)) := apiStep_effect guided _
      generalize apiStep hashApiKey variant guided (.override request orders) = next at heffect
      cases heffect with
      | refused => exact .of_eq rfl
      | overridden hrecord htick hseat hadd => exact .stored hrecord fun _ => rfl

end View

/-! ### Subscribers that stay -/

def RealtimeEvent.loads (matchId : String) : RealtimeEvent → Bool
  | .api event => event.loads matchId
  | _ => false

namespace RealtimeServer

section Updates

variable {hashApiKey : String → String} {variant : StorageVariant} {live next : RealtimeServer} {matchId websocket : String}
  {subscription : MatchWebSocketSubscription} {payload : MatchRealtimePayload}

/-- The handler has registered its socket, or is over. -/
def Settled (live : RealtimeServer) (websocket : String) : Prop :=
  ∃ handler, live.handlers.get? websocket = some handler ∧ (handler.stage = .listening ∨ handler.stage = .closed)

theorem Settled.step (h : live.Settled websocket) (event : RealtimeEvent) :
    (realtimeStep hashApiKey variant live event).Settled websocket := by
  obtain ⟨handler, hhandler, hstage⟩ := h
  have heffect : RealtimeEffect hashApiKey variant live event (realtimeStep hashApiKey variant live event) :=
    realtimeStep_effect live event
  obtain ⟨stage, hstep, hkept⟩ := handlers_kept heffect hhandler
  refine ⟨_, hkept, ?_⟩
  change stage = .listening ∨ stage = .closed
  generalize handler.stage = before at hstep hstage
  cases hstep with
  | stay => exact hstage
  | greet => rcases hstage with hstage | hstage <;> cases hstage
  | listen => exact Or.inl rfl
  | close => exact Or.inr rfl

/-- A broadcast of the match is to bring the payload to the subscriber, or has yet to build one. -/
def Owed (live : RealtimeServer) (matchId : String) (subscription : MatchWebSocketSubscription)
    (payload : MatchRealtimePayload) : Prop :=
  ∃ broadcast ∈ live.broadcasts, broadcast.matchId = matchId ∧ broadcast.fanout.Owes subscription payload

/-- The subscriber's payload as the match stands was sent to it, or is on its way. -/
def UpToDate (live : RealtimeServer) (matchId : String) (subscription : MatchWebSocketSubscription) : Prop :=
  subscription ∈ live.manager.subscriptions matchId → ∀ payload, live.payloadOf matchId subscription = .ok payload →
    (subscription.websocket, payload) ∈ live.sent ∨ live.Owed matchId subscription payload

theorem Owed.setBroadcast (h : live.Owed matchId subscription payload) {index : Nat} {broadcast broadcast' : Broadcast}
    (hbroadcast : live.broadcasts[index]? = some broadcast) (hmatch : broadcast'.matchId = broadcast.matchId) {done : Prop}
    (howes : broadcast.matchId = matchId → broadcast.fanout.Owes subscription payload →
      done ∨ broadcast'.fanout.Owes subscription payload) :
    done ∨ (live.setBroadcast index broadcast').Owed matchId subscription payload := by
  obtain ⟨other, hother, hid, howed⟩ := h
  have hkept : other = broadcast ∨ other ∈ (live.setBroadcast index broadcast').broadcasts :=
    eq_or_mem_setBroadcast hbroadcast hother
  rcases hkept with rfl | hkept
  · rcases howes hid howed with hdone | hstill
    · exact Or.inl hdone
    · exact Or.inr ⟨broadcast', mem_setBroadcast_self hbroadcast hstill.attends, hmatch.trans hid, hstill⟩
  · exact Or.inr ⟨other, hkept, hid, howed⟩

/-- A subscriber is told of what is announced. -/
theorem UpToDate.announced (live : RealtimeServer) (matchId : String) (subscription : MatchWebSocketSubscription) :
    (live.broadcastCurrentMatch matchId).UpToDate matchId subscription := by
  unfold broadcastCurrentMatch
  dsimp only
  split
  · rename_i hnone
    intro hsubscription
    rw [hnone] at hsubscription
    cases hsubscription
  · intro hsubscription payload hpayload
    exact Or.inr ⟨_, List.mem_append_right _ (List.mem_singleton_self _), rfl, Or.inl hsubscription⟩

theorem UpToDate.broadcast (h : live.UpToDate matchId subscription) (other : String) :
    (live.broadcastCurrentMatch other).UpToDate matchId subscription := by
  unfold broadcastCurrentMatch
  dsimp only
  split
  · exact h
  · intro hsubscription payload hpayload
    rcases h hsubscription payload hpayload with hsent | ⟨broadcast, hbroadcast, howed⟩
    · exact Or.inl hsent
    · exact Or.inr ⟨broadcast, List.mem_append_left _ hbroadcast, howed⟩

theorem UpToDate.restarted (live : RealtimeServer) : live.restarted.UpToDate matchId subscription :=
  fun hsubscription => absurd hsubscription List.not_mem_nil

/-- A match that is shown as before leaves its subscribers up to date. -/
theorem UpToDate.served (h : live.UpToDate matchId subscription) (hwired : live.Wired hashApiKey) {event : ApiEvent}
    (hrunning : event.isHydrate = false) (hsilent : live.announced hashApiKey variant event ≠ some matchId)
    (hkept : event.loads matchId = false) :
    UpToDate { live with toGuidedServer := apiStep hashApiKey variant live.toGuidedServer event } matchId subscription := by
  intro hsubscription payload hpayload
  have hsame := sameView_apiStep hwired.healthy hrunning hsilent hkept (hwired.there hsubscription)
  exact h hsubscription payload ((hsame.envelope _ _).symm.trans hpayload)

/-- Whatever happens to the sockets, and whatever is asked of the server, a subscriber is kept up to date. -/
theorem UpToDate.step (h : live.UpToDate matchId subscription) (hwired : live.Wired hashApiKey)
    (hsettled : live.Settled subscription.websocket) {event : RealtimeEvent} (hkept : event.loads matchId = false) :
    (realtimeStep hashApiKey variant live event).UpToDate matchId subscription := by
  have heffect : RealtimeEffect hashApiKey variant live event (realtimeStep hashApiKey variant live event) :=
    realtimeStep_effect live event
  generalize realtimeStep hashApiKey variant live event = next at heffect
  cases heffect with
  | idle => exact h
  | served hrunning hsilent =>
      exact h.served hwired hrunning (fun hannounced => by cases hsilent.symm.trans hannounced) hkept
  | @announced request other hrunning hannounced =>
      by_cases hother : other = matchId
      · rw [hother]
        exact .announced _ matchId subscription
      · refine (h.served hwired hrunning ?_ hkept).broadcast other
        intro hsame
        exact hother (Option.some.inj (hannounced.symm.trans hsame))
  | restarted hrestart => exact .restarted _
  | connected hfresh hviewer => exact h
  | greeted hhandler hstage hpayload =>
      intro hsubscription payload hbuilt
      exact (h hsubscription payload hbuilt).imp (fun hsent => List.mem_append_left _ hsent) id
  | @listening other handler hhandler hstage =>
      intro hsubscription
      refine h ?_
      replace hsubscription : subscription ∈
          (live.manager.register handler.matchId (handler.subscription other)).subscriptions matchId := hsubscription
      rw [MatchWebSocketManager.subscriptions_register] at hsubscription
      split at hsubscription
      · rename_i hid
        rcases List.mem_append.1 hsubscription with hold | hnew
        · exact hid ▸ hold
        · -- the handler of the subscriber has registered before
          obtain rfl := List.mem_singleton.1 hnew
          obtain ⟨found, hfound, hover⟩ := hsettled
          obtain rfl := Option.some.inj (hfound.symm.trans hhandler)
          rcases hover with hover | hover <;> cases hstage.symm.trans hover
      · exact hsubscription
  | closed hhandler =>
      exact fun hsubscription => h (MatchWebSocketManager.mem_subscriptions_of_unregister hsubscription).1
  | @launched index task broadcast launched built hbroadcast htask hbuilt =>
      intro hsubscription payload hpayload
      rw [setBroadcast_manager] at hsubscription
      rw [payloadOf_setBroadcast] at hpayload
      rcases h hsubscription payload hpayload with hsent | howed
      · rw [setBroadcast_sent]
        exact Or.inl hsent
      · have hnext : False ∨ (live.setBroadcast index
            { broadcast with fanout := broadcast.fanout.launch task (launched, built) }).Owed matchId subscription payload := by
          refine howed.setBroadcast hbroadcast ?_ ?_
          · rfl
          · rintro rfl howes
            refine Or.inr (howes.launch htask ?_)
            rintro rfl
            exact Except.ok.inj (hpayload.symm.trans hbuilt)
        exact Or.inr (hnext.resolve_left id)
  | raised hbroadcast htask hraised =>
      obtain ⟨payload, hbuilt⟩ := hwired.builds hbroadcast htask
      cases hraised.symm.trans hbuilt
  | @finished index task delivered reached broadcast finished built hbroadcast htask =>
      intro hsubscription payload hpayload
      have hregistered : subscription ∈ live.manager.subscriptions matchId ∧
          (delivered = false → broadcast.matchId = matchId → subscription.websocket ≠ finished.websocket) := by
        cases delivered with
        | true => exact ⟨hsubscription, nofun⟩
        | false =>
            obtain ⟨hmem, hother⟩ := MatchWebSocketManager.mem_subscriptions_of_unregister hsubscription
            exact ⟨hmem, fun _ hid => hother hid.symm⟩
      have hshown : live.payloadOf matchId subscription = .ok payload :=
        (payloadOf_setBroadcast live index _ matchId subscription).symm.trans hpayload
      have hset : ((subscription, payload) = (finished, built) ∧ broadcast.matchId = matchId ∨
          (subscription.websocket, payload) ∈ live.sent) ∨
            (live.setBroadcast index { broadcast with fanout := broadcast.fanout.finish task delivered }).Owed matchId
              subscription payload := by
        rcases h hregistered.1 payload hshown with hsent | howed
        · exact Or.inl (Or.inr hsent)
        · refine howed.setBroadcast hbroadcast ?_ ?_
          · rfl
          · intro hid howes
            rcases howes.finish htask with hended | hstill
            · exact Or.inl (Or.inl ⟨hended, hid⟩)
            · exact Or.inr hstill
      rcases hset with (⟨hended, hid⟩ | hsent) | howed
      · obtain ⟨rfl, rfl⟩ := Prod.mk.inj hended
        have hdelivered : delivered = true := by
          by_contra hfailed
          exact hregistered.2 (Bool.eq_false_of_not_eq_true hfailed) hid rfl
        refine Or.inl ?_
        rw [hdelivered]
        exact List.mem_append_right _ (List.mem_singleton_self _)
      · refine Or.inl ?_
        dsimp only
        split
        · exact List.mem_append_left _ hsent
        · exact hsent
      · exact Or.inr howed

/-- From a server without matches or sockets, whatever is asked of it and however its sockets fare: once a match has been announced to a subscriber that stays, and unless the match is joined or started, the subscriber has been sent the match as it stands whenever no send of the match to it is under way. -/
theorem announced_updates_arrive (hempty : live.HoldsNoMatch) (hnone : live.registry = .empty) (hquiet : live.NoSockets)
    (events : List RealtimeEvent) {reached : RealtimeServer}
    (hreached : reached ∈ Run.states (realtimeStep hashApiKey variant) live events) {event : ApiEvent}
    (hannounced : reached.announced hashApiKey variant event = some matchId)
    (hsubscription : subscription ∈ reached.manager.subscriptions matchId) {more : List RealtimeEvent}
    (hkept : ∀ event ∈ more, event.loads matchId = false) {later : RealtimeServer}
    (hlater : later ∈ Run.states (realtimeStep hashApiKey variant) (realtimeStep hashApiKey variant reached (.api event)) more)
    (hstays : subscription ∈ later.manager.subscriptions matchId)
    (hidle : ∀ broadcast ∈ later.broadcasts, broadcast.matchId = matchId → ¬ broadcast.fanout.Attends subscription) :
    ∃ payload, later.payloadOf matchId subscription = .ok payload ∧ (subscription.websocket, payload) ∈ later.sent := by
  have hwired := (hquiet.wired (hempty.healthy hnone)).run events reached hreached
  have hannouncedTo : (realtimeStep hashApiKey variant reached (.api event)).UpToDate matchId subscription := by
    change (reached.serve hashApiKey variant event).UpToDate matchId subscription
    unfold serve
    dsimp only
    split
    · exact .restarted _
    · rw [hannounced]
      exact .announced _ matchId subscription
  obtain ⟨⟨handler, hhandler, -⟩, hlistens⟩ := hwired.registered matchId subscription hsubscription
  have hsettled : reached.Settled subscription.websocket := ⟨handler, hhandler, Or.inl (hlistens handler hhandler)⟩
  obtain ⟨hwired', -, hcurrent⟩ := Run.invariant_of_admitted
    (I := fun reached : RealtimeServer => reached.Wired hashApiKey ∧ reached.Settled subscription.websocket ∧
      reached.UpToDate matchId subscription) (C := fun event => event.loads matchId = false)
    (fun _ event hquietly h => ⟨h.1.step event, h.2.1.step event, h.2.2.step h.1 h.2.1 hquietly⟩)
    ⟨hwired.step _, hsettled.step _, hannouncedTo⟩ hkept later hlater
  obtain ⟨payload, hpayload⟩ := hwired'.payload_of_serves (hwired'.registered matchId subscription hstays).1
    (hwired'.there hstays)
  refine ⟨payload, hpayload, ?_⟩
  rcases hcurrent hstays payload hpayload with hsent | ⟨broadcast, hbroadcast, hid, howes⟩
  · exact hsent
  · exact absurd howes.attends (hidle broadcast hbroadcast hid)

end Updates

end RealtimeServer

/-! ### Broadcasts end -/

/-- A task of a broadcast begins, or ends with its payload delivered. -/
def RealtimeEvent.isDelivery : RealtimeEvent → Bool
  | .launch .. => true
  | .finish _ _ delivered _ => delivered
  | _ => false

namespace RealtimeServer

section Deliveries

variable {hashApiKey : String → String} {variant : StorageVariant} {live : RealtimeServer}

/-- The broadcasts under way have tasks left, and slots for them. -/
structure Flowing (live : RealtimeServer) : Prop where
  slots : 0 < live.manager.maxConcurrentSends
  running : ∀ broadcast ∈ live.broadcasts, broadcast.fanout.isDone = false ∧ 0 < broadcast.fanout.slots

theorem NoSockets.flowing (h : live.NoSockets) (hslots : 0 < live.manager.maxConcurrentSends) : live.Flowing where
  slots := hslots
  running := by
    intro broadcast hbroadcast
    rw [h.broadcasts] at hbroadcast
    cases hbroadcast

theorem Flowing.setBroadcast (h : live.Flowing) {index : Nat} {broadcast broadcast' : Broadcast}
    (hbroadcast : live.broadcasts[index]? = some broadcast) (hslots : broadcast'.fanout.slots = broadcast.fanout.slots) :
    ∀ other ∈ (live.setBroadcast index broadcast').broadcasts, other.fanout.isDone = false ∧ 0 < other.fanout.slots := by
  intro other hother
  rcases mem_setBroadcast hother with ⟨rfl, hrunning⟩ | hold
  · exact ⟨hrunning, hslots ▸ (h.running broadcast (List.mem_of_getElem? hbroadcast)).2⟩
  · exact h.running other hold

theorem Flowing.step (h : live.Flowing) (event : RealtimeEvent) : (realtimeStep hashApiKey variant live event).Flowing := by
  have heffect : RealtimeEffect hashApiKey variant live event (realtimeStep hashApiKey variant live event) :=
    realtimeStep_effect live event
  generalize realtimeStep hashApiKey variant live event = next at heffect
  cases heffect with
  | idle => exact h
  | served hrunning hsilent => exact ⟨h.slots, h.running⟩
  | announced hrunning hannounced =>
      unfold broadcastCurrentMatch
      dsimp only
      split
      · exact ⟨h.slots, h.running⟩
      · rename_i hsome
        refine ⟨h.slots, ?_⟩
        intro broadcast hbroadcast
        rcases List.mem_append.1 hbroadcast with hold | hnew
        · exact h.running broadcast hold
        · obtain rfl := List.mem_singleton.1 hnew
          exact ⟨Fanout.isDone_start hsome, h.slots⟩
  | restarted hrestart => exact ⟨h.slots, fun _ hbroadcast => absurd hbroadcast List.not_mem_nil⟩
  | connected hfresh hviewer => exact ⟨h.slots, h.running⟩
  | greeted hhandler hstage hpayload => exact ⟨h.slots, h.running⟩
  | listening hhandler hstage => exact ⟨h.slots, h.running⟩
  | closed hhandler => exact ⟨h.slots, h.running⟩
  | launched hbroadcast htask hpayload =>
      refine ⟨?_, h.setBroadcast hbroadcast rfl⟩
      rw [setBroadcast_manager]
      exact h.slots
  | raised hbroadcast htask hpayload =>
      refine ⟨?_, h.setBroadcast hbroadcast rfl⟩
      rw [setBroadcast_manager]
      exact h.slots
  | finished hbroadcast htask =>
      refine ⟨?_, h.setBroadcast hbroadcast rfl⟩
      dsimp only
      split
      · exact h.slots
      · exact h.slots

/-- The steps that the broadcasts under way take to end. -/
def stepsLeft (live : RealtimeServer) : Nat := (live.broadcasts.map fun broadcast => broadcast.fanout.stepsLeft).sum

theorem stepsLeft_setBroadcast {broadcast broadcast' : Broadcast} {broadcasts : List Broadcast}
    (hfirst : live.broadcasts = broadcast :: broadcasts) (hless : broadcast'.fanout.stepsLeft < broadcast.fanout.stepsLeft) :
    (live.setBroadcast 0 broadcast').stepsLeft < live.stepsLeft := by
  unfold stepsLeft setBroadcast
  split
  · simp only [hfirst, List.eraseIdx_zero, List.tail_cons, List.map_cons, List.sum_cons]
    omega
  · simp only [hfirst, List.set_cons_zero, List.map_cons, List.sum_cons]
    omega

/-- A task of the first broadcast can go on. -/
theorem delivery_there (hwired : live.Wired hashApiKey) (hflowing : live.Flowing) (hsome : live.broadcasts ≠ []) :
    ∃ event : RealtimeEvent, event.isDelivery = true ∧
      (realtimeStep hashApiKey variant live event).stepsLeft < live.stepsLeft ∧
        (realtimeStep hashApiKey variant live event).manager = live.manager ∧
          (realtimeStep hashApiKey variant live event).toGuidedServer = live.toGuidedServer := by
  obtain ⟨broadcast, broadcasts, hfirst⟩ := List.exists_cons_of_ne_nil hsome
  have hbroadcast : live.broadcasts[0]? = some broadcast := by rw [hfirst, List.getElem?_cons_zero]
  have hmem := List.mem_of_getElem? hbroadcast
  obtain ⟨hrunning, hslots⟩ := hflowing.running broadcast hmem
  rcases (hwired.unraised broadcast hmem).2.progress hslots hrunning with hunstarted | hsending
  · obtain ⟨subscription, subscriptions, htasks⟩ := List.exists_cons_of_ne_nil hunstarted
    have htask : broadcast.fanout.unstarted[0]? = some subscription := by rw [htasks, List.getElem?_cons_zero]
    obtain ⟨payload, hpayload⟩ := hwired.builds hbroadcast htask
    refine ⟨.launch 0 0, rfl, ?_⟩
    have hstep : realtimeStep hashApiKey variant live (.launch 0 0) = live.setBroadcast 0
        { broadcast with fanout := broadcast.fanout.launch 0 (subscription, payload) } := by
      change live.launch 0 0 = _
      unfold launch
      simp only [hbroadcast, htask, hpayload]
    rw [hstep]
    refine ⟨stepsLeft_setBroadcast hfirst ?_, setBroadcast_manager _ _ _, setBroadcast_toGuidedServer _ _ _⟩
    have hbegun : (broadcast.fanout.launch 0 (subscription, payload)).stepsLeft + 1 = broadcast.fanout.stepsLeft :=
      Fanout.stepsLeft_launch htask
    dsimp only
    omega
  · obtain ⟨task, tasks, htasks⟩ := List.exists_cons_of_ne_nil hsending
    have htask : broadcast.fanout.sending[0]? = some task := by rw [htasks, List.getElem?_cons_zero]
    refine ⟨.finish 0 0 true true, rfl, ?_⟩
    have hstep : realtimeStep hashApiKey variant live (.finish 0 0 true true) =
        { live.setBroadcast 0 { broadcast with fanout := broadcast.fanout.finish 0 true } with
          sent := live.sent ++ [(task.1.websocket, task.2)]
          manager := live.manager } := by
      change live.finish 0 0 true true = _
      unfold finish
      simp only [hbroadcast, htask]
      rfl
    have hended : (broadcast.fanout.finish 0 true).stepsLeft + 1 = broadcast.fanout.stepsLeft :=
      Fanout.stepsLeft_finish htask
    have hless : (live.setBroadcast 0 { broadcast with fanout := broadcast.fanout.finish 0 true }).stepsLeft <
        live.stepsLeft := by
      refine stepsLeft_setBroadcast hfirst ?_
      dsimp only
      omega
    rw [hstep]
    exact ⟨hless, rfl, setBroadcast_toGuidedServer _ _ _⟩

theorem Flowing.delivered (hwired : live.Wired hashApiKey) (hflowing : live.Flowing) :
    ∃ more : List RealtimeEvent, (∀ event ∈ more, event.isDelivery = true) ∧
      (more.foldl (realtimeStep hashApiKey variant) live).broadcasts = [] ∧
        (more.foldl (realtimeStep hashApiKey variant) live).manager = live.manager ∧
          (more.foldl (realtimeStep hashApiKey variant) live).toGuidedServer = live.toGuidedServer := by
  induction hsteps : live.stepsLeft using Nat.strong_induction_on generalizing live with
  | h steps ih =>
      by_cases hnone : live.broadcasts = []
      · exact ⟨[], nofun, hnone, rfl, rfl⟩
      · obtain ⟨event, hdelivery, hless, hmanager, hserver⟩ :=
          @delivery_there hashApiKey variant live hwired hflowing hnone
        obtain ⟨more, hmore, hended, hmanager', hserver'⟩ :=
          ih _ (hsteps ▸ hless) (hwired.step event) (hflowing.step event) rfl
        refine ⟨event :: more, List.forall_mem_cons.2 ⟨hdelivery, hmore⟩, hended, ?_, ?_⟩
        · exact hmanager'.trans hmanager
        · exact hserver'.trans hserver

/-- From a server without matches or sockets, with a slot to send at all: in every state reached, deliveries are possible that end the broadcasts under way, and they cost no subscriber its subscription and no match its state. -/
theorem broadcasts_end (hempty : live.HoldsNoMatch) (hnone : live.registry = .empty) (hquiet : live.NoSockets)
    (hslots : 0 < live.manager.maxConcurrentSends) (events : List RealtimeEvent) {reached : RealtimeServer}
    (hreached : reached ∈ Run.states (realtimeStep hashApiKey variant) live events) :
    ∃ more : List RealtimeEvent, (∀ event ∈ more, event.isDelivery = true) ∧
      (more.foldl (realtimeStep hashApiKey variant) reached).broadcasts = [] ∧
        (more.foldl (realtimeStep hashApiKey variant) reached).manager = reached.manager ∧
          (more.foldl (realtimeStep hashApiKey variant) reached).toGuidedServer = reached.toGuidedServer :=
  Flowing.delivered ((hquiet.wired (hempty.healthy hnone)).run events reached hreached)
    (Run.invariant (I := Flowing) (fun _ event hflowing => hflowing.step event) (hquiet.flowing hslots) events reached
      hreached)

end Deliveries

end RealtimeServer

/-! ### A greeting that the guest is shown -/

def guestSubscription : MatchWebSocketSubscription := ⟨guestSocket, .player, some (canonicalPlayerId 2)⟩

def agentGreets : ApiEvent :=
  .write ⟨some (rawApiKey deploymentToken), none⟩ deploymentMatchId deploymentMatchId (.message ⟨0, .world, none, "Hello."⟩)

/-- The deployment with one slot to send. -/
def narrowDeployment : RealtimeServer := { realtimeDeployment with manager := .empty 1 }

/-- A spectator watches too, and both tasks of the greeting's broadcast begin. -/
def greetsBoth : List RealtimeEvent :=
  guestWatches ++
    [.connect "spectator" deploymentMatchId "spectator" none none, .greet "spectator", .listen "spectator",
      .api agentGreets, .launch 0 0, .launch 0 0]

def crowdedMatch : RealtimeServer := greetsBoth.foldl (realtimeStep deploymentHash .sqlite) narrowDeployment

/-- One of the two subscribers waits for the slot. -/
theorem broadcasts_end_greeting :
    crowdedMatch.broadcasts.map (fun broadcast => (broadcast.fanout.sending.length, broadcast.fanout.waiting.length)) =
      [(1, 1)] ∧
      ∃ more : List RealtimeEvent, (∀ event ∈ more, event.isDelivery = true) ∧
        (more.foldl (realtimeStep deploymentHash .sqlite) crowdedMatch).broadcasts = [] ∧
          (more.foldl (realtimeStep deploymentHash .sqlite) crowdedMatch).manager = crowdedMatch.manager := by
  have hlast : crowdedMatch ∈ Run.states (realtimeStep deploymentHash .sqlite) narrowDeployment greetsBoth :=
    Run.foldl_mem_states narrowDeployment greetsBoth
  obtain ⟨more, hdeliveries, hended, hmanager, -⟩ := RealtimeServer.broadcasts_end deployment_holdsNoMatch rfl
    (⟨fun _ => rfl, rfl, rfl, rfl⟩ : narrowDeployment.NoSockets) (by decide +kernel) greetsBoth hlast
  exact ⟨by decide +kernel, more, hdeliveries, hended, hmanager⟩

/-- The broadcast of the greeting has one task. -/
def guestIsSent : List RealtimeEvent := [.launch 0 0, .finish 0 0 true true]

def greetedMatch : RealtimeServer :=
  guestIsSent.foldl (realtimeStep deploymentHash .sqlite)
    (realtimeStep deploymentHash .sqlite watchedMatch (.api agentGreets))

theorem announced_updates_arrive_greeting :
    ∃ payload, greetedMatch.payloadOf deploymentMatchId guestSubscription = .ok payload ∧
      (guestSocket, payload) ∈ greetedMatch.sent := by
  have hannounced : watchedMatch.announced deploymentHash .sqlite agentGreets = some deploymentMatchId := by decide +kernel
  have hwatches : guestSubscription ∈ watchedMatch.manager.subscriptions deploymentMatchId := by decide +kernel
  have hquietly : ∀ event ∈ guestIsSent, event.loads deploymentMatchId = false := by decide +kernel
  have hstays : guestSubscription ∈ greetedMatch.manager.subscriptions deploymentMatchId := by decide +kernel
  have hsent : greetedMatch.broadcasts.length = 0 := by decide +kernel
  refine RealtimeServer.announced_updates_arrive deployment_holdsNoMatch rfl realtimeDeployment_noSockets guestWatches
    (Run.foldl_mem_states _ _) hannounced hwatches hquietly (Run.foldl_mem_states _ _) hstays ?_
  intro broadcast hbroadcast
  rw [List.length_eq_zero_iff.1 hsent] at hbroadcast
  cases hbroadcast

end IronCouncil
