import IronCouncil.Api.Realtime
import IronCouncil.Proof.BriefingPolls
import IronCouncil.Proof.ServerBoards

/-!
# The steps of the sockets

What an event of the server with its sockets can do, and what holds of the sockets in every state reached: a subscription is that of its socket's handler, wherever it stands, a player's handler is that of the human with the player's seat, and every payload that is asked for can be built.
-/

namespace IronCouncil

/-! ### The subscribers -/

namespace MatchWebSocketManager

variable {manager : MatchWebSocketManager} {matchId websocket : String} {subscription : MatchWebSocketSubscription}

theorem subscriptions_register (id : String) : (manager.register matchId subscription).subscriptions id =
    if id = matchId then manager.subscriptions matchId ++ [subscription] else manager.subscriptions id := by
  unfold subscriptions register
  rw [OrdDict.get?_insert]
  split
  · rfl
  · rfl

theorem subscriptions_unregister (id : String) : (manager.unregister matchId websocket).subscriptions id =
    if id = matchId then (manager.subscriptions matchId).filter fun subscription => subscription.websocket ≠ websocket
    else manager.subscriptions id := by
  unfold subscriptions unregister
  dsimp only
  split
  · rename_i hnone
    rw [OrdDict.get?_erase]
    split
    · exact hnone.symm
    · rfl
  · rw [OrdDict.get?_insert]
    split
    · rfl
    · rfl

theorem mem_subscriptions_of_unregister {id : String}
    (h : subscription ∈ (manager.unregister matchId websocket).subscriptions id) :
    subscription ∈ manager.subscriptions id ∧ (id = matchId → subscription.websocket ≠ websocket) := by
  rw [subscriptions_unregister] at h
  split at h
  · rename_i hid
    obtain ⟨hmem, hother⟩ := List.mem_filter.1 h
    exact ⟨hid ▸ hmem, fun _ => by simpa using hother⟩
  · rename_i hid
    exact ⟨h, fun hsame => absurd hsame hid⟩

end MatchWebSocketManager

/-! ### What a step can do -/

inductive RealtimeEffect (hashApiKey : String → String) (variant : StorageVariant) (live : RealtimeServer) :
    RealtimeEvent → RealtimeServer → Prop
  | idle (event : RealtimeEvent) : RealtimeEffect hashApiKey variant live event live
  | served {event : ApiEvent} (hrunning : event.isHydrate = false) (hsilent : live.announced hashApiKey variant event = none) :
      RealtimeEffect hashApiKey variant live (.api event)
        { live with toGuidedServer := apiStep hashApiKey variant live.toGuidedServer event }
  | announced {event : ApiEvent} {matchId : String} (hrunning : event.isHydrate = false)
      (hannounced : live.announced hashApiKey variant event = some matchId) :
      RealtimeEffect hashApiKey variant live (.api event)
        (RealtimeServer.broadcastCurrentMatch
          { live with toGuidedServer := apiStep hashApiKey variant live.toGuidedServer event } matchId)
  | restarted {event : ApiEvent} (hrestart : event.isHydrate = true) :
      RealtimeEffect hashApiKey variant live (.api event)
        (RealtimeServer.restarted { live with toGuidedServer := apiStep hashApiKey variant live.toGuidedServer event })
  | connected {websocket matchId viewer : String} {playerId humanUserId resolved : Option String}
      {viewerRole : RealtimeViewerRole} (hfresh : websocket ∉ live.handlers.keys)
      (hviewer : live.resolveViewer variant matchId viewer playerId humanUserId = .ok (viewerRole, resolved)) :
      RealtimeEffect hashApiKey variant live (.connect websocket matchId viewer playerId humanUserId)
        { live with handlers := live.handlers.insert websocket ⟨matchId, humanUserId, viewerRole, resolved, .accepted⟩ }
  | greeted {websocket : String} {handler : SocketHandler} {payload : MatchRealtimePayload}
      (hhandler : live.handlers.get? websocket = some handler) (hstage : handler.stage = .accepted)
      (hpayload : live.payloadOf handler.matchId (handler.subscription websocket) = .ok payload) :
      RealtimeEffect hashApiKey variant live (.greet websocket)
        { live.setStage websocket handler .greeted with sent := live.sent ++ [(websocket, payload)] }
  | listening {websocket : String} {handler : SocketHandler} (hhandler : live.handlers.get? websocket = some handler)
      (hstage : handler.stage = .greeted) :
      RealtimeEffect hashApiKey variant live (.listen websocket)
        { live.setStage websocket handler .listening with
          manager := live.manager.register handler.matchId (handler.subscription websocket) }
  | closed {event : RealtimeEvent} {websocket : String} {handler : SocketHandler}
      (hhandler : live.handlers.get? websocket = some handler) :
      RealtimeEffect hashApiKey variant live event (live.close websocket handler)
  | launched {index task : Nat} {broadcast : Broadcast} {subscription : MatchWebSocketSubscription}
      {payload : MatchRealtimePayload} (hbroadcast : live.broadcasts[index]? = some broadcast)
      (htask : broadcast.fanout.unstarted[task]? = some subscription)
      (hpayload : live.payloadOf broadcast.matchId subscription = .ok payload) :
      RealtimeEffect hashApiKey variant live (.launch index task)
        (live.setBroadcast index { broadcast with fanout := broadcast.fanout.launch task (subscription, payload) })
  | raised {index task : Nat} {broadcast : Broadcast} {subscription : MatchWebSocketSubscription} {error : ProjectionError}
      (hbroadcast : live.broadcasts[index]? = some broadcast)
      (htask : broadcast.fanout.unstarted[task]? = some subscription)
      (hpayload : live.payloadOf broadcast.matchId subscription = .error error) :
      RealtimeEffect hashApiKey variant live (.launch index task)
        (live.setBroadcast index { broadcast with fanout := broadcast.fanout.abandon task, raised := true })
  | finished {index task : Nat} {delivered reached : Bool} {broadcast : Broadcast}
      {subscription : MatchWebSocketSubscription} {payload : MatchRealtimePayload}
      (hbroadcast : live.broadcasts[index]? = some broadcast)
      (htask : broadcast.fanout.sending[task]? = some (subscription, payload)) :
      RealtimeEffect hashApiKey variant live (.finish index task delivered reached)
        { live.setBroadcast index { broadcast with fanout := broadcast.fanout.finish task delivered } with
          sent := if delivered || reached then live.sent ++ [(subscription.websocket, payload)] else live.sent
          manager :=
            if delivered then live.manager else live.manager.unregister broadcast.matchId subscription.websocket }

section Effects

variable {hashApiKey : String → String} {variant : StorageVariant}

theorem serve_effect (live : RealtimeServer) (event : ApiEvent) :
    RealtimeEffect hashApiKey variant live (.api event) (live.serve hashApiKey variant event) := by
  unfold RealtimeServer.serve
  dsimp only
  split
  · rename_i hrestart
    exact .restarted hrestart
  · rename_i hrunning
    rw [Bool.not_eq_true] at hrunning
    split
    · rename_i hsilent
      exact .served hrunning hsilent
    · rename_i matchId hannounced
      exact .announced hrunning hannounced

theorem realtimeStep_effect (live : RealtimeServer) (event : RealtimeEvent) :
    RealtimeEffect hashApiKey variant live event (realtimeStep hashApiKey variant live event) := by
  cases event with
  | api event => exact serve_effect live event
  | connect websocket matchId viewer playerId humanUserId =>
      change RealtimeEffect hashApiKey variant live _ (live.connect variant websocket matchId viewer playerId humanUserId)
      unfold RealtimeServer.connect
      split
      · exact .idle _
      · rename_i hfresh
        split
        · exact .idle _
        · rename_i viewerRole resolved hviewer
          exact .connected hfresh hviewer
  | greet websocket =>
      change RealtimeEffect hashApiKey variant live _ (live.greet websocket)
      unfold RealtimeServer.greet
      split
      · exact .idle _
      · rename_i handler hhandler
        split
        · exact .idle _
        · rename_i hstage
          split
          · exact .closed hhandler
          · rename_i payload hpayload
            exact .greeted hhandler (not_not.1 hstage) hpayload
  | listen websocket =>
      change RealtimeEffect hashApiKey variant live _ (live.listen websocket)
      unfold RealtimeServer.listen
      split
      · exact .idle _
      · rename_i handler hhandler
        split
        · exact .idle _
        · rename_i hstage
          exact .listening hhandler (not_not.1 hstage)
  | hangUp websocket =>
      change RealtimeEffect hashApiKey variant live _ (live.hangUp websocket)
      unfold RealtimeServer.hangUp
      split
      · exact .idle _
      · rename_i handler hhandler
        split
        · exact .idle _
        · exact .closed hhandler
  | launch index task =>
      change RealtimeEffect hashApiKey variant live _ (live.launch index task)
      unfold RealtimeServer.launch
      split
      · exact .idle _
      · rename_i broadcast hbroadcast
        split
        · exact .idle _
        · rename_i subscription htask
          split
          · rename_i error hpayload
            exact .raised hbroadcast htask hpayload
          · rename_i payload hpayload
            exact .launched hbroadcast htask hpayload
  | finish index task delivered reached =>
      change RealtimeEffect hashApiKey variant live _ (live.finish index task delivered reached)
      unfold RealtimeServer.finish
      split
      · exact .idle _
      · rename_i broadcast hbroadcast
        split
        · exact .idle _
        · rename_i subscription payload htask
          exact .finished hbroadcast htask

end Effects

/-! ### The matches behind the sockets -/

section Matches

variable {hashApiKey : String → String} {variant : StorageVariant} {server next : Server} {guided : GuidedServer}
  {matchId : String}

/-- Cities and armies are valid in every match, also in those that are over. -/
structure Server.PartsHeld (server : Server) : Prop where
  rows : ∀ matchId row, server.database.matchRows.get? matchId = some row → PartsValid row.state
  live : ∀ matchId record, server.registry.getMatch matchId = some record → PartsValid record.state

theorem Server.PartsHeld.step (h : server.PartsHeld) (hsteps : ∀ matchId, MatchStep server next matchId) :
    next.PartsHeld := by
  have hparts : ∀ matchId, (∀ row, next.database.matchRows.get? matchId = some row → PartsValid row.state) ∧
      ∀ record, next.registry.getMatch matchId = some record → PartsValid record.state := by
    intro matchId
    cases hsteps matchId with
    | kept hrow hlog hlive =>
        constructor
        · exact fun row hfound => h.rows matchId row (hrow ▸ hfound)
        · intro record' hrecord'
          obtain ⟨record, hrecord, hnegotiated⟩ := hlive record' hrecord'
          exact hnegotiated.keeps (fun _ _ _ hkept => hkept.congr rfl rfl) (h.live matchId record hrecord)
    | created hnone hstate hrow hlog hlive =>
        have hlobby := partsValid_lobby hstate
        constructor
        · intro row hfound
          obtain rfl := Option.some.inj (hrow.symm.trans hfound)
          exact hlobby
        · exact fun record hrecord => hlive record hrecord ▸ hlobby
    | @loaded row status hrow hstatus hrow' hlog hlive =>
        have hvalid := h.rows matchId row hrow
        constructor
        · intro found hfound
          obtain rfl := Option.some.inj (hrow'.symm.trans hfound)
          exact hvalid
        · exact fun record hrecord => hlive record hrecord ▸ hvalid
    | @ticked record row advancedTick winnerAlliance hrecord hactive htick hrow hrunning hrow' hlog hlive =>
        have hvalid : PartsValid advancedTick.nextState :=
          (advanceRegistryTick_eq_ok htick).2.1 ▸ partsValid_tick (h.live matchId record hrecord)
        constructor
        · intro found hfound
          obtain rfl := Option.some.inj (hrow'.symm.trans hfound)
          exact hvalid
        · exact fun found hfound => hlive found hfound ▸ hvalid
  exact ⟨fun matchId => (hparts matchId).1, fun matchId => (hparts matchId).2⟩

/-- What the sockets rely on of the server. -/
structure GuidedServer.Healthy (hashApiKey : String → String) (guided : GuidedServer) : Prop where
  knows : guided.KnowsCallers hashApiKey
  holds : guided.Holds (fun _ => SoundBoard) fun record => SoundBoard record.state
  parts : guided.PartsHeld

theorem GuidedServer.Healthy.step (h : guided.Healthy hashApiKey) (event : ApiEvent) :
    (apiStep hashApiKey variant guided event).Healthy hashApiKey where
  knows := knowsCallers_apiStep h.knows event
  holds := holds_apiStep soundBoards_kept (fun _ _ _ _ hsound => hsound) h.holds event
  parts := h.parts.step fun matchId => matchStep_apiStep h.holds event matchId

theorem Server.HoldsNoMatch.healthy (hempty : guided.HoldsNoMatch) (hnone : guided.registry = .empty) :
    guided.Healthy hashApiKey where
  knows := hempty.knowsCallers hnone
  holds := hempty.holds
  parts := by
    constructor
    · intro matchId row hrow
      have hmem := Table.mem_rows_of_get? hrow
      rw [hempty.matchRows] at hmem
      cases hmem
    · intro matchId record hrecord
      rw [hnone] at hrecord
      cases hrecord

theorem getMatch_storeMatch (registry : InMemoryMatchRegistry) (id : String) (record : MatchRecord) :
    (registry.storeMatch id record).getMatch matchId = if matchId = id then some record else registry.getMatch matchId :=
  OrdDict.get?_insert _ _ _ _

/-- A match stays in the registry until the server is started again. -/
theorem getMatch_kept {event : ApiEvent} (hrunning : event.isHydrate = false)
    (hthere : (guided.registry.getMatch matchId).isSome) :
    ((apiStep hashApiKey variant guided event).registry.getMatch matchId).isSome := by
  have hstored : ∀ id record, ((guided.registry.storeMatch id record).getMatch matchId).isSome := by
    intro id record
    rw [getMatch_storeMatch]
    split
    · rfl
    · exact hthere
  have hseeded : ∀ record, ((guided.registry.seedMatch record).getMatch matchId).isSome := by
    intro record
    rw [InMemoryMatchRegistry.getMatch_seedMatch]
    split
    · rfl
    · exact hthere
  have heffect : ApiEffect hashApiKey variant guided event (apiStep hashApiKey variant guided event) :=
    apiStep_effect guided event
  generalize apiStep hashApiKey variant guided event = next at heffect
  cases heffect with
  | refused => exact hthere
  | written hrecord hplayer hwrite => exact hstored _ _
  | advised => exact hthere
  | overridden hrecord htick hseat hadd => exact hstored _ _
  | host event =>
      obtain ⟨event, hhost⟩ := event
      have hserver : ServerEffect hashApiKey variant guided.toServer event
          (serverStep hashApiKey variant guided.toServer event) := serverStep_effect guided.toServer event
      change ((serverStep hashApiKey variant guided.toServer event).registry.getMatch matchId).isSome
      generalize serverStep hashApiKey variant guided.toServer event = stepped at hserver
      cases hserver with
      | refused => exact hthere
      | keyCreated hfresh hadd => exact hthere
      | keyRevoked hfound => exact hthere
      | lobbyCreated hcreate => exact hseeded _
      | joined hjoin => exact hseeded _
      | started hstart => exact hseeded _
      | commanded hrecord hcommand => exact hstored _ _
      | tickIdle hrecord => exact hstored _ _
      | tickRaised hrecord hactive htick => exact hstored _ _
      | ticked hrecord hactive htick hpersist => exact hstored _ _
      | hydrated hload => cases hrunning

end Matches

/-! ### The sockets -/

namespace RealtimeServer

variable {hashApiKey : String → String} {variant : StorageVariant} {live next : RealtimeServer} {event : RealtimeEvent}

/-- The subscription is that of the handler of its socket. -/
def Serves (live : RealtimeServer) (matchId : String) (subscription : MatchWebSocketSubscription) : Prop :=
  ∃ handler, live.handlers.get? subscription.websocket = some handler ∧ handler.matchId = matchId ∧
    handler.subscription subscription.websocket = subscription

/-- Spectators have no player, and a player's handler has that of the seat of its human. -/
def Seated (hashApiKey : String → String) (db : Database) (handler : SocketHandler) : Prop :=
  handler.viewerRole = .spectator ∧ handler.playerId = none ∨
    handler.viewerRole = .player ∧ ∃ userId playerId, handler.humanUserId = some userId ∧
      handler.playerId = some playerId ∧ Sits hashApiKey db handler.matchId (.human userId) playerId

structure Wired (hashApiKey : String → String) (live : RealtimeServer) : Prop where
  healthy : live.Healthy hashApiKey
  seated : ∀ websocket handler, live.handlers.get? websocket = some handler → Seated hashApiKey live.database handler
  held : ∀ websocket handler, live.handlers.get? websocket = some handler → handler.stage ≠ .closed →
    (live.registry.getMatch handler.matchId).isSome
  registered : ∀ matchId, ∀ subscription ∈ live.manager.subscriptions matchId, live.Serves matchId subscription ∧
    ∀ handler, live.handlers.get? subscription.websocket = some handler → handler.stage = .listening
  attended : ∀ broadcast ∈ live.broadcasts, (live.registry.getMatch broadcast.matchId).isSome ∧
    ∀ subscription, broadcast.fanout.Attends subscription → live.Serves broadcast.matchId subscription
  unraised : ∀ broadcast ∈ live.broadcasts, broadcast.raised = false ∧ broadcast.fanout.Fair

/-- Nobody has connected yet. -/
structure NoSockets (live : RealtimeServer) : Prop where
  manager : ∀ matchId, live.manager.subscriptions matchId = []
  handlers : live.handlers = OrdDict.empty
  broadcasts : live.broadcasts = []
  sent : live.sent = []

theorem NoSockets.wired (h : live.NoSockets) (hhealthy : live.Healthy hashApiKey) : live.Wired hashApiKey where
  healthy := hhealthy
  seated := by
    intro websocket handler hhandler
    rw [h.handlers] at hhandler
    cases hhandler
  held := by
    intro websocket handler hhandler
    rw [h.handlers] at hhandler
    cases hhandler
  registered := by
    intro matchId subscription hsubscription
    rw [h.manager] at hsubscription
    cases hsubscription
  attended := by
    intro broadcast hbroadcast
    rw [h.broadcasts] at hbroadcast
    cases hbroadcast
  unraised := by
    intro broadcast hbroadcast
    rw [h.broadcasts] at hbroadcast
    cases hbroadcast

/-! #### What a socket is sent can be built -/

theorem Wired.payload (h : live.Wired hashApiKey) {handler : SocketHandler}
    (hseated : Seated hashApiKey live.database handler) (hthere : (live.registry.getMatch handler.matchId).isSome)
    (websocket : String) :
    ∃ payload, live.payloadOf handler.matchId (handler.subscription websocket) = .ok payload ∧
      payload.viewerRole = handler.viewerRole ∧ payload.playerId = handler.playerId := by
  obtain ⟨record, hrecord⟩ := Option.isSome_iff_exists.1 hthere
  unfold payloadOf buildMatchRealtimeEnvelope SocketHandler.subscription
  dsimp only
  rw [hrecord]
  rcases hseated with ⟨hrole, hplayer⟩ | ⟨hrole, userId, playerId, -, hplayer, hsits⟩
  · simp only [hrole, hplayer]
    exact ⟨_, rfl, rfl, rfl⟩
  · obtain ⟨player, hfound⟩ := h.healthy.knows.player_there hrecord hsits
    obtain ⟨projection, hprojection, -⟩ :=
      projectAgentState_of_armies (h.healthy.parts.live _ record hrecord).2 hfound handler.matchId
    simp only [hrole, hplayer, Option.getD_some, hprojection]
    exact ⟨_, rfl, rfl, rfl⟩

theorem Wired.payload_of_serves (h : live.Wired hashApiKey) {matchId : String} {subscription : MatchWebSocketSubscription}
    (hserves : live.Serves matchId subscription) (hthere : (live.registry.getMatch matchId).isSome) :
    ∃ payload, live.payloadOf matchId subscription = .ok payload := by
  obtain ⟨handler, hhandler, rfl, hsame⟩ := hserves
  obtain ⟨payload, hpayload, -⟩ := h.payload (h.seated _ handler hhandler) hthere subscription.websocket
  rw [hsame] at hpayload
  exact ⟨payload, hpayload⟩

/-- A match with subscribers is in the registry. -/
theorem Wired.there (h : live.Wired hashApiKey) {matchId : String} {subscription : MatchWebSocketSubscription}
    (hsubscription : subscription ∈ live.manager.subscriptions matchId) : (live.registry.getMatch matchId).isSome := by
  obtain ⟨⟨handler, hhandler, rfl, -⟩, hstage⟩ := h.registered matchId subscription hsubscription
  exact h.held _ handler hhandler (by rw [hstage handler hhandler]; decide)

/-- The payload of a task that begins can be built. -/
theorem Wired.builds (h : live.Wired hashApiKey) {index task : Nat} {broadcast : Broadcast}
    {subscription : MatchWebSocketSubscription} (hbroadcast : live.broadcasts[index]? = some broadcast)
    (htask : broadcast.fanout.unstarted[task]? = some subscription) :
    ∃ payload, live.payloadOf broadcast.matchId subscription = .ok payload := by
  obtain ⟨hthere, hattending⟩ := h.attended broadcast (List.mem_of_getElem? hbroadcast)
  exact h.payload_of_serves (hattending subscription (Or.inl (List.mem_of_getElem? htask))) hthere

/-! #### What a step leaves -/

theorem setBroadcast_eq (live : RealtimeServer) (index : Nat) (broadcast : Broadcast) :
    ∃ broadcasts observations, live.setBroadcast index broadcast = { live with broadcasts, observations } := by
  unfold setBroadcast
  split
  · exact ⟨_, _, rfl⟩
  · exact ⟨_, live.observations, rfl⟩

@[simp] theorem setBroadcast_toGuidedServer (live : RealtimeServer) (index : Nat) (broadcast : Broadcast) :
    (live.setBroadcast index broadcast).toGuidedServer = live.toGuidedServer := by
  obtain ⟨broadcasts, observations, heq⟩ := setBroadcast_eq live index broadcast
  rw [heq]

@[simp] theorem setBroadcast_manager (live : RealtimeServer) (index : Nat) (broadcast : Broadcast) :
    (live.setBroadcast index broadcast).manager = live.manager := by
  obtain ⟨broadcasts, observations, heq⟩ := setBroadcast_eq live index broadcast
  rw [heq]

@[simp] theorem setBroadcast_handlers (live : RealtimeServer) (index : Nat) (broadcast : Broadcast) :
    (live.setBroadcast index broadcast).handlers = live.handlers := by
  obtain ⟨broadcasts, observations, heq⟩ := setBroadcast_eq live index broadcast
  rw [heq]

@[simp] theorem setBroadcast_sent (live : RealtimeServer) (index : Nat) (broadcast : Broadcast) :
    (live.setBroadcast index broadcast).sent = live.sent := by
  obtain ⟨broadcasts, observations, heq⟩ := setBroadcast_eq live index broadcast
  rw [heq]

@[simp] theorem payloadOf_setBroadcast (live : RealtimeServer) (index : Nat) (broadcast : Broadcast) (matchId : String)
    (subscription : MatchWebSocketSubscription) :
    (live.setBroadcast index broadcast).payloadOf matchId subscription = live.payloadOf matchId subscription := by
  unfold payloadOf
  rw [setBroadcast_toGuidedServer]

theorem mem_setBroadcast {index : Nat} {broadcast other : Broadcast}
    (h : other ∈ (live.setBroadcast index broadcast).broadcasts) :
    other = broadcast ∧ broadcast.fanout.isDone = false ∨ other ∈ live.broadcasts := by
  unfold setBroadcast at h
  split at h
  · exact Or.inr (List.mem_of_mem_eraseIdx h)
  · rename_i hrunning
    exact (List.mem_or_eq_of_mem_set h).symm.imp (fun hsame => ⟨hsame, Bool.eq_false_of_not_eq_true hrunning⟩) id

/-- The other broadcasts go on. -/
theorem eq_or_mem_setBroadcast {index : Nat} {broadcast broadcast' other : Broadcast}
    (hbroadcast : live.broadcasts[index]? = some broadcast) (h : other ∈ live.broadcasts) :
    other = broadcast ∨ other ∈ (live.setBroadcast index broadcast').broadcasts := by
  unfold setBroadcast
  split
  · exact Fanout.eq_or_mem_eraseIdx hbroadcast h
  · obtain ⟨n, hn⟩ := List.mem_iff_getElem?.1 h
    by_cases hindex : n = index
    · exact Or.inl (Option.some.inj (hn.symm.trans (hindex ▸ hbroadcast)))
    · exact Or.inr (List.mem_iff_getElem?.2 ⟨n, (List.getElem?_set_ne (Ne.symm hindex)).trans hn⟩)

/-- A broadcast goes on as long as a task of it has not ended. -/
theorem mem_setBroadcast_self {index : Nat} {broadcast broadcast' : Broadcast} {subscription : MatchWebSocketSubscription}
    (hbroadcast : live.broadcasts[index]? = some broadcast) (hattends : broadcast'.fanout.Attends subscription) :
    broadcast' ∈ (live.setBroadcast index broadcast').broadcasts := by
  obtain ⟨hindex, -⟩ := List.getElem?_eq_some_iff.1 hbroadcast
  unfold setBroadcast
  split
  · rename_i hdone
    exact absurd hattends (Fanout.not_attends_of_isDone hdone)
  · exact List.mem_set hindex broadcast'

theorem get?_setStage (live : RealtimeServer) (websocket : String) (handler : SocketHandler) (stage : HandlerStage)
    (other : String) : (live.setStage websocket handler stage).handlers.get? other =
      if other = websocket then some { handler with stage } else live.handlers.get? other := OrdDict.get?_insert _ _ _ _

/-- The stages of a handler follow one another. -/
inductive StageStep : HandlerStage → HandlerStage → Prop
  | stay (stage : HandlerStage) : StageStep stage stage
  | greet : StageStep .accepted .greeted
  | listen : StageStep .greeted .listening
  | close (stage : HandlerStage) : StageStep stage .closed

/-- A handler keeps all but its stage. -/
theorem handlers_kept (heffect : RealtimeEffect hashApiKey variant live event next) {websocket : String}
    {handler : SocketHandler} (hhandler : live.handlers.get? websocket = some handler) :
    ∃ stage, StageStep handler.stage stage ∧ next.handlers.get? websocket = some { handler with stage } := by
  have hstay : ∀ reached : RealtimeServer, reached.handlers = live.handlers →
      ∃ stage, StageStep handler.stage stage ∧ reached.handlers.get? websocket = some { handler with stage } := by
    intro reached hsame
    rw [hsame]
    exact ⟨handler.stage, .stay _, hhandler⟩
  have hstaged : ∀ other found stage, live.handlers.get? other = some found → StageStep found.stage stage →
      ∃ stage', StageStep handler.stage stage' ∧
        (live.setStage other found stage).handlers.get? websocket = some { handler with stage := stage' } := by
    intro other found stage hfound hstep
    rw [get?_setStage]
    split
    · rename_i hsame
      subst hsame
      obtain rfl := Option.some.inj (hfound.symm.trans hhandler)
      exact ⟨stage, hstep, rfl⟩
    · exact ⟨handler.stage, .stay _, hhandler⟩
  cases heffect with
  | idle => exact hstay _ rfl
  | served hrunning hsilent => exact hstay _ rfl
  | announced hrunning hannounced =>
      refine hstay _ ?_
      unfold broadcastCurrentMatch
      dsimp only
      split
      · rfl
      · rfl
  | restarted hrestart =>
      refine ⟨.closed, .close _, ?_⟩
      change (live.handlers.mapVals _).get? websocket = _
      rw [OrdDict.get?_mapVals, hhandler]
      rfl
  | @connected other matchId viewer playerId humanUserId resolved viewerRole hfresh hviewer =>
      refine ⟨handler.stage, .stay _, ?_⟩
      have hother : websocket ≠ other := fun hsame => hfresh (hsame ▸ OrdDict.mem_keys_of_get? hhandler)
      exact (OrdDict.get?_insert _ _ _ _).trans ((if_neg hother).trans hhandler)
  | greeted hfound hstage hpayload => exact hstaged _ _ _ hfound (hstage ▸ .greet)
  | listening hfound hstage => exact hstaged _ _ _ hfound (hstage ▸ .listen)
  | closed hfound => exact hstaged _ _ _ hfound (.close _)
  | launched hbroadcast htask hpayload => exact hstay _ (setBroadcast_handlers _ _ _)
  | raised hbroadcast htask hpayload => exact hstay _ (setBroadcast_handlers _ _ _)
  | finished hbroadcast htask => exact hstay _ (setBroadcast_handlers _ _ _)

/-! #### Steps -/

theorem Seated.kept {db db' : Database} {handler : SocketHandler} (h : Seated hashApiKey db handler)
    (hgrown : SeatsGrow hashApiKey db db') (stage : HandlerStage) : Seated hashApiKey db' { handler with stage } := by
  rcases h with hspectates | ⟨hrole, userId, playerId, huser, hplayer, hsits⟩
  · exact Or.inl hspectates
  · exact Or.inr ⟨hrole, userId, playerId, huser, hplayer, hsits.of_subset (hgrown.seats handler.matchId)⟩

theorem Wired.served (h : live.Wired hashApiKey) {request : ApiEvent} (hrunning : request.isHydrate = false) :
    Wired hashApiKey { live with toGuidedServer := apiStep hashApiKey variant live.toGuidedServer request } where
  healthy := h.healthy.step request
  seated := fun websocket handler hhandler =>
    (h.seated websocket handler hhandler).kept (seatsGrow_apiStep h.healthy.knows request) handler.stage
  held := fun websocket handler hhandler hopen => getMatch_kept hrunning (h.held websocket handler hhandler hopen)
  registered := h.registered
  attended := fun broadcast hbroadcast =>
    ⟨getMatch_kept hrunning (h.attended broadcast hbroadcast).1, (h.attended broadcast hbroadcast).2⟩
  unraised := h.unraised

theorem Wired.announced (h : live.Wired hashApiKey) (matchId : String) : (live.broadcastCurrentMatch matchId).Wired hashApiKey := by
  unfold broadcastCurrentMatch
  dsimp only
  split
  · exact h
  · rename_i hsome
    refine ⟨h.healthy, h.seated, h.held, h.registered, ?_, ?_⟩
    · intro broadcast hbroadcast
      rcases List.mem_append.1 hbroadcast with hold | hnew
      · exact h.attended broadcast hold
      · obtain rfl := List.mem_singleton.1 hnew
        obtain ⟨subscription, hsubscription⟩ := List.exists_mem_of_ne_nil _ hsome
        refine ⟨h.there hsubscription, ?_⟩
        intro attending hattends
        rcases hattends with hunstarted | ⟨payload, hbuilt⟩
        · exact (h.registered matchId attending hunstarted).1
        · cases hbuilt
    · intro broadcast hbroadcast
      rcases List.mem_append.1 hbroadcast with hold | hnew
      · exact h.unraised broadcast hold
      · obtain rfl := List.mem_singleton.1 hnew
        exact ⟨rfl, Fanout.fair_start _ _⟩

theorem Wired.restarted (h : live.Wired hashApiKey) {server : GuidedServer} (hhealthy : server.Healthy hashApiKey)
    (hgrown : SeatsGrow hashApiKey live.database server.database) :
    (RealtimeServer.restarted { live with toGuidedServer := server }).Wired hashApiKey := by
  have hclosed : ∀ websocket handler,
      (live.handlers.mapVals fun _ handler => { handler with stage := .closed }).get? websocket = some handler →
        ∃ before, live.handlers.get? websocket = some before ∧ { before with stage := .closed } = handler := by
    intro websocket handler hhandler
    rw [OrdDict.get?_mapVals] at hhandler
    exact Option.map_eq_some_iff.1 hhandler
  refine ⟨hhealthy, ?_, ?_, ?_, ?_, ?_⟩
  · intro websocket handler hhandler
    obtain ⟨before, hbefore, rfl⟩ := hclosed websocket handler hhandler
    exact (h.seated websocket before hbefore).kept hgrown .closed
  · intro websocket handler hhandler hopen
    obtain ⟨before, hbefore, rfl⟩ := hclosed websocket handler hhandler
    exact absurd rfl hopen
  · exact fun _ _ hsubscription => absurd hsubscription List.not_mem_nil
  · exact fun _ hbroadcast => absurd hbroadcast List.not_mem_nil
  · exact fun _ hbroadcast => absurd hbroadcast List.not_mem_nil

/-- A viewer that is let in is a spectator, or a human with the player's seat. -/
theorem resolveViewer_eq_ok (h : live.Wired hashApiKey) {matchId viewer : String} {playerId humanUserId resolved : Option String}
    {viewerRole : RealtimeViewerRole}
    (hviewer : live.resolveViewer variant matchId viewer playerId humanUserId = .ok (viewerRole, resolved)) :
    (live.registry.getMatch matchId).isSome ∧
      Seated hashApiKey live.database ⟨matchId, humanUserId, viewerRole, resolved, .accepted⟩ := by
  unfold resolveViewer at hviewer
  split at hviewer
  · cases hviewer
  · rename_i record hrecord
    refine ⟨hrecord ▸ rfl, ?_⟩
    split at hviewer
    · cases hviewer
      exact Or.inl ⟨rfl, rfl⟩
    · split at hviewer
      · obtain ⟨player, hplayer, heq⟩ := Except.map_eq_ok hviewer
        cases heq
        cases humanUserId with
        | none => cases hplayer
        | some userId =>
            have hplays : PlaysAs hashApiKey variant live.toServer matchId (.human userId) player := .viewer hplayer
            obtain ⟨occupant, hspeaks, hsits⟩ := hplays.sits h.healthy.knows
            obtain rfl : occupant = .human userId := hspeaks
            exact Or.inr ⟨rfl, userId, player, rfl, rfl, hsits⟩
      · cases hviewer

theorem Serves.kept (heffect : RealtimeEffect hashApiKey variant live event next) {matchId : String}
    {subscription : MatchWebSocketSubscription} (h : live.Serves matchId subscription) : next.Serves matchId subscription := by
  obtain ⟨handler, hhandler, hmatch, hsame⟩ := h
  obtain ⟨stage, -, hkept⟩ := handlers_kept heffect hhandler
  exact ⟨_, hkept, hmatch, hsame⟩

/-- A handler goes on to another stage. -/
theorem Wired.setStage (h : live.Wired hashApiKey) {websocket : String} {handler : SocketHandler}
    (hhandler : live.handlers.get? websocket = some handler) (stage : HandlerStage)
    (hopen : stage ≠ .closed → handler.stage ≠ .closed) {manager : MatchWebSocketManager}
    (hmanager : ∀ matchId, ∀ subscription ∈ manager.subscriptions matchId,
      subscription ∈ live.manager.subscriptions matchId ∧ subscription.websocket ≠ websocket ∨
        stage = .listening ∧ matchId = handler.matchId ∧ subscription = handler.subscription websocket) :
    Wired hashApiKey { live.setStage websocket handler stage with manager } := by
  have hserves : ∀ matchId subscription, live.Serves matchId subscription →
      Serves { live.setStage websocket handler stage with manager } matchId subscription := by
    intro matchId subscription hserves
    obtain ⟨found, hfound, hmatch, hsame⟩ := hserves
    by_cases hsocket : subscription.websocket = websocket
    · rw [hsocket] at hfound
      obtain rfl := Option.some.inj (hfound.symm.trans hhandler)
      exact ⟨_, (get?_setStage live websocket found stage _).trans (if_pos hsocket), hmatch, hsame⟩
    · exact ⟨found, (get?_setStage live websocket handler stage _).trans ((if_neg hsocket).trans hfound), hmatch, hsame⟩
  refine ⟨h.healthy, ?_, ?_, ?_, ?_, h.unraised⟩
  · intro other found hfound
    rw [show ({ live.setStage websocket handler stage with manager } : RealtimeServer).handlers.get? other = _ from
      get?_setStage live websocket handler stage other] at hfound
    split at hfound
    · cases hfound
      exact (h.seated websocket handler hhandler).kept (SeatsGrow.refl _) stage
    · exact h.seated other found hfound
  · intro other found hfound hstage
    rw [show ({ live.setStage websocket handler stage with manager } : RealtimeServer).handlers.get? other = _ from
      get?_setStage live websocket handler stage other] at hfound
    split at hfound
    · cases hfound
      exact h.held websocket handler hhandler (hopen hstage)
    · exact h.held other found hfound hstage
  · intro matchId subscription hsubscription
    rcases hmanager matchId subscription hsubscription with ⟨hold, hother⟩ | ⟨rfl, rfl, rfl⟩
    · obtain ⟨hserved, hstage⟩ := h.registered matchId subscription hold
      refine ⟨hserves _ _ hserved, ?_⟩
      intro found hfound
      rw [show ({ live.setStage websocket handler stage with manager } : RealtimeServer).handlers.get?
        subscription.websocket = _ from get?_setStage live websocket handler stage _, if_neg hother] at hfound
      exact hstage found hfound
    · have hself : ({ live.setStage websocket handler .listening with manager } : RealtimeServer).handlers.get? websocket =
          some { handler with stage := .listening } :=
        (get?_setStage live websocket handler .listening websocket).trans (if_pos rfl)
      refine ⟨⟨_, hself, rfl, rfl⟩, ?_⟩
      intro found hfound
      obtain rfl := Option.some.inj (hself.symm.trans hfound)
      rfl
  · intro broadcast hbroadcast
    obtain ⟨hthere, hattending⟩ := h.attended broadcast hbroadcast
    exact ⟨hthere, fun subscription hattends => hserves _ _ (hattending subscription hattends)⟩

/-- A broadcast goes on with tasks it had. -/
theorem Wired.setBroadcast (h : live.Wired hashApiKey) {index : Nat} {broadcast broadcast' : Broadcast}
    (hbroadcast : live.broadcasts[index]? = some broadcast) (hmatch : broadcast'.matchId = broadcast.matchId)
    (hattends : ∀ subscription, broadcast'.fanout.Attends subscription → broadcast.fanout.Attends subscription)
    (hraised : broadcast'.raised = false) (hfair : broadcast'.fanout.Fair) :
    (live.setBroadcast index broadcast').Wired hashApiKey := by
  have hmem := List.mem_of_getElem? hbroadcast
  have hset : ∀ other ∈ (live.setBroadcast index broadcast').broadcasts, other = broadcast' ∨ other ∈ live.broadcasts :=
    fun other hother => (mem_setBroadcast hother).imp And.left id
  obtain ⟨broadcasts, observations, heq⟩ := setBroadcast_eq live index broadcast'
  rw [heq] at hset ⊢
  refine ⟨h.healthy, h.seated, h.held, h.registered, ?_, ?_⟩
  · intro other hother
    rcases hset other hother with rfl | hold
    · rw [hmatch]
      exact ⟨(h.attended broadcast hmem).1, fun subscription hnow =>
        (h.attended broadcast hmem).2 subscription (hattends subscription hnow)⟩
    · exact h.attended other hold
  · intro other hother
    rcases hset other hother with rfl | hold
    · exact ⟨hraised, hfair⟩
    · exact h.unraised other hold

theorem Wired.step (h : live.Wired hashApiKey) (event : RealtimeEvent) :
    (realtimeStep hashApiKey variant live event).Wired hashApiKey := by
  have heffect : RealtimeEffect hashApiKey variant live event (realtimeStep hashApiKey variant live event) :=
    realtimeStep_effect live event
  generalize realtimeStep hashApiKey variant live event = next at heffect
  cases heffect with
  | idle => exact h
  | served hrunning hsilent => exact h.served hrunning
  | announced hrunning hannounced => exact (h.served hrunning).announced _
  | restarted hrestart => exact h.restarted (h.healthy.step _) (seatsGrow_apiStep h.healthy.knows _)
  | @connected websocket matchId viewer playerId humanUserId resolved viewerRole hfresh hviewer =>
      obtain ⟨hthere, hseated⟩ := resolveViewer_eq_ok h hviewer
      have hkept : ∀ other found, live.handlers.get? other = some found →
          (live.handlers.insert websocket ⟨matchId, humanUserId, viewerRole, resolved, .accepted⟩).get? other = some found := by
        intro other found hfound
        have hother : other ≠ websocket := fun hsame => hfresh (hsame ▸ OrdDict.mem_keys_of_get? hfound)
        rw [OrdDict.get?_insert, if_neg hother]
        exact hfound
      have hnew : ∀ other found,
          (live.handlers.insert websocket ⟨matchId, humanUserId, viewerRole, resolved, .accepted⟩).get? other = some found →
            found = ⟨matchId, humanUserId, viewerRole, resolved, .accepted⟩ ∨ live.handlers.get? other = some found := by
        intro other found hfound
        rw [OrdDict.get?_insert] at hfound
        split at hfound
        · exact Or.inl (Option.some.inj hfound).symm
        · exact Or.inr hfound
      refine ⟨h.healthy, ?_, ?_, ?_, ?_, h.unraised⟩
      · intro other found hfound
        rcases hnew other found hfound with rfl | hold
        · exact hseated
        · exact h.seated other found hold
      · intro other found hfound hopen
        rcases hnew other found hfound with rfl | hold
        · exact hthere
        · exact h.held other found hold hopen
      · intro id subscription hsubscription
        obtain ⟨⟨handler, hhandler, hmatch, hsame⟩, hstage⟩ := h.registered id subscription hsubscription
        refine ⟨⟨handler, hkept _ _ hhandler, hmatch, hsame⟩, ?_⟩
        intro found hfound
        obtain rfl := Option.some.inj ((hkept _ _ hhandler).symm.trans hfound)
        exact hstage handler hhandler
      · intro broadcast hbroadcast
        obtain ⟨hopen, hattending⟩ := h.attended broadcast hbroadcast
        refine ⟨hopen, fun subscription hattends => ?_⟩
        obtain ⟨handler, hhandler, hmatch, hsame⟩ := hattending subscription hattends
        exact ⟨handler, hkept _ _ hhandler, hmatch, hsame⟩
  | @greeted websocket handler payload hhandler hstage hpayload =>
      have hstaged : Wired hashApiKey { live.setStage websocket handler .greeted with manager := live.manager } := by
        refine h.setStage hhandler .greeted (by rw [hstage]; exact fun _ => nofun) ?_
        intro matchId subscription hsubscription
        refine Or.inl ⟨hsubscription, ?_⟩
        rintro rfl
        have hlistens := (h.registered matchId subscription hsubscription).2 handler hhandler
        rw [hstage] at hlistens
        cases hlistens
      exact ⟨hstaged.healthy, hstaged.seated, hstaged.held, hstaged.registered, hstaged.attended, hstaged.unraised⟩
  | @listening websocket handler hhandler hstage =>
      refine h.setStage hhandler .listening (by rw [hstage]; exact fun _ => nofun) ?_
      intro matchId subscription hsubscription
      have hold : ∀ id, subscription ∈ live.manager.subscriptions id → subscription.websocket ≠ websocket := by
        rintro id hmem rfl
        have hlistens := (h.registered id subscription hmem).2 handler hhandler
        rw [hstage] at hlistens
        cases hlistens
      rw [MatchWebSocketManager.subscriptions_register] at hsubscription
      split at hsubscription
      · rename_i hid
        rcases List.mem_append.1 hsubscription with hmem | hnew
        · exact Or.inl ⟨hid ▸ hmem, hold _ hmem⟩
        · exact Or.inr ⟨rfl, hid, List.mem_singleton.1 hnew⟩
      · exact Or.inl ⟨hsubscription, hold _ hsubscription⟩
  | @closed _ websocket handler hhandler =>
      refine h.setStage hhandler .closed (fun hopen => absurd rfl hopen) ?_
      intro matchId subscription hsubscription
      obtain ⟨hmem, hother⟩ := MatchWebSocketManager.mem_subscriptions_of_unregister hsubscription
      refine Or.inl ⟨hmem, ?_⟩
      by_cases hid : matchId = handler.matchId
      · exact hother hid
      · rintro rfl
        obtain ⟨⟨found, hfound, hmatch, -⟩, -⟩ := h.registered matchId subscription hmem
        obtain rfl := Option.some.inj (hfound.symm.trans hhandler)
        exact absurd hmatch.symm hid
  | @launched index task broadcast subscription payload hbroadcast htask hpayload =>
      obtain ⟨hraised, hfair⟩ := h.unraised broadcast (List.mem_of_getElem? hbroadcast)
      refine h.setBroadcast hbroadcast rfl ?_ hraised (hfair.launch _ _)
      intro attending hattends
      rcases hattends with hunstarted | ⟨built, hbuilt⟩
      · exact Or.inl (List.mem_of_mem_eraseIdx hunstarted)
      · rcases Fanout.mem_built_launch.1 hbuilt with hnew | hold
        · cases hnew
          exact Or.inl (List.mem_of_getElem? htask)
        · exact Or.inr ⟨built, hold⟩
  | @raised index task broadcast subscription error hbroadcast htask hpayload =>
      obtain ⟨payload, hbuilt⟩ := h.builds hbroadcast htask
      cases hpayload.symm.trans hbuilt
  | @finished index task delivered reached broadcast subscription payload hbroadcast htask =>
      obtain ⟨hraised, hfair⟩ := h.unraised broadcast (List.mem_of_getElem? hbroadcast)
      have hset : (live.setBroadcast index { broadcast with fanout := broadcast.fanout.finish task delivered }).Wired
          hashApiKey := by
        refine h.setBroadcast hbroadcast rfl ?_ hraised (hfair.finish _ _)
        intro attending hattends
        rcases hattends with hunstarted | ⟨built, hbuilt⟩
        · exact Or.inl hunstarted
        · exact Or.inr ⟨built, Fanout.mem_built_of_finish hbuilt⟩
      refine ⟨hset.healthy, hset.seated, hset.held, ?_, hset.attended, hset.unraised⟩
      intro matchId attending hattending
      obtain ⟨broadcasts, observations, heq⟩ := setBroadcast_eq live index
        { broadcast with fanout := broadcast.fanout.finish task delivered }
      rw [heq] at hattending ⊢
      refine h.registered matchId attending ?_
      cases delivered with
      | true => exact hattending
      | false => exact (MatchWebSocketManager.mem_subscriptions_of_unregister hattending).1

theorem Wired.run (h : live.Wired hashApiKey) (events : List RealtimeEvent) :
    ∀ reached ∈ Run.states (realtimeStep hashApiKey variant) live events, reached.Wired hashApiKey :=
  Run.invariant (I := fun reached : RealtimeServer => reached.Wired hashApiKey) (fun _ event hwired => hwired.step event) h events

end RealtimeServer

end IronCouncil
