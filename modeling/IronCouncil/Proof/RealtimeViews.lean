import IronCouncil.Proof.RealtimeSteps

/-!
# What a socket is shown

Whatever is asked of the server, and however handshakes, broadcasts and failing sends interleave, a socket is sent its match as it stood at some moment since the handshake, as the viewer that the handshake was for. A player's view goes to the sockets of the human that plays as the player, and to nobody else's.
-/

namespace IronCouncil

namespace RealtimeServer

section Views

variable {hashApiKey : String → String} {variant : StorageVariant} {live next : RealtimeServer} {event : RealtimeEvent}
  {websocket : String} {payload : MatchRealtimePayload}

/-- The payload was sent to the socket, or was built for it. -/
def Carries (live : RealtimeServer) (websocket : String) (payload : MatchRealtimePayload) : Prop :=
  (websocket, payload) ∈ live.sent ∨ ∃ broadcast ∈ live.broadcasts, ∃ subscription, subscription.websocket = websocket ∧
    (subscription, payload) ∈ broadcast.fanout.built

/-- The payload is what the handler of the socket shows at the moment. -/
def Shows (live : RealtimeServer) (websocket : String) (payload : MatchRealtimePayload) : Prop :=
  ∃ handler, live.handlers.get? websocket = some handler ∧
    live.payloadOf handler.matchId (handler.subscription websocket) = .ok payload

theorem NoSockets.not_carries (h : live.NoSockets) : ¬ live.Carries websocket payload := by
  intro hcarries
  rcases hcarries with hsent | ⟨broadcast, hbroadcast, -⟩
  · rw [h.sent] at hsent
    cases hsent
  · rw [h.broadcasts] at hbroadcast
    cases hbroadcast

/-- What a broadcast that goes on has built it had built before, but for a new payload. -/
theorem carries_setBroadcast {index : Nat} {broadcast broadcast' : Broadcast}
    (hbroadcast : live.broadcasts[index]? = some broadcast)
    (hbuilt : ∀ task ∈ broadcast'.fanout.built, task ∈ broadcast.fanout.built ∨ live.Shows task.1.websocket task.2)
    (h : (live.setBroadcast index broadcast').Carries websocket payload) :
    live.Carries websocket payload ∨ live.Shows websocket payload := by
  rcases h with hsent | ⟨other, hother, subscription, rfl, htask⟩
  · rw [setBroadcast_sent] at hsent
    exact Or.inl (Or.inl hsent)
  · rcases mem_setBroadcast hother with ⟨rfl, -⟩ | hold
    · rcases hbuilt _ htask with hearlier | hnew
      · exact Or.inl (Or.inr ⟨broadcast, List.mem_of_getElem? hbroadcast, subscription, rfl, hearlier⟩)
      · exact Or.inr hnew
    · exact Or.inl (Or.inr ⟨other, hold, subscription, rfl, htask⟩)

/-- A payload is built as its socket's handler shows it. -/
theorem carries_step (h : live.Wired hashApiKey) (event : RealtimeEvent)
    (hcarries : (realtimeStep hashApiKey variant live event).Carries websocket payload) :
    live.Carries websocket payload ∨ live.Shows websocket payload := by
  have heffect : RealtimeEffect hashApiKey variant live event (realtimeStep hashApiKey variant live event) :=
    realtimeStep_effect live event
  generalize realtimeStep hashApiKey variant live event = next at heffect hcarries
  cases heffect with
  | idle => exact Or.inl hcarries
  | served hrunning hsilent => exact Or.inl hcarries
  | announced hrunning hannounced =>
      unfold broadcastCurrentMatch at hcarries
      dsimp only at hcarries
      split at hcarries
      · exact Or.inl hcarries
      · rcases hcarries with hsent | ⟨broadcast, hbroadcast, subscription, hsocket, hbuilt⟩
        · exact Or.inl (Or.inl hsent)
        · rcases List.mem_append.1 hbroadcast with hold | hnew
          · exact Or.inl (Or.inr ⟨broadcast, hold, subscription, hsocket, hbuilt⟩)
          · obtain rfl := List.mem_singleton.1 hnew
            cases hbuilt
  | restarted hrestart =>
      rcases hcarries with hsent | ⟨broadcast, hbroadcast, -⟩
      · exact Or.inl (Or.inl hsent)
      · cases hbroadcast
  | connected hfresh hviewer => exact Or.inl hcarries
  | greeted hhandler hstage hpayload =>
      rcases hcarries with hsent | hbuilt
      · rcases List.mem_append.1 hsent with hold | hnew
        · exact Or.inl (Or.inl hold)
        · cases List.mem_singleton.1 hnew
          exact Or.inr ⟨_, hhandler, hpayload⟩
      · exact Or.inl (Or.inr hbuilt)
  | listening hhandler hstage => exact Or.inl hcarries
  | closed hhandler => exact Or.inl hcarries
  | @launched index task broadcast subscription built hbroadcast htask hpayload =>
      refine carries_setBroadcast hbroadcast ?_ hcarries
      intro ready hready
      rcases Fanout.mem_built_launch.1 hready with rfl | hold
      · obtain ⟨handler, hhandler, hmatch, hsame⟩ := (h.attended broadcast (List.mem_of_getElem? hbroadcast)).2 subscription
          (Or.inl (List.mem_of_getElem? htask))
        refine Or.inr ⟨handler, hhandler, ?_⟩
        rw [hmatch]
        exact (congrArg (live.payloadOf broadcast.matchId) hsame).trans hpayload
      · exact Or.inl hold
  | @raised index task broadcast subscription error hbroadcast htask hpayload =>
      refine carries_setBroadcast hbroadcast ?_ hcarries
      exact fun _ hready => Or.inl hready
  | @finished index task delivered reached broadcast subscription built hbroadcast htask =>
      have hset : (live.setBroadcast index { broadcast with fanout := broadcast.fanout.finish task delivered }).Carries
          websocket payload ∨ live.Carries websocket payload := by
        rcases hcarries with hsent | ⟨other, hother, rest⟩
        · refine Or.inr ?_
          dsimp only at hsent
          split at hsent
          · rcases List.mem_append.1 hsent with hold | hnew
            · exact Or.inl hold
            · cases List.mem_singleton.1 hnew
              exact Or.inr ⟨broadcast, List.mem_of_getElem? hbroadcast, subscription, rfl,
                Fanout.mem_built.2 (Or.inr (List.mem_of_getElem? htask))⟩
          · exact Or.inl hsent
        · exact Or.inl (Or.inr ⟨other, hother, rest⟩)
      rcases hset with hset | hold
      · exact carries_setBroadcast hbroadcast (fun _ hready => Or.inl (Fanout.mem_built_of_finish hready)) hset
      · exact Or.inl hold

theorem payloadOf_eq_ok {matchId : String} {subscription : MatchWebSocketSubscription}
    (h : live.payloadOf matchId subscription = .ok payload) :
    payload.matchId = matchId ∧ payload.viewerRole = subscription.viewerRole ∧ payload.playerId = subscription.playerId := by
  unfold payloadOf buildMatchRealtimeEnvelope at h
  split at h
  · cases h
  · split at h
    · rename_i hrole
      dsimp only at h
      split at h
      · cases h
      · cases h
        exact ⟨rfl, hrole.symm ▸ rfl, rfl⟩
    · rename_i hrole
      cases h
      exact ⟨rfl, hrole.symm ▸ rfl, rfl⟩

theorem handlers_run (live : RealtimeServer) (events : List RealtimeEvent) {handler : SocketHandler}
    (hhandler : live.handlers.get? websocket = some handler) :
    ∃ stage, (events.foldl (realtimeStep hashApiKey variant) live).handlers.get? websocket =
      some { handler with stage } := by
  refine Run.invariant_foldl (I := fun reached : RealtimeServer => ∃ stage, reached.handlers.get? websocket =
    some { handler with stage }) ?_ ⟨handler.stage, hhandler⟩ events
  intro reached event hreached
  obtain ⟨stage, hfound⟩ := hreached
  obtain ⟨stage', -, hkept⟩ := handlers_kept (realtimeStep_effect reached event) hfound
  exact ⟨stage', hkept⟩

/-- From a server without matches or sockets, whatever is asked of it and however its sockets fare: what a socket was sent is its match as it stood at some moment since its handshake, for the viewer of the handshake, and whoever plays as the player of a view that was sent is the human with whose token the socket was opened. -/
theorem sockets_show_their_caller (hempty : live.HoldsNoMatch) (hnone : live.registry = .empty) (hquiet : live.NoSockets)
    (events : List RealtimeEvent)
    (hsent : (websocket, payload) ∈ (events.foldl (realtimeStep hashApiKey variant) live).sent) :
    ∃ handler, (events.foldl (realtimeStep hashApiKey variant) live).handlers.get? websocket = some handler ∧
      (∃ shown ∈ Run.states (realtimeStep hashApiKey variant) live events, ∃ stage,
        shown.handlers.get? websocket = some { handler with stage } ∧
          shown.payloadOf handler.matchId (handler.subscription websocket) = .ok payload) ∧
      ∀ playerId actor, payload.playerId = some playerId →
        PlaysAs hashApiKey variant (events.foldl (realtimeStep hashApiKey variant) live).toServer handler.matchId actor
          playerId → ∃ userId, handler.humanUserId = some userId ∧ actor = .human userId := by
  have hwired : ∀ before : List RealtimeEvent, (before.foldl (realtimeStep hashApiKey variant) live).Wired hashApiKey :=
    fun before => (hquiet.wired (hempty.healthy hnone)).run before _ (Run.foldl_mem_states _ _)
  have horigin := Run.origin_foldl (I := fun reached : RealtimeServer => reached.Carries websocket payload)
    (C := fun reached _ => reached.Wired hashApiKey → reached.Shows websocket payload) ?_ (Or.inl hsent)
  · rcases horigin with halways | ⟨before, event, after, rfl, hbrought, -⟩
    · exact absurd (halways live (Run.mem_states_self _ _)) hquiet.not_carries
    · obtain ⟨handler, hhandler, hpayload⟩ := hbrought (hwired before)
      have hkept : ∃ stage, ((before ++ event :: after).foldl (realtimeStep hashApiKey variant) live).handlers.get? websocket =
          some { handler with stage } := by
        rw [List.foldl_append]
        exact handlers_run _ (event :: after) hhandler
      obtain ⟨stage, hlast⟩ := hkept
      refine ⟨_, hlast, ⟨_, Run.mem_states.2 ⟨before, event :: after, rfl, rfl⟩, handler.stage, hhandler, hpayload⟩, ?_⟩
      intro playerId actor hplayer hplays
      have hwire := hwired (before ++ event :: after)
      have hviewer : handler.playerId = some playerId := (payloadOf_eq_ok hpayload).2.2.symm.trans hplayer
      obtain ⟨occupant, hspeaks, hsits⟩ := hplays.sits hwire.healthy.knows
      rcases hwire.seated websocket _ hlast with ⟨-, hspectates⟩ | ⟨-, userId, seat, huser, hseat, hhuman⟩
      · cases hspectates.symm.trans hviewer
      · obtain rfl := Option.some.inj (hseat.symm.trans hviewer)
        obtain rfl := (Sits.eq_iff hwire.healthy.knows.seats hsits hhuman).2 rfl
        have hspoken : Speaks hashApiKey ((before ++ event :: after).foldl (realtimeStep hashApiKey variant) live).database
            (.human userId) (.human userId) := rfl
        exact ⟨userId, huser, (hspeaks.eq_iff hspoken).2 rfl⟩
  · intro reached event hcarries
    by_cases hreached : reached.Wired hashApiKey
    · exact (carries_step hreached event hcarries).imp id fun hshows _ => hshows
    · exact Or.inr fun hwired => absurd hwired hreached

end Views

end RealtimeServer

/-! ### A guest's socket -/

def realtimeDeployment : RealtimeServer :=
  { guidedDeployment with
    manager := .empty 16
    handlers := OrdDict.empty
    broadcasts := []
    sent := []
    observations := [] }

theorem realtimeDeployment_noSockets : realtimeDeployment.NoSockets := ⟨fun _ => rfl, rfl, rfl, rfl⟩

def guestSocket : String := "guest"

/-- The guest joins the match, and watches it as its player. -/
def guestWatches : List RealtimeEvent :=
  (agentLobby ++ guestEnters).map RealtimeEvent.api ++
    [.connect guestSocket deploymentMatchId "player" none (some deploymentGuest), .greet guestSocket, .listen guestSocket]

def watchedMatch : RealtimeServer := guestWatches.foldl (realtimeStep deploymentHash .sqlite) realtimeDeployment

theorem sockets_show_their_caller_guest :
    ∃ payload, (guestSocket, payload) ∈ watchedMatch.sent ∧ ∀ actor,
      PlaysAs deploymentHash .sqlite watchedMatch.toServer deploymentMatchId actor (canonicalPlayerId 2) →
        actor = .human deploymentGuest := by
  have hsent : watchedMatch.sent.map (fun entry => (entry.1, entry.2.playerId)) =
      [(guestSocket, some (canonicalPlayerId 2))] := by decide +kernel
  have hhandler : (watchedMatch.handlers.get? guestSocket).map (fun handler => (handler.matchId, handler.humanUserId)) =
      some (deploymentMatchId, some deploymentGuest) := by decide +kernel
  obtain ⟨entry, hentry, hplayer⟩ := List.mem_map.1 (hsent.symm ▸ List.mem_singleton_self _ :
    (guestSocket, some (canonicalPlayerId 2)) ∈ watchedMatch.sent.map fun entry => (entry.1, entry.2.playerId))
  obtain ⟨socket, payload⟩ := entry
  obtain ⟨rfl, hviewer⟩ := Prod.mk.inj hplayer
  refine ⟨payload, hentry, ?_⟩
  intro actor hplays
  obtain ⟨handler, hfound, -, hcaller⟩ := RealtimeServer.sockets_show_their_caller deployment_holdsNoMatch rfl
    realtimeDeployment_noSockets guestWatches hentry
  have hsame : (watchedMatch.handlers.get? guestSocket) = some handler := hfound
  rw [hsame, Option.map_some, Option.some.injEq, Prod.mk.injEq] at hhandler
  obtain ⟨hmatch, huser⟩ := hhandler
  rw [← hmatch, watchedMatch] at hplays
  obtain ⟨userId, hguest, hactor⟩ := hcaller (canonicalPlayerId 2) actor hviewer hplays
  rw [hactor, Option.some.inj (hguest.symm.trans huser)]

end IronCouncil
