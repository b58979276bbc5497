import IronCouncil.Proof.SeatReads

/-!
# Guidance reaches its agent

What an owner advises is kept, and the briefings of the agent hold it from then on. No other briefing does: a guidance is for a seat, a seat is an agent's, and an agent has one key.
-/

namespace IronCouncil

/-! ### What a briefing holds -/

section Briefings

variable {hashApiKey : String → String} {variant : StorageVariant} {server : Server} {guided next : GuidedServer}
  {matchId : String}

theorem projectState_eq_ok {record : MatchRecord} {playerId : String} {state : AgentStateProjection}
    (h : projectState record playerId matchId = .ok state) : state.tick = record.state.tick ∧ state.playerId = playerId := by
  unfold projectState projectAgentState at h
  split at h
  · cases h
  · dsimp only at h
    split at h
    · cases h
    · cases h
      exact ⟨rfl, rfl⟩

theorem getAgentBriefing_eq_ok {apiKey : Option String} {sinceTick : Option Nat} {briefing : AgentBriefingResponse}
    (h : guided.getAgentBriefing hashApiKey variant apiKey matchId sinceTick = .ok briefing) :
    ∃ agent record guidance, guided.getAuthenticatedAgent hashApiKey apiKey = .ok agent ∧
      guided.registry.getMatch matchId = some record ∧
      guided.requireJoinedPlayerId matchId agent = .ok briefing.playerId ∧
      guided.guidanceOfOwner hashApiKey variant matchId briefing.playerId agent.agentId apiKey = .ok guidance ∧
      briefing.guidance = (guidance.filter fun entry => isSince sinceTick entry.tick).map (guidanceRecord briefing.playerId) ∧
      briefing.messages = listBriefingMessages (some record) briefing.playerId sinceTick ∧
      briefing.state.tick = record.state.tick := by
  unfold GuidedServer.getAgentBriefing at h
  split at h
  · cases h
  · rename_i agent hagent
    split at h
    · cases h
    · rename_i record hrecord
      split at h
      · cases h
      · rename_i playerId hplayer
        split at h
        · cases h
        · rename_i guidance hguidance
          obtain ⟨state, hstate, rfl⟩ := Except.map_eq_ok h
          exact ⟨agent, record, guidance, hagent, hrecord, hplayer, hguidance, rfl, rfl, (projectState_eq_ok hstate).1⟩

theorem postOwnedAgentGuidance_eq_ok {request : OwnerRequest} {content : String} {row : OwnedAgentGuidanceRow}
    (h : guided.postOwnedAgentGuidance hashApiKey variant request content = .ok (next, row)) :
    ∃ seat guidance, guided.requireOwnedAgentMatchPlayer hashApiKey variant request.humanUserId request.matchId
        request.agentId = .ok seat ∧
      row = GuidedServer.guidanceRow request seat content ∧ sessionAdd guided.guidance row = .ok guidance ∧
      next = { guided with guidance } := by
  unfold GuidedServer.postOwnedAgentGuidance at h
  split at h
  · cases h
  · rename_i record seat hseat
    split at h
    · cases h
    · split at h
      · cases h
      · rename_i guidance hadd
        cases h
        exact ⟨seat, guidance, (requireOwnedSeat_eq_ok hseat).2, rfl, hadd, rfl⟩

theorem guidanceOfOwner_eq_ok {playerId agentId : String} {apiKey : Option String} {guidance : List OwnedAgentGuidanceRow}
    (h : guided.guidanceOfOwner hashApiKey variant matchId playerId agentId apiKey = .ok guidance) :
    (guided.resolveAuthenticatedAgentOwnerUserId hashApiKey apiKey = none ∧ guidance = []) ∨
      ∃ ownerUserId persistedPlayerId,
        guided.resolveAuthenticatedAgentOwnerUserId hashApiKey apiKey = some ownerUserId ∧
        resolvePersistedMatchPlayerId variant guided.database matchId playerId = .ok (some persistedPlayerId) ∧
        guidance = guided.listOwnedAgentGuidance matchId ownerUserId persistedPlayerId := by
  unfold GuidedServer.guidanceOfOwner at h
  split at h
  · rename_i hnone
    cases h
    exact Or.inl ⟨hnone, rfl⟩
  · rename_i ownerUserId howner
    obtain ⟨persistedPlayerId, hpersisted, rfl⟩ := Except.map_eq_ok h
    unfold Server.requirePersistedMatchPlayerId at hpersisted
    split at hpersisted
    · cases hpersisted
    · cases hpersisted
    · rename_i found hfound
      cases hpersisted
      exact Or.inr ⟨ownerUserId, persistedPlayerId, howner, hfound, rfl⟩

theorem mem_listOwnedAgentGuidance {ownerUserId agentPlayerId : String} {row : OwnedAgentGuidanceRow} :
    row ∈ guided.listOwnedAgentGuidance matchId ownerUserId agentPlayerId ↔
      row ∈ guided.guidance.rows ∧ row.matchId = matchId ∧ row.ownerUserId = ownerUserId ∧
        row.agentPlayerId = agentPlayerId := by
  unfold GuidedServer.listOwnedAgentGuidance
  rw [List.mem_insertionSort, List.mem_filter, decide_eq_true_iff]

/-- A player and the row of its seat have the same number. -/
theorem Server.KnowsCallers.persisted_number (h : server.KnowsCallers hashApiKey) {playerId persistedPlayerId : String}
    (hpersisted : resolvePersistedMatchPlayerId variant server.database matchId playerId = .ok (some persistedPlayerId)) :
    ∃ i, playerId = canonicalPlayerId i ∧ persistedPlayerId = buildMatchScopedPlayerId matchId i := by
  obtain ⟨matchRow, hrow, hfound⟩ := map_loadMatchPlayers_eq_some hpersisted
  obtain rfl := Table.key_of_get? hrow
  obtain ⟨entry, hentry, rfl⟩ := Option.map_eq_some_iff.1 hfound
  have hplayer : entry.2 = playerId := by simpa using List.find?_some hentry
  have hmapped : (persistedPlayerMapping matchRow.state (server.database.playersOfMatch matchRow.id)).get? entry.1 =
      some entry.2 := OrdDict.get?_eq_some.2 (List.mem_of_find?_eq_some hentry)
  obtain ⟨k, n, -, hseated, -⟩ := h.seats.matchSeats matchRow.id matchRow hrow
  obtain ⟨player, hmem, hid, -⟩ := (get?_buildPersistedPlayerMapping hseated.scopedRows _ _).1 hmapped
  obtain ⟨i, -, -, hscoped⟩ := (hseated.rows player.id).1 (List.mem_map_of_mem hmem)
  refine ⟨i, ?_, hid.symm.trans hscoped⟩
  rw [hid] at hscoped
  rw [← hid] at hmapped hscoped
  exact hplayer.symm.trans (Option.some.inj (hmapped.symm.trans (h.mapped hrow hmem hscoped)))

end Briefings

/-! ### What is kept -/

/-- What a key is known by, and whose it is. -/
def ApiKeyRow.holding (row : ApiKeyRow) : String × String × String := (row.id, row.keyHash, row.userId)

/-- Every key is still there, and still its holder's. -/
def HoldersKept (db db' : Database) : Prop :=
  db.apiKeys.rows.map ApiKeyRow.holding ⊆ db'.apiKeys.rows.map ApiKeyRow.holding

section Kept

variable {hashApiKey : String → String} {variant : StorageVariant} {server : Server} {guided : GuidedServer}
  {db db' : Database}

theorem HoldersKept.of_eq (h : db'.apiKeys = db.apiKeys) : HoldersKept db db' := by
  unfold HoldersKept
  rw [h]
  exact List.Subset.refl _

theorem HoldersKept.of_holdings (h : db'.apiKeys.rows.map ApiKeyRow.holding = db.apiKeys.rows.map ApiKeyRow.holding) :
    HoldersKept db db' := by
  unfold HoldersKept
  rw [h]
  exact List.Subset.refl _

theorem holdings_updateApiKey (db : Database) (id : String) (f : ApiKeyRow → ApiKeyRow) (hid : ∀ row, (f row).id = row.id)
    (hhash : ∀ row, (f row).keyHash = row.keyHash) (huser : ∀ row, (f row).userId = row.userId) :
    (db.updateApiKey id f hid hhash).apiKeys.rows.map ApiKeyRow.holding = db.apiKeys.rows.map ApiKeyRow.holding := by
  change (db.apiKeys.rows.map fun row => if row.id = id then f row else row).map ApiKeyRow.holding = _
  rw [List.map_map]
  refine List.map_congr_left fun row _ => ?_
  dsimp only [Function.comp_apply]
  split
  · unfold ApiKeyRow.holding
    rw [hid, hhash, huser]
  · rfl

theorem holdersKept_setKeyElo (db : Database) (id : String) (elo : Int) : HoldersKept db (db.setKeyElo id elo) :=
  .of_holdings (holdings_updateApiKey db id (fun row => { row with eloRating := elo }) (fun _ => rfl) (fun _ => rfl)
    fun _ => rfl)

theorem holdersKept_deactivateKey (db : Database) (id : String) : HoldersKept db (db.deactivateKey id) :=
  .of_holdings (holdings_updateApiKey db id (fun row => { row with isActive := false }) (fun _ => rfl) (fun _ => rfl)
    fun _ => rfl)

theorem holdersKept_persist {newId : Nat → String} {settledAt : Nat} {advancedTick : AdvancedMatchTick}
    (h : persistAdvancedMatchTick variant newId settledAt db advancedTick = .ok db') : HoldersKept db db' := by
  obtain ⟨row, synced, ids, winnerAlliance, settled, -, hsync, -, hsettle, rfl⟩ := persistAdvancedMatchTick_eq_ok h
  obtain ⟨alliances, players, rfl, -⟩ := syncTerminalAllianceRows_eq_ok hsync
  rcases settleCompletedMatchIfNeeded_eq_ok hsettle with ⟨rfl, -⟩ | ⟨-, hsettled⟩
  · exact HoldersKept.of_eq rfl
  · obtain ⟨matchSettlements, outcome, -, -, -, hplayers⟩ := settleMatch_eq_ok hsettled
    have hkept : HoldersKept db settled := by
      refine Run.invariant_foldlM (I := fun reached => HoldersKept db reached) ?_ hplayers (HoldersKept.of_eq rfl)
      intro reached player reached' hstep hreached
      obtain ⟨playerMatchSettlements, -, rfl⟩ := settlePlayer_eq_ok hstep
      unfold recordKeyElo
      split
      · exact List.Subset.trans hreached (holdersKept_setKeyElo { reached with playerMatchSettlements } _ _)
      · exact hreached
    exact hkept

theorem holdersKept_serverStep (server : Server) (event : ServerEvent) :
    HoldersKept server.database (serverStep hashApiKey variant server event).database := by
  have heffect : ServerEffect hashApiKey variant server event (serverStep hashApiKey variant server event) :=
    serverStep_effect server event
  generalize serverStep hashApiKey variant server event = next at heffect
  cases heffect with
  | keyCreated hfresh hadd =>
      unfold HoldersKept
      rw [(Database.addApiKey_eq_ok hadd).2.1, List.map_append]
      exact List.subset_append_left _ _
  | keyRevoked hfound => exact holdersKept_deactivateKey _ _
  | lobbyCreated hcreate =>
      obtain ⟨state, creator, agent, matchRows, -, -, -, hadd, -⟩ := createMatchLobby_eq_ok hcreate
      obtain ⟨players, -, rfl⟩ := addPlayer_eq_ok hadd
      exact HoldersKept.of_eq rfl
  | joined hjoin =>
      obtain ⟨row, -, rfl | ⟨identity, joinIndex, -, hadd⟩, -⟩ := joinDbMatch_eq_ok hjoin
      · exact HoldersKept.of_eq rfl
      · obtain ⟨players, -, rfl⟩ := addPlayer_eq_ok hadd
        exact HoldersKept.of_eq rfl
  | started hstart =>
      obtain ⟨row, -, -, -, rfl, -⟩ := startMatchLobby_eq_ok hstart
      exact HoldersKept.of_eq rfl
  | ticked hrecord hactive htick hpersist => exact holdersKept_persist hpersist
  | _ => exact HoldersKept.of_eq rfl

/-- Keys keep their holders, and what was advised stays. -/
structure AdviceKept (guided guided' : GuidedServer) : Prop where
  holders : HoldersKept guided.database guided'.database
  guidance : guided.guidance.rows ⊆ guided'.guidance.rows

theorem adviceKept_apiStep (guided : GuidedServer) (event : ApiEvent) :
    AdviceKept guided (apiStep hashApiKey variant guided event) := by
  have heffect : ApiEffect hashApiKey variant guided event (apiStep hashApiKey variant guided event) :=
    apiStep_effect guided event
  generalize apiStep hashApiKey variant guided event = next at heffect
  cases heffect with
  | host event => exact ⟨holdersKept_serverStep guided.toServer event.1, List.Subset.refl _⟩
  | advised hrecord htick hseat hadd =>
      refine ⟨HoldersKept.of_eq rfl, ?_⟩
      rw [(sessionAdd_eq_ok hadd).2]
      exact List.subset_append_left _ _
  | _ => exact ⟨HoldersKept.of_eq rfl, List.Subset.refl _⟩

theorem adviceKept_run (guided : GuidedServer) (events : List ApiEvent) :
    ∀ reached ∈ Run.states (apiStep hashApiKey variant) guided events, AdviceKept guided reached := by
  refine Run.invariant (I := AdviceKept guided) ?_ ⟨HoldersKept.of_eq rfl, List.Subset.refl _⟩ events
  intro reached event hkept
  have hnext : AdviceKept reached (apiStep hashApiKey variant reached event) := adviceKept_apiStep reached event
  exact ⟨List.Subset.trans hkept.holders hnext.holders, List.Subset.trans hkept.guidance hnext.guidance⟩

/-- A hash is one key's, and a key is for one agent. -/
theorem HashesFor.unique {keyHash agentId agentId' : String} (h : HashesFor hashApiKey db keyHash agentId)
    (h' : HashesFor hashApiKey db keyHash agentId') : agentId = agentId' := by
  obtain ⟨key, hkey, hhash, hid⟩ := h
  obtain ⟨key', hkey', hhash', hid'⟩ := h'
  obtain rfl : key = key' := List.inj_on_of_nodup_map db.keyHashes_nodup hkey hkey' (hhash.trans hhash'.symm)
  exact hid.trans hid'.symm

/-- The user of an active key is the one who holds a key for its agent. -/
theorem HoldersKept.owner_eq {later : Server} (h : HoldersKept db later.database) {apiKey : String} {agentId userId ownerUserId : String}
    (hheld : ∃ held ∈ db.apiKeys.rows, held.userId = userId ∧ agentIdOfKey hashApiKey held = agentId)
    (hhashes : HashesFor hashApiKey later.database (hashApiKey apiKey) agentId)
    (howner : later.resolveAuthenticatedAgentOwnerUserId hashApiKey (some apiKey) = some ownerUserId) :
    ownerUserId = userId := by
  obtain ⟨held, hmem, rfl, hagent⟩ := hheld
  obtain ⟨held', hmem', hsame⟩ := List.mem_map.1 (h (List.mem_map_of_mem hmem))
  obtain ⟨key, hkey, hhash, hfor⟩ := hhashes
  have hid : held'.id = held.id := congrArg Prod.fst hsame
  have hhash' : held'.keyHash = held.keyHash := congrArg (fun holding => holding.2.1) hsame
  have huser : held'.userId = held.userId := congrArg (fun holding => holding.2.2) hsame
  have hagent' : agentIdOfKey hashApiKey held' = agentId := (agentIdOfKey_congr hashApiKey hid hhash').trans hagent
  obtain rfl : key = held' := agentIdOfKey_injOn hashApiKey later.database hkey hmem' (hfor.symm.trans hagent'.symm)
  obtain ⟨resolved, hresolved, rfl⟩ := Option.map_eq_some_iff.1 howner
  obtain ⟨found, hfound, hfoundHash, -, -, hholder, -⟩ := resolveAuthenticatedAgentFromDbKeyHash_eq_some _ hresolved
  obtain rfl : found = key :=
    List.inj_on_of_nodup_map later.database.keyHashes_nodup hfound hkey (hfoundHash.trans hhash.symm)
  exact hholder.trans huser

end Kept

/-! ### Delivery -/

section Delivery

variable {hashApiKey : String → String} {variant : StorageVariant} {guided : GuidedServer}

/-- A briefing holds what the owner of its key has written for the row of its player. -/
theorem mem_briefing_guidance_iff (h : guided.KnowsCallers hashApiKey) {apiKey : Option String} {matchId : String}
    {sinceTick : Option Nat} {briefing : AgentBriefingResponse}
    (hbriefing : guided.getAgentBriefing hashApiKey variant apiKey matchId sinceTick = .ok briefing)
    {row : OwnedAgentGuidanceRow} (hrow : row ∈ guided.guidance.rows) :
    guidanceRecord briefing.playerId row ∈ briefing.guidance ↔
      row.matchId = matchId ∧
        guided.resolveAuthenticatedAgentOwnerUserId hashApiKey apiKey = some row.ownerUserId ∧
        (∃ i, briefing.playerId = canonicalPlayerId i ∧ row.agentPlayerId = buildMatchScopedPlayerId matchId i) ∧
        isSince sinceTick row.tick = true := by
  obtain ⟨agent, record, guidance, -, -, -, hguidance, hlisted, -, -⟩ := getAgentBriefing_eq_ok hbriefing
  have hmem : guidanceRecord briefing.playerId row ∈ briefing.guidance ↔ row ∈ guidance ∧ isSince sinceTick row.tick = true := by
    rw [hlisted, List.mem_map]
    constructor
    · intro hentry
      obtain ⟨entry, hkept, hsame⟩ := hentry
      have hid : entry.id = row.id := congrArg AgentBriefingGuidanceRecord.guidanceId hsame
      obtain ⟨hentryRow, hsince⟩ := List.mem_filter.1 hkept
      have hstored : entry ∈ guided.guidance.rows := by
        rcases guidanceOfOwner_eq_ok hguidance with ⟨-, rfl⟩ | ⟨_, _, -, -, rfl⟩
        · exact absurd hentryRow List.not_mem_nil
        · exact (mem_listOwnedAgentGuidance.1 hentryRow).1
      obtain rfl := Table.eq_of_key hstored hrow hid
      exact ⟨hentryRow, hsince⟩
    · exact fun hkept => ⟨row, List.mem_filter.2 hkept, rfl⟩
  rw [hmem]
  rcases guidanceOfOwner_eq_ok hguidance with ⟨hnone, rfl⟩ | ⟨ownerUserId, persistedPlayerId, howner, hpersisted, rfl⟩
  · rw [hnone]
    exact iff_of_false (fun hkept => List.not_mem_nil hkept.1) fun hkept => absurd hkept.2.1 nofun
  · obtain ⟨i, hplayer, hscoped⟩ := h.persisted_number hpersisted
    rw [mem_listOwnedAgentGuidance, howner, Option.some.injEq, hplayer, hscoped]
    have hnumber : row.agentPlayerId = buildMatchScopedPlayerId matchId i ↔
        ∃ j, canonicalPlayerId i = canonicalPlayerId j ∧ row.agentPlayerId = buildMatchScopedPlayerId matchId j := by
      constructor
      · exact fun hsame => ⟨i, rfl, hsame⟩
      · intro hnumbered
        obtain ⟨j, hij, hsame⟩ := hnumbered
        obtain rfl : i = j := numberedName_injective _ hij
        exact hsame
    rw [← hnumber]
    constructor
    · exact fun hkept => ⟨hkept.1.2.1, hkept.1.2.2.1.symm, hkept.1.2.2.2, hkept.2⟩
    · exact fun hkept => ⟨⟨hrow, hkept.1, hkept.2.1.symm, hkept.2.2.1⟩, hkept.2.2.2⟩

/-- From a server without matches, whatever is asked of it: guidance that was accepted is in the briefings of its agent's active key, from its own tick on, and in no other briefing. -/
theorem guidance_delivered (hempty : guided.HoldsNoMatch) (hnone : guided.registry = .empty) (events : List ApiEvent) :
    ∀ reached ∈ Run.states (apiStep hashApiKey variant) guided events, ∀ request content next row,
      reached.postOwnedAgentGuidance hashApiKey variant request content = .ok (next, row) → ∀ more,
        ∀ later ∈ Run.states (apiStep hashApiKey variant) next more, ∀ apiKey matchId sinceTick briefing,
          later.getAgentBriefing hashApiKey variant (some apiKey) matchId sinceTick = .ok briefing →
            (⟨request.id, request.matchId, briefing.playerId, request.tick, content, request.createdAt⟩ ∈ briefing.guidance ↔
              matchId = request.matchId ∧ HashesFor hashApiKey later.database (hashApiKey apiKey) request.agentId ∧
                (later.resolveAuthenticatedAgentOwnerUserId hashApiKey (some apiKey)).isSome = true ∧
                isSince sinceTick request.tick = true) := by
  intro reached hreached request content next row hposted more later hlater apiKey matchId sinceTick briefing hbriefing
  obtain ⟨seat, guidance, hseat, rfl, hadd, rfl⟩ := postOwnedAgentGuidance_eq_ok hposted
  obtain ⟨-, howned, hjoined, hpersisted⟩ := requireOwnedAgentMatchPlayer_eq_ok hseat
  obtain ⟨hagent, hheld⟩ := resolveOwnedAgentContext_eq_some howned
  have hknows : reached.KnowsCallers hashApiKey := knowsCallers_run (hempty.knowsCallers hnone) events reached hreached
  have hadvised : ({ reached with guidance } : GuidedServer).KnowsCallers hashApiKey := hknows
  have hlaterKnows := knowsCallers_run hadvised more later hlater
  have hgrown := seatsGrow_run hadvised more later hlater
  have hkept : AdviceKept { reached with guidance } later := adviceKept_run _ more later hlater
  have hstored : GuidedServer.guidanceRow request seat content ∈ later.guidance.rows := by
    apply hkept.guidance
    rw [(sessionAdd_eq_ok hadd).2]
    exact List.mem_append_right _ (List.mem_singleton_self _)
  -- the agent's seat, and the row that the guidance is for
  have hsits : Sits hashApiKey later.database request.matchId (.agent request.agentId) seat.playerId :=
    (hagent ▸ hknows.sits_agent hjoined).of_subset (hgrown.seats request.matchId)
  obtain ⟨i, hplayer, hscoped⟩ := hknows.persisted_number hpersisted
  obtain ⟨agent, record, -, hauthenticated, -, hbriefed, -⟩ := getAgentBriefing_eq_ok hbriefing
  have hhashes := hlaterKnows.hashesFor (getAuthenticatedAgent_eq_ok hauthenticated)
  have hbriefedSits := hlaterKnows.sits_agent hbriefed
  refine (mem_briefing_guidance_iff hlaterKnows hbriefing hstored).trans ?_
  change request.matchId = matchId ∧ _ = some seat.userId ∧ (∃ j, _ ∧ seat.persistedPlayerId = _) ∧
    isSince sinceTick request.tick = true ↔ _
  constructor
  · intro hheard
    obtain ⟨rfl, howner, hnumbered, hsince⟩ := hheard
    obtain ⟨j, hbriefedPlayer, hrow⟩ := hnumbered
    obtain rfl : i = j := scoped_injective _ (hscoped.symm.trans hrow)
    have hsame : Occupant.agent agent.agentId = .agent request.agentId :=
      (Sits.eq_iff hlaterKnows.seats hbriefedSits hsits).2 (hbriefedPlayer.trans hplayer.symm)
    rw [← Occupant.agent.inj hsame, howner]
    exact ⟨rfl, hhashes, rfl, hsince⟩
  · intro haddressed
    obtain ⟨rfl, hfor, hactive, hsince⟩ := haddressed
    obtain ⟨ownerUserId, howner⟩ := Option.isSome_iff_exists.1 hactive
    have hsamePlayer : briefing.playerId = seat.playerId :=
      (Sits.eq_iff hlaterKnows.seats hbriefedSits hsits).1 (congrArg Occupant.agent (hhashes.unique hfor))
    rw [howner, hkept.holders.owner_eq hheld hfor howner]
    exact ⟨rfl, rfl, ⟨i, hsamePlayer.trans hplayer, hscoped⟩, hsince⟩

end Delivery

/-! ### The owner's advice -/

/-- The owner advises the agent before the first tick. -/
def advice : OwnerRequest :=
  ⟨some deploymentOwner, deploymentMatchId, buildNonSeededAgentId deploymentKeyId, deploymentMatchId, 0, "guidance-1", 7⟩

def advisedAgent : GuidedServer := apiStep deploymentHash .sqlite matchOfAgent (.guidance advice "Hold the coast.")

theorem guidance_delivered_advice :
    ∃ briefing, advisedAgent.getAgentBriefing deploymentHash .sqlite (some (rawApiKey deploymentToken)) deploymentMatchId
        (some 0) = .ok briefing ∧
      ⟨"guidance-1", deploymentMatchId, briefing.playerId, 0, "Hold the coast.", 7⟩ ∈ briefing.guidance := by
  have haccepted : (matchOfAgent.postOwnedAgentGuidance deploymentHash .sqlite advice "Hold the coast.").toOption.isSome =
      true := by decide +kernel
  have hbriefed : (advisedAgent.getAgentBriefing deploymentHash .sqlite (some (rawApiKey deploymentToken)) deploymentMatchId
      (some 0)).toOption.isSome = true := by decide +kernel
  have hkey : ∃ apiKey ∈ advisedAgent.database.apiKeys.rows, apiKey.keyHash = deploymentHash (rawApiKey deploymentToken) ∧
      buildNonSeededAgentId deploymentKeyId = agentIdOfKey deploymentHash apiKey := by decide +kernel
  have hactive : (advisedAgent.resolveAuthenticatedAgentOwnerUserId deploymentHash
      (some (rawApiKey deploymentToken))).isSome = true := by decide +kernel
  obtain ⟨accepted, haccepted⟩ := Option.isSome_iff_exists.1 haccepted
  obtain ⟨briefing, hbriefing⟩ := Option.isSome_iff_exists.1 hbriefed
  have hposted := eq_ok_of_toOption haccepted
  have hafter : advisedAgent = accepted.1 := by
    unfold advisedAgent apiStep GuidedServer.after
    simp only [hposted]
  have hserved := eq_ok_of_toOption hbriefing
  refine ⟨briefing, hserved, ?_⟩
  exact (guidance_delivered deployment_holdsNoMatch rfl (agentLobby ++ guestEnters) matchOfAgent matchOfAgent_reached
    advice "Hold the coast." accepted.1 accepted.2 hposted [] advisedAgent (hafter ▸ Run.mem_states_self _ _)
    (rawApiKey deploymentToken) deploymentMatchId (some 0) briefing hserved).2 ⟨rfl, hkey, hactive, rfl⟩

end IronCouncil
