import IronCouncil.Proof.ApiSteps
import IronCouncil.Proof.MatchSteps
import IronCouncil.Proof.RatingRuns

/-!
# The caller of a player

Whatever is asked of the server, a player of a match is played for by one key or one human, and by nobody else for as long as the match is there. The live records and the table of the keys that are known agree on it with the rows.
-/

namespace IronCouncil

/-! ### Seats -/

/-- The row that bears the number of the player is the occupant's. -/
def Sits (hashApiKey : String → String) (db : Database) (matchId : String) (occupant : Occupant) (playerId : String) :
    Prop :=
  ∃ seat ∈ (db.playersOfMatch matchId).map (seatOf hashApiKey db), seat.2 = occupant ∧
    ∃ i, seat.1 = buildMatchScopedPlayerId matchId i ∧ playerId = canonicalPlayerId i

section Sits

variable {hashApiKey : String → String} {db db' : Database} {matchId playerId : String} {occupant : Occupant}

theorem sits_iff_occupies (matchRow : MatchRow) :
    Sits hashApiKey db matchRow.id occupant playerId ↔ Occupies hashApiKey matchRow db occupant playerId := by
  constructor
  · intro h
    obtain ⟨seat, hseat, hoccupant, hname⟩ := h
    obtain ⟨player, hplayer, rfl⟩ := List.mem_map.1 hseat
    exact ⟨player, hplayer, hoccupant, hname⟩
  · intro h
    obtain ⟨player, hplayer, hoccupant, hname⟩ := h
    exact ⟨_, List.mem_map_of_mem hplayer, hoccupant, hname⟩

theorem Sits.of_subset (h : Sits hashApiKey db matchId occupant playerId)
    (hseats : (db.playersOfMatch matchId).map (seatOf hashApiKey db) ⊆
      (db'.playersOfMatch matchId).map (seatOf hashApiKey db')) : Sits hashApiKey db' matchId occupant playerId := by
  obtain ⟨seat, hseat, hrest⟩ := h
  exact ⟨seat, hseats hseat, hrest⟩

theorem sits_congr (hseats : ((db'.playersOfMatch matchId).map (seatOf hashApiKey db')).Perm
      ((db.playersOfMatch matchId).map (seatOf hashApiKey db))) :
    Sits hashApiKey db' matchId occupant playerId ↔ Sits hashApiKey db matchId occupant playerId :=
  ⟨fun h => h.of_subset hseats.subset, fun h => h.of_subset hseats.symm.subset⟩

/-- A row that keeps its enrolment keeps its seat. -/
theorem seats_subset_of_enrolments (hkeyed : ∀ player ∈ db.players.rows, Keyed db player) (hkeys : KeysKept db db')
    (henrolled : ∀ player ∈ db.players.rows, ∃ player' ∈ db'.players.rows, player'.enrolment = player.enrolment) :
    (db.playersOfMatch matchId).map (seatOf hashApiKey db) ⊆
      (db'.playersOfMatch matchId).map (seatOf hashApiKey db') := by
  intro seat hseat
  obtain ⟨player, hplayer, rfl⟩ := List.mem_map.1 hseat
  obtain ⟨hrow, hmatch⟩ := Database.mem_playersOfMatch.1 hplayer
  obtain ⟨player', hrow', hsame⟩ := henrolled player hrow
  have hid : player'.id = player.id := id_of_enrolment hsame
  have hmatchId : player'.matchId = player.matchId := matchId_of_enrolment hsame
  refine List.mem_map.2 ⟨player', Database.mem_playersOfMatch.2 ⟨hrow', hmatchId.trans hmatch⟩, ?_⟩
  exact Prod.ext hid (occupantOfRow_kept hashApiKey (hkeyed player hrow) hkeys hsame)

theorem Speaks.kept {actor : LobbyActor} (h : Speaks hashApiKey db occupant actor) (hkeys : KeysKept db db') :
    Speaks hashApiKey db' occupant actor := by
  cases actor with
  | human userId => exact h
  | agent keyHash =>
      obtain ⟨apiKey, hrow, hhash, rfl⟩ := h
      obtain ⟨apiKey', hrow', hid, hhash'⟩ := hkeys apiKey hrow
      exact ⟨apiKey', hrow', hhash'.trans hhash, congrArg _ (agentIdOfKey_congr hashApiKey hid hhash').symm⟩

end Sits

/-! ### The agents of the registry -/

/-- The key has the hash, and the agent is the one it is for. -/
def HashesFor (hashApiKey : String → String) (db : Database) (keyHash agentId : String) : Prop :=
  ∃ apiKey ∈ db.apiKeys.rows, apiKey.keyHash = keyHash ∧ agentId = agentIdOfKey hashApiKey apiKey

structure AgentsKnown (hashApiKey : String → String) (db : Database) (registry : InMemoryMatchRegistry) : Prop where
  profiles : ∀ agentId profile, registry.agentProfiles.get? agentId = some profile → profile.agentId = agentId
  cached : ∀ keyHash agent, registry.authenticatedAgentsByKeyHash.get? keyHash = some agent →
    HashesFor hashApiKey db keyHash agent.agentId

section Agents

variable {hashApiKey : String → String} {db db' : Database} {registry : InMemoryMatchRegistry}

theorem HashesFor.kept {keyHash agentId : String} (h : HashesFor hashApiKey db keyHash agentId) (hkeys : KeysKept db db') :
    HashesFor hashApiKey db' keyHash agentId := by
  obtain ⟨apiKey, hrow, hhash, rfl⟩ := h
  obtain ⟨apiKey', hrow', hid, hhash'⟩ := hkeys apiKey hrow
  exact ⟨apiKey', hrow', hhash'.trans hhash, (agentIdOfKey_congr hashApiKey hid hhash').symm⟩

theorem AgentsKnown.kept (h : AgentsKnown hashApiKey db registry) (hkeys : KeysKept db db') :
    AgentsKnown hashApiKey db' registry :=
  ⟨h.profiles, fun keyHash agent hagent => (h.cached keyHash agent hagent).kept hkeys⟩

theorem AgentsKnown.seedRecordKey (h : AgentsKnown hashApiKey db registry) {key : AuthenticatedAgentKeyRecord}
    (hkey : HashesFor hashApiKey db key.keyHash key.agentId) : AgentsKnown hashApiKey db (registry.seedRecordKey key) := by
  unfold InMemoryMatchRegistry.seedRecordKey
  split
  · exact h
  · rename_i profile hprofile
    unfold InMemoryMatchRegistry.seedAuthenticatedAgentKey
    split
    · refine ⟨h.profiles, ?_⟩
      intro keyHash agent hagent
      rw [OrdDict.get?_insert] at hagent
      split at hagent
      · rename_i hhash
        cases hagent
        rw [hhash]
        exact (h.profiles key.agentId profile hprofile) ▸ hkey
      · exact h.cached keyHash agent hagent
    · exact h

theorem AgentsKnown.seedAgentProfile (h : AgentsKnown hashApiKey db registry) (profile : AgentProfileResponse) :
    AgentsKnown hashApiKey db (registry.seedAgentProfile profile) := by
  refine ⟨?_, h.cached⟩
  intro agentId found hfound
  have hfound : (registry.agentProfiles.insert profile.agentId profile).get? agentId = some found := hfound
  rw [OrdDict.get?_insert] at hfound
  split at hfound
  · rename_i hagent
    cases hfound
    exact hagent.symm
  · exact h.profiles agentId found hfound

theorem AgentsKnown.seedMatch (h : AgentsKnown hashApiKey db registry) {record : MatchRecord}
    (hkeys : ∀ key ∈ record.authenticatedAgentKeys, HashesFor hashApiKey db key.keyHash key.agentId) :
    AgentsKnown hashApiKey db (registry.seedMatch record) := by
  have hprofiles : AgentsKnown hashApiKey db (record.agentProfiles.foldl InMemoryMatchRegistry.seedAgentProfile registry) :=
    Run.invariant_foldl (I := AgentsKnown hashApiKey db) (fun _ profile hknown => hknown.seedAgentProfile profile) h _
  have hseeded := Run.invariant_of_admitted (I := AgentsKnown hashApiKey db)
    (C := fun key : AuthenticatedAgentKeyRecord => HashesFor hashApiKey db key.keyHash key.agentId)
    (fun _ _ hkey hknown => hknown.seedRecordKey hkey) hprofiles hkeys _ (Run.foldl_mem_states _ _)
  exact ⟨hseeded.profiles, hseeded.cached⟩

theorem AgentsKnown.storeMatch (h : AgentsKnown hashApiKey db registry) (matchId : String) (record : MatchRecord) :
    AgentsKnown hashApiKey db (registry.storeMatch matchId record) := ⟨h.profiles, h.cached⟩

/-- The keys of a loaded record are for the agents of its rows. -/
theorem hashesFor_loaded {state : MatchState} {players : List PlayerRow} {key : AuthenticatedAgentKeyRecord}
    (h : key ∈ loadAuthenticatedAgentKeys hashApiKey db state players) :
    HashesFor hashApiKey db key.keyHash key.agentId := by
  obtain ⟨mapped, -, hkey⟩ := List.mem_filterMap.1 h
  split at hkey
  · obtain ⟨apiKey, hfound, rfl⟩ := Option.map_eq_some_iff.1 hkey
    obtain ⟨keyId, -, hrow⟩ := Option.bind_eq_some_iff.1 hfound
    refine ⟨apiKey, Table.mem_rows_of_get? hrow, rfl, ?_⟩
    change agentIdOfPlayer hashApiKey db mapped.1 = _
    rw [agentIdOfPlayer, hfound, agentId_resolveLoadedAgentIdentity]
  · cases hkey

/-- The agent of a lobby's creator is the one its key is for. -/
theorem hashesFor_created {actor : LobbyActor} {creator : PlayerIdentity}
    {agent : Option (AuthenticatedAgentContext × AuthenticatedAgentKeyRecord)} {key : AuthenticatedAgentKeyRecord}
    (h : resolveLobbyCreator hashApiKey db actor = .ok (creator, agent)) (hkey : key ∈ agent.toList.map Prod.snd) :
    HashesFor hashApiKey db key.keyHash key.agentId := by
  unfold resolveLobbyCreator at h
  cases actor with
  | human userId =>
      cases h
      exact absurd hkey List.not_mem_nil
  | agent keyHash =>
      dsimp only at h
      split at h
      · cases h
      · rename_i resolved hresolved
        split at h
        · cases h
        · cases h
          obtain rfl := List.mem_singleton.1 hkey
          obtain ⟨apiKey, hrow, hhash, -, hagent⟩ := context_agentId hresolved
          exact ⟨apiKey, hrow, hhash, hagent⟩

theorem agentsKnown_loaded (h : loadMatchRegistryFromDatabase hashApiKey db = .ok registry) :
    AgentsKnown hashApiKey db registry := by
  refine Run.invariant_foldlM (I := AgentsKnown hashApiKey db) ?_ h ⟨?_, ?_⟩
  · intro seeded row next hstep hknown
    obtain ⟨-, rfl⟩ := seedRow_eq_ok hstep
    exact hknown.seedMatch fun key hkey => hashesFor_loaded hkey
  · intro agentId profile hprofile
    cases hprofile
  · intro keyHash agent hagent
    cases hagent

end Agents

/-! ### The joined players of a record -/

section Joined

variable {hashApiKey : String → String} {variant : StorageVariant} {server next : Server} {db : Database}

/-- The record knows who sits where. -/
def KnowsSeats (hashApiKey : String → String) (db : Database) (matchId : String) (record : MatchRecord) : Prop :=
  ∀ occupant playerId, record.playerOf occupant = some playerId ↔ Sits hashApiKey db matchId occupant playerId

theorem KnowsSeats.congr {db' : Database} {matchId : String} {record record' : MatchRecord}
    (h : KnowsSeats hashApiKey db matchId record) (hrecord : record'.playerOf = record.playerOf)
    (hseats : ((db'.playersOfMatch matchId).map (seatOf hashApiKey db')).Perm
      ((db.playersOfMatch matchId).map (seatOf hashApiKey db))) : KnowsSeats hashApiKey db' matchId record' := by
  intro occupant playerId
  rw [hrecord, sits_congr hseats]
  exact h occupant playerId

/-- A record that was composed from the rows knows them. -/
theorem knowsSeats_composed (h : server.SeatsAll hashApiKey) {matchRow : MatchRow}
    (hrow : server.database.matchRows.get? matchRow.id = some matchRow) (playerRows : List PlayerRow)
    (alliances : List MatchAlliance) :
    KnowsSeats hashApiKey server.database matchRow.id
      (composeLoadedMatchRecord hashApiKey server.database matchRow playerRows alliances) := by
  obtain ⟨k, n, hk, hseated, hnumbered⟩ := h.matchSeats matchRow.id matchRow hrow
  intro occupant playerId
  rw [sits_iff_occupies]
  exact hseated.playerOf_composed hnumbered hk rfl

/-- The record of a new lobby knows its creator. -/
theorem knowsSeats_created (h : server.SeatsAll hashApiKey) {actor : LobbyActor} {request : MatchLobbyCreateRequest}
    {matchId : String} {database : Database} {created : CreatedMatchLobby}
    (hcreate : createMatchLobby hashApiKey server.database actor request matchId = .ok (database, created)) :
    KnowsSeats hashApiKey database matchId created.record := by
  obtain ⟨state, creator, agent, matchRows, -, hcreator, hmatch, hadd, hrecord⟩ := createMatchLobby_eq_ok hcreate
  have hnew := (sessionAdd_eq_ok hmatch).1
  have hfresh : ∀ player ∈ server.database.players.rows, player.matchId ≠ matchId :=
    fun player hplayer hsame => hnew (hsame ▸ h.homed player hplayer)
  obtain ⟨matchRow, rfl, hseated, -⟩ := SeatedRows.created hfresh hcreate
  have hfirst : Occupies hashApiKey matchRow database _ (canonicalPlayerId 1) := occupies_added (k := 0) hadd
  rw [hrecord]
  intro occupant playerId
  rw [sits_iff_occupies]
  have hsits : Occupies hashApiKey matchRow database occupant playerId ↔
      occupant = occupantOfRow hashApiKey server.database (joinedPlayerRow matchRow.id 1 creator) ∧
        playerId = canonicalPlayerId 1 := by
    constructor
    · intro hoccupies
      obtain ⟨i, hone, hlast, hid⟩ := hseated.occupied_iff.1 ⟨occupant, hoccupies⟩
      obtain rfl : i = 1 := by omega
      exact ⟨(Occupies.eq_iff hseated hoccupies hfirst).2 hid, hid⟩
    · intro hcreatorSits
      rw [hcreatorSits.1, hcreatorSits.2]
      exact hfirst
  rw [hsits]
  unfold resolveLobbyCreator at hcreator
  cases actor with
  | human userId =>
      cases hcreator
      cases occupant with
      | agent agentId =>
          change (OrdDict.ofList []).get? agentId = some playerId ↔ Occupant.agent agentId = .human userId ∧ _
          exact iff_of_false nofun fun hsame => Occupant.noConfusion hsame.1
      | human user =>
          change (OrdDict.ofList [(userId, canonicalPlayerId 1)]).get? user = some playerId ↔
            Occupant.human user = .human userId ∧ _
          rw [OrdDict.get?_ofList_of_nodup (l := [(userId, canonicalPlayerId 1)]) (List.nodup_singleton _),
            List.mem_singleton, Prod.mk.injEq, Occupant.human.injEq]
  | agent keyHash =>
      dsimp only at hcreator
      split at hcreator
      · cases hcreator
      · rename_i resolved hresolved
        split at hcreator
        · cases hcreator
        · cases hcreator
          rw [occupantOfRow_agent matchRow.id 1 hresolved]
          cases occupant with
          | agent agentId =>
              change (OrdDict.ofList [(resolved.context.agentId, canonicalPlayerId 1)]).get? agentId = some playerId ↔ _
              rw [OrdDict.get?_ofList_of_nodup (l := [(resolved.context.agentId, canonicalPlayerId 1)])
                (List.nodup_singleton _), List.mem_singleton, Prod.mk.injEq, Occupant.agent.injEq]
          | human user =>
              change (OrdDict.ofList []).get? user = some playerId ↔ _
              exact iff_of_false nofun fun hsame => Occupant.noConfusion hsame.1

/-- Commands and ticks let nobody in. -/
theorem playerOf_applyMatchCommand {record applied : MatchRecord} {playerId : String} {command : MatchCommand}
    {accepted : CommandAcceptance} (h : applyMatchCommand record playerId command = .ok (applied, accepted)) :
    applied.playerOf = record.playerOf := by
  have hparts : Relation.ReflTransGen (CommandPart (fun _ => True) playerId) record applied :=
    applyMatchCommand_parts (fun _ _ => trivial) (by cases command <;> trivial) h
  refine keeps_reached (I := fun reached => reached.playerOf = record.playerOf) ?_ hparts rfl
  intro before after hpart hbefore
  rw [← hbefore]
  cases hpart with
  | submitted envelope => rfl
  | posted messages groupChats => rfl
  | treaty hallowed haction =>
      obtain ⟨treaties, messages, rfl⟩ := applyTreatyAction_frame haction
      rfl
  | alliance haction =>
      obtain ⟨alliances, allianceId, rfl, -⟩ := applyAllianceAction_eq_ok haction
      rfl

theorem playerOf_advanceMatchTick (record : MatchRecord) : (advanceMatchTick record).1.playerOf = record.playerOf := by
  have hreconcile : ∀ orders,
      (reconcileHostileTreatyBreaks (drainQueue record) record.state orders).playerOf = record.playerOf := fun orders =>
    reconcileHostileTreatyBreaks_frame (g := MatchRecord.playerOf) (fun _ _ _ => rfl) _ _ _
  unfold advanceMatchTick
  dsimp only
  split
  · exact hreconcile _
  · exact hreconcile _

end Joined

/-! ### The invariant -/

structure Server.KnowsCallers (hashApiKey : String → String) (server : Server) : Prop where
  seats : server.SeatsAll hashApiKey
  agents : AgentsKnown hashApiKey server.database server.registry
  joined : ∀ matchId record, server.registry.getMatch matchId = some record →
    KnowsSeats hashApiKey server.database matchId record

section Steps

variable {hashApiKey : String → String} {variant : StorageVariant} {server : Server}

/-- A record put in the place of another that knows the same. -/
theorem joined_stored (h : server.KnowsCallers hashApiKey) {matchId : String} {record record' : MatchRecord}
    {db : Database} (hrecord : server.registry.getMatch matchId = some record)
    (hplayers : record'.playerOf = record.playerOf)
    (hseats : ∀ id, ((db.playersOfMatch id).map (seatOf hashApiKey db)).Perm
      ((server.database.playersOfMatch id).map (seatOf hashApiKey server.database)))
    (id : String) (live : MatchRecord) (hlive : (server.registry.storeMatch matchId record').getMatch id = some live) :
    KnowsSeats hashApiKey db id live := by
  have hstored : (server.registry.storeMatch matchId record').getMatch id =
      if id = matchId then some record' else server.registry.getMatch id := OrdDict.get?_insert _ _ _ _
  rw [hlive] at hstored
  split at hstored
  · rename_i hid
    cases hstored
    subst hid
    exact (h.joined id record hrecord).congr hplayers (hseats id)
  · exact (h.joined id live hstored.symm).congr rfl (hseats id)

/-- A record seeded for one match, while the seats of the others stay. -/
theorem joined_seeded (h : server.KnowsCallers hashApiKey) {record : MatchRecord} {db : Database}
    (hrecord : KnowsSeats hashApiKey db record.matchId record)
    (hseats : ∀ id, id ≠ record.matchId → ((db.playersOfMatch id).map (seatOf hashApiKey db)).Perm
      ((server.database.playersOfMatch id).map (seatOf hashApiKey server.database)))
    (id : String) (live : MatchRecord) (hlive : (server.registry.seedMatch record).getMatch id = some live) :
    KnowsSeats hashApiKey db id live := by
  rw [InMemoryMatchRegistry.getMatch_seedMatch] at hlive
  split at hlive
  · rename_i hid
    cases hlive
    subst hid
    exact hrecord
  · rename_i hother
    exact (h.joined id live hlive).congr rfl (hseats id hother)

theorem Server.KnowsCallers.step (h : server.KnowsCallers hashApiKey) (event : ServerEvent) :
    (serverStep hashApiKey variant server event).KnowsCallers hashApiKey := by
  have hseats : (serverStep hashApiKey variant server event).SeatsAll hashApiKey := h.seats.step event
  have hkeys : KeysKept server.database (serverStep hashApiKey variant server event).database :=
    keysKept_serverStep server event
  have heffect : ServerEffect hashApiKey variant server event (serverStep hashApiKey variant server event) :=
    serverStep_effect server event
  generalize serverStep hashApiKey variant server event = next at hseats hkeys heffect
  have hknown := h.agents.kept hkeys
  have hsame : ∀ db : Database, KeysKept server.database db →
      db.players.rows.map PlayerRow.enrolment = server.database.players.rows.map PlayerRow.enrolment →
      ∀ id, ((db.playersOfMatch id).map (seatOf hashApiKey db)).Perm
        ((server.database.playersOfMatch id).map (seatOf hashApiKey server.database)) :=
    fun db hkept henrolments id => seats_kept_of_enrolments hashApiKey h.seats.keyed hkept henrolments id
  cases heffect with
  | refused => exact h
  | keyCreated hfresh hadd =>
      have hplayers := congrArg Database.players (Database.addApiKey_eq_ok hadd).2.2
      refine ⟨hseats, hknown, fun matchId record hrecord => ?_⟩
      exact (h.joined matchId record hrecord).congr rfl
        (hsame _ hkeys (congrArg (fun players => players.rows.map PlayerRow.enrolment) hplayers) matchId)
  | keyRevoked hfound =>
      exact ⟨hseats, hknown, fun matchId record hrecord =>
        (h.joined matchId record hrecord).congr rfl (hsame _ hkeys rfl matchId)⟩
  | lobbyCreated hcreate =>
      have hcreated := knowsSeats_created h.seats hcreate
      obtain ⟨state, creator, agent, matchRows, -, hcreator, -, hadd, hrecord⟩ := createMatchLobby_eq_ok hcreate
      rw [hrecord] at hcreated hseats ⊢
      refine ⟨hseats, hknown.seedMatch ?_, joined_seeded h hcreated ?_⟩
      · exact fun key hkey => (hashesFor_created hcreator hkey).kept hkeys
      · exact fun id hother => seats_kept_of_addPlayer hashApiKey hadd (Ne.symm hother)
  | joined hjoin =>
      obtain ⟨row, hrow, hadded, hrecord⟩ := joinDbMatch_eq_ok hjoin
      obtain rfl := Table.key_of_get? hrow
      rw [hrecord] at hseats ⊢
      have hmatchRows : ∀ db : Database, db = server.database ∨ db.matchRows = server.database.matchRows →
          db.matchRows.get? row.id = some row := by
        intro db hdb
        rcases hdb with rfl | hdb
        · exact hrow
        · rw [hdb]
          exact hrow
      refine ⟨hseats, hknown.seedMatch fun key hkey => hashesFor_loaded hkey, joined_seeded h ?_ ?_⟩
      · refine knowsSeats_composed hseats (hmatchRows _ ?_) _ _
        rcases hadded with hnone | ⟨identity, joinIndex, -, hadd⟩
        · exact Or.inl hnone
        · exact Or.inr (addPlayer_tables hadd).1
      · intro id hother
        rcases hadded with rfl | ⟨identity, joinIndex, -, hadd⟩
        · exact List.Perm.refl _
        · exact seats_kept_of_addPlayer hashApiKey hadd (Ne.symm hother)
  | started hstart =>
      obtain ⟨row, hrow, -, -, rfl, hrecord⟩ := startMatchLobby_eq_ok hstart
      obtain rfl := Table.key_of_get? hrow
      rw [hrecord] at hseats ⊢
      have hstored : (activateMatch server.database row).matchRows.get? (startedMatchRow row).id =
          some (startedMatchRow row) :=
        (get?_activateMatch server.database row row.id).trans
          ((if_pos rfl).trans (congrArg (Option.map startedMatchRow) hrow))
      refine ⟨hseats, hknown.seedMatch fun key hkey => hashesFor_loaded hkey, joined_seeded h ?_ ?_⟩
      · exact knowsSeats_composed hseats hstored _ _
      · exact fun id _ => List.Perm.refl _
  | commanded hrecord hcommand =>
      exact ⟨hseats, hknown.storeMatch _ _, joined_stored h hrecord (playerOf_applyMatchCommand hcommand) fun id => List.Perm.refl _⟩
  | tickIdle hrecord => exact ⟨hseats, hknown.storeMatch _ _, joined_stored h hrecord rfl fun id => List.Perm.refl _⟩
  | tickRaised hrecord hactive htick =>
      exact ⟨hseats, hknown.storeMatch _ _, joined_stored h hrecord (playerOf_advanceMatchTick _) fun id => List.Perm.refl _⟩
  | ticked hrecord hactive htick hpersist =>
      obtain ⟨stored, hpersisted⟩ := persistAdvancedMatchTick_persisted hpersist
      exact ⟨hseats, hknown.storeMatch _ _, joined_stored h hrecord (playerOf_advanceMatchTick _)
        (hsame _ hkeys hpersisted.enrolments_kept)⟩
  | hydrated hload =>
      refine ⟨hseats, agentsKnown_loaded hload, fun matchId record hrecord => ?_⟩
      have hfound := getMatch_loadMatchRegistryFromDatabase hload matchId
      rw [show _ = some record from hrecord] at hfound
      obtain ⟨row, hrow, rfl⟩ := Option.map_eq_some_iff.1 hfound.symm
      obtain rfl := Table.key_of_get? hrow
      exact knowsSeats_composed hseats hrow server.database.players.rows
        (restoredAlliances server.database row.state row.id)

/-- An override changes what is queued and nothing else. -/
theorem Server.KnowsCallers.stored (h : server.KnowsCallers hashApiKey) {matchId : String} {record record' : MatchRecord}
    (hrecord : server.registry.getMatch matchId = some record) (hid : record'.matchId = record.matchId)
    (hstate : record'.state = record.state) (hplayers : record'.playerOf = record.playerOf) :
    (server.storeRecord matchId record').KnowsCallers hashApiKey where
  seats := h.seats.accounted_rows (KeysKept.of_eq rfl) rfl rfl
    (live_stored h.seats hrecord hid (congrArg (fun state => state.players.keys) hstate))
  agents := h.agents.storeMatch matchId record'
  joined := joined_stored h hrecord hplayers fun _ => List.Perm.refl _

end Steps

/-! ### Requests and runs -/

section Runs

variable {hashApiKey : String → String} {variant : StorageVariant} {server : Server} {guided : GuidedServer}

theorem knowsCallers_apiStep (h : guided.KnowsCallers hashApiKey) (event : ApiEvent) :
    (apiStep hashApiKey variant guided event).KnowsCallers hashApiKey := by
  have heffect : ApiEffect hashApiKey variant guided event (apiStep hashApiKey variant guided event) :=
    apiStep_effect guided event
  generalize apiStep hashApiKey variant guided event = next at heffect
  cases heffect with
  | refused => exact h
  | host event => exact h.step event.1
  | written hrecord hplayer hwrite =>
      rename_i credentials matchId playerId request record applied accepted
      have hstep : (serverStep hashApiKey variant guided.toServer
          (.command matchId playerId (commandOfWrite request))).KnowsCallers hashApiKey := h.step _
      rw [serverStep_of_write hrecord hwrite] at hstep
      exact hstep
  | advised => exact h
  | overridden hrecord htick hseat hadd => exact h.stored hrecord rfl rfl rfl

theorem Server.HoldsNoMatch.knowsCallers (h : server.HoldsNoMatch) (hnone : server.registry = .empty) :
    server.KnowsCallers hashApiKey where
  seats := h.seatsAll
  agents := by
    rw [hnone]
    refine ⟨?_, ?_⟩
    · intro agentId profile hprofile
      cases hprofile
    · intro keyHash agent hagent
      cases hagent
  joined := by
    intro matchId record hrecord
    rw [hnone] at hrecord
    cases hrecord

/-- The keys stay, and nobody leaves a seat. -/
structure SeatsGrow (hashApiKey : String → String) (db db' : Database) : Prop where
  keys : KeysKept db db'
  seats : ∀ matchId, (db.playersOfMatch matchId).map (seatOf hashApiKey db) ⊆
    (db'.playersOfMatch matchId).map (seatOf hashApiKey db')

theorem SeatsGrow.refl (db : Database) : SeatsGrow hashApiKey db db :=
  ⟨KeysKept.of_eq rfl, fun _ => List.Subset.refl _⟩

theorem SeatsGrow.trans {db db' db'' : Database} (h : SeatsGrow hashApiKey db db') (h' : SeatsGrow hashApiKey db' db'') :
    SeatsGrow hashApiKey db db'' :=
  ⟨h.keys.trans h'.keys, fun matchId => List.Subset.trans (h.seats matchId) (h'.seats matchId)⟩

theorem seatsGrow_serverStep (h : server.SeatsAll hashApiKey) (event : ServerEvent) :
    SeatsGrow hashApiKey server.database (serverStep hashApiKey variant server event).database :=
  ⟨keysKept_serverStep server event, fun _ =>
    seats_subset_of_enrolments h.keyed (keysKept_serverStep server event) (players_serverStep server event)⟩

theorem seatsGrow_apiStep (h : guided.KnowsCallers hashApiKey) (event : ApiEvent) :
    SeatsGrow hashApiKey guided.database (apiStep hashApiKey variant guided event).database := by
  have heffect : ApiEffect hashApiKey variant guided event (apiStep hashApiKey variant guided event) :=
    apiStep_effect guided event
  generalize apiStep hashApiKey variant guided event = next at heffect
  cases heffect with
  | host event => exact seatsGrow_serverStep h.seats event.1
  | _ => exact SeatsGrow.refl _

theorem knowsCallers_run (h : guided.KnowsCallers hashApiKey) (events : List ApiEvent) :
    ∀ reached ∈ Run.states (apiStep hashApiKey variant) guided events, reached.KnowsCallers hashApiKey :=
  Run.invariant (I := fun reached : GuidedServer => reached.KnowsCallers hashApiKey)
    (fun _ event hknows => knowsCallers_apiStep hknows event) h events

theorem seatsGrow_run (h : guided.KnowsCallers hashApiKey) (events : List ApiEvent) :
    ∀ reached ∈ Run.states (apiStep hashApiKey variant) guided events,
      SeatsGrow hashApiKey guided.database reached.database := by
  refine Run.invariant_of_steps (I := fun reached : GuidedServer => SeatsGrow hashApiKey guided.database reached.database)
    (C := fun reached _ => reached.KnowsCallers hashApiKey) ?_ (SeatsGrow.refl _) ?_
  · exact fun _ event hknows hgrown => hgrown.trans (seatsGrow_apiStep hknows event)
  · exact fun taken htaken => knowsCallers_run h events taken.1 (Run.fst_mem_states htaken)

end Runs

/-! ### Who plays as a player -/

/-- Whom a request speaks for: the holder of its key, or else the user of its token. -/
def Credentials.actor (hashApiKey : String → String) (credentials : Credentials) : Option LobbyActor :=
  match credentials.apiKey with
  | some apiKey => some (.agent (hashApiKey apiKey))
  | none => credentials.humanUserId.map .human

/-- The ways to come to play as a player of a match: by the credentials of a request, or as the viewer of a websocket. -/
inductive PlaysAs (hashApiKey : String → String) (variant : StorageVariant) (server : Server) (matchId : String) :
    LobbyActor → String → Prop
  | request {credentials : Credentials} {actor : LobbyActor} {playerId : String}
      (hactor : credentials.actor hashApiKey = some actor)
      (h : server.resolveMatchPlayerId hashApiKey variant matchId credentials = .ok playerId) :
      PlaysAs hashApiKey variant server matchId actor playerId
  | viewer {userId playerId : String} {named : Option String}
      (h : server.resolveWebsocketPlayerViewer variant matchId named (some userId) = .ok playerId) :
      PlaysAs hashApiKey variant server matchId (.human userId) playerId

section Callers

variable {hashApiKey : String → String} {variant : StorageVariant} {server : Server} {guided : GuidedServer}
  {matchId : String}

theorem Server.KnowsCallers.sits_human (h : server.KnowsCallers hashApiKey) {userId playerId : String}
    (hplayer : server.resolveHumanPlayerId variant matchId userId = .ok playerId) :
    Sits hashApiKey server.database matchId (.human userId) playerId := by
  unfold Server.resolveHumanPlayerId at hplayer
  split at hplayer
  · cases hplayer
  · rename_i record hrecord
    split at hplayer
    · cases hplayer
    · rename_i found hfound
      cases hplayer
      obtain ⟨matchRow, hrow, hresolved⟩ := map_loadMatchPlayers_eq_some hfound
      obtain rfl := Table.key_of_get? hrow
      obtain ⟨player, hperson, hmapped⟩ := Option.bind_eq_some_iff.1 hresolved
      have hmem : player ∈ server.database.playersOfMatch matchRow.id := List.mem_of_find?_eq_some hperson
      have hkind : player.userId = userId ∧ player.isAgent = false := by simpa using List.find?_some hperson
      obtain ⟨k, n, hk, hseated, hnumbered⟩ := h.seats.matchSeats matchRow.id matchRow hrow
      obtain ⟨i, -, -, hid⟩ := (hseated.rows player.id).1 (List.mem_map_of_mem hmem)
      rw [hseated.get?_mapping hnumbered hk hmem hid] at hmapped
      refine ⟨seatOf hashApiKey server.database player, List.mem_map_of_mem hmem, ?_, i, hid,
        (Option.some.inj hmapped).symm⟩
      unfold seatOf occupantOfRow
      rw [hkind.2, hkind.1]
      rfl
    · obtain ⟨live, hlive, hjoined⟩ := requireJoinedHumanPlayerId_eq_ok hplayer
      exact (h.joined matchId live hlive (.human userId) playerId).1 hjoined

/-- The agent that a key is taken for is the one it is for. -/
theorem Server.KnowsCallers.hashesFor (h : server.KnowsCallers hashApiKey) {apiKey : String}
    {agent : AuthenticatedAgentContext} (hagent : server.resolveAuthenticatedAgentContext hashApiKey (some apiKey) = some agent) :
    HashesFor hashApiKey server.database (hashApiKey apiKey) agent.agentId := by
  unfold Server.resolveAuthenticatedAgentContext at hagent
  dsimp only at hagent
  split at hagent
  · rename_i cached hcached
    cases hagent
    exact h.agents.cached _ _ hcached
  · obtain ⟨resolved, hresolved, rfl⟩ := Option.map_eq_some_iff.1 hagent
    obtain ⟨row, hrow, hhash, -, hagentId⟩ := context_agentId hresolved
    exact ⟨row, hrow, hhash, hagentId⟩

theorem Server.KnowsCallers.sits_agent (h : server.KnowsCallers hashApiKey) {agent : AuthenticatedAgentContext}
    {playerId : String} (hplayer : server.requireJoinedPlayerId matchId agent = .ok playerId) :
    Sits hashApiKey server.database matchId (.agent agent.agentId) playerId := by
  obtain ⟨record, hrecord, hjoined⟩ := requireJoinedPlayerId_eq_ok hplayer
  exact (h.joined matchId record hrecord (.agent agent.agentId) playerId).1 hjoined

/-- Who plays as a player has the player's seat. -/
theorem PlaysAs.sits {actor : LobbyActor} {playerId : String} (hplays : PlaysAs hashApiKey variant server matchId actor playerId)
    (h : server.KnowsCallers hashApiKey) :
    ∃ occupant, Speaks hashApiKey server.database occupant actor ∧
      Sits hashApiKey server.database matchId occupant playerId := by
  cases hplays with
  | viewer hviewer =>
      unfold Server.resolveWebsocketPlayerViewer at hviewer
      dsimp only at hviewer
      split at hviewer
      · cases hviewer
      · rename_i resolved hresolved
        split at hviewer
        · cases hviewer
          exact ⟨_, rfl, h.sits_human hresolved⟩
        · split at hviewer
          · cases hviewer
          · cases hviewer
            exact ⟨_, rfl, h.sits_human hresolved⟩
  | request hactor hplayer =>
      rename_i credentials
      unfold Server.resolveMatchPlayerId at hplayer
      unfold Credentials.actor at hactor
      cases hkey : credentials.apiKey with
      | some apiKey =>
          simp only [hkey, Option.some.injEq] at hactor hplayer
          subst hactor
          split at hplayer
          · cases hplayer
          · rename_i agent hagent
            obtain ⟨row, hrow, hhash, hagentId⟩ := h.hashesFor (getAuthenticatedAgent_eq_ok hagent)
            refine ⟨.agent agent.agentId, ⟨row, hrow, hhash, congrArg _ hagentId⟩, h.sits_agent hplayer⟩
      | none =>
          simp only [hkey] at hactor hplayer
          cases huser : credentials.humanUserId with
          | none =>
              rw [huser] at hactor
              cases hactor
          | some userId =>
              simp only [huser, Option.map_some, Option.some.injEq] at hactor hplayer
              subst hactor
              exact ⟨_, rfl, h.sits_human hplayer⟩

/-- A seat has one occupant and an occupant one seat. -/
theorem Sits.eq_iff (h : server.SeatsAll hashApiKey) {occupant occupant' : Occupant} {playerId playerId' : String}
    (hsits : Sits hashApiKey server.database matchId occupant playerId)
    (hsits' : Sits hashApiKey server.database matchId occupant' playerId') : occupant = occupant' ↔ playerId = playerId' := by
  have htaken := hsits
  obtain ⟨seat, hseat, -⟩ := htaken
  obtain ⟨player, hplayer, -⟩ := List.mem_map.1 hseat
  obtain ⟨hrow, rfl⟩ := Database.mem_playersOfMatch.1 hplayer
  obtain ⟨matchRow, hmem, hid⟩ := List.mem_map.1 (h.homed player hrow)
  obtain ⟨k, n, -, hseated, -⟩ := h.matchSeats player.matchId matchRow (Table.get?_eq_some.2 ⟨hmem, hid⟩)
  rw [← hid, sits_iff_occupies] at hsits hsits'
  exact Occupies.eq_iff hseated hsits hsits'

/-- From a server without matches, whatever is asked of it: two callers that come to play in a match, then or at any later time, are the same key or the same human exactly when they play as the same player. -/
theorem one_caller_for_each_player (hempty : guided.HoldsNoMatch) (hnone : guided.registry = .empty)
    (events : List ApiEvent) :
    ∀ reached ∈ Run.states (apiStep hashApiKey variant) guided events, ∀ more,
      ∀ later ∈ Run.states (apiStep hashApiKey variant) reached more, ∀ matchId actor actor' playerId playerId',
        PlaysAs hashApiKey variant reached.toServer matchId actor playerId →
          PlaysAs hashApiKey variant later.toServer matchId actor' playerId' →
            (actor = actor' ↔ playerId = playerId') := by
  intro reached hreached more later hlater matchId actor actor' playerId playerId' hplays hplays'
  have hknows := knowsCallers_run (hempty.knowsCallers hnone) events reached hreached
  have hknows' := knowsCallers_run hknows more later hlater
  have hgrown := seatsGrow_run hknows more later hlater
  obtain ⟨occupant, hspeaks, hsits⟩ := hplays.sits hknows
  obtain ⟨occupant', hspeaks', hsits'⟩ := hplays'.sits hknows'
  rw [(hspeaks.kept hgrown.keys).eq_iff hspeaks']
  exact Sits.eq_iff hknows'.seats (hsits.of_subset (hgrown.seats matchId)) hsits'

end Callers

/-! ### A deployment with owners -/

def guidedDeployment : GuidedServer := { deployment with guidance := Table.empty, overrides := Table.empty }

/-- The owner's agent opens a match. -/
def agentLobby : List ApiEvent :=
  [ownersKey, .host ⟨.createLobby ownersAgent (deploymentRequest 20) deploymentMatchId, rfl⟩]

/-- A human joins it, and it starts. -/
def guestEnters : List ApiEvent :=
  [ .host ⟨.join ⟨none, some deploymentGuest⟩ deploymentMatchId deploymentMatchId, rfl⟩,
    .host ⟨.start ⟨some (rawApiKey deploymentToken), none⟩ deploymentMatchId, rfl⟩ ]

def lobbyOfAgent : GuidedServer := agentLobby.foldl (apiStep deploymentHash .sqlite) guidedDeployment

def matchOfAgent : GuidedServer := guestEnters.foldl (apiStep deploymentHash .sqlite) lobbyOfAgent

theorem one_caller_for_each_player_guest :
    LobbyActor.agent (deploymentHash (rawApiKey deploymentToken)) = .human deploymentGuest ↔
      canonicalPlayerId 1 = canonicalPlayerId 2 := by
  have hagent : lobbyOfAgent.resolveMatchPlayerId deploymentHash .sqlite deploymentMatchId
      ⟨some (rawApiKey deploymentToken), none⟩ = .ok (canonicalPlayerId 1) := by decide +kernel
  have hguest : matchOfAgent.resolveWebsocketPlayerViewer .sqlite deploymentMatchId none (some deploymentGuest) =
      .ok (canonicalPlayerId 2) := by decide +kernel
  exact one_caller_for_each_player deployment_holdsNoMatch rfl agentLobby lobbyOfAgent (Run.foldl_mem_states _ _)
    guestEnters matchOfAgent (Run.foldl_mem_states _ _) deploymentMatchId _ _ _ _ (.request rfl hagent) (.viewer hguest)

end IronCouncil
