import IronCouncil.Api.Server

/-!
# Revoked keys

A revocation clears the flag of the key's row. From then on the database resolves the key to nobody, and no record that is seeded brings it as an active key. The registry's table is not told: a hash that it holds when its key is revoked goes on authenticating.
-/

namespace IronCouncil

/-! ### What the database's operations leave of its keys -/

/-- The hashes of the keys, with their flags. -/
def Database.keyRing (db : Database) : List (String × Bool) :=
  db.apiKeys.rows.map fun row => (row.keyHash, row.isActive)

theorem mem_keyRing {db : Database} {keyHash : String} {isActive : Bool} :
    (keyHash, isActive) ∈ db.keyRing ↔ ∃ row ∈ db.apiKeys.rows, row.keyHash = keyHash ∧ row.isActive = isActive := by
  simp only [Database.keyRing, List.mem_map, Prod.mk.injEq]

theorem keyRing_setKeyElo (db : Database) (id : String) (elo : Int) : (db.setKeyElo id elo).keyRing = db.keyRing := by
  apply Table.map_update
  · exact fun _ => rfl
  · exact fun _ => rfl

theorem keyRing_settlePlayer {outcome : MatchOutcome} {db db' : Database} {player : PlayerRow}
    (h : settlePlayer outcome db player = .ok db') : db'.keyRing = db.keyRing := by
  obtain ⟨playerMatchSettlements, -, rfl⟩ := settlePlayer_eq_ok h
  unfold recordKeyElo
  split
  · exact keyRing_setKeyElo _ _ _
  · rfl

theorem keyRing_settleCompletedMatchIfNeeded {variant : StorageVariant} {settledAt : Nat}
    {committed db db' : Database} {matchRow : MatchRow}
    (h : settleCompletedMatchIfNeeded variant settledAt committed db matchRow = .ok db') :
    db'.keyRing = db.keyRing := by
  rcases settleCompletedMatchIfNeeded_eq_ok h with ⟨rfl, -⟩ | ⟨-, hsettle⟩
  · rfl
  · obtain ⟨matchSettlements, outcome, -, -, -, hplayers⟩ := settleMatch_eq_ok hsettle
    exact Run.invariant_foldlM (I := fun settled => settled.keyRing = db.keyRing)
      (fun settled player settled' hstep hkept => (keyRing_settlePlayer hstep).trans hkept) hplayers rfl

theorem keyRing_persistAdvancedMatchTick {variant : StorageVariant} {newId : Nat → String} {settledAt : Nat}
    {db db' : Database} {advancedTick : AdvancedMatchTick}
    (h : persistAdvancedMatchTick variant newId settledAt db advancedTick = .ok db') : db'.keyRing = db.keyRing := by
  obtain ⟨stored, synced, ids, winnerAlliance, settled, -, hsync, -, hsettle, rfl⟩ := persistAdvancedMatchTick_eq_ok h
  obtain ⟨alliances, players, rfl, -⟩ := syncTerminalAllianceRows_eq_ok hsync
  have hsettled := keyRing_settleCompletedMatchIfNeeded hsettle
  exact hsettled

theorem keyRing_addPlayer {db db' : Database} {player : PlayerRow} (h : addPlayer db player = .ok db') :
    db'.keyRing = db.keyRing := by
  obtain ⟨players, -, rfl⟩ := addPlayer_eq_ok h
  rfl

theorem keyRing_createMatchLobby {hashApiKey : String → String} {db db' : Database} {actor : LobbyActor}
    {request : MatchLobbyCreateRequest} {matchId : String} {created : CreatedMatchLobby}
    (h : createMatchLobby hashApiKey db actor request matchId = .ok (db', created)) : db'.keyRing = db.keyRing := by
  obtain ⟨state, creator, agent, matchRows, -, -, -, hadd, -⟩ := createMatchLobby_eq_ok h
  have hring := keyRing_addPlayer hadd
  exact hring

theorem keyRing_joinDbMatch {hashApiKey : String → String} {variant : StorageVariant} {db db' : Database}
    {matchId : String} {actor : LobbyActor} {joined : JoinedMatch}
    (h : joinDbMatch hashApiKey variant db matchId actor = .ok (db', joined)) : db'.keyRing = db.keyRing := by
  obtain ⟨matchRow, -, hrows, -⟩ := joinDbMatch_eq_ok h
  rcases hrows with rfl | ⟨identity, joinIndex, -, hadd⟩
  · rfl
  · exact keyRing_addPlayer hadd

/-! ### The keys a record brings -/

/-- Every active key of the record is an active key of the database. -/
def KeysBacked (db : Database) (record : MatchRecord) : Prop :=
  ∀ key ∈ record.authenticatedAgentKeys, key.isActive = true → (key.keyHash, true) ∈ db.keyRing

theorem keysBacked_composeLoadedMatchRecord (hashApiKey : String → String) (db : Database) (matchRow : MatchRow)
    (playerRows : List PlayerRow) (alliances : List MatchAlliance) :
    KeysBacked db (composeLoadedMatchRecord hashApiKey db matchRow playerRows alliances) := by
  intro key hkey hactive
  obtain ⟨apiKey, hrow, hhash, hflag⟩ := mem_loadAuthenticatedAgentKeys hashApiKey hkey
  exact mem_keyRing.2 ⟨apiKey, hrow, hhash, hflag.trans hactive⟩

theorem keysBacked_createMatchLobby {hashApiKey : String → String} {db db' : Database} {actor : LobbyActor}
    {request : MatchLobbyCreateRequest} {matchId : String} {created : CreatedMatchLobby}
    (h : createMatchLobby hashApiKey db actor request matchId = .ok (db', created)) :
    KeysBacked db created.record := by
  obtain ⟨state, creator, agent, matchRows, -, hcreator, -, -, hrecord⟩ := createMatchLobby_eq_ok h
  intro key hkey hactive
  rw [hrecord] at hkey
  obtain ⟨found, hfound, rfl⟩ := List.mem_map.1 (show key ∈ agent.toList.map Prod.snd from hkey)
  obtain ⟨apiKey, hrow, hhash, hflag⟩ := (resolveLobbyCreator_eq_ok hcreator).2 found (by simpa using hfound)
  exact mem_keyRing.2 ⟨apiKey, hrow, hhash, hflag⟩

/-! ### Revocation -/

/-- The key of the hash has a row, no active one, and no entry in the registry's table. -/
structure Silenced (server : Server) (keyHash : String) : Prop where
  known : (keyHash, false) ∈ server.database.keyRing
  inactive : (keyHash, true) ∉ server.database.keyRing
  unlisted : keyHash ∉ server.registry.authenticatedAgentsByKeyHash.keys

/-- The event revokes the key of the hash in the given state. -/
def RevokesKey (server : Server) (event : ServerEvent) (keyHash : String) : Prop :=
  ∃ userId keyId apiKey, event = .revokeApiKey userId keyId ∧
    findOwnedApiKey server.database userId keyId = some apiKey ∧ apiKey.keyHash = keyHash

section Runs

variable {hashApiKey : String → String} {variant : StorageVariant} {server : Server} {keyHash : String}

theorem Silenced.resolve {apiKey : String} (h : Silenced server (hashApiKey apiKey)) :
    server.resolveAuthenticatedAgentContext hashApiKey (some apiKey) = none := by
  have hregistry : server.registry.resolveAuthenticatedAgent hashApiKey apiKey = none :=
    OrdDict.get?_eq_none.2 h.unlisted
  simp only [Server.resolveAuthenticatedAgentContext, hregistry, resolveAuthenticatedAgentContext,
    Option.map_eq_none_iff]
  cases hresolve : resolveAuthenticatedAgentFromDbKeyHash hashApiKey server.database (hashApiKey apiKey) with
  | none => rfl
  | some agent =>
      obtain ⟨row, hrow, hhash, hactive, -⟩ := resolveAuthenticatedAgentFromDbKeyHash_eq_some hashApiKey hresolve
      exact absurd (mem_keyRing.2 ⟨row, hrow, hhash, hactive⟩) h.inactive

/-- Seeding a record whose active keys the database backs keeps a silenced key out of the table. -/
theorem Silenced.commit (h : Silenced server keyHash) {db : Database} {record : MatchRecord}
    (hring : db.keyRing = server.database.keyRing) (hbacked : KeysBacked server.database record) :
    Silenced (server.commit db record) keyHash := by
  refine ⟨hring ▸ h.known, hring ▸ h.inactive, ?_⟩
  intro hlisted
  rcases InMemoryMatchRegistry.mem_seedMatch hlisted with hlisted | ⟨key, hkey, hhash, hactive⟩
  · exact h.unlisted hlisted
  · exact h.inactive (hhash ▸ hbacked key hkey hactive)

theorem KeysBacked.congr {db db' : Database} (hring : db'.keyRing = db.keyRing) {record : MatchRecord}
    (h : KeysBacked db' record) : KeysBacked db record := by
  intro key hkey hactive
  rw [← hring]
  exact h key hkey hactive

theorem unlisted_loadMatchRegistryFromDatabase {db : Database} {registry : InMemoryMatchRegistry}
    (hinactive : (keyHash, true) ∉ db.keyRing) (h : loadMatchRegistryFromDatabase hashApiKey db = .ok registry) :
    keyHash ∉ registry.authenticatedAgentsByKeyHash.keys := by
  refine Run.invariant_foldlM (I := fun registry => keyHash ∉ registry.authenticatedAgentsByKeyHash.keys) ?_ h
    List.not_mem_nil
  intro registry matchRow seeded hstep hkept hlisted
  split at hstep
  · split at hstep
    · cases hstep
    · cases hstep
      rcases InMemoryMatchRegistry.mem_seedMatch hlisted with hlisted | ⟨key, hkey, hhash, hactive⟩
      · exact hkept hlisted
      · exact hinactive (hhash ▸ keysBacked_composeLoadedMatchRecord hashApiKey db matchRow _ _ key hkey hactive)
  · cases hstep

theorem Silenced.addApiKey (h : Silenced server keyHash) {apiKey : ApiKeyRow} {db : Database}
    {hfresh : apiKey.keyHash ∉ server.database.keyHashes} (hadd : server.database.addApiKey apiKey hfresh = .ok db) :
    Silenced { server with database := db } keyHash := by
  have hring : db.keyRing = server.database.keyRing ++ [(apiKey.keyHash, apiKey.isActive)] := by
    simp only [Database.keyRing, (Database.addApiKey_eq_ok hadd).2.1, List.map_append, List.map_singleton]
  have hother : apiKey.keyHash ≠ keyHash := by
    rintro rfl
    obtain ⟨row, hrow, hhash, -⟩ := mem_keyRing.1 h.known
    exact hfresh (List.mem_map.2 ⟨row, hrow, hhash⟩)
  refine ⟨?_, ?_, h.unlisted⟩
  · show (keyHash, false) ∈ db.keyRing
    rw [hring]
    exact List.mem_append_left _ h.known
  · show (keyHash, true) ∉ db.keyRing
    rw [hring, List.mem_append, List.mem_singleton]
    rintro (hold | hnew)
    · exact h.inactive hold
    · exact hother (congrArg Prod.fst hnew).symm

theorem mem_keyRing_deactivateKey {db : Database} {id : String} {isActive : Bool}
    (h : (keyHash, isActive) ∈ (db.deactivateKey id).keyRing) :
    ∃ row ∈ db.apiKeys.rows, row.keyHash = keyHash ∧ isActive = if row.id = id then false else row.isActive := by
  obtain ⟨row, hrow, hhash, hflag⟩ := mem_keyRing.1 h
  obtain ⟨old, hold, rfl⟩ := List.mem_map.1 hrow
  refine ⟨old, hold, ?_, ?_⟩
  · rw [← hhash]
    split
    · rfl
    · rfl
  · rw [← hflag]
    split
    · rfl
    · rfl

theorem Silenced.deactivateKey (h : Silenced server keyHash) (id : String) :
    Silenced { server with database := server.database.deactivateKey id } keyHash := by
  refine ⟨?_, ?_, h.unlisted⟩
  · obtain ⟨row, hrow, hhash, hflag⟩ := mem_keyRing.1 h.known
    refine mem_keyRing.2 ⟨_, List.mem_map_of_mem hrow, ?_, ?_⟩
    · split
      · exact hhash
      · exact hhash
    · split
      · rfl
      · exact hflag
  · intro hactive
    obtain ⟨row, hrow, hhash, hflag⟩ := mem_keyRing_deactivateKey hactive
    split at hflag
    · cases hflag
    · exact h.inactive (mem_keyRing.2 ⟨row, hrow, hhash, hflag.symm⟩)

/-- No step brings a silenced key back. -/
theorem Silenced.step (h : Silenced server keyHash) (event : ServerEvent) :
    Silenced (serverStep hashApiKey variant server event) keyHash := by
  have heffect : ServerEffect hashApiKey variant server event (serverStep hashApiKey variant server event) :=
    serverStep_effect server event
  generalize serverStep hashApiKey variant server event = next at heffect
  cases heffect with
  | refused => exact h
  | keyCreated hfresh hadd => exact h.addApiKey hadd
  | keyRevoked hfound => exact h.deactivateKey _
  | lobbyCreated hcreate => exact h.commit (keyRing_createMatchLobby hcreate) (keysBacked_createMatchLobby hcreate)
  | joined hjoin =>
      have hring := keyRing_joinDbMatch hjoin
      obtain ⟨matchRow, -, -, hrecord⟩ := joinDbMatch_eq_ok hjoin
      refine h.commit hring (KeysBacked.congr hring ?_)
      rw [hrecord]
      exact keysBacked_composeLoadedMatchRecord hashApiKey _ _ _ _
  | started hstart =>
      obtain ⟨matchRow, -, -, -, hdb, hrecord⟩ := startMatchLobby_eq_ok hstart
      have hring := congrArg Database.keyRing hdb
      refine h.commit hring (KeysBacked.congr hring ?_)
      rw [hrecord]
      exact keysBacked_composeLoadedMatchRecord hashApiKey _ _ _ _
  | commanded hrecord hcommand => exact ⟨h.known, h.inactive, h.unlisted⟩
  | tickIdle hrecord => exact ⟨h.known, h.inactive, h.unlisted⟩
  | tickRaised hrecord hactive htick => exact ⟨h.known, h.inactive, h.unlisted⟩
  | ticked hrecord hactive htick hpersist =>
      have hring := keyRing_persistAdvancedMatchTick hpersist
      exact ⟨hring ▸ h.known, hring ▸ h.inactive, h.unlisted⟩
  | hydrated hload => exact ⟨h.known, h.inactive, unlisted_loadMatchRegistryFromDatabase h.inactive hload⟩

variable (hashApiKey variant) in
theorem RevokesKey.step {event : ServerEvent} (h : RevokesKey server event keyHash) :
    ∃ id, (∃ row ∈ server.database.apiKeys.rows, row.id = id ∧ row.keyHash = keyHash) ∧
      serverStep hashApiKey variant server event =
        { server with database := server.database.deactivateKey id } := by
  obtain ⟨userId, keyId, apiKey, rfl, hfound, hhash⟩ := h
  refine ⟨apiKey.id, ⟨apiKey, (findOwnedApiKey_eq_some hfound).1, rfl, hhash⟩, ?_⟩
  simp only [serverStep, Server.revokeApiKey, revokeOwnedApiKey, hfound, Option.map_some, Server.after]

variable (hashApiKey variant) in
/-- Revoking a key that the registry's table does not hold silences it. -/
theorem RevokesKey.silenced {event : ServerEvent} (h : RevokesKey server event keyHash)
    (hunlisted : keyHash ∉ server.registry.authenticatedAgentsByKeyHash.keys) :
    Silenced (serverStep hashApiKey variant server event) keyHash := by
  obtain ⟨id, ⟨row, hrow, hid, hhash⟩, hstep⟩ := h.step hashApiKey variant
  rw [hstep]
  refine ⟨?_, ?_, hunlisted⟩
  · refine mem_keyRing.2 ⟨_, List.mem_map_of_mem hrow, ?_, ?_⟩
    · rw [if_pos hid]
      exact hhash
    · rw [if_pos hid]
  · intro hactive
    obtain ⟨other, hother, hsame, hflag⟩ := mem_keyRing_deactivateKey hactive
    -- hashes are distinct, so the row is the revoked one
    have heq : other = row :=
      List.inj_on_of_nodup_map server.database.keyHashes_nodup hother hrow (hsame.trans hhash.symm)
    rw [heq, if_pos hid] at hflag
    cases hflag

variable (hashApiKey variant) in
theorem RevokesKey.registry {event : ServerEvent} (h : RevokesKey server event keyHash) :
    (serverStep hashApiKey variant server event).registry = server.registry := by
  obtain ⟨id, -, hstep⟩ := h.step hashApiKey variant
  rw [hstep]

end Runs

/-- In every run: once the key has been revoked, no later state of the server resolves it. -/
def RevocationFinal (hashApiKey : String → String) (variant : StorageVariant) (server : Server)
    (events : List ServerEvent) (apiKey : String) : Prop :=
  ∀ before revocation after, events = before ++ revocation :: after →
    RevokesKey (before.foldl (serverStep hashApiKey variant) server) revocation (hashApiKey apiKey) →
    ∀ later ∈ Run.states (serverStep hashApiKey variant)
        (serverStep hashApiKey variant (before.foldl (serverStep hashApiKey variant) server) revocation) after,
      later.resolveAuthenticatedAgentContext hashApiKey (some apiKey) = none

/-- In every run: whenever the key is revoked, the registry's table holds no entry under its hash. -/
def RevokedUnlisted (hashApiKey : String → String) (variant : StorageVariant) (server : Server)
    (events : List ServerEvent) (apiKey : String) : Prop :=
  ∀ t ∈ Run.steps (serverStep hashApiKey variant) server events, RevokesKey t.1 t.2 (hashApiKey apiKey) →
    hashApiKey apiKey ∉ t.1.registry.authenticatedAgentsByKeyHash.keys

/-- A revocation is final exactly when the registry had no entry of the key's at the time. -/
theorem revocationFinal_iff (hashApiKey : String → String) (variant : StorageVariant) (server : Server)
    (events : List ServerEvent) (apiKey : String) :
    RevocationFinal hashApiKey variant server events apiKey ↔
      RevokedUnlisted hashApiKey variant server events apiKey := by
  constructor
  · intro hfinal t ht hrevokes
    obtain ⟨before, after, hevents, hstate⟩ := Run.mem_steps.1 ht
    have hstate' : before.foldl (serverStep hashApiKey variant) server = t.1 := hstate.symm
    have hsilent := hfinal before t.2 after hevents (hstate' ▸ hrevokes) _ (Run.mem_states_self _ after)
    rw [hstate'] at hsilent
    rw [← OrdDict.get?_eq_none, ← hrevokes.registry hashApiKey variant]
    unfold Server.resolveAuthenticatedAgentContext at hsilent
    dsimp only at hsilent
    split at hsilent
    · cases hsilent
    · assumption
  · intro hunlisted before revocation after hevents hrevokes later hlater
    have hmem : (before.foldl (serverStep hashApiKey variant) server, revocation) ∈
        Run.steps (serverStep hashApiKey variant) server events := Run.mem_steps.2 ⟨before, after, hevents, rfl⟩
    have hsilenced := hrevokes.silenced hashApiKey variant (hunlisted _ hmem hrevokes)
    have hlast := Run.invariant (I := fun state => Silenced state (hashApiKey apiKey))
      (fun _ event hs => hs.step event) hsilenced after later hlater
    exact hlast.resolve

/-- A new key creates a lobby. -/
def keyedLobby : List ServerEvent :=
  [ .createApiKey deploymentOwner [deploymentToken] deploymentKeyId 1,
    .createLobby ⟨some (rawApiKey deploymentToken), none⟩ (deploymentRequest 0) deploymentMatchId ]

/-- The key authenticates after its revocation. -/
theorem revoked_creator_authenticates :
    ¬ RevocationFinal deploymentHash .postgres deployment
      (keyedLobby ++ [.revokeApiKey deploymentOwner deploymentKeyId]) (rawApiKey deploymentToken) := by
  intro hfinal
  have hrevokes : RevokesKey (keyedLobby.foldl (serverStep deploymentHash .postgres) deployment)
      (.revokeApiKey deploymentOwner deploymentKeyId) (deploymentHash (rawApiKey deploymentToken)) :=
    ⟨deploymentOwner, deploymentKeyId,
      ⟨deploymentKeyId, deploymentOwner, deploymentHash (rawApiKey deploymentToken), 0, true, 1⟩, rfl,
      by decide +kernel, rfl⟩
  have hsilent := hfinal keyedLobby _ [] rfl hrevokes _ (Run.mem_states_self _ [])
  revert hsilent
  decide +kernel

end IronCouncil
