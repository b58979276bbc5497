import IronCouncil.Db.ApiKeyLifecycle
import IronCouncil.Db.Hydration
import IronCouncil.MatchInitialization

/-!
# Lobbies

Creating a lobby, joining a match and starting one. Each is one transaction and returns the record that the route seeds the registry with: a join's and a start's is rebuilt from the rows.
-/

namespace IronCouncil

/-- The caller, as the route has resolved it: a key by its hash, or a user. -/
inductive LobbyActor
  | agent (keyHash : String)
  | human (userId : String)
deriving DecidableEq, Repr

inductive LobbyError
  | creation (code message : String)
  | join (code message : String)
  | start (code message : String)
  | persistence (error : PersistenceError)
deriving DecidableEq, Repr

/-- A parsed request: the counts the parser wants positive are. -/
structure MatchLobbyCreateRequest where
  map : String
  tickIntervalSeconds : Nat
  tickIntervalSeconds_pos : 0 < tickIntervalSeconds
  maxPlayers : Nat
  maxPlayers_pos : 0 < maxPlayers
  victoryCityThreshold : Nat
  victoryCityThreshold_pos : 0 < victoryCityThreshold
  startingCitiesPerPlayer : Nat
deriving Repr

structure MatchLobbySummary where
  matchId : String
  status : MatchStatus
  map : String
  tick : Nat
  tickIntervalSeconds : Nat
  currentPlayerCount : Nat
  maxPlayerCount : Nat
  openSlotCount : Nat
deriving DecidableEq, Repr

structure CreatedMatchLobby where
  response : MatchLobbySummary
  creatorPlayerId : String
  record : MatchRecord

structure MatchJoinResponse where
  matchId : String
  agentId : String
  playerId : String
deriving DecidableEq, Repr

structure JoinedMatch where
  response : MatchJoinResponse
  record : MatchRecord

structure StartedMatchLobby where
  response : MatchLobbySummary
  record : MatchRecord

def invalidApiKeyCode : String := "invalid_api_key"
def invalidApiKeyMessage : String := "A valid active X-API-Key header is required."
def occupancyLimitCode : String := "api_key_match_occupancy_limit_reached"
def occupancyLimitMessage : String := "API key already occupies the maximum number of lobby or active matches."

/-- Whether a key may occupy another match. `raise` makes the operation's own error. -/
def requireMatchCapacity (raise : String → String → LobbyError) (db : Database) (apiKeyId : String) :
    Except LobbyError Unit :=
  match getApiKeyMatchOccupancyEntitlement db apiKeyId with
  | .error error => .error (.persistence error)
  | .ok occupancyEntitlement =>
      if occupancyEntitlement.entitlement.isEntitled = false then
        .error (raise agentEntitlementRequiredCode agentEntitlementRequiredMessage)
      else if occupancyEntitlement.hasCapacity = false then .error (raise occupancyLimitCode occupancyLimitMessage)
      else .ok ()

/-- Who a new player row is for. -/
structure PlayerIdentity where
  userId : String
  displayName : String
  isAgent : Bool
  apiKeyId : Option String
  eloRating : Int
deriving DecidableEq, Repr

def agentIdentity (agent : ResolvedAuthenticatedDbAgent) : PlayerIdentity where
  userId := agent.userId
  displayName := agent.context.displayName
  isAgent := true
  apiKeyId := some agent.apiKeyId
  eloRating := agent.eloRating

def humanIdentity (db : Database) (userId : String) : PlayerIdentity where
  userId := userId
  displayName := resolveHumanDisplayName db userId
  isAgent := false
  apiKeyId := none
  eloRating := resolveHumanEloRating db userId

/-- The row of the player who joins a match as the `joinIndex`-th. -/
def joinedPlayerRow (matchId : String) (joinIndex : Nat) (identity : PlayerIdentity) : PlayerRow where
  id := buildMatchScopedPlayerId matchId joinIndex
  userId := identity.userId
  matchId := matchId
  displayName := identity.displayName
  isAgent := identity.isAgent
  apiKeyId := identity.apiKeyId
  eloRating := identity.eloRating
  allianceId := none
  allianceJoinedTick := none

def addPlayer (db : Database) (player : PlayerRow) : Except LobbyError Database :=
  match sessionAdd db.players player with
  | .error error => .error (.persistence error)
  | .ok players => .ok { db with players }

theorem addPlayer_eq_ok {db db' : Database} {player : PlayerRow} (h : addPlayer db player = .ok db') :
    ∃ players, sessionAdd db.players player = .ok players ∧ db' = { db with players } := by
  unfold addPlayer at h
  split at h
  · cases h
  · rename_i players hadd
    cases h
    exact ⟨players, hadd, rfl⟩

section Lobby

variable (hashApiKey : String → String) (variant : StorageVariant)

/-! ### Creating a lobby -/

/-- The creator's identity, and for an agent the profile and the key that the record brings. -/
def resolveLobbyCreator (db : Database) : LobbyActor →
    Except LobbyError (PlayerIdentity × Option (AuthenticatedAgentContext × AuthenticatedAgentKeyRecord))
  | .agent keyHash =>
      match resolveAuthenticatedAgentFromDbKeyHash hashApiKey db keyHash with
      | none => .error (.creation invalidApiKeyCode invalidApiKeyMessage)
      | some agent =>
          match requireMatchCapacity .creation db agent.apiKeyId with
          | .error error => .error error
          | .ok () => .ok (agentIdentity agent, some (agent.context, ⟨agent.context.agentId, keyHash, true⟩))
  | .human userId => .ok (humanIdentity db userId, none)

def lobbyConfig (request : MatchLobbyCreateRequest) : MatchConfig where
  victoryCityThreshold := request.victoryCityThreshold
  startingCitiesPerPlayer := request.startingCitiesPerPlayer
  startingResources := ⟨120, 85, 200⟩

def lobbyRoster (request : MatchLobbyCreateRequest) : List MatchRosterEntry :=
  (List.range' 1 request.maxPlayers).map fun playerIndex => ⟨canonicalPlayerId playerIndex, none⟩

def lobbyMatchRow (matchId : String) (request : MatchLobbyCreateRequest) (state : MatchState)
    (creator : PlayerIdentity) : MatchRow where
  id := matchId
  config :=
    { map := some request.map
      maxPlayers := some request.maxPlayers
      turnSeconds := some request.tickIntervalSeconds
      victoryCityThreshold := request.victoryCityThreshold
      startingCitiesPerPlayer := request.startingCitiesPerPlayer
      creatorApiKeyId := creator.apiKeyId
      creatorUserId := some creator.userId }
  status := .lobby
  currentTick := state.tick
  state := state
  winnerAlliance := none

def lobbyRecord (matchId : String) (request : MatchLobbyCreateRequest) (state : MatchState)
    (creator : PlayerIdentity) (agent : Option (AuthenticatedAgentContext × AuthenticatedAgentKeyRecord)) :
    MatchRecord :=
  let creatorPlayerId := canonicalPlayerId 1
  { MatchRecord.ofState matchId .lobby state with
    tickIntervalSeconds := request.tickIntervalSeconds
    mapId := request.map
    maxPlayerCount := some request.maxPlayers
    currentPlayerCount := some 1
    joinablePlayerIds := (List.range' 2 (request.maxPlayers - 1)).map canonicalPlayerId
    agentProfiles := agent.toList.map fun creatorAgent =>
      ⟨creatorAgent.1.agentId, creatorAgent.1.displayName, creatorAgent.1.isSeeded⟩
    publicCompetitorKinds := OrdDict.ofList [(creatorPlayerId, if creator.isAgent then .agent else .human)]
    joinedAgents := OrdDict.ofList (agent.toList.map fun creatorAgent => (creatorAgent.1.agentId, creatorPlayerId))
    joinedHumans := OrdDict.ofList (if creator.isAgent then [] else [(creator.userId, creatorPlayerId)])
    authenticatedAgentKeys := agent.toList.map Prod.snd }

/-- An empty display name is replaced by the user's id, or else by a fixed text. -/
def creatorDisplayName (actor : LobbyActor) (displayName : String) : String :=
  let fallback := "Human player"
  match displayName, actor with
  | "", .agent _ => fallback
  | "", .human "" => fallback
  | "", .human userId => userId
  | displayName, _ => displayName

/-- `matchId` is the drawn id. -/
def createMatchLobby (db : Database) (actor : LobbyActor) (request : MatchLobbyCreateRequest) (matchId : String) :
    Except LobbyError (Database × CreatedMatchLobby) :=
  match initializeMatchState (lobbyConfig request) (lobbyRoster request) none with
  | .error error => .error (.creation "invalid_match_lobby_config" error.message)
  | .ok initialState =>
      match resolveLobbyCreator hashApiKey db actor with
      | .error error => .error error
      | .ok (creator, agent) =>
          match sessionAdd db.matchRows (lobbyMatchRow matchId request initialState creator) with
          | .error error => .error (.persistence error)
          | .ok matchRows =>
              let named := { creator with displayName := creatorDisplayName actor creator.displayName }
              match addPlayer { db with matchRows } (joinedPlayerRow matchId 1 named) with
              | .error error => .error error
              | .ok db =>
                  .ok (db,
                    { response :=
                        { matchId
                          status := .lobby
                          map := request.map
                          tick := initialState.tick
                          tickIntervalSeconds := request.tickIntervalSeconds
                          currentPlayerCount := 1
                          maxPlayerCount := request.maxPlayers
                          openSlotCount := request.maxPlayers - 1 }
                      creatorPlayerId := canonicalPlayerId 1
                      record := lobbyRecord matchId request initialState creator agent })

/-! ### Joining a match -/

def loadRecord (db : Database) (matchRow : MatchRow) : Except LobbyError MatchRecord :=
  match loadMatchRecordFromSession hashApiKey db matchRow with
  | .error error => .error (.persistence error)
  | .ok record => .ok record

/-- Add the row of a new player under the first joinable id, and load the match again. -/
def joinAs (db : Database) (matchRow : MatchRow) (joinedRecord : MatchRecord) (agentId kind : String)
    (identity : PlayerIdentity) : Except LobbyError (Database × JoinedMatch) :=
  match joinedRecord.joinablePlayerIds with
  | [] => .error (.join "match_not_joinable" s!"Match '{matchRow.id}' does not support {kind} joins.")
  | assignedPlayerId :: _ =>
      let joinIndex := joinedRecord.joinedAgents.keys.length + joinedRecord.joinedHumans.keys.length + 1
      match addPlayer db (joinedPlayerRow matchRow.id joinIndex identity) with
      | .error error => .error error
      | .ok db =>
          match loadRecord hashApiKey db matchRow with
          | .error error => .error error
          | .ok updatedRecord => .ok (db, ⟨⟨matchRow.id, agentId, assignedPlayerId⟩, updatedRecord⟩)

def joinMatchAsAgent (db : Database) (matchRow : MatchRow) (joinedRecord : MatchRecord) (keyHash : String) :
    Except LobbyError (Database × JoinedMatch) :=
  match resolveAuthenticatedAgentFromDbKeyHash hashApiKey db keyHash with
  | none => .error (.join invalidApiKeyCode invalidApiKeyMessage)
  | some agent =>
      match joinedRecord.joinedAgents.get? agent.context.agentId with
      | some existingPlayerId =>
          .ok (db, ⟨⟨matchRow.id, agent.context.agentId, existingPlayerId⟩, joinedRecord⟩)
      | none =>
          let capacity :=
            if matchRow.status = .lobby ∨ matchRow.status = .active then
              requireMatchCapacity .join db agent.apiKeyId
            else .ok ()
          match capacity with
          | .error error => .error error
          | .ok () => joinAs hashApiKey db matchRow joinedRecord agent.context.agentId "agent" (agentIdentity agent)

def joinMatchAsHuman (db : Database) (matchRow : MatchRow) (joinedRecord : MatchRecord) (userId : String) :
    Except LobbyError (Database × JoinedMatch) :=
  match joinedRecord.joinedHumans.get? userId with
  | some existingPlayerId => .ok (db, ⟨⟨matchRow.id, buildHumanActorId userId, existingPlayerId⟩, joinedRecord⟩)
  | none =>
      joinAs hashApiKey db matchRow joinedRecord (buildHumanActorId userId) "player" (humanIdentity db userId)

def joinDbMatch (db : Database) (matchId : String) (actor : LobbyActor) :
    Except LobbyError (Database × JoinedMatch) :=
  match sessionGet variant db.matchRows matchId with
  | .error error => .error (.persistence error)
  | .ok none => .error (.join "match_not_found" s!"Match '{matchId}' was not found.")
  | .ok (some matchRow) =>
      match loadRecord hashApiKey db matchRow with
      | .error error => .error error
      | .ok joinedRecord =>
          match actor with
          | .agent keyHash => joinMatchAsAgent hashApiKey db matchRow joinedRecord keyHash
          | .human userId => joinMatchAsHuman hashApiKey db matchRow joinedRecord userId

/-! ### Starting a match -/

/-- The key an agent starts a lobby with, by id. -/
def resolveStarter (db : Database) : LobbyActor → Except LobbyError (Option String)
  | .agent keyHash =>
      match resolveAuthenticatedAgentFromDbKeyHash hashApiKey db keyHash with
      | none => .error (.start invalidApiKeyCode invalidApiKeyMessage)
      | some agent => .ok (some agent.apiKeyId)
  | .human _ => .ok none

def requireStartable (matchRow : MatchRow) : Except LobbyError Unit :=
  match matchRow.status with
  | .lobby => .ok ()
  | .active => .error (.start "match_already_active" s!"Match '{matchRow.id}' is already active.")
  | .completed => .error (.start "match_already_completed" s!"Match '{matchRow.id}' is already completed.")
  | .paused => .error (.start "match_not_startable"
      s!"Match '{matchRow.id}' cannot be started from status '{matchRow.status.value}'.")

def requireLobbyOwner (matchRow : MatchRow) (actor : LobbyActor) (apiKeyId : Option String) : Except LobbyError Unit :=
  let creatorApiKeyId := matchRow.config.creatorApiKeyId.filter (· ≠ "")
  let creatorUserId := matchRow.config.creatorUserId.filter (· ≠ "")
  match actor with
  | .agent _ =>
      if creatorApiKeyId = apiKeyId then .ok ()
      else .error (.start "match_start_forbidden" s!"Authenticated agent does not own lobby '{matchRow.id}'.")
  | .human userId =>
      if creatorUserId = some userId ∧ creatorApiKeyId = none then .ok ()
      else .error (.start "match_start_forbidden" s!"Authenticated human does not own lobby '{matchRow.id}'.")

def MatchRecord.summary (record : MatchRecord) : MatchLobbySummary :=
  let maxPlayerCount := record.maxPlayerCount.getD record.state.players.keys.length
  let joined := record.joinedAgents.keys.length + record.joinedHumans.keys.length
  let currentPlayerCount := record.currentPlayerCount.getD
    (if joined = 0 then record.state.players.keys.length - record.joinablePlayerIds.length else joined)
  { matchId := record.matchId
    status := record.status
    map := record.mapId
    tick := record.state.tick
    tickIntervalSeconds := record.tickIntervalSeconds
    currentPlayerCount
    maxPlayerCount
    openSlotCount := maxPlayerCount - currentPlayerCount }

def startedMatchRow (matchRow : MatchRow) : MatchRow := { matchRow with status := .active }

def activateMatch (db : Database) (matchRow : MatchRow) : Database :=
  { db with matchRows := db.matchRows.update matchRow.id startedMatchRow fun _ => rfl }

def startMatchLobby (db : Database) (matchId : String) (actor : LobbyActor) :
    Except LobbyError (Database × StartedMatchLobby) :=
  match resolveStarter hashApiKey db actor with
  | .error error => .error error
  | .ok apiKeyId =>
      match sessionGet variant db.matchRows matchId with
      | .error error => .error (.persistence error)
      | .ok none => .error (.start "match_not_found" s!"Match '{matchId}' was not found.")
      | .ok (some matchRow) =>
          match requireStartable matchRow with
          | .error error => .error error
          | .ok () =>
              match requireLobbyOwner matchRow actor apiKeyId with
              | .error error => .error error
              | .ok () =>
                  if (db.playersOfMatch matchId).length < 2 then
                    .error (.start "match_lobby_not_ready"
                      s!"Match '{matchId}' needs at least 2 joined players before it can start.")
                  else
                    match loadRecord hashApiKey (activateMatch db matchRow) (startedMatchRow matchRow) with
                    | .error error => .error error
                    | .ok startedRecord =>
                        .ok (activateMatch db matchRow, ⟨startedRecord.summary, startedRecord⟩)

end Lobby

/-! ### What the operations do -/

section Effects

variable {hashApiKey : String → String} {variant : StorageVariant} {db db' : Database}

/-- A player row's identity is that of an active key's agent or of a user, with the rating of the moment. -/
inductive Resolved (hashApiKey : String → String) (db : Database) : PlayerIdentity → Prop
  | agent (keyHash : String) (agent : ResolvedAuthenticatedDbAgent)
      (h : resolveAuthenticatedAgentFromDbKeyHash hashApiKey db keyHash = some agent) :
      Resolved hashApiKey db (agentIdentity agent)
  | human (userId : String) : Resolved hashApiKey db (humanIdentity db userId)

theorem loadRecord_eq_ok {matchRow : MatchRow} {record : MatchRecord}
    (h : loadRecord hashApiKey db matchRow = .ok record) :
    record = composeLoadedMatchRecord hashApiKey db matchRow (db.playersOfMatch matchRow.id) [] := by
  unfold loadRecord at h
  split at h
  · cases h
  · rename_i loaded hload
    cases h
    exact loadMatchRecordFromSession_eq_ok hashApiKey hload

/-- A join adds at most one row, that of the caller, and returns what the rows then hold. -/
theorem joinAs_eq_ok {matchRow : MatchRow} {joinedRecord : MatchRecord} {agentId kind : String}
    {identity : PlayerIdentity} {joined : JoinedMatch}
    (h : joinAs hashApiKey db matchRow joinedRecord agentId kind identity = .ok (db', joined)) :
    ∃ joinIndex, addPlayer db (joinedPlayerRow matchRow.id joinIndex identity) = .ok db' ∧
      joined.record = composeLoadedMatchRecord hashApiKey db' matchRow (db'.playersOfMatch matchRow.id) [] := by
  unfold joinAs at h
  split at h
  · cases h
  · dsimp only at h
    split at h
    · cases h
    · rename_i added hadd
      split at h
      · cases h
      · rename_i updated hload
        cases h
        exact ⟨_, hadd, loadRecord_eq_ok hload⟩

theorem joinDbMatch_eq_ok {matchId : String} {actor : LobbyActor} {joined : JoinedMatch}
    (h : joinDbMatch hashApiKey variant db matchId actor = .ok (db', joined)) :
    ∃ matchRow, db.matchRows.get? matchId = some matchRow ∧
      (db' = db ∨ ∃ identity joinIndex, Resolved hashApiKey db identity ∧
        addPlayer db (joinedPlayerRow matchRow.id joinIndex identity) = .ok db') ∧
      joined.record = composeLoadedMatchRecord hashApiKey db' matchRow (db'.playersOfMatch matchRow.id) [] := by
  unfold joinDbMatch at h
  split at h
  · cases h
  · cases h
  · rename_i matchRow hget
    refine ⟨matchRow, (sessionGet_eq_ok hget).symm, ?_⟩
    split at h
    · cases h
    · rename_i joinedRecord hload
      have hrecord := loadRecord_eq_ok hload
      split at h
      · unfold joinMatchAsAgent at h
        split at h
        · cases h
        · rename_i keyHash agent hagent
          split at h
          · cases h
            exact ⟨Or.inl rfl, hrecord⟩
          · dsimp only at h
            split at h
            · cases h
            · obtain ⟨joinIndex, hadd, hloaded⟩ := joinAs_eq_ok h
              exact ⟨Or.inr ⟨_, joinIndex, .agent _ agent hagent, hadd⟩, hloaded⟩
      · unfold joinMatchAsHuman at h
        split at h
        · cases h
          exact ⟨Or.inl rfl, hrecord⟩
        · obtain ⟨joinIndex, hadd, hloaded⟩ := joinAs_eq_ok h
          exact ⟨Or.inr ⟨_, joinIndex, .human _, hadd⟩, hloaded⟩

theorem startMatchLobby_eq_ok {matchId : String} {actor : LobbyActor} {started : StartedMatchLobby}
    (h : startMatchLobby hashApiKey variant db matchId actor = .ok (db', started)) :
    ∃ matchRow, db.matchRows.get? matchId = some matchRow ∧ matchRow.status = .lobby ∧
      2 ≤ (db.playersOfMatch matchId).length ∧ db' = activateMatch db matchRow ∧
      started.record = composeLoadedMatchRecord hashApiKey db' (startedMatchRow matchRow)
        (db'.playersOfMatch matchRow.id) [] := by
  unfold startMatchLobby at h
  split at h
  · cases h
  · split at h
    · cases h
    · cases h
    · rename_i matchRow hget
      split at h
      · cases h
      · rename_i hstartable
        split at h
        · cases h
        · split at h
          · cases h
          · rename_i hready
            split at h
            · cases h
            · rename_i startedRecord hload
              cases h
              have hlobby : matchRow.status = .lobby := by
                unfold requireStartable at hstartable
                split at hstartable
                · assumption
                · cases hstartable
                · cases hstartable
                · cases hstartable
              exact ⟨matchRow, (sessionGet_eq_ok hget).symm, hlobby, Nat.le_of_not_lt hready, rfl, loadRecord_eq_ok hload⟩

theorem resolveLobbyCreator_eq_ok {actor : LobbyActor} {creator : PlayerIdentity}
    {agent : Option (AuthenticatedAgentContext × AuthenticatedAgentKeyRecord)}
    (h : resolveLobbyCreator hashApiKey db actor = .ok (creator, agent)) :
    Resolved hashApiKey db creator ∧ ∀ found, agent = some found →
      ∃ apiKey ∈ db.apiKeys.rows, apiKey.keyHash = found.2.keyHash ∧ apiKey.isActive = true := by
  unfold resolveLobbyCreator at h
  split at h
  · split at h
    · cases h
    · rename_i resolved hresolved
      split at h
      · cases h
      · cases h
        refine ⟨.agent _ resolved hresolved, ?_⟩
        intro found hfound
        obtain ⟨apiKey, hrow, hhash, hactive, -⟩ := resolveAuthenticatedAgentFromDbKeyHash_eq_some hashApiKey hresolved
        cases hfound
        exact ⟨apiKey, hrow, hhash, hactive⟩
  · cases h
    refine ⟨.human _, ?_⟩
    intro found hfound
    cases hfound

theorem createMatchLobby_eq_ok {actor : LobbyActor} {request : MatchLobbyCreateRequest} {matchId : String}
    {created : CreatedMatchLobby}
    (h : createMatchLobby hashApiKey db actor request matchId = .ok (db', created)) :
    ∃ state creator agent matchRows,
      initializeMatchState (lobbyConfig request) (lobbyRoster request) none = .ok state ∧
      resolveLobbyCreator hashApiKey db actor = .ok (creator, agent) ∧
      sessionAdd db.matchRows (lobbyMatchRow matchId request state creator) = .ok matchRows ∧
      addPlayer { db with matchRows } (joinedPlayerRow matchId 1
        { creator with displayName := creatorDisplayName actor creator.displayName }) = .ok db' ∧
      created.record = lobbyRecord matchId request state creator agent := by
  unfold createMatchLobby at h
  split at h
  · cases h
  · rename_i state hstate
    split at h
    · cases h
    · rename_i creator agent hcreator
      split at h
      · cases h
      · rename_i matchRows hmatch
        dsimp only at h
        split at h
        · cases h
        · rename_i added hadd
          cases h
          exact ⟨state, creator, agent, matchRows, hstate, hcreator, hmatch, hadd, rfl⟩

end Effects

end IronCouncil
