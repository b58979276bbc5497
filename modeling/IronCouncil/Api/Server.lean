import IronCouncil.Db.LobbyRegistry
import IronCouncil.Runtime

/-!
# The server

The routes in database-backed mode over the registry and the database, and the server as a state machine: requests and ticks, one at a time. A request that is refused, or raises, changes nothing.
-/

namespace IronCouncil

/-! ### Commands to a live match -/

inductive MatchCommand
  | orders (orders : OrderBatch)
  | message (request : MatchMessageCreateRequest)
  | groupChat (request : GroupChatCreateRequest)
  | groupChatMessage (groupChatId : String) (request : GroupChatMessageCreateRequest)
  | treaty (action : TreatyActionRequest)
  | alliance (action : AllianceActionRequest)
  | envelope (command : AgentCommandEnvelopeRequest)
deriving DecidableEq, Repr

inductive CommandAcceptance
  | orders (stored : OrderEnvelope)
  | message (stored : MatchMessage)
  | groupChat (stored : MatchGroupChat)
  | groupChatMessage (stored : MatchGroupChatMessage)
  | treaty (stored : MatchTreaty)
  | alliance (stored : Option MatchAlliance)
  | envelope (response : AgentCommandEnvelopeResponse)
deriving DecidableEq, Repr

def applyMatchCommand (record : MatchRecord) (playerId : String) :
    MatchCommand → Except RegistryError (MatchRecord × CommandAcceptance)
  | .orders orders =>
      let envelope : OrderEnvelope := ⟨record.matchId, playerId, record.state.tick, orders⟩
      .ok ((recordSubmission record envelope).1, .orders envelope)
  | .message request =>
      (recordMessage record record.matchId request playerId).map fun posted => (posted.1, .message posted.2)
  | .groupChat request =>
      let created := createGroupChat record request playerId
      .ok (created.1, .groupChat created.2)
  | .groupChatMessage groupChatId request =>
      (recordGroupChatMessage record groupChatId request playerId).map fun posted =>
        (posted.1, .groupChatMessage posted.2)
  | .treaty action => (applyTreatyAction record action playerId).map fun applied => (applied.1, .treaty applied.2)
  | .alliance action =>
      (applyAllianceAction record record.matchId action playerId).map fun applied => (applied.1, .alliance applied.2)
  | .envelope command =>
      (applyCommandEnvelope record record.matchId command playerId).map fun applied => (applied.1, .envelope applied.2)

/-! ### Callers -/

/-- What a request comes with: a key, and the user its Bearer token names once it has been validated. -/
structure Credentials where
  apiKey : Option String
  humanUserId : Option String
deriving DecidableEq, Repr

inductive ServerError
  | api (code message : String)
  | lobby (error : LobbyError)
  | apiKey (error : ApiKeyError)
  | registry (error : RegistryError)
  | runtime (error : RuntimeError)
  | persistence (error : PersistenceError)
deriving DecidableEq, Repr

def invalidApiKey : ServerError := .api invalidApiKeyCode invalidApiKeyMessage

def matchNotFound (matchId : String) : ServerError := .api "match_not_found" s!"Match '{matchId}' was not found."

/-- The registry, the database and the last reading of the clock. -/
structure Server where
  registry : InMemoryMatchRegistry
  database : Database
  clock : Nat

namespace Server

section Routes

variable (hashApiKey : String → String) (variant : StorageVariant)

/-- The registry's table is asked first, and the database only when it has no entry. -/
def resolveAuthenticatedAgentContext (server : Server) : Option String → Option AuthenticatedAgentContext
  | none => none
  | some apiKey =>
      match server.registry.resolveAuthenticatedAgent hashApiKey apiKey with
      | some agent => some agent
      | none => IronCouncil.resolveAuthenticatedAgentContext hashApiKey server.database apiKey

def resolveAuthenticatedLobbyActor (server : Server) (credentials : Credentials) : Except ServerError LobbyActor :=
  match server.resolveAuthenticatedAgentContext hashApiKey credentials.apiKey, credentials.apiKey with
  | some _, some apiKey => .ok (.agent (hashApiKey apiKey))
  | _, some _ => .error invalidApiKey
  | _, none =>
      match credentials.humanUserId with
      | none => .error (.api "invalid_player_auth"
          "Player routes require a valid Bearer token or active X-API-Key header.")
      | some userId => .ok (.human userId)

/-! ### Routes -/

def createApiKey (server : Server) (userId : String) (tokens : List String) (keyId : String) (createdAt : Nat) :
    Except ServerError (Server × String × OwnedApiKeySummary) :=
  match createOwnedApiKey hashApiKey server.database userId tokens keyId createdAt with
  | .error error => .error (.apiKey error)
  | .ok (database, created) => .ok ({ server with database }, created)

def revokeApiKey (server : Server) (userId keyId : String) : Except ServerError (Server × OwnedApiKeySummary) :=
  match revokeOwnedApiKey server.database userId keyId with
  | none => .error (.api "api_key_not_found" s!"API key '{keyId}' was not found.")
  | some (database, summary) => .ok ({ server with database }, summary)

/-- Commit a lobby operation's rows and seed the registry with its record. -/
def commit (server : Server) (database : Database) (record : MatchRecord) : Server :=
  { server with database, registry := server.registry.seedMatch record }

def createLobby (server : Server) (credentials : Credentials) (request : MatchLobbyCreateRequest) (matchId : String) :
    Except ServerError (Server × CreatedMatchLobby) :=
  match server.resolveAuthenticatedLobbyActor hashApiKey credentials with
  | .error error => .error error
  | .ok actor =>
      match createMatchLobby hashApiKey server.database actor request matchId with
      | .error error => .error (.lobby error)
      | .ok (database, created) => .ok (server.commit database created.record, created)

def join (server : Server) (credentials : Credentials) (matchId requestMatchId : String) :
    Except ServerError (Server × JoinedMatch) :=
  match server.registry.getMatch matchId with
  | none => .error (matchNotFound matchId)
  | some record =>
      if credentials.apiKey = none ∧ credentials.humanUserId = none ∧ record.status ≠ .lobby then .error invalidApiKey
      else if requestMatchId ≠ matchId then
        .error (.api "match_id_mismatch"
          s!"Join payload match_id '{requestMatchId}' does not match route match '{matchId}'.")
      else
        match server.resolveAuthenticatedLobbyActor hashApiKey credentials with
        | .error error => .error error
        | .ok actor =>
            match joinDbMatch hashApiKey variant server.database matchId actor with
            | .error error => .error (.lobby error)
            | .ok (database, joined) => .ok (server.commit database joined.record, joined)

def start (server : Server) (credentials : Credentials) (matchId : String) :
    Except ServerError (Server × StartedMatchLobby) :=
  match server.resolveAuthenticatedLobbyActor hashApiKey credentials with
  | .error error => .error error
  | .ok actor =>
      match startMatchLobby hashApiKey variant server.database matchId actor with
      | .error error => .error (.lobby error)
      | .ok (database, started) => .ok (server.commit database started.record, started)

def storeRecord (server : Server) (matchId : String) (record : MatchRecord) : Server :=
  { server with registry := server.registry.storeMatch matchId record }

def command (server : Server) (matchId playerId : String) (command : MatchCommand) :
    Except ServerError (Server × CommandAcceptance) :=
  match server.registry.getMatch matchId with
  | none => .error (matchNotFound matchId)
  | some record =>
      match applyMatchCommand record playerId command with
      | .error error => .error (.registry error)
      | .ok (next, accepted) => .ok (server.storeRecord matchId next, accepted)

/-- A clock reading is later than the one before it. -/
def readClock (server : Server) (elapsed : Nat) : Nat := server.clock + 1 + elapsed

/-- A round of a match's loop. A tick that raises while it resolves has already changed the record. -/
def tick (server : Server) (matchId : String) (newId : Nat → String) (elapsed : Nat) :
    Server × Except ServerError AdvancedMatchTick :=
  match server.registry.getMatch matchId with
  | none => (server, .error (matchNotFound matchId))
  | some record =>
      let settledAt := server.readClock elapsed
      let (next, database, outcome) :=
        runMatchTick (persistAdvancedMatchTick variant newId settledAt) server.database record
      ({ server with registry := server.registry.storeMatch matchId next, database, clock := settledAt },
        outcome.mapError .runtime)

/-- A start of the server on its database. -/
def hydrate (server : Server) : Except ServerError Server :=
  match loadMatchRegistryFromDatabase hashApiKey server.database with
  | .error error => .error (.persistence error)
  | .ok registry => .ok { server with registry }

/-! ### The state machine -/

end Routes

end Server

/-- A command is applied for whichever player it names: the routes that ask for its key, its seat and its tick come before it. -/
inductive ServerEvent
  | createApiKey (userId : String) (tokens : List String) (keyId : String) (createdAt : Nat)
  | revokeApiKey (userId keyId : String)
  | createLobby (credentials : Credentials) (request : MatchLobbyCreateRequest) (matchId : String)
  | join (credentials : Credentials) (matchId requestMatchId : String)
  | start (credentials : Credentials) (matchId : String)
  | command (matchId playerId : String) (command : MatchCommand)
  | tick (matchId : String) (newId : Nat → String) (elapsed : Nat)
  | hydrate

/-- The server after a request: the one the route returns, or the one it found when it raised. -/
def Server.after {ρ : Type} (server : Server) (outcome : Except ServerError (Server × ρ)) : Server :=
  match outcome with
  | .error _ => server
  | .ok (next, _) => next

def serverStep (hashApiKey : String → String) (variant : StorageVariant) (server : Server) : ServerEvent → Server
  | .createApiKey userId tokens keyId createdAt =>
      server.after (server.createApiKey hashApiKey userId tokens keyId createdAt)
  | .revokeApiKey userId keyId => server.after (server.revokeApiKey userId keyId)
  | .createLobby credentials request matchId => server.after (server.createLobby hashApiKey credentials request matchId)
  | .join credentials matchId requestMatchId =>
      server.after (server.join hashApiKey variant credentials matchId requestMatchId)
  | .start credentials matchId => server.after (server.start hashApiKey variant credentials matchId)
  | .command matchId playerId command => server.after (server.command matchId playerId command)
  | .tick matchId newId elapsed => (server.tick variant matchId newId elapsed).1
  | .hydrate => server.after ((server.hydrate hashApiKey).map fun next => (next, ()))

/-! ### What a step can do -/

/-- The server after a round of a match's loop. -/
def Server.afterRound (server : Server) (matchId : String) (elapsed : Nat) (record : MatchRecord)
    (database : Database) : Server :=
  { server with
    registry := server.registry.storeMatch matchId record
    database := database
    clock := server.readClock elapsed }

inductive ServerEffect (hashApiKey : String → String) (variant : StorageVariant) (server : Server) :
    ServerEvent → Server → Prop
  | refused (event : ServerEvent) : ServerEffect hashApiKey variant server event server
  | keyCreated {userId : String} {tokens : List String} {keyId rawKey : String} {createdAt : Nat}
      {database : Database} (hfresh : hashApiKey rawKey ∉ server.database.keyHashes)
      (h : server.database.addApiKey
        (newApiKeyRow server.database userId keyId (hashApiKey rawKey) createdAt) hfresh = .ok database) :
      ServerEffect hashApiKey variant server (.createApiKey userId tokens keyId createdAt) { server with database }
  | keyRevoked {userId keyId : String} {apiKey : ApiKeyRow}
      (h : findOwnedApiKey server.database userId keyId = some apiKey) :
      ServerEffect hashApiKey variant server (.revokeApiKey userId keyId)
        { server with database := server.database.deactivateKey apiKey.id }
  | lobbyCreated {credentials : Credentials} {request : MatchLobbyCreateRequest} {matchId : String}
      {actor : LobbyActor} {database : Database} {created : CreatedMatchLobby}
      (h : createMatchLobby hashApiKey server.database actor request matchId = .ok (database, created)) :
      ServerEffect hashApiKey variant server (.createLobby credentials request matchId)
        (server.commit database created.record)
  | joined {credentials : Credentials} {matchId requestMatchId : String} {actor : LobbyActor}
      {database : Database} {joined : JoinedMatch}
      (h : joinDbMatch hashApiKey variant server.database matchId actor = .ok (database, joined)) :
      ServerEffect hashApiKey variant server (.join credentials matchId requestMatchId)
        (server.commit database joined.record)
  | started {credentials : Credentials} {matchId : String} {actor : LobbyActor} {database : Database}
      {started : StartedMatchLobby}
      (h : startMatchLobby hashApiKey variant server.database matchId actor = .ok (database, started)) :
      ServerEffect hashApiKey variant server (.start credentials matchId) (server.commit database started.record)
  | commanded {matchId playerId : String} {command : MatchCommand} {record next : MatchRecord}
      {accepted : CommandAcceptance} (hrecord : server.registry.getMatch matchId = some record)
      (h : applyMatchCommand record playerId command = .ok (next, accepted)) :
      ServerEffect hashApiKey variant server (.command matchId playerId command) (server.storeRecord matchId next)
  | tickIdle {matchId : String} {newId : Nat → String} {elapsed : Nat} {record : MatchRecord}
      (hrecord : server.registry.getMatch matchId = some record) :
      ServerEffect hashApiKey variant server (.tick matchId newId elapsed)
        (server.afterRound matchId elapsed record server.database)
  | tickRaised {matchId : String} {newId : Nat → String} {elapsed : Nat} {record : MatchRecord} {error : TickError}
      (hrecord : server.registry.getMatch matchId = some record) (hactive : record.status = .active)
      (h : (advanceRegistryTick record).2 = .error error) :
      ServerEffect hashApiKey variant server (.tick matchId newId elapsed)
        (server.afterRound matchId elapsed (advanceRegistryTick record).1 server.database)
  | ticked {matchId : String} {newId : Nat → String} {elapsed : Nat} {record : MatchRecord}
      {advancedTick : AdvancedMatchTick} {database : Database}
      (hrecord : server.registry.getMatch matchId = some record) (hactive : record.status = .active)
      (htick : (advanceRegistryTick record).2 = .ok advancedTick)
      (h : persistAdvancedMatchTick variant newId (server.readClock elapsed) server.database advancedTick =
        .ok database) :
      ServerEffect hashApiKey variant server (.tick matchId newId elapsed)
        (server.afterRound matchId elapsed (completeRecord advancedTick (advanceRegistryTick record).1) database)
  | hydrated {registry : InMemoryMatchRegistry}
      (h : loadMatchRegistryFromDatabase hashApiKey server.database = .ok registry) :
      ServerEffect hashApiKey variant server .hydrate { server with registry }

section Effects

variable {hashApiKey : String → String} {variant : StorageVariant} {server : Server}

/-- A step has the effect of its event, if the route returns one. -/
theorem effect_after {ρ : Type} {event : ServerEvent} {outcome : Except ServerError (Server × ρ)}
    (h : ∀ next result, outcome = .ok (next, result) → ServerEffect hashApiKey variant server event next) :
    ServerEffect hashApiKey variant server event (server.after outcome) := by
  unfold Server.after
  split
  · exact .refused event
  · exact h _ _ rfl

theorem createApiKey_effect {userId : String} {tokens : List String} {keyId : String} {createdAt : Nat}
    {next : Server} {result : String × OwnedApiKeySummary}
    (h : server.createApiKey hashApiKey userId tokens keyId createdAt = .ok (next, result)) :
    ServerEffect hashApiKey variant server (.createApiKey userId tokens keyId createdAt) next := by
  unfold Server.createApiKey at h
  split at h
  · cases h
  · rename_i database created hcreate
    cases h
    obtain ⟨rawKey, summary⟩ := result
    obtain ⟨hfresh, hadd⟩ := createOwnedApiKey_eq_ok hashApiKey hcreate
    exact .keyCreated hfresh hadd

theorem revokeApiKey_effect {userId keyId : String} {next : Server} {summary : OwnedApiKeySummary}
    (h : server.revokeApiKey userId keyId = .ok (next, summary)) :
    ServerEffect hashApiKey variant server (.revokeApiKey userId keyId) next := by
  unfold Server.revokeApiKey at h
  split at h
  · cases h
  · rename_i database revoked hrevoke
    cases h
    obtain ⟨apiKey, hfound, hresult⟩ := Option.map_eq_some_iff.1 hrevoke
    cases hresult
    exact .keyRevoked hfound

theorem createLobby_effect {credentials : Credentials} {request : MatchLobbyCreateRequest} {matchId : String}
    {next : Server} {created : CreatedMatchLobby}
    (h : server.createLobby hashApiKey credentials request matchId = .ok (next, created)) :
    ServerEffect hashApiKey variant server (.createLobby credentials request matchId) next := by
  unfold Server.createLobby at h
  split at h
  · cases h
  · split at h
    · cases h
    · rename_i database created hcreate
      cases h
      exact .lobbyCreated hcreate

theorem join_effect {credentials : Credentials} {matchId requestMatchId : String} {next : Server}
    {joined : JoinedMatch}
    (h : server.join hashApiKey variant credentials matchId requestMatchId = .ok (next, joined)) :
    ServerEffect hashApiKey variant server (.join credentials matchId requestMatchId) next := by
  unfold Server.join at h
  split at h
  · cases h
  · split at h
    · cases h
    · split at h
      · cases h
      · split at h
        · cases h
        · split at h
          · cases h
          · rename_i database joined hjoin
            cases h
            exact .joined hjoin

theorem start_effect {credentials : Credentials} {matchId : String} {next : Server} {started : StartedMatchLobby}
    (h : server.start hashApiKey variant credentials matchId = .ok (next, started)) :
    ServerEffect hashApiKey variant server (.start credentials matchId) next := by
  unfold Server.start at h
  split at h
  · cases h
  · split at h
    · cases h
    · rename_i database started hstart
      cases h
      exact .started hstart

theorem command_effect {matchId playerId : String} {command : MatchCommand} {next : Server}
    {accepted : CommandAcceptance} (h : server.command matchId playerId command = .ok (next, accepted)) :
    ServerEffect hashApiKey variant server (.command matchId playerId command) next := by
  unfold Server.command at h
  split at h
  · cases h
  · rename_i record hrecord
    split at h
    · cases h
    · rename_i applied accepted hcommand
      cases h
      exact .commanded hrecord hcommand

theorem tick_effect (matchId : String) (newId : Nat → String) (elapsed : Nat) :
    ServerEffect hashApiKey variant server (.tick matchId newId elapsed)
      (server.tick variant matchId newId elapsed).1 := by
  unfold Server.tick
  split
  · exact .refused _
  · rename_i record hrecord
    simp only [runMatchTick]
    split
    · exact .tickIdle hrecord
    · rename_i hactive
      rw [not_not] at hactive
      split
      · rename_i error htick
        exact .tickRaised hrecord hactive htick
      · rename_i advancedTick htick
        split
        · exact .tickIdle hrecord
        · rename_i database hpersist
          exact .ticked hrecord hactive htick hpersist

theorem serverStep_effect (server : Server) (event : ServerEvent) :
    ServerEffect hashApiKey variant server event (serverStep hashApiKey variant server event) := by
  cases event with
  | createApiKey userId tokens keyId createdAt => exact effect_after fun _ _ h => createApiKey_effect h
  | revokeApiKey userId keyId => exact effect_after fun _ _ h => revokeApiKey_effect h
  | createLobby credentials request matchId => exact effect_after fun _ _ h => createLobby_effect h
  | join credentials matchId requestMatchId => exact effect_after fun _ _ h => join_effect h
  | start credentials matchId => exact effect_after fun _ _ h => start_effect h
  | command matchId playerId command => exact effect_after fun _ _ h => command_effect h
  | tick matchId newId elapsed => exact tick_effect matchId newId elapsed
  | hydrate =>
      apply effect_after
      intro next result h
      unfold Server.hydrate at h
      split at h
      · cases h
      · rename_i registry hload
        cases h
        exact .hydrated hload

end Effects

/-! ### A deployment -/

/-- The digests of the seeded keys and of the keys of the tokens below. -/
def deploymentDigests : List (String × String) :=
  [ ("seed-api-key-for-agent-player-1", "8f4c2f179ebf6a9e9041aa33b35834babd387cb612b42468e24e8a548e940d45"),
    ("seed-api-key-for-agent-player-2", "b5ce011b7935e6ae383aa7f6dadbf2d3a460eb2a0858b4c21647104af7135d62"),
    ("seed-api-key-for-agent-player-3", "8bc18dbb0aeb3dfb7528ee388ca64678918c494fbafa6f35b608ef80197a9398"),
    ("seed-api-key-for-agent-player-4", "02d7b31c8e190d7d9ab42d8e89854616adb59b7c50190e7194a6d2542fda08c3"),
    ("seed-api-key-for-agent-player-5", "327d13c841d6ddeb620c1fc2b29b5896206ce88f4ead95995ba8eb4883627918"),
    ("iron_Q7dRk2vXw9Lr0bTzYc4Hn1sMf6GpJeA3", "4015ac4bb51984820d0571396aca44052db744976bf2a461f78b38196c8025f0"),
    ("iron_Zb8Lq3NfVw6Kc1XsRt9Gh5PdJm2YyQe4", "fc0f3333a3713b9f6796f62f1fde1be5d7f81f18b7e8ba7ed0beb38853ec1aeb") ]

def deploymentHash (apiKey : String) : String :=
  ((deploymentDigests.find? fun entry => entry.1 = apiKey).map Prod.snd).getD apiKey

def deploymentToken : String := "Q7dRk2vXw9Lr0bTzYc4Hn1sMf6GpJeA3"
def deploymentOwner : String := "3a9f41d2-7c05-4e88-b6d1-92e0c4f7a813"
def deploymentGuest : String := "c58e0b76-1d94-4f3a-8a27-5be36f90d142"
def deploymentKeyId : String := "e1b7d5a4-90c3-4c62-a5f8-3d7e16b2c049"
def guestToken : String := "Zb8Lq3NfVw6Kc1XsRt9Gh5PdJm2YyQe4"
def guestKeyId : String := "a87c2f3e-41d9-4b06-9c5a-e20f8d7b6135"
def deploymentMatchId : String := "6d1f0c9e-58a2-4b7d-9e3a-0f4c2b1a7e55"

/-- A database with no matches, whose users may each play two matches at a time with an agent. -/
def deploymentDatabase : Database where
  matchRows := Table.empty
  apiKeys := Table.empty
  keyHashes_nodup := List.nodup_nil
  agentEntitlementGrants :=
    ⟨[⟨"b4c2e8f0-6a17-4d59-8e03-71f5d9a2c630", deploymentOwner, .manual, 2, true, 0⟩,
      ⟨"52e07a9d-c3f6-48b1-a2d4-8b91f06e3c77", deploymentGuest, .manual, 2, true, 0⟩], by decide⟩
  alliances := Table.empty
  players := Table.empty
  matchSettlements := Table.empty
  playerMatchSettlements := Table.empty
  treaties := Table.empty
  tickLogs := []

def deployment : Server := ⟨.empty, deploymentDatabase, 0⟩

def deploymentRequest (victoryCityThreshold : Nat) : MatchLobbyCreateRequest where
  map := "britain"
  tickIntervalSeconds := 30
  tickIntervalSeconds_pos := by decide
  maxPlayers := 2
  maxPlayers_pos := Nat.two_pos
  victoryCityThreshold := victoryCityThreshold + 1
  victoryCityThreshold_pos := Nat.succ_pos _
  startingCitiesPerPlayer := 2

end IronCouncil
