import IronCouncil.Api.Server

/-!
# Who a request plays as

A key plays for the agent it is for, a Bearer token for its user, and an owner reaches the seat of an agent whose key is theirs. Agents are looked up in the live record; a human is looked up among the rows first.
-/

namespace IronCouncil

/-! ### In a record -/

def requireJoinedPlayerId (record : Option MatchRecord) (matchId agentId : String) : Except RegistryError String :=
  match record with
  | none => .error (.matchAccess "match_not_found" s!"Match '{matchId}' was not found.")
  | some record =>
      match record.joinedAgents.get? agentId with
      | none => .error (.matchAccess "agent_not_joined"
          s!"Agent '{agentId}' has not joined match '{matchId}' as a player.")
      | some playerId => .ok playerId

def requireJoinedHumanPlayerId (record : Option MatchRecord) (matchId userId : String) : Except RegistryError String :=
  match record with
  | none => .error (.matchAccess "match_not_found" s!"Match '{matchId}' was not found.")
  | some record =>
      match record.joinedHumans.get? userId with
      | none => .error (.matchAccess "human_not_joined"
          s!"Human user '{userId}' has not joined match '{matchId}' as a player.")
      | some playerId => .ok playerId

/-! ### In the tables -/

section Tables

variable (hashApiKey : String → String) (variant : StorageVariant)

/-- The state of a match and the rows of its players, by which the rows are mapped to the players of the state. -/
def loadMatchPlayers (db : Database) (matchId : String) :
    Except PersistenceError (Option (MatchState × List PlayerRow)) :=
  match sessionGet variant db.matchRows matchId with
  | .error error => .error error
  | .ok none => .ok none
  | .ok (some matchRow) =>
      if matchRow.state.FieldsValid then .ok (some (matchRow.state, db.playersOfMatch matchId))
      else .error .validationError

def resolveHumanPlayerId (db : Database) (matchId userId : String) : Except PersistenceError (Option String) :=
  (loadMatchPlayers variant db matchId).map fun loaded => loaded.bind fun loaded =>
    (loaded.2.find? fun player => player.userId = userId ∧ player.isAgent = false).bind fun player =>
      (persistedPlayerMapping loaded.1 loaded.2).get? player.id

/-- The row that the mapping takes to a player. -/
def resolvePersistedMatchPlayerId (db : Database) (matchId canonicalPlayerId : String) :
    Except PersistenceError (Option String) :=
  (loadMatchPlayers variant db matchId).map fun loaded => loaded.bind fun loaded =>
    ((persistedPlayerMapping loaded.1 loaded.2).entries.find? fun entry => entry.2 = canonicalPlayerId).map Prod.fst

/-- The keys of a user, in the order they were created. -/
def apiKeysOfUser (db : Database) (userId : String) : List ApiKeyRow :=
  (db.apiKeys.rows.filter fun apiKey => apiKey.userId = userId).insertionSort fun first second =>
    first.createdAt < second.createdAt ∨ (first.createdAt = second.createdAt ∧ first.id ≤ second.id)

/-- The agent of a key, if it is the one that is asked for. -/
def ownedAgentOfKey (db : Database) (agentId : String) (apiKey : ApiKeyRow) : Option AuthenticatedAgentContext :=
  match (buildSeededProfilesByKeyHash hashApiKey).get? apiKey.keyHash with
  | some seededProfile =>
      if seededProfile.agentId ≠ agentId then none
      else some ⟨seededProfile.agentId, seededProfile.displayName, true⟩
  | none =>
      if buildNonSeededAgentId apiKey.id ≠ agentId then none
      else
        let existingAgentPlayer := (playersOfKey db apiKey.id).find? (·.isAgent)
        some ⟨agentId, (existingAgentPlayer.map (·.displayName)).getD (buildNonSeededDisplayName apiKey.id), false⟩

/-- A revoked key's agent is still its owner's. -/
def resolveOwnedAgentContext (db : Database) (userId agentId : String) : Option AuthenticatedAgentContext :=
  (apiKeysOfUser db userId).findSome? (ownedAgentOfKey hashApiKey db agentId)

end Tables

/-! ### Of a request -/

namespace Server

variable (hashApiKey : String → String) (variant : StorageVariant)

def getAuthenticatedAgent (server : Server) (apiKey : Option String) : Except ServerError AuthenticatedAgentContext :=
  match server.resolveAuthenticatedAgentContext hashApiKey apiKey with
  | none => .error invalidApiKey
  | some agent => .ok agent

/-- The user of a validated Bearer token. -/
def requireAuthenticatedHumanUserId (humanUserId : Option String) : Except ServerError String :=
  match humanUserId with
  | none => .error (.api "invalid_human_token" "A valid human Bearer token is required.")
  | some userId => .ok userId

def requireJoinedPlayerId (server : Server) (matchId : String) (agent : AuthenticatedAgentContext) :
    Except ServerError String :=
  (IronCouncil.requireJoinedPlayerId (server.registry.getMatch matchId) matchId agent.agentId).mapError .registry

def requireJoinedHumanPlayerId (server : Server) (matchId userId : String) : Except ServerError String :=
  (IronCouncil.requireJoinedHumanPlayerId (server.registry.getMatch matchId) matchId userId).mapError .registry

def resolveHumanPlayerId (server : Server) (matchId userId : String) : Except ServerError String :=
  match server.registry.getMatch matchId with
  | none => .error (matchNotFound matchId)
  | some _ =>
      match IronCouncil.resolveHumanPlayerId variant server.database matchId userId with
      | .error error => .error (.persistence error)
      | .ok (some playerId) => .ok playerId
      | .ok none => server.requireJoinedHumanPlayerId matchId userId

/-- A request with a key plays for the key's agent, whatever else it carries. -/
def resolveMatchPlayerId (server : Server) (matchId : String) (credentials : Credentials) : Except ServerError String :=
  match credentials.apiKey with
  | some apiKey =>
      match server.getAuthenticatedAgent hashApiKey (some apiKey) with
      | .error error => .error error
      | .ok agent => server.requireJoinedPlayerId matchId agent
  | none =>
      match credentials.humanUserId with
      | none => .error (.api "invalid_player_auth"
          "Player routes require a valid Bearer token or active X-API-Key header.")
      | some userId => server.resolveHumanPlayerId variant matchId userId

/-- The player a websocket sees the match as. `playerId` is the one its URL names, if it does. -/
def resolveWebsocketPlayerViewer (server : Server) (matchId : String) (playerId humanUserId : Option String) :
    Except ServerError String :=
  match humanUserId with
  | none => .error (.api "invalid_websocket_auth"
      "Player websocket connections require a valid human JWT token query parameter.")
  | some userId =>
      match server.resolveHumanPlayerId variant matchId userId with
      | .error error => .error error
      | .ok resolvedPlayerId =>
          match playerId with
          | none => .ok resolvedPlayerId
          | some namedPlayerId =>
              if namedPlayerId ≠ resolvedPlayerId then
                .error (.api "player_auth_mismatch"
                  s!"Player websocket auth resolved to player '{resolvedPlayerId}', not '{namedPlayerId}'.")
              else .ok resolvedPlayerId

def requireOwnedAgentContext (server : Server) (humanUserId : Option String) (agentId : String) :
    Except ServerError (String × AuthenticatedAgentContext) :=
  match requireAuthenticatedHumanUserId humanUserId with
  | .error error => .error error
  | .ok userId =>
      match resolveOwnedAgentContext hashApiKey server.database userId agentId with
      | none => .error (.api "agent_not_owned"
          s!"Authenticated human user '{userId}' does not own agent '{agentId}'.")
      | some ownedAgent => .ok (userId, ownedAgent)

def requirePersistedMatchPlayerId (server : Server) (matchId canonicalPlayerId agentId : String) :
    Except ServerError String :=
  match resolvePersistedMatchPlayerId variant server.database matchId canonicalPlayerId with
  | .error error => .error (.persistence error)
  | .ok none => .error (.api "agent_not_joined"
      s!"Agent '{agentId}' has not joined match '{matchId}' as a player.")
  | .ok (some persistedPlayerId) => .ok persistedPlayerId

/-- An owner and the seat of their agent. -/
structure OwnedSeat where
  userId : String
  ownedAgent : AuthenticatedAgentContext
  playerId : String
  persistedPlayerId : String
deriving DecidableEq, Repr

def requireOwnedAgentMatchPlayer (server : Server) (humanUserId : Option String) (matchId agentId : String) :
    Except ServerError OwnedSeat :=
  match server.requireOwnedAgentContext hashApiKey humanUserId agentId with
  | .error error => .error error
  | .ok (userId, ownedAgent) =>
      match server.requireJoinedPlayerId matchId ownedAgent with
      | .error error => .error error
      | .ok canonicalPlayerId =>
          match server.requirePersistedMatchPlayerId variant matchId canonicalPlayerId agentId with
          | .error error => .error error
          | .ok persistedPlayerId => .ok ⟨userId, ownedAgent, canonicalPlayerId, persistedPlayerId⟩

def resolveAuthenticatedAgentOwnerUserId (server : Server) (apiKey : Option String) : Option String :=
  match apiKey with
  | none => none
  | some apiKey =>
      (resolveAuthenticatedAgentFromDbKeyHash hashApiKey server.database (hashApiKey apiKey)).map (·.userId)

end Server

/-! ### What the lookups find -/

section Tables

variable {hashApiKey : String → String} {variant : StorageVariant} {db : Database} {matchId : String}

theorem loadMatchPlayers_eq_some {loaded : MatchState × List PlayerRow}
    (h : loadMatchPlayers variant db matchId = .ok (some loaded)) :
    ∃ matchRow, db.matchRows.get? matchId = some matchRow ∧ loaded = (matchRow.state, db.playersOfMatch matchId) := by
  unfold loadMatchPlayers at h
  split at h
  · cases h
  · cases h
  · rename_i matchRow hfound
    split at h
    · cases h
      exact ⟨matchRow, (sessionGet_eq_ok hfound).symm, rfl⟩
    · cases h

theorem map_loadMatchPlayers_eq_some {ρ : Type} {f : MatchState × List PlayerRow → Option ρ} {result : ρ}
    (h : (loadMatchPlayers variant db matchId).map (fun loaded => loaded.bind f) = .ok (some result)) :
    ∃ matchRow, db.matchRows.get? matchId = some matchRow ∧
      f (matchRow.state, db.playersOfMatch matchId) = some result := by
  cases hload : loadMatchPlayers variant db matchId with
  | error error =>
      rw [hload] at h
      cases h
  | ok loaded =>
      rw [hload] at h
      obtain ⟨found, hfound, hresult⟩ := Option.bind_eq_some_iff.1 (Except.ok.inj h)
      obtain ⟨matchRow, hrow, rfl⟩ := loadMatchPlayers_eq_some (hload.trans (congrArg Except.ok hfound))
      exact ⟨matchRow, hrow, hresult⟩

theorem ownedAgentOfKey_eq_some {agentId : String} {apiKey : ApiKeyRow} {context : AuthenticatedAgentContext}
    (h : ownedAgentOfKey hashApiKey db agentId apiKey = some context) :
    context.agentId = agentId ∧ agentIdOfKey hashApiKey apiKey = agentId := by
  unfold ownedAgentOfKey at h
  unfold agentIdOfKey
  cases hseeded : (buildSeededProfilesByKeyHash hashApiKey).get? apiKey.keyHash with
  | some seededProfile =>
      simp only [hseeded] at h ⊢
      by_cases hagent : seededProfile.agentId = agentId
      · rw [if_neg (not_not.2 hagent)] at h
        cases h
        exact ⟨hagent, hagent⟩
      · rw [if_pos hagent] at h
        cases h
  | none =>
      simp only [hseeded] at h ⊢
      by_cases hagent : buildNonSeededAgentId apiKey.id = agentId
      · rw [if_neg (not_not.2 hagent)] at h
        cases h
        exact ⟨rfl, hagent⟩
      · rw [if_pos hagent] at h
        cases h

/-- The owner of an agent has a key that is for it. -/
theorem resolveOwnedAgentContext_eq_some {userId agentId : String} {context : AuthenticatedAgentContext}
    (h : resolveOwnedAgentContext hashApiKey db userId agentId = some context) :
    context.agentId = agentId ∧
      ∃ apiKey ∈ db.apiKeys.rows, apiKey.userId = userId ∧ agentIdOfKey hashApiKey apiKey = agentId := by
  obtain ⟨apiKey, hmem, howned⟩ := List.exists_of_findSome?_eq_some h
  obtain ⟨hrow, huser⟩ := List.mem_filter.1 ((List.mem_insertionSort _).1 hmem)
  obtain ⟨hcontext, hagent⟩ := ownedAgentOfKey_eq_some howned
  exact ⟨hcontext, apiKey, hrow, of_decide_eq_true huser, hagent⟩

end Tables

section Requests

variable {hashApiKey : String → String} {variant : StorageVariant} {server : Server} {matchId : String}

theorem requireJoinedPlayerId_eq_ok {agent : AuthenticatedAgentContext} {playerId : String}
    (h : server.requireJoinedPlayerId matchId agent = .ok playerId) :
    ∃ record, server.registry.getMatch matchId = some record ∧ record.joinedAgents.get? agent.agentId = some playerId := by
  unfold Server.requireJoinedPlayerId requireJoinedPlayerId at h
  split at h
  · cases h
  · rename_i record hrecord
    split at h
    · cases h
    · rename_i joined hjoined
      cases h
      exact ⟨record, hrecord, hjoined⟩

theorem requireJoinedHumanPlayerId_eq_ok {userId playerId : String}
    (h : server.requireJoinedHumanPlayerId matchId userId = .ok playerId) :
    ∃ record, server.registry.getMatch matchId = some record ∧ record.joinedHumans.get? userId = some playerId := by
  unfold Server.requireJoinedHumanPlayerId requireJoinedHumanPlayerId at h
  split at h
  · cases h
  · rename_i record hrecord
    split at h
    · cases h
    · rename_i joined hjoined
      cases h
      exact ⟨record, hrecord, hjoined⟩

theorem getAuthenticatedAgent_eq_ok {apiKey : Option String} {agent : AuthenticatedAgentContext}
    (h : server.getAuthenticatedAgent hashApiKey apiKey = .ok agent) :
    server.resolveAuthenticatedAgentContext hashApiKey apiKey = some agent := by
  unfold Server.getAuthenticatedAgent at h
  split at h
  · cases h
  · rename_i resolved hresolved
    cases h
    exact hresolved

theorem requireOwnedAgentMatchPlayer_eq_ok {humanUserId : Option String} {agentId : String} {seat : Server.OwnedSeat}
    (h : server.requireOwnedAgentMatchPlayer hashApiKey variant humanUserId matchId agentId = .ok seat) :
    humanUserId = some seat.userId ∧
      resolveOwnedAgentContext hashApiKey server.database seat.userId agentId = some seat.ownedAgent ∧
      server.requireJoinedPlayerId matchId seat.ownedAgent = .ok seat.playerId ∧
      resolvePersistedMatchPlayerId variant server.database matchId seat.playerId = .ok (some seat.persistedPlayerId) := by
  unfold Server.requireOwnedAgentMatchPlayer at h
  split at h
  · cases h
  · rename_i userId ownedAgent howned
    unfold Server.requireOwnedAgentContext Server.requireAuthenticatedHumanUserId at howned
    split at h
    · cases h
    · rename_i canonicalPlayerId hjoined
      split at h
      · cases h
      · rename_i persistedPlayerId hpersisted
        cases h
        unfold Server.requirePersistedMatchPlayerId at hpersisted
        split at hpersisted
        · cases hpersisted
        · cases hpersisted
        · rename_i found hfound
          cases hpersisted
          cases humanUserId with
          | none => cases howned
          | some user =>
              dsimp only at howned
              split at howned
              · cases howned
              · rename_i agent hagent
                cases howned
                exact ⟨rfl, hagent, hjoined, hfound⟩

end Requests

end IronCouncil
