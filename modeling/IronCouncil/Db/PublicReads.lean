import IronCouncil.Db.LobbyRegistry
import IronCouncil.Db.PublicReadAssembly

/-!
# Public pages

The lists of open and of completed matches, a match's detail with its roster, and the persisted history of a match: its ticks, and the state, orders and events of each of them.
-/

namespace IronCouncil

inductive PublicReadError
  | matchHistoryNotFound (matchId : String)
  | tickHistoryNotFound (matchId : String) (tick : Nat)
  | publicMatchDetailNotFound (matchId : String)
  | persistence (error : PersistenceError)
deriving DecidableEq, Repr

/-! ### Responses -/

/-- The fields of a match's summary are those of a lobby's. -/
abbrev MatchSummary := MatchLobbySummary

def MatchLobbySummary.FieldsValid (summary : MatchLobbySummary) : Prop := 0 < summary.tickIntervalSeconds

structure MatchHistoryResponse where
  matchId : String
  status : MatchStatus
  currentTick : Nat
  tickIntervalSeconds : Nat
  competitors : List PublicCompetitorSummary
  history : List Nat
deriving DecidableEq, Repr

def MatchHistoryResponse.FieldsValid (response : MatchHistoryResponse) : Prop :=
  0 < response.tickIntervalSeconds ∧ ∀ summary ∈ response.competitors, summary.FieldsValid

structure MatchReplayTickResponse where
  matchId : String
  tick : Nat
  stateSnapshot : MatchState
  orders : JsonValue
  events : List TickPhaseEvent

structure PublicMatchRosterRow where
  playerId : String
  displayName : String
  competitorKind : CompetitorKind
  agentId : Option String
  humanId : Option String
deriving DecidableEq, Repr

/-- Where an identity is shown it is that of the competitor's kind. -/
def PublicMatchRosterRow.FieldsValid (row : PublicMatchRosterRow) : Prop :=
  (row.agentId = none ∧ row.humanId = none) ∨
    match row.competitorKind with
    | .human => row.agentId = none ∧ row.humanId ≠ none
    | .agent => row.humanId = none ∧ row.agentId ≠ none

structure PublicMatchDetailResponse where
  summary : MatchSummary
  roster : List PublicMatchRosterRow
deriving DecidableEq, Repr

structure CompletedMatchSummary where
  matchId : String
  map : String
  finalTick : Nat
  tickIntervalSeconds : Nat
  playerCount : Nat
  completedAt : Nat
  winningAllianceName : Option String
  winningPlayerDisplayNames : List String
  winningCompetitors : List PublicCompetitorSummary
deriving DecidableEq, Repr

def CompletedMatchSummary.FieldsValid (summary : CompletedMatchSummary) : Prop :=
  0 < summary.tickIntervalSeconds ∧ ∀ competitor ∈ summary.winningCompetitors, competitor.FieldsValid

/-! ### Assembly -/

def buildPublicMatchSummary (matchRow : MatchRow) (currentPlayerCount : Nat) : MatchSummary :=
  let maxPlayerCount := matchRow.config.maxPlayers.getD 0
  { matchId := matchRow.id
    status := matchRow.status
    map := matchRow.config.map.getD ""
    tick := matchRow.currentTick
    tickIntervalSeconds := matchRow.config.turnSeconds.getD 0
    currentPlayerCount
    maxPlayerCount
    openSlotCount := maxPlayerCount - currentPlayerCount }

def publicStatusPriority : MatchStatus → Nat
  | .lobby => 0
  | .active => 1
  | .paused => 2
  | .completed => 3

section Pages

variable (hashApiKey casefold : String → String) (updatedAt : String → Nat)

/-- Rows are kept if the mapping names their player. -/
def buildPublicMatchRosterRows (players : List PlayerRow) (apiKeyRows : List ApiKeyRow)
    (persistedPlayerMapping : OrdDict String String) : List PublicMatchRosterRow :=
  (players.insertionSort fun first second => (publicMatchRosterOrder casefold first second).isLE).filterMap fun player =>
    (persistedPlayerMapping.get? player.id).map fun canonicalPlayerId =>
      { playerId := canonicalPlayerId
        displayName := player.displayName
        competitorKind := if player.isAgent then .agent else .human
        agentId := publicCompetitorAgentId hashApiKey (indexBy (·.id) apiKeyRows) player
        humanId := publicCompetitorHumanId player }

def buildPublicMatchDetail (matchRow : MatchRow) (players : List PlayerRow) (apiKeyRows : List ApiKeyRow)
    (persistedPlayerMapping : OrdDict String String) : PublicMatchDetailResponse where
  summary := buildPublicMatchSummary matchRow players.length
  roster := buildPublicMatchRosterRows hashApiKey casefold players apiKeyRows persistedPlayerMapping

def buildMatchHistoryResponse (matchRow : MatchRow) (ticks : List Nat) (players : List PlayerRow)
    (apiKeyRows : List ApiKeyRow) : MatchHistoryResponse where
  matchId := matchRow.id
  status := matchRow.status
  currentTick := matchRow.currentTick
  tickIntervalSeconds := matchRow.config.turnSeconds.getD 0
  competitors := buildPublicCompetitorSummaries hashApiKey casefold players apiKeyRows
  history := ticks

def buildMatchReplayTickResponse (matchRow : MatchRow) (tickRow : TickLogRow) : MatchReplayTickResponse where
  matchId := matchRow.id
  tick := tickRow.tick
  stateSnapshot := tickRow.stateSnapshot
  orders := tickRow.orders
  events := tickRow.events

/-- Lobbies first, then the matches that run and those that pause; of one status the one updated last comes first. -/
def publicMatchBrowseOrder (first second : MatchRow) : Ordering :=
  (compare (publicStatusPriority first.status) (publicStatusPriority second.status)).then <|
    (compare (updatedAt second.id) (updatedAt first.id)).then <|
      (compare second.currentTick first.currentTick).then (compare first.id second.id)

def winningAllianceName (matchRow : MatchRow) (alliances : List AllianceRow) : Option String :=
  matchRow.winnerAlliance.bind fun winner =>
    ((indexBy (fun alliance => (alliance.matchId, alliance.id)) alliances).get? (matchRow.id, winner)).map (·.name)

def buildCompletedMatchSummary (players : List PlayerRow) (apiKeyRows : List ApiKeyRow) (alliances : List AllianceRow)
    (matchRow : MatchRow) : CompletedMatchSummary where
  matchId := matchRow.id
  map := matchRow.config.map.getD ""
  finalTick := matchRow.currentTick
  tickIntervalSeconds := matchRow.config.turnSeconds.getD 0
  playerCount := (players.filter fun player => player.matchId = matchRow.id).length
  completedAt := updatedAt matchRow.id
  winningAllianceName := winningAllianceName matchRow alliances
  winningPlayerDisplayNames := winningPlayerDisplayNames matchRow players
  winningCompetitors := winningCompetitors hashApiKey casefold matchRow players apiKeyRows

/-! ### Queries -/

/-- The players of a match by name, kind and id. -/
def publicPlayersOfMatch (db : Database) (matchId : String) : List PlayerRow :=
  (db.players.rows.filter fun player => player.matchId = matchId).insertionSort fun first second =>
    ((compare first.displayName second.displayName).then <|
      (compare first.isAgent second.isAgent).then (compare first.id second.id)).isLE

/-- The keys that players play with. -/
def apiKeyRowsOf (db : Database) (players : List PlayerRow) : List ApiKeyRow :=
  (db.apiKeys.rows.filter fun apiKey => apiKey.id ∈ players.filterMap (·.apiKeyId)).insertionSort fun first second =>
    first.id ≤ second.id

variable (variant : StorageVariant)

def getMatchHistory (db : Database) (matchId : String) : Except PublicReadError MatchHistoryResponse :=
  match sessionGet variant db.matchRows matchId with
  | .error error => .error (.persistence error)
  | .ok none => .error (.matchHistoryNotFound matchId)
  | .ok (some matchRow) =>
      let players := publicPlayersOfMatch db matchId
      let ticks := ((db.tickLogs.filter fun tickLog => tickLog.matchId = matchId).map (·.tick)).insertionSort (· ≤ ·)
      .ok (buildMatchHistoryResponse hashApiKey casefold matchRow ticks players (apiKeyRowsOf db players))

def getMatchReplayTick (db : Database) (matchId : String) (tick : Nat) : Except PublicReadError MatchReplayTickResponse :=
  match sessionGet variant db.matchRows matchId with
  | .error error => .error (.persistence error)
  | .ok none => .error (.matchHistoryNotFound matchId)
  | .ok (some matchRow) =>
      match db.tickLogs.find? fun tickLog => tickLog.matchId = matchId ∧ tickLog.tick = tick with
      | none => .error (.tickHistoryNotFound matchId tick)
      | some tickRow => .ok (buildMatchReplayTickResponse matchRow tickRow)

def getPublicMatchSummaries (db : Database) : List MatchSummary :=
  let publicMatches := (db.matchRows.rows.filter fun matchRow => matchRow.status ≠ .completed).insertionSort
    fun first second => first.id ≤ second.id
  (publicMatches.insertionSort fun first second => (publicMatchBrowseOrder updatedAt first second).isLE).map
    fun matchRow =>
      buildPublicMatchSummary matchRow (db.players.rows.filter fun player => player.matchId = matchRow.id).length

def getPublicMatchDetail (db : Database) (matchId : String) : Except PublicReadError PublicMatchDetailResponse :=
  match sessionGet variant db.matchRows matchId with
  | .error error => .error (.persistence error)
  | .ok none => .error (.publicMatchDetailNotFound matchId)
  | .ok (some matchRow) =>
      if matchRow.status = .completed then .error (.publicMatchDetailNotFound matchId)
      else if matchRow.state.FieldsValid then
        let players := publicPlayersOfMatch db matchRow.id
        .ok (buildPublicMatchDetail hashApiKey casefold matchRow players (apiKeyRowsOf db players)
          (persistedPlayerMapping matchRow.state players))
      else .error (.persistence .validationError)

def getCompletedMatchSummaries (db : Database) : List CompletedMatchSummary :=
  let completedMatches := (db.matchRows.rows.filter fun matchRow => matchRow.status = .completed).insertionSort
    fun first second =>
      ((compare (updatedAt second.id) (updatedAt first.id)).then <|
        (compare second.currentTick first.currentTick).then (compare first.id second.id)).isLE
  let matchIds := completedMatches.map (·.id)
  let players := (db.players.rows.filter fun player => player.matchId ∈ matchIds).insertionSort fun first second =>
    ((compare first.matchId second.matchId).then <|
      (compare first.displayName second.displayName).then (compare first.id second.id)).isLE
  let alliances := (db.alliances.rows.filter fun alliance => alliance.matchId ∈ matchIds).insertionSort
    fun first second => ((compare first.matchId second.matchId).then (compare first.id second.id)).isLE
  completedMatches.map (buildCompletedMatchSummary hashApiKey casefold updatedAt players (apiKeyRowsOf db players)
    alliances)

end Pages

end IronCouncil
