import IronCouncil.Db.Identity
import IronCouncil.Registry.Seeding

/-!
# Hydration

Rebuilding a live record from the rows of a match. The rows hold the state of the last persisted tick and who has joined; they hold no submissions, messages or group chats.
-/

namespace IronCouncil

def persistedPlayerMapping (state : MatchState) (players : List PlayerRow) : PlayerMapping :=
  buildPersistedPlayerMapping (state.players.keys.insertionSort (· ≤ ·)) players

/-! ### Treaties -/

def PersistedTreatyStatus.toTreatyStatus : PersistedTreatyStatus → TreatyStatus
  | .active => .active
  | .brokenByA => .brokenByA
  | .brokenByB => .brokenByB
  | .withdrawn => .withdrawn

/-- A treaty row with the canonical ids of its parties. -/
structure CanonicalTreatyRow where
  playerAId : String
  playerBId : String
  row : TreatyRow
deriving DecidableEq, Repr

def CanonicalTreatyRow.order (first second : CanonicalTreatyRow) : Ordering :=
  let brokenTick (treaty : CanonicalTreatyRow) : Int := (treaty.row.brokenTick.map Int.ofNat).getD (-1)
  (compare first.playerAId second.playerAId).then <|
    (compare first.playerBId second.playerBId).then <|
      (compare first.row.treatyType.value second.row.treatyType.value).then <|
        (compare first.row.signedTick second.row.signedTick).then <|
          (compare (brokenTick first) (brokenTick second)).then (compare first.row.id second.row.id)

def canonicalTreatyRow (mapping : PlayerMapping) (row : TreatyRow) : Option CanonicalTreatyRow :=
  match mapping.get? row.playerAId, mapping.get? row.playerBId with
  | some playerAId, some playerBId => some ⟨playerAId, playerBId, row⟩
  | _, _ => none

/-- The rows keep neither who proposed a treaty nor when: the first party stands in for the proposer. -/
def hydratedTreaty (treatyId : Nat) (treaty : CanonicalTreatyRow) : MatchTreaty where
  treatyId := treatyId
  playerAId := treaty.playerAId
  playerBId := treaty.playerBId
  treatyType := treaty.row.treatyType
  status := treaty.row.status.toTreatyStatus
  proposedBy := treaty.playerAId
  proposedTick := treaty.row.signedTick
  signedTick := some treaty.row.signedTick
  withdrawnBy :=
    match treaty.row.status with
    | .brokenByA => some treaty.playerAId
    | .brokenByB => some treaty.playerBId
    | .active | .withdrawn => none
  withdrawnTick := if treaty.row.status = .active then none else treaty.row.brokenTick

/-- One row with a party that is not mapped makes the whole list empty. -/
def mergePersistedTreaties (persistedRows : List TreatyRow) (mapping : PlayerMapping) : List MatchTreaty :=
  match persistedRows.mapM (canonicalTreatyRow mapping) with
  | none => []
  | some canonicalRows =>
      (canonicalRows.insertionSort fun first second => (first.order second).isLE).mapIdx hydratedTreaty

def loadPersistedTreaties (treatyRows : List TreatyRow) (state : MatchState) (players : List PlayerRow)
    (matchId : String) : List MatchTreaty :=
  mergePersistedTreaties (treatyRows.filter fun row => row.matchId = matchId) (persistedPlayerMapping state players)

/-! ### Alliances -/

/-- A set of ids, as a sorted list. -/
def idSet (ids : List String) : List String := ids.dedup.insertionSort (· ≤ ·)

structure AllianceMerge where
  derivedAlliancesByMembers : OrdDict (List String) MatchAlliance
  persistedAlliances : List MatchAlliance

/-- When a persisted member joined: as its row says, or else as the derived alliance does. -/
def memberJoinedTick (mapping : PlayerMapping) (canonicalMembers : List MatchAllianceMember) (player : PlayerRow) :
    Except PersistenceError (String × Nat) :=
  match mapping.get? player.id with
  | none => .error (.keyError player.id)
  | some canonicalPlayerId =>
      match player.allianceJoinedTick with
      | some allianceJoinedTick => .ok (canonicalPlayerId, allianceJoinedTick)
      | none =>
          match canonicalMembers.find? fun member => member.playerId = canonicalPlayerId with
          | none => .error .stopIteration
          | some member => .ok (canonicalPlayerId, member.joinedTick)

def hydratedAlliance (derivedAlliance : MatchAlliance) (canonicalMembers : List MatchAllianceMember) (row : AllianceRow)
    (leaderId : String) (memberJoinedTicks : OrdDict String Nat) : MatchAlliance where
  allianceId := derivedAlliance.allianceId
  name := row.name
  leaderId := leaderId
  formedTick := row.formedTick
  members := canonicalMembers.map fun member =>
    ⟨member.playerId, (memberJoinedTicks.get? member.playerId).getD member.joinedTick⟩

/-- Match an alliance row to the derived alliance with its members. `none` drops all persisted metadata. -/
def mergeAllianceRow (players : List PlayerRow) (mapping : PlayerMapping) (merge : AllianceMerge) (row : AllianceRow) :
    Except PersistenceError (Option AllianceMerge) :=
  let persistedMembers := (players.filter fun player => player.allianceId = some row.id).insertionSort
    fun first second => first.id ≤ second.id
  match persistedMembers.mapM fun player => mapping.get? player.id with
  | none => .ok none
  | some canonicalMemberIds =>
      let memberKey := idSet canonicalMemberIds
      match merge.derivedAlliancesByMembers.get? memberKey with
      | none => .ok none
      | some derivedAlliance =>
          let canonicalMembers := derivedAlliance.members.insertionSort fun first second =>
            first.playerId ≤ second.playerId
          match persistedMembers.mapM (memberJoinedTick mapping canonicalMembers) with
          | .error error => .error error
          | .ok memberJoinedTicks =>
              match mapping.get? row.leaderId with
              | none => .ok none
              | some leaderId =>
                  if leaderId ∈ memberKey then
                    .ok (some
                      { derivedAlliancesByMembers := merge.derivedAlliancesByMembers.erase memberKey
                        persistedAlliances := merge.persistedAlliances ++
                          [hydratedAlliance derivedAlliance canonicalMembers row leaderId
                            (OrdDict.ofList memberJoinedTicks)] })
                  else .ok none

def mergeAllianceRows (players : List PlayerRow) (mapping : PlayerMapping) :
    AllianceMerge → List AllianceRow → Except PersistenceError (Option AllianceMerge)
  | merge, [] => .ok (some merge)
  | merge, row :: rows =>
      match mergeAllianceRow players mapping merge row with
      | .error error => .error error
      | .ok none => .ok none
      | .ok (some merged) => mergeAllianceRows players mapping merged rows

def mergePersistedAllianceMetadata (derivedAlliances : List MatchAlliance) (persistedRows : List AllianceRow)
    (players : List PlayerRow) (mapping : PlayerMapping) : Except PersistenceError (List MatchAlliance) :=
  let derivedAlliancesByMembers := OrdDict.ofList <| derivedAlliances.map fun alliance =>
    (idSet (alliance.members.map (·.playerId)), alliance)
  if derivedAlliances = [] ∨ derivedAlliances.length ≠ persistedRows.length then .ok []
  else if derivedAlliancesByMembers.keys.length ≠ derivedAlliances.length then .ok []
  else
    match mergeAllianceRows players mapping ⟨derivedAlliancesByMembers, []⟩ persistedRows with
    | .error error => .error error
    | .ok none => .ok []
    | .ok (some merge) =>
        if merge.derivedAlliancesByMembers.keys = [] then
          .ok (merge.persistedAlliances.insertionSort fun first second => first.allianceId ≤ second.allianceId)
        else .ok []

def loadPersistedAlliances (db : Database) (state : MatchState) (matchId : String) :
    Except PersistenceError (List MatchAlliance) :=
  let allianceRows := (db.alliances.rows.filter fun row => row.matchId = matchId ∧ row.dissolvedTick = none).insertionSort
    fun first second =>
      first.formedTick < second.formedTick ∨ (first.formedTick = second.formedTick ∧ first.id ≤ second.id)
  let players := db.playersOfMatch matchId
  mergePersistedAllianceMetadata (deriveAlliancesFromState state) allianceRows players
    (persistedPlayerMapping state players)

/-! ### Who has joined -/

section Identities

variable (hashApiKey : String → String)

def apiKeyOfPlayer (db : Database) (player : PlayerRow) : Option ApiKeyRow := player.apiKeyId.bind db.apiKeys.get?

def agentIdOfPlayer (db : Database) (player : PlayerRow) : String :=
  (resolveLoadedAgentIdentity hashApiKey player (apiKeyOfPlayer db player)).agentId

/-- The canonical ids of the rows that resolve to one. -/
def mappedPlayers (state : MatchState) (players : List PlayerRow) : List (PlayerRow × String) :=
  players.filterMap fun player =>
    ((persistedPlayerMapping state players).get? player.id).map fun canonical => (player, canonical)

def loadAuthenticatedAgentKeys (db : Database) (state : MatchState) (players : List PlayerRow) :
    List AuthenticatedAgentKeyRecord :=
  (mappedPlayers state players).filterMap fun mapped =>
    if mapped.1.isAgent then
      (apiKeyOfPlayer db mapped.1).map fun apiKey =>
        ⟨agentIdOfPlayer hashApiKey db mapped.1, apiKey.keyHash, apiKey.isActive⟩
    else none

def loadJoinedAgents (db : Database) (state : MatchState) (players : List PlayerRow) : OrdDict String String :=
  OrdDict.ofList <| (mappedPlayers state players).filterMap fun mapped =>
    if mapped.1.isAgent then some (agentIdOfPlayer hashApiKey db mapped.1, mapped.2) else none

def loadJoinedHumans (state : MatchState) (players : List PlayerRow) : OrdDict String String :=
  OrdDict.ofList <| (mappedPlayers state players).filterMap fun mapped =>
    if mapped.1.isAgent then none else some (mapped.1.userId, mapped.2)

def loadPublicCompetitorKinds (state : MatchState) (players : List PlayerRow) : OrdDict String CompetitorKind :=
  OrdDict.ofList <| (mappedPlayers state players).map fun mapped =>
    (mapped.2, if mapped.1.isAgent then .agent else .human)

/-- Whether an agent's settlement belongs to the identity a row plays under. -/
def settlesPlayer (player : PlayerRow) (settlement : PlayerMatchSettlementRow) : Bool :=
  settlement.isAgent && settlement.apiKeyId = player.apiKeyId &&
    (player.apiKeyId ≠ none || settlement.userId = player.userId)

/-- A settled agent goes by the name of its latest settlement. -/
def buildAgentProfile (db : Database) (player : PlayerRow) : AgentProfileResponse :=
  let identity := resolveLoadedAgentIdentity hashApiKey player (apiKeyOfPlayer db player)
  { agentId := identity.agentId
    displayName := ((latestSettlement (db.playerMatchSettlements.rows.filter (settlesPlayer player))).map
      (·.displayName)).getD player.displayName
    isSeeded := identity.isSeeded }

/-- The profiles of a match's agents, by agent id. Of the rows an agent plays under, the one with the greatest id among `playerRows` makes its profile. -/
def loadAgentProfiles (db : Database) (playerRows players : List PlayerRow) : List AgentProfileResponse :=
  let agentRows := (playerRows.filter (·.isAgent)).insertionSort fun first second => first.id ≤ second.id
  let profilesByAgentId := OrdDict.ofList <| agentRows.map fun player =>
    (agentIdOfPlayer hashApiKey db player, buildAgentProfile hashApiKey db player)
  (idSet ((players.filter (·.isAgent)).map (agentIdOfPlayer hashApiKey db))).filterMap profilesByAgentId.get?

/-! ### The record of a match -/

def deriveJoinablePlayerIds (status : MatchStatus) (state : MatchState) (joinedAgents joinedHumans : OrdDict String String) :
    List String :=
  if status = .lobby ∨ status = .paused then
    (state.players.keys.filter fun playerId =>
      playerId ∉ joinedAgents.values ∧ playerId ∉ joinedHumans.values).insertionSort (· ≤ ·)
  else []

/-- The record of a match's rows. `playerRows` are the rows the profiles are taken from. -/
def composeLoadedMatchRecord (db : Database) (matchRow : MatchRow) (playerRows : List PlayerRow)
    (alliances : List MatchAlliance) : MatchRecord :=
  let state := matchRow.state
  let players := db.playersOfMatch matchRow.id
  let joinedAgents := loadJoinedAgents hashApiKey db state players
  let joinedHumans := loadJoinedHumans state players
  { matchId := matchRow.id
    status := matchRow.status
    tickIntervalSeconds := matchRow.config.turnSeconds.getD 0
    state := state
    mapId := matchRow.config.map.getD "britain"
    maxPlayerCount := some (matchRow.config.maxPlayers.getD state.players.keys.length)
    currentPlayerCount := some (joinedAgents.keys.length + joinedHumans.keys.length)
    joinablePlayerIds := deriveJoinablePlayerIds matchRow.status state joinedAgents joinedHumans
    agentProfiles := loadAgentProfiles hashApiKey db playerRows players
    publicCompetitorKinds := loadPublicCompetitorKinds state players
    joinedAgents := joinedAgents
    joinedHumans := joinedHumans
    orderSubmissions := []
    messages := []
    groupChats := []
    treaties := loadPersistedTreaties db.treaties.rows state players matchRow.id
    alliances := alliances
    authenticatedAgentKeys := loadAuthenticatedAgentKeys hashApiKey db state players }

/-- One match, as a join or a start sees it. Its alliances are left to be derived from the state. -/
def loadMatchRecordFromSession (db : Database) (matchRow : MatchRow) : Except PersistenceError MatchRecord :=
  if matchRow.state.FieldsValid then
    .ok (composeLoadedMatchRecord hashApiKey db matchRow (db.playersOfMatch matchRow.id) [])
  else .error .validationError

theorem loadMatchRecordFromSession_eq_ok {db : Database} {matchRow : MatchRow} {record : MatchRecord}
    (h : loadMatchRecordFromSession hashApiKey db matchRow = .ok record) :
    record = composeLoadedMatchRecord hashApiKey db matchRow (db.playersOfMatch matchRow.id) [] := by
  unfold loadMatchRecordFromSession at h
  split at h
  · cases h
    rfl
  · cases h

/-- All matches, as a starting server sees them. -/
def loadMatchRegistryFromDatabase (db : Database) : Except PersistenceError InMemoryMatchRegistry :=
  (db.matchRows.rows.insertionSort fun first second => first.id ≤ second.id).foldlM
    (fun registry matchRow =>
      if matchRow.state.FieldsValid then
        match loadPersistedAlliances db matchRow.state matchRow.id with
        | .error error => .error error
        | .ok alliances =>
            .ok (registry.seedMatch (composeLoadedMatchRecord hashApiKey db matchRow db.players.rows alliances))
      else .error .validationError)
    InMemoryMatchRegistry.empty

/-- A loaded key is a row's, active as the row is. -/
theorem mem_loadAuthenticatedAgentKeys {db : Database} {state : MatchState} {players : List PlayerRow}
    {key : AuthenticatedAgentKeyRecord} (h : key ∈ loadAuthenticatedAgentKeys hashApiKey db state players) :
    ∃ apiKey ∈ db.apiKeys.rows, apiKey.keyHash = key.keyHash ∧ apiKey.isActive = key.isActive := by
  obtain ⟨mapped, -, hkey⟩ := List.mem_filterMap.1 h
  split at hkey
  · obtain ⟨apiKey, hfound, rfl⟩ := Option.map_eq_some_iff.1 hkey
    obtain ⟨keyId, -, hrow⟩ := Option.bind_eq_some_iff.1 hfound
    exact ⟨apiKey, Table.mem_rows_of_get? hrow, rfl, rfl⟩
  · cases hkey

end Identities

end IronCouncil
