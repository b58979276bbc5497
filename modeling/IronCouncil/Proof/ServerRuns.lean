import IronCouncil.Proof.PersistedTick
import IronCouncil.Proof.RecordRuns

/-!
# Runs of the server

The tables and the registry agree on every match: a live record stands under its own id and has the status of its match's row, and alliances and settlements are written only for a match that completes. A property of persisted states and one of live records hold until a match completes, in every state of a run, when new lobbies have the first, loading turns the first into the second, and commands and ticks keep the second.
-/

namespace IronCouncil

/-! ### What loading restores -/

section Loading

variable {hashApiKey : String → String}

/-- The alliances that the rows bring back; none if they raise. -/
def restoredAlliances (db : Database) (state : MatchState) (matchId : String) : List MatchAlliance :=
  (loadPersistedAlliances db state matchId).toOption.getD []

theorem restoredAlliances_eq_nil {db : Database} {matchId : String}
    (h : ∀ alliance ∈ db.alliances.rows, alliance.matchId ≠ matchId) (state : MatchState) :
    restoredAlliances db state matchId = [] := by
  have hrows : db.alliances.rows.filter (fun row => row.matchId = matchId ∧ row.dissolvedTick = none) = [] := by
    apply List.filter_eq_nil_iff.2
    intro alliance hmem
    simp [h alliance hmem]
  unfold restoredAlliances loadPersistedAlliances mergePersistedAllianceMetadata
  simp only [hrows, List.insertionSort_nil, List.length_nil]
  by_cases hderived : deriveAlliancesFromState state = []
  · rw [if_pos (Or.inl hderived)]
    rfl
  · rw [if_pos (Or.inr (mt List.length_eq_zero_iff.1 hderived))]
    rfl

/-- The record a starting server makes of a match's row. -/
def loadedRecord (hashApiKey : String → String) (db : Database) (row : MatchRow) : MatchRecord :=
  composeLoadedMatchRecord hashApiKey db row db.players.rows (restoredAlliances db row.state row.id)

/-- The step of a starting server's loop over the match rows. -/
def seedRow (hashApiKey : String → String) (db : Database) (registry : InMemoryMatchRegistry) (row : MatchRow) :
    Except PersistenceError InMemoryMatchRegistry :=
  if row.state.FieldsValid then
    match loadPersistedAlliances db row.state row.id with
    | .error error => .error error
    | .ok alliances => .ok (registry.seedMatch (composeLoadedMatchRecord hashApiKey db row db.players.rows alliances))
  else .error .validationError

theorem seedRow_eq_ok {db : Database} {registry registry' : InMemoryMatchRegistry} {row : MatchRow}
    (h : seedRow hashApiKey db registry row = .ok registry') :
    row.state.FieldsValid ∧ registry' = registry.seedMatch (loadedRecord hashApiKey db row) := by
  unfold seedRow at h
  split at h
  · rename_i hvalid
    cases halliances : loadPersistedAlliances db row.state row.id with
    | error error =>
        rw [halliances] at h
        cases h
    | ok alliances =>
        rw [halliances] at h
        cases h
        refine ⟨hvalid, ?_⟩
        rw [loadedRecord, restoredAlliances, halliances]
        rfl
  · cases h

theorem getMatch_seedRows {db : Database} {rows : List MatchRow} (hnodup : (rows.map (·.id)).Nodup)
    {registry registry' : InMemoryMatchRegistry}
    (h : rows.foldlM (seedRow hashApiKey db) registry = .ok registry') (matchId : String) :
    registry'.getMatch matchId =
      ((rows.find? fun row => row.id = matchId).map fun row =>
        InMemoryMatchRegistry.storedRecord (loadedRecord hashApiKey db row)).or (registry.getMatch matchId) := by
  induction rows generalizing registry with
  | nil =>
      cases h
      rfl
  | cons row rows ih =>
      obtain ⟨hfresh, hnodup⟩ := List.nodup_cons.1 hnodup
      obtain ⟨seeded, hseeded, hrest⟩ := Run.foldlM_cons_eq_ok h
      obtain ⟨-, rfl⟩ := seedRow_eq_ok hseeded
      rw [ih hnodup hrest, InMemoryMatchRegistry.getMatch_seedMatch]
      by_cases hid : row.id = matchId
      · subst hid
        have hnone : rows.find? (fun other => other.id = row.id) = none := by
          apply List.find?_eq_none.2
          intro other hother heq
          exact hfresh (List.mem_map.2 ⟨other, hother, of_decide_eq_true heq⟩)
        rw [hnone, List.find?_cons_of_pos (by simp)]
        exact if_pos rfl
      · rw [List.find?_cons_of_neg (by simpa using hid)]
        have hother : ¬ matchId = (loadedRecord hashApiKey db row).matchId := fun heq => hid heq.symm
        rw [if_neg hother]

/-- A starting server holds one record for each match row. -/
theorem getMatch_loadMatchRegistryFromDatabase {db : Database} {registry : InMemoryMatchRegistry}
    (h : loadMatchRegistryFromDatabase hashApiKey db = .ok registry) (matchId : String) :
    registry.getMatch matchId = (db.matchRows.get? matchId).map fun row =>
      InMemoryMatchRegistry.storedRecord (loadedRecord hashApiKey db row) := by
  let sorted : Table MatchRow.id :=
    { rows := db.matchRows.rows.insertionSort fun first second => first.id ≤ second.id
      nodup := ((List.perm_insertionSort _ db.matchRows.rows).map MatchRow.id).nodup_iff.2 db.matchRows.nodup }
  have hsame : sorted.get? matchId = db.matchRows.get? matchId := by
    apply Option.ext
    intro row
    rw [Table.get?_eq_some, Table.get?_eq_some]
    exact and_congr_left' (List.mem_insertionSort _)
  rw [← hsame, getMatch_seedRows sorted.nodup h matchId]
  exact Option.or_none

end Loading

/-! ### What a record goes by -/

/-- The id of a record's match and the status of the match. -/
def MatchRecord.identity (record : MatchRecord) : String × MatchStatus := (record.matchId, record.status)

theorem identity_part {allowed : TreatyActionRequest → Prop} {playerId : String} {record next : MatchRecord}
    (h : CommandPart allowed playerId record next) : next.identity = record.identity := by
  cases h with
  | submitted envelope => rfl
  | posted messages groupChats => rfl
  | treaty hallowed haction =>
      obtain ⟨treaties, messages, rfl⟩ := applyTreatyAction_frame haction
      rfl
  | alliance haction =>
      obtain ⟨alliances, allianceId, rfl, -⟩ := applyAllianceAction_eq_ok haction
      rfl

theorem identity_applyMatchCommand {record next : MatchRecord} {playerId : String} {command : MatchCommand}
    {accepted : CommandAcceptance} (h : applyMatchCommand record playerId command = .ok (next, accepted)) :
    next.identity = record.identity := by
  have hparts : Relation.ReflTransGen (CommandPart (fun _ => True) playerId) record next :=
    applyMatchCommand_parts (fun _ _ => trivial) (by cases command <;> trivial) h
  exact keeps_reached (I := fun reached => reached.identity = record.identity)
    (fun _ _ hpart hkept => (identity_part hpart).trans hkept) hparts rfl

theorem identity_advanceMatchTick (record : MatchRecord) : (advanceMatchTick record).1.identity = record.identity := by
  have hreconcile : ∀ orders,
      (reconcileHostileTreatyBreaks (drainQueue record) record.state orders).identity = record.identity := fun orders =>
    reconcileHostileTreatyBreaks_frame (g := MatchRecord.identity) (fun _ _ _ => rfl) _ _ _
  unfold advanceMatchTick
  dsimp only
  split
  · exact hreconcile _
  · exact hreconcile _

/-! ### The rule -/

def Database.HasCompleted (db : Database) (matchId : String) : Prop :=
  ∃ row, db.matchRows.get? matchId = some row ∧ row.status = .completed

/-- The row of the match that the join of this number made. -/
def PlayerRow.NumberedIn (player : PlayerRow) (matchId : String) (joinIndex : Nat) : Prop :=
  player.matchId = matchId ∧ player.id = buildMatchScopedPlayerId matchId joinIndex

/-- The first player of a match is the one who made the lobby. -/
def PlayerRow.CreatorOf (player : PlayerRow) (matchId : String) : Prop := player.NumberedIn matchId 1

theorem PlayerRow.NumberedIn.of_enrolment {player player' : PlayerRow} (hsame : player'.enrolment = player.enrolment)
    {matchId : String} {joinIndex : Nat} (h : player.NumberedIn matchId joinIndex) :
    player'.NumberedIn matchId joinIndex :=
  ⟨(matchId_of_enrolment hsame).trans h.1, (id_of_enrolment hsame).trans h.2⟩

/-- Until a match completes its persisted state has `P` and its live record has `Q`. -/
structure Server.Holds (P : String → MatchState → Prop) (Q : MatchRecord → Prop) (server : Server) : Prop where
  live : ∀ matchId record, server.registry.getMatch matchId = some record →
    record.matchId = matchId ∧ (record.status ≠ .completed → Q record) ∧
      ∃ row, server.database.matchRows.get? matchId = some row ∧ row.status = record.status
  persisted : ∀ matchId row, server.database.matchRows.get? matchId = some row → row.status ≠ .completed →
    P matchId row.state
  players : ∀ matchId row, server.database.matchRows.get? matchId = some row →
    ∃ player ∈ server.database.players.rows, player.CreatorOf matchId
  numbered : ∀ player ∈ server.database.players.rows, ∃ joinIndex, player.NumberedIn player.matchId joinIndex
  memberships : ∀ player ∈ server.database.players.rows, player.allianceId ≠ none →
    server.database.HasCompleted player.matchId
  alliances : ∀ alliance ∈ server.database.alliances.rows, server.database.HasCompleted alliance.matchId
  settlements : ∀ settlement ∈ server.database.matchSettlements.rows,
    server.database.HasCompleted settlement.matchId

/-- Lobbies start with `P`, loading turns it into `Q`, admitted commands and ticks keep `Q`, and what a tick of a record with `Q` persists has `P`. -/
structure KeptByMatches (P : String → MatchState → Prop) (Q : MatchRecord → Prop)
    (admits : MatchRecord → String → MatchCommand → Prop) : Prop where
  lobby : ∀ matchId request state, initializeMatchState (lobbyConfig request) (lobbyRoster request) none = .ok state →
    P matchId state
  loaded : ∀ record, P record.matchId record.state → record.alliances = [] → record.orderSubmissions = [] →
    Q (InMemoryMatchRegistry.storedRecord record)
  command : ∀ record playerId command next accepted, admits record playerId command → Q record →
    applyMatchCommand record playerId command = .ok (next, accepted) → Q next
  tick : ∀ record, Q record → Q (advanceMatchTick record).1
  persists : ∀ record, Q record → P record.matchId record.state

/-- The command of a step, if it is one to a match that is there, is admitted. -/
def AdmitsCommand (admits : MatchRecord → String → MatchCommand → Prop) (server : Server) : ServerEvent → Prop
  | .command matchId playerId command => ∀ record, server.registry.getMatch matchId = some record →
      admits record playerId command
  | _ => True

section Rule

variable {P : String → MatchState → Prop} {Q : MatchRecord → Prop} {admits : MatchRecord → String → MatchCommand → Prop}
  {hashApiKey : String → String} {variant : StorageVariant} {server next : Server}

/-- A server that differs in one match: its record, its row, its players, and what is written when it completes. -/
structure MatchMoved (server next : Server) (matchId : String) (record : MatchRecord) (row : MatchRow) : Prop where
  record_at : ∀ id, next.registry.getMatch id = if id = matchId then some record else server.registry.getMatch id
  row_at : ∀ id, next.database.matchRows.get? id =
    if id = matchId then some row else server.database.matchRows.get? id
  record_id : record.matchId = matchId
  status_agrees : row.status = record.status
  completed_stays : server.database.HasCompleted matchId → row.status = .completed
  creator_there : ∃ player ∈ next.database.players.rows, player.CreatorOf matchId
  players_stay : ∀ player ∈ server.database.players.rows,
    ∃ player' ∈ next.database.players.rows, player'.enrolment = player.enrolment
  players_from : ∀ player' ∈ next.database.players.rows, player' ∈ server.database.players.rows ∨
    ((∃ joinIndex, player'.NumberedIn matchId joinIndex) ∧ (player'.allianceId ≠ none → row.status = .completed))
  alliances_from : ∀ alliance' ∈ next.database.alliances.rows,
    (alliance'.matchId = matchId ∧ row.status = .completed) ∨
      ∃ alliance ∈ server.database.alliances.rows, alliance.matchId = alliance'.matchId
  settlements_from : ∀ settlement' ∈ next.database.matchSettlements.rows,
    (settlement'.matchId = matchId ∧ row.status = .completed) ∨
      settlement' ∈ server.database.matchSettlements.rows

theorem MatchMoved.hasCompleted {matchId : String} {record : MatchRecord} {row : MatchRow}
    (hmoved : MatchMoved server next matchId record row) {id : String}
    (h : (id = matchId ∧ row.status = .completed) ∨ server.database.HasCompleted id) :
    next.database.HasCompleted id := by
  unfold Database.HasCompleted
  rw [hmoved.row_at]
  by_cases hid : id = matchId
  · rw [if_pos hid]
    refine ⟨row, rfl, ?_⟩
    rcases h with ⟨-, hstatus⟩ | hcompleted
    · exact hstatus
    · exact hmoved.completed_stays (hid ▸ hcompleted)
  · rw [if_neg hid]
    rcases h with ⟨heq, -⟩ | hcompleted
    · exact absurd heq hid
    · exact hcompleted

theorem Server.Holds.moved (h : server.Holds P Q) {matchId : String} {record : MatchRecord} {row : MatchRow}
    (hmoved : MatchMoved server next matchId record row) (hQ : record.status ≠ .completed → Q record)
    (hP : row.status ≠ .completed → P matchId row.state) : next.Holds P Q where
  live := by
    intro id found hfound
    rw [hmoved.record_at] at hfound
    rw [hmoved.row_at]
    by_cases hid : id = matchId
    · rw [if_pos hid] at hfound
      cases hfound
      rw [if_pos hid, hid]
      exact ⟨hmoved.record_id, hQ, row, rfl, hmoved.status_agrees⟩
    · rw [if_neg hid] at hfound
      rw [if_neg hid]
      exact h.live id found hfound
  persisted := by
    intro id found hfound hopen
    rw [hmoved.row_at] at hfound
    by_cases hid : id = matchId
    · rw [if_pos hid] at hfound
      cases hfound
      exact hid ▸ hP hopen
    · rw [if_neg hid] at hfound
      exact h.persisted id found hfound hopen
  players := by
    intro id found hfound
    rw [hmoved.row_at] at hfound
    by_cases hid : id = matchId
    · rw [hid]
      exact hmoved.creator_there
    · rw [if_neg hid] at hfound
      obtain ⟨player, hplayer, hcreator⟩ := h.players id found hfound
      obtain ⟨player', hplayer', hsame⟩ := hmoved.players_stay player hplayer
      exact ⟨player', hplayer', hcreator.of_enrolment hsame⟩
  numbered := by
    intro player' hplayer'
    rcases hmoved.players_from player' hplayer' with hold | ⟨⟨joinIndex, hnumbered⟩, -⟩
    · exact h.numbered player' hold
    · exact ⟨joinIndex, rfl, by rw [hnumbered.1, hnumbered.2]⟩
  memberships := by
    intro player' hplayer' halliance
    apply hmoved.hasCompleted
    rcases hmoved.players_from player' hplayer' with hold | ⟨⟨joinIndex, hnumbered⟩, hcompleted⟩
    · exact Or.inr (h.memberships player' hold halliance)
    · exact Or.inl ⟨hnumbered.1, hcompleted halliance⟩
  alliances := by
    intro alliance' hmem
    apply hmoved.hasCompleted
    rcases hmoved.alliances_from alliance' hmem with hnew | ⟨alliance, halliance, hsame⟩
    · exact Or.inl hnew
    · exact Or.inr (hsame ▸ h.alliances alliance halliance)
  settlements := by
    intro settlement' hmem
    apply hmoved.hasCompleted
    rcases hmoved.settlements_from settlement' hmem with hnew | hold
    · exact Or.inl hnew
    · exact Or.inr (h.settlements settlement' hold)

theorem get?_eq_ite_self {database : Database} {matchId : String} {row : MatchRow}
    (hrow : database.matchRows.get? matchId = some row) (id : String) :
    database.matchRows.get? id = if id = matchId then some row else database.matchRows.get? id := by
  split
  · rename_i hid
    rw [hid, hrow]
  · rfl

variable (next) in
/-- A step that only puts another record of the match in the place of the one there. -/
theorem matchMoved_store (h : server.Holds P Q) {matchId : String} {record record' : MatchRecord}
    (hrecord : server.registry.getMatch matchId = some record) (hidentity : record'.identity = record.identity)
    (hregistry : next.registry = server.registry.storeMatch matchId record')
    (hdatabase : next.database = server.database) :
    ∃ row, server.database.matchRows.get? matchId = some row ∧ MatchMoved server next matchId record' row := by
  obtain ⟨hid, -, row, hrow, hstatus⟩ := h.live matchId record hrecord
  refine ⟨row, hrow, ?_⟩
  constructor
  · intro id
    rw [hregistry]
    exact OrdDict.get?_insert _ _ _ _
  · rw [hdatabase]
    exact get?_eq_ite_self hrow
  · exact (congrArg Prod.fst hidentity).trans hid
  · exact hstatus.trans (congrArg Prod.snd hidentity).symm
  · rintro ⟨row', hrow', hcompleted⟩
    cases hrow.symm.trans hrow'
    exact hcompleted
  · rw [hdatabase]
    exact h.players matchId row hrow
  · intro player hplayer
    exact ⟨player, hdatabase ▸ hplayer, rfl⟩
  · intro player hplayer
    exact Or.inl (hdatabase ▸ hplayer)
  · intro alliance halliance
    exact Or.inr ⟨alliance, hdatabase ▸ halliance, rfl⟩
  · intro settlement hsettlement
    exact Or.inr (hdatabase ▸ hsettlement)

/-- A lobby operation that has written the match's row and added players at most. -/
theorem matchMoved_commit {database : Database} {record : MatchRecord} {row : MatchRow}
    (hrows : ∀ id, database.matchRows.get? id =
      if id = record.matchId then some row else server.database.matchRows.get? id)
    (hstatus : row.status = record.status)
    (hcompleted : server.database.HasCompleted record.matchId → row.status = .completed)
    (hcreator : ∃ player ∈ database.players.rows, player.CreatorOf record.matchId)
    (hplayers : server.database.players.rows ⊆ database.players.rows)
    (hjoined : ∀ player ∈ database.players.rows, player ∈ server.database.players.rows ∨
      ∃ joinIndex identity, player = joinedPlayerRow record.matchId joinIndex identity)
    (halliances : database.alliances = server.database.alliances)
    (hsettlements : database.matchSettlements = server.database.matchSettlements) :
    MatchMoved server (server.commit database record) record.matchId (InMemoryMatchRegistry.storedRecord record) row where
  record_at := InMemoryMatchRegistry.getMatch_seedMatch server.registry record
  row_at := hrows
  record_id := rfl
  status_agrees := hstatus
  completed_stays := hcompleted
  creator_there := hcreator
  players_stay := fun player hmem => ⟨player, hplayers hmem, rfl⟩
  players_from := by
    intro player hmem
    rcases hjoined player hmem with hold | ⟨joinIndex, identity, rfl⟩
    · exact Or.inl hold
    · exact Or.inr ⟨⟨joinIndex, rfl, rfl⟩, fun hmember => absurd rfl hmember⟩
  alliances_from := by
    intro alliance hmem
    change alliance ∈ database.alliances.rows at hmem
    exact Or.inr ⟨alliance, halliances ▸ hmem, rfl⟩
  settlements_from := by
    intro settlement hmem
    change settlement ∈ database.matchSettlements.rows at hmem
    exact Or.inr (hsettlements ▸ hmem)

theorem addPlayer_tables {db db' : Database} {player : PlayerRow} (h : addPlayer db player = .ok db') :
    db'.matchRows = db.matchRows ∧ db'.alliances = db.alliances ∧ db'.matchSettlements = db.matchSettlements ∧
      db'.players.rows = db.players.rows ++ [player] := by
  obtain ⟨players, hadd, rfl⟩ := addPlayer_eq_ok h
  exact ⟨rfl, rfl, rfl, (sessionAdd_eq_ok hadd).2⟩

theorem Server.Holds.lobbyCreated (hkept : KeptByMatches P Q admits) (h : server.Holds P Q) {actor : LobbyActor}
    {request : MatchLobbyCreateRequest} {matchId : String} {database : Database} {created : CreatedMatchLobby}
    (hcreate : createMatchLobby hashApiKey server.database actor request matchId = .ok (database, created)) :
    (server.commit database created.record).Holds P Q := by
  obtain ⟨state, creator, agent, matchRows, hstate, -, hadd, hplayer, hrecord⟩ := createMatchLobby_eq_ok hcreate
  obtain ⟨hfresh, hrows⟩ := sessionAdd_eq_ok hadd
  obtain ⟨hmatchRows, halliances, hsettlements, hplayers⟩ := addPlayer_tables hplayer
  have hP : P matchId state := hkept.lobby matchId request state hstate
  have hmoved : MatchMoved server (server.commit database (lobbyRecord matchId request state creator agent)) matchId
      (InMemoryMatchRegistry.storedRecord (lobbyRecord matchId request state creator agent))
      (lobbyMatchRow matchId request state creator) := by
    refine matchMoved_commit ?_ rfl ?_ ?_ ?_ ?_ halliances hsettlements
    · intro id
      rw [hmatchRows]
      exact Table.get?_append hfresh hrows id
    · rintro ⟨row, hrow, -⟩
      have hnone : server.database.matchRows.get? matchId = none := Table.get?_eq_none.2 hfresh
      cases hnone.symm.trans hrow
    · rw [hplayers]
      exact ⟨_, List.mem_append_right _ (List.mem_singleton_self _), rfl, rfl⟩
    · rw [hplayers]
      exact List.subset_append_left _ _
    · intro player hmem
      rw [hplayers] at hmem
      exact (List.mem_append.1 hmem).imp_right fun hnew => ⟨_, _, List.mem_singleton.1 hnew⟩
  rw [hrecord]
  exact h.moved hmoved (fun _ => hkept.loaded _ hP rfl rfl) fun _ => hP

theorem Server.Holds.joined (hkept : KeptByMatches P Q admits) (h : server.Holds P Q) {actor : LobbyActor}
    {matchId : String} {database : Database} {joined : JoinedMatch}
    (hjoin : joinDbMatch hashApiKey variant server.database matchId actor = .ok (database, joined)) :
    (server.commit database joined.record).Holds P Q := by
  obtain ⟨row, hrow, hadded, hrecord⟩ := joinDbMatch_eq_ok hjoin
  obtain rfl : row.id = matchId := Table.key_of_get? hrow
  have htables : database.matchRows = server.database.matchRows ∧ database.alliances = server.database.alliances ∧
      database.matchSettlements = server.database.matchSettlements ∧
      server.database.players.rows ⊆ database.players.rows ∧
      ∀ player ∈ database.players.rows, player ∈ server.database.players.rows ∨
        ∃ joinIndex identity, player = joinedPlayerRow row.id joinIndex identity := by
    rcases hadded with rfl | ⟨identity, joinIndex, -, hadd⟩
    · exact ⟨rfl, rfl, rfl, fun _ hmem => hmem, fun _ hmem => Or.inl hmem⟩
    · obtain ⟨hmatchRows, halliances, hsettlements, hplayers⟩ := addPlayer_tables hadd
      refine ⟨hmatchRows, halliances, hsettlements, hplayers ▸ List.subset_append_left _ _, fun player hmem => ?_⟩
      rw [hplayers] at hmem
      exact (List.mem_append.1 hmem).imp_right fun hnew => ⟨_, _, List.mem_singleton.1 hnew⟩
  obtain ⟨hmatchRows, halliances, hsettlements, hplayers, hjoined⟩ := htables
  rw [hrecord]
  have hmoved : MatchMoved server (server.commit database (composeLoadedMatchRecord hashApiKey database row
      (database.playersOfMatch row.id) [])) row.id (InMemoryMatchRegistry.storedRecord
        (composeLoadedMatchRecord hashApiKey database row (database.playersOfMatch row.id) [])) row := by
    refine matchMoved_commit ?_ rfl ?_ ?_ hplayers hjoined halliances hsettlements
    · rw [hmatchRows]
      exact get?_eq_ite_self hrow
    · rintro ⟨found, hfound, hcompleted⟩
      cases hrow.symm.trans hfound
      exact hcompleted
    · obtain ⟨player, hplayer, hcreator⟩ := h.players row.id row hrow
      exact ⟨player, hplayers hplayer, hcreator⟩
  refine h.moved hmoved ?_ (h.persisted row.id row hrow)
  intro hopen
  exact hkept.loaded _ (h.persisted row.id row hrow hopen) rfl rfl

theorem Server.Holds.started (hkept : KeptByMatches P Q admits) (h : server.Holds P Q) {actor : LobbyActor}
    {matchId : String} {database : Database} {started : StartedMatchLobby}
    (hstart : startMatchLobby hashApiKey variant server.database matchId actor = .ok (database, started)) :
    (server.commit database started.record).Holds P Q := by
  obtain ⟨row, hrow, hlobby, -, rfl, hrecord⟩ := startMatchLobby_eq_ok hstart
  obtain rfl : row.id = matchId := Table.key_of_get? hrow
  rw [hrecord]
  have hP : P row.id row.state := h.persisted row.id row hrow (by rw [hlobby]; decide)
  have hmoved : MatchMoved server (server.commit (activateMatch server.database row)
      (composeLoadedMatchRecord hashApiKey (activateMatch server.database row) (startedMatchRow row)
        ((activateMatch server.database row).playersOfMatch row.id) [])) row.id
      (InMemoryMatchRegistry.storedRecord (composeLoadedMatchRecord hashApiKey (activateMatch server.database row)
        (startedMatchRow row) ((activateMatch server.database row).playersOfMatch row.id) [])) (startedMatchRow row) := by
    refine matchMoved_commit ?_ rfl ?_ (h.players row.id row hrow) (fun _ hmem => hmem) (fun _ hmem => Or.inl hmem)
      rfl rfl
    · intro id
      have hupdated : (activateMatch server.database row).matchRows.get? id =
          if id = row.id then (server.database.matchRows.get? id).map startedMatchRow
          else server.database.matchRows.get? id := 
        Table.get?_update server.database.matchRows row.id startedMatchRow (fun _ => rfl) id
      rw [hupdated]
      change _ = if id = row.id then _ else _
      split
      · rename_i hid
        rw [hid, hrow]
        rfl
      · rfl
    · rintro ⟨found, hfound, hcompleted⟩
      cases hrow.symm.trans hfound
      rw [hlobby] at hcompleted
      cases hcompleted
  exact h.moved hmoved (fun _ => hkept.loaded _ hP rfl rfl) fun _ => hP

theorem advanceRegistryTick_eq_ok {record : MatchRecord} {advancedTick : AdvancedMatchTick}
    (h : (advanceRegistryTick record).2 = .ok advancedTick) :
    advancedTick.matchId = record.matchId ∧ advancedTick.nextState = (advanceMatchTick record).1.state ∧
      advancedTick.resolvedTick = (advanceMatchTick record).1.state.tick ∧
      advancedTick.alliances = (advanceMatchTick record).1.alliances := by
  obtain ⟨result, hresult, rfl⟩ := Except.map_eq_ok h
  unfold advanceMatchTick at hresult ⊢
  dsimp only at hresult ⊢
  split at hresult
  · cases hresult
  · cases hresult
    exact ⟨rfl, rfl, rfl, rfl⟩

/-- A round of a match's loop that does not raise. -/
theorem tick_eq_ok {server : Server} {matchId : String} {newId : Nat → String} {elapsed : Nat}
    {advancedTick : AdvancedMatchTick} (h : (server.tick variant matchId newId elapsed).2 = .ok advancedTick) :
    ∃ record database, server.registry.getMatch matchId = some record ∧ record.status = .active ∧
      (advanceRegistryTick record).2 = .ok advancedTick ∧
      persistAdvancedMatchTick variant newId (server.readClock elapsed) server.database advancedTick = .ok database ∧
      (server.tick variant matchId newId elapsed).1 =
        server.afterRound matchId elapsed (completeRecord advancedTick (advanceRegistryTick record).1) database := by
  unfold Server.tick at h ⊢
  split at h
  · cases h
  · rename_i record hrecord
    simp only [runMatchTick] at h ⊢
    by_cases hactive : record.status = .active
    · rw [if_neg (not_not.2 hactive)] at h ⊢
      cases htick : (advanceRegistryTick record).2 with
      | error error =>
          simp only [htick] at h
          cases h
      | ok advanced =>
          simp only [htick] at h ⊢
          cases hpersist : persistAdvancedMatchTick variant newId (server.readClock elapsed) server.database advanced with
          | error error =>
              simp only [hpersist] at h
              cases h
          | ok database =>
              simp only [hpersist] at h ⊢
              cases h
              exact ⟨record, database, hrecord, hactive, htick, hpersist, rfl⟩
    · rw [if_pos hactive] at h
      cases h

theorem tick_of_persists {server : Server} {matchId : String} {newId : Nat → String} {elapsed : Nat} {record : MatchRecord}
    {advancedTick : AdvancedMatchTick} {database : Database}
    (hrecord : server.registry.getMatch matchId = some record) (hactive : record.status = .active)
    (htick : (advanceRegistryTick record).2 = .ok advancedTick)
    (hpersist : persistAdvancedMatchTick variant newId (server.readClock elapsed) server.database advancedTick =
      .ok database) :
    server.tick variant matchId newId elapsed =
      (server.afterRound matchId elapsed (completeRecord advancedTick (advanceRegistryTick record).1) database,
        .ok advancedTick) := by
  unfold Server.tick
  simp only [hrecord, runMatchTick, hactive, htick, hpersist, ne_eq, not_true_eq_false, if_false]
  rfl

theorem Server.Holds.ticked (hkept : KeptByMatches P Q admits) (h : server.Holds P Q) {matchId : String}
    {newId : Nat → String} {elapsed : Nat} {record : MatchRecord} {advancedTick : AdvancedMatchTick}
    {database : Database} (hrecord : server.registry.getMatch matchId = some record) (hactive : record.status = .active)
    (htick : (advanceRegistryTick record).2 = .ok advancedTick)
    (hpersist : persistAdvancedMatchTick variant newId (server.readClock elapsed) server.database advancedTick =
      .ok database) :
    (server.afterRound matchId elapsed (completeRecord advancedTick (advanceRegistryTick record).1) database).Holds
      P Q := by
  obtain ⟨hid, hQ, row, hrow, hstatus⟩ := h.live matchId record hrecord
  obtain ⟨hmatch, hstate, -, -⟩ := advanceRegistryTick_eq_ok htick
  obtain ⟨stored, hpersisted⟩ := persistAdvancedMatchTick_persisted hpersist
  obtain rfl : stored = row := by
    have hstored := hpersisted.row_found
    rw [hmatch, hid, hrow] at hstored
    exact (Option.some.inj hstored).symm
  obtain rfl : stored.id = matchId := Table.key_of_get? hrow
  obtain ⟨row', hrowState, hrowStatus, hrows⟩ := hpersisted.row_state
  have hidentity := identity_advanceMatchTick record
  have hkeptId : (advanceMatchTick record).1.matchId = record.matchId := congrArg Prod.fst hidentity
  have hkeptStatus : (advanceMatchTick record).1.status = record.status := congrArg Prod.snd hidentity
  have hQ' : Q (advanceMatchTick record).1 := hkept.tick record (hQ (by rw [hactive]; decide))
  have hP' : P stored.id row'.state := by
    rw [hrowState, hstate, ← hid, ← hkeptId]
    exact hkept.persists _ hQ'
  have hmoved : MatchMoved server
      (server.afterRound stored.id elapsed (completeRecord advancedTick (advanceRegistryTick record).1) database) stored.id
      (completeRecord advancedTick (advanceRegistryTick record).1) row' := by
    constructor
    · exact fun id => OrdDict.get?_insert _ _ _ _
    · exact hrows
    · exact hkeptId.trans hid
    · rw [hrowStatus]
      change _ = if isTerminalVictoryTick advancedTick then _ else (advanceMatchTick record).1.status
      rw [hkeptStatus, hstatus]
    · rintro ⟨found, hfound, hcompleted⟩
      cases hrow.symm.trans hfound
      rw [hstatus, hactive] at hcompleted
      cases hcompleted
    · obtain ⟨player, hplayer, hcreator⟩ := h.players stored.id stored hrow
      obtain ⟨player', hplayer', hsame⟩ := exists_enrolled hpersisted.enrolments_kept hplayer
      exact ⟨player', hplayer', hcreator.of_enrolment hsame⟩
    · intro player hplayer
      exact exists_enrolled hpersisted.enrolments_kept hplayer
    · intro player' hplayer'
      by_cases hterminal : isTerminalVictoryTick advancedTick = true
      · refine (hpersisted.players_within player' hplayer').imp_right fun hmatch => ⟨?_, ?_⟩
        · obtain ⟨player, hplayer, hsame⟩ := exists_enrolled hpersisted.enrolments_kept.symm hplayer'
          obtain ⟨joinIndex, hnumbered⟩ := h.numbered player hplayer
          rw [matchId_of_enrolment hsame, hmatch] at hnumbered
          exact ⟨joinIndex, hnumbered.of_enrolment hsame.symm⟩
        · intro _
          rw [hrowStatus, if_pos hterminal]
      · have hsame := (hpersisted.tables_kept (by simpa using hterminal)).2
        exact Or.inl (hsame ▸ hplayer')
    · intro alliance' hmem
      by_cases hterminal : isTerminalVictoryTick advancedTick = true
      · rcases hpersisted.alliances_within alliance' hmem with hnew | hold
        · exact Or.inl ⟨hnew, by rw [hrowStatus, if_pos hterminal]⟩
        · exact Or.inr hold
      · have hsame := (hpersisted.tables_kept (by simpa using hterminal)).1
        exact Or.inr ⟨alliance', hsame ▸ hmem, rfl⟩
    · intro settlement hmem
      rcases hpersisted.settlements_within settlement hmem with hold | ⟨hmatch, hcompleted⟩
      · exact Or.inr hold
      · exact Or.inl ⟨hmatch, hrowStatus.trans hcompleted⟩
  apply h.moved hmoved _ fun _ => hP'
  intro hopen
  change (if isTerminalVictoryTick advancedTick then MatchStatus.completed else (advanceMatchTick record).1.status) ≠
    .completed at hopen
  have hsame : completeRecord advancedTick (advanceRegistryTick record).1 = (advanceMatchTick record).1 := by
    unfold completeRecord
    split
    · rename_i hterminal
      rw [if_pos hterminal] at hopen
      exact absurd rfl hopen
    · rfl
  rw [hsame]
  exact hQ'

theorem Server.Holds.hydrated (hkept : KeptByMatches P Q admits) (h : server.Holds P Q)
    {registry : InMemoryMatchRegistry} (hload : loadMatchRegistryFromDatabase hashApiKey server.database = .ok registry) :
    ({ server with registry } : Server).Holds P Q := by
  refine ⟨?_, h.persisted, h.players, h.numbered, h.memberships, h.alliances, h.settlements⟩
  intro matchId record hrecord
  rw [getMatch_loadMatchRegistryFromDatabase hload] at hrecord
  obtain ⟨row, hrow, rfl⟩ := Option.map_eq_some_iff.1 hrecord
  obtain rfl : row.id = matchId := Table.key_of_get? hrow
  refine ⟨rfl, ?_, row, hrow, rfl⟩
  intro hopen
  have hnone : restoredAlliances server.database row.state row.id = [] := by
    apply restoredAlliances_eq_nil
    intro alliance halliance hmatch
    obtain ⟨found, hfound, hcompleted⟩ := h.alliances alliance halliance
    rw [hmatch] at hfound
    cases hrow.symm.trans hfound
    exact hopen hcompleted
  exact hkept.loaded _ (h.persisted row.id row hrow hopen) hnone rfl

theorem Server.Holds.step (hkept : KeptByMatches P Q admits) (h : server.Holds P Q) {event : ServerEvent}
    (hadmits : AdmitsCommand admits server event) : (serverStep hashApiKey variant server event).Holds P Q := by
  have heffect : ServerEffect hashApiKey variant server event (serverStep hashApiKey variant server event) :=
    serverStep_effect server event
  generalize serverStep hashApiKey variant server event = next at heffect
  cases heffect with
  | refused => exact h
  | keyCreated hfresh hadd =>
      have hdb := (Database.addApiKey_eq_ok hadd).2.2
      rw [hdb]
      exact ⟨h.live, h.persisted, h.players, h.numbered, h.memberships, h.alliances, h.settlements⟩
  | keyRevoked hfound => exact ⟨h.live, h.persisted, h.players, h.numbered, h.memberships, h.alliances, h.settlements⟩
  | lobbyCreated hcreate => exact h.lobbyCreated hkept hcreate
  | joined hjoin => exact h.joined hkept hjoin
  | started hstart => exact h.started hkept hstart
  | @commanded matchId playerId command record next accepted hrecord hcommand =>
      have hidentity := identity_applyMatchCommand hcommand
      obtain ⟨row, hrow, hmoved⟩ := matchMoved_store (server.storeRecord _ _) h hrecord hidentity rfl rfl
      refine h.moved hmoved ?_ (h.persisted _ row hrow)
      intro hopen
      have hstatus : next.status = record.status := congrArg Prod.snd hidentity
      rw [hstatus] at hopen
      exact hkept.command _ _ _ _ _ (hadmits _ hrecord) ((h.live _ _ hrecord).2.1 hopen) hcommand
  | tickIdle hrecord =>
      obtain ⟨row, hrow, hmoved⟩ :=
        matchMoved_store (server.afterRound _ _ _ server.database) h hrecord rfl rfl rfl
      exact h.moved hmoved (h.live _ _ hrecord).2.1 (h.persisted _ row hrow)
  | tickRaised hrecord hactive htick =>
      obtain ⟨row, hrow, hmoved⟩ :=
        matchMoved_store (server.afterRound _ _ _ server.database) h hrecord (identity_advanceMatchTick _) rfl rfl
      refine h.moved hmoved ?_ (h.persisted _ row hrow)
      intro hopen
      exact hkept.tick _ ((h.live _ _ hrecord).2.1 (by rw [hactive]; decide))
  | ticked hrecord hactive htick hpersist => exact h.ticked hkept hrecord hactive htick hpersist
  | hydrated hload => exact h.hydrated hkept hload

/-- No step takes a player's row away. -/
theorem players_serverStep (server : Server) (event : ServerEvent) :
    ∀ player ∈ server.database.players.rows,
      ∃ player' ∈ (serverStep hashApiKey variant server event).database.players.rows,
        player'.enrolment = player.enrolment := by
  have heffect : ServerEffect hashApiKey variant server event (serverStep hashApiKey variant server event) :=
    serverStep_effect server event
  generalize serverStep hashApiKey variant server event = next at heffect
  intro player hplayer
  cases heffect with
  | lobbyCreated hcreate =>
      obtain ⟨state, creator, agent, matchRows, -, -, -, hadd, -⟩ := createMatchLobby_eq_ok hcreate
      have hrows := (addPlayer_tables hadd).2.2.2
      exact ⟨player, hrows ▸ List.mem_append_left _ hplayer, rfl⟩
  | joined hjoin =>
      obtain ⟨row, -, rfl | ⟨identity, joinIndex, -, hadd⟩, -⟩ := joinDbMatch_eq_ok hjoin
      · exact ⟨player, hplayer, rfl⟩
      · have hrows := (addPlayer_tables hadd).2.2.2
        exact ⟨player, hrows ▸ List.mem_append_left _ hplayer, rfl⟩
  | started hstart =>
      obtain ⟨row, -, -, -, rfl, -⟩ := startMatchLobby_eq_ok hstart
      exact ⟨player, hplayer, rfl⟩
  | ticked hrecord hactive htick hpersist =>
      obtain ⟨stored, hpersisted⟩ := persistAdvancedMatchTick_persisted hpersist
      exact exists_enrolled hpersisted.enrolments_kept hplayer
  | keyCreated hfresh hadd =>
      rw [(Database.addApiKey_eq_ok hadd).2.2]
      exact ⟨player, hplayer, rfl⟩
  | _ => exact ⟨player, hplayer, rfl⟩

/-- The rule: what new lobbies have, loading turns around and admitted commands and ticks keep holds throughout a run. -/
theorem Server.Holds.run (hkept : KeptByMatches P Q admits) (h : server.Holds P Q) {events : List ServerEvent}
    (hadmits : ∀ step ∈ Run.steps (serverStep hashApiKey variant) server events, AdmitsCommand admits step.1 step.2) :
    ∀ reached ∈ Run.states (serverStep hashApiKey variant) server events, reached.Holds P Q :=
  Run.invariant_of_steps (fun _ _ hadmitted hholds => hholds.step hkept hadmitted) h hadmits

/-- No matches yet, in the tables or in the registry. -/
structure Server.HoldsNoMatch (server : Server) : Prop where
  matchRows : server.database.matchRows.rows = []
  alliances : server.database.alliances.rows = []
  matchSettlements : server.database.matchSettlements.rows = []
  players : server.database.players.rows = []
  records : server.registry.matchRecords = OrdDict.empty

theorem Server.HoldsNoMatch.holds (h : server.HoldsNoMatch) : server.Holds P Q where
  live := by
    intro matchId record hrecord
    unfold InMemoryMatchRegistry.getMatch at hrecord
    rw [h.records] at hrecord
    cases hrecord
  persisted := by
    intro matchId row hrow
    have hmem := Table.mem_rows_of_get? hrow
    rw [h.matchRows] at hmem
    cases hmem
  players := by
    intro matchId row hrow
    have hmem := Table.mem_rows_of_get? hrow
    rw [h.matchRows] at hmem
    cases hmem
  numbered := by
    intro player hmem
    rw [h.players] at hmem
    cases hmem
  memberships := by
    intro player hmem
    rw [h.players] at hmem
    cases hmem
  alliances := by
    intro alliance hmem
    rw [h.alliances] at hmem
    cases hmem
  settlements := by
    intro settlement hmem
    rw [h.matchSettlements] at hmem
    cases hmem

/-- Whatever happens, rows and records stay those of their matches. -/
theorem Server.HoldsNoMatch.holds_run (h : server.HoldsNoMatch) (events : List ServerEvent) :
    ∀ reached ∈ Run.states (serverStep hashApiKey variant) server events,
      reached.Holds (fun _ _ => True) fun _ => True := by
  have hkept : KeptByMatches (fun _ _ => True) (fun _ => True) (fun _ _ _ => True) :=
    ⟨fun _ _ _ _ => trivial, fun _ _ _ _ => trivial, fun _ _ _ _ _ _ _ _ => trivial, fun _ _ => trivial,
      fun _ _ => trivial⟩
  refine h.holds.run hkept ?_
  rintro ⟨reached, event⟩ -
  cases event with
  | command matchId playerId command => exact fun _ _ => trivial
  | _ => trivial

end Rule

end IronCouncil
