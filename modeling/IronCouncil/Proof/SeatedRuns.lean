import IronCouncil.Proof.JoinSlots
import IronCouncil.Proof.VictoryCountdown

/-!
# Seats in runs

In every run each match keeps the players it was made for, its rows are numbered in the order they joined, and nobody has two rows of one match.
-/

namespace IronCouncil

/-! ### What a row's seat depends on -/

/-- Every key is still there, under its hash. -/
def KeysKept (db db' : Database) : Prop :=
  ∀ apiKey ∈ db.apiKeys.rows, ∃ apiKey' ∈ db'.apiKeys.rows, apiKey'.id = apiKey.id ∧ apiKey'.keyHash = apiKey.keyHash

theorem KeysKept.of_eq {db db' : Database} (h : db'.apiKeys = db.apiKeys) : KeysKept db db' := by
  intro apiKey hrow
  exact ⟨apiKey, h ▸ hrow, rfl, rfl⟩

theorem KeysKept.trans {db db' db'' : Database} (h : KeysKept db db') (h' : KeysKept db' db'') : KeysKept db db'' := by
  intro apiKey hrow
  obtain ⟨apiKey', hrow', hid, hhash⟩ := h apiKey hrow
  obtain ⟨apiKey'', hrow'', hid', hhash'⟩ := h' apiKey' hrow'
  exact ⟨apiKey'', hrow'', hid'.trans hid, hhash'.trans hhash⟩

theorem keysKept_updateApiKey (db : Database) (id : String) (f : ApiKeyRow → ApiKeyRow)
    (hid : ∀ row, (f row).id = row.id) (hhash : ∀ row, (f row).keyHash = row.keyHash) :
    KeysKept db (db.updateApiKey id f hid hhash) := by
  intro apiKey hrow
  refine ⟨if apiKey.id = id then f apiKey else apiKey, List.mem_map_of_mem hrow, ?_, ?_⟩
  · split
    · exact hid apiKey
    · rfl
  · split
    · exact hhash apiKey
    · rfl

theorem keysKept_setKeyElo (db : Database) (id : String) (elo : Int) : KeysKept db (db.setKeyElo id elo) :=
  keysKept_updateApiKey db id (fun row => { row with eloRating := elo }) (fun _ => rfl) fun _ => rfl

theorem keysKept_deactivateKey (db : Database) (id : String) : KeysKept db (db.deactivateKey id) :=
  keysKept_updateApiKey db id (fun row => { row with isActive := false }) (fun _ => rfl) fun _ => rfl

/-- An agent's row has a key that is there. -/
def Keyed (db : Database) (player : PlayerRow) : Prop :=
  player.isAgent = true → ∃ apiKey ∈ db.apiKeys.rows, player.apiKeyId = some apiKey.id

theorem isAgent_of_enrolment {player player' : PlayerRow} (h : player'.enrolment = player.enrolment) :
    player'.isAgent = player.isAgent := by
  have hkind := congrArg PlayerRow.isAgent h
  exact hkind

theorem apiKeyId_of_enrolment {player player' : PlayerRow} (h : player'.enrolment = player.enrolment) :
    player'.apiKeyId = player.apiKeyId := by
  have hkey := congrArg PlayerRow.apiKeyId h
  exact hkey

theorem userId_of_enrolment {player player' : PlayerRow} (h : player'.enrolment = player.enrolment) :
    player'.userId = player.userId := by
  have huser := congrArg PlayerRow.userId h
  exact huser

theorem Keyed.kept {db db' : Database} {player player' : PlayerRow} (h : Keyed db player) (hkeys : KeysKept db db')
    (hsame : player'.enrolment = player.enrolment) : Keyed db' player' := by
  intro hagent
  have hkind : player'.isAgent = player.isAgent := isAgent_of_enrolment hsame
  have hkeyId : player'.apiKeyId = player.apiKeyId := apiKeyId_of_enrolment hsame
  obtain ⟨apiKey, hrow, hid⟩ := h (hkind ▸ hagent)
  obtain ⟨apiKey', hrow', hid', -⟩ := hkeys apiKey hrow
  exact ⟨apiKey', hrow', by rw [hkeyId, hid, hid']⟩

theorem agentIdOfKey_congr (hashApiKey : String → String) {apiKey apiKey' : ApiKeyRow} (hid : apiKey'.id = apiKey.id)
    (hhash : apiKey'.keyHash = apiKey.keyHash) : agentIdOfKey hashApiKey apiKey' = agentIdOfKey hashApiKey apiKey := by
  unfold agentIdOfKey
  rw [hid, hhash]

theorem occupantOfRow_of_key {hashApiKey : String → String} {db : Database} {player : PlayerRow} {apiKey : ApiKeyRow}
    (hagent : player.isAgent = true) (hrow : apiKey ∈ db.apiKeys.rows) (hid : player.apiKeyId = some apiKey.id) :
    occupantOfRow hashApiKey db player = .agent (agentIdOfKey hashApiKey apiKey) := by
  have hfound : db.apiKeys.get? apiKey.id = some apiKey := Table.get?_eq_some.2 ⟨hrow, rfl⟩
  simp only [occupantOfRow, hagent, if_true, agentIdOfPlayer, apiKeyOfPlayer, hid, Option.bind_some, hfound,
    agentId_resolveLoadedAgentIdentity]

theorem occupantOfRow_kept (hashApiKey : String → String) {db db' : Database} {player player' : PlayerRow}
    (hkeyed : Keyed db player) (hkeys : KeysKept db db') (hsame : player'.enrolment = player.enrolment) :
    occupantOfRow hashApiKey db' player' = occupantOfRow hashApiKey db player := by
  have hkind : player'.isAgent = player.isAgent := isAgent_of_enrolment hsame
  have hkeyId : player'.apiKeyId = player.apiKeyId := apiKeyId_of_enrolment hsame
  have huser : player'.userId = player.userId := userId_of_enrolment hsame
  cases hagent : player.isAgent with
  | true =>
      obtain ⟨apiKey, hrow, hid⟩ := hkeyed hagent
      obtain ⟨apiKey', hrow', hid', hhash⟩ := hkeys apiKey hrow
      rw [occupantOfRow_of_key hagent hrow hid,
        occupantOfRow_of_key (hkind.trans hagent) hrow' (by rw [hkeyId, hid, hid']),
        agentIdOfKey_congr hashApiKey hid' hhash]
  | false => simp only [occupantOfRow, hkind, hagent, huser, Bool.false_eq_true, if_false]

/-- A row's id and occupant. -/
def seatOf (hashApiKey : String → String) (db : Database) (player : PlayerRow) : String × Occupant :=
  (player.id, occupantOfRow hashApiKey db player)

/-- The seats of a match decide whether its rows are seated. -/
theorem SeatedRows.of_perm {hashApiKey : String → String} {matchRow matchRow' : MatchRow} {db db' : Database} {k : Nat}
    (h : SeatedRows hashApiKey matchRow db k) (hid : matchRow'.id = matchRow.id)
    (hstored : db'.matchRows.get? matchRow.id = some matchRow')
    (hperm : ((db'.playersOfMatch matchRow.id).map (seatOf hashApiKey db')).Perm
      ((db.playersOfMatch matchRow.id).map (seatOf hashApiKey db))) :
    SeatedRows hashApiKey matchRow' db' k := by
  have hids := hperm.map Prod.fst
  have hoccupants := hperm.map Prod.snd
  rw [List.map_map, List.map_map] at hids hoccupants
  refine ⟨hid ▸ hstored, ?_, ?_⟩
  · intro persistedId
    rw [hid, ← h.rows]
    exact hids.mem_iff
  · rw [hid]
    exact hoccupants.nodup_iff.2 h.occupants

theorem seats_of_playersOfMatch (hashApiKey : String → String) (db : Database) (matchId : String) :
    ((db.playersOfMatch matchId).map (seatOf hashApiKey db)).Perm
      ((db.players.rows.filter fun player => player.matchId = matchId).map (seatOf hashApiKey db)) :=
  (List.perm_insertionSort _ _).map _

/-- Rows that are the same but for their alliances have the same seats. -/
theorem seats_kept_of_enrolments (hashApiKey : String → String) {db db' : Database}
    (hkeyed : ∀ player ∈ db.players.rows, Keyed db player) (hkeys : KeysKept db db')
    (henrolments : db'.players.rows.map PlayerRow.enrolment = db.players.rows.map PlayerRow.enrolment)
    (matchId : String) :
    ((db'.playersOfMatch matchId).map (seatOf hashApiKey db')).Perm
      ((db.playersOfMatch matchId).map (seatOf hashApiKey db)) := by
  refine (seats_of_playersOfMatch hashApiKey db' matchId).trans
    (List.Perm.trans (List.Perm.of_eq ?_) (seats_of_playersOfMatch hashApiKey db matchId).symm)
  -- both lists are read off the enrolments, in the same order
  have hread : ∀ database : Database,
      (database.players.rows.filter fun player => player.matchId = matchId).map (seatOf hashApiKey database) =
      ((database.players.rows.map PlayerRow.enrolment).filter fun player => player.matchId = matchId).map
        (seatOf hashApiKey database) := by
    intro database
    rw [List.filter_map, List.map_map]
    rfl
  rw [hread, hread, henrolments]
  apply List.map_congr_left
  intro enrolled hmem
  obtain ⟨player, hplayer, rfl⟩ := List.mem_map.1 (List.mem_filter.1 hmem).1
  exact Prod.ext rfl (occupantOfRow_kept hashApiKey (hkeyed player hplayer) hkeys rfl)

/-- A row of another match changes no seat. -/
theorem seats_kept_of_addPlayer (hashApiKey : String → String) {db db' : Database} {player : PlayerRow}
    (hadd : addPlayer db player = .ok db') {matchId : String} (hother : player.matchId ≠ matchId) :
    ((db'.playersOfMatch matchId).map (seatOf hashApiKey db')).Perm
      ((db.playersOfMatch matchId).map (seatOf hashApiKey db)) := by
  obtain ⟨players, hsession, rfl⟩ := addPlayer_eq_ok hadd
  obtain ⟨-, hrows⟩ := sessionAdd_eq_ok hsession
  have hfilter : players.rows.filter (fun row => row.matchId = matchId) =
      db.players.rows.filter fun row => row.matchId = matchId := by
    rw [hrows, List.filter_append, List.filter_cons_of_neg (by simpa using hother), List.filter_nil, List.append_nil]
  unfold Database.playersOfMatch
  dsimp only
  rw [hfilter]
  exact List.Perm.of_eq rfl

/-! ### Seated servers -/

/-- The rows of every match are seated among its players, and live records have the players of their rows. -/
structure Server.SeatsAll (hashApiKey : String → String) (server : Server) : Prop where
  matchSeats : ∀ matchId matchRow, server.database.matchRows.get? matchId = some matchRow →
    ∃ k n, k ≤ n ∧ SeatedRows hashApiKey matchRow server.database k ∧ NumberedPlayers matchRow.state n
  homed : ∀ player ∈ server.database.players.rows, player.matchId ∈ server.database.matchRows.keys
  keyed : ∀ player ∈ server.database.players.rows, Keyed server.database player
  live : ∀ matchId record, server.registry.getMatch matchId = some record → record.matchId = matchId ∧
    ∃ matchRow, server.database.matchRows.get? matchId = some matchRow ∧
      record.state.players.keys = matchRow.state.players.keys

theorem NumberedPlayers.congr {state state' : MatchState} {n : Nat} (h : NumberedPlayers state n)
    (hkeys : state'.players.keys = state.players.keys) : NumberedPlayers state' n := by
  intro playerId
  rw [hkeys]
  exact h playerId

/-! ### The players of a record -/

theorem keys_applyMatchCommand {record next : MatchRecord} {playerId : String} {command : MatchCommand}
    {accepted : CommandAcceptance} (h : applyMatchCommand record playerId command = .ok (next, accepted)) :
    next.state.players.keys = record.state.players.keys := by
  have hparts : Relation.ReflTransGen (CommandPart (fun _ => True) playerId) record next :=
    applyMatchCommand_parts (fun _ _ => trivial) (by cases command <;> trivial) h
  refine keeps_reached (I := fun reached => reached.state.players.keys = record.state.players.keys) ?_ hparts rfl
  intro before after hpart hbefore
  cases hpart with
  | submitted envelope => exact hbefore
  | posted messages groupChats => exact hbefore
  | treaty hallowed haction =>
      obtain ⟨treaties, messages, rfl⟩ := applyTreatyAction_frame haction
      exact hbefore
  | alliance haction =>
      obtain ⟨alliances, worn, rfl, -⟩ := applyAllianceAction_eq_ok haction
      exact (keys_setAlliance before.state playerId worn).trans hbefore

theorem keys_advanceMatchTick (record : MatchRecord) :
    (advanceMatchTick record).1.state.players.keys = record.state.players.keys := by
  cases hsettled : settledBoard record with
  | error error => rw [(advanceMatchTick_of_error hsettled).1]
  | ok settled =>
      rw [(advanceMatchTick_of_settled hsettled).1]
      change settled.players.keys = _
      exact keys_of_tickFrame (tickFrame_resolveThroughDiplomacy hsettled)

/-! ### Steps -/

section Steps

variable {hashApiKey : String → String} {variant : StorageVariant} {server next : Server}

/-- A step that accounts for every row it leaves, and for every live record, keeps all seats. -/
theorem Server.SeatsAll.accounted (h : server.SeatsAll hashApiKey) (hkeys : KeysKept server.database next.database)
    (hrows : ∀ matchId matchRow', next.database.matchRows.get? matchId = some matchRow' →
      (∃ matchRow, server.database.matchRows.get? matchId = some matchRow ∧ matchRow'.id = matchRow.id ∧
        matchRow'.state.players.keys = matchRow.state.players.keys ∧
        ((next.database.playersOfMatch matchId).map (seatOf hashApiKey next.database)).Perm
          ((server.database.playersOfMatch matchId).map (seatOf hashApiKey server.database))) ∨
      ∃ k n, k ≤ n ∧ SeatedRows hashApiKey matchRow' next.database k ∧ NumberedPlayers matchRow'.state n)
    (hplayers : ∀ player' ∈ next.database.players.rows,
      (∃ player ∈ server.database.players.rows, player'.enrolment = player.enrolment) ∨
        (player'.matchId ∈ next.database.matchRows.keys ∧ Keyed next.database player'))
    (hmatches : server.database.matchRows.keys ⊆ next.database.matchRows.keys)
    (hlive : ∀ matchId record, next.registry.getMatch matchId = some record → record.matchId = matchId ∧
      ∃ matchRow, next.database.matchRows.get? matchId = some matchRow ∧
        record.state.players.keys = matchRow.state.players.keys) : next.SeatsAll hashApiKey where
  matchSeats := by
    intro matchId matchRow' hrow'
    rcases hrows matchId matchRow' hrow' with ⟨matchRow, hrow, hid, hstate, hperm⟩ | hnew
    · obtain ⟨k, n, hk, hseated, hnumbered⟩ := h.matchSeats matchId matchRow hrow
      obtain rfl : matchRow.id = matchId := Table.key_of_get? hrow
      exact ⟨k, n, hk, hseated.of_perm hid hrow' hperm, hnumbered.congr hstate⟩
    · exact hnew
  homed := by
    intro player' hplayer'
    rcases hplayers player' hplayer' with ⟨player, hplayer, hsame⟩ | hnew
    · rw [matchId_of_enrolment hsame]
      exact hmatches (h.homed player hplayer)
    · exact hnew.1
  keyed := by
    intro player' hplayer'
    rcases hplayers player' hplayer' with ⟨player, hplayer, hsame⟩ | hnew
    · exact (h.keyed player hplayer).kept hkeys hsame
    · exact hnew.2
  live := hlive

/-- Where matches and players are untouched, only keys and live records have to be accounted for. -/
theorem Server.SeatsAll.accounted_rows (h : server.SeatsAll hashApiKey) (hkeys : KeysKept server.database next.database)
    (hmatches : next.database.matchRows = server.database.matchRows)
    (hplayers : next.database.players = server.database.players)
    (hlive : ∀ matchId record, next.registry.getMatch matchId = some record → record.matchId = matchId ∧
      ∃ matchRow, server.database.matchRows.get? matchId = some matchRow ∧
        record.state.players.keys = matchRow.state.players.keys) : next.SeatsAll hashApiKey := by
  refine h.accounted hkeys ?_ ?_ ?_ ?_
  · intro matchId matchRow hrow
    rw [hmatches] at hrow
    exact Or.inl ⟨matchRow, hrow, rfl, rfl, seats_kept_of_enrolments hashApiKey h.keyed hkeys (by rw [hplayers]) matchId⟩
  · intro player hplayer
    rw [hplayers] at hplayer
    exact Or.inl ⟨player, hplayer, rfl⟩
  · rw [hmatches]
    exact List.Subset.refl _
  · rw [hmatches]
    exact hlive

/-- A record with the players of its match's row takes the place of the live one. -/
theorem live_stored (h : server.SeatsAll hashApiKey) {matchId : String} {record record' : MatchRecord}
    (hrecord : server.registry.getMatch matchId = some record) (hid : record'.matchId = record.matchId)
    (hstate : record'.state.players.keys = record.state.players.keys) (id : String) (live : MatchRecord)
    (hlive : (server.registry.storeMatch matchId record').getMatch id = some live) : live.matchId = id ∧
      ∃ matchRow, server.database.matchRows.get? id = some matchRow ∧
        live.state.players.keys = matchRow.state.players.keys := by
  have hstored : (server.registry.storeMatch matchId record').getMatch id =
      if id = matchId then some record' else server.registry.getMatch id := OrdDict.get?_insert _ _ _ _
  rw [hstored] at hlive
  split at hlive
  · rename_i hsame
    cases hlive
    obtain ⟨hmatch, matchRow, hrow, hkeys⟩ := h.live matchId record hrecord
    exact ⟨hid.trans (hmatch.trans hsame.symm), matchRow, hsame ▸ hrow, hstate.trans hkeys⟩
  · exact h.live id live hlive

theorem Keyed.of_resolved {db : Database} {identity : PlayerIdentity} (h : Resolved hashApiKey db identity)
    (matchId : String) (joinIndex : Nat) : Keyed db (joinedPlayerRow matchId joinIndex identity) := by
  intro hagent
  cases h with
  | agent keyHash agent hresolve =>
      obtain ⟨apiKey, hrow, -, -, hid, -⟩ := resolveAuthenticatedAgentFromDbKeyHash_eq_some hashApiKey hresolve
      exact ⟨apiKey, hrow, congrArg some hid⟩
  | human userId => cases hagent

/-- A lobby operation's record takes the place of the live one of its match. -/
theorem live_seeded (h : server.SeatsAll hashApiKey) {record : MatchRecord} {matchRow : MatchRow} {database : Database}
    (hrow : database.matchRows.get? record.matchId = some matchRow)
    (hothers : ∀ id, id ≠ record.matchId → database.matchRows.get? id = server.database.matchRows.get? id)
    (hstate : record.state.players.keys = matchRow.state.players.keys) (id : String) (live : MatchRecord)
    (hlive : (server.commit database record).registry.getMatch id = some live) : live.matchId = id ∧
      ∃ matchRow, database.matchRows.get? id = some matchRow ∧
        live.state.players.keys = matchRow.state.players.keys := by
  have hseeded := InMemoryMatchRegistry.getMatch_seedMatch server.registry record id
  rw [show (server.registry.seedMatch record).getMatch id = some live from hlive] at hseeded
  split at hseeded
  · rename_i hsame
    cases hseeded
    exact ⟨hsame.symm, matchRow, hsame ▸ hrow, hstate⟩
  · rename_i hother
    rw [hothers id hother]
    exact h.live id live hseeded.symm

theorem Server.SeatsAll.lobbyCreated (h : server.SeatsAll hashApiKey) {actor : LobbyActor}
    {request : MatchLobbyCreateRequest} {matchId : String} {database : Database} {created : CreatedMatchLobby}
    (hcreate : createMatchLobby hashApiKey server.database actor request matchId = .ok (database, created)) :
    (server.commit database created.record).SeatsAll hashApiKey := by
  obtain ⟨state, creator, agent, matchRows, -, hcreator, hmatch, hadd, hrecord⟩ := createMatchLobby_eq_ok hcreate
  obtain ⟨hnew, hrows⟩ := sessionAdd_eq_ok hmatch
  obtain ⟨hmatchRows, -, -, hplayers⟩ := addPlayer_tables hadd
  have hlookup : ∀ id, database.matchRows.get? id =
      if id = matchId then some (lobbyMatchRow matchId request state creator) else server.database.matchRows.get? id := by
    intro id
    rw [hmatchRows]
    exact Table.get?_append hnew hrows id
  have hkeys : database.apiKeys = server.database.apiKeys := by
    obtain ⟨players, -, rfl⟩ := addPlayer_eq_ok hadd
    rfl
  have hfresh : ∀ player ∈ server.database.players.rows, player.matchId ≠ matchId :=
    fun player hplayer hsame => hnew (hsame ▸ h.homed player hplayer)
  rw [hrecord]
  have hstored : database.matchRows.get? matchId = some (lobbyMatchRow matchId request state creator) :=
    (hlookup matchId).trans (if_pos rfl)
  refine h.accounted (KeysKept.of_eq hkeys) ?_ ?_ ?_ (live_seeded h hstored ?_ rfl)
  · intro id matchRow hrow
    by_cases hid : id = matchId
    · subst hid
      obtain ⟨seatedRow, hsame, hseated, hnumbered⟩ := SeatedRows.created hfresh hcreate
      have hseatedRow := hseated.stored
      rw [hsame] at hseatedRow
      obtain rfl := Option.some.inj (hseatedRow.symm.trans hrow)
      exact Or.inr ⟨1, request.maxPlayers, request.maxPlayers_pos, hseated, hnumbered⟩
    · have hrow : database.matchRows.get? id = some matchRow := hrow
      rw [hlookup, if_neg hid] at hrow
      exact Or.inl ⟨matchRow, hrow, rfl, rfl, seats_kept_of_addPlayer hashApiKey hadd (Ne.symm hid)⟩
  · intro player hplayer
    have hplayer : player ∈ database.players.rows := hplayer
    rw [hplayers] at hplayer
    rcases List.mem_append.1 hplayer with hold | hadded
    · exact Or.inl ⟨player, hold, rfl⟩
    · obtain rfl := List.mem_singleton.1 hadded
      have hkeyed := Keyed.of_resolved (resolveLobbyCreator_eq_ok hcreator).1 matchId 1
      refine Or.inr ⟨Table.mem_keys_of_get? hstored, fun hagent => ?_⟩
      obtain ⟨apiKey, hrow, hid⟩ := hkeyed hagent
      exact ⟨apiKey, hkeys ▸ hrow, hid⟩
  · change server.database.matchRows.keys ⊆ database.matchRows.keys
    unfold Table.keys
    rw [hmatchRows, hrows, List.map_append]
    exact List.subset_append_left _ _
  · intro id hother
    rw [hlookup]
    exact if_neg hother

theorem Server.SeatsAll.joined (h : server.SeatsAll hashApiKey) {actor : LobbyActor} {matchId : String}
    {database : Database} {joined : JoinedMatch}
    (hjoin : joinDbMatch hashApiKey variant server.database matchId actor = .ok (database, joined)) :
    (server.commit database joined.record).SeatsAll hashApiKey := by
  obtain ⟨row, hrow, hadded, hrecord⟩ := joinDbMatch_eq_ok hjoin
  obtain rfl : row.id = matchId := Table.key_of_get? hrow
  obtain ⟨k, n, hk, hseated, hnumbered⟩ := h.matchSeats row.id row hrow
  have hseats : ∃ k n, k ≤ n ∧ SeatedRows hashApiKey row database k ∧ NumberedPlayers row.state n := by
    obtain ⟨-, ⟨rfl, -⟩ | hanew⟩ := hseated.join_cases hnumbered hk hjoin
    · exact ⟨k, n, hk, hseated, hnumbered⟩
    · exact ⟨k + 1, n, hanew.room, hanew.seated, hnumbered⟩
  rw [hrecord]
  rcases hadded with rfl | ⟨identity, joinIndex, hresolved, hadd⟩
  · exact h.accounted_rows (KeysKept.of_eq rfl) rfl rfl (live_seeded h hrow (fun _ _ => rfl) rfl)
  · obtain ⟨hmatchRows, -, -, hplayers⟩ := addPlayer_tables hadd
    have hkeys : database.apiKeys = server.database.apiKeys := by
      obtain ⟨players, -, rfl⟩ := addPlayer_eq_ok hadd
      rfl
    refine h.accounted (KeysKept.of_eq hkeys) ?_ ?_ ?_ (live_seeded h ?_ ?_ rfl)
    · intro id matchRow hfound
      have hfound : database.matchRows.get? id = some matchRow := hfound
      rw [hmatchRows] at hfound
      by_cases hid : id = row.id
      · subst hid
        obtain rfl := Option.some.inj (hrow.symm.trans hfound)
        exact Or.inr hseats
      · exact Or.inl ⟨matchRow, hfound, rfl, rfl, seats_kept_of_addPlayer hashApiKey hadd (Ne.symm hid)⟩
    · intro player hplayer
      have hplayer : player ∈ database.players.rows := hplayer
      rw [hplayers] at hplayer
      rcases List.mem_append.1 hplayer with hold | hnew
      · exact Or.inl ⟨player, hold, rfl⟩
      · obtain rfl := List.mem_singleton.1 hnew
        refine Or.inr ⟨?_, (Keyed.of_resolved hresolved row.id joinIndex).kept (KeysKept.of_eq hkeys) rfl⟩
        change row.id ∈ database.matchRows.keys
        rw [hmatchRows]
        exact Table.mem_keys_of_get? hrow
    · change server.database.matchRows.keys ⊆ database.matchRows.keys
      rw [hmatchRows]
      exact List.Subset.refl _
    · rw [hmatchRows]
      exact hrow
    · exact fun id _ => congrArg (fun table => Table.get? table id) hmatchRows

theorem Server.SeatsAll.started (h : server.SeatsAll hashApiKey) {actor : LobbyActor} {matchId : String}
    {database : Database} {started : StartedMatchLobby}
    (hstart : startMatchLobby hashApiKey variant server.database matchId actor = .ok (database, started)) :
    (server.commit database started.record).SeatsAll hashApiKey := by
  obtain ⟨row, hrow, -, -, rfl, hrecord⟩ := startMatchLobby_eq_ok hstart
  obtain rfl : row.id = matchId := Table.key_of_get? hrow
  have hlookup : ∀ id, (activateMatch server.database row).matchRows.get? id =
      if id = row.id then (server.database.matchRows.get? id).map startedMatchRow
      else server.database.matchRows.get? id :=
    Table.get?_update server.database.matchRows row.id startedMatchRow fun _ => rfl
  rw [hrecord]
  have hstored : (activateMatch server.database row).matchRows.get? row.id = some (startedMatchRow row) := by
    rw [hlookup, if_pos rfl, hrow]
    rfl
  refine h.accounted (KeysKept.of_eq rfl) ?_ (fun player hplayer => Or.inl ⟨player, hplayer, rfl⟩) ?_
    (live_seeded h hstored ?_ rfl)
  · intro id matchRow hfound
    have hfound : (activateMatch server.database row).matchRows.get? id = some matchRow := hfound
    rw [hlookup] at hfound
    split at hfound
    · obtain ⟨old, hold, rfl⟩ := Option.map_eq_some_iff.1 hfound
      exact Or.inl ⟨old, hold, rfl, rfl, List.Perm.of_eq rfl⟩
    · exact Or.inl ⟨matchRow, hfound, rfl, rfl, List.Perm.of_eq rfl⟩
  · have hkeys : (activateMatch server.database row).matchRows.keys = server.database.matchRows.keys :=
      Table.keys_update server.database.matchRows row.id startedMatchRow fun _ => rfl
    change server.database.matchRows.keys ⊆ (activateMatch server.database row).matchRows.keys
    rw [hkeys]
    exact List.Subset.refl _
  · intro id hother
    rw [hlookup]
    exact if_neg hother

/-- Settling changes no key but for its rating. -/
theorem keysKept_persist {newId : Nat → String} {settledAt : Nat} {db db' : Database} {advancedTick : AdvancedMatchTick}
    (h : persistAdvancedMatchTick variant newId settledAt db advancedTick = .ok db') : KeysKept db db' := by
  obtain ⟨row, synced, ids, winnerAlliance, settled, -, hsync, -, hsettle, rfl⟩ := persistAdvancedMatchTick_eq_ok h
  obtain ⟨alliances, players, rfl, -⟩ := syncTerminalAllianceRows_eq_ok hsync
  rcases settleCompletedMatchIfNeeded_eq_ok hsettle with ⟨rfl, -⟩ | ⟨-, hsettled⟩
  · exact KeysKept.of_eq rfl
  · obtain ⟨matchSettlements, outcome, -, -, -, hplayers⟩ := settleMatch_eq_ok hsettled
    have hkept : KeysKept db settled := by
      refine Run.invariant_foldlM (I := fun reached => KeysKept db reached) ?_ hplayers (KeysKept.of_eq rfl)
      intro reached player reached' hstep hreached
      obtain ⟨playerMatchSettlements, -, rfl⟩ := settlePlayer_eq_ok hstep
      unfold recordKeyElo
      split
      · exact hreached.trans (keysKept_setKeyElo { reached with playerMatchSettlements } _ _)
      · exact hreached
    exact hkept

theorem Server.SeatsAll.ticked (h : server.SeatsAll hashApiKey) {matchId : String} {newId : Nat → String}
    {elapsed : Nat} {record : MatchRecord} {advancedTick : AdvancedMatchTick} {database : Database}
    (hrecord : server.registry.getMatch matchId = some record)
    (htick : (advanceRegistryTick record).2 = .ok advancedTick)
    (hpersist : persistAdvancedMatchTick variant newId (server.readClock elapsed) server.database advancedTick =
      .ok database) :
    (server.afterRound matchId elapsed (completeRecord advancedTick (advanceRegistryTick record).1) database).SeatsAll
      hashApiKey := by
  obtain ⟨hid, row, hrow, hstate⟩ := h.live matchId record hrecord
  obtain ⟨hmatch, hnext, -, -⟩ := advanceRegistryTick_eq_ok htick
  obtain ⟨stored, hpersisted⟩ := persistAdvancedMatchTick_persisted hpersist
  obtain rfl : stored = row := by
    have hstored := hpersisted.row_found
    rw [hmatch, hid, hrow] at hstored
    exact (Option.some.inj hstored).symm
  obtain rfl : stored.id = matchId := Table.key_of_get? hrow
  obtain ⟨row', hrowState, -, hrows⟩ := hpersisted.row_state
  have hkeys : row'.state.players.keys = stored.state.players.keys := by
    rw [hrowState, hnext, keys_advanceMatchTick, hstate]
  have hrow' : database.matchRows.get? stored.id = some row' := (hrows stored.id).trans (if_pos rfl)
  refine h.accounted (keysKept_persist hpersist) ?_ ?_ ?_ ?_
  · intro id matchRow hfound
    have hfound : database.matchRows.get? id = some matchRow := hfound
    have hperm := seats_kept_of_enrolments hashApiKey h.keyed (keysKept_persist hpersist) hpersisted.enrolments_kept id
    by_cases hsame : id = stored.id
    · subst hsame
      obtain rfl := Option.some.inj (hrow'.symm.trans hfound)
      exact Or.inl ⟨stored, hrow, Table.key_of_get? hrow', hkeys, hperm⟩
    · rw [hrows, if_neg hsame] at hfound
      exact Or.inl ⟨matchRow, hfound, rfl, rfl, hperm⟩
  · intro player hplayer
    obtain ⟨old, hold, hsame⟩ := exists_enrolled hpersisted.enrolments_kept.symm hplayer
    exact Or.inl ⟨old, hold, hsame.symm⟩
  · intro id hmem
    obtain ⟨found, hfound, rfl⟩ := List.mem_map.1 hmem
    have hlookup := hrows found.id
    split at hlookup
    · exact Table.mem_keys_of_get? hlookup
    · exact Table.mem_keys_of_get? (hlookup.trans (Table.get?_eq_some.2 ⟨hfound, rfl⟩))
  · intro id live hlive
    have hstored : (server.registry.storeMatch stored.id
        (completeRecord advancedTick (advanceRegistryTick record).1)).getMatch id =
      if id = stored.id then some (completeRecord advancedTick (advanceRegistryTick record).1)
      else server.registry.getMatch id := OrdDict.get?_insert _ _ _ _
    rw [show (server.registry.storeMatch stored.id
      (completeRecord advancedTick (advanceRegistryTick record).1)).getMatch id = some live from hlive] at hstored
    split at hstored
    · rename_i hsame
      cases hstored
      have hmatchId : (advanceMatchTick record).1.matchId = record.matchId :=
        congrArg Prod.fst (identity_advanceMatchTick record)
      refine ⟨hmatchId.trans (hid.trans hsame.symm), row', hsame ▸ hrow', ?_⟩
      exact (congrArg (fun state => state.players.keys) (hrowState.trans hnext)).symm
    · rename_i hother
      obtain ⟨hlived, found, hfound, hplayers⟩ := h.live id live hstored.symm
      refine ⟨hlived, found, ?_, hplayers⟩
      change database.matchRows.get? id = some found
      rw [hrows, if_neg hother, hfound]

theorem Server.SeatsAll.hydrated (h : server.SeatsAll hashApiKey) {registry : InMemoryMatchRegistry}
    (hload : loadMatchRegistryFromDatabase hashApiKey server.database = .ok registry) :
    ({ server with registry } : Server).SeatsAll hashApiKey := by
  refine h.accounted_rows (KeysKept.of_eq rfl) rfl rfl ?_
  intro matchId record hrecord
  have hrecord : registry.getMatch matchId = some record := hrecord
  rw [getMatch_loadMatchRegistryFromDatabase hload] at hrecord
  obtain ⟨row, hrow, rfl⟩ := Option.map_eq_some_iff.1 hrecord
  obtain rfl : row.id = matchId := Table.key_of_get? hrow
  exact ⟨rfl, row, hrow, rfl⟩

theorem Server.SeatsAll.step (h : server.SeatsAll hashApiKey) (event : ServerEvent) :
    (serverStep hashApiKey variant server event).SeatsAll hashApiKey := by
  have heffect : ServerEffect hashApiKey variant server event (serverStep hashApiKey variant server event) :=
    serverStep_effect server event
  generalize serverStep hashApiKey variant server event = next at heffect
  cases heffect with
  | refused => exact h
  | keyCreated hfresh hadd =>
      obtain ⟨-, hrows, hdb⟩ := Database.addApiKey_eq_ok hadd
      have hmatchRows := congrArg Database.matchRows hdb
      have hplayers := congrArg Database.players hdb
      refine h.accounted_rows ?_ hmatchRows hplayers h.live
      intro apiKey hmem
      exact ⟨apiKey, hrows ▸ List.mem_append_left _ hmem, rfl, rfl⟩
  | keyRevoked hfound => exact h.accounted_rows (keysKept_deactivateKey _ _) rfl rfl h.live
  | lobbyCreated hcreate => exact h.lobbyCreated hcreate
  | joined hjoin => exact h.joined hjoin
  | started hstart => exact h.started hstart
  | commanded hrecord hcommand =>
      refine h.accounted_rows (KeysKept.of_eq rfl) rfl rfl (live_stored h hrecord ?_ (keys_applyMatchCommand hcommand))
      exact congrArg Prod.fst (identity_applyMatchCommand hcommand)
  | tickIdle hrecord => exact h.accounted_rows (KeysKept.of_eq rfl) rfl rfl (live_stored h hrecord rfl rfl)
  | tickRaised hrecord hactive htick =>
      refine h.accounted_rows (KeysKept.of_eq rfl) rfl rfl (live_stored h hrecord ?_ (keys_advanceMatchTick _))
      exact congrArg Prod.fst (identity_advanceMatchTick _)
  | ticked hrecord hactive htick hpersist => exact h.ticked hrecord htick hpersist
  | hydrated hload => exact h.hydrated hload

end Steps

theorem Server.HoldsNoMatch.seatsAll {hashApiKey : String → String} {server : Server} (h : server.HoldsNoMatch) :
    server.SeatsAll hashApiKey where
  matchSeats := by
    intro matchId row hrow
    have hmem := Table.mem_rows_of_get? hrow
    rw [h.matchRows] at hmem
    cases hmem
  homed := by
    rw [h.players]
    exact fun player hplayer => absurd hplayer List.not_mem_nil
  keyed := by
    rw [h.players]
    exact fun player hplayer => absurd hplayer List.not_mem_nil
  live := by
    intro matchId record hrecord
    unfold InMemoryMatchRegistry.getMatch at hrecord
    rw [h.records] at hrecord
    cases hrecord

end IronCouncil
