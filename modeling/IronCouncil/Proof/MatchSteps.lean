import IronCouncil.Proof.ServerRuns
import IronCouncil.Proof.BoardRuns

/-!
# One match among the steps of a server

Seen from one match, a step of the server leaves the match's row and log as they are, creates the row, loads the live record from the row, or ticks the record and writes the tick. Between two loads or ticks the state of the live record changes by alliances only.
-/

namespace IronCouncil

/-- The tick log of a match, in the order of its rows' ids. -/
def Database.ticksOf (db : Database) (matchId : String) : List TickLogRow :=
  db.tickLogs.filter fun entry => entry.matchId = matchId

theorem Database.ticksOf_append {db db' : Database} {entry : TickLogRow} (h : db'.tickLogs = db.tickLogs ++ [entry])
    (matchId : String) :
    db'.ticksOf matchId = if entry.matchId = matchId then db.ticksOf matchId ++ [entry] else db.ticksOf matchId := by
  unfold Database.ticksOf
  rw [h, List.filter_append]
  split
  · rename_i hmatch
    rw [List.filter_cons_of_pos (by simpa using hmatch), List.filter_nil]
  · rename_i hmatch
    rw [List.filter_cons_of_neg (by simpa using hmatch), List.filter_nil, List.append_nil]

/-! ### Alliance changes -/

/-- A player's alliance changes, and the victory state follows. -/
def AllianceChange (state next : MatchState) : Prop :=
  ∃ playerId allianceId, next = boardStep state (.alliance playerId allianceId)

/-- Any number of alliance changes. -/
def Negotiated : MatchState → MatchState → Prop := Relation.ReflTransGen AllianceChange

theorem Negotiated.refl (state : MatchState) : Negotiated state state := Relation.ReflTransGen.refl

theorem negotiated_part {allowed : TreatyActionRequest → Prop} {playerId : String} {record next : MatchRecord}
    (hpart : CommandPart allowed playerId record next) : Negotiated record.state next.state := by
  cases hpart with
  | submitted envelope => exact .refl _
  | posted messages groupChats => exact .refl _
  | treaty hallowed haction =>
      obtain ⟨treaties, messages, rfl⟩ := applyTreatyAction_frame haction
      exact .refl _
  | alliance haction =>
      obtain ⟨alliances, allianceId, rfl, -⟩ := applyAllianceAction_eq_ok haction
      exact .single ⟨playerId, allianceId, rfl⟩

theorem negotiated_applyMatchCommand {record next : MatchRecord} {playerId : String} {command : MatchCommand}
    {accepted : CommandAcceptance} (h : applyMatchCommand record playerId command = .ok (next, accepted)) :
    Negotiated record.state next.state := by
  have hparts : Relation.ReflTransGen (CommandPart (fun _ => True) playerId) record next :=
    applyMatchCommand_parts (fun _ _ => trivial) (by cases command <;> trivial) h
  exact keeps_reached (I := fun reached => Negotiated record.state reached.state)
    (fun _ _ hpart hkept => hkept.trans (negotiated_part hpart)) hparts (.refl _)

/-- What alliance changes keep. -/
theorem Negotiated.keeps {I : MatchState → Prop} {state next : MatchState} (h : Negotiated state next)
    (hchange : ∀ before playerId allianceId, I before → I (boardStep before (.alliance playerId allianceId)))
    (hstate : I state) : I next := by
  induction h with
  | refl => exact hstate
  | tail _ hlast ih =>
      obtain ⟨playerId, allianceId, rfl⟩ := hlast
      exact hchange _ playerId allianceId ih

theorem Negotiated.tick_eq {state next : MatchState} (h : Negotiated state next) : next.tick = state.tick :=
  h.keeps (I := fun reached => reached.tick = state.tick) (fun _ _ _ hkept => hkept) rfl

/-! ### Steps -/

theorem tickLogs_settleCompletedMatchIfNeeded {variant : StorageVariant} {settledAt : Nat} {committed db db' : Database}
    {matchRow : MatchRow} (h : settleCompletedMatchIfNeeded variant settledAt committed db matchRow = .ok db') :
    db'.tickLogs = db.tickLogs := by
  rcases settleCompletedMatchIfNeeded_eq_ok h with ⟨rfl, -⟩ | ⟨-, hsettle⟩
  · rfl
  · obtain ⟨matchSettlements, outcome, -, -, -, hplayers⟩ := settleMatch_eq_ok hsettle
    refine Run.invariant_foldlM (I := fun settled : Database => settled.tickLogs = db.tickLogs) ?_ hplayers rfl
    intro settled player settled' hstep hkept
    obtain ⟨playerMatchSettlements, -, rfl⟩ := settlePlayer_eq_ok hstep
    unfold recordKeyElo
    split
    · exact hkept
    · exact hkept

/-- A persisted tick writes the match's row and appends the tick to the log. -/
theorem persistAdvancedMatchTick_row {variant : StorageVariant} {newId : Nat → String} {settledAt : Nat}
    {db db' : Database} {advancedTick : AdvancedMatchTick}
    (h : persistAdvancedMatchTick variant newId settledAt db advancedTick = .ok db') :
    ∃ stored winnerAlliance, db.matchRows.get? advancedTick.matchId = some stored ∧
      (∀ id, db'.matchRows.get? id = if id = advancedTick.matchId then
        some (writeWinner winnerAlliance (tickedMatchRow advancedTick stored)) else db.matchRows.get? id) ∧
      db'.tickLogs = db.tickLogs ++ [tickLogRow advancedTick] := by
  obtain ⟨stored, synced, ids, winnerAlliance, settled, hstored, hsync, -, hsettle, rfl⟩ :=
    persistAdvancedMatchTick_eq_ok h
  obtain ⟨alliances, players, rfl, -⟩ := syncTerminalAllianceRows_eq_ok hsync
  obtain ⟨matchSettlements, htables, -⟩ := matchTables_settleCompletedMatchIfNeeded hsettle
  have hlogs := tickLogs_settleCompletedMatchIfNeeded hsettle
  have hid : stored.id = advancedTick.matchId := Table.key_of_get? hstored
  refine ⟨stored, winnerAlliance, hstored, fun id => ?_, congrArg (· ++ [tickLogRow advancedTick]) hlogs⟩
  have hrows : settled.matchRows = db.matchRows.update stored.id
      (fun row => { writeWinner winnerAlliance (tickedMatchRow advancedTick stored) with id := row.id }) fun _ => rfl :=
    congrArg Prod.fst htables
  change settled.matchRows.get? id = _
  rw [hrows, Table.get?_update, hid]
  split
  · rename_i hmatch
    rw [hmatch, hstored]
    rfl
  · rfl

/-- What a step of the server can do to a match. -/
inductive MatchStep (server next : Server) (matchId : String) : Prop
  | kept (hrow : next.database.matchRows.get? matchId = server.database.matchRows.get? matchId)
      (hlog : next.database.ticksOf matchId = server.database.ticksOf matchId)
      (hlive : ∀ record', next.registry.getMatch matchId = some record' →
        ∃ record, server.registry.getMatch matchId = some record ∧ Negotiated record.state record'.state)
  | created {request : MatchLobbyCreateRequest} {state : MatchState} {creator : PlayerIdentity}
      (hnone : server.database.matchRows.get? matchId = none)
      (hstate : initializeMatchState (lobbyConfig request) (lobbyRoster request) none = .ok state)
      (hrow : next.database.matchRows.get? matchId = some (lobbyMatchRow matchId request state creator))
      (hlog : next.database.ticksOf matchId = server.database.ticksOf matchId)
      (hlive : ∀ record, next.registry.getMatch matchId = some record → record.state = state)
  | loaded {row : MatchRow} {status : MatchStatus} (hrow : server.database.matchRows.get? matchId = some row)
      (hstatus : status = row.status ∨ row.status = .lobby)
      (hrow' : next.database.matchRows.get? matchId = some { row with status })
      (hlog : next.database.ticksOf matchId = server.database.ticksOf matchId)
      (hlive : ∀ record, next.registry.getMatch matchId = some record → record.state = row.state)
  | ticked {record : MatchRecord} {row : MatchRow} {advancedTick : AdvancedMatchTick} {winnerAlliance : Option String}
      (hrecord : server.registry.getMatch matchId = some record) (hactive : record.status = .active)
      (htick : (advanceRegistryTick record).2 = .ok advancedTick)
      (hrow : server.database.matchRows.get? matchId = some row) (hrunning : row.status = .active)
      (hrow' : next.database.matchRows.get? matchId =
        some (writeWinner winnerAlliance (tickedMatchRow advancedTick row)))
      (hlog : next.database.ticksOf matchId = server.database.ticksOf matchId ++ [tickLogRow advancedTick])
      (hlive : ∀ record', next.registry.getMatch matchId = some record' → record'.state = advancedTick.nextState)

section Steps

variable {hashApiKey : String → String} {variant : StorageVariant} {server next : Server} {matchId : String}

theorem MatchStep.same (hrow : next.database.matchRows.get? matchId = server.database.matchRows.get? matchId)
    (hlog : next.database.ticksOf matchId = server.database.ticksOf matchId)
    (hlive : next.registry.getMatch matchId = server.registry.getMatch matchId) : MatchStep server next matchId :=
  .kept hrow hlog fun record' hrecord' => ⟨record', hlive ▸ hrecord', .refl _⟩

variable (next) in
/-- Storing a record of a match touches no other match, and no row. -/
theorem matchStep_store {id : String} {record record' : MatchRecord} (hrecord : server.registry.getMatch id = some record)
    (hnegotiated : Negotiated record.state record'.state)
    (hregistry : next.registry = server.registry.storeMatch id record') (hdatabase : next.database = server.database)
    (matchId : String) : MatchStep server next matchId := by
  refine .kept (by rw [hdatabase]) (by rw [hdatabase]) fun found hfound => ?_
  have hstored : (server.registry.storeMatch id record').getMatch matchId =
      if matchId = id then some record' else server.registry.getMatch matchId := OrdDict.get?_insert _ _ _ _
  rw [hregistry, hstored] at hfound
  split at hfound
  · rename_i hmatch
    cases hfound
    exact ⟨record, hmatch ▸ hrecord, hnegotiated⟩
  · exact ⟨found, hfound, .refl _⟩

/-- Committing the record of another match leaves a match alone. -/
theorem matchStep_commit_other {database : Database} {record : MatchRecord} (hother : matchId ≠ record.matchId)
    (hrow : database.matchRows.get? matchId = server.database.matchRows.get? matchId)
    (hlogs : database.tickLogs = server.database.tickLogs) : MatchStep server (server.commit database record) matchId := by
  refine .same hrow (congrArg (List.filter _) hlogs) ?_
  change (server.registry.seedMatch record).getMatch matchId = _
  rw [InMemoryMatchRegistry.getMatch_seedMatch, if_neg hother]

theorem state_of_commit {database : Database} {record found : MatchRecord}
    (h : (server.commit database record).registry.getMatch record.matchId = some found) : found.state = record.state := by
  change (server.registry.seedMatch record).getMatch record.matchId = some found at h
  rw [InMemoryMatchRegistry.getMatch_seedMatch, if_pos rfl] at h
  rw [← Option.some.inj h]
  rfl

theorem matchStep_lobbyCreated {actor : LobbyActor} {request : MatchLobbyCreateRequest} {id : String}
    {database : Database} {created : CreatedMatchLobby}
    (hcreate : createMatchLobby hashApiKey server.database actor request id = .ok (database, created))
    (matchId : String) : MatchStep server (server.commit database created.record) matchId := by
  obtain ⟨state, creator, agent, matchRows, hstate, -, hadd, hplayer, hrecord⟩ := createMatchLobby_eq_ok hcreate
  obtain ⟨hfresh, hrows⟩ := sessionAdd_eq_ok hadd
  obtain ⟨players, -, rfl⟩ := addPlayer_eq_ok hplayer
  have hget : ∀ key, matchRows.get? key =
      if key = id then some (lobbyMatchRow id request state creator) else server.database.matchRows.get? key :=
    Table.get?_append hfresh hrows
  have hid : created.record.matchId = id := by
    rw [hrecord]
    rfl
  by_cases hmatch : matchId = id
  · subst hmatch
    have hcreated : matchRows.get? matchId = some (lobbyMatchRow matchId request state creator) := by
      rw [hget, if_pos rfl]
    refine .created (Table.get?_eq_none.2 hfresh) hstate hcreated rfl fun record hfound => ?_
    have hsame := state_of_commit (hid.symm ▸ hfound)
    rw [hsame, hrecord]
    rfl
  · refine matchStep_commit_other (hid.symm ▸ hmatch) ?_ rfl
    change matchRows.get? matchId = _
    rw [hget, if_neg hmatch]

theorem matchStep_joined {actor : LobbyActor} {id : String} {database : Database} {joined : JoinedMatch}
    (hjoin : joinDbMatch hashApiKey variant server.database id actor = .ok (database, joined)) (matchId : String) :
    MatchStep server (server.commit database joined.record) matchId := by
  obtain ⟨row, hrow, hadded, hrecord⟩ := joinDbMatch_eq_ok hjoin
  obtain rfl : row.id = id := Table.key_of_get? hrow
  have htables : database.matchRows = server.database.matchRows ∧ database.tickLogs = server.database.tickLogs := by
    rcases hadded with rfl | ⟨identity, joinIndex, -, hadd⟩
    · exact ⟨rfl, rfl⟩
    · obtain ⟨players, -, rfl⟩ := addPlayer_eq_ok hadd
      exact ⟨rfl, rfl⟩
  have hid : joined.record.matchId = row.id := by
    rw [hrecord]
    rfl
  by_cases hmatch : matchId = row.id
  · subst hmatch
    have hkept : database.matchRows.get? row.id = some { row with status := row.status } := by
      rw [htables.1, hrow]
    refine .loaded hrow (Or.inl rfl) hkept (congrArg (List.filter _) htables.2) fun record hfound => ?_
    have hsame := state_of_commit (hid.symm ▸ hfound)
    rw [hsame, hrecord]
    rfl
  · refine matchStep_commit_other (hid.symm ▸ hmatch) ?_ htables.2
    rw [htables.1]

theorem get?_activateMatch (db : Database) (matchRow : MatchRow) (id : String) :
    (activateMatch db matchRow).matchRows.get? id =
      if id = matchRow.id then (db.matchRows.get? id).map startedMatchRow else db.matchRows.get? id :=
  Table.get?_update db.matchRows matchRow.id startedMatchRow (fun _ => rfl) id

theorem matchStep_started {actor : LobbyActor} {id : String} {database : Database} {started : StartedMatchLobby}
    (hstart : startMatchLobby hashApiKey variant server.database id actor = .ok (database, started)) (matchId : String) :
    MatchStep server (server.commit database started.record) matchId := by
  obtain ⟨row, hrow, hlobby, -, rfl, hrecord⟩ := startMatchLobby_eq_ok hstart
  obtain rfl : row.id = id := Table.key_of_get? hrow
  have hid : started.record.matchId = row.id := by
    rw [hrecord]
    rfl
  by_cases hmatch : matchId = row.id
  · subst hmatch
    have hstarted : (activateMatch server.database row).matchRows.get? row.id = some { row with status := .active } := by
      rw [get?_activateMatch, if_pos rfl, hrow]
      rfl
    refine .loaded hrow (Or.inr hlobby) hstarted rfl fun record hfound => ?_
    have hsame := state_of_commit (hid.symm ▸ hfound)
    rw [hsame, hrecord]
    rfl
  · refine matchStep_commit_other (hid.symm ▸ hmatch) ?_ rfl
    rw [get?_activateMatch, if_neg hmatch]

theorem matchStep_ticked {id : String} {newId : Nat → String} {elapsed : Nat} {record : MatchRecord}
    {advancedTick : AdvancedMatchTick} {database : Database} (hid : record.matchId = id)
    (hrecord : server.registry.getMatch id = some record) (hactive : record.status = .active)
    (hrunning : ∀ row, server.database.matchRows.get? id = some row → row.status = .active)
    (htick : (advanceRegistryTick record).2 = .ok advancedTick)
    (hpersist : persistAdvancedMatchTick variant newId (server.readClock elapsed) server.database advancedTick =
      .ok database) (matchId : String) :
    MatchStep server (server.afterRound id elapsed (completeRecord advancedTick (advanceRegistryTick record).1) database)
      matchId := by
  obtain ⟨hmatchId, hstate, -, -⟩ := advanceRegistryTick_eq_ok htick
  obtain ⟨row, winnerAlliance, hrow, hrows, hlogs⟩ := persistAdvancedMatchTick_row hpersist
  rw [hmatchId, hid] at hrow hrows
  have hlog := Database.ticksOf_append hlogs matchId
  rw [show (tickLogRow advancedTick).matchId = id from hmatchId.trans hid] at hlog
  have hget : (server.registry.storeMatch id (completeRecord advancedTick (advanceRegistryTick record).1)).getMatch matchId =
      if matchId = id then some (completeRecord advancedTick (advanceRegistryTick record).1)
      else server.registry.getMatch matchId := OrdDict.get?_insert _ _ _ _
  by_cases hmatch : matchId = id
  · subst hmatch
    rw [if_pos rfl] at hlog hget
    refine .ticked hrecord hactive htick hrow (hrunning row hrow) ((hrows matchId).trans (if_pos rfl)) hlog fun found hfound => ?_
    rw [← Option.some.inj (hget.symm.trans hfound)]
    exact hstate.symm
  · rw [if_neg (Ne.symm hmatch)] at hlog
    rw [if_neg hmatch] at hget
    exact .same ((hrows matchId).trans (if_neg hmatch)) hlog hget

theorem matchStep_hydrated {registry : InMemoryMatchRegistry}
    (hload : loadMatchRegistryFromDatabase hashApiKey server.database = .ok registry) (matchId : String) :
    MatchStep server { server with registry } matchId := by
  have hget := getMatch_loadMatchRegistryFromDatabase hload matchId
  cases hrow : server.database.matchRows.get? matchId with
  | none =>
      refine .kept rfl rfl fun record hfound => ?_
      rw [show registry.getMatch matchId = none by rw [hget, hrow]; rfl] at hfound
      cases hfound
  | some row =>
      have hkept : server.database.matchRows.get? matchId = some { row with status := row.status } := hrow
      refine .loaded hrow (Or.inl rfl) hkept rfl fun record hfound => ?_
      rw [show registry.getMatch matchId = _ from hget, hrow] at hfound
      rw [← Option.some.inj hfound]
      rfl

theorem state_of_raised {record : MatchRecord} {error : TickError} (h : (advanceRegistryTick record).2 = .error error) :
    (advanceMatchTick record).1.state = record.state := by
  cases hsettled : settledBoard record with
  | error error => exact (advanceMatchTick_of_error hsettled).1
  | ok settled =>
      have hresult : (advanceRegistryTick record).2 = .ok _ :=
        congrArg (Except.map _) (advanceMatchTick_of_settled hsettled).2
      rw [hresult] at h
      cases h

/-- Every step of the server is one of the steps of a match, for every match. -/
theorem matchStep_serverStep {P : String → MatchState → Prop} {Q : MatchRecord → Prop} (hholds : server.Holds P Q)
    (event : ServerEvent) (matchId : String) : MatchStep server (serverStep hashApiKey variant server event) matchId := by
  have heffect : ServerEffect hashApiKey variant server event (serverStep hashApiKey variant server event) :=
    serverStep_effect server event
  generalize serverStep hashApiKey variant server event = next at heffect
  cases heffect with
  | refused => exact .same rfl rfl rfl
  | keyCreated hfresh hadd =>
      rw [(Database.addApiKey_eq_ok hadd).2.2]
      exact .same rfl rfl rfl
  | keyRevoked hfound => exact .same rfl rfl rfl
  | lobbyCreated hcreate => exact matchStep_lobbyCreated hcreate matchId
  | joined hjoin => exact matchStep_joined hjoin matchId
  | started hstart => exact matchStep_started hstart matchId
  | @commanded _ _ _ record next _ hrecord hcommand =>
      exact matchStep_store (server.storeRecord _ next) hrecord (negotiated_applyMatchCommand hcommand) rfl rfl matchId
  | @tickIdle _ _ _ record hrecord =>
      exact matchStep_store (server.afterRound _ _ record server.database) hrecord (.refl _) rfl rfl matchId
  | @tickRaised _ _ _ record _ hrecord hactive htick =>
      refine matchStep_store (server.afterRound _ _ (advanceRegistryTick record).1 server.database) hrecord ?_ rfl rfl matchId
      rw [show (advanceRegistryTick record).1.state = record.state from state_of_raised htick]
      exact .refl _
  | ticked hrecord hactive htick hpersist =>
      obtain ⟨hid, -, row, hrow, hstatus⟩ := hholds.live _ _ hrecord
      refine matchStep_ticked hid hrecord hactive (fun found hfound => ?_) htick hpersist matchId
      rw [← Option.some.inj (hrow.symm.trans hfound), hstatus, hactive]
  | hydrated hload => exact matchStep_hydrated hload matchId

end Steps

end IronCouncil
