import IronCouncil.Proof.WinnerAgreement

/-!
# A terminal tick on Postgres

The settlement of a match looks the leader up among the alliance rows by the name it has in the state. That name is never UUID text, and on Postgres the lookup raises: no terminal tick is ever persisted, and no match ever completes.
-/

namespace IronCouncil

/-- The tick is written, its match has completed with a winner, and each of its players is settled once. -/
def RecordsVictory (variant : StorageVariant) (newId : Nat → String) (settledAt : Nat) (db : Database)
    (advancedTick : AdvancedMatchTick) : Prop :=
  ∃ db' row winner, persistAdvancedMatchTick variant newId settledAt db advancedTick = .ok db' ∧
    db'.matchRows.get? advancedTick.matchId = some row ∧ row.status = .completed ∧ row.winnerAlliance = some winner ∧
    ∀ player ∈ db'.playersOfMatch advancedTick.matchId,
      (db'.playerMatchSettlements.rows.filter fun settlement =>
        settlement.matchId = advancedTick.matchId ∧ settlement.playerId = player.id).length = 1

/-! ### Settling -/

section Settling

variable {settledAt : Nat} {committed db db' : Database} {matchRow : MatchRow}

/-- Where players are settled, the winner's alliance row has been looked up. -/
theorem winnerAlliance_of_settleMatch {variant : StorageVariant}
    (h : settleMatch variant settledAt db matchRow = .ok db') (hplayers : db.playersOfMatch matchRow.id ≠ []) :
    ∃ canonicalPlayerByPersisted winnerAlliance, winnerAllianceForSettlement matchRow matchRow.state
      canonicalPlayerByPersisted variant db.alliances (db.playersOfMatch matchRow.id) = .ok winnerAlliance := by
  unfold settleMatch at h
  split at h
  · cases h
  · dsimp only at h
    rw [if_neg hplayers] at h
    unfold settlePlayers at h
    dsimp only at h
    split at h
    · split at h
      · cases h
      · rename_i winnerAlliance hlookup
        exact ⟨_, winnerAlliance, hlookup⟩
    · cases h

/-- The leader of the state is the first candidate. -/
theorem winnerIdentityCandidates_eq_cons {state : MatchState} {leading : String}
    (hleading : state.victory.leadingAlliance = some leading) (matchRow : MatchRow) :
    ∃ rest, winnerIdentityCandidates matchRow state = leading :: rest := by
  unfold winnerIdentityCandidates
  rw [hleading]
  cases matchRow.winnerAlliance with
  | none => exact ⟨[], rfl⟩
  | some persistedWinner =>
      dsimp only
      split
      · exact ⟨[], rfl⟩
      · exact ⟨[persistedWinner], rfl⟩

/-- A leader that is not UUID text cannot be looked up. -/
theorem winnerAllianceForSettlement_raises {leading : String}
    (hleading : matchRow.state.victory.leadingAlliance = some leading) (htext : isUuidText leading = false)
    (canonicalPlayerByPersisted : PlayerMapping) (alliances : Table AllianceRow.id) (players : List PlayerRow) :
    winnerAllianceForSettlement matchRow matchRow.state canonicalPlayerByPersisted .postgres alliances players =
      .error .dataError := by
  obtain ⟨rest, hcandidates⟩ := winnerIdentityCandidates_eq_cons hleading matchRow
  have hlookup : sessionGet .postgres alliances leading = .error .dataError := if_pos ⟨rfl, htext⟩
  rw [winnerAllianceForSettlement, hcandidates, allianceOfCandidates, hlookup]

theorem settle_raises {leading : String} (hcompleted : matchRow.status = .completed)
    (hunsettled : db.matchSettlements.get? matchRow.id = none)
    (hcommitted : committed.matchSettlements.get? matchRow.id = none) (hplayers : db.playersOfMatch matchRow.id ≠ [])
    (hleading : matchRow.state.victory.leadingAlliance = some leading) (htext : isUuidText leading = false) :
    settleCompletedMatchIfNeeded .postgres settledAt committed db matchRow ≠ .ok db' := by
  intro hsettle
  rcases settleCompletedMatchIfNeeded_eq_ok hsettle with ⟨-, hopen | hfound | hfound⟩ | ⟨-, hsettled⟩
  · exact hopen hcompleted
  · exact hfound hunsettled
  · exact hfound hcommitted
  · obtain ⟨mapping, winnerAlliance, hlookup⟩ := winnerAlliance_of_settleMatch hsettled hplayers
    rw [winnerAllianceForSettlement_raises hleading htext] at hlookup
    cases hlookup

end Settling

/-! ### Persisting -/

section Persisting

variable {hashApiKey : String → String} {server : Server} {matchId : String} {record : MatchRecord}
  {advancedTick : AdvancedMatchTick} {J : String → Prop}

/-- A leader is a minted alliance or a numbered player. -/
theorem SeatedRecord.leader_not_isUuidText (h : SeatedRecord J record)
    (htick : (advanceRegistryTick record).2 = .ok advancedTick) {leading : String}
    (hleading : advancedTick.nextState.victory.leadingAlliance = some leading) : isUuidText leading = false := by
  have hleads := ((h.standings htick).leader leading).1 hleading
  obtain ⟨playerId, hplayer, hcoalition⟩ := exists_member_of_leads hleads
  have hseated : Seated J advancedTick.nextState := by
    rw [(advanceRegistryTick_eq_ok htick).2.1]
    exact h.tick.seated
  unfold coalitionIdOf at hcoalition
  cases hworn : allianceOf advancedTick.nextState playerId with
  | none =>
      rw [hworn, Option.getD_none] at hcoalition
      obtain ⟨n, hname⟩ := hseated.roster playerId hplayer
      rw [← hcoalition, hname]
      exact not_isUuidText_canonicalPlayerId n
  | some allianceId =>
      rw [hworn, Option.getD_some] at hcoalition
      obtain ⟨-, n, hname⟩ := hseated.worn playerId allianceId hworn
      rw [← hcoalition, hname]
      exact not_isUuidText_mintedId n

theorem persist_raises {row : MatchRow} {newId : Nat → String} {settledAt : Nat} {db db' : Database} {leading : String}
    (hrow : db.matchRows.get? advancedTick.matchId = some row) (hterminal : isTerminalVictoryTick advancedTick = true)
    (hunsettled : db.matchSettlements.get? row.id = none)
    (hplayer : ∃ player ∈ db.players.rows, player.matchId = row.id)
    (hleading : advancedTick.nextState.victory.leadingAlliance = some leading) (htext : isUuidText leading = false) :
    persistAdvancedMatchTick .postgres newId settledAt db advancedTick ≠ .ok db' := by
  intro hpersist
  obtain ⟨stored, synced, ids, winnerAlliance, settled, hstored, hsync, -, hsettle, -⟩ :=
    persistAdvancedMatchTick_eq_ok hpersist
  obtain rfl := Option.some.inj (hrow.symm.trans hstored)
  obtain ⟨alliances, players, hsynced, henrolments⟩ := syncTerminalAllianceRows_eq_ok hsync
  have hplayers : (writeMatchRow synced (writeWinner winnerAlliance (tickedMatchRow advancedTick row))).playersOfMatch
      row.id ≠ [] := by
    obtain ⟨player, hmem, hmatch⟩ := hplayer
    obtain ⟨player', hmem', hsame⟩ := exists_enrolled henrolments hmem
    apply List.ne_nil_of_mem
    apply Database.mem_playersOfMatch.2 ⟨_, (matchId_of_enrolment hsame).trans hmatch⟩
    rw [hsynced]
    exact hmem'
  have hleader : (writeWinner winnerAlliance (tickedMatchRow advancedTick row)).state.victory.leadingAlliance =
      some leading := hleading
  refine absurd hsettle (settle_raises (if_pos hterminal) ?_ hunsettled hplayers hleader htext)
  rw [hsynced]
  exact hunsettled

/-- In a run on Postgres a terminal tick cannot be persisted. -/
theorem terminal_persist_raises (hnone : server.HoldsNoMatch) (events : List ServerEvent) {db' : Database}
    (hrecord : (events.foldl (serverStep hashApiKey .postgres) server).registry.getMatch matchId = some record)
    (hactive : record.status = .active) (htick : (advanceRegistryTick record).2 = .ok advancedTick)
    (hterminal : isTerminalVictoryTick advancedTick = true) (newId : Nat → String) (settledAt : Nat) :
    persistAdvancedMatchTick .postgres newId settledAt
      (events.foldl (serverStep hashApiKey .postgres) server).database advancedTick ≠ .ok db' := by
  have hadmits : ∀ step ∈ Run.steps (serverStep hashApiKey .postgres) server events,
      AdmitsCommand (fun record _ _ => record.matchId = matchId → True) step.1 step.2 := by
    intro step _
    obtain ⟨reached, event⟩ := step
    cases event with
    | command id playerId command => exact fun _ _ _ => trivial
    | _ => trivial
  have hholds := hnone.holds.run (seats_kept (fun _ => True) matchId) hadmits _ (Run.foldl_mem_states _ _)
  generalize events.foldl (serverStep hashApiKey .postgres) server = reached at hholds hrecord ⊢
  obtain ⟨hid, hseats, row, hrow, -⟩ := hholds.live matchId record hrecord
  obtain rfl : row.id = matchId := Table.key_of_get? hrow
  have hseated : SeatedRecord (fun _ => True) record := hseats (by rw [hactive]; decide) hid
  obtain ⟨leading, hleading⟩ := Option.isSome_iff_exists.1 hterminal
  have hleader := leadingAlliance_of_terminal hleading
  have hmatch : advancedTick.matchId = row.id := (advanceRegistryTick_eq_ok htick).1.trans hid
  refine persist_raises (by rw [hmatch]; exact hrow) hterminal ?_ ?_ hleader (hseated.leader_not_isUuidText htick hleader)
  · exact Table.get?_eq_none.2 (hholds.unsettled (hholds.incomplete hrecord hactive))
  · obtain ⟨player, hplayer, hnumbered⟩ := hholds.players row.id row hrow
    exact ⟨player, hplayer, hnumbered.1⟩

end Persisting

/-! ### Completing -/

/-- The step persists a terminal tick. -/
def PersistsVictory (variant : StorageVariant) (server : Server) : ServerEvent → Prop
  | .tick matchId newId elapsed => ∃ record advancedTick database,
      server.registry.getMatch matchId = some record ∧ record.status = .active ∧
      (advanceRegistryTick record).2 = .ok advancedTick ∧ isTerminalVictoryTick advancedTick = true ∧
      persistAdvancedMatchTick variant newId (server.readClock elapsed) server.database advancedTick = .ok database
  | _ => False

/-- Only a persisted terminal tick completes a match. -/
theorem completed_or_persists {hashApiKey : String → String} {variant : StorageVariant} (server : Server)
    (event : ServerEvent) {matchId : String}
    (h : (serverStep hashApiKey variant server event).database.HasCompleted matchId) :
    server.database.HasCompleted matchId ∨ PersistsVictory variant server event := by
  have heffect : ServerEffect hashApiKey variant server event (serverStep hashApiKey variant server event) :=
    serverStep_effect server event
  generalize serverStep hashApiKey variant server event = next at h heffect
  obtain ⟨row, hrow, hcompleted⟩ := h
  cases heffect with
  | refused => exact Or.inl ⟨row, hrow, hcompleted⟩
  | keyCreated hfresh hadd =>
      rw [(Database.addApiKey_eq_ok hadd).2.2] at hrow
      exact Or.inl ⟨row, hrow, hcompleted⟩
  | keyRevoked hfound => exact Or.inl ⟨row, hrow, hcompleted⟩
  | lobbyCreated hcreate =>
      obtain ⟨state, creator, agent, matchRows, -, -, hadd, hplayer, -⟩ := createMatchLobby_eq_ok hcreate
      obtain ⟨hfresh, hrows⟩ := sessionAdd_eq_ok hadd
      have hfound : matchRows.get? matchId = some row := by
        rw [← hrow]
        exact congrArg (fun table => Table.get? table matchId) (addPlayer_tables hplayer).1.symm
      rw [Table.get?_append hfresh hrows] at hfound
      split at hfound
      · cases hfound
        cases hcompleted
      · exact Or.inl ⟨row, hfound, hcompleted⟩
  | joined hjoin =>
      obtain ⟨joinedRow, -, hadded, -⟩ := joinDbMatch_eq_ok hjoin
      rcases hadded with rfl | ⟨identity, joinIndex, -, hadd⟩
      · exact Or.inl ⟨row, hrow, hcompleted⟩
      · obtain ⟨players, -, rfl⟩ := addPlayer_eq_ok hadd
        exact Or.inl ⟨row, hrow, hcompleted⟩
  | started hstart =>
      obtain ⟨startedRow, hstarted, -, -, rfl, -⟩ := startMatchLobby_eq_ok hstart
      have hupdated := Table.get?_update server.database.matchRows startedRow.id startedMatchRow (fun _ => rfl) matchId
      rw [show ((server.database.matchRows.update startedRow.id startedMatchRow fun _ => rfl).get? matchId) = some row
        from hrow] at hupdated
      split at hupdated
      · obtain ⟨old, -, rfl⟩ := Option.map_eq_some_iff.1 hupdated.symm
        cases hcompleted
      · exact Or.inl ⟨row, hupdated.symm, hcompleted⟩
  | commanded hrecord hcommand => exact Or.inl ⟨row, hrow, hcompleted⟩
  | tickIdle hrecord => exact Or.inl ⟨row, hrow, hcompleted⟩
  | tickRaised hrecord hactive htick => exact Or.inl ⟨row, hrow, hcompleted⟩
  | ticked hrecord hactive htick hpersist =>
      obtain ⟨stored, hpersisted⟩ := persistAdvancedMatchTick_persisted hpersist
      obtain ⟨row', -, hstatus, hrows⟩ := hpersisted.row_state
      split at hstatus
      · rename_i hterminal
        exact Or.inr ⟨_, _, _, hrecord, hactive, htick, hterminal, hpersist⟩
      · have hfound := (hrows matchId).symm.trans hrow
        split at hfound
        · rename_i hid
          cases hfound
          refine Or.inl ⟨stored, ?_, hstatus.symm.trans hcompleted⟩
          rw [hid, Table.key_of_get? hpersisted.row_found, hpersisted.row_found]
        · exact Or.inl ⟨row, hfound, hcompleted⟩
  | hydrated hload => exact Or.inl ⟨row, hrow, hcompleted⟩

/-- In no run on Postgres does a match complete. -/
theorem never_completed {hashApiKey : String → String} {server : Server} (hnone : server.HoldsNoMatch)
    (events : List ServerEvent) (matchId : String) :
    ¬ (events.foldl (serverStep hashApiKey .postgres) server).database.HasCompleted matchId := by
  intro hcompleted
  rcases Run.origin_foldl (I := fun reached : Server => reached.database.HasCompleted matchId)
    (fun reached event => completed_or_persists reached event) hcompleted with hsince | ⟨before, event, -, -, hpersists, -⟩
  · obtain ⟨row, hrow, -⟩ := hsince server (Run.mem_states_self server events)
    have hmem := Table.mem_rows_of_get? hrow
    rw [hnone.matchRows] at hmem
    cases hmem
  · cases event with
    | tick tickedId newId elapsed =>
        obtain ⟨record, advancedTick, database, hrecord, hactive, htick, hterminal, hpersist⟩ := hpersists
        exact terminal_persist_raises hnone before hrecord hactive htick hterminal newId _ hpersist
    | _ => exact hpersists

/-- In no run on Postgres is a victory recorded. -/
theorem victory_never_recorded {hashApiKey : String → String} {server : Server} (hnone : server.HoldsNoMatch)
    (events : List ServerEvent) {matchId : String} {record : MatchRecord} {advancedTick : AdvancedMatchTick}
    (hrecord : (events.foldl (serverStep hashApiKey .postgres) server).registry.getMatch matchId = some record)
    (hactive : record.status = .active) (htick : (advanceRegistryTick record).2 = .ok advancedTick)
    (hterminal : isTerminalVictoryTick advancedTick = true) (newId : Nat → String) (settledAt : Nat) :
    ¬ RecordsVictory .postgres newId settledAt (events.foldl (serverStep hashApiKey .postgres) server).database
      advancedTick := by
  intro hrecords
  obtain ⟨db', row, winner, hpersist, -⟩ := hrecords
  exact terminal_persist_raises hnone events hrecord hactive htick hterminal newId settledAt hpersist

/-- What the next tick of a match advances to, if it does not raise. -/
def Server.nextTick (server : Server) (matchId : String) : Option AdvancedMatchTick :=
  (server.registry.getMatch matchId).bind fun record => (advanceRegistryTick record).2.toOption

theorem Server.exists_record_of_nextTick {server : Server} {matchId : String} {advancedTick : AdvancedMatchTick}
    (h : server.nextTick matchId = some advancedTick) : ∃ record, server.registry.getMatch matchId = some record ∧
      (advanceRegistryTick record).2 = .ok advancedTick := by
  obtain ⟨record, hrecord, htick⟩ := Option.bind_eq_some_iff.1 h
  exact ⟨record, hrecord, eq_ok_of_toOption htick⟩

/-- The allies' match on Postgres. -/
def productionServer : Server := (alliedPair .postgres).foldl (serverStep deploymentHash .postgres) deployment

/-- The next tick of the allies' match. -/
def alliesTick : Option AdvancedMatchTick := productionServer.nextTick deploymentMatchId

theorem victory_never_recorded_allies :
    ∃ advancedTick, alliesTick = some advancedTick ∧ isTerminalVictoryTick advancedTick = true ∧
      ¬ RecordsVictory .postgres deployedIds 4 productionServer.database advancedTick := by
  have hfacts : alliesTick.map isTerminalVictoryTick = some true ∧
      (productionServer.registry.getMatch deploymentMatchId).map (·.status) = some .active := by
    decide +kernel
  obtain ⟨advancedTick, htick, hterminal⟩ := Option.map_eq_some_iff.1 hfacts.1
  obtain ⟨record, hrecord, hlive⟩ := Server.exists_record_of_nextTick htick
  obtain ⟨found, hfound, hactive⟩ := Option.map_eq_some_iff.1 hfacts.2
  obtain rfl := Option.some.inj (hrecord.symm.trans hfound)
  exact ⟨advancedTick, htick, hterminal,
    victory_never_recorded deployment_holdsNoMatch (alliedPair .postgres) hrecord hactive hlive hterminal _ _⟩

/-- The allies have joined and won, and writing it raises. -/
theorem allied_victory_raises :
    (productionServer.database.playersOfMatch deploymentMatchId).length = 2 ∧
    ∃ advancedTick, alliesTick = some advancedTick ∧ getTerminalWinnerAlliance advancedTick = some "alliance-1" ∧
      (∀ db', persistAdvancedMatchTick .postgres deployedIds 4 productionServer.database advancedTick ≠ .ok db') ∧
      ¬ RecordsVictory .postgres deployedIds 4 productionServer.database advancedTick := by
  have hfacts : (productionServer.database.playersOfMatch deploymentMatchId).length = 2 ∧
      (alliesTick.map fun advancedTick => (getTerminalWinnerAlliance advancedTick,
        (persistAdvancedMatchTick .postgres deployedIds 4 productionServer.database advancedTick).toOption.isSome)) =
          some (some "alliance-1", false) := by
    decide +kernel
  refine ⟨hfacts.1, ?_⟩
  obtain ⟨advancedTick, htick, heval⟩ := Option.map_eq_some_iff.1 hfacts.2
  obtain ⟨hwinner, hpersist⟩ := Prod.mk.inj heval
  have hraises := ne_ok_of_toOption hpersist
  refine ⟨advancedTick, htick, hwinner, hraises, ?_⟩
  intro hrecords
  obtain ⟨db', row, winner, hok, -⟩ := hrecords
  exact hraises db' hok

end IronCouncil
