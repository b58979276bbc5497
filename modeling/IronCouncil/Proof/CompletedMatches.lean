import IronCouncil.Proof.MatchLog
import IronCouncil.Proof.RatingRuns

/-!
# Completed matches

All that the database holds of a completed match stays as it is: the row, the players, the alliances, the settlements and the ticks. A step writes one match at most, and a tick writes an active one.
-/

namespace IronCouncil

/-- What the database holds of a match. -/
@[ext] structure MatchFile where
  row : Option MatchRow
  players : List PlayerRow
  alliances : List AllianceRow
  treaties : List TreatyRow
  settlement : Option MatchSettlementRow
  playerSettlements : List PlayerMatchSettlementRow
  ticks : List TickLogRow

def Database.fileOf (db : Database) (matchId : String) : MatchFile where
  row := db.matchRows.get? matchId
  players := db.players.rows.filter fun player => player.matchId = matchId
  alliances := db.alliances.rows.filter fun alliance => alliance.matchId = matchId
  treaties := db.treaties.rows.filter fun treaty => treaty.matchId = matchId
  settlement := db.matchSettlements.get? matchId
  playerSettlements := db.playerMatchSettlements.rows.filter fun settlement => settlement.matchId = matchId
  ticks := db.ticksOf matchId

/-! ### Ticks of other matches -/

section Ticks

variable {variant : StorageVariant} {newId : Nat → String} {settledAt : Nat} {matchId other : String}
  {db synced settled : Database} {advancedTick : AdvancedMatchTick}

theorem players_syncMembership_other {playersByCanonical ids joinedTicks} {players players' : Table PlayerRow.id}
    {entry : String × PlayerState} (hapart : other ≠ matchId)
    (hours : ∀ canonical player, playersByCanonical.get? canonical = some player →
      player ∈ db.players.rows ∧ player.matchId = matchId)
    (hstep : syncMembership playersByCanonical ids joinedTicks players entry = .ok players')
    (hkept : (players.rows.filter fun player => player.matchId = other) =
      db.players.rows.filter fun player => player.matchId = other) :
    (players'.rows.filter fun player => player.matchId = other) =
      db.players.rows.filter fun player => player.matchId = other := by
  have hwritten : ∀ canonical player, playersByCanonical.get? canonical = some player →
      ∀ allianceId joinedTick, ((players.update player.id (writeMembership allianceId joinedTick) fun _ => rfl).rows.filter
        fun row => row.matchId = other) = db.players.rows.filter fun row => row.matchId = other := by
    intro canonical player hplayer allianceId joinedTick
    obtain ⟨hrow, hmatch⟩ := hours canonical player hplayer
    exact Table.filter_update_of_kept hkept hrow (by simpa [hmatch] using hapart.symm) _ fun _ => rfl
  unfold syncMembership at hstep
  split at hstep
  · cases hstep
    exact hkept
  · rename_i player hplayer _
    cases hstep
    exact hwritten _ player hplayer none none
  · rename_i player canonicalAllianceId hplayer _
    split at hstep
    · cases hstep
    · split at hstep
      · cases hstep
      · cases hstep
        exact hwritten _ player hplayer _ _

theorem alliances_syncAlliance_other {playersByCanonical} {activeAlliancesByMembers : OrdDict (List String) AllianceRow}
    {sync sync' : AllianceSync} {alliance : MatchAlliance} (hapart : other ≠ matchId)
    (hours : ∀ members row, activeAlliancesByMembers.get? members = some row →
      row ∈ db.alliances.rows ∧ row.matchId = matchId)
    (hstep : syncAlliance matchId newId playersByCanonical activeAlliancesByMembers sync alliance = .ok sync')
    (hkept : (sync.alliances.rows.filter fun row => row.matchId = other) =
      db.alliances.rows.filter fun row => row.matchId = other) :
    (sync'.alliances.rows.filter fun row => row.matchId = other) =
      db.alliances.rows.filter fun row => row.matchId = other := by
  unfold syncAlliance at hstep
  split at hstep
  · cases hstep
  · split at hstep
    · cases hstep
    · rename_i memberIds _ leaderId _
      dsimp only at hstep
      split at hstep
      · rename_i row hfound
        cases hstep
        obtain ⟨hrow, hmatch⟩ := hours _ row hfound
        exact Table.filter_update_of_kept hkept hrow (by simpa [hmatch] using hapart.symm)
          (f := writeAlliance alliance leaderId) (fun _ => rfl) fun _ => rfl
      · split at hstep
        · cases hstep
        · rename_i added hadd
          cases hstep
          change (added.rows.filter fun row => row.matchId = other) = _
          rw [(sessionAdd_eq_ok hadd).2, List.filter_append, hkept,
            List.filter_cons_of_neg (by simpa using hapart.symm), List.filter_nil, List.append_nil]

/-- Writing the terminal alliances of a match writes no row of another match. -/
theorem syncTerminalAllianceRows_other (hapart : other ≠ matchId) {ids : OrdDict String String}
    (h : syncTerminalAllianceRows matchId newId db advancedTick = .ok (synced, ids)) :
    (synced.players.rows.filter fun player => player.matchId = other) =
        (db.players.rows.filter fun player => player.matchId = other) ∧
      (synced.alliances.rows.filter fun alliance => alliance.matchId = other) =
        db.alliances.rows.filter fun alliance => alliance.matchId = other := by
  unfold syncTerminalAllianceRows at h
  split at h
  · cases h
    exact ⟨rfl, rfl⟩
  · dsimp only at h
    split at h
    · cases h
    · rename_i sync hsync
      split at h
      · cases h
      · rename_i players hplayers
        cases h
        refine ⟨?_, ?_⟩
        · refine Run.invariant_foldlM (I := fun table : Table PlayerRow.id =>
            (table.rows.filter fun player => player.matchId = other) =
              db.players.rows.filter fun player => player.matchId = other)
            (fun _ _ _ hstep hkept => players_syncMembership_other hapart ?_ hstep hkept) hplayers rfl
          intro canonical player hplayer
          exact Database.mem_playersOfMatch.1 (playersByCanonical_eq_some hplayer).1
        · have hactive : ∀ row ∈ (db.alliances.rows.filter fun row => row.matchId = matchId ∧
              row.dissolvedTick = none).insertionSort fun first second => first.id ≤ second.id,
              row ∈ db.alliances.rows ∧ row.matchId = matchId := by
            intro row hrow
            have hmem := List.mem_filter.1 ((List.mem_insertionSort _).1 hrow)
            exact ⟨hmem.1, (of_decide_eq_true hmem.2).1⟩
          have hsynced : (sync.alliances.rows.filter fun row => row.matchId = other) =
              db.alliances.rows.filter fun row => row.matchId = other := by
            refine Run.invariant_foldlM (I := fun reached : AllianceSync =>
              (reached.alliances.rows.filter fun row => row.matchId = other) =
                db.alliances.rows.filter fun row => row.matchId = other)
              (fun _ _ _ hstep hkept => alliances_syncAlliance_other hapart ?_ hstep hkept) hsync rfl
            intro members row hfound
            obtain ⟨found, hmem, heq⟩ := List.mem_map.1 (OrdDict.mem_of_get?_ofList hfound)
            cases heq
            exact hactive _ hmem
          refine Run.invariant_of_admitted (I := fun table : Table AllianceRow.id =>
            (table.rows.filter fun row => row.matchId = other) = db.alliances.rows.filter fun row => row.matchId = other)
            ?_ hsynced hactive _ (Run.foldl_mem_states _ _)
          intro table row hours hkept
          split
          · exact hkept
          · obtain ⟨hrow, hmatch⟩ := hours
            exact Table.filter_update_of_kept hkept hrow (by simpa [hmatch] using hapart.symm)
              (f := dissolveAlliance advancedTick.resolvedTick) (fun _ => rfl) fun _ => rfl

/-- Settling a match settles no other. -/
theorem settleCompletedMatchIfNeeded_other {committed : Database} {matchRow : MatchRow} (hapart : other ≠ matchRow.id)
    (h : settleCompletedMatchIfNeeded variant settledAt committed db matchRow = .ok settled) :
    settled.matchSettlements.get? other = db.matchSettlements.get? other ∧
      (settled.playerMatchSettlements.rows.filter fun settlement => settlement.matchId = other) =
        db.playerMatchSettlements.rows.filter fun settlement => settlement.matchId = other := by
  rcases settleCompletedMatchIfNeeded_eq_ok h with ⟨rfl, -⟩ | ⟨-, hsettle⟩
  · exact ⟨rfl, rfl⟩
  · obtain ⟨matchSettlements, outcome, ⟨houtcome, -⟩, -, hadd, hplayers⟩ := settleMatch_eq_ok hsettle
    obtain ⟨hfresh, hrows⟩ := sessionAdd_eq_ok hadd
    have hget := Table.get?_append hfresh hrows other
    rw [if_neg hapart] at hget
    refine Run.invariant_foldlM (I := fun reached : Database =>
      reached.matchSettlements.get? other = db.matchSettlements.get? other ∧
        (reached.playerMatchSettlements.rows.filter fun settlement => settlement.matchId = other) =
          db.playerMatchSettlements.rows.filter fun settlement => settlement.matchId = other) ?_ hplayers ⟨hget, rfl⟩
    rintro reached player reached' hstep ⟨hkept, hkeptPlayers⟩
    obtain ⟨playerMatchSettlements, hplayer, rfl⟩ := settlePlayer_eq_ok hstep
    have hmatch : (playerSettlement outcome player).matchId = matchRow.id := congrArg MatchRow.id houtcome
    have hfilter : (playerMatchSettlements.rows.filter fun settlement => settlement.matchId = other) =
        db.playerMatchSettlements.rows.filter fun settlement => settlement.matchId = other := by
      rw [(sessionAdd_eq_ok hplayer).2, List.filter_append, hkeptPlayers,
        List.filter_cons_of_neg (by simpa [hmatch] using hapart.symm), List.filter_nil, List.append_nil]
    unfold recordKeyElo
    split
    · exact ⟨hkept, hfilter⟩
    · exact ⟨hkept, hfilter⟩

/-- A persisted tick writes no other match. -/
theorem fileOf_persist_other (hapart : other ≠ advancedTick.matchId)
    (h : persistAdvancedMatchTick variant newId settledAt db advancedTick = .ok settled) :
    settled.fileOf other = db.fileOf other := by
  obtain ⟨_, _, _, hrows, hlogs⟩ := persistAdvancedMatchTick_row h
  obtain ⟨stored, synced, ids, winnerAlliance, written, hstored, hsync, -, hsettle, rfl⟩ :=
    persistAdvancedMatchTick_eq_ok h
  have hid : stored.id = advancedTick.matchId := Table.key_of_get? hstored
  obtain ⟨hplayers, halliances⟩ := syncTerminalAllianceRows_other (hid.symm ▸ hapart) hsync
  obtain ⟨alliances, players, rfl, -⟩ := syncTerminalAllianceRows_eq_ok hsync
  obtain ⟨hsettlement, hsettlements⟩ := settleCompletedMatchIfNeeded_other
    (show other ≠ (writeWinner winnerAlliance (tickedMatchRow advancedTick stored)).id from hid.symm ▸ hapart) hsettle
  obtain ⟨matchSettlements, htables, -⟩ := matchTables_settleCompletedMatchIfNeeded hsettle
  have halliancesKept : written.alliances = alliances := congrArg (fun tables => tables.2.1) htables
  have hplayersKept : written.players = players := congrArg (fun tables => tables.2.2.1) htables
  have htreaties : written.treaties = db.treaties := congrArg (fun tables => tables.2.2.2.2) htables
  have hlog := Database.ticksOf_append hlogs other
  rw [if_neg (show (tickLogRow advancedTick).matchId ≠ other from Ne.symm hapart)] at hlog
  refine MatchFile.ext ((hrows other).trans (if_neg hapart)) ?_ ?_ ?_ hsettlement hsettlements hlog
  · exact (congrArg (fun table => table.rows.filter fun player => player.matchId = other) hplayersKept).trans hplayers
  · exact (congrArg (fun table => table.rows.filter fun alliance => alliance.matchId = other) halliancesKept).trans
      halliances
  · exact congrArg (fun table => table.rows.filter fun treaty => treaty.matchId = other) htreaties

end Ticks

/-! ### Steps -/

section Steps

variable {hashApiKey : String → String} {variant : StorageVariant} {server : Server}
  {P : String → MatchState → Prop} {Q : MatchRecord → Prop}

theorem fileOf_addPlayer_other {db db' : Database} {player : PlayerRow} {matchId : String}
    (hother : player.matchId ≠ matchId) (h : addPlayer db player = .ok db') : db'.fileOf matchId = db.fileOf matchId := by
  have hrows := (addPlayer_tables h).2.2.2
  obtain ⟨players, -, rfl⟩ := addPlayer_eq_ok h
  have hfilter : (players.rows.filter fun row => row.matchId = matchId) =
      db.players.rows.filter fun row => row.matchId = matchId := by
    rw [show players.rows = _ from hrows, List.filter_append, List.filter_cons_of_neg (by simpa using hother),
      List.filter_nil, List.append_nil]
  unfold Database.fileOf
  dsimp only
  rw [hfilter]
  rfl

theorem fileOf_matchRows {db : Database} {matchRows : Table MatchRow.id} {matchId : String}
    (hrow : matchRows.get? matchId = db.matchRows.get? matchId) :
    ({ db with matchRows } : Database).fileOf matchId = db.fileOf matchId := by
  unfold Database.fileOf
  dsimp only
  rw [hrow]
  rfl

/-- A step leaves what the database holds of a completed match. -/
theorem fileOf_serverStep (hholds : server.Holds P Q) (hseats : server.SeatsAll hashApiKey) (event : ServerEvent)
    {matchId : String} (hcompleted : server.database.HasCompleted matchId) :
    (serverStep hashApiKey variant server event).database.fileOf matchId = server.database.fileOf matchId := by
  obtain ⟨row, hrow, hstatus⟩ := hcompleted
  have heffect : ServerEffect hashApiKey variant server event (serverStep hashApiKey variant server event) :=
    serverStep_effect server event
  generalize serverStep hashApiKey variant server event = next at heffect
  cases heffect with
  | lobbyCreated hcreate =>
      obtain ⟨state, creator, agent, matchRows, -, -, hadd, hplayer, -⟩ := createMatchLobby_eq_ok hcreate
      obtain ⟨hfresh, hrows⟩ := sessionAdd_eq_ok hadd
      rename_i id actor database created
      have hother : matchId ≠ id := by
        rintro rfl
        exact hfresh (Table.mem_keys_of_get? hrow)
      refine (fileOf_addPlayer_other (Ne.symm hother) hplayer).trans (fileOf_matchRows ?_)
      rw [Table.get?_append hfresh hrows]
      exact if_neg hother
  | joined hjoin =>
      obtain ⟨found, hfound, hadded, -⟩ := joinDbMatch_eq_ok hjoin
      rcases hadded with rfl | ⟨identity, joinIndex, -, hadd⟩
      · rfl
      · by_cases hsame : found.id = matchId
        · obtain ⟨k, n, hk, hseated, hnumbered⟩ := hseats.matchSeats _ found hfound
          obtain rfl := Table.key_of_get? hfound
          obtain ⟨-, ⟨rfl, -⟩ | hanew⟩ := hseated.join_cases hnumbered hk hjoin
          · rfl
          · subst hsame
            cases hrow.symm.trans hfound
            rcases hanew.admits.opened with hopened | hopened
            · rw [hopened] at hstatus
              cases hstatus
            · rw [hopened] at hstatus
              cases hstatus
        · exact fileOf_addPlayer_other hsame hadd
  | started hstart =>
      obtain ⟨found, hfound, hlobby, -, rfl, -⟩ := startMatchLobby_eq_ok hstart
      refine fileOf_matchRows ?_
      refine (get?_activateMatch server.database found matchId).trans (if_neg ?_)
      rintro rfl
      obtain rfl := Table.key_of_get? hfound
      cases hrow.symm.trans hfound
      rw [hlobby] at hstatus
      cases hstatus
  | ticked hrecord hactive htick hpersist =>
      obtain ⟨hid, -, found, hfound, hrunning⟩ := hholds.live _ _ hrecord
      refine fileOf_persist_other ?_ hpersist
      rintro rfl
      rw [(advanceRegistryTick_eq_ok htick).1, hid] at hrow
      cases hrow.symm.trans hfound
      rw [hrunning, hactive] at hstatus
      cases hstatus
  | keyCreated hfresh hadd =>
      rw [(Database.addApiKey_eq_ok hadd).2.2]
      rfl
  | _ => rfl

/-- Once a match has completed, all that the database holds of it stays as it is in every later state. -/
theorem completed_for_good (hnone : server.HoldsNoMatch) (events : List ServerEvent) :
    ∀ reached ∈ Run.states (serverStep hashApiKey variant) server events, ∀ matchId,
      reached.database.HasCompleted matchId → ∀ more, ∀ later ∈ Run.states (serverStep hashApiKey variant) reached more,
        later.database.fileOf matchId = reached.database.fileOf matchId := by
  intro reached hreached matchId hcompleted more
  refine Run.invariant_of_steps (I := fun later : Server => later.database.fileOf matchId = reached.database.fileOf matchId)
    (C := fun state _ => state.Holds (fun _ _ => True) (fun _ => True) ∧ state.SeatsAll hashApiKey) ?_ rfl ?_
  · rintro state event ⟨hholds, hseats⟩ hkept
    have hstill : state.database.HasCompleted matchId := by
      obtain ⟨row, hrow, hstatus⟩ := hcompleted
      exact ⟨row, (congrArg MatchFile.row hkept).trans hrow, hstatus⟩
    exact (fileOf_serverStep hholds hseats event hstill).trans hkept
  · intro taken htaken
    obtain ⟨all, hall⟩ := Run.mem_states_trans hreached (Run.fst_mem_states htaken)
    exact ⟨hnone.holds_run all taken.1 hall, seatsAll_run hnone all taken.1 hall⟩

end Steps

/-- The allies have won their match. -/
def wonPair : List ServerEvent :=
  deploymentReceives .sqlite
    (agentKeys ++ pairStarts deploymentMatchId ++ playsAllied deploymentMatchId deployedIds 3)

def wonServer : Server := wonPair.foldl (serverStep deploymentHash .sqlite) deployment

theorem wonServer_reached : wonServer ∈ Run.states (serverStep deploymentHash .sqlite) deployment wonPair :=
  Run.foldl_mem_states _ _

/-- What the server receives of the same agents' next match. -/
def rematch : List ServerEvent :=
  wonServer.receivedRun deploymentHash .sqlite (pairStarts rematchId ++ playsAllied rematchId rematchIds 3)

/-- The rematch leaves the match as it is. -/
theorem completed_for_good_rematch : wonServer.database.HasCompleted deploymentMatchId ∧
    (rematch.foldl (serverStep deploymentHash .sqlite) wonServer).database.HasCompleted rematchId ∧
    (rematch.foldl (serverStep deploymentHash .sqlite) wonServer).database.fileOf deploymentMatchId =
      wonServer.database.fileOf deploymentMatchId := by
  have hwon : wonServer.database.HasCompleted deploymentMatchId :=
    Option.map_eq_some_iff.1 (show (wonServer.database.matchRows.get? deploymentMatchId).map (·.status) =
      some .completed by decide +kernel)
  have hagain : (rematch.foldl (serverStep deploymentHash .sqlite) wonServer).database.HasCompleted rematchId :=
    Option.map_eq_some_iff.1 (show (((rematch.foldl (serverStep deploymentHash .sqlite)
      wonServer).database.matchRows.get? rematchId).map (·.status)) = some .completed by decide +kernel)
  exact ⟨hwon, hagain, completed_for_good deployment_holdsNoMatch _ wonServer wonServer_reached deploymentMatchId hwon _ _
    (Run.foldl_mem_states _ _)⟩

end IronCouncil
