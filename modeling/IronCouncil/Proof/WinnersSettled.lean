import IronCouncil.Proof.RatingRuns

/-!
# Winners and the checks of the state

A terminal tick of a match of joined players is written, and its winners agree, exactly when its state passes the field checks. The settlement parses the stored state once more; everything else that could raise has been prepared by the run.
-/

namespace IronCouncil

theorem sessionAdd_of_not_mem {α : Type} {key : α → String} {table : Table key} (row : α) (h : key row ∉ table.keys) :
    ∃ table', sessionAdd table row = .ok table' ∧ table'.rows = table.rows ++ [row] := by
  obtain ⟨table', hinsert, hrows⟩ := Table.insert_of_not_mem h
  refine ⟨table', ?_, hrows⟩
  unfold sessionAdd
  rw [hinsert]

theorem sessionGet_sqlite {α : Type} {key : α → String} (table : Table key) (id : String) :
    sessionGet .sqlite table id = .ok (table.get? id) := if_neg fun h => StorageVariant.noConfusion h.1

/-! ### Loops that do not raise -/

section Loops

variable {matchId : String} {newId : Nat → String} {playersByCanonical : OrdDict String PlayerRow}

/-- Every member of the alliance, its leader among them, has a row. -/
def MembersHaveRows (playersByCanonical : OrdDict String PlayerRow) (alliance : MatchAlliance) : Prop :=
  alliance.leaderId ∈ playersByCanonical.keys ∧
    ∀ member ∈ alliance.members, member.playerId ∈ playersByCanonical.keys

theorem persistedPlayerId_ok {playerId : String} (h : playerId ∈ playersByCanonical.keys) :
    ∃ rowId, persistedPlayerIdForCanonicalPlayer playersByCanonical playerId = .ok rowId := by
  obtain ⟨player, hplayer⟩ := OrdDict.mem_keys.1 h
  refine ⟨player.id, ?_⟩
  unfold persistedPlayerIdForCanonicalPlayer
  rw [hplayer]

theorem persistedMemberIds_ok {alliance : MatchAlliance}
    (h : ∀ member ∈ alliance.members, member.playerId ∈ playersByCanonical.keys) :
    ∃ memberIds, persistedMemberIdsForCanonicalAlliance playersByCanonical alliance = .ok memberIds := by
  have hlisted : ∀ members : List MatchAllianceMember, (∀ member ∈ members, member.playerId ∈ playersByCanonical.keys) →
      ∃ rowIds, (members.mapM fun member => persistedPlayerIdForCanonicalPlayer playersByCanonical member.playerId) =
        .ok rowIds := by
    intro members hmembers
    induction members with
    | nil => exact ⟨[], rfl⟩
    | cons member members ih =>
        obtain ⟨hmember, hmembers⟩ := List.forall_mem_cons.1 hmembers
        obtain ⟨rowId, hrowId⟩ := persistedPlayerId_ok hmember
        obtain ⟨rowIds, hrowIds⟩ := ih hmembers
        refine ⟨rowId :: rowIds, ?_⟩
        rw [List.mapM_cons, hrowId, hrowIds]
        rfl
  obtain ⟨rowIds, hrowIds⟩ := hlisted alliance.members h
  refine ⟨idSet rowIds, ?_⟩
  unfold persistedMemberIdsForCanonicalAlliance
  rw [hrowIds]
  rfl

variable (matchId) in
theorem syncAlliance_ok {sync : AllianceSync} {alliance : MatchAlliance}
    (hrows : MembersHaveRows playersByCanonical alliance) (hfresh : newId sync.drawn ∉ sync.alliances.keys) :
    ∃ sync', syncAlliance matchId newId playersByCanonical OrdDict.empty sync alliance = .ok sync' := by
  obtain ⟨memberIds, hmemberIds⟩ := persistedMemberIds_ok hrows.2
  obtain ⟨leaderId, hleaderId⟩ := persistedPlayerId_ok hrows.1
  obtain ⟨alliances, hadd, -⟩ := sessionAdd_of_not_mem
    (⟨newId sync.drawn, matchId, alliance.name, leaderId, alliance.formedTick, none⟩ : AllianceRow) hfresh
  unfold syncAlliance
  simp only [hmemberIds, hleaderId, OrdDict.get?_empty, hadd]
  exact ⟨_, rfl⟩

/-- What the loop over the alliances has left: members with rows, and ids that are not used yet. -/
structure SyncsFreely (newId : Nat → String) (playersByCanonical : OrdDict String PlayerRow) (count : Nat)
    (sync : AllianceSync) (alliances : List MatchAlliance) : Prop where
  members : ∀ alliance ∈ alliances, MembersHaveRows playersByCanonical alliance
  drawn : sync.drawn + alliances.length = count
  fresh : ∀ n, sync.drawn ≤ n → n < count → newId n ∉ sync.alliances.keys

variable (matchId) in
theorem syncAlliances_ok {count : Nat} {sync : AllianceSync} {alliances : List MatchAlliance}
    (hapart : ∀ m < count, ∀ n < count, newId m = newId n → m = n)
    (h : SyncsFreely newId playersByCanonical count sync alliances) :
    ∃ sync', alliances.foldlM (syncAlliance matchId newId playersByCanonical OrdDict.empty) sync = .ok sync' := by
  have hstep : ∀ sync alliance alliances, SyncsFreely newId playersByCanonical count sync (alliance :: alliances) →
      ∃ next, syncAlliance matchId newId playersByCanonical OrdDict.empty sync alliance = .ok next ∧
        SyncsFreely newId playersByCanonical count next alliances := by
    intro sync alliance alliances hfree
    have hlength := hfree.drawn
    rw [List.length_cons] at hlength
    obtain ⟨hmember, hmembers⟩ := List.forall_mem_cons.1 hfree.members
    obtain ⟨next, hnext⟩ := syncAlliance_ok matchId hmember (hfree.fresh sync.drawn le_rfl (by omega))
    obtain ⟨row, hid, -, -, hrows, -, hdrawn⟩ := syncAlliance_eq_ok hnext
    refine ⟨next, hnext, hmembers, by omega, ?_⟩
    intro n hdrawnLe hlt hmem
    unfold Table.keys at hmem
    rw [hrows, List.map_append, List.mem_append, List.map_singleton, List.mem_singleton, hid] at hmem
    rcases hmem with hmem | hmem
    · exact hfree.fresh n (by omega) hlt hmem
    · have hsame := hapart n hlt sync.drawn (by omega) hmem
      omega
  obtain ⟨sync', hsync, -⟩ := Run.total_foldlM_of_rest hstep h
  exact ⟨sync', hsync⟩

/-- A membership that can be written: its alliance has a row, and its tick of joining is known. -/
def MembershipWritable (playersByCanonical : OrdDict String PlayerRow) (ids : OrdDict String String)
    (joinedTicks : OrdDict (String × String) Nat) (entry : String × PlayerState) : Prop :=
  ∀ allianceId, entry.2.allianceId = some allianceId → entry.1 ∈ playersByCanonical.keys →
    allianceId ∈ ids.keys ∧ (allianceId, entry.1) ∈ joinedTicks.keys

theorem syncMembership_ok {ids : OrdDict String String} {joinedTicks : OrdDict (String × String) Nat}
    {entry : String × PlayerState} (h : MembershipWritable playersByCanonical ids joinedTicks entry)
    (players : Table PlayerRow.id) :
    ∃ players', syncMembership playersByCanonical ids joinedTicks players entry = .ok players' := by
  unfold syncMembership
  split
  · exact ⟨_, rfl⟩
  · exact ⟨_, rfl⟩
  · rename_i player allianceId hplayer halliance
    obtain ⟨hid, hjoined⟩ := h allianceId halliance (OrdDict.mem_keys_of_get? hplayer)
    obtain ⟨rowId, hrowId⟩ := OrdDict.mem_keys.1 hid
    obtain ⟨joinedTick, hjoinedTick⟩ := OrdDict.mem_keys.1 hjoined
    simp only [hrowId, hjoinedTick]
    exact ⟨_, rfl⟩

theorem syncMemberships_ok {ids : OrdDict String String} {joinedTicks : OrdDict (String × String) Nat}
    {entries : List (String × PlayerState)}
    (h : ∀ entry ∈ entries, MembershipWritable playersByCanonical ids joinedTicks entry) (players : Table PlayerRow.id) :
    ∃ players', entries.foldlM (syncMembership playersByCanonical ids joinedTicks) players = .ok players' := by
  have hstep : ∀ (players : Table PlayerRow.id) entry entries,
      (∀ later ∈ entry :: entries, MembershipWritable playersByCanonical ids joinedTicks later) →
      ∃ next, syncMembership playersByCanonical ids joinedTicks players entry = .ok next ∧
        ∀ later ∈ entries, MembershipWritable playersByCanonical ids joinedTicks later := by
    intro players entry entries hentries
    obtain ⟨hentry, hentries⟩ := List.forall_mem_cons.1 hentries
    obtain ⟨next, hnext⟩ := syncMembership_ok hentry players
    exact ⟨next, hnext, hentries⟩
  obtain ⟨players', hloop, -⟩ := Run.total_foldlM_of_rest
    (I := fun _ entries => ∀ entry ∈ entries, MembershipWritable playersByCanonical ids joinedTicks entry) hstep h
  exact ⟨players', hloop⟩

/-- Players that are still to be settled: each with an id of their own, and none has a settlement yet. -/
structure SettlesFreely (db : Database) (players : List PlayerRow) : Prop where
  distinct : (players.map (·.id)).Nodup
  fresh : ∀ player ∈ players, player.id ∉ db.playerMatchSettlements.keys

theorem SettlesFreely.step {outcome : MatchOutcome} {db : Database} {player : PlayerRow} {players : List PlayerRow}
    (h : SettlesFreely db (player :: players)) :
    ∃ next, settlePlayer outcome db player = .ok next ∧ SettlesFreely next players := by
  obtain ⟨hother, hdistinct⟩ := List.nodup_cons.1 h.distinct
  obtain ⟨hnew, hfresh⟩ := List.forall_mem_cons.1 h.fresh
  obtain ⟨added, hadd, -⟩ := sessionAdd_of_not_mem (playerSettlement outcome player) hnew
  have hstep : settlePlayer outcome db player =
      .ok (recordKeyElo { db with playerMatchSettlements := added } (playerSettlement outcome player)) := by
    unfold settlePlayer
    rw [hadd]
  refine ⟨_, hstep, hdistinct, fun later hlater => ?_⟩
  rw [← Table.get?_eq_none, get?_settlePlayer hstep, if_neg, Table.get?_eq_none]
  · exact hfresh later hlater
  · intro hsame
    exact hother (List.mem_map.2 ⟨later, hlater, hsame⟩)

theorem settlePlayers_ok (outcome : MatchOutcome) {db : Database} {players : List PlayerRow}
    (h : SettlesFreely db players) : ∃ db', players.foldlM (settlePlayer outcome) db = .ok db' := by
  obtain ⟨db', hloop, -⟩ := Run.total_foldlM_of_rest (fun _ _ _ hfree => hfree.step) h
  exact ⟨db', hloop⟩

end Loops

/-! ### The transaction -/

section Transaction

variable {db synced : Database} {matchId : String} {newId : Nat → String} {advancedTick : AdvancedMatchTick}
  {ids : OrdDict String String} {state : MatchState} {leading : String}

theorem mem_keys_joinedTicks {alliances : List MatchAlliance} {playerId allianceId : String}
    (h : MemberOf alliances playerId allianceId) :
    (allianceId, playerId) ∈ (joinedTicksByAllianceAndPlayer alliances).keys := by
  obtain ⟨alliance, halliance, rfl, hmember⟩ := h
  obtain ⟨member, hlisted, rfl⟩ := List.mem_map.1 hmember
  apply OrdDict.mem_keys_ofList.2
  refine List.mem_map.2 ⟨((alliance.allianceId, member.playerId), member.joinedTick), ?_, rfl⟩
  exact List.mem_flatMap.2 ⟨alliance, halliance, List.mem_map_of_mem hlisted⟩

/-- Where the alliances of the state are the live ones, and their members have rows, they can be written. -/
theorem syncTerminalAllianceRows_ok (hnone : ∀ alliance ∈ db.alliances.rows, alliance.matchId ≠ matchId)
    (hdraws : FreshDraws newId advancedTick.alliances.length db)
    (hmembers : ∀ alliance ∈ advancedTick.alliances,
      MembersHaveRows (persistedPlayersByCanonical advancedTick.nextState (db.playersOfMatch matchId)) alliance)
    (hworn : ∀ playerId allianceId, allianceOf advancedTick.nextState playerId = some allianceId →
      MemberOf advancedTick.alliances playerId allianceId) :
    ∃ synced ids, syncTerminalAllianceRows matchId newId db advancedTick = .ok (synced, ids) := by
  have hactive : db.alliances.rows.filter (fun row => row.matchId = matchId ∧ row.dissolvedTick = none) = [] := by
    rw [List.filter_eq_nil_iff]
    intro alliance hmem
    simp [hnone alliance hmem]
  have hfree : SyncsFreely newId (persistedPlayersByCanonical advancedTick.nextState (db.playersOfMatch matchId))
      advancedTick.alliances.length ⟨db.alliances, OrdDict.empty, [], 0⟩ advancedTick.alliances :=
    ⟨hmembers, Nat.zero_add _, fun n _ => hdraws.alliances n⟩
  obtain ⟨sync, hsync⟩ := syncAlliances_ok matchId hdraws.apart hfree
  have hwritable : ∀ entry ∈ advancedTick.nextState.players.entries,
      MembershipWritable (persistedPlayersByCanonical advancedTick.nextState (db.playersOfMatch matchId))
        sync.persistedAllianceIdsByCanonical (joinedTicksByAllianceAndPlayer advancedTick.alliances) entry := by
    intro entry hentry allianceId halliance _
    have hplayer : advancedTick.nextState.players.get? entry.1 = some entry.2 := OrdDict.get?_eq_some.2 hentry
    have hmember := hworn entry.1 allianceId ((allianceOf_self hplayer).trans halliance)
    refine ⟨?_, mem_keys_joinedTicks hmember⟩
    obtain ⟨alliance, hmem, hid, -⟩ := hmember
    exact (keys_syncAlliances hsync allianceId).2 (Or.inr (List.mem_map.2 ⟨alliance, hmem, hid⟩))
  obtain ⟨players, hplayers⟩ := syncMemberships_ok hwritable db.players
  unfold syncTerminalAllianceRows
  split
  · exact ⟨_, _, rfl⟩
  · dsimp only
    rw [hactive, List.insertionSort_nil, List.map_nil]
    simp only [show OrdDict.ofList ([] : List (List String × AllianceRow)) = OrdDict.empty from rfl, hsync, hplayers]
    exact ⟨_, _, rfl⟩

/-- A leading coalition with rows has a row to be named by. -/
theorem RowsInLine.winner_found (h : RowsInLine db matchId advancedTick.nextState ids)
    (hjoined : JoinedCoalition db matchId advancedTick.nextState leading)
    (hleading : getTerminalWinnerAlliance advancedTick = some leading) :
    ∃ winnerAlliance, resolveTerminalWinnerCoalitionId matchId db advancedTick ids = .ok winnerAlliance := by
  unfold resolveTerminalWinnerCoalitionId
  rw [hleading]
  dsimp only
  cases h.kind hjoined with
  | alliance rowId row members =>
      rw [row]
      exact ⟨_, rfl⟩
  | player known row members unworn =>
      rw [row]
      obtain ⟨player, -, hmapped⟩ := hjoined.joined leading known ((members leading).2 rfl)
      have hentry := OrdDict.get?_eq_some.1 hmapped
      have hfound : ((persistedPlayerMapping advancedTick.nextState (db.playersOfMatch matchId)).entries.find?
          fun entry => entry.2 = leading).isSome = true := List.find?_isSome.2 ⟨_, hentry, by simp⟩
      obtain ⟨entry, hentry⟩ := Option.isSome_iff_exists.1 hfound
      simp only [hentry]
      exact ⟨_, rfl⟩

/-! ### Settling -/

variable (state) in
theorem memberAlliance_ok (mapping : PlayerMapping) (alliances : Table AllianceRow.id) (winnerIdentity : String)
    (players : List PlayerRow) :
    ∃ winner, memberAlliance state mapping .sqlite alliances winnerIdentity players = .ok winner := by
  induction players with
  | nil => exact ⟨none, rfl⟩
  | cons player players ih =>
      unfold memberAlliance
      split
      · exact ih
      · rw [sessionGet_sqlite]
        split
        · split
          · rename_i herror
            cases herror
          · exact ⟨_, rfl⟩
          · exact ih
        · exact ih

variable (state) in
/-- With string keys no candidate raises. -/
theorem winnerAllianceForSettlement_ok (matchRow : MatchRow) (mapping : PlayerMapping)
    (alliances : Table AllianceRow.id) (players : List PlayerRow) :
    ∃ winner, winnerAllianceForSettlement matchRow state mapping .sqlite alliances players = .ok winner := by
  unfold winnerAllianceForSettlement
  induction winnerIdentityCandidates matchRow state with
  | nil => exact ⟨none, rfl⟩
  | cons winnerIdentity candidates ih =>
      obtain ⟨member, hmember⟩ := memberAlliance_ok state mapping alliances winnerIdentity players
      unfold allianceOfCandidates
      rw [sessionGet_sqlite, hmember]
      split
      · rename_i herror
        cases herror
      · exact ⟨_, rfl⟩
      · cases member with
        | none => exact ih
        | some alliance => exact ⟨_, rfl⟩

/-- A completed match whose players have no settlement is settled exactly when its state passes the field checks. -/
theorem settleCompletedMatch_ok_iff (settledAt : Nat) (committed : Database) {matchRow : MatchRow}
    (hstatus : matchRow.status = .completed) (hunsettled : matchRow.id ∉ db.matchSettlements.keys)
    (hplayers : db.playersOfMatch matchRow.id ≠ []) (hfree : SettlesFreely db (db.playersOfMatch matchRow.id)) :
    (∃ db', settleCompletedMatchIfNeeded .sqlite settledAt committed db matchRow = .ok db') ↔
      matchRow.state.FieldsValid := by
  obtain ⟨matchSettlements, hadd, -⟩ :=
    sessionAdd_of_not_mem (⟨matchRow.id, settledAt⟩ : MatchSettlementRow) hunsettled
  have hsettle : settleMatch .sqlite settledAt db matchRow =
      settlePlayers .sqlite settledAt { db with matchSettlements } matchRow := by
    unfold settleMatch
    rw [hadd]
    exact if_neg hplayers
  have hsame : ({ db with matchSettlements } : Database).playersOfMatch matchRow.id = db.playersOfMatch matchRow.id := rfl
  unfold settleCompletedMatchIfNeeded
  rw [if_neg (not_not.2 hstatus), sessionGet_sqlite, Table.get?_eq_none.2 hunsettled]
  dsimp only
  rw [hsettle]
  unfold settlePlayers
  dsimp only
  rw [hsame]
  by_cases hvalid : matchRow.state.FieldsValid
  · rw [if_pos hvalid]
    refine iff_of_true ?_ hvalid
    obtain ⟨winner, hwinner⟩ := winnerAllianceForSettlement_ok matchRow.state matchRow
      (buildPersistedPlayerMapping (matchRow.state.players.keys.insertionSort (· ≤ ·)) (db.playersOfMatch matchRow.id))
      db.alliances (db.playersOfMatch matchRow.id)
    rw [hwinner]
    dsimp only
    have hunsettledPlayers : SettlesFreely { db with matchSettlements } (db.playersOfMatch matchRow.id) :=
      ⟨hfree.distinct, hfree.fresh⟩
    obtain ⟨settled, hloop⟩ := settlePlayers_ok _ hunsettledPlayers
    rw [hloop]
    exact ⟨settled, rfl⟩
  · rw [if_neg hvalid]
    refine iff_of_false ?_ hvalid
    rintro ⟨db', hdb'⟩
    cases hdb'

end Transaction

/-! ### Matches of joined players -/

/-- Only settled matches have settlements. -/
theorem settledMatches_run {hashApiKey : String → String} {variant : StorageVariant} {server : Server}
    (hnone : server.HoldsNoMatch) (hnothing : server.database.playerMatchSettlements.rows = [])
    (events : List ServerEvent) : ∀ reached ∈ Run.states (serverStep hashApiKey variant) server events,
      ∀ row ∈ reached.database.playerMatchSettlements.rows, row.matchId ∈ reached.database.matchSettlements.keys := by
  refine Run.invariant_of_steps (I := fun reached : Server => ∀ row ∈ reached.database.playerMatchSettlements.rows,
    row.matchId ∈ reached.database.matchSettlements.keys)
    (C := fun reached _ => reached.Holds (fun _ _ => True) (fun _ => True) ∧ reached.SeatsAll hashApiKey) ?_ ?_ ?_
  · rintro reached event ⟨hholds, hseats⟩ hkept row hrow
    by_cases hpersists : PersistsVictory variant reached event
    · cases event with
      | tick matchId newId elapsed =>
          have hsettled : SettlesMatch reached (serverStep hashApiKey variant reached (.tick matchId newId elapsed)) matchId
              elapsed := settles_of_persistsVictory hholds hpersists
          obtain ⟨outcome, players, hsettles⟩ := hsettled.settles
          unfold Table.keys
          rw [hsettles.settled, List.map_append, List.mem_append, List.map_singleton, List.mem_singleton]
          rw [hsettles.settlements, List.mem_append, List.mem_map] at hrow
          rcases hrow with hrow | ⟨player, -, rfl⟩
          · exact Or.inl (hkept row hrow)
          · exact Or.inr hsettles.match_id
      | _ => exact hpersists.elim
    · have hleaves := leavesRatings_serverStep hholds hseats hpersists
      rw [hleaves.settlements] at hrow
      rw [hleaves.settled]
      exact hkept row hrow
  · intro row hrow
    rw [hnothing] at hrow
    cases hrow
  · intro step hstep
    have hmem := Run.fst_mem_states hstep
    exact ⟨hnone.holds_run events _ hmem, seatsAll_run hnone events _ hmem⟩

section Ending

variable {hashApiKey : String → String} {matchId : String} {newId : Nat → String} {advancedTick : AdvancedMatchTick}
  {leading : String} {reached : Server} {P : String → MatchState → Prop} {record : MatchRecord}
  (hholds : reached.Holds P fun record => record.matchId = matchId →
    SeatedRecord (reached.database.Joined matchId) record)
  (hrecord : reached.registry.getMatch matchId = some record) (hactive : record.status = .active)
  (hadvanced : (advanceRegistryTick record).2 = .ok advancedTick)

include hholds hrecord hactive hadvanced

/-- The alliances of joined players can be written. -/
theorem sync_ok_of_seated (hdraws : FreshDraws newId advancedTick.alliances.length reached.database) :
    ∃ synced ids, syncTerminalAllianceRows matchId newId reached.database advancedTick = .ok (synced, ids) := by
  obtain ⟨hseated, hagree, hformed⟩ := seated_of_advanced hholds hrecord hactive hadvanced
  have hrows := scopedRows_playersOfMatch hholds.numbered matchId
  have hmapped : ∀ playerId allianceId, allianceOf advancedTick.nextState playerId = some allianceId →
      playerId ∈ (persistedPlayersByCanonical advancedTick.nextState (reached.database.playersOfMatch matchId)).keys := by
    intro playerId allianceId hworn
    obtain ⟨playerState, hplayer, -⟩ := Option.bind_eq_some_iff.1 hworn
    obtain ⟨⟨player, hmem, joinIndex, ⟨hmatch, hid⟩, rfl⟩, -⟩ := hseated.worn playerId allianceId hworn
    have hstored : player ∈ reached.database.playersOfMatch matchId := Database.mem_playersOfMatch.2 ⟨hmem, hmatch⟩
    refine OrdDict.mem_keys_of_get? (playersByCanonical_of_mapped hrows hstored ?_)
    refine (get?_buildPersistedPlayerMapping hrows _ _).2 ⟨player, hstored, rfl, ?_⟩
    rw [hid, canonicalPlayerId_of_scoped,
      if_pos ((List.mem_insertionSort _).2 (OrdDict.mem_keys_of_get? hplayer))]
  refine syncTerminalAllianceRows_ok ?_ hdraws ?_ fun playerId allianceId => (hagree playerId allianceId).2
  · intro alliance halliance hsame
    exact hholds.incomplete hrecord hactive (hsame ▸ hholds.alliances alliance halliance)
  · intro alliance halliance
    have hmember : ∀ playerId ∈ alliance.memberIds,
        playerId ∈ (persistedPlayersByCanonical advancedTick.nextState (reached.database.playersOfMatch matchId)).keys :=
      fun playerId hmember => hmapped playerId alliance.allianceId
        ((hagree playerId alliance.allianceId).1 ⟨alliance, halliance, rfl, hmember⟩)
    exact ⟨hmember _ (hformed alliance halliance).1.leader_mem,
      fun member hlisted => hmember member.playerId (List.mem_map_of_mem hlisted)⟩

/-- A terminal tick is written exactly when its state passes the field checks. -/
theorem persist_ok_iff (settledAt : Nat) (hleading : getTerminalWinnerAlliance advancedTick = some leading)
    (hdraws : FreshDraws newId advancedTick.alliances.length reached.database)
    (hsettled : ∀ settlement ∈ reached.database.playerMatchSettlements.rows,
      settlement.matchId ∈ reached.database.matchSettlements.keys ∧
        ∃ player ∈ reached.database.players.rows, settlement.playerId = player.id ∧ settlement.matchId = player.matchId) :
    (∃ database, persistAdvancedMatchTick .sqlite newId settledAt reached.database advancedTick = .ok database) ↔
      advancedTick.nextState.FieldsValid := by
  obtain ⟨hid, -, row, hrow, -⟩ := hholds.live matchId record hrecord
  obtain rfl : row.id = matchId := Table.key_of_get? hrow
  have hunsettled := hholds.unsettled (hholds.incomplete hrecord hactive)
  have hmatch : advancedTick.matchId = row.id := (advanceRegistryTick_eq_ok hadvanced).1.trans hid
  obtain ⟨synced, ids, hsync⟩ := sync_ok_of_seated hholds hrecord hactive hadvanced hdraws
  obtain ⟨hrows, hcoalition⟩ := inLine_of_sync hholds hrecord hactive hadvanced hleading hdraws hsync
  obtain ⟨winnerAlliance, hwinner⟩ := hrows.winner_found hcoalition hleading
  have hplayers : synced.playersOfMatch row.id ≠ [] := by
    obtain ⟨playerId, hplayer, hmember⟩ := hcoalition.nonempty
    obtain ⟨player, hstored, -⟩ := hcoalition.joined playerId hplayer hmember
    exact List.ne_nil_of_mem hstored
  obtain ⟨alliances, players, rfl, henrolments⟩ := syncTerminalAllianceRows_eq_ok hsync
  have hfree : SettlesFreely { reached.database with alliances, players }
      (({ reached.database with alliances, players } : Database).playersOfMatch row.id) := by
    refine ⟨hrows.rows.distinct, ?_⟩
    intro player hplayer hmem
    obtain ⟨hstored, hours⟩ := Database.mem_playersOfMatch.1 hplayer
    obtain ⟨settlement, hsettlement, hsame⟩ := List.mem_map.1 hmem
    obtain ⟨hkey, owner, howner, hownerId, hownerMatch⟩ := hsettled settlement hsettlement
    obtain ⟨old, hold, henrolled⟩ := exists_enrolled henrolments.symm hstored
    have hone : owner = old := Table.eq_of_key howner hold
      (hownerId.symm.trans (hsame.trans (id_of_enrolment henrolled).symm))
    rw [hownerMatch, hone, matchId_of_enrolment henrolled, hours] at hkey
    exact hunsettled hkey
  have hstatus : (writeWinner winnerAlliance (tickedMatchRow advancedTick row)).status = .completed :=
    if_pos (Option.isSome_of_eq_some hleading)
  have hpersist : (∃ database, persistAdvancedMatchTick .sqlite newId settledAt reached.database advancedTick =
      .ok database) ↔ ∃ settled, settleCompletedMatchIfNeeded .sqlite settledAt reached.database
        (writeMatchRow { reached.database with alliances, players }
          (writeWinner winnerAlliance (tickedMatchRow advancedTick row)))
        (writeWinner winnerAlliance (tickedMatchRow advancedTick row)) = .ok settled := by
    unfold persistAdvancedMatchTick
    rw [sessionGet_sqlite, hmatch, hrow]
    dsimp only
    rw [show (tickedMatchRow advancedTick row).id = row.id from rfl, hsync]
    dsimp only
    rw [hwinner]
    dsimp only
    split
    · rename_i error herror
      simp [herror]
    · rename_i settled hok
      simp [hok]
  rw [hpersist]
  exact settleCompletedMatch_ok_iff settledAt reached.database hstatus hunsettled hplayers ⟨hfree.distinct, hfree.fresh⟩

end Ending

/-- In a run in which its joined players command a match, the winners of its last tick agree exactly when the state this tick has made passes the field checks. -/
theorem winners_agree_iff {hashApiKey : String → String} (casefold : String → String) {server : Server}
    (hnone : server.HoldsNoMatch) (hnothing : server.database.playerMatchSettlements.rows = [])
    {events : List ServerEvent} {matchId : String}
    (hjoined : ∀ step ∈ Run.steps (serverStep hashApiKey .sqlite) server events, CommandByJoined matchId step.1 step.2)
    {record : MatchRecord}
    (hrecord : (events.foldl (serverStep hashApiKey .sqlite) server).registry.getMatch matchId = some record)
    (hactive : record.status = .active) {advancedTick : AdvancedMatchTick}
    (hadvanced : (advanceRegistryTick record).2 = .ok advancedTick) {leading : String}
    (hleading : getTerminalWinnerAlliance advancedTick = some leading) {newId : Nat → String}
    (hdraws : FreshDraws newId advancedTick.alliances.length
      (events.foldl (serverStep hashApiKey .sqlite) server).database) (elapsed : Nat) :
    (∃ ticked, (events.foldl (serverStep hashApiKey .sqlite) server).tick .sqlite matchId newId elapsed =
        (ticked, .ok advancedTick) ∧
      WinnersAgree hashApiKey casefold ticked.database matchId advancedTick.nextState leading) ↔
      advancedTick.nextState.FieldsValid := by
  have hholds := seated_run hnone hjoined
  have hlast : events.foldl (serverStep hashApiKey .sqlite) server ∈
      Run.states (serverStep hashApiKey .sqlite) server events := Run.foldl_mem_states server events
  have hsettled := settledMatches_run hnone hnothing events _ hlast
  have howned := (rated_run hnone hnothing events _ hlast).owned
  generalize events.foldl (serverStep hashApiKey .sqlite) server = reached at hholds hsettled howned hrecord hdraws ⊢
  rw [← persist_ok_iff hholds hrecord hactive hadvanced (reached.readClock elapsed) hleading hdraws]
  · constructor
    · rintro ⟨ticked, hticked, -⟩
      obtain ⟨found, database, hfound, -, hsame, hpersist, -⟩ := tick_eq_ok (congrArg Prod.snd hticked)
      exact ⟨database, hpersist⟩
    · rintro ⟨database, hpersist⟩
      refine ⟨_, tick_of_persists hrecord hactive hadvanced hpersist, ?_⟩
      exact winnersAgree_of_persist hholds hrecord hactive hadvanced casefold hleading hdraws hpersist
  · intro settlement hsettlement
    obtain ⟨player, hplayer, hid, hmatch, -⟩ := howned settlement hsettlement
    exact ⟨hsettled settlement hsettlement, player, hplayer, hid, hmatch⟩

/-! ### Allies with food and without -/

/-- A command comes from a player whose row is there, under one of the numbers. -/
def commandByRow (matchId : String) (joinIndexes : List Nat) (server : Server) : ServerEvent → Bool
  | .command _ playerId _ => joinIndexes.any fun joinIndex =>
      playerId = canonicalPlayerId joinIndex ∧
        (server.database.players.get? (buildMatchScopedPlayerId matchId joinIndex)).map (·.matchId) = some matchId
  | _ => true

theorem commandByJoined_of_row {matchId : String} {joinIndexes : List Nat} {server : Server} {event : ServerEvent}
    (h : commandByRow matchId joinIndexes server event = true) : CommandByJoined matchId server event := by
  cases event with
  | command id playerId command =>
      intro _
      obtain ⟨joinIndex, -, hrow⟩ := List.any_eq_true.1 h
      obtain ⟨hplayerId, hfound⟩ := of_decide_eq_true hrow
      obtain ⟨player, hplayer, hmatch⟩ := Option.map_eq_some_iff.1 hfound
      exact ⟨player, Table.mem_rows_of_get? hplayer, joinIndex, ⟨hmatch, Table.key_of_get? hplayer⟩, hplayerId⟩
  | _ => trivial

theorem commandsByJoined_of_rows (events : List ServerEvent)
    (h : (Run.steps (serverStep deploymentHash .sqlite) deployment events).all
      (fun step => commandByRow deploymentMatchId [1, 2] step.1 step.2) = true) :
    ∀ step ∈ Run.steps (serverStep deploymentHash .sqlite) deployment events,
      CommandByJoined deploymentMatchId step.1 step.2 :=
  fun step hstep => commandByJoined_of_row (List.all_eq_true.1 h step hstep)

theorem freshDraws_one {newId : Nat → String} {count : Nat} {db : Database} (hcount : count = 1)
    (huuid : isUuidText (newId 0) = true) (hplayers : newId 0 ∉ db.players.keys)
    (halliances : newId 0 ∉ db.alliances.keys) : FreshDraws newId count db := by
  subst hcount
  have hzero : ∀ n < 1, n = 0 := fun n hn => by omega
  exact ⟨fun n hn => hzero n hn ▸ huuid, fun n hn => hzero n hn ▸ hplayers, fun n hn => hzero n hn ▸ halliances,
    fun m hm n hn _ => (hzero m hm).trans (hzero n hn).symm⟩

def alliedServer : Server := (alliedPair .sqlite).foldl (serverStep deploymentHash .sqlite) deployment

/-- The last tick of the allies' match, whose state passes the checks. -/
theorem winners_agree_iff_allies :
    ∃ advancedTick ticked, advancedTick.nextState.FieldsValid ∧
      alliedServer.tick .sqlite deploymentMatchId deployedIds 0 = (ticked, .ok advancedTick) ∧
      WinnersAgree deploymentHash id ticked.database deploymentMatchId advancedTick.nextState "alliance-1" := by
  have hrun : ((alliedServer.nextTick deploymentMatchId).map fun advancedTick => (getTerminalWinnerAlliance advancedTick,
        advancedTick.alliances.length, decide advancedTick.nextState.FieldsValid)) = some (some "alliance-1", 1, true) ∧
      (alliedServer.registry.getMatch deploymentMatchId).map (·.status) = some .active ∧
      deployedIds 0 ∉ alliedServer.database.players.keys ∧ deployedIds 0 ∉ alliedServer.database.alliances.keys := by
    decide +kernel
  obtain ⟨hterminal, hstatus, hplayers, halliances⟩ := hrun
  obtain ⟨advancedTick, htick, heval⟩ := Option.map_eq_some_iff.1 hterminal
  obtain ⟨hleading, hrest⟩ := Prod.mk.inj heval
  obtain ⟨hcount, hvalid⟩ := Prod.mk.inj hrest
  obtain ⟨record, hrecord, hadvanced⟩ := Server.exists_record_of_nextTick htick
  obtain ⟨found, hfound, hactive⟩ := Option.map_eq_some_iff.1 hstatus
  obtain rfl := Option.some.inj (hrecord.symm.trans hfound)
  have hdraws : FreshDraws deployedIds advancedTick.alliances.length alliedServer.database :=
    freshDraws_one hcount (by decide +kernel) hplayers halliances
  obtain ⟨ticked, hticked, hagree⟩ := (winners_agree_iff id deployment_holdsNoMatch rfl
    (commandsByJoined_of_rows (alliedPair .sqlite) (by decide +kernel)) hrecord hactive hadvanced hleading
    hdraws 0).2 (of_decide_eq_true hvalid)
  exact ⟨advancedTick, ticked, of_decide_eq_true hvalid, hticked, hagree⟩

/-- The last tick takes the second player's food below zero, and nothing of the victory is written. -/
theorem hungry_victory_raises :
    (∀ step ∈ Run.steps (serverStep deploymentHash .sqlite) deployment hungryAllies,
      CommandByJoined deploymentMatchId step.1 step.2) ∧
    ∃ advancedTick, hungryServer.nextTick deploymentMatchId = some advancedTick ∧
      getTerminalWinnerAlliance advancedTick = some "alliance-1" ∧
      advancedTick.nextState.balance "player-2" .food = -1 ∧
      ((hungryServer.tick .sqlite deploymentMatchId deployedIds 0).1.database.matchRows.get? deploymentMatchId).map
        (·.status) = some .active ∧
      ¬ ∃ ticked, hungryServer.tick .sqlite deploymentMatchId deployedIds 0 = (ticked, .ok advancedTick) ∧
        WinnersAgree deploymentHash id ticked.database deploymentMatchId advancedTick.nextState "alliance-1" := by
  refine ⟨commandsByJoined_of_rows hungryAllies (by decide +kernel), ?_⟩
  have hrun : ((hungryServer.nextTick deploymentMatchId).map fun advancedTick => (getTerminalWinnerAlliance advancedTick,
        advancedTick.nextState.balance "player-2" .food)) = some (some "alliance-1", -1) ∧
      ((hungryServer.tick .sqlite deploymentMatchId deployedIds 0).1.database.matchRows.get? deploymentMatchId).map
        (·.status) = some .active ∧
      (hungryServer.tick .sqlite deploymentMatchId deployedIds 0).2.toOption.isSome = false := by
    decide +kernel
  obtain ⟨hterminal, hkept, hraises⟩ := hrun
  obtain ⟨advancedTick, htick, heval⟩ := Option.map_eq_some_iff.1 hterminal
  obtain ⟨hleading, hfood⟩ := Prod.mk.inj heval
  refine ⟨advancedTick, htick, hleading, hfood, hkept, ?_⟩
  rintro ⟨ticked, hticked, -⟩
  exact ne_ok_of_toOption hraises advancedTick (congrArg Prod.snd hticked)

end IronCouncil
