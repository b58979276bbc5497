import IronCouncil.Proof.Restart
import IronCouncil.Proof.SeatedRuns

/-!
# What joining replaces

A join and a start put a record in place of the live one that is loaded from the rows alone. What the live record has got since it was last in the database is lost, unless there is nothing.
-/

namespace IronCouncil

/-! ### Live data -/

/-- What the live record has that it did not have when it was persisted is in the next one: queue, messages, chats, treaties and alliances. -/
structure KeepsLive (persisted live next : MatchRecord) : Prop where
  orderSubmissions : live.orderSubmissions.Subperm (next.orderSubmissions ++ persisted.orderSubmissions)
  messages : live.messages.Subperm (next.messages ++ persisted.messages)
  groupChats : live.groupChats.Subperm (next.groupChats ++ persisted.groupChats)
  treaties : live.treaties.Subperm (next.treaties ++ persisted.treaties)
  alliances : live.alliances.Subperm (next.alliances ++ persisted.alliances)
  dissolved : ∀ alliance ∈ persisted.alliances, alliance ∉ live.alliances → alliance ∉ next.alliances

/-- The live record has nothing that it did not have when it was persisted, but for alliances that the persisted state comes to as well. -/
structure NothingNew (persisted live : MatchRecord) : Prop where
  orderSubmissions : live.orderSubmissions.Subperm persisted.orderSubmissions
  messages : live.messages.Subperm persisted.messages
  groupChats : live.groupChats.Subperm persisted.groupChats
  treaties : live.treaties.Subperm persisted.treaties
  alliances : live.alliances.Subperm (deriveAlliancesFromState persisted.state ++ persisted.alliances)
  dissolved : ∀ alliance ∈ persisted.alliances, alliance ∉ live.alliances →
    alliance ∉ deriveAlliancesFromState persisted.state

/-- A record as it is loaded from rows without treaties. -/
structure Replaced (state : MatchState) (record : MatchRecord) : Prop where
  orderSubmissions : record.orderSubmissions = []
  messages : record.messages = []
  groupChats : record.groupChats = []
  treaties : record.treaties = []
  alliances : record.alliances = deriveAlliancesFromState state

theorem Replaced.keepsLive_iff {persisted live record : MatchRecord} (h : Replaced persisted.state record) :
    KeepsLive persisted live record ↔ NothingNew persisted live := by
  constructor
  · rintro ⟨horders, hmessages, hchats, htreaties, halliances, hdissolved⟩
    rw [h.orderSubmissions, List.nil_append] at horders
    rw [h.messages, List.nil_append] at hmessages
    rw [h.groupChats, List.nil_append] at hchats
    rw [h.treaties, List.nil_append] at htreaties
    rw [h.alliances] at halliances hdissolved
    exact ⟨horders, hmessages, hchats, htreaties, halliances, hdissolved⟩
  · rintro ⟨horders, hmessages, hchats, htreaties, halliances, hdissolved⟩
    refine ⟨?_, ?_, ?_, ?_, ?_, ?_⟩
    · rw [h.orderSubmissions, List.nil_append]
      exact horders
    · rw [h.messages, List.nil_append]
      exact hmessages
    · rw [h.groupChats, List.nil_append]
      exact hchats
    · rw [h.treaties, List.nil_append]
      exact htreaties
    · rw [h.alliances]
      exact halliances
    · rw [h.alliances]
      exact hdissolved

/-! ### Runs -/

section Runs

variable (hashApiKey : String → String) (variant : StorageVariant) (matchId : String)

/-- After the step the live record of the match is the one in the database: a persisted tick, the making of the match, or a start of the server. -/
def persistsRecord (server : Server) : ServerEvent → Bool
  | .tick id newId elapsed => decide (id = matchId) && (server.tick variant id newId elapsed).2.toOption.isSome
  | .createLobby credentials request id =>
      decide (id = matchId ∧ id ∉ server.database.matchRows.keys ∧
        id ∈ (serverStep hashApiKey variant server (.createLobby credentials request id)).database.matchRows.keys)
  | .hydrate => (server.hydrate hashApiKey).toOption.isSome
  | _ => false

/-- The server and the match's record as it was last persisted. -/
def trackStep (tracked : Server × Option MatchRecord) (event : ServerEvent) : Server × Option MatchRecord :=
  let next := serverStep hashApiKey variant tracked.1 event
  (next, if persistsRecord hashApiKey variant matchId tracked.1 event then next.registry.getMatch matchId else tracked.2)

/-- The step is a join or a start of the match that is accepted. -/
def acceptsCall (server : Server) : ServerEvent → Bool
  | .join credentials id requestMatchId =>
      decide (id = matchId) && (server.join hashApiKey variant credentials id requestMatchId).toOption.isSome
  | .start credentials id => decide (id = matchId) && (server.start hashApiKey variant credentials id).toOption.isSome
  | _ => false

/-- An accepted join or start keeps what has come since the record was persisted. -/
def CallKeeps (tracked : Server × Option MatchRecord) (event : ServerEvent) : Prop :=
  acceptsCall hashApiKey variant matchId tracked.1 event = true → ∀ live, tracked.1.registry.getMatch matchId = some live →
    ∃ persisted record, tracked.2 = some persisted ∧
      (serverStep hashApiKey variant tracked.1 event).registry.getMatch matchId = some record ∧
      KeepsLive persisted live record

/-- An accepted join or start comes when nothing has come since the record was persisted. -/
def CallIdle (tracked : Server × Option MatchRecord) (event : ServerEvent) : Prop :=
  acceptsCall hashApiKey variant matchId tracked.1 event = true → ∀ live, tracked.1.registry.getMatch matchId = some live →
    ∃ persisted, tracked.2 = some persisted ∧ NothingNew persisted live

end Runs

/-! ### Treaty rows -/

section Steps

variable {hashApiKey : String → String} {variant : StorageVariant} {matchId : String} {server : Server}

theorem treaties_addPlayer {db db' : Database} {player : PlayerRow} (h : addPlayer db player = .ok db') :
    db'.treaties = db.treaties := by
  obtain ⟨players, -, rfl⟩ := addPlayer_eq_ok h
  rfl

theorem treaties_persist {newId : Nat → String} {settledAt : Nat} {db db' : Database} {advancedTick : AdvancedMatchTick}
    (h : persistAdvancedMatchTick variant newId settledAt db advancedTick = .ok db') : db'.treaties = db.treaties := by
  obtain ⟨row, synced, ids, winnerAlliance, settled, -, hsync, -, hsettle, rfl⟩ := persistAdvancedMatchTick_eq_ok h
  obtain ⟨alliances, players, rfl, -⟩ := syncTerminalAllianceRows_eq_ok hsync
  rcases settleCompletedMatchIfNeeded_eq_ok hsettle with ⟨rfl, -⟩ | ⟨-, hsettled⟩
  · rfl
  · obtain ⟨matchSettlements, outcome, -, -, -, hplayers⟩ := settleMatch_eq_ok hsettled
    have hkept : settled.treaties = db.treaties := by
      refine Run.invariant_foldlM (I := fun reached => reached.treaties = db.treaties) ?_ hplayers rfl
      intro reached player reached' hstep hreached
      obtain ⟨playerMatchSettlements, -, rfl⟩ := settlePlayer_eq_ok hstep
      unfold recordKeyElo
      split
      · exact hreached
      · exact hreached
    exact hkept

/-- Nothing that happens writes a treaty row. -/
theorem treaties_serverStep (server : Server) (event : ServerEvent) :
    (serverStep hashApiKey variant server event).database.treaties = server.database.treaties := by
  have heffect : ServerEffect hashApiKey variant server event (serverStep hashApiKey variant server event) :=
    serverStep_effect server event
  generalize serverStep hashApiKey variant server event = next at heffect
  cases heffect with
  | keyCreated hfresh hadd =>
      have htreaties := congrArg Database.treaties (Database.addApiKey_eq_ok hadd).2.2
      exact htreaties
  | lobbyCreated hcreate =>
      obtain ⟨state, creator, agent, matchRows, -, -, -, hadd, -⟩ := createMatchLobby_eq_ok hcreate
      have htreaties := treaties_addPlayer hadd
      exact htreaties
  | joined hjoin =>
      obtain ⟨row, -, rfl | ⟨identity, joinIndex, -, hadd⟩, -⟩ := joinDbMatch_eq_ok hjoin
      · rfl
      · exact treaties_addPlayer hadd
  | started hstart =>
      obtain ⟨row, -, -, -, rfl, -⟩ := startMatchLobby_eq_ok hstart
      rfl
  | ticked hrecord hactive htick hpersist => exact treaties_persist hpersist
  | _ => rfl

/-! ### Accepted calls -/

theorem join_eq_ok {credentials : Credentials} {requestMatchId : String} {result : Server × JoinedMatch}
    (h : server.join hashApiKey variant credentials matchId requestMatchId = .ok result) :
    ∃ actor database, joinDbMatch hashApiKey variant server.database matchId actor = .ok (database, result.2) ∧
      result.1 = server.commit database result.2.record := by
  unfold Server.join at h
  split at h
  · cases h
  · split at h
    · cases h
    · split at h
      · cases h
      · split at h
        · cases h
        · rename_i actor hactor
          split at h
          · cases h
          · rename_i database joined hjoin
            cases h
            exact ⟨actor, database, hjoin, rfl⟩

theorem start_eq_ok {credentials : Credentials} {result : Server × StartedMatchLobby}
    (h : server.start hashApiKey variant credentials matchId = .ok result) :
    ∃ actor database, startMatchLobby hashApiKey variant server.database matchId actor = .ok (database, result.2) ∧
      result.1 = server.commit database result.2.record := by
  unfold Server.start at h
  split at h
  · cases h
  · rename_i actor hactor
    split at h
    · cases h
    · rename_i database started hstart
      cases h
      exact ⟨actor, database, hstart, rfl⟩

theorem replaced_composed {db : Database} {matchRow : MatchRow} {playerRows : List PlayerRow}
    (htreaties : db.treaties.rows = []) :
    Replaced matchRow.state (InMemoryMatchRegistry.storedRecord
      (composeLoadedMatchRecord hashApiKey db matchRow playerRows [])) where
  orderSubmissions := rfl
  messages := rfl
  groupChats := rfl
  treaties := by
    change loadPersistedTreaties db.treaties.rows _ _ _ = []
    rw [htreaties]
    rfl
  alliances := rfl

theorem getMatch_commit {database : Database} {record : MatchRecord} {state : MatchState} (hid : record.matchId = matchId)
    (h : Replaced state (InMemoryMatchRegistry.storedRecord record)) :
    ∃ found, (server.commit database record).registry.getMatch matchId = some found ∧ Replaced state found := by
  refine ⟨_, ?_, h⟩
  have hseeded := InMemoryMatchRegistry.getMatch_seedMatch server.registry record matchId
  rw [if_pos hid.symm] at hseeded
  exact hseeded

theorem after_ok {ρ : Type} {outcome : Except ServerError (Server × ρ)} {result : Server × ρ} (h : outcome = .ok result) :
    server.after outcome = result.1 := by
  rw [h]
  rfl

/-- An accepted join or start replaces the record by one that is loaded from the rows. -/
theorem replaced_of_acceptsCall (htreaties : server.database.treaties.rows = []) {event : ServerEvent}
    (h : acceptsCall hashApiKey variant matchId server event = true) :
    ∃ row record, server.database.matchRows.get? matchId = some row ∧
      (serverStep hashApiKey variant server event).registry.getMatch matchId = some record ∧
      Replaced row.state record := by
  have hkept : (serverStep hashApiKey variant server event).database.treaties.rows = [] := by
    rw [treaties_serverStep]
    exact htreaties
  cases event with
  | join credentials id requestMatchId =>
      obtain ⟨hid, haccepted⟩ := Bool.and_eq_true_iff.1 h
      obtain rfl := of_decide_eq_true hid
      obtain ⟨result, hresult⟩ := Option.isSome_iff_exists.1 haccepted
      obtain ⟨actor, database, hjoin, hnext⟩ := join_eq_ok (eq_ok_of_toOption hresult)
      obtain ⟨row, hrow, -, hrecord⟩ := joinDbMatch_eq_ok hjoin
      have hstep : serverStep hashApiKey variant server (.join credentials id requestMatchId) = result.1 :=
        after_ok (eq_ok_of_toOption hresult)
      rw [hstep, hnext] at hkept ⊢
      have hid : result.2.record.matchId = id := by
        rw [hrecord]
        change row.id = id
        exact Table.key_of_get? hrow
      have hreplaced : Replaced row.state (InMemoryMatchRegistry.storedRecord result.2.record) := by
        rw [hrecord]
        exact replaced_composed hkept
      obtain ⟨found, hfound, hloaded⟩ := getMatch_commit hid hreplaced
      exact ⟨row, found, hrow, hfound, hloaded⟩
  | start credentials id =>
      obtain ⟨hid, haccepted⟩ := Bool.and_eq_true_iff.1 h
      obtain rfl := of_decide_eq_true hid
      obtain ⟨result, hresult⟩ := Option.isSome_iff_exists.1 haccepted
      obtain ⟨actor, database, hstart, hnext⟩ := start_eq_ok (eq_ok_of_toOption hresult)
      obtain ⟨row, hrow, -, -, -, hrecord⟩ := startMatchLobby_eq_ok hstart
      have hstep : serverStep hashApiKey variant server (.start credentials id) = result.1 :=
        after_ok (eq_ok_of_toOption hresult)
      rw [hstep, hnext] at hkept ⊢
      have hid : result.2.record.matchId = id := by
        rw [hrecord]
        change row.id = id
        exact Table.key_of_get? hrow
      have hreplaced : Replaced row.state (InMemoryMatchRegistry.storedRecord result.2.record) := by
        rw [hrecord]
        have hcomposed : Replaced (startedMatchRow row).state (InMemoryMatchRegistry.storedRecord
            (composeLoadedMatchRecord hashApiKey database (startedMatchRow row) (database.playersOfMatch row.id) [])) :=
          replaced_composed hkept
        exact hcomposed
      obtain ⟨found, hfound, hloaded⟩ := getMatch_commit hid hreplaced
      exact ⟨row, found, hrow, hfound, hloaded⟩
  | _ => cases h

/-! ### The persisted record -/

/-- The match's row has the state of the record that was persisted. -/
structure Tracked (hashApiKey : String → String) (matchId : String) (tracked : Server × Option MatchRecord) : Prop where
  seats : tracked.1.SeatsAll hashApiKey
  treaties : tracked.1.database.treaties.rows = []
  row : ∀ row, tracked.1.database.matchRows.get? matchId = some row →
    ∃ persisted, tracked.2 = some persisted ∧ persisted.state = row.state

/-- Where the record is persisted, the live one has the state of the row. -/
theorem state_of_persistsRecord (hseats : server.SeatsAll hashApiKey) {event : ServerEvent}
    (h : persistsRecord hashApiKey variant matchId server event = true) {row : MatchRow}
    (hrow : (serverStep hashApiKey variant server event).database.matchRows.get? matchId = some row) :
    ∃ record, (serverStep hashApiKey variant server event).registry.getMatch matchId = some record ∧
      record.state = row.state := by
  cases event with
  | tick id newId elapsed =>
      obtain ⟨hid, hticked⟩ := Bool.and_eq_true_iff.1 h
      obtain rfl := of_decide_eq_true hid
      obtain ⟨advancedTick, htick⟩ := Option.isSome_iff_exists.1 hticked
      obtain ⟨record, database, hrecord, -, hadvanced, hpersist, hstep⟩ := tick_eq_ok (eq_ok_of_toOption htick)
      have hstep : serverStep hashApiKey variant server (.tick id newId elapsed) =
          server.afterRound id elapsed (completeRecord advancedTick (advanceRegistryTick record).1) database := hstep
      rw [hstep] at hrow ⊢
      obtain ⟨hmatch, hnext, -, -⟩ := advanceRegistryTick_eq_ok hadvanced
      obtain ⟨stored, hpersisted⟩ := persistAdvancedMatchTick_persisted hpersist
      obtain ⟨row', hstate, -, hrows⟩ := hpersisted.row_state
      have hrow : database.matchRows.get? id = some row := hrow
      have hstoredId : stored.id = id := by
        rw [Table.key_of_get? hpersisted.row_found, hmatch, (hseats.live id record hrecord).1]
      rw [hrows, if_pos hstoredId.symm] at hrow
      obtain rfl := Option.some.inj hrow
      refine ⟨_, OrdDict.get?_insert_self _ _ _, ?_⟩
      rw [hstate, hnext]
      rfl
  | createLobby credentials request id =>
      obtain ⟨rfl, hfresh, hmade⟩ := of_decide_eq_true h
      have heffect : ServerEffect hashApiKey variant server (.createLobby credentials request id)
        (serverStep hashApiKey variant server (.createLobby credentials request id)) := serverStep_effect server _
      generalize serverStep hashApiKey variant server (.createLobby credentials request id) = next at hrow hmade heffect
      cases heffect with
      | refused => exact absurd hmade hfresh
      | lobbyCreated hcreate =>
          obtain ⟨state, creator, agent, matchRows, -, -, hadd, hplayer, hrecord⟩ := createMatchLobby_eq_ok hcreate
          obtain ⟨hnew, hrows⟩ := sessionAdd_eq_ok hadd
          have hmatches := congrArg (fun table => Table.get? table id) (addPlayer_tables hplayer).1
          have hstored := hmatches.symm.trans hrow
          dsimp only at hstored
          rw [Table.get?_append hnew hrows] at hstored
          obtain rfl := Option.some.inj ((if_pos rfl).symm.trans hstored)
          rw [hrecord]
          refine ⟨InMemoryMatchRegistry.storedRecord (lobbyRecord id request state creator agent), ?_, rfl⟩
          have hseeded := InMemoryMatchRegistry.getMatch_seedMatch server.registry
            (lobbyRecord id request state creator agent) id
          exact hseeded.trans (if_pos rfl)
  | hydrate =>
      obtain ⟨loaded, hloaded⟩ := Option.isSome_iff_exists.1 h
      have hroute := eq_ok_of_toOption hloaded
      have hstep : serverStep hashApiKey variant server .hydrate = loaded := by
        unfold serverStep Server.after
        simp only [hroute, Except.map]
      rw [hstep] at hrow ⊢
      unfold Server.hydrate at hroute
      split at hroute
      · cases hroute
      · rename_i registry hload
        cases hroute
        have hrow : server.database.matchRows.get? matchId = some row := hrow
        refine ⟨InMemoryMatchRegistry.storedRecord (loadedRecord hashApiKey server.database row), ?_, rfl⟩
        change registry.getMatch matchId = _
        rw [getMatch_loadMatchRegistryFromDatabase hload, hrow, Option.map_some]
  | _ => cases h

/-- Every other step leaves the state of the row as it is. -/
theorem state_of_not_persistsRecord (hseats : server.SeatsAll hashApiKey) {event : ServerEvent}
    (h : persistsRecord hashApiKey variant matchId server event = false) {row' : MatchRow}
    (hrow' : (serverStep hashApiKey variant server event).database.matchRows.get? matchId = some row') :
    ∃ row, server.database.matchRows.get? matchId = some row ∧ row.state = row'.state := by
  have heffect : ServerEffect hashApiKey variant server event (serverStep hashApiKey variant server event) :=
    serverStep_effect server event
  have hmade : ∀ credentials request, event = .createLobby credentials request matchId →
      matchId ∉ server.database.matchRows.keys →
      matchId ∉ (serverStep hashApiKey variant server event).database.matchRows.keys := by
    rintro credentials request rfl hfresh hkey
    exact Bool.noConfusion (h.symm.trans (decide_eq_true ⟨rfl, hfresh, hkey⟩))
  generalize serverStep hashApiKey variant server event = next at hrow' hmade heffect
  cases heffect with
  | keyCreated hfresh hadd =>
      rw [(Database.addApiKey_eq_ok hadd).2.2] at hrow'
      exact ⟨row', hrow', rfl⟩
  | lobbyCreated hcreate =>
      rename_i id actor database created
      obtain ⟨state, creator, agent, matchRows, -, -, hadd, hplayer, -⟩ := createMatchLobby_eq_ok hcreate
      obtain ⟨hnew, hrows⟩ := sessionAdd_eq_ok hadd
      have hmatches := congrArg (fun table => Table.get? table matchId) (addPlayer_tables hplayer).1
      have hstored := hmatches.symm.trans hrow'
      dsimp only at hstored
      rw [Table.get?_append hnew hrows] at hstored
      by_cases hid : matchId = id
      · subst hid
        exact absurd (Table.mem_keys_of_get? hrow') (hmade _ _ rfl hnew)
      · exact ⟨row', (if_neg hid).symm.trans hstored, rfl⟩
  | joined hjoin =>
      obtain ⟨row, -, rfl | ⟨identity, joinIndex, -, hadd⟩, -⟩ := joinDbMatch_eq_ok hjoin
      · exact ⟨row', hrow', rfl⟩
      · have hmatches := congrArg (fun table => Table.get? table matchId) (addPlayer_tables hadd).1
        exact ⟨row', hmatches.symm.trans hrow', rfl⟩
  | started hstart =>
      obtain ⟨row, -, -, -, rfl, -⟩ := startMatchLobby_eq_ok hstart
      have hlookup := Table.get?_update server.database.matchRows row.id startedMatchRow (fun _ => rfl) matchId
      have hstored := hlookup.symm.trans hrow'
      split at hstored
      · obtain ⟨old, hold, rfl⟩ := Option.map_eq_some_iff.1 hstored
        exact ⟨old, hold, rfl⟩
      · exact ⟨row', hstored, rfl⟩
  | ticked hrecord hactive htick hpersist =>
      rename_i id newId elapsed record advancedTick database
      obtain ⟨stored, hpersisted⟩ := persistAdvancedMatchTick_persisted hpersist
      obtain ⟨tickedRow, hstate, -, hrows⟩ := hpersisted.row_state
      have hstored := (hrows matchId).symm.trans hrow'
      have hother : matchId ≠ stored.id := by
        intro hsame
        have hid : id = matchId := by
          rw [hsame, Table.key_of_get? hpersisted.row_found, (advanceRegistryTick_eq_ok htick).1,
            (hseats.live id record hrecord).1]
        have hoccurs : (server.tick variant id newId elapsed).2.toOption.isSome = true := by
          rw [tick_of_persists hrecord hactive htick hpersist]
          rfl
        exact Bool.noConfusion (h.symm.trans (Bool.and_eq_true_iff.2 ⟨decide_eq_true hid, hoccurs⟩))
      exact ⟨row', (if_neg hother).symm.trans hstored, rfl⟩
  | _ => exact ⟨row', hrow', rfl⟩

theorem Tracked.step {tracked : Server × Option MatchRecord} (h : Tracked hashApiKey matchId tracked)
    (event : ServerEvent) : Tracked hashApiKey matchId (trackStep hashApiKey variant matchId tracked event) where
  seats := h.seats.step event
  treaties := by
    change (serverStep hashApiKey variant tracked.1 event).database.treaties.rows = []
    rw [treaties_serverStep]
    exact h.treaties
  row := by
    intro row hrow
    unfold trackStep
    dsimp only
    cases hpersists : persistsRecord hashApiKey variant matchId tracked.1 event with
    | true => exact state_of_persistsRecord h.seats hpersists hrow
    | false =>
        obtain ⟨old, hold, hstate⟩ := state_of_not_persistsRecord h.seats hpersists hrow
        obtain ⟨persisted, hpersisted, hsame⟩ := h.row old hold
        exact ⟨persisted, hpersisted, hsame.trans hstate⟩

theorem callKeeps_iff {tracked : Server × Option MatchRecord} (h : Tracked hashApiKey matchId tracked)
    (event : ServerEvent) :
    CallKeeps hashApiKey variant matchId tracked event ↔ CallIdle hashApiKey variant matchId tracked event := by
  refine imp_congr_right fun haccepts => forall_congr' fun live => imp_congr_right fun _ => ?_
  obtain ⟨row, record, hrow, hrecord, hreplaced⟩ := replaced_of_acceptsCall h.treaties haccepts
  obtain ⟨persisted, hpersisted, hstate⟩ := h.row row hrow
  rw [← hstate] at hreplaced
  constructor
  · rintro ⟨found, next, hfound, hnext, hkeeps⟩
    obtain rfl := Option.some.inj (hpersisted.symm.trans hfound)
    obtain rfl := Option.some.inj (hrecord.symm.trans hnext)
    exact ⟨persisted, hpersisted, hreplaced.keepsLive_iff.1 hkeeps⟩
  · rintro ⟨found, hfound, hnothing⟩
    obtain rfl := Option.some.inj (hpersisted.symm.trans hfound)
    exact ⟨persisted, record, hpersisted, hrecord, hreplaced.keepsLive_iff.2 hnothing⟩

end Steps

/-- In a run every accepted join and start keeps what has come since the record was persisted exactly when each comes when there is nothing. -/
theorem calls_keep_iff {hashApiKey : String → String} {variant : StorageVariant} {server : Server}
    (hnone : server.HoldsNoMatch) (htreaties : server.database.treaties.rows = []) (matchId : String)
    (events : List ServerEvent) :
    (∀ step ∈ Run.steps (trackStep hashApiKey variant matchId) (server, none) events,
      CallKeeps hashApiKey variant matchId step.1 step.2) ↔
      ∀ step ∈ Run.steps (trackStep hashApiKey variant matchId) (server, none) events,
        CallIdle hashApiKey variant matchId step.1 step.2 := by
  have hstart : Tracked hashApiKey matchId (server, none) := by
    refine ⟨hnone.seatsAll, htreaties, ?_⟩
    intro row hrow
    have hmem := Table.mem_rows_of_get? hrow
    rw [hnone.matchRows] at hmem
    cases hmem
  have htracked : ∀ tracked ∈ Run.states (trackStep hashApiKey variant matchId) (server, none) events,
      Tracked hashApiKey matchId tracked := Run.invariant (fun _ event h => h.step event) hstart events
  exact forall₂_congr fun step hstep => callKeeps_iff (htracked _ (Run.fst_mem_states hstep)) step.2

/-! ### A pair that joins again -/

def guestJoins : ServerEvent := .join guestsAgent deploymentMatchId deploymentMatchId

/-- The second agent joins again before a tick and after it, and nobody plays. -/
def quietPair : List ServerEvent :=
  deployedPair ++ [guestJoins, .tick deploymentMatchId deployedIds 0, guestJoins]

/-- The first agent speaks. -/
def spokenPair : List ServerEvent :=
  deploymentReceives .sqlite (agentKeys ++ pairStarts deploymentMatchId ++
    [.write ownersAgent deploymentMatchId deploymentMatchId (.message ⟨0, .world, none, "Winter is long."⟩)])

structure LiveData where
  orderSubmissions : List OrderEnvelope
  messages : List MatchMessage
  groupChats : List MatchGroupChat
  treaties : List MatchTreaty
  alliances : List MatchAlliance
deriving DecidableEq

def MatchRecord.liveData (record : MatchRecord) : LiveData :=
  ⟨record.orderSubmissions, record.messages, record.groupChats, record.treaties, record.alliances⟩

theorem nothingNew_of_liveData {persisted live : MatchRecord} (h : live.liveData = persisted.liveData) :
    NothingNew persisted live := by
  obtain ⟨horders, hmessages, hchats, htreaties, halliances⟩ :
      live.orderSubmissions = persisted.orderSubmissions ∧ live.messages = persisted.messages ∧
        live.groupChats = persisted.groupChats ∧ live.treaties = persisted.treaties ∧
        live.alliances = persisted.alliances := by simpa [MatchRecord.liveData] using h
  refine ⟨?_, ?_, ?_, ?_, ?_, ?_⟩
  · rw [horders]
  · rw [hmessages]
  · rw [hchats]
  · rw [htreaties]
  · rw [halliances]
    exact (List.sublist_append_right _ _).subperm
  · intro alliance hmem hgone
    rw [halliances] at hgone
    exact absurd hmem hgone

/-- The match is played no further than it was when it was persisted. -/
def unplayed (matchId : String) (tracked : Server × Option MatchRecord) : Bool :=
  decide ((tracked.1.registry.getMatch matchId).map MatchRecord.liveData = tracked.2.map MatchRecord.liveData)

theorem callIdle_of_unplayed {hashApiKey : String → String} {variant : StorageVariant} {matchId : String}
    {tracked : Server × Option MatchRecord} {event : ServerEvent} (h : unplayed matchId tracked = true) :
    CallIdle hashApiKey variant matchId tracked event := by
  intro _ live hlive
  have hsame := of_decide_eq_true h
  rw [hlive, Option.map_some] at hsame
  obtain ⟨persisted, hpersisted, hdata⟩ := Option.map_eq_some_iff.1 hsame.symm
  exact ⟨persisted, hpersisted, nothingNew_of_liveData hdata.symm⟩

theorem calls_keep_quietPair :
    (∀ step ∈ Run.steps (trackStep deploymentHash .sqlite deploymentMatchId) (deployment, none) quietPair,
      CallIdle deploymentHash .sqlite deploymentMatchId step.1 step.2) ∧
    ∀ step ∈ Run.steps (trackStep deploymentHash .sqlite deploymentMatchId) (deployment, none) quietPair,
      CallKeeps deploymentHash .sqlite deploymentMatchId step.1 step.2 := by
  have hunplayed : (Run.steps (trackStep deploymentHash .sqlite deploymentMatchId) (deployment, none) quietPair).all
      (fun step => unplayed deploymentMatchId step.1) = true := by decide +kernel
  have hidle : ∀ step ∈ Run.steps (trackStep deploymentHash .sqlite deploymentMatchId) (deployment, none) quietPair,
      CallIdle deploymentHash .sqlite deploymentMatchId step.1 step.2 :=
    fun step hstep => callIdle_of_unplayed (List.all_eq_true.1 hunplayed step hstep)
  exact ⟨hidle, (calls_keep_iff deployment_holdsNoMatch rfl deploymentMatchId quietPair).2 hidle⟩

/-- A message that came since the record was persisted, and is not there after the call, is lost. -/
theorem not_callKeeps_of_message {hashApiKey : String → String} {variant : StorageVariant} {matchId : String}
    {tracked : Server × Option MatchRecord} {event : ServerEvent}
    (haccepts : acceptsCall hashApiKey variant matchId tracked.1 event = true)
    (hspoken : (tracked.1.registry.getMatch matchId).map (·.messages.length) = some 1)
    (hbefore : tracked.2.map (·.messages) = some [])
    (hafter : ((serverStep hashApiKey variant tracked.1 event).registry.getMatch matchId).map (·.messages) = some []) :
    ¬ CallKeeps hashApiKey variant matchId tracked event := by
  intro hkeeps
  obtain ⟨live, hlive, hone⟩ := Option.map_eq_some_iff.1 hspoken
  obtain ⟨persisted, record, hpersisted, hrecord, hkept⟩ := hkeeps haccepts live hlive
  rw [hpersisted, Option.map_some, Option.some.injEq] at hbefore
  rw [hrecord, Option.map_some, Option.some.injEq] at hafter
  have hlength := hkept.messages.length_le
  rw [hone, hbefore, hafter] at hlength
  exact absurd hlength (by decide)

/-- The second agent's join takes the message away. -/
theorem join_loses_message :
    ¬ ∀ step ∈ Run.steps (trackStep deploymentHash .sqlite deploymentMatchId) (deployment, none)
      (spokenPair ++ [guestJoins]), CallKeeps deploymentHash .sqlite deploymentMatchId step.1 step.2 := by
  have hlast : (spokenPair.foldl (trackStep deploymentHash .sqlite deploymentMatchId) (deployment, none), guestJoins) ∈
      Run.steps (trackStep deploymentHash .sqlite deploymentMatchId) (deployment, none) (spokenPair ++ [guestJoins]) := by
    rw [Run.steps_append]
    exact List.mem_append_right _ List.mem_cons_self
  have hlost : ¬ CallKeeps deploymentHash .sqlite deploymentMatchId
      (spokenPair.foldl (trackStep deploymentHash .sqlite deploymentMatchId) (deployment, none)) guestJoins :=
    not_callKeeps_of_message (by decide +kernel) (by decide +kernel) (by decide +kernel) (by decide +kernel)
  intro h
  have hkeeps := h _ hlast
  dsimp only at hkeeps
  exact hlost hkeeps

end IronCouncil
