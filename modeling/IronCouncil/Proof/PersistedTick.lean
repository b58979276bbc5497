import IronCouncil.Db.TickPersistence
import IronCouncil.Proof.PlayerRows

/-!
# Persisting a tick, row by row

A persisted tick replaces its match's row. When the match completes it also gives each live alliance a row, brings the members' rows in line with the state, and settles the match; the rows of other matches stay as they are.
-/

namespace IronCouncil

/-! ### What a completing tick writes -/

/-- The tables that a player's settlement leaves alone. -/
def Database.matchTables (db : Database) :
    Table MatchRow.id × Table AllianceRow.id × Table PlayerRow.id × Table MatchSettlementRow.matchId ×
      Table TreatyRow.id :=
  (db.matchRows, db.alliances, db.players, db.matchSettlements, db.treaties)

theorem matchTables_settlePlayer {outcome : MatchOutcome} {db db' : Database} {player : PlayerRow}
    (h : settlePlayer outcome db player = .ok db') : db'.matchTables = db.matchTables := by
  obtain ⟨playerMatchSettlements, -, rfl⟩ := settlePlayer_eq_ok h
  unfold recordKeyElo
  split
  · rfl
  · rfl

/-- Settling writes at most one row that is not a player's: the settlement of the match, if it has completed. -/
theorem matchTables_settleCompletedMatchIfNeeded {variant : StorageVariant} {settledAt : Nat}
    {committed db db' : Database} {matchRow : MatchRow}
    (h : settleCompletedMatchIfNeeded variant settledAt committed db matchRow = .ok db') :
    ∃ matchSettlements, db'.matchTables = { db with matchSettlements }.matchTables ∧
      (matchSettlements = db.matchSettlements ∨
        (matchRow.status = .completed ∧
          matchSettlements.rows = db.matchSettlements.rows ++ [⟨matchRow.id, settledAt⟩])) := by
  rcases settleCompletedMatchIfNeeded_eq_ok h with ⟨rfl, -⟩ | ⟨hstatus, hsettle⟩
  · exact ⟨_, rfl, Or.inl rfl⟩
  · obtain ⟨matchSettlements, outcome, -, -, hadd, hplayers⟩ := settleMatch_eq_ok hsettle
    refine ⟨matchSettlements, ?_, Or.inr ⟨hstatus, (sessionAdd_eq_ok hadd).2⟩⟩
    exact Run.invariant_foldlM
      (I := fun settled => settled.matchTables = { db with matchSettlements }.matchTables)
      (fun settled player settled' hstep hkept => (matchTables_settlePlayer hstep).trans hkept) hplayers rfl

/-- Each alliance row is of the match, or of a match that had one before. -/
def AlliancesWithin (matchId : String) (alliances alliances' : Table AllianceRow.id) : Prop :=
  ∀ alliance' ∈ alliances'.rows, alliance'.matchId = matchId ∨
    ∃ alliance ∈ alliances.rows, alliance.matchId = alliance'.matchId

theorem alliancesWithin_update {matchId : String} {alliances alliances' : Table AllianceRow.id}
    (h : AlliancesWithin matchId alliances alliances') (id : String) {f : AllianceRow → AllianceRow}
    (hid : ∀ row, (f row).id = row.id) (hmatch : ∀ row, (f row).matchId = row.matchId) :
    AlliancesWithin matchId alliances (alliances'.update id f hid) := by
  intro alliance' hmem
  obtain ⟨row, hrow, rfl⟩ := Table.mem_update hid hmem
  have hkept : (if row.id = id then f row else row).matchId = row.matchId := by
    split
    · exact hmatch row
    · rfl
  rw [hkept]
  exact h row hrow

theorem alliancesWithin_syncAlliance {matchId : String} {newId : Nat → String}
    {playersByCanonical : OrdDict String PlayerRow} {activeAlliancesByMembers : OrdDict (List String) AllianceRow}
    {sync sync' : AllianceSync} {alliance : MatchAlliance} {alliances : Table AllianceRow.id}
    (hstep : syncAlliance matchId newId playersByCanonical activeAlliancesByMembers sync alliance = .ok sync')
    (h : AlliancesWithin matchId alliances sync.alliances) : AlliancesWithin matchId alliances sync'.alliances := by
  unfold syncAlliance at hstep
  split at hstep
  · cases hstep
  · split at hstep
    · cases hstep
    · rename_i leaderId _
      dsimp only at hstep
      split at hstep
      · cases hstep
        exact alliancesWithin_update (f := writeAlliance alliance leaderId) h _ (fun _ => rfl) fun _ => rfl
      · split at hstep
        · cases hstep
        · rename_i added hadd
          cases hstep
          intro alliance' hmem
          change alliance' ∈ added.rows at hmem
          rw [(sessionAdd_eq_ok hadd).2] at hmem
          rcases List.mem_append.1 hmem with hmem | hmem
          · exact h alliance' hmem
          · rw [List.mem_singleton.1 hmem]
            exact Or.inl rfl

/-- A tick that does not end the match leaves the alliance rows and the memberships alone. -/
theorem syncTerminalAllianceRows_within {matchId : String} {newId : Nat → String} {db synced : Database}
    {advancedTick : AdvancedMatchTick} {ids : OrdDict String String}
    (h : syncTerminalAllianceRows matchId newId db advancedTick = .ok (synced, ids)) :
    (isTerminalVictoryTick advancedTick = false → synced = db) ∧
      AlliancesWithin matchId db.alliances synced.alliances := by
  have hrefl : AlliancesWithin matchId db.alliances db.alliances := fun alliance hmem => Or.inr ⟨alliance, hmem, rfl⟩
  unfold syncTerminalAllianceRows at h
  split at h
  · cases h
    exact ⟨fun _ => rfl, hrefl⟩
  · rename_i hwinner
    have hterminal : isTerminalVictoryTick advancedTick = true := Option.isSome_iff_ne_none.2 hwinner
    refine ⟨fun hnot => ?_, ?_⟩
    · rw [hterminal] at hnot
      cases hnot
    · dsimp only at h
      split at h
      · cases h
      · rename_i sync hsync
        split at h
        · cases h
        · cases h
          apply Run.invariant_foldl (I := fun alliances => AlliancesWithin matchId db.alliances alliances)
          · intro alliances row hkept
            split
            · exact hkept
            · exact alliancesWithin_update (f := dissolveAlliance advancedTick.resolvedTick) hkept _ (fun _ => rfl)
                fun _ => rfl
          · exact Run.invariant_foldlM (I := fun sync => AlliancesWithin matchId db.alliances sync.alliances)
              (fun _ _ _ hstep hkept => alliancesWithin_syncAlliance hstep hkept) hsync hrefl

/-! ### Members -/

theorem exists_enrolled {players players' : Table PlayerRow.id}
    (h : players'.rows.map PlayerRow.enrolment = players.rows.map PlayerRow.enrolment) {player : PlayerRow}
    (hplayer : player ∈ players.rows) : ∃ player' ∈ players'.rows, player'.enrolment = player.enrolment :=
  List.mem_map.1 (h ▸ List.mem_map_of_mem hplayer)

theorem matchId_of_enrolment {player player' : PlayerRow} (h : player'.enrolment = player.enrolment) :
    player'.matchId = player.matchId := by
  have hmatch := congrArg PlayerRow.matchId h
  exact hmatch

theorem id_of_enrolment {player player' : PlayerRow} (h : player'.enrolment = player.enrolment) :
    player'.id = player.id := by
  have hid := congrArg PlayerRow.id h
  exact hid

section Memberships

variable {playersByCanonical : OrdDict String PlayerRow} {ids : OrdDict String String}
  {joinedTicks : OrdDict (String × String) Nat}

/-- The alliance row that the terminal state gives a player. -/
def persistedAllianceId (ids : OrdDict String String) (playerState : PlayerState) : Option String :=
  playerState.allianceId.bind ids.get?

/-- A player's row takes over its alliance, if the player has a row. An alliance without a row raises. -/
theorem syncMembership_eq_ok {players players' : Table PlayerRow.id} {entry : String × PlayerState}
    (h : syncMembership playersByCanonical ids joinedTicks players entry = .ok players') :
    (playersByCanonical.get? entry.1 = none ∧ players' = players) ∨
      ∃ player joinedTick, playersByCanonical.get? entry.1 = some player ∧
        (entry.2.allianceId ≠ none → persistedAllianceId ids entry.2 ≠ none) ∧
        ∀ id, players'.get? id = if id = player.id then
          (players.get? id).map (writeMembership (persistedAllianceId ids entry.2) joinedTick) else players.get? id := by
  unfold syncMembership at h
  split at h
  · rename_i hnone
    cases h
    exact Or.inl ⟨hnone, rfl⟩
  · rename_i player hplayer halliance
    cases h
    have hrow : persistedAllianceId ids entry.2 = none := by
      unfold persistedAllianceId
      rw [halliance, Option.bind_none]
    rw [hrow]
    exact Or.inr ⟨player, none, hplayer, absurd halliance, Table.get?_update _ _ _ _⟩
  · rename_i player allianceId hplayer halliance
    split at h
    · cases h
    · rename_i rowId hrowId
      split at h
      · cases h
      · rename_i joinedTick hjoined
        cases h
        have hrow : persistedAllianceId ids entry.2 = some rowId := by
          unfold persistedAllianceId
          rw [halliance, Option.bind_some, hrowId]
        rw [hrow]
        exact Or.inr ⟨player, some joinedTick, hplayer, fun _ => Option.some_ne_none rowId, Table.get?_update _ _ _ _⟩

/-- A row that no entry goes with stays as it is. -/
theorem get?_syncMemberships_of_ne {entries : List (String × PlayerState)} {players players' : Table PlayerRow.id}
    (h : entries.foldlM (syncMembership playersByCanonical ids joinedTicks) players = .ok players') {id : String}
    (hne : ∀ entry ∈ entries, ∀ player, playersByCanonical.get? entry.1 = some player → player.id ≠ id) :
    players'.get? id = players.get? id := by
  refine Run.invariant_foldlM_of_admitted (C := fun entry : String × PlayerState =>
    ∀ player, playersByCanonical.get? entry.1 = some player → player.id ≠ id)
    (I := fun table : Table PlayerRow.id => table.get? id = players.get? id) ?_ hne h rfl
  intro before entry after hentry hstep hbefore
  rcases syncMembership_eq_ok hstep with ⟨-, rfl⟩ | ⟨player, joinedTick, hplayer, -, hget⟩
  · exact hbefore
  · rw [hget, if_neg (Ne.symm (hentry player hplayer))]
    exact hbefore

/-- Entries that go with rows of their own each write their row. -/
theorem get?_syncMemberships {entries : List (String × PlayerState)} (hkeys : (entries.map Prod.fst).Nodup)
    (hapart : ∀ first second player player', playersByCanonical.get? first = some player →
      playersByCanonical.get? second = some player' → player.id = player'.id → first = second)
    {players players' : Table PlayerRow.id}
    (h : entries.foldlM (syncMembership playersByCanonical ids joinedTicks) players = .ok players')
    {canonical : String} {playerState : PlayerState} (hentry : (canonical, playerState) ∈ entries) {player : PlayerRow}
    (hplayer : playersByCanonical.get? canonical = some player) :
    (playerState.allianceId ≠ none → persistedAllianceId ids playerState ≠ none) ∧
      ∃ joinedTick, players'.get? player.id =
        (players.get? player.id).map (writeMembership (persistedAllianceId ids playerState) joinedTick) := by
  induction entries generalizing players with
  | nil => cases hentry
  | cons entry entries ih =>
      obtain ⟨next, hfirst, hrest⟩ := Run.foldlM_cons_eq_ok h
      obtain ⟨hfresh, hkeys⟩ := List.nodup_cons.1 hkeys
      have hother : ∀ other ∈ entries, other.1 ≠ entry.1 := by
        intro other hmem hsame
        exact hfresh (List.mem_map.2 ⟨other, hmem, hsame⟩)
      have hwritten := syncMembership_eq_ok hfirst
      rcases List.mem_cons.1 hentry with hhead | hentry
      · subst hhead
        have hkept : players'.get? player.id = next.get? player.id := by
          apply get?_syncMemberships_of_ne hrest
          intro other hmem player' hplayer' hid
          exact hother other hmem (hapart other.1 canonical player' player hplayer' hplayer hid)
        rcases hwritten with ⟨hnone, -⟩ | ⟨found, joinedTick, hfound, hrow, hget⟩
        · rw [hplayer] at hnone
          cases hnone
        · obtain rfl := Option.some.inj (hplayer.symm.trans hfound)
          refine ⟨hrow, joinedTick, ?_⟩
          rw [hkept, hget, if_pos rfl]
      · have hkept : next.get? player.id = players.get? player.id := by
          rcases hwritten with ⟨-, rfl⟩ | ⟨found, joinedTick, hfound, -, hget⟩
          · rfl
          · rw [hget, if_neg]
            intro hid
            exact hother _ hentry (hapart canonical entry.1 player found hplayer hfound hid)
        rw [← hkept]
        exact ih hkeys hrest hentry

end Memberships

/-! ### Alliances -/

/-- The live alliances' rows so far: each of the match, under an id of its own that has been drawn. -/
structure AlliancesWritten (matchId : String) (newId : Nat → String) (sync : AllianceSync) : Prop where
  row : ∀ canonical rowId, sync.persistedAllianceIdsByCanonical.get? canonical = some rowId →
    (∃ n < sync.drawn, rowId = newId n) ∧ ∃ alliance, sync.alliances.get? rowId = some alliance ∧ alliance.matchId = matchId
  apart : ∀ first second rowId, sync.persistedAllianceIdsByCanonical.get? first = some rowId →
    sync.persistedAllianceIdsByCanonical.get? second = some rowId → first = second

section Alliances

variable {matchId : String} {newId : Nat → String} {playersByCanonical : OrdDict String PlayerRow}
  {sync sync' : AllianceSync} {alliance : MatchAlliance}

/-- Where no row is active an alliance gets a new one. -/
theorem syncAlliance_eq_ok (h : syncAlliance matchId newId playersByCanonical OrdDict.empty sync alliance = .ok sync') :
    ∃ row, row.id = newId sync.drawn ∧ row.matchId = matchId ∧ row.id ∉ sync.alliances.keys ∧
      sync'.alliances.rows = sync.alliances.rows ++ [row] ∧
      sync'.persistedAllianceIdsByCanonical = sync.persistedAllianceIdsByCanonical.insert alliance.allianceId row.id ∧
      sync'.drawn = sync.drawn + 1 := by
  unfold syncAlliance at h
  split at h
  · cases h
  · split at h
    · cases h
    · dsimp only at h
      rw [OrdDict.get?_empty] at h
      dsimp only at h
      split at h
      · cases h
      · rename_i hadd
        cases h
        obtain ⟨hfresh, hrows⟩ := sessionAdd_eq_ok hadd
        exact ⟨_, rfl, rfl, hfresh, hrows, rfl, rfl⟩

theorem AlliancesWritten.syncAlliance (h : AlliancesWritten matchId newId sync)
    (hstep : syncAlliance matchId newId playersByCanonical OrdDict.empty sync alliance = .ok sync') :
    AlliancesWritten matchId newId sync' := by
  obtain ⟨row, hid, hmatch, hfresh, hrows, hids, hdrawn⟩ := syncAlliance_eq_ok hstep
  have hget := Table.get?_append hfresh hrows
  have hother : ∀ canonical, sync.persistedAllianceIdsByCanonical.get? canonical ≠ some row.id := by
    intro canonical hcanonical
    obtain ⟨-, found, hfound, -⟩ := h.row canonical row.id hcanonical
    rw [Table.get?_eq_none.2 hfresh] at hfound
    cases hfound
  refine ⟨?_, ?_⟩
  · intro canonical rowId hcanonical
    rw [hids, OrdDict.get?_insert] at hcanonical
    rw [hget]
    split at hcanonical
    · cases hcanonical
      exact ⟨⟨sync.drawn, by omega, hid⟩, row, if_pos rfl, hmatch⟩
    · have hne : rowId ≠ row.id := by
        rintro rfl
        exact hother canonical hcanonical
      rw [if_neg hne]
      obtain ⟨⟨n, hn, hrowId⟩, hfound⟩ := h.row canonical rowId hcanonical
      exact ⟨⟨n, by omega, hrowId⟩, hfound⟩
  · intro first second rowId hfirst hsecond
    rw [hids, OrdDict.get?_insert] at hfirst hsecond
    split at hfirst
    · rename_i hsame
      cases hfirst
      split at hsecond
      · rename_i hsame'
        exact hsame.trans hsame'.symm
      · exact absurd hsecond (hother second)
    · split at hsecond
      · cases hsecond
        exact absurd hfirst (hother first)
      · exact h.apart first second rowId hfirst hsecond

theorem keys_syncAlliances {alliances : List MatchAlliance}
    (h : alliances.foldlM (syncAlliance matchId newId playersByCanonical OrdDict.empty) sync = .ok sync')
    (canonical : String) : canonical ∈ sync'.persistedAllianceIdsByCanonical.keys ↔
      canonical ∈ sync.persistedAllianceIdsByCanonical.keys ∨ canonical ∈ alliances.map (·.allianceId) := by
  induction alliances generalizing sync with
  | nil =>
      cases h
      simp
  | cons alliance alliances ih =>
      obtain ⟨next, hfirst, hrest⟩ := Run.foldlM_cons_eq_ok h
      obtain ⟨row, -, -, -, -, hids, -⟩ := syncAlliance_eq_ok hfirst
      rw [ih hrest, hids, OrdDict.mem_keys_insert, List.map_cons, List.mem_cons]
      tauto

theorem drawn_syncAlliances {alliances : List MatchAlliance}
    (h : alliances.foldlM (syncAlliance matchId newId playersByCanonical OrdDict.empty) sync = .ok sync') :
    sync'.drawn = sync.drawn + alliances.length := by
  induction alliances generalizing sync with
  | nil =>
      cases h
      rfl
  | cons alliance alliances ih =>
      obtain ⟨next, hfirst, hrest⟩ := Run.foldlM_cons_eq_ok h
      obtain ⟨row, -, -, -, -, -, hdrawn⟩ := syncAlliance_eq_ok hfirst
      rw [ih hrest, hdrawn, List.length_cons]
      omega

end Alliances

/-- What a terminal tick makes of the rows of a match that has none of its alliances written yet. -/
structure TerminalRows (matchId : String) (newId : Nat → String) (db synced : Database)
    (advancedTick : AdvancedMatchTick) (ids : OrdDict String String) : Prop where
  keys : ∀ canonical, canonical ∈ ids.keys ↔ canonical ∈ advancedTick.alliances.map (·.allianceId)
  row : ∀ canonical rowId, ids.get? canonical = some rowId →
    (∃ n < advancedTick.alliances.length, rowId = newId n) ∧ ∃ alliance, synced.alliances.get? rowId = some alliance ∧ alliance.matchId = matchId
  apart : ∀ first second rowId, ids.get? first = some rowId → ids.get? second = some rowId → first = second
  member : ∀ player ∈ db.playersOfMatch matchId, ∀ canonical playerState,
    (persistedPlayerMapping advancedTick.nextState (db.playersOfMatch matchId)).get? player.id = some canonical →
    advancedTick.nextState.players.get? canonical = some playerState →
    (playerState.allianceId ≠ none → persistedAllianceId ids playerState ≠ none) ∧
      ∃ joinedTick, synced.players.get? player.id =
        some (writeMembership (persistedAllianceId ids playerState) joinedTick player)
  other : ∀ id, (persistedPlayerMapping advancedTick.nextState (db.playersOfMatch matchId)).get? id = none →
    synced.players.get? id = db.players.get? id

theorem playersByCanonical_eq_some {state : MatchState} {players : List PlayerRow} {canonical : String}
    {player : PlayerRow} (h : (persistedPlayersByCanonical state players).get? canonical = some player) :
    player ∈ players ∧ (persistedPlayerMapping state players).get? player.id = some canonical := by
  obtain ⟨mapped, hmapped, heq⟩ := List.mem_map.1 (OrdDict.mem_of_get?_ofList h)
  obtain ⟨found, hfound, hfoundCanonical⟩ := List.mem_filterMap.1 hmapped
  obtain ⟨foundCanonical, hcanonical, rfl⟩ := Option.map_eq_some_iff.1 hfoundCanonical
  cases heq
  exact ⟨hfound, hcanonical⟩

theorem playersByCanonical_of_mapped {matchId : String} {state : MatchState} {players : List PlayerRow}
    (hrows : ScopedRows matchId players) {canonical : String} {player : PlayerRow} (hplayer : player ∈ players)
    (h : (persistedPlayerMapping state players).get? player.id = some canonical) :
    (persistedPlayersByCanonical state players).get? canonical = some player := by
  have hkey : canonical ∈ (persistedPlayersByCanonical state players).keys := by
    refine OrdDict.mem_keys_ofList.2 (List.mem_map.2 ⟨(canonical, player), List.mem_map.2 ⟨(player, canonical), ?_, rfl⟩, rfl⟩)
    refine List.mem_filterMap.2 ⟨player, hplayer, ?_⟩
    rw [h, Option.map_some]
  obtain ⟨found, hfound⟩ := OrdDict.mem_keys.1 hkey
  obtain ⟨hmem, hmapped⟩ := playersByCanonical_eq_some hfound
  obtain ⟨first, hfirst, hfirstId, hfirstCanonical⟩ := (get?_buildPersistedPlayerMapping hrows _ _).1 h
  obtain ⟨second, hsecond, hsecondId, hsecondCanonical⟩ := (get?_buildPersistedPlayerMapping hrows _ _).1 hmapped
  have hsame := eq_of_canonicalPlayerId hrows.numbered hfirst hsecond hfirstCanonical hsecondCanonical
  rw [hfirstId, hsecondId] at hsame
  rw [hfound, List.inj_on_of_nodup_map hrows.distinct hmem hplayer hsame.symm]

theorem playersByCanonical_apart {state : MatchState} {players : List PlayerRow} (first second : String)
    (player player' : PlayerRow) (h : (persistedPlayersByCanonical state players).get? first = some player)
    (h' : (persistedPlayersByCanonical state players).get? second = some player') (hid : player.id = player'.id) :
    first = second := by
  have hmapped := (playersByCanonical_eq_some h).2
  rw [hid, (playersByCanonical_eq_some h').2] at hmapped
  exact (Option.some.inj hmapped).symm

section Synced

variable {matchId : String} {newId : Nat → String} {db synced : Database} {advancedTick : AdvancedMatchTick}
  {ids : OrdDict String String}

/-- A terminal tick writes the live alliances and then the memberships. -/
theorem syncTerminalAllianceRows_loops (h : syncTerminalAllianceRows matchId newId db advancedTick = .ok (synced, ids))
    (hterminal : isTerminalVictoryTick advancedTick = true) :
    ∃ activeAlliances sync joinedTicks,
      (activeAlliances = (db.alliances.rows.filter fun row => row.matchId = matchId ∧ row.dissolvedTick = none).insertionSort
        fun first second => first.id ≤ second.id) ∧
      advancedTick.alliances.foldlM (syncAlliance matchId newId
          (persistedPlayersByCanonical advancedTick.nextState (db.playersOfMatch matchId))
          (OrdDict.ofList <| activeAlliances.map fun row =>
            (persistedMemberIdsForAlliance (db.playersOfMatch matchId) row.id, row)))
        ⟨db.alliances, OrdDict.empty, [], 0⟩ = .ok sync ∧
      ids = sync.persistedAllianceIdsByCanonical ∧
      advancedTick.nextState.players.entries.foldlM (syncMembership
          (persistedPlayersByCanonical advancedTick.nextState (db.playersOfMatch matchId)) ids joinedTicks) db.players =
        .ok synced.players ∧
      (activeAlliances = [] → synced.alliances = sync.alliances) := by
  unfold syncTerminalAllianceRows at h
  rw [if_neg (Option.isSome_iff_ne_none.1 hterminal)] at h
  dsimp only at h
  split at h
  · cases h
  · rename_i sync hsync
    split at h
    · cases h
    · rename_i hplayers
      cases h
      refine ⟨_, sync, _, rfl, hsync, rfl, hplayers, fun hnone => ?_⟩
      dsimp only
      rw [hnone]
      rfl

/-- The rows of other matches' players stay as they are. -/
theorem players_syncTerminalAllianceRows
    (h : syncTerminalAllianceRows matchId newId db advancedTick = .ok (synced, ids)) :
    ∀ player' ∈ synced.players.rows, player' ∈ db.players.rows ∨ player'.matchId = matchId := by
  intro player' hplayer'
  by_cases hterminal : isTerminalVictoryTick advancedTick = true
  · obtain ⟨alliances, players, hsynced, henrolments⟩ := syncTerminalAllianceRows_eq_ok h
    obtain ⟨-, sync, joinedTicks, -, -, -, hloop, -⟩ := syncTerminalAllianceRows_loops h hterminal
    subst hsynced
    obtain ⟨player, hplayer, hsame⟩ := List.mem_map.1 (henrolments ▸ List.mem_map_of_mem hplayer')
    have hid : player.id = player'.id := id_of_enrolment hsame
    have hmatch : player.matchId = player'.matchId := matchId_of_enrolment hsame
    by_cases hours : player.matchId = matchId
    · exact Or.inr (hmatch.symm.trans hours)
    · have hkept : players.get? player'.id = db.players.get? player'.id := by
        apply get?_syncMemberships_of_ne hloop
        intro entry _ found hfound hfoundId
        obtain ⟨hmem, -⟩ := playersByCanonical_eq_some hfound
        obtain ⟨hfoundRow, hfoundMatch⟩ := Database.mem_playersOfMatch.1 hmem
        have heq := Table.eq_of_key hfoundRow hplayer (hfoundId.trans hid.symm)
        exact hours (heq ▸ hfoundMatch)
      have hget : players.get? player'.id = some player' := Table.get?_eq_some.2 ⟨hplayer', rfl⟩
      rw [hkept] at hget
      exact Or.inl (Table.mem_rows_of_get? hget)
  · have hsame := (syncTerminalAllianceRows_within h).1 (by simpa using hterminal)
    rw [hsame] at hplayer'
    exact Or.inl hplayer'

theorem terminalRows_of_sync (h : syncTerminalAllianceRows matchId newId db advancedTick = .ok (synced, ids))
    (hterminal : isTerminalVictoryTick advancedTick = true) (hrows : ScopedRows matchId (db.playersOfMatch matchId))
    (hnone : ∀ alliance ∈ db.alliances.rows, alliance.matchId ≠ matchId) :
    TerminalRows matchId newId db synced advancedTick ids := by
  obtain ⟨activeAlliances, sync, joinedTicks, hactive, hsync, rfl, hloop, halliances⟩ :=
    syncTerminalAllianceRows_loops h hterminal
  obtain rfl : activeAlliances = [] := by
    rw [hactive, List.filter_eq_nil_iff.2, List.insertionSort_nil]
    intro alliance hmem
    simp [hnone alliance hmem]
  have hwritten : AlliancesWritten matchId newId sync := by
    refine Run.invariant_foldlM (I := AlliancesWritten matchId newId)
      (fun _ _ _ hstep hkept => hkept.syncAlliance hstep) hsync ⟨?_, ?_⟩
    · intro canonical rowId hrow
      rw [OrdDict.get?_empty] at hrow
      cases hrow
    · intro first second rowId hfirst
      rw [OrdDict.get?_empty] at hfirst
      cases hfirst
  refine ⟨?_, ?_, hwritten.apart, ?_, ?_⟩
  · intro canonical
    rw [keys_syncAlliances hsync]
    simp
  · have hdrawn : sync.drawn = advancedTick.alliances.length := (drawn_syncAlliances hsync).trans (Nat.zero_add _)
    rw [halliances rfl, ← hdrawn]
    exact hwritten.row
  · intro player hplayer canonical playerState hmapped hstate
    have hentry := OrdDict.get?_eq_some.1 hstate
    have hstored : db.players.get? player.id = some player :=
      Table.get?_eq_some.2 ⟨(Database.mem_playersOfMatch.1 hplayer).1, rfl⟩
    obtain ⟨hrow, joinedTick, hget⟩ := get?_syncMemberships (OrdDict.keys_nodup _) playersByCanonical_apart hloop hentry
      (playersByCanonical_of_mapped hrows hplayer hmapped)
    refine ⟨hrow, joinedTick, ?_⟩
    rw [hget, hstored, Option.map_some]
  · intro id hunmapped
    apply get?_syncMemberships_of_ne hloop
    intro entry _ player hplayer hid
    have hmapped := (playersByCanonical_eq_some hplayer).2
    rw [hid, hunmapped] at hmapped
    cases hmapped

end Synced

theorem get?_writeMatchRow (db : Database) (matchRow : MatchRow) (matchId : String) :
    (writeMatchRow db matchRow).matchRows.get? matchId =
      if matchId = matchRow.id then (db.matchRows.get? matchId).map fun row => { matchRow with id := row.id }
      else db.matchRows.get? matchId :=
  Table.get?_update db.matchRows matchRow.id (fun row => { matchRow with id := row.id }) (fun _ => rfl) matchId

/-- What a persisted tick has done to the rows of the matches. -/
structure TickPersisted (db db' : Database) (advancedTick : AdvancedMatchTick) (row : MatchRow) : Prop where
  row_found : db.matchRows.get? advancedTick.matchId = some row
  row_state : ∃ row', row'.state = advancedTick.nextState ∧
    row'.status = (if isTerminalVictoryTick advancedTick then .completed else row.status) ∧
    ∀ matchId, db'.matchRows.get? matchId = if matchId = row.id then some row' else db.matchRows.get? matchId
  tables_kept : isTerminalVictoryTick advancedTick = false →
    db'.alliances = db.alliances ∧ db'.players = db.players
  alliances_within : AlliancesWithin row.id db.alliances db'.alliances
  enrolments_kept : db'.players.rows.map PlayerRow.enrolment = db.players.rows.map PlayerRow.enrolment
  players_within : ∀ player' ∈ db'.players.rows, player' ∈ db.players.rows ∨ player'.matchId = row.id
  settlements_within : ∀ settlement ∈ db'.matchSettlements.rows, settlement ∈ db.matchSettlements.rows ∨
    (settlement.matchId = row.id ∧
      (if isTerminalVictoryTick advancedTick then MatchStatus.completed else row.status) = .completed)

theorem persistAdvancedMatchTick_persisted {variant : StorageVariant} {newId : Nat → String} {settledAt : Nat}
    {db db' : Database} {advancedTick : AdvancedMatchTick}
    (h : persistAdvancedMatchTick variant newId settledAt db advancedTick = .ok db') :
    ∃ row, TickPersisted db db' advancedTick row := by
  obtain ⟨row, synced, ids, winnerAlliance, settled, hrow, hsync, -, hsettle, rfl⟩ := persistAdvancedMatchTick_eq_ok h
  obtain ⟨hkept, hwithin⟩ := syncTerminalAllianceRows_within hsync
  have hplayersWithin := players_syncTerminalAllianceRows hsync
  obtain ⟨alliances, players, rfl, henrolments⟩ := syncTerminalAllianceRows_eq_ok hsync
  obtain ⟨matchSettlements, htables, hsettlements⟩ := matchTables_settleCompletedMatchIfNeeded hsettle
  have hmatchRows : settled.matchRows = _ := congrArg Prod.fst htables
  have halliances := congrArg (fun tables => tables.2.1) htables
  have hplayers := congrArg (fun tables => tables.2.2.1) htables
  have hmatchSettlements := congrArg (fun tables => tables.2.2.2.1) htables
  refine ⟨row, hrow, ⟨writeWinner winnerAlliance (tickedMatchRow advancedTick row), rfl, rfl, ?_⟩, ?_, ?_, ?_, ?_, ?_⟩
  · intro matchId
    change settled.matchRows.get? matchId = _
    rw [hmatchRows]
    change (writeMatchRow _ _).matchRows.get? matchId = _
    rw [get?_writeMatchRow]
    change (if matchId = row.id then _ else db.matchRows.get? matchId) = _
    split
    · rename_i hid
      have hfound : db.matchRows.get? matchId = some row := by rw [hid, Table.key_of_get? hrow, hrow]
      change (db.matchRows.get? matchId).map _ = _
      rw [hfound]
      rfl
    · rfl
  · intro hopen
    have hdb := hkept hopen
    have halliances' : alliances = db.alliances := congrArg Database.alliances hdb
    have hplayers' : players = db.players := congrArg Database.players hdb
    exact ⟨halliances.trans halliances', hplayers.trans hplayers'⟩
  · change AlliancesWithin row.id db.alliances settled.alliances
    rw [show settled.alliances = alliances from halliances]
    exact hwithin
  · change settled.players.rows.map _ = _
    rw [show settled.players = players from hplayers]
    exact henrolments
  · intro player' hplayer'
    change player' ∈ settled.players.rows at hplayer'
    rw [show settled.players = players from hplayers] at hplayer'
    exact hplayersWithin player' hplayer'
  · intro settlement hmem
    change settlement ∈ settled.matchSettlements.rows at hmem
    rw [show settled.matchSettlements = matchSettlements from hmatchSettlements] at hmem
    rcases hsettlements with rfl | ⟨hstatus, hrows⟩
    · exact Or.inl hmem
    · rw [hrows] at hmem
      rcases List.mem_append.1 hmem with hmem | hmem
      · exact Or.inl hmem
      · exact Or.inr ⟨congrArg MatchSettlementRow.matchId (List.mem_singleton.1 hmem), hstatus⟩

end IronCouncil
