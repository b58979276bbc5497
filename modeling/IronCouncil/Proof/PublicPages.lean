import IronCouncil.Db.PublicReads
import IronCouncil.Proof.LeaderboardProfiles
import IronCouncil.Proof.MatchLog
import IronCouncil.Proof.RatingRuns

/-!
# The lists of matches

A match is on the list of open matches or on the list of completed ones, and on one of them once. An open match's detail says of it what the list says, and its roster has all its players; it is served as long as the stored state passes its field checks. A completed match is listed with the winners it was settled with.
-/

namespace IronCouncil

/-! ### The lists -/

section Lists

variable (hashApiKey casefold : String → String) (updatedAt : String → Nat) (db : Database)

theorem publicPlayersOfMatch_perm (matchId : String) : (publicPlayersOfMatch db matchId).Perm (db.playersOfMatch matchId) :=
  (List.perm_insertionSort _ _).trans (List.perm_insertionSort _ _).symm

theorem mem_getPublicMatchSummaries {summary : MatchSummary} : summary ∈ getPublicMatchSummaries updatedAt db ↔
    ∃ row ∈ db.matchRows.rows, row.status ≠ .completed ∧
      buildPublicMatchSummary row (db.playersOfMatch row.id).length = summary := by
  have hlength : ∀ matchId, (db.players.rows.filter fun player => player.matchId = matchId).length =
      (db.playersOfMatch matchId).length := fun matchId => (List.perm_insertionSort _ _).length_eq.symm
  unfold getPublicMatchSummaries
  simp only [List.mem_map, List.mem_insertionSort, List.mem_filter, decide_eq_true_eq, hlength, and_assoc]

/-- Every match is on one of the two lists, and on it once. -/
theorem listed_perm : ((getPublicMatchSummaries updatedAt db).map (·.matchId) ++
    (getCompletedMatchSummaries hashApiKey casefold updatedAt db).map (·.matchId)).Perm db.matchRows.keys := by
  have hopen : ((getPublicMatchSummaries updatedAt db).map (·.matchId)).Perm
      ((db.matchRows.rows.filter fun row => row.status ≠ .completed).map (·.id)) := by
    unfold getPublicMatchSummaries
    rw [List.map_map]
    exact ((List.perm_insertionSort _ _).trans (List.perm_insertionSort _ _)).map _
  have hcompleted : ((getCompletedMatchSummaries hashApiKey casefold updatedAt db).map (·.matchId)).Perm
      ((db.matchRows.rows.filter fun row => row.status = .completed).map (·.id)) := by
    unfold getCompletedMatchSummaries
    rw [List.map_map]
    exact (List.perm_insertionSort _ _).map _
  refine (hopen.append hcompleted).trans ?_
  rw [← List.map_append]
  refine List.Perm.map _ ?_
  have hsplit := List.filter_append_perm (fun row : MatchRow => decide (row.status ≠ .completed)) db.matchRows.rows
  simpa using hsplit

/-- What the list of open matches is ordered by: the negated times and ticks put the later ones first. -/
def browseKey (row : MatchRow) : Nat ×ₗ Int ×ₗ Int ×ₗ String :=
  toLex (publicStatusPriority row.status, toLex (-(updatedAt row.id : Int), toLex (-(row.currentTick : Int), row.id)))

theorem publicMatchBrowseOrder_isLE_iff (first second : MatchRow) :
    (publicMatchBrowseOrder updatedAt first second).isLE ↔ browseKey updatedAt first ≤ browseKey updatedAt second := by
  unfold publicMatchBrowseOrder browseKey
  simp only [isLE_then_compare, isLE_compare_iff, Prod.Lex.toLex_le_toLex, Int.neg_lt_neg_iff, Int.neg_inj, Int.ofNat_lt,
    Int.ofNat_inj, eq_comm (a := updatedAt second.id), eq_comm (a := second.currentTick)]

/-- Lobbies come first, then the matches that run, and of one status the one updated last. -/
theorem pairwise_getPublicMatchSummaries : (getPublicMatchSummaries updatedAt db).Pairwise fun first second =>
    publicStatusPriority first.status < publicStatusPriority second.status ∨
      publicStatusPriority first.status = publicStatusPriority second.status ∧
        updatedAt second.matchId ≤ updatedAt first.matchId := by
  unfold getPublicMatchSummaries
  simp only [publicMatchBrowseOrder_isLE_iff]
  refine List.Pairwise.map _ (fun first second hle => ?_) (pairwise_key_insertionSort (g := browseKey updatedAt) _)
  unfold browseKey at hle
  change publicStatusPriority first.status < publicStatusPriority second.status ∨
    publicStatusPriority first.status = publicStatusPriority second.status ∧ updatedAt second.id ≤ updatedAt first.id
  rcases Prod.Lex.toLex_le_toLex.1 hle with hless | ⟨hsame, hrest⟩
  · exact Or.inl hless
  · refine Or.inr ⟨hsame, ?_⟩
    rcases Prod.Lex.toLex_le_toLex.1 hrest with hlater | ⟨hlater, -⟩
    · dsimp only at hlater
      omega
    · dsimp only at hlater
      omega

end Lists

/-! ### An open match -/

section Open

variable {hashApiKey casefold : String → String} {variant : StorageVariant} {db : Database} {row : MatchRow} {k n : Nat}

theorem mapping_publicPlayers (hseated : SeatedRows hashApiKey row db k) (hplayers : NumberedPlayers row.state n)
    (hk : k ≤ n) {i : Nat} (hfirst : 1 ≤ i) (hlast : i ≤ k) :
    (persistedPlayerMapping row.state (publicPlayersOfMatch db row.id)).get? (buildMatchScopedPlayerId row.id i) =
      some (canonicalPlayerId i) := by
  have hperm := publicPlayersOfMatch_perm db row.id
  obtain ⟨player, hplayer, hid⟩ := List.mem_map.1 ((hseated.rows _).2 ⟨i, hfirst, hlast, rfl⟩)
  have hscoped : ScopedRows row.id (publicPlayersOfMatch db row.id) :=
    ⟨fun other hother => hseated.scopedRows.numbered other (hperm.mem_iff.1 hother),
      (hperm.map _).nodup_iff.2 hseated.scopedRows.distinct⟩
  refine (get?_buildPersistedPlayerMapping hscoped _ _).2 ⟨player, hperm.mem_iff.2 hplayer, hid, ?_⟩
  rw [hid, canonicalPlayerId_of_scoped, if_pos]
  exact (List.mem_insertionSort _).2 ((hplayers _).2 ⟨i, hfirst, by omega, rfl⟩)

/-- The roster has the first players of the match, as many as there are rows, each once. -/
theorem roster_perm (hseated : SeatedRows hashApiKey row db k) (hplayers : NumberedPlayers row.state n) (hk : k ≤ n)
    (apiKeyRows : List ApiKeyRow) :
    ((buildPublicMatchRosterRows hashApiKey casefold (publicPlayersOfMatch db row.id) apiKeyRows
      (persistedPlayerMapping row.state (publicPlayersOfMatch db row.id))).map (·.playerId)).Perm
        ((List.range' 1 k).map canonicalPlayerId) := by
  set mapping := persistedPlayerMapping row.state (publicPlayersOfMatch db row.id)
  have hids : ((buildPublicMatchRosterRows hashApiKey casefold (publicPlayersOfMatch db row.id) apiKeyRows mapping).map
      (·.playerId)).Perm (((db.playersOfMatch row.id).map (·.id)).filterMap mapping.get?) := by
    unfold buildPublicMatchRosterRows
    rw [List.map_filterMap, List.filterMap_map]
    simp only [Option.map_map, Function.comp_def, Option.map_id_fun']
    exact ((List.perm_insertionSort _ _).trans (publicPlayersOfMatch_perm db row.id)).filterMap _
  refine hids.trans ((hseated.ids_perm.filterMap _).trans (List.Perm.of_eq ?_))
  rw [List.filterMap_map, ← List.filterMap_eq_map]
  refine List.filterMap_congr fun i hi => ?_
  rw [List.mem_range'_1] at hi
  exact mapping_publicPlayers hseated hplayers hk hi.1 (by omega)

theorem fieldsValid_roster {players : List PlayerRow} {apiKeyRows : List ApiKeyRow} {mapping : OrdDict String String} :
    ∀ rosterRow ∈ buildPublicMatchRosterRows hashApiKey casefold players apiKeyRows mapping, rosterRow.FieldsValid := by
  intro rosterRow hrow
  obtain ⟨player, -, hbuilt⟩ := List.mem_filterMap.1 hrow
  obtain ⟨playerId, -, rfl⟩ := Option.map_eq_some_iff.1 hbuilt
  refine Or.inr ?_
  unfold publicCompetitorAgentId publicCompetitorHumanId
  cases player.isAgent with
  | false => simp
  | true => simp

theorem getPublicMatchDetail_eq (hrow : sessionGet variant db.matchRows row.id = .ok (some row))
    (hopen : row.status ≠ .completed) : getPublicMatchDetail hashApiKey casefold variant db row.id =
      if row.state.FieldsValid then
        .ok (buildPublicMatchDetail hashApiKey casefold row (publicPlayersOfMatch db row.id)
          (apiKeyRowsOf db (publicPlayersOfMatch db row.id))
          (persistedPlayerMapping row.state (publicPlayersOfMatch db row.id)))
      else .error (.persistence .validationError) := by
  unfold getPublicMatchDetail
  rw [hrow]
  exact if_neg hopen

end Open

/-- In every reachable state an open match that can be looked up has a detail page exactly when its state passes the field checks; the page says of the match what the list says, and its roster has the players that have joined, each once. -/
theorem publicMatchDetail_complete {hashApiKey : String → String} {variant : StorageVariant} (casefold : String → String)
    (updatedAt : String → Nat) {server : Server} (hempty : server.HoldsNoMatch) (events : List ServerEvent) :
    ∀ reached ∈ Run.states (serverStep hashApiKey variant) server events, ∀ matchId row,
      sessionGet variant reached.database.matchRows matchId = .ok (some row) → row.status ≠ .completed →
      ((∃ detail, getPublicMatchDetail hashApiKey casefold variant reached.database matchId = .ok detail) ↔
        row.state.FieldsValid) ∧
      ∀ detail, getPublicMatchDetail hashApiKey casefold variant reached.database matchId = .ok detail →
        detail.summary ∈ getPublicMatchSummaries updatedAt reached.database ∧ detail.summary.matchId = matchId ∧
        (detail.roster.map (·.playerId)).Perm
          ((List.range' 1 detail.summary.currentPlayerCount).map canonicalPlayerId) ∧
        ∀ rosterRow ∈ detail.roster, rosterRow.FieldsValid := by
  intro reached hreached matchId row hrow hopen
  have hfound : reached.database.matchRows.get? matchId = some row := (sessionGet_eq_ok hrow).symm
  obtain rfl := Table.key_of_get? hfound
  obtain ⟨k, n, hk, hseated, hplayers⟩ := (seatsAll_run hempty events reached hreached).matchSeats row.id row hfound
  rw [getPublicMatchDetail_eq hrow hopen]
  by_cases hvalid : row.state.FieldsValid
  · rw [if_pos hvalid]
    refine ⟨iff_of_true ⟨_, rfl⟩ hvalid, ?_⟩
    intro detail hdetail
    cases hdetail
    have hlength : (publicPlayersOfMatch reached.database row.id).length = k :=
      (publicPlayersOfMatch_perm _ _).length_eq.trans hseated.length_rows
    refine ⟨?_, rfl, ?_, fieldsValid_roster⟩
    · refine (mem_getPublicMatchSummaries _ _).2 ⟨row, Table.mem_rows_of_get? hfound, hopen, ?_⟩
      rw [← (publicPlayersOfMatch_perm _ _).length_eq]
      rfl
    · change ((buildPublicMatchRosterRows _ _ _ _ _).map _).Perm
        ((List.range' 1 (publicPlayersOfMatch reached.database row.id).length).map canonicalPlayerId)
      rw [hlength]
      exact roster_perm hseated hplayers hk _
  · rw [if_neg hvalid]
    refine ⟨iff_of_false ?_ hvalid, ?_⟩
    · rintro ⟨detail, hdetail⟩
      cases hdetail
    · intro detail hdetail
      cases hdetail

/-- In every reachable state whatever the two lists show passes its own check. -/
theorem listed_fieldsValid {hashApiKey : String → String} {variant : StorageVariant} (casefold : String → String)
    (updatedAt : String → Nat) {server : Server} (hempty : server.HoldsNoMatch) (hlogs : server.database.tickLogs = [])
    (events : List ServerEvent) : ∀ reached ∈ Run.states (serverStep hashApiKey variant) server events,
      (∀ summary ∈ getPublicMatchSummaries updatedAt reached.database, summary.FieldsValid) ∧
      ∀ summary ∈ getCompletedMatchSummaries hashApiKey casefold updatedAt reached.database, summary.FieldsValid := by
  intro reached hreached
  have hlogged := hempty.logged_run hlogs events reached hreached
  have hinterval : ∀ row ∈ reached.database.matchRows.rows, 0 < row.config.turnSeconds.getD 0 := by
    intro row hrow
    obtain ⟨request, initial, creator, -, hconfig, -⟩ := hlogged.played row.id row (Table.get?_eq_some.2 ⟨hrow, rfl⟩)
    rw [hconfig]
    exact request.tickIntervalSeconds_pos
  constructor
  · intro summary hsummary
    obtain ⟨row, hrow, -, rfl⟩ := (mem_getPublicMatchSummaries _ _).1 hsummary
    exact hinterval row hrow
  · intro summary hsummary
    obtain ⟨row, hrow, rfl⟩ := List.mem_map.1 hsummary
    have hstored := (List.mem_filter.1 ((List.mem_insertionSort _).1 hrow)).1
    exact ⟨hinterval row hstored, fieldsValid_buildPublicCompetitorSummaries hashApiKey casefold⟩

/-! ### A completed match -/

/-- The players of the completed matches are read in one go. -/
theorem listsMatch_of_completed {db : Database} {matchId : String} {matchIds : List String} (hlisted : matchId ∈ matchIds)
    {le : PlayerRow → PlayerRow → Prop} [DecidableRel le] :
    ListsMatch db matchId ((db.players.rows.filter fun player => player.matchId ∈ matchIds).insertionSort le) where
  stored := fun player hplayer => (List.mem_filter.1 ((List.mem_insertionSort _).1 hplayer)).1
  complete := by
    intro player hplayer
    obtain ⟨hstored, hmatch⟩ := Database.mem_playersOfMatch.1 hplayer
    refine (List.mem_insertionSort _).2 (List.mem_filter.2 ⟨hstored, decide_eq_true ?_⟩)
    rw [hmatch]
    exact hlisted
  nodup := (List.perm_insertionSort _ _).nodup_iff.2 ((List.Nodup.of_map _ db.players.nodup).filter _)

theorem winningAllianceName_eq {db : Database} {row : MatchRow} {winner : String} {matchIds : List String}
    {le : AllianceRow → AllianceRow → Prop} [DecidableRel le] (hwinner : row.winnerAlliance = some winner)
    (hlisted : row.id ∈ matchIds) :
    winningAllianceName row
      ((db.alliances.rows.filter fun alliance => alliance.matchId ∈ matchIds).insertionSort le) =
      ((db.alliances.get? winner).filter fun alliance => alliance.matchId = row.id).map (·.name) := by
  set listed := (db.alliances.rows.filter fun alliance => alliance.matchId ∈ matchIds).insertionSort le
  have hmem : ∀ alliance, alliance ∈ listed ↔ alliance ∈ db.alliances.rows ∧ alliance.matchId ∈ matchIds := by
    intro alliance
    rw [List.mem_insertionSort, List.mem_filter, decide_eq_true_eq]
  have hnodup : (listed.map fun alliance => (alliance.matchId, alliance.id)).Nodup := by
    have hids : (listed.map (·.id)).Nodup := ((List.perm_insertionSort _ _).map _).nodup_iff.2
      (db.alliances.nodup.sublist (List.filter_sublist.map _))
    refine List.Nodup.of_map Prod.snd ?_
    rwa [List.map_map]
  have hfound : (indexBy (fun alliance : AllianceRow => (alliance.matchId, alliance.id)) listed).get? (row.id, winner) =
      (db.alliances.get? winner).filter fun alliance => alliance.matchId = row.id := by
    ext alliance
    rw [get?_indexBy hnodup, hmem, Prod.mk.injEq, Option.filter_eq_some_iff, Table.get?_eq_some, decide_eq_true_eq]
    constructor
    · rintro ⟨⟨hstored, -⟩, hmatch, hid⟩
      exact ⟨⟨hstored, hid⟩, hmatch⟩
    · rintro ⟨⟨hstored, hid⟩, hmatch⟩
      exact ⟨⟨hstored, hmatch ▸ hlisted⟩, hmatch, hid⟩
  unfold winningAllianceName
  rw [hwinner, Option.bind_some, hfound]

/-- A match whose winners agree is listed with these winners, under the name of their alliance if they have one. -/
theorem completed_listed_with_winners {hashApiKey casefold : String → String} (updatedAt : String → Nat) {db : Database}
    {matchId leading : String} {state : MatchState} (h : WinnersAgree hashApiKey casefold db matchId state leading) :
    ∃ summary ∈ getCompletedMatchSummaries hashApiKey casefold updatedAt db, summary.matchId = matchId ∧
      summary.winningPlayerDisplayNames.Perm ((coalitionRows db matchId state leading).map (·.displayName)) ∧
      (∃ listed, ListsMatch db matchId listed ∧ summary.winningCompetitors.Perm (buildPublicCompetitorSummaries hashApiKey
        casefold (coalitionRows db matchId state leading) (apiKeyRowsOf db listed))) ∧
      ∃ winner, WinnerResolves db matchId (coalitionRows db matchId state leading) winner ∧
        summary.winningAllianceName =
          ((db.alliances.get? winner).filter fun alliance => alliance.matchId = matchId).map (·.name) := by
  obtain ⟨row, winner, hrow, hstatus, -, hwinner, hresolves⟩ := h.recorded
  obtain rfl : row.id = matchId := Table.key_of_get? hrow
  have hcompleted : row ∈ db.matchRows.rows.filter fun matchRow => matchRow.status = .completed :=
    List.mem_filter.2 ⟨Table.mem_rows_of_get? hrow, decide_eq_true hstatus⟩
  unfold getCompletedMatchSummaries
  dsimp only
  set completedMatches := (db.matchRows.rows.filter fun matchRow => matchRow.status = .completed).insertionSort
    fun first second =>
      ((compare (updatedAt second.id) (updatedAt first.id)).then <|
        (compare second.currentTick first.currentTick).then (compare first.id second.id)).isLE
  have hlisted : row.id ∈ completedMatches.map (·.id) :=
    List.mem_map_of_mem ((List.mem_insertionSort _).2 hcompleted)
  set listed := (db.players.rows.filter fun player => player.matchId ∈ completedMatches.map (·.id)).insertionSort
    fun first second => ((compare first.matchId second.matchId).then <|
      (compare first.displayName second.displayName).then (compare first.id second.id)).isLE
  have hlists : ListsMatch db row.id listed := listsMatch_of_completed hlisted
  refine ⟨_, List.mem_map_of_mem ((List.mem_insertionSort _).2 hcompleted), rfl, h.names row listed hrow hlists,
    ⟨listed, hlists, h.competitors row listed (apiKeyRowsOf db listed) hrow hlists⟩, winner, hresolves, ?_⟩
  exact winningAllianceName_eq hwinner hlisted

end IronCouncil
