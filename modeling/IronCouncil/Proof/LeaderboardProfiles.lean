import IronCouncil.Base.KeyedSum
import IronCouncil.Base.KeyOrder
import IronCouncil.Db.IdentityHydration

/-!
# The leaderboard and the profiles

The leaderboard counts the players of the completed matches from the latest match to the earliest, and the profiles count the settlements. When every player is settled and the matches were settled in the order they were updated in, both make the same of each identity.
-/

namespace IronCouncil

/-! ### Identities -/

theorem competitorIdentity_eq_iff {isAgent isAgent' : Bool} {apiKeyId apiKeyId' : Option String} {userId userId' : String} :
    competitorIdentity isAgent apiKeyId userId = competitorIdentity isAgent' apiKeyId' userId' ↔
      isAgent = isAgent' ∧ (isAgent = true → apiKeyId = apiKeyId') ∧
        ((isAgent = false ∨ apiKeyId = none) → userId = userId') := by
  have hkeyed : ∀ apiKeyId userId, competitorIdentity true (some apiKeyId) userId = "agent:" ++ apiKeyId := by
    intro apiKeyId userId
    simp [competitorIdentity, toString]
  have hkeyless : ∀ userId, competitorIdentity true none userId = "agent-user:" ++ userId := by
    intro userId
    simp [competitorIdentity, toString]
  have hhuman : ∀ apiKeyId userId, competitorIdentity false apiKeyId userId = "human:" ++ userId := by
    intro apiKeyId userId
    simp [competitorIdentity, toString]
  have hagents : ∀ apiKeyId userId : String, "agent:" ++ apiKeyId ≠ "agent-user:" ++ userId := by
    intro apiKeyId userId h
    have hsixth := congrArg (fun text => text.toList[5]?) h
    simp [String.toList_append] at hsixth
  have hhumans : ∀ (stem rest userId : String), stem.toList.head? = some 'a' → stem ++ rest ≠ "human:" ++ userId := by
    intro stem rest userId hstem h
    have hfirst := congrArg (fun text => text.toList.head?) h
    simp [String.toList_append, List.head?_append, hstem] at hfirst
  cases isAgent <;> cases isAgent'
  · rw [hhuman, hhuman, String.append_right_inj]
    simp
  · cases apiKeyId' with
    | some apiKeyId' =>
        rw [hhuman, hkeyed]
        simp [(hhumans "agent:" apiKeyId' userId rfl).symm]
    | none =>
        rw [hhuman, hkeyless]
        simp [(hhumans "agent-user:" userId' userId rfl).symm]
  · cases apiKeyId with
    | some apiKeyId =>
        rw [hhuman, hkeyed]
        simp [hhumans "agent:" apiKeyId userId' rfl]
    | none =>
        rw [hhuman, hkeyless]
        simp [hhumans "agent-user:" userId userId' rfl]
  · cases apiKeyId <;> cases apiKeyId'
    · rw [hkeyless, hkeyless, String.append_right_inj]
      simp
    · rw [hkeyless, hkeyed]
      simp [(hagents _ _).symm]
    · rw [hkeyless, hkeyed]
      simp [hagents]
    · rw [hkeyed, hkeyed, String.append_right_inj]
      simp

theorem playerCompetitorIdentity_eq {player : PlayerRow} (hagent : player.isAgent = true) :
    playerCompetitorIdentity player = leaderboardCompetitorIdentity player := by
  cases hkey : player.apiKeyId with
  | none => simp [playerCompetitorIdentity, leaderboardCompetitorIdentity, competitorIdentity, hagent, hkey]
  | some apiKeyId => simp [playerCompetitorIdentity, leaderboardCompetitorIdentity, competitorIdentity, hagent, hkey]

/-- An agent's settlements are those of its identity. -/
theorem settlesPlayer_iff {player : PlayerRow} (hagent : player.isAgent = true)
    (settlement : PlayerMatchSettlementRow) :
    settlesPlayer player settlement = true ↔ settlementIdentity settlement = playerCompetitorIdentity player := by
  rw [playerCompetitorIdentity_eq hagent, settlementIdentity, leaderboardCompetitorIdentity, competitorIdentity_eq_iff,
    hagent]
  unfold settlesPlayer
  simp only [Bool.and_eq_true, Bool.or_eq_true, decide_eq_true_eq]
  constructor
  · rintro ⟨⟨hsettled, hkey⟩, hkeyless⟩
    refine ⟨hsettled, fun _ => hkey, ?_⟩
    rintro (hhuman | hnone)
    · rw [hsettled] at hhuman
      cases hhuman
    · exact hkeyless.resolve_left fun hsome => hsome (hkey.symm.trans hnone)
  · rintro ⟨hsettled, hkey, huser⟩
    refine ⟨⟨hsettled, hkey hsettled⟩, ?_⟩
    by_cases hnone : player.apiKeyId = none
    · exact Or.inr (huser (Or.inr ((hkey hsettled).trans hnone)))
    · exact Or.inl hnone

theorem parseHumanActorId_buildHumanActorId {userId : String} (hne : userId ≠ "") :
    parseHumanActorId (buildHumanActorId userId) = some userId := by
  have hlist : (buildHumanActorId userId).toList = "human:".toList ++ userId.toList := by
    simp [buildHumanActorId, toString]
  have hrest : userId.toList ≠ [] := fun hnil => hne (String.toList_eq_nil_iff.1 hnil)
  unfold parseHumanActorId
  rw [hlist]
  simp [hrest]

/-! ### The latest settlement -/

/-- When and for whom a settlement was written. -/
def PlayerMatchSettlementRow.settledKey (row : PlayerMatchSettlementRow) : Nat ×ₗ String :=
  toLex (row.settledAt, row.playerId)

theorem later_iff (row latest : PlayerMatchSettlementRow) : row.later latest ↔ latest.settledKey < row.settledKey := by
  unfold PlayerMatchSettlementRow.settledKey
  rw [Prod.Lex.toLex_lt_toLex]
  exact Iff.rfl

theorem settledKey_le_latest {rows : List PlayerMatchSettlementRow} {latest : PlayerMatchSettlementRow}
    (h : latestSettlement rows = some latest) : ∀ row ∈ rows, row.settledKey ≤ latest.settledKey := by
  induction rows using List.reverseRecOn generalizing latest with
  | nil => exact fun row hrow => absurd hrow List.not_mem_nil
  | append_singleton rows last ih =>
      rw [latestSettlement_append] at h
      intro row hrow
      cases hearlier : latestSettlement rows with
      | none =>
          rw [hearlier] at h
          cases h
          rcases List.mem_append.1 hrow with hrow | hrow
          · have hnil : rows = [] := by
              cases rows using List.reverseRecOn with
              | nil => rfl
              | append_singleton rows other =>
                  rw [latestSettlement_append] at hearlier
                  unfold laterSettlement at hearlier
                  split at hearlier
                  · cases hearlier
                  · split at hearlier <;> cases hearlier
            rw [hnil] at hrow
            cases hrow
          · rw [List.mem_singleton.1 hrow]
      | some earlier =>
          rw [hearlier] at h
          have hbefore := ih hearlier
          simp only [laterSettlement] at h
          split at h
          · rename_i hlater
            cases h
            rw [later_iff] at hlater
            rcases List.mem_append.1 hrow with hrow | hrow
            · exact (hbefore row hrow).trans hlater.le
            · rw [List.mem_singleton.1 hrow]
          · rename_i hlater
            cases h
            rw [later_iff, not_lt] at hlater
            rcases List.mem_append.1 hrow with hrow | hrow
            · exact hbefore row hrow
            · rw [List.mem_singleton.1 hrow]
              exact hlater

theorem latestSettlement_isSome {rows : List PlayerMatchSettlementRow} (hne : rows ≠ []) :
    ∃ latest, latestSettlement rows = some latest := by
  cases rows using List.reverseRecOn with
  | nil => exact absurd rfl hne
  | append_singleton rows last =>
      rw [latestSettlement_append]
      unfold laterSettlement
      split
      · exact ⟨last, rfl⟩
      · split
        · exact ⟨last, rfl⟩
        · exact ⟨_, rfl⟩

/-- A settlement that is later than all others is the latest. -/
theorem latestSettlement_eq_some {rows : List PlayerMatchSettlementRow} {latest : PlayerMatchSettlementRow}
    (hmem : latest ∈ rows) (hlater : ∀ row ∈ rows, row ≠ latest → row.settledKey < latest.settledKey) :
    latestSettlement rows = some latest := by
  obtain ⟨found, hfound⟩ := latestSettlement_isSome (List.ne_nil_of_mem hmem)
  have hle := settledKey_le_latest hfound latest hmem
  by_cases hsame : found = latest
  · rw [hfound, hsame]
  · exact absurd (hlater found (latestSettlement_mem hfound) hsame) (not_lt.2 hle)

theorem latestSettlement_perm {rows rows' : List PlayerMatchSettlementRow} (hperm : rows.Perm rows')
    (hnodup : (rows.map (·.playerId)).Nodup) : latestSettlement rows = latestSettlement rows' := by
  by_cases hnil : rows = []
  · subst hnil
    rw [hperm.nil_eq]
  · obtain ⟨latest, hlatest⟩ := latestSettlement_isSome hnil
    have hmem := latestSettlement_mem hlatest
    rw [hlatest]
    refine (latestSettlement_eq_some (hperm.mem_iff.1 hmem) fun row hrow hne => ?_).symm
    have hrow := hperm.mem_iff.2 hrow
    refine lt_of_le_of_ne (settledKey_le_latest hlatest row hrow) fun hkey => hne ?_
    exact List.inj_on_of_nodup_map hnodup hrow hmem (congrArg (fun key => (ofLex key).2) hkey)

/-! ### Aggregates -/

theorem settlementAggregate_perm {rows rows' : List PlayerMatchSettlementRow} (hperm : rows.Perm rows')
    (hnodup : (rows.map (·.playerId)).Nodup) : settlementAggregate rows = settlementAggregate rows' := by
  unfold settlementAggregate
  rw [latestSettlement_perm hperm hnodup, hperm.length_eq, hperm.countP_eq, hperm.countP_eq, hperm.countP_eq]

/-- Under each identity stands what its settlements come to. -/
theorem get?_loadSettlementAggregatesByIdentity (rows : List PlayerMatchSettlementRow) (identity : String) :
    (loadSettlementAggregatesByIdentity rows).get? identity =
      settlementAggregate (rows.filter fun row => settlementIdentity row = identity) := by
  unfold loadSettlementAggregatesByIdentity
  rw [OrdDict.get?_filterMapVals, OrdDict.get?_foldl_upsert_group settlementIdentity rows identity]
  split
  · rfl
  · rename_i hnone
    have hnil : rows.filter (fun row => settlementIdentity row = identity) = [] := by
      apply List.filter_eq_nil_iff.2
      intro row hrow hsame
      exact hnone (List.mem_map.2 ⟨row, hrow, of_decide_eq_true hsame⟩)
    rw [hnil]
    rfl

/-! ### What the leaderboard counts -/

theorem get?_indexBy {α κ : Type} [DecidableEq κ] {key : α → κ} {rows : List α} (hnodup : (rows.map key).Nodup) {k : κ}
    {row : α} : (indexBy key rows).get? k = some row ↔ row ∈ rows ∧ key row = k := by
  have hkeys : ((rows.map fun row => (key row, row)).map Prod.fst).Nodup := by
    rw [List.map_map]
    exact hnodup
  unfold indexBy
  rw [OrdDict.get?_ofList_of_nodup hkeys, List.mem_map]
  constructor
  · rintro ⟨found, hfound, heq⟩
    cases heq
    exact ⟨hfound, rfl⟩
  · rintro ⟨hrow, rfl⟩
    exact ⟨row, hrow, rfl⟩

section Counting

variable (hashApiKey : String → String) (updatedAt : String → Nat)
  (completedMatches : List MatchRow) (players : List PlayerRow) (apiKeyRows : List ApiKeyRow)
  (settlements : List PlayerMatchSettlementRow)

/-- The players with their matches, in the order they are counted in. -/
def participations : List (MatchRow × PlayerRow) :=
  (rankedMatches updatedAt completedMatches).flatMap fun matchRow =>
    (players.filter fun player => player.matchId = matchRow.id).map fun player => (matchRow, player)

def settlementOf (participation : MatchRow × PlayerRow) : Option PlayerMatchSettlementRow :=
  (indexBy (·.playerId) settlements).get? participation.2.id

def participationOutcome (participation : MatchRow × PlayerRow) : Option SettlementOutcome :=
  leaderboardOutcome participation.1 participation.2 (playersByMatchAndId players)
    (settlementOf settlements participation)

def firstAggregate (participation : MatchRow × PlayerRow) : LeaderboardAggregate :=
  newLeaderboardAggregate hashApiKey (indexBy (·.id) apiKeyRows) participation.2
    (settlementOf settlements participation)

theorem leaderboardAggregates_eq :
    leaderboardAggregates hashApiKey updatedAt completedMatches players apiKeyRows settlements =
      (participations updatedAt completedMatches players).foldl
        (fun aggregates participation => aggregates.upsert (leaderboardCompetitorIdentity participation.2)
          ((firstAggregate hashApiKey apiKeyRows settlements participation).played
            (participationOutcome players settlements participation))
          fun aggregate => aggregate.played (participationOutcome players settlements participation))
        OrdDict.empty := by
  unfold leaderboardAggregates participations
  rw [List.foldl_flatMap]
  simp only [List.foldl_map]
  rfl

/-- The matches of one identity, counted from its first aggregate. -/
def countedAggregate : List (MatchRow × PlayerRow) → Option LeaderboardAggregate
  | [] => none
  | first :: rest =>
      some ((first :: rest).foldl
        (fun aggregate participation => aggregate.played (participationOutcome players settlements participation))
        (firstAggregate hashApiKey apiKeyRows settlements first))

theorem get?_leaderboardAggregates (identity : String) :
    (leaderboardAggregates hashApiKey updatedAt completedMatches players apiKeyRows settlements).get? identity =
      countedAggregate hashApiKey players apiKeyRows settlements
        ((participations updatedAt completedMatches players).filter fun participation =>
          leaderboardCompetitorIdentity participation.2 = identity) := by
  have hrest : ∀ (rest : List (MatchRow × PlayerRow)) (aggregate : LeaderboardAggregate),
      rest.foldl (fun found participation => some (found.elim
        ((firstAggregate hashApiKey apiKeyRows settlements participation).played
          (participationOutcome players settlements participation))
        fun aggregate => aggregate.played (participationOutcome players settlements participation))) (some aggregate) =
      some (rest.foldl (fun aggregate participation =>
        aggregate.played (participationOutcome players settlements participation)) aggregate) := by
    intro rest
    induction rest with
    | nil => exact fun _ => rfl
    | cons participation rest ih => exact fun aggregate => ih _
  rw [leaderboardAggregates_eq, OrdDict.get?_foldl_upsert
    (fun participation : MatchRow × PlayerRow => leaderboardCompetitorIdentity participation.2)
    (fun participation => (firstAggregate hashApiKey apiKeyRows settlements participation).played
      (participationOutcome players settlements participation))
    (fun participation aggregate => aggregate.played (participationOutcome players settlements participation))]
  generalize (participations updatedAt completedMatches players).filter _ = counted
  cases counted with
  | nil => rfl
  | cons first rest => exact hrest rest _

/-- Of settled players, the matches are counted as they were settled. -/
theorem foldl_played_settled {counted : List (MatchRow × PlayerRow)}
    (hsettled : ∀ participation ∈ counted, ∃ settlement, settlementOf settlements participation = some settlement)
    (aggregate : LeaderboardAggregate) :
    counted.foldl
        (fun aggregate participation => aggregate.played (participationOutcome players settlements participation))
        aggregate =
      { aggregate with
        matchesPlayed := aggregate.matchesPlayed + (counted.filterMap (settlementOf settlements)).length
        wins := aggregate.wins + (counted.filterMap (settlementOf settlements)).countP fun row => row.outcome = .win
        losses := aggregate.losses + (counted.filterMap (settlementOf settlements)).countP fun row => row.outcome = .loss
        draws := aggregate.draws +
          (counted.filterMap (settlementOf settlements)).countP fun row => row.outcome = .draw } := by
  induction counted generalizing aggregate with
  | nil => rfl
  | cons participation counted ih =>
      obtain ⟨⟨settlement, hsettlement⟩, hrest⟩ := List.forall_mem_cons.1 hsettled
      rw [List.foldl_cons, ih hrest, List.filterMap_cons_some hsettlement]
      unfold participationOutcome leaderboardOutcome LeaderboardAggregate.played
      rw [hsettlement]
      cases houtcome : settlement.outcome with
      | win => simp [houtcome, Nat.add_assoc, Nat.add_comm 1]
      | loss => simp [houtcome, Nat.add_assoc, Nat.add_comm 1]
      | draw => simp [houtcome, Nat.add_assoc, Nat.add_comm 1]

end Counting

/-! ### A settled history -/

/-- A settlement as it is written for a player: it repeats who the player is, and its rating is not negative. -/
structure PlayerMatchSettlementRow.Copies (settlement : PlayerMatchSettlementRow) (player : PlayerRow) : Prop where
  playerId : settlement.playerId = player.id
  matchId : settlement.matchId = player.matchId
  userId : settlement.userId = player.userId
  apiKeyId : settlement.apiKeyId = player.apiKeyId
  displayName : settlement.displayName = player.displayName
  isAgent : settlement.isAgent = player.isAgent
  eloAfter : 0 ≤ settlement.eloAfter

theorem copies_iff {settlement : PlayerMatchSettlementRow} {player : PlayerRow} :
    settlement.Copies player ↔ settlement.playerId = player.id ∧ settlement.matchId = player.matchId ∧
      settlement.userId = player.userId ∧ settlement.apiKeyId = player.apiKeyId ∧
      settlement.displayName = player.displayName ∧ settlement.isAgent = player.isAgent ∧ 0 ≤ settlement.eloAfter :=
  ⟨fun ⟨hid, hmatch, huser, hkey, hname, hagent, helo⟩ => ⟨hid, hmatch, huser, hkey, hname, hagent, helo⟩,
    fun ⟨hid, hmatch, huser, hkey, hname, hagent, helo⟩ => ⟨hid, hmatch, huser, hkey, hname, hagent, helo⟩⟩

instance (settlement : PlayerMatchSettlementRow) (player : PlayerRow) : Decidable (settlement.Copies player) :=
  decidable_of_iff _ copies_iff.symm

theorem playerSettlement_copies {outcome : MatchOutcome} {player : PlayerRow}
    (hmatch : player.matchId = outcome.matchRow.id) : (playerSettlement outcome player).Copies player :=
  ⟨rfl, hmatch.symm, rfl, rfl, rfl, rfl, le_max_left _ _⟩

theorem PlayerMatchSettlementRow.Copies.identity {settlement : PlayerMatchSettlementRow} {player : PlayerRow}
    (h : settlement.Copies player) : settlementIdentity settlement = leaderboardCompetitorIdentity player := by
  unfold settlementIdentity leaderboardCompetitorIdentity
  rw [h.isAgent, h.apiKeyId, h.userId]

def Database.completedMatches (db : Database) : List MatchRow :=
  db.matchRows.rows.filter fun matchRow => matchRow.status = .completed

def Database.completedPlayers (db : Database) : List PlayerRow :=
  db.players.rows.filter fun player => player.matchId ∈ db.completedMatches.map (·.id)

/-- Every player of a completed match is settled, the matches at different times and in the order they were updated in. -/
structure SettledHistory (updatedAt : String → Nat) (db : Database) : Prop where
  settled : ∀ player ∈ db.completedPlayers, ∃ settlement ∈ db.playerMatchSettlements.rows, settlement.Copies player
  copied : ∀ settlement ∈ db.playerMatchSettlements.rows, ∃ player ∈ db.completedPlayers, settlement.Copies player
  distinct : ∀ first ∈ db.playerMatchSettlements.rows, ∀ second ∈ db.playerMatchSettlements.rows,
    first.matchId ≠ second.matchId → first.settledAt ≠ second.settledAt
  ordered : ∀ first ∈ db.playerMatchSettlements.rows, ∀ second ∈ db.playerMatchSettlements.rows,
    (first.settledAt < second.settledAt ↔ updatedAt first.matchId < updatedAt second.matchId)
  once : ∀ first ∈ db.completedPlayers, ∀ second ∈ db.completedPlayers, first.matchId = second.matchId →
    leaderboardCompetitorIdentity first = leaderboardCompetitorIdentity second → first = second
  /-- The foreign key to the API keys. -/
  keyed : ∀ player ∈ db.players.rows, ∀ apiKeyId, player.apiKeyId = some apiKeyId → apiKeyId ∈ db.apiKeys.keys
  /-- A user id is a UUID, and so not empty. -/
  named : ∀ player ∈ db.completedPlayers, player.userId ≠ ""

theorem rankedMatches_pairwise (updatedAt : String → Nat) (completedMatches : List MatchRow) :
    (rankedMatches updatedAt completedMatches).Pairwise fun first second => updatedAt second.id ≤ updatedAt first.id := by
  have hkey : ∀ first second : MatchRow,
      (updatedAt second.id < updatedAt first.id ∨ (updatedAt first.id = updatedAt second.id ∧ first.id ≤ second.id)) ↔
        toLex (-(updatedAt first.id : Int), first.id) ≤ toLex (-(updatedAt second.id : Int), second.id) := by
    intro first second
    simp [Prod.Lex.toLex_le_toLex]
  have hsorted := pairwise_key_insertionSort (g := fun matchRow : MatchRow =>
    (toLex (-(updatedAt matchRow.id : Int), matchRow.id) : Int ×ₗ String)) completedMatches
  unfold rankedMatches
  simp only [hkey]
  refine hsorted.imp fun hle => ?_
  rcases Prod.Lex.toLex_le_toLex.1 hle with hlt | ⟨heq, -⟩
  · dsimp only at hlt
    omega
  · dsimp only at heq
    omega

theorem mem_participations {updatedAt : String → Nat} {completedMatches : List MatchRow} {players : List PlayerRow}
    {participation : MatchRow × PlayerRow} :
    participation ∈ participations updatedAt completedMatches players ↔
      participation.1 ∈ completedMatches ∧ participation.2 ∈ players ∧
        participation.2.matchId = participation.1.id := by
  unfold participations rankedMatches
  simp only [List.mem_flatMap, List.mem_insertionSort, List.mem_map, List.mem_filter, decide_eq_true_eq]
  constructor
  · rintro ⟨matchRow, hmatch, player, ⟨hplayer, hid⟩, rfl⟩
    exact ⟨hmatch, hplayer, hid⟩
  · rintro ⟨hmatch, hplayer, hid⟩
    exact ⟨participation.1, hmatch, participation.2, ⟨hplayer, hid⟩, rfl⟩

/-- Later matches come first, and no player is counted twice. -/
theorem participations_pairwise (updatedAt : String → Nat) {completedMatches : List MatchRow} {players : List PlayerRow}
    (hmatches : (completedMatches.map (·.id)).Nodup) (hplayers : (players.map (·.id)).Nodup) :
    (participations updatedAt completedMatches players).Pairwise fun first second =>
      updatedAt second.1.id ≤ updatedAt first.1.id ∧ first.2.id ≠ second.2.id := by
  have hranked : ((rankedMatches updatedAt completedMatches).map (·.id)).Nodup :=
    ((List.perm_insertionSort _ completedMatches).map _).nodup_iff.2 hmatches
  unfold participations
  rw [List.pairwise_flatMap]
  constructor
  · intro matchRow _
    rw [List.pairwise_map]
    refine List.Pairwise.imp ?_ ((List.pairwise_map.1 hplayers).sublist List.filter_sublist)
    exact fun hids => ⟨le_rfl, hids⟩
  · refine List.Pairwise.imp ?_ ((rankedMatches_pairwise updatedAt completedMatches).and (List.pairwise_map.1 hranked))
    rintro first second ⟨hupdated, hids⟩ participation hparticipation participation' hparticipation'
    obtain ⟨player, hplayer, rfl⟩ := List.mem_map.1 hparticipation
    obtain ⟨player', hplayer', rfl⟩ := List.mem_map.1 hparticipation'
    obtain ⟨hplayer, hmatch⟩ := List.mem_filter.1 hplayer
    obtain ⟨hplayer', hmatch'⟩ := List.mem_filter.1 hplayer'
    refine ⟨hupdated, fun hsame => hids ?_⟩
    have hsame := List.inj_on_of_nodup_map hplayers hplayer hplayer' hsame
    rw [← of_decide_eq_true hmatch, ← of_decide_eq_true hmatch', hsame]

section Settled

variable {updatedAt : String → Nat} {db : Database} {completedMatches : List MatchRow}
  {players : List PlayerRow} {settlements : List PlayerMatchSettlementRow}
  (hmatches : completedMatches.Perm db.completedMatches) (hplayers : players.Perm db.completedPlayers)
  (hsettlements : settlements.Perm db.playerMatchSettlements.rows) (h : SettledHistory updatedAt db)

include hmatches hplayers

theorem mem_participations_settled {participation : MatchRow × PlayerRow} :
    participation ∈ participations updatedAt completedMatches players ↔
      participation.1 ∈ db.completedMatches ∧ participation.2 ∈ db.completedPlayers ∧
        participation.2.matchId = participation.1.id := by
  rw [mem_participations, hmatches.mem_iff, hplayers.mem_iff]

theorem exists_participation {player : PlayerRow} (hplayer : player ∈ db.completedPlayers) :
    ∃ matchRow, (matchRow, player) ∈ participations updatedAt completedMatches players := by
  have hmatch := of_decide_eq_true (List.mem_filter.1 hplayer).2
  obtain ⟨matchRow, hrow, hid⟩ := List.mem_map.1 hmatch
  exact ⟨matchRow, (mem_participations_settled hmatches hplayers).2 ⟨hrow, hplayer, hid.symm⟩⟩

theorem participations_ordered :
    (participations updatedAt completedMatches players).Pairwise fun first second =>
      updatedAt second.1.id ≤ updatedAt first.1.id ∧ first.2.id ≠ second.2.id := by
  refine participations_pairwise updatedAt ?_ ?_
  · exact ((hmatches.map _).nodup_iff).2 (db.matchRows.nodup.sublist (List.filter_sublist.map _))
  · exact ((hplayers.map _).nodup_iff).2 (db.players.nodup.sublist (List.filter_sublist.map _))

include hsettlements h

theorem settlementOf_eq_some {participation : MatchRow × PlayerRow}
    (hmem : participation ∈ participations updatedAt completedMatches players) {settlement : PlayerMatchSettlementRow} :
    settlementOf settlements participation = some settlement ↔
      settlement ∈ db.playerMatchSettlements.rows ∧ settlement.Copies participation.2 := by
  have hnodup : (settlements.map (·.playerId)).Nodup :=
    ((hsettlements.map _).nodup_iff).2 db.playerMatchSettlements.nodup
  rw [settlementOf, get?_indexBy hnodup, hsettlements.mem_iff]
  constructor
  · rintro ⟨hrow, hid⟩
    have hplayer := ((mem_participations_settled hmatches hplayers).1 hmem).2.1
    obtain ⟨copied, hcopied, hcopies⟩ := h.settled participation.2 hplayer
    rw [Table.eq_of_key hrow hcopied (hid.trans hcopies.playerId.symm)]
    exact ⟨hcopied, hcopies⟩
  · rintro ⟨hrow, hcopies⟩
    exact ⟨hrow, hcopies.playerId⟩

theorem exists_settlementOf {participation : MatchRow × PlayerRow}
    (hmem : participation ∈ participations updatedAt completedMatches players) :
    ∃ settlement, settlementOf settlements participation = some settlement := by
  obtain ⟨settlement, hsettlement⟩ :=
    h.settled participation.2 ((mem_participations_settled hmatches hplayers).1 hmem).2.1
  exact ⟨settlement, (settlementOf_eq_some hmatches hplayers hsettlements h hmem).2 hsettlement⟩

/-- The settlements of the players that are counted for an identity are the identity's settlements. -/
theorem settlements_counted (identity : String) :
    (((participations updatedAt completedMatches players).filter fun participation =>
        leaderboardCompetitorIdentity participation.2 = identity).filterMap (settlementOf settlements)).Perm
      (db.playerMatchSettlements.rows.filter fun row => settlementIdentity row = identity) := by
  have hsettles : ∀ {participation}, participation ∈ participations updatedAt completedMatches players →
      ∀ {settlement}, settlementOf settlements participation = some settlement ↔
        settlement ∈ db.playerMatchSettlements.rows ∧ settlement.Copies participation.2 :=
    fun hmem => settlementOf_eq_some hmatches hplayers hsettlements h hmem
  rw [List.perm_ext_iff_of_nodup]
  · intro settlement
    rw [List.mem_filterMap, List.mem_filter, decide_eq_true_eq]
    constructor
    · rintro ⟨participation, hmem, hsettlement⟩
      obtain ⟨hmem, hidentity⟩ := List.mem_filter.1 hmem
      obtain ⟨hrow, hcopies⟩ := (hsettles hmem).1 hsettlement
      exact ⟨hrow, hcopies.identity.trans (of_decide_eq_true hidentity)⟩
    · rintro ⟨hrow, hidentity⟩
      obtain ⟨player, hplayer, hcopies⟩ := h.copied settlement hrow
      obtain ⟨matchRow, hmem⟩ := exists_participation hmatches hplayers hplayer
      refine ⟨(matchRow, player), List.mem_filter.2 ⟨hmem, ?_⟩, (hsettles hmem).2 ⟨hrow, hcopies⟩⟩
      exact decide_eq_true (hcopies.identity.symm.trans hidentity)
  · unfold List.Nodup
    rw [List.pairwise_filterMap]
    refine List.Pairwise.imp_of_mem ?_ ((participations_ordered hmatches hplayers).sublist List.filter_sublist)
    rintro first second hfirst hsecond ⟨-, hids⟩ settlement hsettlement settlement' hsettlement' heq
    have hcopies := ((hsettles (List.mem_filter.1 hfirst).1).1 hsettlement).2
    have hcopies' := ((hsettles (List.mem_filter.1 hsecond).1).1 hsettlement').2
    rw [← heq] at hcopies'
    exact hids (hcopies.playerId.symm.trans hcopies'.playerId)
  · exact (List.Nodup.of_map _ db.playerMatchSettlements.nodup).filter _

/-- The first match that is counted for an identity is the one that was settled last. -/
theorem latestSettlement_first {identity : String} {first : MatchRow × PlayerRow} {rest : List (MatchRow × PlayerRow)}
    (hcounted : ((participations updatedAt completedMatches players).filter fun participation =>
      leaderboardCompetitorIdentity participation.2 = identity) = first :: rest) {settlement : PlayerMatchSettlementRow}
    (hfirst : settlementOf settlements first = some settlement) :
    latestSettlement (db.playerMatchSettlements.rows.filter fun row => settlementIdentity row = identity) =
      some settlement := by
  have hordered : (first :: rest).Pairwise fun first second =>
      updatedAt second.1.id ≤ updatedAt first.1.id ∧ first.2.id ≠ second.2.id := by
    rw [← hcounted]
    exact (participations_ordered hmatches hplayers).sublist List.filter_sublist
  have hperm := settlements_counted hmatches hplayers hsettlements h identity
  have hmem : ∀ participation ∈ first :: rest, participation ∈ participations updatedAt completedMatches players ∧
      leaderboardCompetitorIdentity participation.2 = identity := by
    intro participation hmem
    rw [← hcounted] at hmem
    exact ⟨(List.mem_filter.1 hmem).1, of_decide_eq_true (List.mem_filter.1 hmem).2⟩
  rw [hcounted] at hperm
  obtain ⟨hrow, hcopies⟩ :=
    (settlementOf_eq_some hmatches hplayers hsettlements h (hmem first List.mem_cons_self).1).1 hfirst
  refine latestSettlement_eq_some (hperm.mem_iff.1 (List.mem_filterMap.2 ⟨first, List.mem_cons_self, hfirst⟩)) ?_
  intro row hlisted hne
  obtain ⟨participation, hparticipation, hsettlement⟩ := List.mem_filterMap.1 (hperm.mem_iff.2 hlisted)
  obtain ⟨hrow', hcopies'⟩ :=
    (settlementOf_eq_some hmatches hplayers hsettlements h (hmem participation hparticipation).1).1 hsettlement
  have hlater : participation ∈ rest := by
    rcases List.mem_cons.1 hparticipation with rfl | hlater
    · rw [hfirst] at hsettlement
      exact absurd (Option.some.inj hsettlement).symm hne
    · exact hlater
  -- An identity plays once in a match, so the other settlement is of another match.
  have hmatch : row.matchId ≠ settlement.matchId := by
    intro hsame
    obtain ⟨-, hplayer, -⟩ := (mem_participations_settled hmatches hplayers).1 (hmem first List.mem_cons_self).1
    obtain ⟨-, hplayer', -⟩ := (mem_participations_settled hmatches hplayers).1 (hmem participation hparticipation).1
    have hplayers := h.once participation.2 hplayer' first.2 hplayer
      (hcopies'.matchId.symm.trans (hsame.trans hcopies.matchId))
      ((hmem participation hparticipation).2.trans (hmem first List.mem_cons_self).2.symm)
    refine hne (Table.eq_of_key hrow' hrow ?_)
    exact hcopies'.playerId.trans ((congrArg PlayerRow.id hplayers).trans hcopies.playerId.symm)
  have hupdated : updatedAt row.matchId ≤ updatedAt settlement.matchId := by
    obtain ⟨-, -, hid⟩ := (mem_participations_settled hmatches hplayers).1 (hmem first List.mem_cons_self).1
    obtain ⟨-, -, hid'⟩ := (mem_participations_settled hmatches hplayers).1 (hmem participation hparticipation).1
    rw [hcopies.matchId, hcopies'.matchId, hid, hid']
    exact ((List.pairwise_cons.1 hordered).1 participation hlater).1
  have htimes := h.distinct row hrow' settlement hrow hmatch
  have hnot : ¬ settlement.settledAt < row.settledAt := by
    rw [h.ordered settlement hrow row hrow', not_lt]
    exact hupdated
  exact Prod.Lex.toLex_lt_toLex.2 (Or.inl (by omega))

/-- Each aggregate is what the identity's settlements come to. -/
theorem aggregate_settled (hashApiKey : String → String) (apiKeyRows : List ApiKeyRow) {identity : String}
    {aggregate : LeaderboardAggregate}
    (haggregate : (leaderboardAggregates hashApiKey updatedAt completedMatches players apiKeyRows settlements).get?
      identity = some aggregate) :
    ∃ player ∈ db.completedPlayers, ∃ settlement, leaderboardCompetitorIdentity player = identity ∧
      settlement.Copies player ∧
      latestSettlement (db.playerMatchSettlements.rows.filter fun row => settlementIdentity row = identity) =
        some settlement ∧
      aggregate =
        { newLeaderboardAggregate hashApiKey (indexBy (·.id) apiKeyRows) player (some settlement) with
          matchesPlayed := (db.playerMatchSettlements.rows.filter fun row => settlementIdentity row = identity).length
          wins := (db.playerMatchSettlements.rows.filter fun row => settlementIdentity row = identity).countP
            fun row => row.outcome = .win
          losses := (db.playerMatchSettlements.rows.filter fun row => settlementIdentity row = identity).countP
            fun row => row.outcome = .loss
          draws := (db.playerMatchSettlements.rows.filter fun row => settlementIdentity row = identity).countP
            fun row => row.outcome = .draw } := by
  have hperm := settlements_counted hmatches hplayers hsettlements h identity
  rw [get?_leaderboardAggregates] at haggregate
  cases hcounted : (participations updatedAt completedMatches players).filter fun participation =>
      leaderboardCompetitorIdentity participation.2 = identity with
  | nil =>
      rw [hcounted] at haggregate
      cases haggregate
  | cons first rest =>
      rw [hcounted] at haggregate hperm
      have hmem : ∀ participation ∈ first :: rest,
          participation ∈ participations updatedAt completedMatches players ∧
            leaderboardCompetitorIdentity participation.2 = identity := by
        intro participation hmem
        rw [← hcounted] at hmem
        exact ⟨(List.mem_filter.1 hmem).1, of_decide_eq_true (List.mem_filter.1 hmem).2⟩
      obtain ⟨hfirst, hidentity⟩ := hmem first List.mem_cons_self
      obtain ⟨settlement, hsettlement⟩ := exists_settlementOf hmatches hplayers hsettlements h hfirst
      obtain ⟨-, hcopies⟩ := (settlementOf_eq_some hmatches hplayers hsettlements h hfirst).1 hsettlement
      refine ⟨first.2, ((mem_participations_settled hmatches hplayers).1 hfirst).2.1, settlement, hidentity, hcopies,
        latestSettlement_first hmatches hplayers hsettlements h hcounted hsettlement, ?_⟩
      dsimp only [countedAggregate] at haggregate
      rw [foldl_played_settled] at haggregate
      · rw [← Option.some.inj haggregate, firstAggregate, hsettlement, hperm.length_eq, hperm.countP_eq,
          hperm.countP_eq, hperm.countP_eq]
        simp [newLeaderboardAggregate]
      · exact fun participation hlisted =>
          exists_settlementOf hmatches hplayers hsettlements h (hmem participation hlisted).1

omit hsettlements h in
theorem mem_keys_leaderboardAggregates (hashApiKey : String → String) (apiKeyRows : List ApiKeyRow) (identity : String) :
    identity ∈ (leaderboardAggregates hashApiKey updatedAt completedMatches players apiKeyRows settlements).keys ↔
      ∃ player ∈ db.completedPlayers, leaderboardCompetitorIdentity player = identity := by
  rw [OrdDict.mem_keys, get?_leaderboardAggregates]
  cases hcounted : (participations updatedAt completedMatches players).filter fun participation =>
      leaderboardCompetitorIdentity participation.2 = identity with
  | nil =>
      constructor
      · rintro ⟨aggregate, haggregate⟩
        cases haggregate
      · rintro ⟨player, hplayer, hidentity⟩
        obtain ⟨matchRow, hmem⟩ := exists_participation hmatches hplayers hplayer
        exact absurd (decide_eq_true hidentity) (List.filter_eq_nil_iff.1 hcounted _ hmem)
  | cons first rest =>
      refine ⟨fun _ => ?_, fun _ => ⟨_, rfl⟩⟩
      have hfirst : first ∈ (participations updatedAt completedMatches players).filter fun participation =>
          leaderboardCompetitorIdentity participation.2 = identity := by
        rw [hcounted]
        exact List.mem_cons_self
      obtain ⟨hfirst, hidentity⟩ := List.mem_filter.1 hfirst
      exact ⟨first.2, ((mem_participations_settled hmatches hplayers).1 hfirst).2.1, of_decide_eq_true hidentity⟩

end Settled

theorem countP_outcomes (rows : List PlayerMatchSettlementRow) :
    (rows.countP fun row => row.outcome = .win) + (rows.countP fun row => row.outcome = .loss) +
      (rows.countP fun row => row.outcome = .draw) = rows.length := by
  induction rows with
  | nil => rfl
  | cons row rows ih =>
      simp only [List.countP_cons, List.length_cons]
      cases row.outcome <;> simp <;> omega

/-! ### What the profiles show -/

def LeaderboardAggregate.standing (aggregate : LeaderboardAggregate) : SettlementAggregate :=
  ⟨aggregate.displayName, aggregate.elo, aggregate.matchesPlayed, aggregate.wins, aggregate.losses, aggregate.draws,
    aggregate.provisional⟩

def LeaderboardEntry.standing (entry : LeaderboardEntry) : SettlementAggregate :=
  ⟨entry.displayName, entry.elo, entry.matchesPlayed, entry.wins, entry.losses, entry.draws, entry.provisional⟩

def RatedAgentProfile.standing (profile : RatedAgentProfile) : SettlementAggregate :=
  ⟨profile.displayName, profile.rating.elo, profile.history.matchesPlayed, profile.history.wins,
    profile.history.losses, profile.history.draws, profile.rating.provisional⟩

def HumanProfileResponse.standing (profile : HumanProfileResponse) : SettlementAggregate :=
  ⟨profile.displayName, profile.rating.elo, profile.history.matchesPlayed, profile.history.wins,
    profile.history.losses, profile.history.draws, profile.rating.provisional⟩

/-- The keys that a read loads are the rows it asks for. -/
theorem apiKeyOfPlayer_indexed {db : Database} {apiKeyIds : List String} {player : PlayerRow}
    (hloaded : ∀ apiKeyId, player.apiKeyId = some apiKeyId → apiKeyId ∈ apiKeyIds) :
    player.apiKeyId.bind (indexBy (·.id) ((db.apiKeys.rows.filter fun apiKey => apiKey.id ∈ apiKeyIds).insertionSort
      fun first second => first.id ≤ second.id)).get? = apiKeyOfPlayer db player := by
  unfold apiKeyOfPlayer
  cases hkey : player.apiKeyId with
  | none => rfl
  | some apiKeyId =>
      rw [Option.bind_some, Option.bind_some]
      have hnodup : (((db.apiKeys.rows.filter fun apiKey => apiKey.id ∈ apiKeyIds).insertionSort
          fun first second => first.id ≤ second.id).map (·.id)).Nodup :=
        ((List.perm_insertionSort _ _).map _).nodup_iff.2 (db.apiKeys.nodup.sublist (List.filter_sublist.map _))
      apply Option.ext
      intro apiKey
      rw [get?_indexBy hnodup, Table.get?_eq_some, List.mem_insertionSort, List.mem_filter, decide_eq_true_eq]
      constructor
      · rintro ⟨⟨hrow, -⟩, hid⟩
        exact ⟨hrow, hid⟩
      · rintro ⟨hrow, hid⟩
        exact ⟨⟨hrow, hid ▸ hloaded apiKeyId hkey⟩, hid⟩

section Profiles

variable (hashApiKey : String → String) {db : Database}

theorem agentIdOfPlayer_cases {player : PlayerRow}
    (hkeyed : ∀ apiKeyId, player.apiKeyId = some apiKeyId → apiKeyId ∈ db.apiKeys.keys) :
    (∃ apiKey ∈ db.apiKeys.rows, player.apiKeyId = some apiKey.id ∧
      agentIdOfPlayer hashApiKey db player = agentIdOfKey hashApiKey apiKey) ∨
    (player.apiKeyId = none ∧ agentIdOfPlayer hashApiKey db player = buildUserBackedAgentId player.userId) := by
  unfold agentIdOfPlayer apiKeyOfPlayer
  cases hkey : player.apiKeyId with
  | none => exact Or.inr ⟨rfl, rfl⟩
  | some apiKeyId =>
      obtain ⟨apiKey, hrow, hid⟩ := List.mem_map.1 (hkeyed apiKeyId hkey)
      refine Or.inl ⟨apiKey, hrow, by rw [hid], ?_⟩
      rw [Option.bind_some, Table.get?_eq_some.2 ⟨hrow, hid⟩]
      unfold agentIdOfKey resolveLoadedAgentIdentity
      dsimp only
      cases (buildSeededProfilesByKeyHash hashApiKey).get? apiKey.keyHash with
      | none => rfl
      | some profile => rfl

/-- An agent id belongs to one identity. -/
theorem identity_of_agentId {player player' : PlayerRow}
    (hkeyed : ∀ apiKeyId, player.apiKeyId = some apiKeyId → apiKeyId ∈ db.apiKeys.keys)
    (hkeyed' : ∀ apiKeyId, player'.apiKeyId = some apiKeyId → apiKeyId ∈ db.apiKeys.keys)
    (hsame : agentIdOfPlayer hashApiKey db player = agentIdOfPlayer hashApiKey db player') :
    playerCompetitorIdentity player = playerCompetitorIdentity player' := by
  unfold playerCompetitorIdentity
  rcases agentIdOfPlayer_cases hashApiKey hkeyed with ⟨apiKey, hrow, hkey, hagentId⟩ | ⟨hkey, hagentId⟩ <;>
    rcases agentIdOfPlayer_cases hashApiKey hkeyed' with ⟨apiKey', hrow', hkey', hagentId'⟩ | ⟨hkey', hagentId'⟩ <;>
      rw [hagentId, hagentId'] at hsame
  · rw [hkey, hkey', agentIdOfKey_injOn hashApiKey db hrow hrow' hsame]
  · exact absurd hsame (agentIdOfKey_ne_userBacked hashApiKey apiKey _)
  · exact absurd hsame.symm (agentIdOfKey_ne_userBacked hashApiKey apiKey' _)
  · rw [hkey, hkey', buildUserBackedAgentId_injective hsame]

/-- A read that loads at least an identity's settlements finds its aggregate. -/
theorem get?_loaded {settlementRows : List PlayerMatchSettlementRow} {loaded : PlayerMatchSettlementRow → Bool}
    {identity : String} (hperm : settlementRows.Perm (db.playerMatchSettlements.rows.filter loaded))
    (hloaded : ∀ row ∈ db.playerMatchSettlements.rows, settlementIdentity row = identity → loaded row = true) :
    (loadSettlementAggregatesByIdentity settlementRows).get? identity =
      settlementAggregate (db.playerMatchSettlements.rows.filter fun row => settlementIdentity row = identity) := by
  rw [get?_loadSettlementAggregatesByIdentity]
  have hfilter : (db.playerMatchSettlements.rows.filter loaded).filter (fun row => settlementIdentity row = identity) =
      db.playerMatchSettlements.rows.filter fun row => settlementIdentity row = identity := by
    rw [List.filter_filter]
    apply List.filter_congr
    intro row hrow
    by_cases hidentity : settlementIdentity row = identity
    · simp [hidentity, hloaded row hrow hidentity]
    · simp [hidentity]
  rw [← hfilter]
  apply settlementAggregate_perm (hperm.filter _)
  refine ((hperm.filter _).map _).nodup_iff.2 ?_
  rw [hfilter]
  exact db.playerMatchSettlements.nodup.sublist (List.filter_sublist.map _)

/-- The profile that an agent's row makes. -/
def ratedProfileOfPlayer (db : Database) (player : PlayerRow) : RatedAgentProfile :=
  buildRatedAgentProfile (resolveLoadedAgentIdentity hashApiKey player (apiKeyOfPlayer db player)) player
    (settlementAggregate (db.playerMatchSettlements.rows.filter fun row =>
      settlementIdentity row = playerCompetitorIdentity player))

/-- The registry's copy of a profile is the profile without rating and history. -/
theorem ratedProfileOfPlayer_toAgentProfileResponse {player : PlayerRow} (hagent : player.isAgent = true) :
    (ratedProfileOfPlayer hashApiKey db player).toAgentProfileResponse = buildAgentProfile hashApiKey db player := by
  have hsettles : settlesPlayer player = fun row => decide (settlementIdentity row = playerCompetitorIdentity player) := by
    funext row
    rw [Bool.eq_iff_iff, decide_eq_true_eq]
    exact settlesPlayer_iff hagent row
  unfold ratedProfileOfPlayer buildAgentProfile settlementAggregate
  rw [hsettles]
  cases latestSettlement (db.playerMatchSettlements.rows.filter fun row =>
      settlementIdentity row = playerCompetitorIdentity player) with
  | none => rfl
  | some latest => rfl

/-- The agents' rows, the profile of each under its agent id. -/
theorem getAgentProfileFromDb_eq (db : Database) :
    ∃ agents : List PlayerRow, (∀ player, player ∈ agents ↔ player ∈ db.players.rows ∧ player.isAgent = true) ∧
      ∀ agentId, getAgentProfileFromDb hashApiKey db agentId =
        (OrdDict.ofList (agents.map fun player =>
          (agentIdOfPlayer hashApiKey db player, ratedProfileOfPlayer hashApiKey db player))).get? agentId := by
  let playerRows := db.players.rows.insertionSort fun first second =>
    first.matchId < second.matchId ∨ (first.matchId = second.matchId ∧ first.id ≤ second.id)
  let agents := ((playerRows.filter (·.isAgent)).insertionSort fun first second => first.id ≤ second.id).filter
    (·.isAgent)
  have hagents : ∀ player, player ∈ agents ↔ player ∈ db.players.rows ∧ player.isAgent = true := by
    intro player
    simp [agents, playerRows]
  refine ⟨agents, hagents, fun agentId => ?_⟩
  unfold getAgentProfileFromDb buildAgentProfilesByAgentId
  dsimp only
  refine congrArg (fun profiles => (OrdDict.ofList profiles).get? agentId)
    (List.map_congr_left fun player hplayer => ?_)
  obtain ⟨hrow, hagent⟩ := (hagents player).1 hplayer
  have hkey : ∀ apiKeyId, player.apiKeyId = some apiKeyId →
      apiKeyId ∈ (playerRows.filter (·.isAgent)).filterMap (·.apiKeyId) := by
    intro apiKeyId hkey
    exact List.mem_filterMap.2 ⟨player, List.mem_filter.2 ⟨(List.mem_insertionSort _).2 hrow, hagent⟩, hkey⟩
  have hsettlements : ((((db.playerMatchSettlements.rows.filter (·.isAgent)).insertionSort fun first second =>
      first.settledAt < second.settledAt ∨
        (first.settledAt = second.settledAt ∧ first.playerId ≤ second.playerId)).filter (·.isAgent))).Perm
      (db.playerMatchSettlements.rows.filter (·.isAgent)) := by
    have hperm := (List.perm_insertionSort (fun first second : PlayerMatchSettlementRow =>
      first.settledAt < second.settledAt ∨ (first.settledAt = second.settledAt ∧ first.playerId ≤ second.playerId))
      (db.playerMatchSettlements.rows.filter (·.isAgent))).filter (·.isAgent)
    simpa only [List.filter_filter, Bool.and_self] using hperm
  have hagentRows : ∀ row ∈ db.playerMatchSettlements.rows,
      settlementIdentity row = playerCompetitorIdentity player → row.isAgent = true := by
    intro row _ hidentity
    rw [playerCompetitorIdentity_eq hagent] at hidentity
    exact (competitorIdentity_eq_iff.1 hidentity).1.trans hagent
  rw [apiKeyOfPlayer_indexed hkey, get?_loaded hsettlements hagentRows]
  rfl

/-- The profile of a settled agent shows what its settlements come to. -/
theorem getAgentProfileFromDb_standing
    (hkeyed : ∀ player ∈ db.players.rows, ∀ apiKeyId, player.apiKeyId = some apiKeyId → apiKeyId ∈ db.apiKeys.keys)
    {player : PlayerRow} (hplayer : player ∈ db.players.rows) (hagent : player.isAgent = true)
    {aggregate : SettlementAggregate}
    (haggregate : settlementAggregate (db.playerMatchSettlements.rows.filter fun row =>
      settlementIdentity row = leaderboardCompetitorIdentity player) = some aggregate) :
    ∃ profile, getAgentProfileFromDb hashApiKey db (agentIdOfPlayer hashApiKey db player) = some profile ∧
      profile.standing = aggregate := by
  obtain ⟨agents, hagents, hread⟩ := getAgentProfileFromDb_eq hashApiKey db
  have hlisted : agentIdOfPlayer hashApiKey db player ∈ (agents.map fun player =>
      (agentIdOfPlayer hashApiKey db player, ratedProfileOfPlayer hashApiKey db player)).map Prod.fst := by
    rw [List.map_map]
    exact List.mem_map_of_mem ((hagents player).2 ⟨hplayer, hagent⟩)
  obtain ⟨profile, hprofile⟩ := OrdDict.mem_keys.1 (OrdDict.mem_keys_ofList.2 hlisted)
  refine ⟨profile, (hread _).trans hprofile, ?_⟩
  obtain ⟨other, hother, heq⟩ := List.mem_map.1 (OrdDict.mem_of_get?_ofList hprofile)
  obtain ⟨hotherRow, hotherAgent⟩ := (hagents other).1 hother
  obtain ⟨hagentId, rfl⟩ := Prod.mk.inj heq
  have hidentity := identity_of_agentId hashApiKey (hkeyed other hotherRow) (hkeyed player hplayer) hagentId
  unfold ratedProfileOfPlayer
  rw [hidentity, playerCompetitorIdentity_eq hagent, haggregate]
  rfl

/-- The profile of a settled human shows what their settlements come to. -/
theorem getHumanProfileFromDb_standing {player : PlayerRow} (hhuman : player.isAgent = false)
    (hnamed : player.userId ≠ "") {aggregate : SettlementAggregate}
    (haggregate : settlementAggregate (db.playerMatchSettlements.rows.filter fun row =>
      settlementIdentity row = leaderboardCompetitorIdentity player) = some aggregate) :
    ∃ profile, getHumanProfileFromDb db (buildHumanActorId player.userId) = some profile ∧
      profile.standing = aggregate := by
  have hidentity : buildHumanActorId player.userId = leaderboardCompetitorIdentity player := by
    unfold leaderboardCompetitorIdentity competitorIdentity
    rw [hhuman]
    rfl
  have hloaded : ∀ row ∈ db.playerMatchSettlements.rows,
      settlementIdentity row = leaderboardCompetitorIdentity player →
        decide (row.isAgent = false ∧ row.userId = player.userId) = true := by
    intro row _ hsame
    obtain ⟨hagent, -, huser⟩ := competitorIdentity_eq_iff.1 hsame
    rw [hhuman] at hagent
    exact decide_eq_true ⟨hagent, huser (Or.inl hagent)⟩
  refine ⟨⟨buildHumanActorId player.userId, aggregate.displayName, aggregate.rating, aggregate.history⟩, ?_, rfl⟩
  unfold getHumanProfileFromDb
  rw [parseHumanActorId_buildHumanActorId hnamed]
  dsimp only
  rw [hidentity, get?_loaded (List.perm_insertionSort _ _) hloaded, haggregate]

end Profiles

/-! ### The leaderboard's rows -/

/-- A row shows what the settlements of its identity come to, and so does the profile it points to. -/
structure RowAgrees (hashApiKey : String → String) (db : Database) (identity : String) (entry : LeaderboardEntry) :
    Prop where
  named : ∃ player ∈ db.completedPlayers, leaderboardCompetitorIdentity player = identity ∧
    entry.competitorKind = (if player.isAgent then .agent else .human) ∧
    entry.agentId = (if player.isAgent then some (agentIdOfPlayer hashApiKey db player) else none) ∧
    entry.humanId = if player.isAgent then none else some (buildHumanActorId player.userId)
  settled : (loadSettlementAggregatesByIdentity db.playerMatchSettlements.rows).get? identity = some entry.standing
  agentProfile : entry.competitorKind = .agent → ∃ agentId profile, entry.agentId = some agentId ∧
    getAgentProfileFromDb hashApiKey db agentId = some profile ∧ profile.standing = entry.standing
  humanProfile : entry.competitorKind = .human → ∃ humanId profile, entry.humanId = some humanId ∧
    getHumanProfileFromDb db humanId = some profile ∧ profile.standing = entry.standing
  counted : entry.wins + entry.losses + entry.draws = entry.matchesPlayed
  valid : entry.FieldsValid

def LeaderboardAggregate.sortKey (casefold : String → String) (aggregate : LeaderboardAggregate) :
    Int ×ₗ String ×ₗ String ×ₗ String :=
  toLex (-aggregate.elo, toLex (casefold aggregate.displayName,
    toLex (aggregate.competitorKind.value, aggregate.competitorKey)))

theorem leaderboardOrder_isLE_iff (casefold : String → String) (first second : LeaderboardAggregate) :
    (leaderboardOrder casefold first second).isLE ↔ first.sortKey casefold ≤ second.sortKey casefold := by
  unfold leaderboardOrder LeaderboardAggregate.sortKey
  simp only [isLE_then_compare, isLE_compare_iff, Prod.Lex.toLex_le_toLex, Int.neg_lt_neg_iff, Int.neg_inj,
    eq_comm (a := second.elo)]

theorem forall₂_mapIdx {α β : Type} {R : α → β → Prop} {f : Nat → α → β} {items : List α}
    (h : ∀ i, ∀ item ∈ items, R item (f i item)) : List.Forall₂ R items (items.mapIdx f) := by
  induction items generalizing f with
  | nil => exact .nil
  | cons item items ih =>
      rw [List.mapIdx_cons]
      exact .cons (h 0 item List.mem_cons_self) (ih fun i other hother => h (i + 1) other (List.mem_cons_of_mem _ hother))

section Rows

variable {hashApiKey : String → String} {updatedAt : String → Nat} {db : Database} (h : SettledHistory updatedAt db)
  {completedMatches : List MatchRow} {players : List PlayerRow} {settlements : List PlayerMatchSettlementRow}
  (hmatches : completedMatches.Perm db.completedMatches) (hplayers : players.Perm db.completedPlayers)
  (hsettlements : settlements.Perm db.playerMatchSettlements.rows)

include h hmatches hplayers hsettlements

theorem rowAgrees_entry {apiKeyIds : List String}
    (hloaded : ∀ player ∈ db.completedPlayers, ∀ apiKeyId, player.apiKeyId = some apiKeyId → apiKeyId ∈ apiKeyIds)
    {identity : String} {aggregate : LeaderboardAggregate}
    (haggregate : (leaderboardAggregates hashApiKey updatedAt completedMatches players
      ((db.apiKeys.rows.filter fun apiKey => apiKey.id ∈ apiKeyIds).insertionSort fun first second =>
        first.id ≤ second.id) settlements).get? identity = some aggregate) (index : Nat) :
    aggregate.competitorKey = identity ∧ RowAgrees hashApiKey db identity (leaderboardEntry (index + 1) aggregate) := by
  obtain ⟨player, hplayer, settlement, rfl, hcopies, hlatest, heq⟩ :=
    aggregate_settled hmatches hplayers hsettlements h hashApiKey _ haggregate
  have hrow : player ∈ db.players.rows := (List.mem_filter.1 hplayer).1
  have hsettled : settlementAggregate (db.playerMatchSettlements.rows.filter fun row =>
      settlementIdentity row = leaderboardCompetitorIdentity player) =
        some (leaderboardEntry (index + 1) aggregate).standing := by
    unfold settlementAggregate
    rw [hlatest, heq, Option.map_some, hcopies.displayName]
    rfl
  have hkind : (leaderboardEntry (index + 1) aggregate).competitorKind = if player.isAgent then .agent else .human := by
    rw [heq]
    rfl
  have hagentId : aggregate.agentId =
      if player.isAgent then some (agentIdOfPlayer hashApiKey db player) else none := by
    rw [heq]
    unfold newLeaderboardAggregate leaderboardAgentId publicCompetitorAgentId agentIdOfPlayer
    rw [apiKeyOfPlayer_indexed (hloaded player hplayer)]
  have hhumanId : aggregate.humanId = if player.isAgent then none else some (buildHumanActorId player.userId) := by
    rw [heq]
    rfl
  have helo : 0 ≤ aggregate.elo := by
    rw [heq]
    exact hcopies.eloAfter
  refine ⟨by rw [heq]; rfl, ?_, ?_, ?_, ?_, ?_, ?_⟩
  · exact ⟨player, hplayer, rfl, hkind, hagentId, hhumanId⟩
  · exact (get?_loadSettlementAggregatesByIdentity _ _).trans hsettled
  · intro hagent
    cases his : player.isAgent with
    | false =>
        rw [hkind, his] at hagent
        cases hagent
    | true =>
        obtain ⟨profile, hprofile, hstanding⟩ :=
          getAgentProfileFromDb_standing hashApiKey h.keyed hrow his hsettled
        refine ⟨_, profile, ?_, hprofile, hstanding⟩
        rw [his, if_pos rfl] at hagentId
        exact hagentId
  · intro hhuman
    cases his : player.isAgent with
    | true =>
        rw [hkind, his] at hhuman
        cases hhuman
    | false =>
        obtain ⟨profile, hprofile, hstanding⟩ := getHumanProfileFromDb_standing his (h.named player hplayer) hsettled
        refine ⟨_, profile, ?_, hprofile, hstanding⟩
        rw [his] at hhumanId
        exact hhumanId
  · rw [heq]
    exact countP_outcomes _
  · refine ⟨Nat.succ_le_succ (Nat.zero_le index), helo, ?_⟩
    rw [hkind]
    cases his : player.isAgent with
    | false =>
        rw [his] at hagentId hhumanId
        exact ⟨hagentId, fun hnone => Option.some_ne_none _ (hhumanId.symm.trans hnone)⟩
    | true =>
        rw [his] at hhumanId
        exact hhumanId

/-- The aggregates in their order, each with its identity. -/
theorem rowsAgree_buildPublicLeaderboard (casefold : String → String) {apiKeyIds : List String}
    (hloaded : ∀ player ∈ db.completedPlayers, ∀ apiKeyId, player.apiKeyId = some apiKeyId → apiKeyId ∈ apiKeyIds) :
    ∃ identities : List String, identities.Nodup ∧
      (∀ identity, identity ∈ identities ↔
        ∃ player ∈ db.completedPlayers, leaderboardCompetitorIdentity player = identity) ∧
      List.Forall₂ (RowAgrees hashApiKey db) identities
        (buildPublicLeaderboard hashApiKey casefold updatedAt completedMatches players
          ((db.apiKeys.rows.filter fun apiKey => apiKey.id ∈ apiKeyIds).insertionSort fun first second =>
            first.id ≤ second.id) settlements) := by
  unfold buildPublicLeaderboard
  set apiKeyRows := (db.apiKeys.rows.filter fun apiKey => apiKey.id ∈ apiKeyIds).insertionSort fun first second =>
    first.id ≤ second.id with hrows
  set aggregates := leaderboardAggregates hashApiKey updatedAt completedMatches players apiKeyRows settlements
    with haggregates
  set listed := aggregates.values.insertionSort fun first second => (leaderboardOrder casefold first second).isLE
  have hagrees : ∀ {identity aggregate}, aggregates.get? identity = some aggregate → ∀ index,
      aggregate.competitorKey = identity ∧
        RowAgrees hashApiKey db identity (leaderboardEntry (index + 1) aggregate) := by
    intro identity aggregate haggregate index
    exact rowAgrees_entry h hmatches hplayers hsettlements hloaded haggregate index
  have hkeys : (listed.map (·.competitorKey)).Perm aggregates.keys := by
    refine ((List.perm_insertionSort _ aggregates.values).map _).trans (List.Perm.of_eq ?_)
    unfold OrdDict.values OrdDict.keys
    rw [List.map_map]
    refine List.map_congr_left fun entry hentry => ?_
    exact (hagrees (OrdDict.get?_eq_some.2 hentry) 0).1
  refine ⟨listed.map (·.competitorKey), hkeys.nodup_iff.2 aggregates.keys_nodup, fun identity => ?_, ?_⟩
  · rw [hkeys.mem_iff, haggregates, mem_keys_leaderboardAggregates hmatches hplayers]
  · rw [List.forall₂_map_left_iff]
    refine forall₂_mapIdx fun index aggregate hlisted => ?_
    obtain ⟨identity, haggregate⟩ := OrdDict.mem_values.1 ((List.mem_insertionSort _).1 hlisted)
    obtain ⟨hkey, hrow⟩ := hagrees haggregate index
    rw [hkey]
    exact hrow

end Rows

theorem ranks_buildPublicLeaderboard (hashApiKey casefold : String → String) (updatedAt : String → Nat)
    (completedMatches : List MatchRow) (players : List PlayerRow) (apiKeyRows : List ApiKeyRow)
    (settlements : List PlayerMatchSettlementRow) :
    ((buildPublicLeaderboard hashApiKey casefold updatedAt completedMatches players apiKeyRows settlements).map
        (·.rank) =
      List.range' 1
        (buildPublicLeaderboard hashApiKey casefold updatedAt completedMatches players apiKeyRows settlements).length) ∧
      (buildPublicLeaderboard hashApiKey casefold updatedAt completedMatches players apiKeyRows settlements).Pairwise
        fun entry entry' => entry'.elo ≤ entry.elo := by
  unfold buildPublicLeaderboard
  simp only [leaderboardOrder_isLE_iff]
  set listed := (leaderboardAggregates hashApiKey updatedAt completedMatches players apiKeyRows
    settlements).values.insertionSort fun first second => first.sortKey casefold ≤ second.sortKey casefold
  have hsorted : listed.Pairwise fun first second => first.sortKey casefold ≤ second.sortKey casefold :=
    pairwise_key_insertionSort _
  constructor
  · apply List.ext_getElem
    · simp
    · intro index hindex hindex'
      simp [leaderboardEntry, Nat.add_comm]
  · rw [List.pairwise_iff_getElem] at hsorted ⊢
    intro index index' hindex hindex' hlt
    rw [List.length_mapIdx] at hindex hindex'
    rw [List.getElem_mapIdx, List.getElem_mapIdx]
    have hle := hsorted index index' hindex hindex' hlt
    unfold LeaderboardAggregate.sortKey at hle
    unfold leaderboardEntry
    rcases Prod.Lex.toLex_le_toLex.1 hle with hless | ⟨hsame, -⟩
    · dsimp only at hless ⊢
      omega
    · dsimp only at hsame ⊢
      omega

/-- Every identity of the completed matches has one row, and the row and the identity's profile show the same. -/
theorem leaderboard_profiles_agree (hashApiKey casefold : String → String) {updatedAt : String → Nat} {db : Database}
    (h : SettledHistory updatedAt db) :
    (∃ identities : List String, identities.Nodup ∧
      (∀ identity, identity ∈ identities ↔
        ∃ player ∈ db.completedPlayers, leaderboardCompetitorIdentity player = identity) ∧
      List.Forall₂ (RowAgrees hashApiKey db) identities (getPublicLeaderboard hashApiKey casefold updatedAt db)) ∧
    (getPublicLeaderboard hashApiKey casefold updatedAt db).map (·.rank) =
      List.range' 1 (getPublicLeaderboard hashApiKey casefold updatedAt db).length ∧
    (getPublicLeaderboard hashApiKey casefold updatedAt db).Pairwise fun entry entry' => entry'.elo ≤ entry.elo := by
  unfold getPublicLeaderboard
  dsimp only
  set completedMatches := (db.matchRows.rows.filter fun matchRow => matchRow.status = .completed).insertionSort
    fun first second =>
      updatedAt second.id < updatedAt first.id ∨ (updatedAt first.id = updatedAt second.id ∧ second.id ≤ first.id)
  have hmatches : completedMatches.Perm db.completedMatches := List.perm_insertionSort _ _
  split
  · rename_i hnone
    refine ⟨⟨[], List.nodup_nil, fun identity => ?_, .nil⟩, rfl, .nil⟩
    have hnil : db.completedMatches = [] := by
      rw [hnone] at hmatches
      exact hmatches.nil_eq.symm
    simp [Database.completedPlayers, hnil]
  · set players := (db.players.rows.filter fun player => player.matchId ∈ completedMatches.map (·.id)).insertionSort
      fun first second => first.matchId < second.matchId ∨ (first.matchId = second.matchId ∧ first.id ≤ second.id)
    set settlements := (db.playerMatchSettlements.rows.filter fun settlement =>
      settlement.matchId ∈ completedMatches.map (·.id)).insertionSort fun first second =>
        first.matchId < second.matchId ∨ (first.matchId = second.matchId ∧ first.playerId ≤ second.playerId)
    have hids : ∀ id, id ∈ completedMatches.map (·.id) ↔ id ∈ db.completedMatches.map (·.id) :=
      fun id => (hmatches.map _).mem_iff
    have hplayers : players.Perm db.completedPlayers := by
      refine (List.perm_insertionSort _ _).trans (List.Perm.of_eq ?_)
      exact List.filter_congr fun player _ => decide_eq_decide.2 (hids player.matchId)
    have hsettlements : settlements.Perm db.playerMatchSettlements.rows := by
      refine (List.perm_insertionSort _ _).trans (List.Perm.of_eq (List.filter_eq_self.2 fun settlement hrow => ?_))
      obtain ⟨player, hplayer, hcopies⟩ := h.copied settlement hrow
      rw [decide_eq_true_eq, hids, hcopies.matchId]
      exact of_decide_eq_true (List.mem_filter.1 hplayer).2
    have hloaded : ∀ player ∈ db.completedPlayers, ∀ apiKeyId, player.apiKeyId = some apiKeyId →
        apiKeyId ∈ players.filterMap (·.apiKeyId) :=
      fun player hplayer apiKeyId hkey => List.mem_filterMap.2 ⟨player, hplayers.mem_iff.2 hplayer, hkey⟩
    refine ⟨?_, ?_⟩
    · exact rowsAgree_buildPublicLeaderboard h hmatches hplayers hsettlements casefold hloaded
    · exact ranks_buildPublicLeaderboard hashApiKey casefold updatedAt completedMatches players _ settlements

/-! ### A human and an agent who play twice -/

def rivalKey : ApiKeyRow := ⟨"key-1", "user-2", "hash-1", 1216, true, 0⟩

def rivalHuman (rowId matchId displayName : String) (eloRating : Int) : PlayerRow :=
  ⟨rowId, "user-1", matchId, displayName, false, none, eloRating, none, none⟩

def rivalAgent (rowId matchId : String) (eloRating : Int) : PlayerRow :=
  ⟨rowId, "user-2", matchId, "Automaton", true, some rivalKey.id, eloRating, none, none⟩

def rivalMatch (matchId winner : String) : MatchRow :=
  ⟨matchId, ⟨none, some 2, some 30, 1, 1, none, none⟩, .completed, 8, ⟨8, .empty, [], .empty, ⟨none, 0, 1, none⟩⟩,
    some winner⟩

def rivalOutcome (matchId winner : String) (settledAt : Nat) : MatchOutcome :=
  ⟨rivalMatch matchId winner, none, [winner], [(winner, 1)], settledAt⟩

/-- The agent loses the first match and wins the second one, which the human plays under a new name. -/
def rivalDatabase : Database where
  matchRows := ⟨[rivalMatch "match-1" "row-1", rivalMatch "match-2" "row-4"], by decide⟩
  apiKeys := ⟨[rivalKey], List.nodup_singleton _⟩
  keyHashes_nodup := List.nodup_singleton _
  agentEntitlementGrants := Table.empty
  alliances := Table.empty
  players :=
    ⟨[rivalHuman "row-1" "match-1" "Boudica" 1200, rivalAgent "row-2" "match-1" 1200,
      rivalHuman "row-3" "match-2" "Boadicea" 1224, rivalAgent "row-4" "match-2" 1188], by decide⟩
  matchSettlements := ⟨[⟨"match-1", 10⟩, ⟨"match-2", 20⟩], by decide⟩
  playerMatchSettlements :=
    ⟨[playerSettlement (rivalOutcome "match-1" "row-1" 10) (rivalHuman "row-1" "match-1" "Boudica" 1200),
      playerSettlement (rivalOutcome "match-1" "row-1" 10) (rivalAgent "row-2" "match-1" 1200),
      playerSettlement (rivalOutcome "match-2" "row-4" 20) (rivalHuman "row-3" "match-2" "Boadicea" 1224),
      playerSettlement (rivalOutcome "match-2" "row-4" 20) (rivalAgent "row-4" "match-2" 1188)], by decide⟩
  treaties := Table.empty
  tickLogs := []

def rivalUpdatedAt (matchId : String) : Nat := if matchId = "match-1" then 11 else 21

theorem settledHistory_rivalDatabase : SettledHistory rivalUpdatedAt rivalDatabase where
  settled := by decide +kernel
  copied := by decide +kernel
  distinct := by decide +kernel
  ordered := by decide +kernel
  once := by decide +kernel
  keyed := by
    have hkeys : ∀ player ∈ rivalDatabase.players.rows, player.apiKeyId = none ∨ player.apiKeyId = some rivalKey.id := by
      decide
    intro player hplayer apiKeyId hkey
    rcases hkeys player hplayer with hnone | hsome
    · rw [hnone] at hkey
      cases hkey
    · rw [hsome] at hkey
      cases hkey
      decide
  named := by decide +kernel

theorem leaderboard_profiles_agree_rivals :
    (∃ identities : List String, identities.Nodup ∧
      (∀ identity, identity ∈ identities ↔
        ∃ player ∈ rivalDatabase.completedPlayers, leaderboardCompetitorIdentity player = identity) ∧
      List.Forall₂ (RowAgrees id rivalDatabase) identities (getPublicLeaderboard id id rivalUpdatedAt rivalDatabase)) ∧
    (getPublicLeaderboard id id rivalUpdatedAt rivalDatabase).map (·.rank) =
      List.range' 1 (getPublicLeaderboard id id rivalUpdatedAt rivalDatabase).length ∧
    (getPublicLeaderboard id id rivalUpdatedAt rivalDatabase).Pairwise fun entry entry' => entry'.elo ≤ entry.elo :=
  leaderboard_profiles_agree id id settledHistory_rivalDatabase

example :
    (getPublicLeaderboard id id rivalUpdatedAt rivalDatabase).map (fun entry => (entry.displayName, entry.elo)) =
      [("Automaton", 1212), ("Boadicea", 1212)] := by
  decide +kernel

end IronCouncil
