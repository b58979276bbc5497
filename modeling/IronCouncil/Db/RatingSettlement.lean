import IronCouncil.Db.PlayerIds

/-!
# Rating settlement

When a match completes, each of its players gets a settlement with the rating before and after, and an agent's key gets the new rating. The rating before is the one stored in the player's row.
-/

namespace IronCouncil

def baseWinGain : Nat := 8
def tenureBonus : Nat := 8
def territoryBonus : Nat := 8
def lossPenalty : Nat := 12

/-- The rows' dictionary that settlement looks canonical players up in. -/
abbrev PlayerMapping := OrdDict String String

section Winners

variable (matchRow : MatchRow) (state : MatchState) (canonicalPlayerByPersisted : PlayerMapping)

def winnerIdentityCandidates : List String :=
  match state.victory.leadingAlliance, matchRow.winnerAlliance with
  | none, none => []
  | some leading, none => [leading]
  | none, some persistedWinner => [persistedWinner]
  | some leading, some persistedWinner =>
      if persistedWinner = leading then [leading] else [leading, persistedWinner]

def playerIsMemberOfWinner (winnerIdentity : String) (player : PlayerRow) : Bool :=
  player.allianceId = some winnerIdentity ||
    ((canonicalPlayerByPersisted.get? player.id).bind state.players.get?).any fun playerState =>
      playerState.allianceId = some winnerIdentity

/-- The players that the first candidate with any winner at all names: by alliance, by row id, by canonical id. -/
def winnerPlayerIds (players : List PlayerRow) : List String :=
  ((winnerIdentityCandidates matchRow state).findSome? fun winnerIdentity =>
    let named : List (PlayerRow → Bool) :=
      [playerIsMemberOfWinner state canonicalPlayerByPersisted winnerIdentity,
        fun player => player.id = winnerIdentity,
        fun player => canonicalPlayerByPersisted.get? player.id = some winnerIdentity]
    named.findSome? fun isWinner =>
      let winners := (players.filter isWinner).map (·.id)
      if winners = [] then none else some winners).getD []

def territoryCountForPlayer (playerId : String) : Nat :=
  (((canonicalPlayerByPersisted.get? playerId).bind state.players.get?).map fun playerState =>
    playerState.citiesOwned.length).getD 0

/-- The alliance row of a member of the winner, the first that can be looked up. -/
def memberAlliance (variant : StorageVariant) (alliances : Table AllianceRow.id) (winnerIdentity : String) :
    List PlayerRow → Except PersistenceError (Option AllianceRow)
  | [] => .ok none
  | player :: players =>
      match player.allianceId with
      | none => memberAlliance variant alliances winnerIdentity players
      | some allianceId =>
          if playerIsMemberOfWinner state canonicalPlayerByPersisted winnerIdentity player then
            match sessionGet variant alliances allianceId with
            | .error error => .error error
            | .ok (some alliance) => .ok (some alliance)
            | .ok none => memberAlliance variant alliances winnerIdentity players
          else memberAlliance variant alliances winnerIdentity players

/-- A candidate is looked up as an alliance id first, whatever kind of id it is. -/
def allianceOfCandidates (variant : StorageVariant) (alliances : Table AllianceRow.id) (players : List PlayerRow) :
    List String → Except PersistenceError (Option AllianceRow)
  | [] => .ok none
  | winnerIdentity :: candidates =>
      match sessionGet variant alliances winnerIdentity with
      | .error error => .error error
      | .ok (some alliance) => .ok (some alliance)
      | .ok none =>
          match memberAlliance state canonicalPlayerByPersisted variant alliances winnerIdentity players with
          | .error error => .error error
          | .ok (some alliance) => .ok (some alliance)
          | .ok none => allianceOfCandidates variant alliances players candidates

def winnerAllianceForSettlement (variant : StorageVariant) (alliances : Table AllianceRow.id)
    (players : List PlayerRow) : Except PersistenceError (Option AllianceRow) :=
  allianceOfCandidates state canonicalPlayerByPersisted variant alliances players
    (winnerIdentityCandidates matchRow state)

end Winners

def outcomeForPlayer (playerId : String) (winnerPlayerIds : List String) : SettlementOutcome :=
  if winnerPlayerIds = [] then .draw else if playerId ∈ winnerPlayerIds then .win else .loss

/-- A fraction rounded to the nearest natural number, a half upwards. The source rounds a float; its terms are counts, far below the floats' precision. -/
def roundHalfUp (numerator denominator : Nat) : Nat := (2 * numerator + denominator) / (2 * denominator)

/-- The share of the winning alliance's life that the player was a member for, as a fraction of at most one. -/
def tenureRatioForWinner (player : PlayerRow) (matchRow : MatchRow) (winnerAlliance : Option AllianceRow) :
    Nat × Nat :=
  match winnerAlliance, player.allianceJoinedTick with
  | none, _ => (1, 1)
  | some _, none => (1, 1)
  | some alliance, some allianceJoinedTick =>
      let allianceDuration := max (matchRow.currentTick + 1 - alliance.formedTick) 1
      let playerTenure := max (matchRow.currentTick + 1 - allianceJoinedTick) 1
      (min playerTenure allianceDuration, allianceDuration)

def ratingDeltaForPlayer (player : PlayerRow) (matchRow : MatchRow) (winnerAlliance : Option AllianceRow)
    (outcome : SettlementOutcome) (winnerCityCounts : List (String × Nat)) : Int :=
  match outcome with
  | .draw => 0
  | .loss => -lossPenalty
  | .win =>
      let winnerTotalCities := (winnerCityCounts.map Prod.snd).sum
      let winnerCities := ((winnerCityCounts.find? fun entry => entry.1 = player.id).map Prod.snd).getD 0
      let territoryShare :=
        if 0 < winnerTotalCities then (winnerCities, winnerTotalCities) else (1, max winnerCityCounts.length 1)
      let tenureRatio := tenureRatioForWinner player matchRow winnerAlliance
      baseWinGain + roundHalfUp (tenureBonus * tenureRatio.1) tenureRatio.2 +
        roundHalfUp (territoryBonus * territoryShare.1) territoryShare.2

/-! ### The settlement of a match -/

/-- What is known of the outcome once the winners are found. -/
structure MatchOutcome where
  matchRow : MatchRow
  winnerAlliance : Option AllianceRow
  winnerPlayerIds : List String
  winnerCityCounts : List (String × Nat)
  settledAt : Nat

def playerSettlement (outcome : MatchOutcome) (player : PlayerRow) : PlayerMatchSettlementRow :=
  let playerOutcome := outcomeForPlayer player.id outcome.winnerPlayerIds
  let delta := ratingDeltaForPlayer player outcome.matchRow outcome.winnerAlliance playerOutcome
    outcome.winnerCityCounts
  { playerId := player.id
    matchId := outcome.matchRow.id
    userId := player.userId
    apiKeyId := player.apiKeyId
    displayName := player.displayName
    isAgent := player.isAgent
    outcome := playerOutcome
    eloBefore := player.eloRating
    eloAfter := max 0 (player.eloRating + delta)
    settledAt := outcome.settledAt }

/-- An agent's key takes over the settled rating. -/
def recordKeyElo (db : Database) (settlement : PlayerMatchSettlementRow) : Database :=
  match settlement.isAgent, settlement.apiKeyId with
  | true, some apiKeyId => db.setKeyElo apiKeyId settlement.eloAfter
  | _, _ => db

def settlePlayer (outcome : MatchOutcome) (db : Database) (player : PlayerRow) : Except PersistenceError Database :=
  match sessionAdd db.playerMatchSettlements (playerSettlement outcome player) with
  | .error error => .error error
  | .ok playerMatchSettlements =>
      .ok (recordKeyElo { db with playerMatchSettlements } (playerSettlement outcome player))

def settlePlayers (variant : StorageVariant) (settledAt : Nat) (db : Database) (matchRow : MatchRow) :
    Except PersistenceError Database :=
  let players := db.playersOfMatch matchRow.id
  if matchRow.state.FieldsValid then
    let state := matchRow.state
    let canonicalPlayerByPersisted :=
      buildPersistedPlayerMapping (state.players.keys.insertionSort (· ≤ ·)) players
    match winnerAllianceForSettlement matchRow state canonicalPlayerByPersisted variant db.alliances players with
    | .error error => .error error
    | .ok winnerAlliance =>
        let winnerPlayerIds := winnerPlayerIds matchRow state canonicalPlayerByPersisted players
        let outcome : MatchOutcome :=
          { matchRow
            winnerAlliance
            winnerPlayerIds
            winnerCityCounts := winnerPlayerIds.map fun playerId =>
              (playerId, territoryCountForPlayer state canonicalPlayerByPersisted playerId)
            settledAt }
        players.foldlM (settlePlayer outcome) db
  else .error .validationError

/-- The nested transaction: the match's settlement, and then its players'. -/
def settleMatch (variant : StorageVariant) (settledAt : Nat) (db : Database) (matchRow : MatchRow) :
    Except PersistenceError Database :=
  match sessionAdd db.matchSettlements ⟨matchRow.id, settledAt⟩ with
  | .error error => .error error
  | .ok matchSettlements =>
      let settled := { db with matchSettlements }
      if db.playersOfMatch matchRow.id = [] then .ok settled
      else settlePlayers variant settledAt settled matchRow

/-- A constraint violation is forgiven when another session has committed the whole settlement; the nested transaction is then rolled back. -/
def settleCompletedMatchIfNeeded (variant : StorageVariant) (settledAt : Nat) (committed db : Database)
    (matchRow : MatchRow) : Except PersistenceError Database :=
  if matchRow.status ≠ .completed then .ok db
  else
    match sessionGet variant db.matchSettlements matchRow.id with
    | .error error => .error error
    | .ok (some _) => .ok db
    | .ok none =>
        match settleMatch variant settledAt db matchRow with
        | .ok settled => .ok settled
        | .error .integrityError =>
            let participants := committed.playerMatchSettlements.rows.filter fun row => row.matchId = matchRow.id
            if committed.matchSettlements.get? matchRow.id ≠ none ∧
                participants.length = (db.playersOfMatch matchRow.id).length then .ok db
            else .error .integrityError
        | .error error => .error error

theorem settlePlayer_eq_ok {outcome : MatchOutcome} {db db' : Database} {player : PlayerRow}
    (h : settlePlayer outcome db player = .ok db') :
    ∃ playerMatchSettlements, sessionAdd db.playerMatchSettlements (playerSettlement outcome player) =
        .ok playerMatchSettlements ∧
      db' = recordKeyElo { db with playerMatchSettlements } (playerSettlement outcome player) := by
  unfold settlePlayer at h
  split at h
  · cases h
  · rename_i playerMatchSettlements hadd
    cases h
    exact ⟨playerMatchSettlements, hadd, rfl⟩

/-- A settlement that is written is the match's row, and then the players' one after another. -/
theorem settleMatch_eq_ok {variant : StorageVariant} {settledAt : Nat} {db db' : Database} {matchRow : MatchRow}
    (h : settleMatch variant settledAt db matchRow = .ok db') :
    ∃ matchSettlements outcome, (outcome.matchRow = matchRow ∧ outcome.settledAt = settledAt) ∧
      (db.playersOfMatch matchRow.id ≠ [] → outcome.winnerPlayerIds = winnerPlayerIds matchRow matchRow.state
        (buildPersistedPlayerMapping (matchRow.state.players.keys.insertionSort (· ≤ ·)) (db.playersOfMatch matchRow.id))
        (db.playersOfMatch matchRow.id)) ∧
      sessionAdd db.matchSettlements ⟨matchRow.id, settledAt⟩ = .ok matchSettlements ∧
      (db.playersOfMatch matchRow.id).foldlM (settlePlayer outcome) { db with matchSettlements } = .ok db' := by
  unfold settleMatch at h
  split at h
  · cases h
  · rename_i matchSettlements hadd
    dsimp only at h
    split at h
    · rename_i hplayers
      cases h
      refine ⟨matchSettlements, ⟨matchRow, none, [], [], settledAt⟩, ⟨rfl, rfl⟩, absurd hplayers, hadd, ?_⟩
      rw [show db.playersOfMatch matchRow.id = [] from hplayers]
      rfl
    · unfold settlePlayers at h
      dsimp only at h
      split at h
      · split at h
        · cases h
        · exact ⟨matchSettlements, _, ⟨rfl, rfl⟩, fun _ => rfl, hadd, h⟩
      · cases h

theorem settleCompletedMatchIfNeeded_eq_ok {variant : StorageVariant} {settledAt : Nat}
    {committed db db' : Database} {matchRow : MatchRow}
    (h : settleCompletedMatchIfNeeded variant settledAt committed db matchRow = .ok db') :
    (db' = db ∧ (matchRow.status ≠ .completed ∨ db.matchSettlements.get? matchRow.id ≠ none ∨
        committed.matchSettlements.get? matchRow.id ≠ none)) ∨
      (matchRow.status = .completed ∧ settleMatch variant settledAt db matchRow = .ok db') := by
  unfold settleCompletedMatchIfNeeded at h
  split at h
  · rename_i hstatus
    cases h
    exact Or.inl ⟨rfl, Or.inl hstatus⟩
  · rename_i hstatus
    split at h
    · cases h
    · rename_i found hfound
      cases h
      refine Or.inl ⟨rfl, Or.inr (Or.inl ?_)⟩
      rw [← sessionGet_eq_ok hfound]
      exact Option.some_ne_none found
    · split at h
      · rename_i hsettle
        cases h
        exact Or.inr ⟨not_not.1 hstatus, hsettle⟩
      · dsimp only at h
        split at h
        · rename_i hforgiven
          cases h
          exact Or.inl ⟨rfl, Or.inr (Or.inr hforgiven.1)⟩
        · cases h
      · cases h

/-! ### Reading ratings back -/

/-- Whether a settlement comes later than another in the order of time and player id. -/
def PlayerMatchSettlementRow.later (row latest : PlayerMatchSettlementRow) : Prop :=
  latest.settledAt < row.settledAt ∨ (latest.settledAt = row.settledAt ∧ latest.playerId < row.playerId)

instance (row latest : PlayerMatchSettlementRow) : Decidable (row.later latest) := inferInstanceAs (Decidable (_ ∨ _))

def laterSettlement (latest : Option PlayerMatchSettlementRow) (row : PlayerMatchSettlementRow) :
    Option PlayerMatchSettlementRow :=
  match latest with
  | none => some row
  | some latest => if row.later latest then some row else some latest

def latestSettlement (rows : List PlayerMatchSettlementRow) : Option PlayerMatchSettlementRow :=
  rows.foldl laterSettlement none

def latestHumanSettledElo (db : Database) (userId : String) : Option Int :=
  (latestSettlement (db.playerMatchSettlements.rows.filter fun row => row.userId = userId ∧ row.isAgent = false)).map
    (·.eloAfter)

theorem latestSettlement_append (rows : List PlayerMatchSettlementRow) (row : PlayerMatchSettlementRow) :
    latestSettlement (rows ++ [row]) = laterSettlement (latestSettlement rows) row := by
  rw [latestSettlement, List.foldl_append]
  rfl

theorem latestSettlement_mem {rows : List PlayerMatchSettlementRow} {latest : PlayerMatchSettlementRow}
    (h : latestSettlement rows = some latest) : latest ∈ rows := by
  induction rows using List.reverseRecOn generalizing latest with
  | nil => cases h
  | append_singleton rows row ih =>
      rw [latestSettlement_append] at h
      unfold laterSettlement at h
      split at h
      · cases h
        simp
      · rename_i earlier hearlier
        split at h
        · cases h
          simp
        · cases h
          exact List.mem_append_left _ (ih hearlier)

/-- Of settlements listed in their order, the latest is the last. -/
theorem latestSettlement_eq_getLast? {rows : List PlayerMatchSettlementRow}
    (h : rows.Pairwise fun earlier row => row.later earlier) : latestSettlement rows = rows.getLast? := by
  induction rows using List.reverseRecOn with
  | nil => rfl
  | append_singleton rows row ih =>
      rw [latestSettlement_append, List.getLast?_append, List.getLast?_singleton, Option.some_or]
      cases hlatest : latestSettlement rows with
      | none => rfl
      | some latest =>
          have hlater : row.later latest :=
            (List.pairwise_append.1 h).2.2 latest (latestSettlement_mem hlatest) row (List.mem_singleton.2 rfl)
          exact if_pos hlater

/-! ### Aggregates by identity -/

/-- An agent plays under its key, or under its user if it has none; a human plays under their user. -/
def competitorIdentity (isAgent : Bool) (apiKeyId : Option String) (userId : String) : String :=
  if isAgent then
    match apiKeyId with
    | some apiKeyId => s!"agent:{apiKeyId}"
    | none => s!"agent-user:{userId}"
  else s!"human:{userId}"

def settlementIdentity (settlement : PlayerMatchSettlementRow) : String :=
  competitorIdentity settlement.isAgent settlement.apiKeyId settlement.userId

structure SettlementAggregate where
  displayName : String
  elo : Int
  matchesPlayed : Nat
  wins : Nat
  losses : Nat
  draws : Nat
  provisional : Bool
deriving DecidableEq, Repr

/-- What the settlements of one identity come to: the latest one has the name and the rating. -/
def settlementAggregate (rows : List PlayerMatchSettlementRow) : Option SettlementAggregate :=
  (latestSettlement rows).map fun latest =>
    { displayName := latest.displayName
      elo := latest.eloAfter
      matchesPlayed := rows.length
      wins := rows.countP fun row => row.outcome = .win
      losses := rows.countP fun row => row.outcome = .loss
      draws := rows.countP fun row => row.outcome = .draw
      provisional := false }

def loadSettlementAggregatesByIdentity (settlementRows : List PlayerMatchSettlementRow) :
    OrdDict String SettlementAggregate :=
  let rowsByIdentity := settlementRows.foldl
    (fun groups settlement => groups.upsert (settlementIdentity settlement) [settlement] (· ++ [settlement]))
    (OrdDict.empty : OrdDict String (List PlayerMatchSettlementRow))
  rowsByIdentity.filterMapVals settlementAggregate

end IronCouncil
