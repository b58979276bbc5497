import IronCouncil.Db.Identity

/-!
# Public reads

What the public pages say about completed matches: who has won, by the alliance or the player that a match's row names as its winner, and how the competitors stand.
-/

namespace IronCouncil

structure PublicCompetitorSummary where
  displayName : String
  competitorKind : CompetitorKind
  agentId : Option String
  humanId : Option String
deriving DecidableEq, Repr

/-- A human shows its human id only, and an agent shows none. -/
def PublicCompetitorSummary.FieldsValid (summary : PublicCompetitorSummary) : Prop :=
  match summary.competitorKind with
  | .human => summary.agentId = none ∧ summary.humanId ≠ none
  | .agent => summary.humanId = none

/-- Rows by a key of each, the last one with a key if there are several. -/
def indexBy {α κ : Type} [DecidableEq κ] (key : α → κ) (rows : List α) : OrdDict κ α :=
  OrdDict.ofList <| rows.map fun row => (key row, row)

/-! ### Competitors -/

/-- Rosters are ordered by name, with upper and lower case folded together first; of one name humans come first. -/
def publicMatchRosterOrder (casefold : String → String) (first second : PlayerRow) : Ordering :=
  let kind (player : PlayerRow) : Nat := if player.isAgent then 1 else 0
  (compare (casefold first.displayName) (casefold second.displayName)).then <|
    (compare (kind first) (kind second)).then <|
      (compare first.displayName second.displayName).then (compare first.id second.id)

section Competitors

variable (hashApiKey casefold : String → String)

def publicCompetitorAgentId (apiKeysById : OrdDict String ApiKeyRow) (player : PlayerRow) : Option String :=
  if player.isAgent then
    some (resolveLoadedAgentIdentity hashApiKey player (player.apiKeyId.bind apiKeysById.get?)).agentId
  else none

def publicCompetitorHumanId (player : PlayerRow) : Option String :=
  if player.isAgent then none else some (buildHumanActorId player.userId)

def buildPublicCompetitorSummaries (players : List PlayerRow) (apiKeyRows : List ApiKeyRow) :
    List PublicCompetitorSummary :=
  (players.insertionSort fun first second => (publicMatchRosterOrder casefold first second).isLE).map fun player =>
    { displayName := player.displayName
      competitorKind := if player.isAgent then .agent else .human
      agentId := publicCompetitorAgentId hashApiKey (indexBy (·.id) apiKeyRows) player
      humanId := publicCompetitorHumanId player }

/-- Every summary that is built passes its own check. -/
theorem fieldsValid_buildPublicCompetitorSummaries {players : List PlayerRow} {apiKeyRows : List ApiKeyRow} :
    ∀ summary ∈ buildPublicCompetitorSummaries hashApiKey casefold players apiKeyRows, summary.FieldsValid := by
  intro summary hmem
  obtain ⟨player, -, rfl⟩ := List.mem_map.1 hmem
  unfold PublicCompetitorSummary.FieldsValid publicCompetitorAgentId publicCompetitorHumanId
  cases player.isAgent with
  | false => simp
  | true => simp

end Competitors

/-! ### Winners -/

/-- The rows of a match that are in an alliance, in the order they are listed in. -/
def playersByMatchAndAlliance (players : List PlayerRow) (matchId allianceId : String) : List PlayerRow :=
  players.filter fun player => player.matchId = matchId ∧ player.allianceId = some allianceId

def playersByMatchAndId (players : List PlayerRow) : OrdDict (String × String) PlayerRow :=
  indexBy (fun player => (player.matchId, player.id)) players

/-- The rows that a match's winner stands for: an alliance's members, or a player who won alone. -/
def winningPlayers (matchRow : MatchRow) (players : List PlayerRow) : List PlayerRow :=
  match matchRow.winnerAlliance with
  | none => []
  | some winner =>
      let winners := playersByMatchAndAlliance players matchRow.id winner
      if winners ≠ [] then winners else ((playersByMatchAndId players).get? (matchRow.id, winner)).toList

def winningPlayerDisplayNames (matchRow : MatchRow) (players : List PlayerRow) : List String :=
  ((winningPlayers matchRow players).map (·.displayName)).insertionSort (· ≤ ·)

def winningCompetitors (hashApiKey casefold : String → String) (matchRow : MatchRow) (players : List PlayerRow)
    (apiKeyRows : List ApiKeyRow) : List PublicCompetitorSummary :=
  buildPublicCompetitorSummaries hashApiKey casefold (winningPlayers matchRow players) apiKeyRows

/-- Whether a player has won; `none` stands for a draw. -/
def winnerIdentityForPlayer (matchRow : MatchRow) (player : PlayerRow)
    (playersByMatchAndId : OrdDict (String × String) PlayerRow) : Option SettlementOutcome :=
  match matchRow.winnerAlliance with
  | none => none
  | some winner =>
      if player.allianceId = some winner then some .win
      else
        match playersByMatchAndId.get? (matchRow.id, winner) with
        | none => some .loss
        | some winnerPlayer => if player.id = winnerPlayer.id then some .win else some .loss

/-! ### The leaderboard -/

def CompetitorKind.value : CompetitorKind → String
  | .human => "human"
  | .agent => "agent"

structure LeaderboardAggregate where
  competitorKey : String
  displayName : String
  competitorKind : CompetitorKind
  agentId : Option String
  humanId : Option String
  elo : Int
  provisional : Bool
  matchesPlayed : Nat
  wins : Nat
  losses : Nat
  draws : Nat
deriving DecidableEq, Repr

structure LeaderboardEntry where
  rank : Nat
  displayName : String
  competitorKind : CompetitorKind
  agentId : Option String
  humanId : Option String
  elo : Int
  provisional : Bool
  matchesPlayed : Nat
  wins : Nat
  losses : Nat
  draws : Nat
deriving DecidableEq, Repr

/-- What an entry is checked for when it is built. -/
def LeaderboardEntry.FieldsValid (entry : LeaderboardEntry) : Prop :=
  1 ≤ entry.rank ∧ 0 ≤ entry.elo ∧
    match entry.competitorKind with
    | .human => entry.agentId = none ∧ entry.humanId ≠ none
    | .agent => entry.humanId = none

def leaderboardCompetitorIdentity (player : PlayerRow) : String :=
  competitorIdentity player.isAgent player.apiKeyId player.userId

/-- One more match; `none` stands for a draw. -/
def LeaderboardAggregate.played (aggregate : LeaderboardAggregate) (winnerIdentity : Option SettlementOutcome) :
    LeaderboardAggregate :=
  let aggregate := { aggregate with matchesPlayed := aggregate.matchesPlayed + 1 }
  match winnerIdentity with
  | none => { aggregate with draws := aggregate.draws + 1 }
  | some .win => { aggregate with wins := aggregate.wins + 1 }
  | some _ => { aggregate with losses := aggregate.losses + 1 }

section Leaderboard

variable (hashApiKey casefold : String → String) (updatedAt : String → Nat)

def leaderboardAgentId (apiKeysById : OrdDict String ApiKeyRow) (player : PlayerRow) : Option String :=
  publicCompetitorAgentId hashApiKey apiKeysById player

def leaderboardHumanId (player : PlayerRow) : Option String := publicCompetitorHumanId player

/-- The aggregate of a competitor that is met for the first time, before the match is counted. -/
def newLeaderboardAggregate (apiKeysById : OrdDict String ApiKeyRow) (player : PlayerRow)
    (settlement : Option PlayerMatchSettlementRow) : LeaderboardAggregate where
  competitorKey := leaderboardCompetitorIdentity player
  displayName := player.displayName
  competitorKind := if player.isAgent then .agent else .human
  agentId := leaderboardAgentId hashApiKey apiKeysById player
  humanId := leaderboardHumanId player
  elo := (settlement.map (·.eloAfter)).getD player.eloRating
  provisional := settlement.isNone
  matchesPlayed := 0
  wins := 0
  losses := 0
  draws := 0

/-- How a match went for a player: as it was settled, or else as its row names the winner. -/
def leaderboardOutcome (matchRow : MatchRow) (player : PlayerRow)
    (playersByMatchAndId : OrdDict (String × String) PlayerRow) (settlement : Option PlayerMatchSettlementRow) :
    Option SettlementOutcome :=
  match settlement with
  | none => winnerIdentityForPlayer matchRow player playersByMatchAndId
  | some settlement =>
      match settlement.outcome with
      | .draw => none
      | .win => some .win
      | .loss => some .loss

/-- Competitors by falling rating, and then by folded name, kind and key. -/
def leaderboardOrder (first second : LeaderboardAggregate) : Ordering :=
  (compare second.elo first.elo).then <|
    (compare (casefold first.displayName) (casefold second.displayName)).then <|
      (compare first.competitorKind.value second.competitorKind.value).then <|
        compare first.competitorKey second.competitorKey

def leaderboardEntry (rank : Nat) (aggregate : LeaderboardAggregate) : LeaderboardEntry where
  rank := rank
  displayName := aggregate.displayName
  competitorKind := aggregate.competitorKind
  agentId := aggregate.agentId
  humanId := aggregate.humanId
  elo := aggregate.elo
  provisional := aggregate.provisional
  matchesPlayed := aggregate.matchesPlayed
  wins := aggregate.wins
  losses := aggregate.losses
  draws := aggregate.draws

/-- The matches from the one updated last to the one updated first. -/
def rankedMatches (completedMatches : List MatchRow) : List MatchRow :=
  completedMatches.insertionSort fun first second =>
    updatedAt second.id < updatedAt first.id ∨ (updatedAt first.id = updatedAt second.id ∧ first.id ≤ second.id)

/-- The step of the loop over a match's players. -/
def countPlayer (apiKeysById : OrdDict String ApiKeyRow) (playersByMatchAndId : OrdDict (String × String) PlayerRow)
    (settlementsByPlayerId : OrdDict String PlayerMatchSettlementRow) (matchRow : MatchRow)
    (aggregates : OrdDict String LeaderboardAggregate) (player : PlayerRow) : OrdDict String LeaderboardAggregate :=
  let settlement := settlementsByPlayerId.get? player.id
  let outcome := leaderboardOutcome matchRow player playersByMatchAndId settlement
  aggregates.upsert (leaderboardCompetitorIdentity player)
    ((newLeaderboardAggregate hashApiKey apiKeysById player settlement).played outcome)
    fun aggregate => aggregate.played outcome

def leaderboardAggregates (completedMatches : List MatchRow) (players : List PlayerRow) (apiKeyRows : List ApiKeyRow)
    (settlements : List PlayerMatchSettlementRow) : OrdDict String LeaderboardAggregate :=
  (rankedMatches updatedAt completedMatches).foldl
    (fun aggregates matchRow =>
      (players.filter fun player => player.matchId = matchRow.id).foldl
        (countPlayer hashApiKey (indexBy (·.id) apiKeyRows) (playersByMatchAndId players)
          (indexBy (·.playerId) settlements) matchRow)
        aggregates)
    OrdDict.empty

def buildPublicLeaderboard (completedMatches : List MatchRow) (players : List PlayerRow) (apiKeyRows : List ApiKeyRow)
    (settlements : List PlayerMatchSettlementRow) : List LeaderboardEntry :=
  ((leaderboardAggregates hashApiKey updatedAt completedMatches players apiKeyRows settlements).values.insertionSort
    fun first second => (leaderboardOrder casefold first second).isLE).mapIdx
      fun index aggregate => leaderboardEntry (index + 1) aggregate

def getPublicLeaderboard (db : Database) : List LeaderboardEntry :=
  let completedMatches := (db.matchRows.rows.filter fun matchRow => matchRow.status = .completed).insertionSort
    fun first second =>
      updatedAt second.id < updatedAt first.id ∨ (updatedAt first.id = updatedAt second.id ∧ second.id ≤ first.id)
  if completedMatches = [] then []
  else
    let matchIds := completedMatches.map (·.id)
    let players := (db.players.rows.filter fun player => player.matchId ∈ matchIds).insertionSort fun first second =>
      first.matchId < second.matchId ∨ (first.matchId = second.matchId ∧ first.id ≤ second.id)
    let apiKeyRows := (db.apiKeys.rows.filter fun apiKey =>
      apiKey.id ∈ players.filterMap (·.apiKeyId)).insertionSort fun first second => first.id ≤ second.id
    let settlements := (db.playerMatchSettlements.rows.filter fun settlement =>
      settlement.matchId ∈ matchIds).insertionSort fun first second =>
        first.matchId < second.matchId ∨ (first.matchId = second.matchId ∧ first.playerId ≤ second.playerId)
    buildPublicLeaderboard hashApiKey casefold updatedAt completedMatches players apiKeyRows settlements

end Leaderboard

end IronCouncil
