import IronCouncil.Base.Linked
import IronCouncil.Proof.LeaderboardProfiles
import IronCouncil.Proof.SeatedRuns
import IronCouncil.Proof.TerminalTick

/-!
# The chain of ratings

A settlement starts from the rating in the player's row, which is the competitor's rating at the time the row was added. So the settlements of a competitor follow one another exactly when none of their other matches has changed the rating between a row and its settlement.
-/

namespace IronCouncil

/-! ### Competitors -/

/-- Whom a rating belongs to: a key or a human. -/
inductive Competitor
  | key (apiKeyId : String)
  | human (userId : String)
deriving DecidableEq

/-- Whether a row with these columns is the competitor's. -/
def Competitor.names (competitor : Competitor) (isAgent : Bool) (apiKeyId : Option String) (userId : String) : Bool :=
  match competitor with
  | .key id => isAgent && decide (apiKeyId = some id)
  | .human id => !isAgent && decide (userId = id)

def PlayerRow.isOf (player : PlayerRow) (competitor : Competitor) : Bool :=
  competitor.names player.isAgent player.apiKeyId player.userId

def PlayerMatchSettlementRow.isOf (row : PlayerMatchSettlementRow) (competitor : Competitor) : Bool :=
  competitor.names row.isAgent row.apiKeyId row.userId

theorem isOf_of_enrolment {player player' : PlayerRow} (h : player'.enrolment = player.enrolment)
    (competitor : Competitor) : player'.isOf competitor = player.isOf competitor := by
  unfold PlayerRow.isOf
  rw [isAgent_of_enrolment h, apiKeyId_of_enrolment h, userId_of_enrolment h]

theorem eloRating_of_enrolment {player player' : PlayerRow} (h : player'.enrolment = player.enrolment) :
    player'.eloRating = player.eloRating := by
  have helo := congrArg PlayerRow.eloRating h
  exact helo

/-- The settlements of a competitor in the order they were written in. -/
def Database.history (db : Database) (competitor : Competitor) : List PlayerMatchSettlementRow :=
  (db.playerMatchSettlements.rows.filter (·.isOf competitor)).insertionSort fun earlier row =>
    earlier.settledKey ≤ row.settledKey

/-- The rating that a new row of the competitor gets. -/
def Database.ratingOf (db : Database) : Competitor → Int
  | .key apiKeyId => ((db.apiKeys.get? apiKeyId).map (·.eloRating)).getD 0
  | .human userId => resolveHumanEloRating db userId

/-- The rating a competitor starts from: that of a key when it is first there, and none for a human. -/
def initialRating (states : List Server) : Competitor → Int
  | .key apiKeyId => ((states.findSome? fun server => server.database.apiKeys.get? apiKeyId).map (·.eloRating)).getD 0
  | .human _ => 0

def Database.Knows (db : Database) : Competitor → Prop
  | .key apiKeyId => apiKeyId ∈ db.apiKeys.keys
  | .human _ => True

/-- The settlement changes the rating by this much, as far as it stays above zero. -/
def PlayerMatchSettlementRow.Applies (row : PlayerMatchSettlementRow) (delta : Int) : Prop :=
  ∃ outcome player, row = playerSettlement outcome player ∧
    delta = ratingDeltaForPlayer player outcome.matchRow outcome.winnerAlliance row.outcome outcome.winnerCityCounts

abbrev RatingsFollow (start : Int) (rows : List PlayerMatchSettlementRow) : Prop :=
  Linked PlayerMatchSettlementRow.eloBefore PlayerMatchSettlementRow.eloAfter start rows

/-- Each settlement starts from where the one before it has ended, and the rating is what all of them come to, each match once. -/
structure RatingChain (initial : Competitor → Int) (db : Database) : Prop where
  follows : ∀ competitor, RatingsFollow (initial competitor) (db.history competitor)
  final : ∀ competitor, db.Knows competitor → ∃ deltas, List.Forall₂ (·.Applies ·) (db.history competitor) deltas ∧
    db.ratingOf competitor = deltas.foldl (fun rating delta => max 0 (rating + delta)) (initial competitor)
  once : ∀ competitor, ((db.history competitor).map (·.matchId)).Nodup
  complete : ∀ player ∈ db.players.rows, player.matchId ∈ db.matchSettlements.keys → ∀ competitor,
    player.isOf competitor → ∃ row ∈ db.history competitor, row.matchId = player.matchId

theorem PlayerMatchSettlementRow.Applies.eloAfter {row : PlayerMatchSettlementRow} {delta : Int}
    (h : row.Applies delta) : row.eloAfter = max 0 (row.eloBefore + delta) := by
  obtain ⟨outcome, player, rfl, rfl⟩ := h
  rfl

/-! ### The tables -/

/-- The rating of each key is where its settlements end. -/
def Recorded (initial : Competitor → Int) (db : Database) : Prop :=
  ∀ apiKey ∈ db.apiKeys.rows, apiKey.eloRating = endOf PlayerMatchSettlementRow.eloAfter (initial (.key apiKey.id))
    (db.playerMatchSettlements.rows.filter (·.isOf (.key apiKey.id)))

/-- A new row gets its competitor's rating, and its match is not settled. -/
structure Enters (db : Database) (player : PlayerRow) : Prop where
  unsettled : player.matchId ∉ db.matchSettlements.keys
  rating : ∀ competitor, player.isOf competitor → player.eloRating = db.ratingOf competitor

/-- A step that settles nothing: what it adds are keys and rows, with the ratings that are there. -/
structure LeavesRatings (server next : Server) : Prop where
  settlements : next.database.playerMatchSettlements = server.database.playerMatchSettlements
  settled : next.database.matchSettlements = server.database.matchSettlements
  clock : server.clock ≤ next.clock
  keys : ∀ apiKey' ∈ next.database.apiKeys.rows,
    (∃ apiKey ∈ server.database.apiKeys.rows, apiKey'.id = apiKey.id ∧ apiKey'.eloRating = apiKey.eloRating) ∨
      apiKey'.id ∉ server.database.apiKeys.keys
  players : ∀ player' ∈ next.database.players.rows,
    (∃ player ∈ server.database.players.rows, player'.enrolment = player.enrolment) ∨ Enters server.database player'

/-- Settlements are written in their order, each for a row, and the ratings are where they end. -/
structure Server.Rated (initial : Competitor → Int) (server : Server) : Prop where
  ordered : server.database.playerMatchSettlements.rows.Pairwise fun earlier row => earlier.settledKey < row.settledKey
  past : ∀ row ∈ server.database.playerMatchSettlements.rows, row.settledAt ≤ server.clock
  applied : ∀ row ∈ server.database.playerMatchSettlements.rows, ∃ outcome player, row = playerSettlement outcome player
  owned : ∀ row ∈ server.database.playerMatchSettlements.rows, ∃ player ∈ server.database.players.rows,
    row.playerId = player.id ∧ row.matchId = player.matchId ∧ ∀ competitor, row.isOf competitor = player.isOf competitor
  recorded : Recorded initial server.database
  unsettled : ∀ player ∈ server.database.players.rows, ∀ userId, player.isOf (.human userId) →
    server.database.playerMatchSettlements.rows.filter (·.isOf (.human userId)) = [] → player.eloRating = 0
  complete : ∀ player ∈ server.database.players.rows, player.matchId ∈ server.database.matchSettlements.keys →
    ∃ row ∈ server.database.playerMatchSettlements.rows, row.playerId = player.id

theorem knows_of_keyed {db : Database} {player : PlayerRow} {competitor : Competitor} (h : Keyed db player)
    (hof : player.isOf competitor) : db.Knows competitor := by
  cases competitor with
  | key apiKeyId =>
      simp only [PlayerRow.isOf, Competitor.names, Bool.and_eq_true, decide_eq_true_eq] at hof
      obtain ⟨apiKey, hrow, hkey⟩ := h hof.1
      exact List.mem_map.2 ⟨apiKey, hrow, Option.some.inj (hkey.symm.trans hof.2)⟩
  | human userId => trivial

section Tables

variable {initial : Competitor → Int} {server : Server} (h : server.Rated initial)

include h

theorem Server.Rated.history_eq (competitor : Competitor) :
    server.database.history competitor = server.database.playerMatchSettlements.rows.filter (·.isOf competitor) := by
  have hsorted : (server.database.playerMatchSettlements.rows.filter (·.isOf competitor)).Pairwise
      fun earlier row => earlier.settledKey ≤ row.settledKey :=
    (h.ordered.sublist List.filter_sublist).imp le_of_lt
  exact List.Pairwise.insertionSort_eq hsorted

/-- What a new row would get is where the settlements end. -/
theorem Server.Rated.ratingOf_eq (hinitial : ∀ userId, initial (.human userId) = 0) {competitor : Competitor}
    (hknown : server.database.Knows competitor) : server.database.ratingOf competitor =
      endOf PlayerMatchSettlementRow.eloAfter (initial competitor)
        (server.database.playerMatchSettlements.rows.filter (·.isOf competitor)) := by
  cases competitor with
  | key apiKeyId =>
      obtain ⟨apiKey, hrow, rfl⟩ := List.mem_map.1 hknown
      have hfound : server.database.apiKeys.get? apiKey.id = some apiKey := Table.get?_eq_some.2 ⟨hrow, rfl⟩
      simp only [Database.ratingOf, hfound, Option.map_some, Option.getD_some]
      exact h.recorded apiKey hrow
  | human userId =>
      have hfilter : (server.database.playerMatchSettlements.rows.filter fun row =>
          row.userId = userId ∧ row.isAgent = false) =
          server.database.playerMatchSettlements.rows.filter (·.isOf (.human userId)) := by
        apply List.filter_congr
        intro row _
        unfold PlayerMatchSettlementRow.isOf Competitor.names
        cases row.isAgent <;> simp
      have hordered : (server.database.playerMatchSettlements.rows.filter (·.isOf (.human userId))).Pairwise
          fun earlier row => row.later earlier := by
        refine (h.ordered.sublist List.filter_sublist).imp fun hlt => ?_
        exact (later_iff _ _).2 hlt
      unfold Database.ratingOf resolveHumanEloRating latestHumanSettledElo endOf
      dsimp only
      rw [hfilter, latestSettlement_eq_getLast? hordered, hinitial]
      cases hlast : (server.database.playerMatchSettlements.rows.filter (·.isOf (.human userId))).getLast? with
      | some row => rfl
      | none =>
          cases hrows : humanPlayers server.database userId with
          | nil => rfl
          | cons player rest =>
              have hplayer : player ∈ humanPlayers server.database userId := by
                rw [hrows]
                exact List.mem_cons_self
              unfold humanPlayers at hplayer
              rw [List.mem_insertionSort, List.mem_filter, decide_eq_true_eq] at hplayer
              obtain ⟨hrow, huser, hhuman⟩ := hplayer
              refine h.unsettled player hrow userId ?_ (List.getLast?_eq_none_iff.1 hlast)
              simp [PlayerRow.isOf, Competitor.names, huser, hhuman]

/-- A step that settles nothing keeps the ratings, where new keys have the rating they start from. -/
theorem Server.Rated.left {next : Server} (hinitial : ∀ userId, initial (.human userId) = 0)
    (hleaves : LeavesRatings server next) (hkeyed : ∀ player ∈ server.database.players.rows, Keyed server.database player)
    (hnew : ∀ apiKey' ∈ next.database.apiKeys.rows, apiKey'.id ∉ server.database.apiKeys.keys →
      apiKey'.eloRating = initial (.key apiKey'.id))
    (hstay : ∀ player ∈ server.database.players.rows,
      ∃ player' ∈ next.database.players.rows, player'.enrolment = player.enrolment) : next.Rated initial where
  ordered := by
    rw [hleaves.settlements]
    exact h.ordered
  past := by
    rw [hleaves.settlements]
    exact fun row hrow => (h.past row hrow).trans hleaves.clock
  applied := by
    rw [hleaves.settlements]
    exact h.applied
  owned := by
    rw [hleaves.settlements]
    intro row hrow
    obtain ⟨player, hplayer, hid, hmatch, hof⟩ := h.owned row hrow
    obtain ⟨player', hplayer', hsame⟩ := hstay player hplayer
    refine ⟨player', hplayer', hid.trans (id_of_enrolment hsame).symm, hmatch.trans (matchId_of_enrolment hsame).symm, ?_⟩
    exact fun competitor => (hof competitor).trans (isOf_of_enrolment hsame competitor).symm
  recorded := by
    intro apiKey' hrow'
    rw [hleaves.settlements]
    rcases hleaves.keys apiKey' hrow' with ⟨apiKey, hrow, hid, helo⟩ | hfresh
    · rw [helo, hid]
      exact h.recorded apiKey hrow
    · -- a settlement of a key has a row, and the row's key is there
      have hnil : server.database.playerMatchSettlements.rows.filter (·.isOf (.key apiKey'.id)) = [] := by
        rw [List.filter_eq_nil_iff]
        intro row hrow hof
        obtain ⟨player, hplayer, -, -, hsame⟩ := h.owned row hrow
        rw [hsame] at hof
        exact hfresh (knows_of_keyed (hkeyed player hplayer) hof)
      rw [hnil, endOf_nil]
      exact hnew apiKey' hrow' hfresh
  unsettled := by
    intro player' hplayer' userId hof hnil
    rw [hleaves.settlements] at hnil
    rcases hleaves.players player' hplayer' with ⟨player, hplayer, hsame⟩ | henters
    · rw [eloRating_of_enrolment hsame]
      exact h.unsettled player hplayer userId (isOf_of_enrolment hsame _ ▸ hof) hnil
    · rw [henters.rating _ hof, h.ratingOf_eq hinitial (show server.database.Knows (.human userId) from trivial), hnil,
        endOf_nil, hinitial]
  complete := by
    intro player' hplayer' hsettled
    rw [hleaves.settled] at hsettled
    rw [hleaves.settlements]
    rcases hleaves.players player' hplayer' with ⟨player, hplayer, hsame⟩ | henters
    · rw [matchId_of_enrolment hsame] at hsettled
      rw [id_of_enrolment hsame]
      exact h.complete player hplayer hsettled
    · exact absurd hsettled henters.unsettled

end Tables

/-! ### Settling a match -/

/-- A settlement of its match's players, one row after another. -/
theorem rows_foldlM_settlePlayer {outcome : MatchOutcome} {players : List PlayerRow} {db db' : Database}
    (h : players.foldlM (settlePlayer outcome) db = .ok db') :
    db'.playerMatchSettlements.rows = db.playerMatchSettlements.rows ++ players.map (playerSettlement outcome) := by
  induction players generalizing db with
  | nil =>
      cases h
      exact (List.append_nil _).symm
  | cons player players ih =>
      obtain ⟨next, hfirst, hrest⟩ := Run.foldlM_cons_eq_ok h
      obtain ⟨playerMatchSettlements, hadd, rfl⟩ := settlePlayer_eq_ok hfirst
      have hrows : (recordKeyElo { db with playerMatchSettlements } (playerSettlement outcome player)).playerMatchSettlements =
          playerMatchSettlements := by
        unfold recordKeyElo
        split
        · rfl
        · rfl
      rw [ih hrest, hrows, (sessionAdd_eq_ok hadd).2, List.map_cons, List.append_assoc]
      rfl

/-- Settling a player keeps the keys' ratings where the settlements end. -/
theorem Recorded.settlePlayer {initial : Competitor → Int} {outcome : MatchOutcome} {db db' : Database}
    {player : PlayerRow} (h : Recorded initial db) (hsettle : settlePlayer outcome db player = .ok db') :
    Recorded initial db' := by
  obtain ⟨playerMatchSettlements, hadd, rfl⟩ := settlePlayer_eq_ok hsettle
  have hrows := (sessionAdd_eq_ok hadd).2
  have hother : ∀ apiKey ∈ db.apiKeys.rows, (playerSettlement outcome player).isOf (.key apiKey.id) = false →
      apiKey.eloRating = endOf PlayerMatchSettlementRow.eloAfter (initial (.key apiKey.id))
        (playerMatchSettlements.rows.filter (·.isOf (.key apiKey.id))) := by
    intro apiKey hrow hnot
    rw [hrows, List.filter_append, List.filter_cons_of_neg (by simp [hnot]), List.filter_nil, List.append_nil]
    exact h apiKey hrow
  unfold recordKeyElo
  split
  · rename_i apiKeyId hagent hkey
    intro apiKey' hrow'
    have hupdated : apiKey' ∈ (db.apiKeys.update apiKeyId
        (fun row => { row with eloRating := (playerSettlement outcome player).eloAfter }) fun _ => rfl).rows := hrow'
    obtain ⟨apiKey, hrow, rfl⟩ := Table.mem_update _ hupdated
    split
    · rename_i hid
      have hof : (playerSettlement outcome player).isOf (.key apiKeyId) = true := by
        simp [PlayerMatchSettlementRow.isOf, Competitor.names, hagent, hkey]
      have hlast : [playerSettlement outcome player].filter (·.isOf (.key apiKeyId)) = [playerSettlement outcome player] :=
        List.filter_cons_of_pos hof
      change _ = endOf _ _ (playerMatchSettlements.rows.filter (·.isOf (.key apiKey.id)))
      rw [hid, hrows, List.filter_append, hlast, endOf_concat]
    · rename_i hid
      refine hother apiKey hrow ?_
      simp [PlayerMatchSettlementRow.isOf, Competitor.names, hkey, Ne.symm hid]
  · rename_i hneither
    intro apiKey hrow
    refine hother apiKey hrow ?_
    rw [Bool.eq_false_iff]
    intro hof
    simp only [PlayerMatchSettlementRow.isOf, Competitor.names, Bool.and_eq_true, decide_eq_true_eq] at hof
    exact hneither _ hof.1 hof.2

/-- What the settlement of a match does to the ratings. -/
structure Settles (db db' : Database) (matchId : String) (settledAt : Nat) (outcome : MatchOutcome)
    (players : List PlayerRow) : Prop where
  match_id : outcome.matchRow.id = matchId
  settled_at : outcome.settledAt = settledAt
  listed : players.Pairwise fun first second => first.id < second.id
  players_from : ∀ player ∈ players, player.matchId = matchId ∧
    ∃ old ∈ db.players.rows, player.enrolment = old.enrolment
  players_all : ∀ old ∈ db.players.rows, old.matchId = matchId → ∃ player ∈ players, player.enrolment = old.enrolment
  settlements : db'.playerMatchSettlements.rows = db.playerMatchSettlements.rows ++ players.map (playerSettlement outcome)
  recorded : ∀ initial, Recorded initial db → Recorded initial db'
  settled : db'.matchSettlements.rows = db.matchSettlements.rows ++ [⟨matchId, settledAt⟩]

theorem playersOfMatch_ordered (db : Database) (matchId : String) :
    (db.playersOfMatch matchId).Pairwise fun first second => first.id < second.id := by
  have hle : (db.playersOfMatch matchId).Pairwise fun first second => first.id ≤ second.id :=
    pairwise_key_insertionSort _
  refine (hle.and (List.pairwise_map.1 (playersOfMatch_ids_nodup db matchId))).imp ?_
  exact fun ⟨hle, hne⟩ => lt_of_le_of_ne hle hne

/-- A persisted tick settles its match, or leaves the ratings as they are. -/
theorem persist_settles {variant : StorageVariant} {newId : Nat → String} {settledAt : Nat} {db db' : Database}
    {advancedTick : AdvancedMatchTick} {row : MatchRow}
    (hpersist : persistAdvancedMatchTick variant newId settledAt db advancedTick = .ok db')
    (hrow : db.matchRows.get? advancedTick.matchId = some row) :
    (db'.playerMatchSettlements = db.playerMatchSettlements ∧ db'.apiKeys = db.apiKeys ∧
        db'.matchSettlements = db.matchSettlements ∧
        (isTerminalVictoryTick advancedTick = true → row.id ∈ db.matchSettlements.keys)) ∨
      ((if isTerminalVictoryTick advancedTick then MatchStatus.completed else row.status) = .completed ∧
        ∃ outcome players, Settles db db' row.id settledAt outcome players) := by
  obtain ⟨stored, synced, ids, winnerAlliance, settled, hstored, hsync, -, hsettle, rfl⟩ :=
    persistAdvancedMatchTick_eq_ok hpersist
  obtain rfl := Option.some.inj (hrow.symm.trans hstored)
  obtain ⟨alliances, players, rfl, henrolments⟩ := syncTerminalAllianceRows_eq_ok hsync
  have hfound : ∀ {settlements : Table MatchSettlementRow.matchId}, settlements.get? row.id ≠ none →
      row.id ∈ settlements.keys := by
    intro settlements hsome
    by_contra hnone
    exact hsome (Table.get?_eq_none.2 hnone)
  rcases settleCompletedMatchIfNeeded_eq_ok hsettle with ⟨rfl, hquiet⟩ | ⟨hstatus, hsettled⟩
  · refine Or.inl ⟨rfl, rfl, rfl, fun hterminal => ?_⟩
    rcases hquiet with hopen | hsome | hsome
    · exact absurd (if_pos hterminal) hopen
    · exact hfound hsome
    · exact hfound hsome
  · obtain ⟨matchSettlements, outcome, ⟨houtcome, hclock⟩, -, hadd, hplayers⟩ := settleMatch_eq_ok hsettled
    have hrows := rows_foldlM_settlePlayer hplayers
    have hid : outcome.matchRow.id = row.id := by
      rw [houtcome]
      rfl
    refine Or.inr ⟨hstatus, outcome, _, hid, hclock, playersOfMatch_ordered _ row.id, ?_, ?_,
      hrows, ?_, ?_⟩
    · intro player hplayer
      obtain ⟨hmem, hmatch⟩ := Database.mem_playersOfMatch.1 hplayer
      obtain ⟨old, hold, hsame⟩ := exists_enrolled henrolments.symm hmem
      exact ⟨hmatch, old, hold, hsame.symm⟩
    · intro old hold hmatch
      obtain ⟨player, hplayer, hsame⟩ := exists_enrolled henrolments hold
      exact ⟨player, Database.mem_playersOfMatch.2 ⟨hplayer, (matchId_of_enrolment hsame).trans hmatch⟩, hsame⟩
    · intro initial hrecorded
      have hkept : Recorded initial settled :=
        Run.invariant_foldlM (fun _ _ _ hstep hreached => Recorded.settlePlayer hreached hstep) hplayers hrecorded
      exact hkept
    · have htables := Run.invariant_foldlM (I := fun reached : Database => reached.matchSettlements = matchSettlements)
        (fun _ _ _ hstep hkept => (congrArg (fun tables => tables.2.2.2.1) (matchTables_settlePlayer hstep)).trans hkept)
        hplayers rfl
      change settled.matchSettlements.rows = _
      rw [htables]
      exact (sessionAdd_eq_ok hadd).2

/-- Nobody has two rows of one match. -/
theorem Server.SeatsAll.single {hashApiKey : String → String} {server : Server} (h : server.SeatsAll hashApiKey)
    {competitor : Competitor} {player player' : PlayerRow} (hplayer : player ∈ server.database.players.rows)
    (hplayer' : player' ∈ server.database.players.rows) (hmatch : player.matchId = player'.matchId)
    (hof : player.isOf competitor) (hof' : player'.isOf competitor) : player = player' := by
  obtain ⟨matchRow, hrow, hid⟩ := List.mem_map.1 (h.homed player' hplayer')
  obtain ⟨k, n, -, hseated, -⟩ := h.matchSeats matchRow.id matchRow (Table.get?_eq_some.2 ⟨hrow, rfl⟩)
  have hsame : occupantOfRow hashApiKey server.database player = occupantOfRow hashApiKey server.database player' := by
    cases competitor with
    | key apiKeyId =>
        simp only [PlayerRow.isOf, Competitor.names, Bool.and_eq_true, decide_eq_true_eq] at hof hof'
        obtain ⟨apiKey, hkey, hkeyed⟩ := h.keyed player hplayer hof.1
        rw [occupantOfRow_of_key hof.1 hkey hkeyed,
          occupantOfRow_of_key hof'.1 hkey (hof'.2.trans (hof.2.symm.trans hkeyed))]
    | human userId =>
        simp only [PlayerRow.isOf, Competitor.names, Bool.and_eq_true, Bool.not_eq_true', decide_eq_true_eq] at hof hof'
        simp only [occupantOfRow, hof.1, hof'.1, hof.2, hof'.2, Bool.false_eq_true, if_false]
  refine List.inj_on_of_nodup_map hseated.occupants ?_ ?_ hsame
  · exact Database.mem_playersOfMatch.2 ⟨hplayer, hmatch.trans hid.symm⟩
  · exact Database.mem_playersOfMatch.2 ⟨hplayer', hid.symm⟩

theorem Server.SeatsAll.knows {hashApiKey : String → String} {server : Server} (h : server.SeatsAll hashApiKey)
    {competitor : Competitor} {player : PlayerRow} (hplayer : player ∈ server.database.players.rows)
    (hof : player.isOf competitor) : server.database.Knows competitor :=
  knows_of_keyed (h.keyed player hplayer) hof

section Settling

variable {hashApiKey : String → String} {initial : Competitor → Int} {server next : Server} {matchId : String}
  {elapsed : Nat} {outcome : MatchOutcome} {players : List PlayerRow}
  (hseats : server.SeatsAll hashApiKey)
  (hsettles : Settles server.database next.database matchId (server.readClock elapsed) outcome players)

include hsettles

theorem Settles.rated (h : server.Rated initial)
    (henrolments : next.database.players.rows.map PlayerRow.enrolment =
      server.database.players.rows.map PlayerRow.enrolment)
    (hclock : next.clock = server.readClock elapsed) : next.Rated initial where
  ordered := by
    rw [hsettles.settlements, List.pairwise_append, List.pairwise_map]
    refine ⟨h.ordered, hsettles.listed.imp fun hlt => ?_, ?_⟩
    · exact Prod.Lex.toLex_lt_toLex.2 (Or.inr ⟨rfl, hlt⟩)
    · intro earlier hearlier row hrow
      obtain ⟨player, -, rfl⟩ := List.mem_map.1 hrow
      refine Prod.Lex.toLex_lt_toLex.2 (Or.inl ?_)
      have hpast := h.past earlier hearlier
      change earlier.settledAt < outcome.settledAt
      rw [hsettles.settled_at]
      unfold Server.readClock
      omega
  past := by
    rw [hsettles.settlements, hclock]
    intro row hrow
    rcases List.mem_append.1 hrow with hold | hnew
    · have hpast := h.past row hold
      unfold Server.readClock
      omega
    · obtain ⟨player, -, rfl⟩ := List.mem_map.1 hnew
      exact hsettles.settled_at.le
  applied := by
    rw [hsettles.settlements]
    intro row hrow
    rcases List.mem_append.1 hrow with hold | hnew
    · exact h.applied row hold
    · obtain ⟨player, -, rfl⟩ := List.mem_map.1 hnew
      exact ⟨outcome, player, rfl⟩
  owned := by
    rw [hsettles.settlements]
    intro row hrow
    rcases List.mem_append.1 hrow with hold | hnew
    · obtain ⟨player, hplayer, hid, hmatch, hof⟩ := h.owned row hold
      obtain ⟨player', hplayer', hsame⟩ := exists_enrolled henrolments hplayer
      refine ⟨player', hplayer', hid.trans (id_of_enrolment hsame).symm, hmatch.trans (matchId_of_enrolment hsame).symm, ?_⟩
      exact fun competitor => (hof competitor).trans (isOf_of_enrolment hsame competitor).symm
    · obtain ⟨player, hplayer, rfl⟩ := List.mem_map.1 hnew
      obtain ⟨hmatch, old, hold, hsame⟩ := hsettles.players_from player hplayer
      obtain ⟨player', hplayer', hsame'⟩ := exists_enrolled henrolments hold
      have henrolled := hsame'.trans hsame.symm
      refine ⟨player', hplayer', (id_of_enrolment henrolled).symm, ?_, ?_⟩
      · exact hsettles.match_id.trans (hmatch.symm.trans (matchId_of_enrolment henrolled).symm)
      · exact fun competitor => (isOf_of_enrolment henrolled competitor).symm
  recorded := hsettles.recorded initial h.recorded
  unsettled := by
    intro player' hplayer' userId hof hnil
    rw [hsettles.settlements, List.filter_append, List.append_eq_nil_iff] at hnil
    obtain ⟨player, hplayer, hsame⟩ := exists_enrolled henrolments.symm hplayer'
    rw [← eloRating_of_enrolment hsame]
    exact h.unsettled player hplayer userId (isOf_of_enrolment hsame _ ▸ hof) hnil.1
  complete := by
    intro player' hplayer' hsettled
    obtain ⟨player, hplayer, hsame⟩ := exists_enrolled henrolments.symm hplayer'
    rw [hsettles.settlements, ← id_of_enrolment hsame]
    rw [← matchId_of_enrolment hsame, Table.keys, hsettles.settled, List.map_append, List.mem_append] at hsettled
    rcases hsettled with hold | hnew
    · obtain ⟨row, hrow, hid⟩ := h.complete player hplayer hold
      exact ⟨row, List.mem_append_left _ hrow, hid⟩
    · obtain ⟨listed, hlisted, henrolled⟩ := hsettles.players_all player hplayer (List.mem_singleton.1 hnew)
      exact ⟨_, List.mem_append_right _ (List.mem_map_of_mem hlisted), id_of_enrolment henrolled⟩

include hseats

/-- Of the players of a match at most one is the competitor's. -/
theorem Settles.players_of (competitor : Competitor) :
    players.filter (·.isOf competitor) = [] ∨
      ∃ player ∈ players, player.isOf competitor ∧ players.filter (·.isOf competitor) = [player] := by
  have hlisted : ∀ player ∈ players.filter (·.isOf competitor), player ∈ players ∧ player.isOf competitor :=
    fun player hplayer => List.mem_filter.1 hplayer
  have hordered := hsettles.listed.sublist (List.filter_sublist (p := (·.isOf competitor)))
  cases hfilter : players.filter (·.isOf competitor) with
  | nil => exact Or.inl rfl
  | cons first rest =>
      rw [hfilter] at hlisted hordered
      obtain ⟨hfirst, hof⟩ := hlisted first List.mem_cons_self
      refine Or.inr ⟨first, hfirst, hof, ?_⟩
      cases rest with
      | nil => rfl
      | cons second rest =>
          obtain ⟨hsecond, hof'⟩ := hlisted second (List.mem_cons_of_mem _ List.mem_cons_self)
          obtain ⟨hmatch, old, hold, hsame⟩ := hsettles.players_from first hfirst
          obtain ⟨hmatch', old', hold', hsame'⟩ := hsettles.players_from second hsecond
          have hone := hseats.single hold hold'
            ((matchId_of_enrolment hsame).symm.trans (hmatch.trans (hmatch'.symm.trans (matchId_of_enrolment hsame'))))
            (isOf_of_enrolment hsame competitor ▸ hof) (isOf_of_enrolment hsame' competitor ▸ hof')
          have hids : first.id = second.id := (id_of_enrolment hsame).trans (hone ▸ (id_of_enrolment hsame').symm)
          exact absurd hids ((List.pairwise_cons.1 hordered).1 second List.mem_cons_self).ne

/-- The settlements follow one another after the step exactly when they did before and each player still has the rating of their competitor. -/
theorem Settles.follows_iff (h : server.Rated initial) (hnext : next.Rated initial)
    (hinitial : ∀ userId, initial (.human userId) = 0) :
    (∀ competitor, RatingsFollow (initial competitor) (next.database.history competitor)) ↔
      (∀ competitor, RatingsFollow (initial competitor) (server.database.history competitor)) ∧
        ∀ player ∈ server.database.players.rows, player.matchId = matchId → ∀ competitor, player.isOf competitor →
          player.eloRating = server.database.ratingOf competitor := by
  have hadded : ∀ competitor, next.database.history competitor = server.database.history competitor ++
      (players.filter (·.isOf competitor)).map (playerSettlement outcome) := by
    intro competitor
    rw [hnext.history_eq, h.history_eq, hsettles.settlements, List.filter_append, List.filter_map]
    rfl
  have hfrom : ∀ competitor player, player.isOf competitor → player ∈ players →
      (Linked PlayerMatchSettlementRow.eloBefore PlayerMatchSettlementRow.eloAfter
        (endOf PlayerMatchSettlementRow.eloAfter (initial competitor) (server.database.history competitor))
        [playerSettlement outcome player] ↔ player.eloRating = server.database.ratingOf competitor) := by
    intro competitor player hof hplayer
    obtain ⟨-, old, hold, hsame⟩ := hsettles.players_from player hplayer
    have hknown := hseats.knows hold (isOf_of_enrolment hsame competitor ▸ hof)
    rw [h.ratingOf_eq hinitial hknown, ← h.history_eq]
    exact and_iff_left trivial
  have hstep : ∀ competitor, RatingsFollow (initial competitor) (next.database.history competitor) ↔
      RatingsFollow (initial competitor) (server.database.history competitor) ∧
        ∀ player ∈ players, player.isOf competitor → player.eloRating = server.database.ratingOf competitor := by
    intro competitor
    rw [hadded, RatingsFollow, linked_append]
    refine and_congr_right fun _ => ?_
    rcases hsettles.players_of hseats competitor with hnil | ⟨player, hplayer, hof, hone⟩
    · rw [hnil]
      refine ⟨fun _ player hplayer hof => ?_, fun _ => trivial⟩
      exact absurd hof (List.filter_eq_nil_iff.1 hnil player hplayer)
    · rw [hone, List.map_singleton, hfrom competitor player hof hplayer]
      constructor
      · intro hrating other hother hof'
        have hmem : other ∈ players.filter (·.isOf competitor) := List.mem_filter.2 ⟨hother, hof'⟩
        rw [hone, List.mem_singleton] at hmem
        rw [hmem, hrating]
      · exact fun hratings => hratings player hplayer hof
  simp only [hstep, forall_and]
  refine and_congr_right fun _ => ?_
  constructor
  · intro hratings old hold hmatch competitor hof
    obtain ⟨player, hplayer, hsame⟩ := hsettles.players_all old hold hmatch
    rw [← eloRating_of_enrolment hsame]
    exact hratings competitor player hplayer (isOf_of_enrolment hsame competitor ▸ hof)
  · intro hratings competitor player hplayer hof
    obtain ⟨hmatch, old, hold, hsame⟩ := hsettles.players_from player hplayer
    rw [eloRating_of_enrolment hsame]
    exact hratings old hold ((matchId_of_enrolment hsame).symm.trans hmatch) competitor
      (isOf_of_enrolment hsame competitor ▸ hof)

end Settling

end IronCouncil
