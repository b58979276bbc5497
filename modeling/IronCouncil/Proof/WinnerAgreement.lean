import IronCouncil.Db.PublicReadAssembly
import IronCouncil.Proof.JoinedPlayers
import IronCouncil.Proof.Restart

/-!
# Winner agreement

Four functions work out who has won a match: one writes the winner into the match's row, one settles the players, and two answer the public pages. When a match of joined players completes they all name the rows of the coalition that leads.
-/

namespace IronCouncil

/-! ### Names of rows and of players -/

theorem not_isUuidText_of_mem {text : String} (char : Char) (hmem : char ∈ text.toList)
    (hchar : isHexDigit char = false) (hother : char ≠ '-' ∧ char ≠ '{' ∧ char ≠ '}') : isUuidText text = false := by
  by_contra h
  rcases isHexDigit_of_isUuidText (by simpa using h) char hmem with hdigit | hsame | hsame | hsame
  · rw [hchar] at hdigit
    cases hdigit
  · exact hother.1 hsame
  · exact hother.2.1 hsame
  · exact hother.2.2 hsame

theorem not_isUuidText_mintedId (n : Nat) : isUuidText (numberedName "alliance-" n) = false := by
  apply not_isUuidText_of_mem 'l' _ (by decide) (by decide)
  unfold numberedName
  simp [toString, String.toList_append]

theorem not_isUuidText_canonicalPlayerId (n : Nat) : isUuidText (canonicalPlayerId n) = false := by
  apply not_isUuidText_of_mem 'p' _ (by decide) (by decide)
  unfold canonicalPlayerId numberedName
  simp [toString, String.toList_append]

/-! ### The rows of a coalition -/

/-- The rows of the match whose players are in a coalition. -/
def coalitionRows (database : Database) (matchId : String) (state : MatchState) (coalitionId : String) :
    List PlayerRow :=
  (database.playersOfMatch matchId).filter fun player =>
    ((persistedPlayerMapping state (database.playersOfMatch matchId)).get? player.id).any fun playerId =>
      coalitionIdOf state playerId = coalitionId

/-- Rows that spell out who is in which alliance: `ids` are the row ids of the alliances. -/
structure RowsInLine (database : Database) (matchId : String) (state : MatchState) (ids : OrdDict String String) :
    Prop where
  rows : ScopedRows matchId (database.playersOfMatch matchId)
  roster : ∀ playerId ∈ state.players.keys, ∃ n, playerId = canonicalPlayerId n
  worn : ∀ playerId allianceId, allianceOf state playerId = some allianceId → allianceId ∈ ids.keys
  minted : ∀ allianceId ∈ ids.keys, ∃ n, allianceId = numberedName "alliance-" n
  drawn : ∀ allianceId rowId, ids.get? allianceId = some rowId →
    isUuidText rowId = true ∧ rowId ∉ database.players.keys ∧
      ∃ alliance, database.alliances.get? rowId = some alliance ∧ alliance.matchId = matchId
  apart : ∀ first second rowId, ids.get? first = some rowId → ids.get? second = some rowId → first = second
  membership : ∀ player ∈ database.playersOfMatch matchId, player.allianceId =
    (((persistedPlayerMapping state (database.playersOfMatch matchId)).get? player.id).bind (allianceOf state)).bind
      ids.get?

/-- A coalition with members, each of whom has a row. -/
structure JoinedCoalition (database : Database) (matchId : String) (state : MatchState) (coalitionId : String) :
    Prop where
  nonempty : ∃ playerId ∈ state.players.keys, coalitionIdOf state playerId = coalitionId
  joined : ∀ playerId ∈ state.players.keys, coalitionIdOf state playerId = coalitionId →
    ∃ player ∈ database.playersOfMatch matchId,
      (persistedPlayerMapping state (database.playersOfMatch matchId)).get? player.id = some playerId

section Coalition

variable {database : Database} {matchId : String} {state : MatchState} {ids : OrdDict String String}
  {coalitionId : String}

theorem mem_coalitionRows {player : PlayerRow} : player ∈ coalitionRows database matchId state coalitionId ↔
    player ∈ database.playersOfMatch matchId ∧ ∃ playerId,
      (persistedPlayerMapping state (database.playersOfMatch matchId)).get? player.id = some playerId ∧
        coalitionIdOf state playerId = coalitionId := by
  simp [coalitionRows, Option.any_eq_true]

theorem coalitionRows_ne_nil (h : JoinedCoalition database matchId state coalitionId) :
    coalitionRows database matchId state coalitionId ≠ [] := by
  obtain ⟨playerId, hplayer, hmember⟩ := h.nonempty
  obtain ⟨player, hrow, hmapped⟩ := h.joined playerId hplayer hmember
  exact List.ne_nil_of_mem (mem_coalitionRows.2 ⟨hrow, playerId, hmapped, hmember⟩)

theorem mem_keys_of_mapped (hrows : ScopedRows matchId (database.playersOfMatch matchId)) {rowId playerId : String}
    (h : (persistedPlayerMapping state (database.playersOfMatch matchId)).get? rowId = some playerId) :
    playerId ∈ state.players.keys := by
  obtain ⟨player, hplayer, -, hcanonical⟩ := (get?_buildPersistedPlayerMapping hrows _ _).1 h
  obtain ⟨joinIndex, hid⟩ := hrows.numbered player hplayer
  rw [hid, canonicalPlayerId_of_scoped] at hcanonical
  split at hcanonical
  · rename_i hmem
    rw [← Option.some.inj hcanonical]
    exact (List.mem_insertionSort _).1 hmem
  · cases hcanonical

theorem mapped_unique (hrows : ScopedRows matchId (database.playersOfMatch matchId)) {first second : PlayerRow}
    (hfirst : first ∈ database.playersOfMatch matchId) (hsecond : second ∈ database.playersOfMatch matchId)
    {playerId : String}
    (h : (persistedPlayerMapping state (database.playersOfMatch matchId)).get? first.id = some playerId)
    (h' : (persistedPlayerMapping state (database.playersOfMatch matchId)).get? second.id = some playerId) :
    first = second := by
  have hfound := playersByCanonical_of_mapped hrows hfirst h
  rw [playersByCanonical_of_mapped hrows hsecond h'] at hfound
  exact (Option.some.inj hfound).symm

/-- A coalition is an alliance, worn by its members and by no one else, or one player without an alliance. -/
inductive CoalitionKind (state : MatchState) (ids : OrdDict String String) (coalitionId : String) : Prop
  | alliance (rowId : String) (row : ids.get? coalitionId = some rowId)
      (members : ∀ playerId ∈ state.players.keys,
        coalitionIdOf state playerId = coalitionId ↔ allianceOf state playerId = some coalitionId)
  | player (known : coalitionId ∈ state.players.keys) (row : ids.get? coalitionId = none)
      (members : ∀ playerId, coalitionIdOf state playerId = coalitionId ↔ playerId = coalitionId)
      (unworn : ∀ playerId, allianceOf state playerId ≠ some coalitionId)

theorem RowsInLine.kind (h : RowsInLine database matchId state ids)
    (hjoined : JoinedCoalition database matchId state coalitionId) : CoalitionKind state ids coalitionId := by
  obtain ⟨member, hmember, hcoalition⟩ := hjoined.nonempty
  unfold coalitionIdOf at hcoalition
  cases hworn : allianceOf state member with
  | some allianceId =>
      rw [hworn, Option.getD_some] at hcoalition
      subst hcoalition
      have hkey := h.worn member allianceId hworn
      obtain ⟨rowId, hrow⟩ := OrdDict.mem_keys.1 hkey
      refine .alliance rowId hrow fun playerId hplayer => ?_
      unfold coalitionIdOf
      cases hother : allianceOf state playerId with
      | some other => simp
      | none =>
          rw [Option.getD_none]
          constructor
          · rintro rfl
            obtain ⟨m, hm⟩ := h.minted playerId hkey
            obtain ⟨n, hn⟩ := h.roster playerId hplayer
            exact absurd (hm.symm.trans hn) (mintedId_ne_canonicalPlayerId m n)
          · intro hnone
            cases hnone
  | none =>
      rw [hworn, Option.getD_none] at hcoalition
      subst hcoalition
      obtain ⟨n, hn⟩ := h.roster member hmember
      have hnotKey : member ∉ ids.keys := by
        intro hkey
        obtain ⟨m, hm⟩ := h.minted member hkey
        exact mintedId_ne_canonicalPlayerId m n (hm.symm.trans hn)
      have hunworn : ∀ playerId, allianceOf state playerId ≠ some member := fun playerId hplayer =>
        hnotKey (h.worn playerId member hplayer)
      refine .player hmember (OrdDict.get?_eq_none.2 hnotKey) (fun playerId => ?_) hunworn
      unfold coalitionIdOf
      constructor
      · intro hsame
        cases hother : allianceOf state playerId with
        | some other =>
            rw [hother, Option.getD_some] at hsame
            exact absurd (hother.trans (congrArg some hsame)) (hunworn playerId)
        | none =>
            rw [hother, Option.getD_none] at hsame
            exact hsame
      · rintro rfl
        rw [hworn, Option.getD_none]

theorem RowsInLine.not_isUuidText (h : RowsInLine database matchId state ids)
    (hkind : CoalitionKind state ids coalitionId) : isUuidText coalitionId = false := by
  cases hkind with
  | alliance rowId row members =>
      obtain ⟨n, rfl⟩ := h.minted coalitionId (OrdDict.mem_keys_of_get? row)
      exact not_isUuidText_mintedId n
  | player known row members unworn =>
      obtain ⟨n, rfl⟩ := h.roster coalitionId known
      exact not_isUuidText_canonicalPlayerId n

/-- No row names a coalition by the id it has in the state. -/
theorem RowsInLine.allianceId_ne (h : RowsInLine database matchId state ids)
    (hkind : CoalitionKind state ids coalitionId) {player : PlayerRow}
    (hplayer : player ∈ database.playersOfMatch matchId) : player.allianceId ≠ some coalitionId := by
  intro hsame
  rw [h.membership player hplayer] at hsame
  obtain ⟨allianceId, -, hrow⟩ := Option.bind_eq_some_iff.1 hsame
  have huuid := (h.drawn allianceId coalitionId hrow).1
  rw [h.not_isUuidText hkind] at huuid
  cases huuid

/-! ### Settlement -/

theorem RowsInLine.isMember_eq (h : RowsInLine database matchId state ids)
    (hkind : CoalitionKind state ids coalitionId) {player : PlayerRow}
    (hplayer : player ∈ database.playersOfMatch matchId) :
    playerIsMemberOfWinner state (persistedPlayerMapping state (database.playersOfMatch matchId)) coalitionId player =
      ((persistedPlayerMapping state (database.playersOfMatch matchId)).get? player.id).any fun playerId =>
        allianceOf state playerId = some coalitionId := by
  unfold playerIsMemberOfWinner
  rw [decide_eq_false (h.allianceId_ne hkind hplayer), Bool.false_or]
  cases hmapped : (persistedPlayerMapping state (database.playersOfMatch matchId)).get? player.id with
  | none => rfl
  | some playerId =>
      obtain ⟨playerState, hstate⟩ := OrdDict.mem_keys.1 (mem_keys_of_mapped h.rows hmapped)
      simp only [Option.bind_some, hstate, Option.any_some, allianceOf_self hstate]

/-- The first candidate is the leader, and it names the leader's rows. -/
theorem RowsInLine.winnerPlayerIds_eq (h : RowsInLine database matchId state ids)
    (hjoined : JoinedCoalition database matchId state coalitionId)
    (hleading : state.victory.leadingAlliance = some coalitionId) (matchRow : MatchRow) :
    winnerPlayerIds matchRow state (persistedPlayerMapping state (database.playersOfMatch matchId))
        (database.playersOfMatch matchId) =
      (coalitionRows database matchId state coalitionId).map (·.id) := by
  have hkind := h.kind hjoined
  have hfirst : ∃ candidates, winnerIdentityCandidates matchRow state = coalitionId :: candidates := by
    unfold winnerIdentityCandidates
    rw [hleading]
    split
    · rename_i hnone _
      cases hnone
    · rename_i leading hsome _
      cases hsome
      exact ⟨[], rfl⟩
    · rename_i hnone _
      cases hnone
    · rename_i leading _ hsome _
      cases hsome
      split
      · exact ⟨_, rfl⟩
      · exact ⟨_, rfl⟩
  obtain ⟨candidates, hcandidates⟩ := hfirst
  have hids : (coalitionRows database matchId state coalitionId).map (·.id) ≠ [] :=
    mt List.map_eq_nil_iff.1 (coalitionRows_ne_nil hjoined)
  have hmembers : (database.playersOfMatch matchId).filter
      (playerIsMemberOfWinner state (persistedPlayerMapping state (database.playersOfMatch matchId)) coalitionId) =
        (database.playersOfMatch matchId).filter fun player =>
          ((persistedPlayerMapping state (database.playersOfMatch matchId)).get? player.id).any fun playerId =>
            allianceOf state playerId = some coalitionId :=
    List.filter_congr fun player hplayer => h.isMember_eq hkind hplayer
  unfold winnerPlayerIds
  rw [hcandidates, List.findSome?_cons]
  simp only [List.findSome?_cons, List.findSome?_nil, hmembers]
  cases hkind with
  | alliance rowId row members =>
      have hsame : (database.playersOfMatch matchId).filter (fun player =>
          ((persistedPlayerMapping state (database.playersOfMatch matchId)).get? player.id).any fun playerId =>
            allianceOf state playerId = some coalitionId) = coalitionRows database matchId state coalitionId := by
        apply List.filter_congr
        intro player hplayer
        cases hmapped : (persistedPlayerMapping state (database.playersOfMatch matchId)).get? player.id with
        | none => rfl
        | some playerId => simp [members playerId (mem_keys_of_mapped h.rows hmapped)]
      rw [hsame, if_neg hids]
      rfl
  | player known row members unworn =>
      have hnone : (database.playersOfMatch matchId).filter (fun player =>
          ((persistedPlayerMapping state (database.playersOfMatch matchId)).get? player.id).any fun playerId =>
            allianceOf state playerId = some coalitionId) = [] := by
        simp [unworn]
      have hnotId : (database.playersOfMatch matchId).filter (fun player => player.id = coalitionId) = [] := by
        apply List.filter_eq_nil_iff.2
        intro player hplayer hid
        obtain ⟨joinIndex, hscoped⟩ := h.rows.numbered player hplayer
        obtain ⟨n, hn⟩ := h.roster coalitionId known
        exact scoped_ne_canonicalPlayerId matchId joinIndex n
          (hscoped.symm.trans ((of_decide_eq_true hid).trans hn))
      have hsame : (database.playersOfMatch matchId).filter (fun player =>
          (persistedPlayerMapping state (database.playersOfMatch matchId)).get? player.id = some coalitionId) =
            coalitionRows database matchId state coalitionId := by
        apply List.filter_congr
        intro player hplayer
        cases hmapped : (persistedPlayerMapping state (database.playersOfMatch matchId)).get? player.id with
        | none => simp
        | some playerId => simp [members playerId]
      rw [hnone, hnotId, hsame, if_neg hids]
      rfl

/-! ### The winner in the match's row -/

/-- What the winner written into a match's row stands for: the members of an alliance, or one player's row. -/
inductive WinnerResolves (database : Database) (matchId : String) (winners : List PlayerRow) (winner : String) : Prop
  | alliance {alliance : AllianceRow} (found : database.alliances.get? winner = some alliance)
      (ofMatch : alliance.matchId = matchId) (notPlayer : winner ∉ database.players.keys)
      (members : ∀ player ∈ database.playersOfMatch matchId, player.allianceId = some winner ↔ player ∈ winners)
  | player {player : PlayerRow} (found : database.players.get? winner = some player) (ofMatch : player.matchId = matchId)
      (only : winners = [player]) (noAlliance : ∀ other ∈ database.playersOfMatch matchId, other.allianceId ≠ some winner)

theorem RowsInLine.winner_resolves (h : RowsInLine database matchId state ids)
    (hjoined : JoinedCoalition database matchId state coalitionId)
    {advancedTick : AdvancedMatchTick} (hstate : advancedTick.nextState = state)
    (hleading : getTerminalWinnerAlliance advancedTick = some coalitionId) {winnerAlliance : Option String}
    (hwinner : resolveTerminalWinnerCoalitionId matchId database advancedTick ids = .ok winnerAlliance) :
    ∃ winner, winnerAlliance = some winner ∧
      WinnerResolves database matchId (coalitionRows database matchId state coalitionId) winner := by
  unfold resolveTerminalWinnerCoalitionId at hwinner
  rw [hleading] at hwinner
  dsimp only at hwinner
  cases h.kind hjoined with
  | alliance rowId row members =>
      rw [row] at hwinner
      cases hwinner
      obtain ⟨-, hnotPlayer, alliance, hfound, hmatch⟩ := h.drawn coalitionId rowId row
      refine ⟨rowId, rfl, .alliance hfound hmatch hnotPlayer fun player hplayer => ?_⟩
      rw [h.membership player hplayer, mem_coalitionRows]
      constructor
      · intro hmember
        obtain ⟨allianceId, hworn, hrow⟩ := Option.bind_eq_some_iff.1 hmember
        obtain ⟨playerId, hmapped, hworn⟩ := Option.bind_eq_some_iff.1 hworn
        rw [h.apart allianceId coalitionId rowId hrow row] at hworn
        exact ⟨hplayer, playerId, hmapped, (members playerId (mem_keys_of_mapped h.rows hmapped)).2 hworn⟩
      · rintro ⟨-, playerId, hmapped, hcoalition⟩
        have hworn := (members playerId (mem_keys_of_mapped h.rows hmapped)).1 hcoalition
        rw [hmapped, Option.bind_some, hworn, Option.bind_some, row]
  | player known row members unworn =>
      rw [row] at hwinner
      dsimp only at hwinner
      split at hwinner
      · rename_i entry hentry
        cases hwinner
        have hvalue : entry.2 = coalitionId := by simpa using List.find?_some hentry
        have hmapped : (persistedPlayerMapping state (database.playersOfMatch matchId)).get? entry.1 =
            some coalitionId := by
          rw [OrdDict.get?_eq_some, ← hvalue, ← hstate]
          exact List.mem_of_find?_eq_some hentry
        obtain ⟨player, hplayer, hid, -⟩ := (get?_buildPersistedPlayerMapping h.rows _ _).1 hmapped
        rw [← hid] at hmapped ⊢
        have hstored := Database.mem_playersOfMatch.1 hplayer
        have hfound : database.players.get? player.id = some player := Table.get?_eq_some.2 ⟨hstored.1, rfl⟩
        refine ⟨player.id, rfl, .player hfound hstored.2 ?_ ?_⟩
        · have hnodup := (List.Nodup.of_map _ h.rows.distinct).filter fun player =>
            ((persistedPlayerMapping state (database.playersOfMatch matchId)).get? player.id).any fun playerId =>
              coalitionIdOf state playerId = coalitionId
          apply List.perm_singleton.1
          refine (List.perm_ext_iff_of_nodup hnodup (List.nodup_singleton player)).2 fun other => ?_
          rw [List.mem_singleton]
          change other ∈ coalitionRows database matchId state coalitionId ↔ _
          rw [mem_coalitionRows]
          constructor
          · rintro ⟨hother, playerId, hotherMapped, hcoalition⟩
            rw [(members playerId).1 hcoalition] at hotherMapped
            exact mapped_unique h.rows hother hplayer hotherMapped hmapped
          · rintro rfl
            exact ⟨hplayer, coalitionId, hmapped, (members coalitionId).2 rfl⟩
        · intro other hother hmember
          rw [h.membership other hother] at hmember
          obtain ⟨allianceId, -, hrow⟩ := Option.bind_eq_some_iff.1 hmember
          exact (h.drawn allianceId player.id hrow).2.1 (List.mem_map_of_mem hstored.1)
      · cases hwinner

/-! ### The public pages -/

/-- The rows of completed matches that a public page reads, those of the match among them, each once. -/
structure ListsMatch (database : Database) (matchId : String) (listed : List PlayerRow) : Prop where
  stored : ∀ player ∈ listed, player ∈ database.players.rows
  complete : ∀ player ∈ database.playersOfMatch matchId, player ∈ listed
  nodup : listed.Nodup

section Pages

variable {listed : List PlayerRow} {winners : List PlayerRow} {winner : String} {matchRow : MatchRow}

theorem get?_playersByMatchAndId (hlisted : ListsMatch database matchId listed) (id playerId : String)
    (player : PlayerRow) : (playersByMatchAndId listed).get? (id, playerId) = some player ↔
      player ∈ listed ∧ player.matchId = id ∧ player.id = playerId := by
  have hindexed : ∀ found, (playersByMatchAndId listed).get? (id, playerId) = some found →
      found ∈ listed ∧ found.matchId = id ∧ found.id = playerId := by
    intro found hfound
    obtain ⟨row, hrow, heq⟩ := List.mem_map.1 (OrdDict.mem_of_get?_ofList hfound)
    cases heq
    exact ⟨hrow, rfl, rfl⟩
  refine ⟨hindexed player, ?_⟩
  rintro ⟨hplayer, hmatch, hid⟩
  have hkey : (id, playerId) ∈ (playersByMatchAndId listed).keys := by
    refine OrdDict.mem_keys_ofList.2 (List.mem_map.2 ⟨((player.matchId, player.id), player), ?_, ?_⟩)
    · exact List.mem_map_of_mem hplayer
    · exact Prod.ext hmatch hid
  obtain ⟨found, hfound⟩ := OrdDict.mem_keys.1 hkey
  obtain ⟨hmem, -, hfoundId⟩ := hindexed found hfound
  rw [hfound, Table.eq_of_key (hlisted.stored found hmem) (hlisted.stored player hplayer) (hfoundId.trans hid.symm)]

theorem mem_listed (hlisted : ListsMatch database matchId listed) {player : PlayerRow} :
    player ∈ listed ∧ player.matchId = matchId ↔ player ∈ database.playersOfMatch matchId := by
  constructor
  · rintro ⟨hplayer, hmatch⟩
    exact Database.mem_playersOfMatch.2 ⟨hlisted.stored player hplayer, hmatch⟩
  · intro hplayer
    exact ⟨hlisted.complete player hplayer, (Database.mem_playersOfMatch.1 hplayer).2⟩

theorem WinnerResolves.winningPlayers_perm (h : WinnerResolves database matchId winners winner)
    (hwinners : winners ≠ []) (hsubset : winners ⊆ database.playersOfMatch matchId) (hnodup : winners.Nodup)
    (hlisted : ListsMatch database matchId listed) (hid : matchRow.id = matchId)
    (hrow : matchRow.winnerAlliance = some winner) : (winningPlayers matchRow listed).Perm winners := by
  have hmembers : ∀ player, player ∈ playersByMatchAndAlliance listed matchId winner ↔
      player ∈ database.playersOfMatch matchId ∧ player.allianceId = some winner := by
    intro player
    rw [playersByMatchAndAlliance, List.mem_filter, decide_eq_true_eq, ← and_assoc, mem_listed hlisted]
  unfold winningPlayers
  rw [hrow, hid]
  dsimp only
  cases h with
  | alliance found ofMatch notPlayer members =>
      have hsame : (playersByMatchAndAlliance listed matchId winner).Perm winners := by
        refine (List.perm_ext_iff_of_nodup (hlisted.nodup.filter _) hnodup).2 fun player => ?_
        refine (hmembers player).trans ?_
        constructor
        · rintro ⟨hplayer, hmember⟩
          exact (members player hplayer).1 hmember
        · intro hplayer
          exact ⟨hsubset hplayer, (members player (hsubset hplayer)).2 hplayer⟩
      have hne : playersByMatchAndAlliance listed matchId winner ≠ [] := by
        intro hnil
        rw [hnil] at hsame
        exact hwinners hsame.nil_eq.symm
      rw [if_pos hne]
      exact hsame
  | @player player found ofMatch only noAlliance =>
      have hnil : playersByMatchAndAlliance listed matchId winner = [] := by
        apply List.eq_nil_iff_forall_not_mem.2
        intro other hother
        obtain ⟨hother, hmember⟩ := (hmembers other).1 hother
        exact noAlliance other hother hmember
      have hplayer : player ∈ database.playersOfMatch matchId :=
        Database.mem_playersOfMatch.2 ⟨Table.mem_rows_of_get? found, ofMatch⟩
      rw [if_neg (not_not.2 hnil), (get?_playersByMatchAndId hlisted _ _ player).2
        ⟨hlisted.complete player hplayer, ofMatch, Table.key_of_get? found⟩, only]
      exact List.Perm.refl _

theorem WinnerResolves.winnerIdentity_eq (h : WinnerResolves database matchId winners winner)
    (hlisted : ListsMatch database matchId listed) (hid : matchRow.id = matchId)
    (hrow : matchRow.winnerAlliance = some winner) {player : PlayerRow}
    (hplayer : player ∈ database.playersOfMatch matchId) :
    winnerIdentityForPlayer matchRow player (playersByMatchAndId listed) =
      some (if player ∈ winners then .win else .loss) := by
  unfold winnerIdentityForPlayer
  rw [hrow, hid]
  dsimp only
  cases h with
  | alliance found ofMatch notPlayer members =>
      have hnone : (playersByMatchAndId listed).get? (matchId, winner) = none := by
        rw [Option.eq_none_iff_forall_ne_some]
        intro other hother
        obtain ⟨hmem, -, hotherId⟩ := (get?_playersByMatchAndId hlisted _ _ _).1 hother
        exact notPlayer (List.mem_map.2 ⟨other, hlisted.stored other hmem, hotherId⟩)
      rw [hnone]
      by_cases hmember : player ∈ winners
      · rw [if_pos ((members player hplayer).2 hmember), if_pos hmember]
      · rw [if_neg (mt (members player hplayer).1 hmember), if_neg hmember]
  | @player winnerPlayer found ofMatch only noAlliance =>
      have hwinner : winnerPlayer ∈ database.playersOfMatch matchId :=
        Database.mem_playersOfMatch.2 ⟨Table.mem_rows_of_get? found, ofMatch⟩
      rw [if_neg (noAlliance player hplayer), (get?_playersByMatchAndId hlisted _ _ winnerPlayer).2
        ⟨hlisted.complete winnerPlayer hwinner, ofMatch, Table.key_of_get? found⟩, only]
      dsimp only
      by_cases hsame : player.id = winnerPlayer.id
      · have hrows := Table.eq_of_key (Database.mem_playersOfMatch.1 hplayer).1 (Table.mem_rows_of_get? found) hsame
        rw [if_pos hsame, if_pos (List.mem_singleton.2 hrows)]
      · rw [if_neg hsame, if_neg fun hrows => hsame (congrArg PlayerRow.id (List.mem_singleton.1 hrows))]

end Pages

end Coalition

/-! ### The settled outcomes -/

section Outcomes

variable {outcome : MatchOutcome} {db db' : Database}

theorem playerMatchSettlements_recordKeyElo (settlement : PlayerMatchSettlementRow) :
    (recordKeyElo db settlement).playerMatchSettlements = db.playerMatchSettlements := by
  unfold recordKeyElo
  split
  · rfl
  · rfl

theorem get?_settlePlayer {player : PlayerRow} (h : settlePlayer outcome db player = .ok db') (playerId : String) :
    db'.playerMatchSettlements.get? playerId =
      if playerId = player.id then some (playerSettlement outcome player) else db.playerMatchSettlements.get? playerId := by
  obtain ⟨playerMatchSettlements, hadd, rfl⟩ := settlePlayer_eq_ok h
  obtain ⟨hfresh, hrows⟩ := sessionAdd_eq_ok hadd
  rw [playerMatchSettlements_recordKeyElo]
  exact Table.get?_append hfresh hrows playerId

/-- Each player is settled once. -/
theorem get?_settlePlayers {players : List PlayerRow} (hdistinct : (players.map (·.id)).Nodup)
    (h : players.foldlM (settlePlayer outcome) db = .ok db') {player : PlayerRow} (hplayer : player ∈ players) :
    db'.playerMatchSettlements.get? player.id = some (playerSettlement outcome player) := by
  induction players generalizing db with
  | nil => cases hplayer
  | cons first players ih =>
      obtain ⟨next, hfirst, hrest⟩ := Run.foldlM_cons_eq_ok h
      obtain ⟨hfresh, hdistinct⟩ := List.nodup_cons.1 hdistinct
      rcases List.mem_cons.1 hplayer with rfl | hplayer
      · refine Run.invariant_foldlM_of_admitted (C := fun later : PlayerRow => later.id ≠ player.id)
          (I := fun settled : Database =>
            settled.playerMatchSettlements.get? player.id = some (playerSettlement outcome player)) ?_ ?_ hrest ?_
        · intro before later after hother hstep hbefore
          rw [get?_settlePlayer hstep, if_neg (Ne.symm hother)]
          exact hbefore
        · intro later hlater hsame
          exact hfresh (List.mem_map.2 ⟨later, hlater, hsame⟩)
        · rw [get?_settlePlayer hfirst, if_pos rfl]
      · exact ih hdistinct hrest hplayer

end Outcomes

/-! ### Joined players -/

/-- The player has a row of the match. -/
def Database.Joined (db : Database) (matchId playerId : String) : Prop :=
  ∃ player ∈ db.players.rows, ∃ joinIndex, player.NumberedIn matchId joinIndex ∧ playerId = canonicalPlayerId joinIndex

/-- The commands of the match come from players who have joined it. -/
def CommandByJoined (matchId : String) (server : Server) : ServerEvent → Prop
  | .command id playerId _ => id = matchId → server.database.Joined matchId playerId
  | _ => True

/-- Ids drawn for so many new rows: UUID text that no player or alliance goes by, each drawn once. -/
structure FreshDraws (newId : Nat → String) (count : Nat) (db : Database) : Prop where
  uuid : ∀ n < count, isUuidText (newId n) = true
  players : ∀ n < count, newId n ∉ db.players.keys
  alliances : ∀ n < count, newId n ∉ db.alliances.keys
  apart : ∀ m < count, ∀ n < count, newId m = newId n → m = n

theorem Database.Joined.of_enrolled {db db' : Database} {matchId playerId : String} (h : db.Joined matchId playerId)
    (hstay : ∀ player ∈ db.players.rows, ∃ player' ∈ db'.players.rows, player'.enrolment = player.enrolment) :
    db'.Joined matchId playerId := by
  obtain ⟨player, hplayer, joinIndex, hnumbered, hid⟩ := h
  obtain ⟨player', hplayer', hsame⟩ := hstay player hplayer
  exact ⟨player', hplayer', joinIndex, hnumbered.of_enrolment hsame, hid⟩

theorem scopedRows_playersOfMatch {db : Database}
    (h : ∀ player ∈ db.players.rows, ∃ joinIndex, player.NumberedIn player.matchId joinIndex) (matchId : String) :
    ScopedRows matchId (db.playersOfMatch matchId) where
  numbered := by
    intro player hplayer
    obtain ⟨hrow, rfl⟩ := Database.mem_playersOfMatch.1 hplayer
    obtain ⟨joinIndex, -, hid⟩ := h player hrow
    exact ⟨joinIndex, hid⟩
  distinct := by
    have hperm := List.perm_insertionSort (fun first second : PlayerRow => first.id ≤ second.id)
      (db.players.rows.filter fun player => player.matchId = matchId)
    exact ((hperm.map _).nodup_iff).2 (db.players.nodup.sublist (List.filter_sublist.map _))

section Joined

variable {hashApiKey : String → String} {variant : StorageVariant} {J : String → Prop} {server : Server}
  {matchId : String}

theorem joined_foldl {playerId : String} (events : List ServerEvent) (h : server.database.Joined matchId playerId) :
    (events.foldl (serverStep hashApiKey variant) server).database.Joined matchId playerId :=
  Run.invariant_foldl (I := fun reached : Server => reached.database.Joined matchId playerId)
    (fun reached event hjoined => hjoined.of_enrolled (players_serverStep reached event)) h events

/-- In a run whose commands to the match come from its joined players, its other slots have done nothing. -/
theorem seated_run (hnone : server.HoldsNoMatch) {events : List ServerEvent}
    (hjoined : ∀ step ∈ Run.steps (serverStep hashApiKey variant) server events, CommandByJoined matchId step.1 step.2) :
    (events.foldl (serverStep hashApiKey variant) server).Holds
      (fun id state => id = matchId →
        Seated ((events.foldl (serverStep hashApiKey variant) server).database.Joined matchId) state)
      (fun record => record.matchId = matchId →
        SeatedRecord ((events.foldl (serverStep hashApiKey variant) server).database.Joined matchId) record) := by
  have hplain : ∀ reached ∈ Run.states (serverStep hashApiKey variant) server events,
      reached.Holds (fun _ _ => True) fun _ => True := hnone.holds_run events
  refine hnone.holds.run (seats_kept _ matchId) ?_ _ (Run.foldl_mem_states _ _)
  rintro ⟨reached, event⟩ hstep
  have hcommand := hjoined _ hstep
  cases event with
  | command id playerId command =>
      intro record hrecord hrecordId
      have hsame := ((hplain reached (Run.fst_mem_states hstep)).live id record hrecord).1
      obtain ⟨before, after, hevents, hreached⟩ := Run.mem_steps.1 hstep
      have hlater := hcommand (hsame.symm.trans hrecordId)
      dsimp only at hreached hlater
      rw [hreached] at hlater
      rw [hevents, List.foldl_append]
      exact joined_foldl _ hlater
  | _ => trivial

end Joined

/-! ### The terminal tick -/

section Terminal

variable {J : String → Prop} {db synced : Database} {matchId : String} {newId : Nat → String} {record : MatchRecord}
  {advancedTick : AdvancedMatchTick} {ids : OrdDict String String} {leading : String}

theorem SeatedRecord.standings (h : SeatedRecord J record)
    (htick : (advanceRegistryTick record).2 = .ok advancedTick) : StandingsCorrect advancedTick.nextState := by
  rw [(advanceRegistryTick_eq_ok htick).2.1]
  cases hsettled : settledBoard record with
  | error error =>
      obtain ⟨result, hresult, -⟩ := Except.map_eq_ok htick
      rw [(advanceMatchTick_of_error hsettled).2] at hresult
      cases hresult
  | ok settled => exact (tick_state hsettled h.seated.apart).2.1

theorem leadingAlliance_of_terminal (h : getTerminalWinnerAlliance advancedTick = some leading) :
    advancedTick.nextState.victory.leadingAlliance = some leading := by
  unfold getTerminalWinnerAlliance at h
  split at h
  · cases h
  · exact h

theorem exists_member_of_leads {state : MatchState} (h : LeadsAlone state leading) :
    ∃ playerId ∈ state.players.keys, coalitionIdOf state playerId = leading := by
  have hpos := h.1
  rw [← card_heldCities] at hpos
  obtain ⟨cityId, hcity⟩ := Finset.card_pos.1 hpos
  obtain ⟨owner, -, hplayer, hcoalition⟩ := mem_heldCities.1 hcity
  exact ⟨owner, hplayer, hcoalition⟩

/-- Rows that are the same but for their alliances go with the same players. -/
theorem playerMapping_congr (hrows : ScopedRows matchId (db.playersOfMatch matchId))
    (hsyncedRows : ScopedRows matchId (synced.playersOfMatch matchId))
    (henrolments : synced.players.rows.map PlayerRow.enrolment = db.players.rows.map PlayerRow.enrolment)
    (state : MatchState) (playerId : String) :
    (persistedPlayerMapping state (synced.playersOfMatch matchId)).get? playerId =
      (persistedPlayerMapping state (db.playersOfMatch matchId)).get? playerId := by
  apply Option.ext
  intro canonical
  refine (get?_buildPersistedPlayerMapping hsyncedRows _ _).trans
    (Iff.trans ?_ (get?_buildPersistedPlayerMapping hrows _ _).symm)
  have hmoved : ∀ {first second : Database},
      second.players.rows.map PlayerRow.enrolment = first.players.rows.map PlayerRow.enrolment →
      (∃ player ∈ first.playersOfMatch matchId, player.id = playerId ∧ canonicalPlayerIdFromPersistedPlayerId
        player.id (state.players.keys.insertionSort (· ≤ ·)) = some canonical) →
      ∃ player ∈ second.playersOfMatch matchId, player.id = playerId ∧ canonicalPlayerIdFromPersistedPlayerId
        player.id (state.players.keys.insertionSort (· ≤ ·)) = some canonical := by
    rintro first second hsame ⟨player, hplayer, hid, hcanonical⟩
    obtain ⟨hrow, hmatch⟩ := Database.mem_playersOfMatch.1 hplayer
    obtain ⟨player', hrow', henrolled⟩ := exists_enrolled hsame hrow
    have hid' := id_of_enrolment henrolled
    exact ⟨player', Database.mem_playersOfMatch.2 ⟨hrow', (matchId_of_enrolment henrolled).trans hmatch⟩,
      hid'.trans hid, hid' ▸ hcanonical⟩
  exact ⟨hmoved henrolments.symm, hmoved henrolments⟩

theorem rowsInLine_of_terminal (hterminal : TerminalRows matchId newId db synced advancedTick ids)
    (hseated : Seated J advancedTick.nextState)
    (hagree : ∀ playerId allianceId, allianceOf advancedTick.nextState playerId = some allianceId →
      allianceId ∈ advancedTick.alliances.map (·.allianceId))
    (hminted : ∀ alliance ∈ advancedTick.alliances, ∃ n, alliance.allianceId = numberedName "alliance-" n)
    (hnumbered : ∀ player ∈ db.players.rows, ∃ joinIndex, player.NumberedIn player.matchId joinIndex)
    (hfree : ∀ player ∈ db.playersOfMatch matchId, player.allianceId = none)
    (hdraws : FreshDraws newId advancedTick.alliances.length db)
    (henrolments : synced.players.rows.map PlayerRow.enrolment = db.players.rows.map PlayerRow.enrolment) :
    RowsInLine synced matchId advancedTick.nextState ids := by
  have hnumbered' : ∀ player ∈ synced.players.rows, ∃ joinIndex, player.NumberedIn player.matchId joinIndex := by
    intro player' hplayer'
    obtain ⟨player, hplayer, hsame⟩ := exists_enrolled henrolments.symm hplayer'
    obtain ⟨joinIndex, hjoin⟩ := hnumbered player hplayer
    rw [matchId_of_enrolment hsame] at hjoin
    exact ⟨joinIndex, hjoin.of_enrolment hsame.symm⟩
  have hrows := scopedRows_playersOfMatch hnumbered matchId
  have hrows' := scopedRows_playersOfMatch hnumbered' matchId
  refine ⟨hrows', hseated.roster, ?_, ?_, ?_, hterminal.apart, ?_⟩
  · intro playerId allianceId hworn
    exact (hterminal.keys allianceId).2 (hagree playerId allianceId hworn)
  · intro allianceId hkey
    obtain ⟨alliance, halliance, rfl⟩ := List.mem_map.1 ((hterminal.keys allianceId).1 hkey)
    exact hminted alliance halliance
  · intro allianceId rowId hrow
    obtain ⟨⟨n, hn, rfl⟩, hfound⟩ := hterminal.row allianceId rowId hrow
    refine ⟨hdraws.uuid n hn, fun hmem => hdraws.players n hn ?_, hfound⟩
    obtain ⟨player', hplayer', hid⟩ := List.mem_map.1 hmem
    obtain ⟨player, hplayer, hsame⟩ := exists_enrolled henrolments.symm hplayer'
    exact List.mem_map.2 ⟨player, hplayer, (id_of_enrolment hsame).trans hid⟩
  · intro player' hplayer'
    obtain ⟨hrow', hmatch'⟩ := Database.mem_playersOfMatch.1 hplayer'
    obtain ⟨player, hrow, hsame⟩ := exists_enrolled henrolments.symm hrow'
    have hid := id_of_enrolment hsame
    have hplayer : player ∈ db.playersOfMatch matchId :=
      Database.mem_playersOfMatch.2 ⟨hrow, (matchId_of_enrolment hsame).trans hmatch'⟩
    have hget' : synced.players.get? player'.id = some player' := Table.get?_eq_some.2 ⟨hrow', rfl⟩
    have hget : db.players.get? player'.id = some player := Table.get?_eq_some.2 ⟨hrow, hid⟩
    rw [playerMapping_congr hrows hrows' henrolments]
    cases hmapped : (persistedPlayerMapping advancedTick.nextState (db.playersOfMatch matchId)).get? player'.id with
    | none =>
        have hsameRow : player' = player := by
          have hkept := hterminal.other player'.id hmapped
          rw [hget', hget] at hkept
          exact Option.some.inj hkept
        rw [hsameRow, hfree player hplayer]
        rfl
    | some canonical =>
        obtain ⟨playerState, hstate⟩ := OrdDict.mem_keys.1 (mem_keys_of_mapped hrows hmapped)
        rw [← hid] at hmapped
        obtain ⟨-, joinedTick, hwritten⟩ := hterminal.member player hplayer canonical playerState hmapped hstate
        rw [hid, hget'] at hwritten
        rw [Option.some.inj hwritten]
        unfold persistedAllianceId
        rw [Option.bind_some, allianceOf_self hstate]
        rfl

theorem joinedCoalition_of_leads (hseated : Seated J advancedTick.nextState) (hcreator : J (canonicalPlayerId 1))
    (hjoined : ∀ playerId, J playerId → db.Joined matchId playerId) (hleads : LeadsAlone advancedTick.nextState leading)
    (hrows : ScopedRows matchId (db.playersOfMatch matchId)) :
    JoinedCoalition db matchId advancedTick.nextState leading := by
  refine ⟨exists_member_of_leads hleads, ?_⟩
  intro playerId hplayer hmember
  obtain ⟨player, hrow, joinIndex, ⟨hmatch, hid⟩, rfl⟩ :=
    hjoined playerId (hseated.joined_of_leads hcreator hleads hplayer hmember)
  have hstored : player ∈ db.playersOfMatch matchId := Database.mem_playersOfMatch.2 ⟨hrow, hmatch⟩
  refine ⟨player, hstored, (get?_buildPersistedPlayerMapping hrows _ _).2 ⟨player, hstored, rfl, ?_⟩⟩
  rw [hid, canonicalPlayerId_of_scoped, if_pos ((List.mem_insertionSort _).2 hplayer)]

end Terminal

/-! ### The tables that winners are read from -/

/-- Databases with the same players and alliances. -/
structure SameRows (db db' : Database) : Prop where
  players : db'.players = db.players
  alliances : db'.alliances = db.alliances

section Same

variable {db db' : Database} {matchId : String} {state : MatchState} {ids : OrdDict String String}
  {coalitionId winner : String}

theorem SameRows.playersOfMatch (h : SameRows db db') (matchId : String) :
    db'.playersOfMatch matchId = db.playersOfMatch matchId := by
  unfold Database.playersOfMatch
  rw [h.players]

theorem SameRows.coalitionRows (h : SameRows db db') :
    coalitionRows db' matchId state coalitionId = coalitionRows db matchId state coalitionId := by
  unfold IronCouncil.coalitionRows
  rw [h.playersOfMatch]

theorem SameRows.rowsInLine (h : SameRows db db') (hrows : RowsInLine db matchId state ids) :
    RowsInLine db' matchId state ids where
  rows := h.playersOfMatch matchId ▸ hrows.rows
  roster := hrows.roster
  worn := hrows.worn
  minted := hrows.minted
  drawn := by
    rw [h.players, h.alliances]
    exact hrows.drawn
  apart := hrows.apart
  membership := by
    rw [h.playersOfMatch]
    exact hrows.membership

theorem SameRows.joinedCoalition (h : SameRows db db') (hjoined : JoinedCoalition db matchId state coalitionId) :
    JoinedCoalition db' matchId state coalitionId where
  nonempty := hjoined.nonempty
  joined := by
    rw [h.playersOfMatch]
    exact hjoined.joined

theorem SameRows.winnerResolves (h : SameRows db db')
    (hresolves : WinnerResolves db matchId (IronCouncil.coalitionRows db matchId state coalitionId) winner) :
    WinnerResolves db' matchId (IronCouncil.coalitionRows db' matchId state coalitionId) winner := by
  rw [h.coalitionRows]
  cases hresolves with
  | alliance found ofMatch notPlayer members =>
      exact .alliance (h.alliances ▸ found) ofMatch (h.players ▸ notPlayer) (h.playersOfMatch matchId ▸ members)
  | player found ofMatch only noAlliance =>
      exact .player (h.players ▸ found) ofMatch only (h.playersOfMatch matchId ▸ noAlliance)

end Same

/-! ### Agreement -/

/-- The four answers to who has won, against the coalition that led when the match completed. -/
structure WinnersAgree (hashApiKey casefold : String → String) (database : Database) (matchId : String)
    (state : MatchState) (leading : String) : Prop where
  coalition : JoinedCoalition database matchId state leading
  recorded : ∃ row winner, database.matchRows.get? matchId = some row ∧ row.status = .completed ∧ row.state = state ∧
    row.winnerAlliance = some winner ∧
    WinnerResolves database matchId (coalitionRows database matchId state leading) winner
  settled : ∀ player ∈ database.playersOfMatch matchId, ∃ settlement,
    database.playerMatchSettlements.get? player.id = some settlement ∧ settlement.matchId = matchId ∧
      settlement.outcome = if player ∈ coalitionRows database matchId state leading then .win else .loss
  identity : ∀ row listed, database.matchRows.get? matchId = some row → ListsMatch database matchId listed →
    ∀ player ∈ database.playersOfMatch matchId, winnerIdentityForPlayer row player (playersByMatchAndId listed) =
      some (if player ∈ coalitionRows database matchId state leading then .win else .loss)
  names : ∀ row listed, database.matchRows.get? matchId = some row → ListsMatch database matchId listed →
    (winningPlayerDisplayNames row listed).Perm
      ((coalitionRows database matchId state leading).map (·.displayName))
  competitors : ∀ row listed apiKeyRows, database.matchRows.get? matchId = some row →
    ListsMatch database matchId listed → (winningCompetitors hashApiKey casefold row listed apiKeyRows).Perm
      (buildPublicCompetitorSummaries hashApiKey casefold (coalitionRows database matchId state leading) apiKeyRows)

theorem buildPublicCompetitorSummaries_perm {hashApiKey casefold : String → String} {players players' : List PlayerRow}
    (h : players.Perm players') (apiKeyRows : List ApiKeyRow) :
    (buildPublicCompetitorSummaries hashApiKey casefold players apiKeyRows).Perm
      (buildPublicCompetitorSummaries hashApiKey casefold players' apiKeyRows) :=
  ((List.perm_insertionSort _ players).trans (h.trans (List.perm_insertionSort _ players').symm)).map _

/-- Rows in line with a joined coalition make the answers agree, once its match has been settled by them. -/
theorem winnersAgree_of_rowsInLine {hashApiKey casefold : String → String} {database : Database} {matchId : String}
    {state : MatchState} {ids : OrdDict String String} {leading winner : String} {row : MatchRow}
    (hrows : RowsInLine database matchId state ids) (hjoined : JoinedCoalition database matchId state leading)
    (hresolves : WinnerResolves database matchId (coalitionRows database matchId state leading) winner)
    (hrow : database.matchRows.get? matchId = some row) (hstatus : row.status = .completed) (hstate : row.state = state)
    (hwinner : row.winnerAlliance = some winner)
    (hsettled : ∀ player ∈ database.playersOfMatch matchId, ∃ settlement,
      database.playerMatchSettlements.get? player.id = some settlement ∧ settlement.matchId = matchId ∧
        settlement.outcome = outcomeForPlayer player.id ((coalitionRows database matchId state leading).map (·.id))) :
    WinnersAgree hashApiKey casefold database matchId state leading := by
  have hid : row.id = matchId := Table.key_of_get? hrow
  have hsubset : coalitionRows database matchId state leading ⊆ database.playersOfMatch matchId :=
    fun player hplayer => (mem_coalitionRows.1 hplayer).1
  have hne := coalitionRows_ne_nil hjoined
  have hpages : ∀ row' listed, database.matchRows.get? matchId = some row' → ListsMatch database matchId listed →
      (winningPlayers row' listed).Perm (coalitionRows database matchId state leading) := by
    intro row' listed hrow' hlisted
    cases hrow.symm.trans hrow'
    have hnodup := (List.Nodup.of_map _ hrows.rows.distinct).filter fun player =>
      ((persistedPlayerMapping state (database.playersOfMatch matchId)).get? player.id).any fun playerId =>
        coalitionIdOf state playerId = leading
    exact hresolves.winningPlayers_perm hne hsubset hnodup hlisted hid hwinner
  refine ⟨hjoined, ⟨row, winner, hrow, hstatus, hstate, hwinner, hresolves⟩, ?_, ?_, ?_, ?_⟩
  · intro player hplayer
    obtain ⟨settlement, hget, hmatch, houtcome⟩ := hsettled player hplayer
    refine ⟨settlement, hget, hmatch, ?_⟩
    rw [houtcome]
    unfold outcomeForPlayer
    rw [if_neg (mt List.map_eq_nil_iff.1 hne)]
    have hmem : player.id ∈ (coalitionRows database matchId state leading).map (·.id) ↔
        player ∈ coalitionRows database matchId state leading := by
      constructor
      · intro hmem
        obtain ⟨other, hother, hsame⟩ := List.mem_map.1 hmem
        rw [← List.inj_on_of_nodup_map hrows.rows.distinct (hsubset hother) hplayer hsame]
        exact hother
      · exact List.mem_map_of_mem
    by_cases hwon : player ∈ coalitionRows database matchId state leading
    · rw [if_pos (hmem.2 hwon), if_pos hwon]
    · rw [if_neg (mt hmem.1 hwon), if_neg hwon]
  · intro row' listed hrow' hlisted player hplayer
    cases hrow.symm.trans hrow'
    exact hresolves.winnerIdentity_eq hlisted hid hwinner hplayer
  · intro row' listed hrow' hlisted
    exact (List.perm_insertionSort _ _).trans ((hpages row' listed hrow' hlisted).map _)
  · intro row' listed apiKeyRows hrow' hlisted
    exact buildPublicCompetitorSummaries_perm (hpages row' listed hrow' hlisted) apiKeyRows

section Agreement

variable {hashApiKey : String → String} {matchId : String} {newId : Nat → String} {advancedTick : AdvancedMatchTick}
  {leading : String}

/-- What a persisted terminal tick of a match without settlement has written. -/
theorem settled_of_persist {settledAt : Nat} {db db' : Database} {row : MatchRow}
    (hpersist : persistAdvancedMatchTick .sqlite newId settledAt db advancedTick = .ok db')
    (hrow : db.matchRows.get? advancedTick.matchId = some row)
    (hterminal : isTerminalVictoryTick advancedTick = true) (hunsettled : row.id ∉ db.matchSettlements.keys) :
    ∃ synced ids winnerAlliance completed outcome matchSettlements settled,
      syncTerminalAllianceRows row.id newId db advancedTick = .ok (synced, ids) ∧
      resolveTerminalWinnerCoalitionId row.id synced advancedTick ids = .ok winnerAlliance ∧
      completed = writeWinner winnerAlliance (tickedMatchRow advancedTick row) ∧ completed.status = .completed ∧
      outcome.matchRow = completed ∧
      (synced.playersOfMatch row.id ≠ [] → outcome.winnerPlayerIds = winnerPlayerIds completed advancedTick.nextState
        (persistedPlayerMapping advancedTick.nextState (synced.playersOfMatch row.id)) (synced.playersOfMatch row.id)) ∧
      (synced.playersOfMatch row.id).foldlM (settlePlayer outcome)
        { writeMatchRow synced completed with matchSettlements } = .ok settled ∧
      db' = { settled with tickLogs := settled.tickLogs ++ [tickLogRow advancedTick] } := by
  obtain ⟨stored, synced, ids, winnerAlliance, settled, hstored, hsync, hwinner, hsettle, hdb⟩ :=
    persistAdvancedMatchTick_eq_ok hpersist
  obtain rfl := Option.some.inj (hrow.symm.trans hstored)
  have hstatus : (writeWinner winnerAlliance (tickedMatchRow advancedTick row)).status = .completed := if_pos hterminal
  have hnone : db.matchSettlements.get? row.id = none := Table.get?_eq_none.2 hunsettled
  obtain ⟨alliances, players, hsynced, -⟩ := syncTerminalAllianceRows_eq_ok hsync
  rcases settleCompletedMatchIfNeeded_eq_ok hsettle with ⟨-, hopen | hfound | hfound⟩ | ⟨-, hsettled⟩
  · exact absurd hstatus hopen
  · rw [hsynced] at hfound
    exact absurd hnone hfound
  · exact absurd hnone hfound
  · obtain ⟨matchSettlements, outcome, ⟨houtcome, -⟩, hwinners, -, hplayers⟩ := settleMatch_eq_ok hsettled
    exact ⟨synced, ids, winnerAlliance, _, outcome, matchSettlements, settled, hsync, hwinner, rfl, hstatus, houtcome,
      hwinners, hplayers, hdb⟩

section Ending

variable {reached : Server} {P : String → MatchState → Prop} {Q : MatchRecord → Prop} {record : MatchRecord}
  {row : MatchRow}

theorem not_hasCompleted_of_row {db : Database} (hrow : db.matchRows.get? matchId = some row)
    (hopen : row.status ≠ .completed) : ¬ db.HasCompleted matchId := by
  rintro ⟨found, hfound, hcompleted⟩
  cases hrow.symm.trans hfound
  exact hopen hcompleted

/-- A match that is being played has not completed. -/
theorem Server.Holds.incomplete (h : reached.Holds P Q) (hrecord : reached.registry.getMatch matchId = some record)
    (hactive : record.status = .active) : ¬ reached.database.HasCompleted matchId := by
  obtain ⟨-, -, row, hrow, hstatus⟩ := h.live matchId record hrecord
  refine not_hasCompleted_of_row hrow ?_
  rw [hstatus, hactive]
  decide

/-- A match that has not completed is not settled. -/
theorem Server.Holds.unsettled (h : reached.Holds P Q) (hopen : ¬ reached.database.HasCompleted matchId) :
    matchId ∉ reached.database.matchSettlements.keys := by
  intro hmem
  obtain ⟨settlement, hsettlement, rfl⟩ := List.mem_map.1 hmem
  exact hopen (h.settlements settlement hsettlement)

variable (hholds : reached.Holds P fun record => record.matchId = matchId →
    SeatedRecord (reached.database.Joined matchId) record)
  (hrecord : reached.registry.getMatch matchId = some record) (hactive : record.status = .active)

include hholds hrecord hactive

theorem seatedRecord_of_active : SeatedRecord (reached.database.Joined matchId) record := by
  obtain ⟨hid, hseats, -⟩ := hholds.live matchId record hrecord
  exact hseats (by rw [hactive]; decide) hid

variable (hadvanced : (advanceRegistryTick record).2 = .ok advancedTick)

include hadvanced

/-- The terminal state is that of joined players, and their alliances are the live ones. -/
theorem seated_of_advanced : Seated (reached.database.Joined matchId) advancedTick.nextState ∧
    (∀ playerId allianceId, MemberOf advancedTick.alliances playerId allianceId ↔
      allianceOf advancedTick.nextState playerId = some allianceId) ∧
    ∀ alliance ∈ advancedTick.alliances,
      AllianceWellFormed alliance ∧ ∃ n, alliance.allianceId = numberedName "alliance-" n := by
  have hseated := (seatedRecord_of_active hholds hrecord hactive).tick
  obtain ⟨-, hstate, -, halliances⟩ := advanceRegistryTick_eq_ok hadvanced
  rw [hstate, halliances]
  refine ⟨hseated.seated, hseated.agree.member_iff, fun alliance halliance => ?_⟩
  exact ⟨hseated.agree.wellFormed alliance halliance, minted_of_agree hseated.seated hseated.agree halliance⟩

/-- Written alliances and memberships are in line with the state, and the leading coalition has its rows. -/
theorem inLine_of_sync (hleading : getTerminalWinnerAlliance advancedTick = some leading)
    (hdraws : FreshDraws newId advancedTick.alliances.length reached.database) {synced : Database}
    {ids : OrdDict String String}
    (hsync : syncTerminalAllianceRows matchId newId reached.database advancedTick = .ok (synced, ids)) :
    RowsInLine synced matchId advancedTick.nextState ids ∧
      JoinedCoalition synced matchId advancedTick.nextState leading := by
  have hopen := hholds.incomplete hrecord hactive
  obtain ⟨hseated, hagree, hformed⟩ := seated_of_advanced hholds hrecord hactive hadvanced
  have henrolments : synced.players.rows.map PlayerRow.enrolment =
      reached.database.players.rows.map PlayerRow.enrolment := by
    obtain ⟨alliances, players, rfl, henrolments⟩ := syncTerminalAllianceRows_eq_ok hsync
    exact henrolments
  have hterminal := terminalRows_of_sync hsync (Option.isSome_of_eq_some hleading)
    (scopedRows_playersOfMatch hholds.numbered matchId) (by
      intro alliance halliance hsame
      exact hopen (hsame ▸ hholds.alliances alliance halliance))
  have hrows : RowsInLine synced matchId advancedTick.nextState ids := by
    refine rowsInLine_of_terminal hterminal hseated ?_ (fun alliance hmem => (hformed alliance hmem).2) hholds.numbered ?_
      hdraws henrolments
    · intro playerId allianceId hworn
      obtain ⟨alliance, halliance, hsame, -⟩ := (hagree playerId allianceId).2 hworn
      exact List.mem_map.2 ⟨alliance, halliance, hsame⟩
    · intro player hplayer
      obtain ⟨hstored, hsame⟩ := Database.mem_playersOfMatch.1 hplayer
      by_contra hmember
      exact hopen (hsame ▸ hholds.memberships player hstored hmember)
  have hcreator : reached.database.Joined matchId (canonicalPlayerId 1) := by
    obtain ⟨-, -, row, hrow, -⟩ := hholds.live matchId record hrecord
    obtain ⟨player, hplayer, hnumbered⟩ := hholds.players matchId row hrow
    exact ⟨player, hplayer, 1, hnumbered, rfl⟩
  have hleads : LeadsAlone advancedTick.nextState leading :=
    (((seatedRecord_of_active hholds hrecord hactive).standings hadvanced).leader leading).1
      (leadingAlliance_of_terminal hleading)
  exact ⟨hrows, joinedCoalition_of_leads hseated hcreator
    (fun playerId hplayer => hplayer.of_enrolled fun _ hmem => exists_enrolled henrolments hmem) hleads hrows.rows⟩

/-- On a persisted terminal tick of a match of joined players the four answers agree. -/
theorem winnersAgree_of_persist (casefold : String → String)
    (hleading : getTerminalWinnerAlliance advancedTick = some leading)
    (hdraws : FreshDraws newId advancedTick.alliances.length reached.database) {settledAt : Nat} {database : Database}
    (hpersist : persistAdvancedMatchTick .sqlite newId settledAt reached.database advancedTick = .ok database) :
    WinnersAgree hashApiKey casefold database matchId advancedTick.nextState leading := by
  obtain ⟨hid, -, row, hrow, -⟩ := hholds.live matchId record hrecord
  obtain rfl : row.id = matchId := Table.key_of_get? hrow
  have hunsettled := hholds.unsettled (hholds.incomplete hrecord hactive)
  have hmatch : advancedTick.matchId = row.id := (advanceRegistryTick_eq_ok hadvanced).1.trans hid
  obtain ⟨synced, ids, winnerAlliance, completed, outcome, matchSettlements, settled, hsync, hwinner, hcompleted,
    hcompletedStatus, houtcome, hwinners, hplayers, rfl⟩ :=
    settled_of_persist hpersist (by rw [hmatch]; exact hrow) (Option.isSome_of_eq_some hleading) hunsettled
  obtain ⟨hrows, hcoalition⟩ := inLine_of_sync hholds hrecord hactive hadvanced hleading hdraws hsync
  obtain ⟨alliances, players, hsynced, -⟩ := syncTerminalAllianceRows_eq_ok hsync
  obtain ⟨winner, hwritten, hresolves⟩ := hrows.winner_resolves hcoalition rfl hleading hwinner
  have htables : settled.matchTables = { writeMatchRow synced completed with matchSettlements }.matchTables :=
    Run.invariant_foldlM
      (I := fun reached => reached.matchTables = { writeMatchRow synced completed with matchSettlements }.matchTables)
      (fun _ _ _ hstep hkept => (matchTables_settlePlayer hstep).trans hkept) hplayers rfl
  have hsamePlayers : settled.players = synced.players := congrArg (fun tables => tables.2.2.1) htables
  have hsameAlliances : settled.alliances = synced.alliances := congrArg (fun tables => tables.2.1) htables
  have hmatchRow : settled.matchRows.get? row.id = some completed := by
    rw [show settled.matchRows = (writeMatchRow synced completed).matchRows from congrArg Prod.fst htables,
      get?_writeMatchRow, hcompleted, hsynced]
    change (if row.id = row.id then (reached.database.matchRows.get? row.id).map _ else _) = _
    rw [if_pos rfl, hrow]
    rfl
  have hsame : SameRows synced { settled with tickLogs := settled.tickLogs ++ [tickLogRow advancedTick] } :=
    ⟨hsamePlayers, hsameAlliances⟩
  refine winnersAgree_of_rowsInLine (hsame.rowsInLine hrows) (hsame.joinedCoalition hcoalition)
    (hsame.winnerResolves hresolves) hmatchRow hcompletedStatus ?_ ?_ ?_
  · rw [hcompleted]
    rfl
  · rw [hcompleted, hwritten]
    rfl
  · intro player hplayer
    rw [hsame.coalitionRows]
    have hplayer' : player ∈ synced.playersOfMatch row.id := hsame.playersOfMatch row.id ▸ hplayer
    refine ⟨playerSettlement outcome player, get?_settlePlayers hrows.rows.distinct hplayers hplayer', ?_, ?_⟩
    · unfold playerSettlement
      rw [houtcome, hcompleted]
      rfl
    · unfold playerSettlement
      rw [hwinners (List.ne_nil_of_mem hplayer'), hrows.winnerPlayerIds_eq hcoalition
        (leadingAlliance_of_terminal hleading)]

end Ending

end Agreement

end IronCouncil
