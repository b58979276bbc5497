import IronCouncil.Db.Hydration

/-!
# Persisting a tick

A resolved tick is written to its match's row and to the tick log. A terminal tick also writes the live alliances, the winner and the settlement. It is one transaction: whatever it raises, the database stays as it was.
-/

namespace IronCouncil

/-! ### Terminal alliances -/

/-- The rows of the canonical players. -/
def persistedPlayersByCanonical (state : MatchState) (players : List PlayerRow) : OrdDict String PlayerRow :=
  OrdDict.ofList <| (mappedPlayers state players).map fun mapped => (mapped.2, mapped.1)

def persistedPlayerIdForCanonicalPlayer (playersByCanonical : OrdDict String PlayerRow) (canonicalPlayerId : String) :
    Except PersistenceError String :=
  match playersByCanonical.get? canonicalPlayerId with
  | none => .error (.valueError
      s!"Canonical player '{canonicalPlayerId}' could not be resolved to a persisted row.")
  | some player => .ok player.id

def persistedMemberIdsForCanonicalAlliance (playersByCanonical : OrdDict String PlayerRow) (alliance : MatchAlliance) :
    Except PersistenceError (List String) :=
  (alliance.members.mapM fun member => persistedPlayerIdForCanonicalPlayer playersByCanonical member.playerId).map idSet

def persistedMemberIdsForAlliance (players : List PlayerRow) (allianceId : String) : List String :=
  idSet ((players.filter fun player => player.allianceId = some allianceId).map (·.id))

def joinedTicksByAllianceAndPlayer (alliances : List MatchAlliance) : OrdDict (String × String) Nat :=
  OrdDict.ofList <| alliances.flatMap fun alliance => alliance.members.map fun member =>
    ((alliance.allianceId, member.playerId), member.joinedTick)

/-- The loop over the live alliances: the alliance rows, the rows' ids by canonical id, and how many ids it has drawn. -/
structure AllianceSync where
  alliances : Table AllianceRow.id
  persistedAllianceIdsByCanonical : OrdDict String String
  matchedAllianceIds : List String
  drawn : Nat

section Sync

variable (matchId : String) (newId : Nat → String)

def writeAlliance (alliance : MatchAlliance) (leaderId : String) (row : AllianceRow) : AllianceRow :=
  { row with name := alliance.name, leaderId := leaderId, formedTick := alliance.formedTick, dissolvedTick := none }

/-- An active row with the same members is taken over; otherwise there is a new row. -/
def syncAlliance (playersByCanonical : OrdDict String PlayerRow)
    (activeAlliancesByMembers : OrdDict (List String) AllianceRow) (sync : AllianceSync) (alliance : MatchAlliance) :
    Except PersistenceError AllianceSync :=
  match persistedMemberIdsForCanonicalAlliance playersByCanonical alliance with
  | .error error => .error error
  | .ok memberIds =>
      match persistedPlayerIdForCanonicalPlayer playersByCanonical alliance.leaderId with
      | .error error => .error error
      | .ok leaderId =>
          let record (alliances : Table AllianceRow.id) (allianceId : String) (drawn : Nat) : AllianceSync :=
            { alliances
              persistedAllianceIdsByCanonical :=
                sync.persistedAllianceIdsByCanonical.insert alliance.allianceId allianceId
              matchedAllianceIds := allianceId :: sync.matchedAllianceIds
              drawn }
          match activeAlliancesByMembers.get? memberIds with
          | some row =>
              .ok (record (sync.alliances.update row.id (writeAlliance alliance leaderId) fun _ => rfl) row.id
                sync.drawn)
          | none =>
              let row : AllianceRow :=
                ⟨newId sync.drawn, matchId, alliance.name, leaderId, alliance.formedTick, none⟩
              match sessionAdd sync.alliances row with
              | .error error => .error error
              | .ok alliances => .ok (record alliances row.id (sync.drawn + 1))

def writeMembership (allianceId : Option String) (joinedTick : Option Nat) (player : PlayerRow) : PlayerRow :=
  { player with allianceId := allianceId, allianceJoinedTick := joinedTick }

/-- Bring the row of a canonical player, if it has one, in line with the state. -/
def syncMembership (playersByCanonical : OrdDict String PlayerRow)
    (persistedAllianceIdsByCanonical : OrdDict String String) (joinedTicks : OrdDict (String × String) Nat)
    (players : Table PlayerRow.id) (entry : String × PlayerState) : Except PersistenceError (Table PlayerRow.id) :=
  match playersByCanonical.get? entry.1, entry.2.allianceId with
  | none, _ => .ok players
  | some player, none => .ok (players.update player.id (writeMembership none none) fun _ => rfl)
  | some player, some canonicalAllianceId =>
      match persistedAllianceIdsByCanonical.get? canonicalAllianceId with
      | none => .error (.valueError
          s!"Terminal alliance '{canonicalAllianceId}' could not be synchronized to persistence.")
      | some allianceId =>
          match joinedTicks.get? (canonicalAllianceId, entry.1) with
          | none => .error (.keyError s!"('{canonicalAllianceId}', '{entry.1}')")
          | some joinedTick =>
              .ok (players.update player.id (writeMembership (some allianceId) (some joinedTick)) fun _ => rfl)

def dissolveAlliance (resolvedTick : Nat) (row : AllianceRow) : AllianceRow :=
  { row with dissolvedTick := some resolvedTick }

/-- Write the live alliances and memberships of a terminal tick to the rows. -/
def syncTerminalAllianceRows (db : Database) (advancedTick : AdvancedMatchTick) :
    Except PersistenceError (Database × OrdDict String String) :=
  if getTerminalWinnerAlliance advancedTick = none then .ok (db, OrdDict.empty)
  else
    let players := db.playersOfMatch matchId
    let playersByCanonical := persistedPlayersByCanonical advancedTick.nextState players
    let activeAlliances := (db.alliances.rows.filter fun row => row.matchId = matchId ∧ row.dissolvedTick = none).insertionSort
      fun first second => first.id ≤ second.id
    let activeAlliancesByMembers := OrdDict.ofList <| activeAlliances.map fun row =>
      (persistedMemberIdsForAlliance players row.id, row)
    match advancedTick.alliances.foldlM (syncAlliance matchId newId playersByCanonical activeAlliancesByMembers)
        ⟨db.alliances, OrdDict.empty, [], 0⟩ with
    | .error error => .error error
    | .ok sync =>
        let alliances := activeAlliances.foldl (fun alliances row =>
          if row.id ∈ sync.matchedAllianceIds then alliances
          else alliances.update row.id (dissolveAlliance advancedTick.resolvedTick) fun _ => rfl) sync.alliances
        match advancedTick.nextState.players.entries.foldlM (syncMembership playersByCanonical
            sync.persistedAllianceIdsByCanonical (joinedTicksByAllianceAndPlayer advancedTick.alliances)) db.players with
        | .error error => .error error
        | .ok playerTable =>
            .ok ({ db with alliances, players := playerTable }, sync.persistedAllianceIdsByCanonical)

/-- The row id of the winner: an alliance's, or a player's who won alone. -/
def resolveTerminalWinnerCoalitionId (db : Database) (advancedTick : AdvancedMatchTick)
    (persistedAllianceIdsByCanonical : OrdDict String String) : Except PersistenceError (Option String) :=
  match getTerminalWinnerAlliance advancedTick with
  | none => .ok none
  | some winnerAlliance =>
      match persistedAllianceIdsByCanonical.get? winnerAlliance with
      | some allianceId => .ok (some allianceId)
      | none =>
          let mapping := persistedPlayerMapping advancedTick.nextState (db.playersOfMatch matchId)
          match mapping.entries.find? fun entry => entry.2 = winnerAlliance with
          | some entry => .ok (some entry.1)
          | none => .error (.valueError
              "Terminal victory winner coalition could not be resolved from canonical coalition data.")

end Sync

/-! ### The transaction -/

/-- The match's row after a tick, before a winner is written. -/
def tickedMatchRow (advancedTick : AdvancedMatchTick) (matchRow : MatchRow) : MatchRow :=
  { matchRow with
    currentTick := advancedTick.resolvedTick
    state := advancedTick.nextState
    status := if isTerminalVictoryTick advancedTick then .completed else matchRow.status }

def writeWinner (winnerAlliance : Option String) (matchRow : MatchRow) : MatchRow :=
  { matchRow with winnerAlliance := winnerAlliance.or matchRow.winnerAlliance }

def tickLogRow (advancedTick : AdvancedMatchTick) : TickLogRow where
  matchId := advancedTick.matchId
  tick := advancedTick.resolvedTick
  stateSnapshot := advancedTick.nextState
  orders := advancedTick.acceptedOrders.modelDump
  events := advancedTick.events

def writeMatchRow (db : Database) (matchRow : MatchRow) : Database :=
  { db with
    matchRows := db.matchRows.update matchRow.id (fun row => { matchRow with id := row.id }) fun _ => rfl }

/-- `newId` are the ids drawn for new alliance rows and `settledAt` is the clock's reading. -/
def persistAdvancedMatchTick (variant : StorageVariant) (newId : Nat → String) (settledAt : Nat) (db : Database)
    (advancedTick : AdvancedMatchTick) : Except PersistenceError Database :=
  match sessionGet variant db.matchRows advancedTick.matchId with
  | .error error => .error error
  | .ok none => .error (.keyError s!"Match '{advancedTick.matchId}' was not found.")
  | .ok (some stored) =>
      let matchRow := tickedMatchRow advancedTick stored
      match syncTerminalAllianceRows matchRow.id newId db advancedTick with
      | .error error => .error error
      | .ok (synced, persistedAllianceIdsByCanonical) =>
          match resolveTerminalWinnerCoalitionId matchRow.id synced advancedTick persistedAllianceIdsByCanonical with
          | .error error => .error error
          | .ok winnerAlliance =>
              let completed := writeWinner winnerAlliance matchRow
              match settleCompletedMatchIfNeeded variant settledAt db (writeMatchRow synced completed) completed with
              | .error error => .error error
              | .ok settled => .ok { settled with tickLogs := settled.tickLogs ++ [tickLogRow advancedTick] }

/-! ### What persisting does -/

section Effects

variable {variant : StorageVariant} {matchId : String} {newId : Nat → String} {settledAt : Nat}

/-- What a player's row keeps for good: all but its alliance. -/
def PlayerRow.enrolment (player : PlayerRow) : PlayerRow := writeMembership none none player

theorem enrolment_writeMembership (players : Table PlayerRow.id) (id : String) (allianceId : Option String)
    (joinedTick : Option Nat) :
    (players.update id (writeMembership allianceId joinedTick) fun _ => rfl).rows.map PlayerRow.enrolment =
      players.rows.map PlayerRow.enrolment := by
  apply Table.map_update
  exact fun _ => rfl

theorem syncMembership_enrolment {playersByCanonical : OrdDict String PlayerRow}
    {persistedAllianceIdsByCanonical : OrdDict String String} {joinedTicks : OrdDict (String × String) Nat}
    {players players' : Table PlayerRow.id} {entry : String × PlayerState}
    (h : syncMembership playersByCanonical persistedAllianceIdsByCanonical joinedTicks players entry = .ok players') :
    players'.rows.map PlayerRow.enrolment = players.rows.map PlayerRow.enrolment := by
  unfold syncMembership at h
  split at h
  · cases h
    rfl
  · cases h
    exact enrolment_writeMembership _ _ _ _
  · split at h
    · cases h
    · split at h
      · cases h
      · cases h
        exact enrolment_writeMembership _ _ _ _

/-- Writing terminal alliances touches alliance rows and memberships only. -/
theorem syncTerminalAllianceRows_eq_ok {db synced : Database} {advancedTick : AdvancedMatchTick}
    {ids : OrdDict String String} (h : syncTerminalAllianceRows matchId newId db advancedTick = .ok (synced, ids)) :
    ∃ alliances players, synced = { db with alliances, players } ∧
      players.rows.map PlayerRow.enrolment = db.players.rows.map PlayerRow.enrolment := by
  unfold syncTerminalAllianceRows at h
  split at h
  · cases h
    exact ⟨db.alliances, db.players, rfl, rfl⟩
  · dsimp only at h
    split at h
    · cases h
    · split at h
      · cases h
      · rename_i hplayers
        cases h
        refine ⟨_, _, rfl, ?_⟩
        exact Run.invariant_foldlM
          (I := fun players => players.rows.map PlayerRow.enrolment = db.players.rows.map PlayerRow.enrolment)
          (fun players entry players' hstep hkept => (syncMembership_enrolment hstep).trans hkept) hplayers rfl

theorem persistAdvancedMatchTick_eq_ok {db db' : Database} {advancedTick : AdvancedMatchTick}
    (h : persistAdvancedMatchTick variant newId settledAt db advancedTick = .ok db') :
    ∃ stored synced ids winnerAlliance settled,
      db.matchRows.get? advancedTick.matchId = some stored ∧
      syncTerminalAllianceRows stored.id newId db advancedTick = .ok (synced, ids) ∧
      resolveTerminalWinnerCoalitionId stored.id synced advancedTick ids = .ok winnerAlliance ∧
      settleCompletedMatchIfNeeded variant settledAt db
          (writeMatchRow synced (writeWinner winnerAlliance (tickedMatchRow advancedTick stored)))
          (writeWinner winnerAlliance (tickedMatchRow advancedTick stored)) = .ok settled ∧
      db' = { settled with tickLogs := settled.tickLogs ++ [tickLogRow advancedTick] } := by
  unfold persistAdvancedMatchTick at h
  split at h
  · cases h
  · cases h
  · rename_i stored hstored
    dsimp only at h
    split at h
    · cases h
    · rename_i synced ids hsync
      split at h
      · cases h
      · rename_i winnerAlliance hwinner
        split at h
        · cases h
        · rename_i settled hsettled
          cases h
          exact ⟨stored, synced, ids, winnerAlliance, settled, (sessionGet_eq_ok hstored).symm, hsync, hwinner, hsettled,
            rfl⟩

end Effects

end IronCouncil
