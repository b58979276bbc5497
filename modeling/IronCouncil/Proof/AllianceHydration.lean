import IronCouncil.Proof.Restart

/-!
# Alliances after a restart

A starting server derives the alliances from the state and then looks for their names, leaders and ages in the rows. Whatever the rows hold, what it takes from them describes the derived alliances one for one, or nothing is taken. What it does not get past is a stored state that fails its own checks.
-/

namespace IronCouncil

/-! ### One alliance row -/

section Merge

variable {derived : List MatchAlliance}

end Merge

/-! ### All alliances of a match -/

variable (hashApiKey : String → String)

def alliedState : MatchState :=
  { duelState with
    players := OrdDict.ofList
      [("player-1", { duelPlayer "london" with allianceId := some "alliance-1" }),
        ("player-2", { duelPlayer "southampton" with allianceId := some "alliance-1" })] }

def pactRowId : String := "1b6c9d30-7e54-4f28-8a91-c5d2e0f47b63"

def alliedPlayer (joinIndex : Nat) (allianceJoinedTick : Option Nat) : PlayerRow where
  id := buildMatchScopedPlayerId deploymentMatchId joinIndex
  userId := s!"user-{joinIndex}"
  matchId := deploymentMatchId
  displayName := s!"Duellist {joinIndex}"
  isAgent := false
  apiKeyId := none
  eloRating := 1200
  allianceId := some pactRowId
  allianceJoinedTick := allianceJoinedTick

/-- One match whose two players are allied under the leader with a join index. -/
def alliedDatabase (leaderIndex : Nat) : Database where
  matchRows := ⟨[⟨deploymentMatchId, ⟨none, some 2, some 30, 1, 1, none, none⟩, .active, 0, alliedState, none⟩], by decide⟩
  apiKeys := Table.empty
  keyHashes_nodup := List.nodup_nil
  agentEntitlementGrants := Table.empty
  alliances := ⟨[⟨pactRowId, deploymentMatchId, "The Channel Pact", buildMatchScopedPlayerId deploymentMatchId leaderIndex, 4, none⟩],
    List.nodup_singleton _⟩
  players := ⟨[alliedPlayer 1 (some 4), alliedPlayer 2 none], by decide⟩
  matchSettlements := Table.empty
  playerMatchSettlements := Table.empty
  treaties := Table.empty
  tickLogs := []

example :
    (loadPersistedAlliances (alliedDatabase 2) alliedState deploymentMatchId).toOption =
      some [⟨"alliance-1", "The Channel Pact", "player-2", 4, [⟨"player-1", 4⟩, ⟨"player-2", 0⟩]⟩] ∧
    (loadPersistedAlliances (alliedDatabase 3) alliedState deploymentMatchId).toOption = some [] := by
  decide +kernel

/-! ### A state with too little food -/

end IronCouncil
